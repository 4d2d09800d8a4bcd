import Exemplar.Proofs.Discovery.Visits

/-!
# The classes of a document

What is inside an object of a document is an object of the document.  After the walk every class of
the document is known, so that the evidence of every member of every object is settled then.
-/

namespace Exemplar.Discovery

open Json Naming

mutual

/-- The objects inside an object that is listed are listed as well. -/
theorem objectsIn_closed (own element : String) : ∀ value : Value,
    ∀ object ∈ objectsIn own element value, ∀ inner ∈ objectsInMembers object.2,
      inner ∈ objectsIn own element value
  | .null, _, hobject, _, _ => absurd hobject List.not_mem_nil
  | .bool _, _, hobject, _, _ => absurd hobject List.not_mem_nil
  | .number _, _, hobject, _, _ => absurd hobject List.not_mem_nil
  | .string _, _, hobject, _, _ => absurd hobject List.not_mem_nil
  | .array elements, object, hobject, inner, hinner => by
      rw [objectsIn] at hobject ⊢
      exact objectsInElements_closed element elements object hobject inner hinner
  | .object members, object, hobject, inner, hinner => by
      rw [objectsIn] at hobject ⊢
      apply List.mem_cons_of_mem
      rcases List.mem_cons.1 hobject with rfl | hobject
      · exact hinner
      · exact objectsInMembers_closed members object hobject inner hinner

theorem objectsInMembers_closed : ∀ members : List (String × Value),
    ∀ object ∈ objectsInMembers members, ∀ inner ∈ objectsInMembers object.2,
      inner ∈ objectsInMembers members
  | [], _, hobject, _, _ => absurd hobject List.not_mem_nil
  | entry :: rest, object, hobject, inner, hinner => by
      rw [objectsInMembers] at hobject ⊢
      rcases List.mem_append.1 hobject with hobject | hobject
      · exact List.mem_append_left _
          (objectsInMember_closed entry object hobject inner hinner)
      · exact List.mem_append_right _
          (objectsInMembers_closed rest object hobject inner hinner)

theorem objectsInMember_closed : ∀ entry : String × Value,
    ∀ object ∈ objectsInMember entry, ∀ inner ∈ objectsInMembers object.2,
      inner ∈ objectsInMember entry
  | (property, value), object, hobject, inner, hinner => by
      rw [objectsInMember] at hobject ⊢
      exact objectsIn_closed _ _ value object hobject inner hinner

theorem objectsInElements_closed (element : String) : ∀ elements : List Value,
    ∀ object ∈ objectsInElements element elements, ∀ inner ∈ objectsInMembers object.2,
      inner ∈ objectsInElements element elements
  | [], _, hobject, _, _ => absurd hobject List.not_mem_nil
  | value :: rest, object, hobject, inner, hinner => by
      rw [objectsInElements] at hobject ⊢
      rcases List.mem_append.1 hobject with hobject | hobject
      · exact List.mem_append_left _
          (objectsIn_closed element element value object hobject inner hinner)
      · exact List.mem_append_right _
          (objectsInElements_closed element rest object hobject inner hinner)

end

theorem visited_closed {root : String} {value : Value} {object inner : String × Members}
    (hobject : object ∈ visited root value) (hinner : inner ∈ objectsInMembers object.2) :
    inner ∈ visited root value := by
  obtain ⟨members, hmembers, hobject⟩ := List.mem_flatMap.1 hobject
  refine List.mem_flatMap.2 ⟨members, hmembers, List.mem_cons_of_mem _ ?_⟩
  rcases List.mem_cons.1 hobject with rfl | hobject
  · exact hinner
  · exact objectsInMembers_closed members object hobject inner hinner

/-! ## Classes that are known -/

theorem objectsInMember_subset {members : List (String × Value)} {entry : String × Value}
    (hentry : entry ∈ members) {object : String × Members}
    (hobject : object ∈ objectsInMember entry) : object ∈ objectsInMembers members := by
  induction members with
  | nil => exact absurd hentry List.not_mem_nil
  | cons first rest ih =>
      rw [objectsInMembers]
      rcases List.mem_cons.1 hentry with rfl | hentry
      · exact List.mem_append_left _ hobject
      · exact List.mem_append_right _ (ih hentry)

/-- Every step for a value is one of a class with an object in it. -/
theorem className_mem_objectsIn {own element : String} {value : Value} {step : Step}
    (hstep : step ∈ valueSteps own element value) :
    step.className ∈ (objectsIn own element value).map (·.1) := by
  have hname : step.className ∈ comeUp [] ((valueSteps own element value).map Step.className) := by
    rw [comeUp_nil, List.mem_eraseDups]
    exact List.mem_map_of_mem hstep
  rwa [comeUp_valueSteps, comeUp_nil, List.mem_eraseDups] at hname

/-- The classes that are known after the walk are those with an object in the document. -/
theorem knows_discovered {root : String} {value : Value} (hvalue : isRoot value = true)
    (fieldPrefix name : String) :
    (discovered fieldPrefix root value).knows name = true ↔
      name ∈ (visited root value).map (·.1) := by
  rw [knows, Roster.contains_iff_mem, discovered_keys hvalue, List.mem_eraseDups]

/-- After the walk the evidence of every member is settled. -/
theorem evidenceOf_discovered {root name property : String} {value child : Value}
    {members : Members} (hvalue : isRoot value = true) (fieldPrefix : String)
    (hobject : (name, members) ∈ visited root value) (hmember : (property, child) ∈ members) :
    evidenceOf (discovered fieldPrefix root value).knows singular property child =
      .ok (settledEvidence property child) := by
  apply evidenceOf_eq_settled
  intro step hstep
  rw [knows_discovered hvalue]
  obtain ⟨object, hinner, hname⟩ := List.mem_map.1 (className_mem_objectsIn hstep)
  rw [← hname]
  apply List.mem_map_of_mem
  apply visited_closed hobject
  exact objectsInMember_subset hmember hinner

end Exemplar.Discovery
