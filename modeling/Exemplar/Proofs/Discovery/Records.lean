import Exemplar.Proofs.Discovery.Parts

/-!
# The keys of a document

Every key of every object of a document is recorded once, after all that its value holds.  The
records can be listed from the document alone.  In another order they are the members of the objects
that the document puts into its classes.
-/

namespace Exemplar.Discovery

open Json Naming

mutual

/-- The records of the keys in a value, in the order in which they are made.  Classes are given as
for `objectsIn`. -/
def recordsIn (own element : String) : Value → List Occurrence
  | .object members => recordsInMembers own members
  | .array elements => recordsInElements element elements
  | _ => []

def recordsInMembers (owner : String) : List (String × Value) → List Occurrence
  | [] => []
  | entry :: rest => recordsInMember owner entry ++ recordsInMembers owner rest

/-- A key is recorded after the keys in its value. -/
def recordsInMember (owner : String) : String × Value → List Occurrence
  | (property, value) =>
      recordsIn (className property) (className (singular property)) value ++
        [⟨owner, property, value⟩]

def recordsInElements (element : String) : List Value → List Occurrence
  | [] => []
  | value :: rest => recordsIn element element value ++ recordsInElements element rest

end

/-- The records of a document in the order in which they are made. -/
def recorded (root : String) (value : Value) : List Occurrence :=
  (rootObjects value).flatMap (recordsInMembers root)

/-! ## The steps make the records -/

mutual

theorem occurrence?_valueSteps (own element : String) : ∀ value : Value,
    (valueSteps own element value).filterMap Step.occurrence? = recordsIn own element value
  | .null => rfl
  | .bool _ => rfl
  | .number _ => rfl
  | .string _ => rfl
  | .array elements => by
      rw [valueSteps, recordsIn]
      exact occurrence?_elementsSteps element elements
  | .object members => by
      rw [valueSteps, recordsIn, ← occurrence?_membersSteps own members]
      rfl

theorem occurrence?_membersSteps (owner : String) : ∀ members : List (String × Value),
    (membersSteps owner members).filterMap Step.occurrence? = recordsInMembers owner members
  | [] => rfl
  | entry :: rest => by
      rw [membersSteps, recordsInMembers, List.filterMap_append,
        occurrence?_memberSteps owner entry, occurrence?_membersSteps owner rest]

theorem occurrence?_memberSteps (owner : String) : ∀ entry : String × Value,
    (memberSteps owner entry).filterMap Step.occurrence? = recordsInMember owner entry
  | (property, value) => by
      rw [memberSteps, recordsInMember, List.filterMap_append, occurrence?_valueSteps]
      rfl

theorem occurrence?_elementsSteps (element : String) : ∀ elements : List Value,
    (elementsSteps element elements).filterMap Step.occurrence? =
      recordsInElements element elements
  | [] => rfl
  | value :: rest => by
      rw [elementsSteps, recordsInElements, List.filterMap_append, occurrence?_valueSteps,
        occurrence?_elementsSteps element rest]

end

theorem occurrence?_rootSteps (root : String) (value : Value) :
    (rootSteps root value).filterMap Step.occurrence? = recorded root value := by
  unfold rootSteps recorded
  induction rootObjects value with
  | nil => rfl
  | cons members rest ih =>
      rw [List.flatMap_cons, List.flatMap_cons, List.filterMap_append, ih,
        ← occurrence?_membersSteps root members]
      rfl

/-! ## The records are the members of the objects -/

/-- The records of the keys of an object. -/
def recordsOf (object : String × Members) : List Occurrence :=
  object.2.map fun entry => ⟨object.1, entry.1, entry.2⟩

mutual

theorem recordsIn_perm (own element : String) : ∀ value : Value,
    (recordsIn own element value).Perm ((objectsIn own element value).flatMap recordsOf)
  | .null => .refl _
  | .bool _ => .refl _
  | .number _ => .refl _
  | .string _ => .refl _
  | .array elements => by
      rw [recordsIn, objectsIn]
      exact recordsInElements_perm element elements
  | .object members => by
      rw [recordsIn, objectsIn, List.flatMap_cons]
      exact recordsInMembers_perm own members

theorem recordsInMembers_perm (owner : String) : ∀ members : List (String × Value),
    (recordsInMembers owner members).Perm
      (recordsOf (owner, members) ++ (objectsInMembers members).flatMap recordsOf)
  | [] => .refl _
  | (property, value) :: rest => by
      have hvalue := recordsIn_perm (className property) (className (singular property)) value
      have hrest := recordsInMembers_perm owner rest
      rw [recordsInMembers, objectsInMembers, recordsInMember, objectsInMember,
        List.flatMap_append, List.append_assoc]
      have hfirst := List.perm_append_comm_assoc
        (recordsIn (className property) (className (singular property)) value)
        [⟨owner, property, value⟩] (recordsInMembers owner rest)
      have hswap := List.perm_append_comm_assoc
        ((objectsIn (className property) (className (singular property)) value).flatMap recordsOf)
        (recordsOf (owner, rest)) ((objectsInMembers rest).flatMap recordsOf)
      exact hfirst.trans (((hvalue.append hrest).trans hswap).append_left _)

theorem recordsInElements_perm (element : String) : ∀ elements : List Value,
    (recordsInElements element elements).Perm
      ((objectsInElements element elements).flatMap recordsOf)
  | [] => .refl _
  | value :: rest => by
      rw [recordsInElements, objectsInElements, List.flatMap_append]
      exact (recordsIn_perm element element value).append (recordsInElements_perm element rest)

end

/-- The records of a document are the members of the objects of its classes, in another order. -/
theorem recorded_perm (root : String) (value : Value) :
    (recorded root value).Perm ((visited root value).flatMap recordsOf) := by
  unfold recorded visited
  induction rootObjects value with
  | nil => exact .refl _
  | cons members rest ih =>
      rw [List.flatMap_cons, List.flatMap_cons, List.flatMap_append, List.flatMap_cons]
      exact (recordsInMembers_perm root members).append ih

/-! ## Objects that hold a key

No object of a document repeats a key, so that the records of a key in a class are as many as the
objects of the class that hold it. -/

/-- The objects that a document puts into a class. -/
def objectsOf (root : String) (value : Value) (name : String) : List Members :=
  ((visited root value).filter (·.1 == name)).map (·.2)

theorem mem_objectsOf {root name : String} {value : Value} {members : Members} :
    members ∈ objectsOf root value name ↔ (name, members) ∈ visited root value := by
  simp [objectsOf]

theorem distinctKeys_visited (root : String) {value : Value} (hvalue : value.DistinctKeys) :
    ∀ object ∈ visited root value, (object.2.map (·.1)).Nodup := by
  intro object hobject
  have hdistinct := distinctKeys_of_isPartOf (isPartOf_visited hobject) hvalue
  rw [Value.DistinctKeys] at hdistinct
  exact hdistinct.1

/-- An object that does not repeat keys has one member under a key, or none. -/
theorem countP_members {members : Members} (hnodup : (members.map (·.1)).Nodup) (key : String)
    (test : Value → Bool) :
    members.countP (fun entry => entry.1 == key && test entry.2) =
      ((member? key members).any test).toNat := by
  induction members with
  | nil => rfl
  | cons entry rest ih =>
      obtain ⟨first, value⟩ := entry
      obtain ⟨hfirst, hrest⟩ := List.nodup_cons.1 hnodup
      by_cases hkey : first = key
      · subst hkey
        have hnone : rest.countP (fun entry => entry.1 == first && test entry.2) = 0 := by
          apply List.countP_eq_zero.2
          intro entry hentry
          have hne : entry.1 ≠ first := fun h => hfirst (List.mem_map.2 ⟨entry, hentry, h⟩)
          simp [hne]
        rw [List.countP_cons, hnone, member?, List.lookup_cons_self]
        cases htest : test value <;> simp [htest]
      · have hbeq : (key == first) = false := beq_false_of_ne (Ne.symm hkey)
        rw [List.countP_cons, ih hrest, member?, member?, List.lookup_cons, hbeq]
        simp [hkey]

/-- The records of a key in a class that pass a test are as many as the objects of the class that
hold the key with a value that passes it. -/
theorem countP_recorded {root : String} {value : Value} (hvalue : value.DistinctKeys)
    (name key : String) (test : Value → Bool) :
    (recorded root value).countP
        (fun record => record.owner == name && (record.property == key && test record.value)) =
      (objectsOf root value name).countP fun members => (member? key members).any test := by
  rw [(recorded_perm root value).countP_eq, objectsOf]
  have hnodup := distinctKeys_visited root hvalue
  generalize visited root value = objects at hnodup ⊢
  induction objects with
  | nil => rfl
  | cons object rest ih =>
      have hobject := hnodup object List.mem_cons_self
      have hcount : (recordsOf object).countP (fun record =>
          record.owner == name && (record.property == key && test record.value)) =
          if object.1 == name then ((member? key object.2).any test).toNat else 0 := by
        rw [← countP_members hobject, recordsOf, List.countP_map]
        cases hname : object.1 == name <;> simp [Function.comp_def, hname]
      rw [List.flatMap_cons, List.countP_append,
        ih fun other hother => hnodup other (List.mem_cons_of_mem _ hother), hcount]
      cases hname : object.1 == name with
      | false => simp [hname]
      | true =>
          rw [List.filter_cons, hname, if_pos rfl, if_pos rfl, List.map_cons, List.countP_cons,
            Nat.add_comm]
          cases (member? key object.2).any test <;> rfl

end Exemplar.Discovery
