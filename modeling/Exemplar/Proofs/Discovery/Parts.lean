import Exemplar.Proofs.Discovery.Visits
import Exemplar.Proofs.Json.Parts

/-!
# Objects as parts of their document

Every object that a document puts into a class is a part of the document.
-/

namespace Exemplar.Discovery

open Json

mutual

theorem isPartOf_objectsIn (own element : String) : ∀ value : Value,
    ∀ object ∈ objectsIn own element value, (Value.object object.2).IsPartOf value
  | .null, _, hobject => absurd hobject List.not_mem_nil
  | .bool _, _, hobject => absurd hobject List.not_mem_nil
  | .number _, _, hobject => absurd hobject List.not_mem_nil
  | .string _, _, hobject => absurd hobject List.not_mem_nil
  | .array elements, object, hobject => by
      rw [objectsIn] at hobject
      obtain ⟨value, hmem, hpart⟩ := isPartOf_objectsInElements element elements object hobject
      exact .element hmem hpart
  | .object members, object, hobject => by
      rw [objectsIn] at hobject
      rcases List.mem_cons.1 hobject with rfl | hobject
      · exact .itself
      · obtain ⟨⟨key, value⟩, hmem, hpart⟩ := isPartOf_objectsInMembers members object hobject
        exact .member hmem hpart

theorem isPartOf_objectsInMembers : ∀ members : List (String × Value),
    ∀ object ∈ objectsInMembers members,
      ∃ entry ∈ members, (Value.object object.2).IsPartOf entry.2
  | [], _, hobject => absurd hobject List.not_mem_nil
  | entry :: rest, object, hobject => by
      rw [objectsInMembers] at hobject
      rcases List.mem_append.1 hobject with hobject | hobject
      · exact ⟨entry, List.mem_cons_self, isPartOf_objectsInMember entry object hobject⟩
      · obtain ⟨other, hmem, hpart⟩ := isPartOf_objectsInMembers rest object hobject
        exact ⟨other, List.mem_cons_of_mem _ hmem, hpart⟩

theorem isPartOf_objectsInMember : ∀ entry : String × Value,
    ∀ object ∈ objectsInMember entry, (Value.object object.2).IsPartOf entry.2
  | (_, value), object, hobject => by
      rw [objectsInMember] at hobject
      exact isPartOf_objectsIn _ _ value object hobject

theorem isPartOf_objectsInElements (element : String) : ∀ elements : List Value,
    ∀ object ∈ objectsInElements element elements,
      ∃ value ∈ elements, (Value.object object.2).IsPartOf value
  | [], _, hobject => absurd hobject List.not_mem_nil
  | value :: rest, object, hobject => by
      rw [objectsInElements] at hobject
      rcases List.mem_append.1 hobject with hobject | hobject
      · exact ⟨value, List.mem_cons_self, isPartOf_objectsIn element element value object hobject⟩
      · obtain ⟨other, hmem, hpart⟩ := isPartOf_objectsInElements element rest object hobject
        exact ⟨other, List.mem_cons_of_mem _ hmem, hpart⟩

end

theorem isPartOf_rootObjects {value : Value} {members : Members}
    (h : members ∈ rootObjects value) : (Value.object members).IsPartOf value := by
  cases value with
  | object other =>
      rw [List.mem_singleton.1 h]
      exact .itself
  | array elements =>
      obtain ⟨element, hmem, helement⟩ := List.mem_filterMap.1 h
      cases element with
      | object other =>
          cases helement
          exact .element hmem .itself
      | _ => cases helement
  | _ => exact absurd h List.not_mem_nil

theorem isPartOf_visited {root : String} {value : Value} {object : String × Members}
    (h : object ∈ visited root value) : (Value.object object.2).IsPartOf value := by
  obtain ⟨members, hmembers, hobject⟩ := List.mem_flatMap.1 h
  have hroot := isPartOf_rootObjects hmembers
  rcases List.mem_cons.1 hobject with rfl | hobject
  · exact hroot
  · obtain ⟨⟨key, child⟩, hmem, hpart⟩ := isPartOf_objectsInMembers members object hobject
    exact Value.IsPartOf.trans (.member hmem hpart) hroot

end Exemplar.Discovery
