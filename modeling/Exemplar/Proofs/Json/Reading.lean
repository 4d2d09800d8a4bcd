import Exemplar.Failure
import Exemplar.Json.Reader

/-!
# Documents that were read

The reader makes a value of the values that it read before: a list of its elements, an object of its
members one by one.  So a property of all documents that are read is a property of the values
without parts that is kept by lists and by setting a member.
-/

namespace Exemplar.Json

/-- A property of the values without parts that lists and objects keep. -/
structure KeptByReading (p : Value → Prop) : Prop where
  null : p .null
  bool : ∀ value, p (.bool value)
  string : ∀ value, p (.string value)
  number : ∀ {negative text number rest},
    readNumber negative text = .ok (number, rest) → p (.number number)
  array : ∀ {elements}, (∀ element ∈ elements, p element) → p (.array elements)
  empty : p (.object [])
  insert : ∀ {key value members}, p value → p (.object members) →
    p (.object (insertMember key value members))

/-- What is read with some fuel has a property. -/
structure Reads (p : Value → Prop) (fuel : Nat) : Prop where
  value : ∀ {depth text value rest}, readValue fuel depth text = .ok (value, rest) → p value
  elements : ∀ {depth first text elements rest},
    readElements fuel depth first text = .ok (elements, rest) → ∀ element ∈ elements, p element
  members : ∀ {depth before first text members rest},
    readMembers fuel depth before first text = .ok (members, rest) →
      p (.object before) → p (.object members)

section Steps

variable {p : Value → Prop} {fuel depth : Nat} {text rest : List Char} (ih : Reads p fuel)

include ih

theorem readValue_kept (hkept : KeptByReading p) {value : Value}
    (h : readValue (fuel + 1) depth text = .ok (value, rest)) : p value := by
  rw [readValue] at h
  split at h
  · cases h
  · split at h
    · obtain ⟨_, -, h⟩ := bind_eq_ok h
      cases h
      exact hkept.null
    iterate 2
      split at h
      · obtain ⟨_, -, h⟩ := bind_eq_ok h
        cases h
        exact hkept.bool _
    split at h
    · obtain ⟨_, -, h⟩ := bind_eq_ok h
      cases h
      exact hkept.string _
    -- numbers with a sign, and those without one
    iterate 2
      split at h
      · obtain ⟨_, hnumber, h⟩ := bind_eq_ok h
        cases h
        exact hkept.number hnumber
    split at h
    · split at h
      · cases h
      · obtain ⟨_, helements, h⟩ := bind_eq_ok h
        cases h
        exact hkept.array (ih.elements helements)
    split at h
    · split at h
      · cases h
      · obtain ⟨_, hmembers, h⟩ := bind_eq_ok h
        cases h
        exact ih.members hmembers hkept.empty
    · cases h

theorem readElements_kept {first : Bool} {elements : List Value}
    (h : readElements (fuel + 1) depth first text = .ok (elements, rest)) :
    ∀ element ∈ elements, p element := by
  rw [readElements] at h
  obtain ⟨separator, -, h⟩ := bind_eq_ok h
  cases separator with
  | none =>
      cases h
      exact fun _ hnone => absurd hnone List.not_mem_nil
  | some text =>
      obtain ⟨⟨value, text⟩, hvalue, h⟩ := bind_eq_ok h
      obtain ⟨⟨values, text⟩, hvalues, h⟩ := bind_eq_ok h
      cases h
      exact List.forall_mem_cons.2 ⟨ih.value hvalue, ih.elements hvalues⟩

theorem readMembers_kept (hkept : KeptByReading p) {before members : Members} {first : Bool}
    (h : readMembers (fuel + 1) depth before first text = .ok (members, rest))
    (hbefore : p (.object before)) : p (.object members) := by
  rw [readMembers] at h
  obtain ⟨separator, -, h⟩ := bind_eq_ok h
  cases separator with
  | none =>
      cases h
      exact hbefore
  | some text =>
      obtain ⟨⟨key, text⟩, -, h⟩ := bind_eq_ok h
      obtain ⟨text, -, h⟩ := bind_eq_ok h
      obtain ⟨⟨value, text⟩, hvalue, h⟩ := bind_eq_ok h
      exact ih.members h (hkept.insert (ih.value hvalue) hbefore)

end Steps

theorem reads_of_kept {p : Value → Prop} (hkept : KeptByReading p) : ∀ fuel, Reads p fuel
  | 0 => ⟨nofun, nofun, nofun⟩
  | fuel + 1 =>
      have ih := reads_of_kept hkept fuel
      ⟨readValue_kept ih hkept, readElements_kept ih, readMembers_kept ih hkept⟩

/-- A property that reading keeps holds of every document that was read. -/
theorem of_parse {p : Value → Prop} (hkept : KeptByReading p) {text : String} {value : Value}
    (h : parse text = .ok value) : p value := by
  obtain ⟨⟨found, rest⟩, hfound, h⟩ := bind_eq_ok h
  have hp := (reads_of_kept hkept _).value hfound
  dsimp only at h
  split at h
  · cases h
    exact hp
  · cases h

end Exemplar.Json
