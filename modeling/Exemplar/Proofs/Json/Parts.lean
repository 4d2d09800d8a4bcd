import Exemplar.Proofs.Json.Reading

/-!
# Parts of documents

The parts of a value are the value itself and the parts of its elements and members.  They repeat no
key if the value does not.  Every number in a document that was read was read as a number.
-/

namespace Exemplar.Json

/-- Whether a value stands in another, at any depth, or is the other. -/
inductive Value.IsPartOf (part : Value) : Value → Prop
  | itself : IsPartOf part part
  | element {value : Value} {elements : List Value} (hmem : value ∈ elements)
      (hpart : IsPartOf part value) : IsPartOf part (.array elements)
  | member {key : String} {value : Value} {members : List (String × Value)}
      (hmem : (key, value) ∈ members) (hpart : IsPartOf part value) :
      IsPartOf part (.object members)

open Value

theorem Value.IsPartOf.trans {part value whole : Value} (hpart : IsPartOf part value)
    (hvalue : IsPartOf value whole) : IsPartOf part whole := by
  induction hvalue with
  | itself => exact hpart
  | element hmem _ ih => exact .element hmem ih
  | member hmem _ ih => exact .member hmem ih

/-! ## Keys of parts -/

theorem distinctKeysList_iff {elements : List Value} :
    DistinctKeysList elements ↔ ∀ element ∈ elements, element.DistinctKeys := by
  induction elements with
  | nil => exact iff_of_true trivial fun _ hnone => absurd hnone List.not_mem_nil
  | cons element rest ih => rw [DistinctKeysList, ih, List.forall_mem_cons]

theorem distinctKeysMembers_iff {members : Members} :
    DistinctKeysMembers members ↔ ∀ entry ∈ members, entry.2.DistinctKeys := by
  induction members with
  | nil => exact iff_of_true trivial fun _ hnone => absurd hnone List.not_mem_nil
  | cons entry rest ih =>
      obtain ⟨key, value⟩ := entry
      rw [DistinctKeysMembers, DistinctKeysMember, ih, List.forall_mem_cons]

/-- The parts of a value repeat no key if the value does not. -/
theorem distinctKeys_of_isPartOf {part whole : Value} (hpart : part.IsPartOf whole)
    (hwhole : whole.DistinctKeys) : part.DistinctKeys := by
  induction hpart with
  | itself => exact hwhole
  | element hmem _ ih =>
      rw [DistinctKeys] at hwhole
      exact ih (distinctKeysList_iff.1 hwhole _ hmem)
  | member hmem _ ih =>
      rw [DistinctKeys] at hwhole
      exact ih (distinctKeysMembers_iff.1 hwhole.2 _ hmem)

/-! ## Numbers that were read -/

theorem mem_insertMember {key : String} {value : Value} {members : Members}
    {entry : String × Value} (h : entry ∈ insertMember key value members) :
    entry = (key, value) ∨ entry ∈ members := by
  induction members with
  | nil => exact .inl (List.mem_singleton.1 h)
  | cons first rest ih =>
      obtain ⟨other, old⟩ := first
      rw [insertMember] at h
      split at h
      · exact (List.mem_cons.1 h).imp_right (List.mem_cons_of_mem _)
      · rcases List.mem_cons.1 h with rfl | h
        · exact .inr List.mem_cons_self
        · exact (ih h).imp_right (List.mem_cons_of_mem _)

/-- Whether each number in a value came of reading one. -/
def HasReadNumbers (value : Value) : Prop :=
  ∀ number, IsPartOf (.number number) value →
    ∃ negative text rest, readNumber negative text = .ok (number, rest)

theorem hasReadNumbers_kept : KeptByReading HasReadNumbers where
  null _ hpart := by cases hpart
  bool _ _ hpart := by cases hpart
  string _ _ hpart := by cases hpart
  number hnumber _ hpart := by
    cases hpart
    exact ⟨_, _, _, hnumber⟩
  array helements _ hpart := by
    cases hpart with
    | element hmem hpart => exact helements _ hmem _ hpart
  empty _ hpart := by
    cases hpart with
    | member hmem _ => cases hmem
  insert hvalue hmembers _ hpart := by
    cases hpart with
    | member hmem hpart =>
        rcases mem_insertMember hmem with heq | hmem
        · cases heq
          exact hvalue _ hpart
        · exact hmembers _ (.member hmem hpart)

end Exemplar.Json
