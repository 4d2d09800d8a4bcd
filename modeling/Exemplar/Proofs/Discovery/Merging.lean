import Exemplar.Discovery.Evidence

/-!
# Merging evidence

The evidence of a field is that of its first occurrence until a later one says more.  It then never
changes again: concrete evidence gives way to nothing, and deferred evidence gives way to concrete
evidence only.  What is kept in the end is therefore found by one search.
-/

namespace Exemplar.Evidence

/-- What is kept of the evidence so far and that of one more occurrence. -/
def keep (kept next : Evidence) : Evidence :=
  if kept.isRefinedBy next then next else kept

/-- What is kept of the evidence of all occurrences. -/
def merge (first : Evidence) (later : List Evidence) : Evidence :=
  later.foldl keep first

/-- Whether two occurrences tell different concrete types. -/
def conflictsWith (kept next : Evidence) : Bool :=
  !kept.isDeferred && !next.isDeferred && !decide (kept = next)

/-- What is kept and what conflicts with it, occurrence by occurrence. -/
def conflicts (kept : Evidence) : List Evidence → List (Evidence × Evidence)
  | [] => []
  | next :: later =>
      if kept.conflictsWith next then (kept, next) :: conflicts (kept.keep next) later
      else conflicts (kept.keep next) later

/-- Whether concrete evidence passes by deferred evidence without notice: that of no list by that of
a list. -/
def passesBy (kept next : Evidence) : Bool :=
  kept.isDeferred && !next.isDeferred && (kept.isList && !next.isList)

theorem isRefinedBy_eq (kept next : Evidence) :
    kept.isRefinedBy next =
      (kept.isDeferred && !next.isDeferred && (!kept.isList || next.isList)) := by
  cases kept <;> simp [isRefinedBy, isDeferred, isList]

theorem deferred_of_isRefinedBy {kept next : Evidence} (h : kept.isRefinedBy next = true) :
    kept.isDeferred = true ∧ next.isDeferred = false := by
  rw [isRefinedBy_eq] at h
  simp_all

theorem isList_of_isRefinedBy {kept next : Evidence} (hlist : kept.isList = true)
    (h : kept.isRefinedBy next = true) : next.isList = true := by
  rw [isRefinedBy_eq] at h
  simp_all

theorem merge_cons (first next : Evidence) (later : List Evidence) :
    merge first (next :: later) = merge (first.keep next) later := rfl

theorem keep_of_isRefinedBy {kept next : Evidence} (h : kept.isRefinedBy next = true) :
    kept.keep next = next := if_pos h

theorem keep_of_not_isRefinedBy {kept next : Evidence} (h : kept.isRefinedBy next = false) :
    kept.keep next = kept := by
  rw [keep, h]
  rfl

/-- Concrete evidence stays. -/
theorem merge_of_concrete {first : Evidence} (h : first.isDeferred = false)
    (later : List Evidence) : first.merge later = first := by
  induction later with
  | nil => rfl
  | cons next rest ih =>
      have hkept : first.isRefinedBy next = false := by rw [isRefinedBy_eq, h]; rfl
      rw [merge_cons, keep_of_not_isRefinedBy hkept, ih]

/-- What is kept in the end: the first evidence to which that of the first occurrence gives way, or
else the latter itself. -/
theorem merge_eq_find (first : Evidence) (later : List Evidence) :
    first.merge later = (later.find? first.isRefinedBy).getD first := by
  induction later with
  | nil => rfl
  | cons next rest ih =>
      rw [merge_cons, List.find?_cons]
      cases h : first.isRefinedBy next with
      | true =>
          rw [keep_of_isRefinedBy h]
          exact merge_of_concrete (deferred_of_isRefinedBy h).2 rest
      | false =>
          rw [keep_of_not_isRefinedBy h]
          exact ih

theorem merge_isList {first : Evidence} (h : first.isList = true) (later : List Evidence) :
    (first.merge later).isList = true := by
  rw [merge_eq_find]
  cases hfind : later.find? first.isRefinedBy with
  | none => exact h
  | some next => exact isList_of_isRefinedBy h (List.find?_some hfind)

theorem conflicts_cons_eq_nil {kept next : Evidence} {later : List Evidence} :
    kept.conflicts (next :: later) = [] ↔
      kept.conflictsWith next = false ∧ (kept.keep next).conflicts later = [] := by
  rw [conflicts]
  cases kept.conflictsWith next <;> simp

/-- Where nothing conflicts, all concrete evidence that does not pass by is what is kept. -/
theorem merge_eq_of_no_conflicts {first next : Evidence} {later : List Evidence}
    (hnone : first.conflicts later = []) (hmem : next ∈ later)
    (hconcrete : next.isDeferred = false) (hpasses : first.passesBy next = false) :
    first.merge later = next := by
  induction later generalizing first with
  | nil => exact absurd hmem List.not_mem_nil
  | cons head rest ih =>
      obtain ⟨hhead, hrest⟩ := conflicts_cons_eq_nil.1 hnone
      rw [merge_cons]
      rcases List.mem_cons.1 hmem with rfl | hmem
      · have hkeep : first.keep next = next := by
          cases hfirst : first.isDeferred with
          | true =>
              apply keep_of_isRefinedBy
              rw [passesBy, hfirst, hconcrete] at hpasses
              rw [isRefinedBy_eq, hfirst, hconcrete]
              cases hlist : first.isList <;> simp_all
          | false =>
              have hsame : first = next := by simpa [conflictsWith, hfirst, hconcrete] using hhead
              rw [hsame, keep, ite_self]
        rw [hkeep, merge_of_concrete hconcrete]
      · apply ih hrest hmem
        cases hrefined : first.isRefinedBy head with
        | true =>
            rw [keep_of_isRefinedBy hrefined, passesBy, (deferred_of_isRefinedBy hrefined).2]
            rfl
        | false =>
            rw [keep_of_not_isRefinedBy hrefined]
            exact hpasses

end Exemplar.Evidence
