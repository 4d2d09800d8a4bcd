import Exemplar.Proofs.Discovery.Merging

/-!
# Merging in another order

The same evidence in another order can keep something else although nothing conflicts: the evidence
of an open list, where it comes first, gives way to the evidence of lists only and lets that of other
values pass.  It is told here exactly when this makes a difference.
-/

namespace Exemplar.Evidence

/-- Whether evidence is that of a list which leaves the innermost type open. -/
def isOpenList (evidence : Evidence) : Bool :=
  evidence.isDeferred && evidence.isList

def isConcreteList (evidence : Evidence) : Bool :=
  !evidence.isDeferred && evidence.isList

/-- The list evidence that an open list gives way to is the first concrete one. -/
theorem merge_of_isOpenList {first : Evidence} (h : first.isOpenList = true)
    (later : List Evidence) : first.merge later = (later.find? isConcreteList).getD first := by
  have hrefined : first.isRefinedBy = isConcreteList := by
    funext next
    obtain ⟨hdeferred, hlist⟩ := Bool.and_eq_true_iff.1 h
    rw [isRefinedBy_eq, hdeferred, hlist, isConcreteList]
    rfl
  rw [merge_eq_find, hrefined]

theorem isConcreteList_of_isOpenList {evidence : Evidence} (h : evidence.isOpenList = true) :
    evidence.isConcreteList = false := by
  rw [isConcreteList, (Bool.and_eq_true_iff.1 h).1]
  rfl

/-- An open list in front stays where no concrete list comes. -/
theorem merge_eq_first {first : Evidence} {later : List Evidence} (h : first.isOpenList = true)
    (hnone : (first :: later).any isConcreteList = false) : first.merge later = first := by
  have hfind : later.find? isConcreteList = none := by
    apply List.find?_eq_none.2
    intro evidence hevidence
    exact List.any_eq_false.1 hnone evidence (List.mem_cons_of_mem _ hevidence)
  rw [merge_of_isOpenList h, hfind]
  rfl

theorem merge_of_not_isOpenList {first : Evidence} (h : first.isOpenList = false)
    (later : List Evidence) :
    first.merge later = ((first :: later).find? (!·.isDeferred)).getD first := by
  cases hdeferred : first.isDeferred with
  | false =>
      rw [merge_of_concrete hdeferred, List.find?_cons_of_pos (by simp [hdeferred])]
      rfl
  | true =>
      have hrefined : first.isRefinedBy = (!·.isDeferred) := by
        funext next
        have hlist : first.isList = false := by simpa [isOpenList, hdeferred] using h
        rw [isRefinedBy_eq, hdeferred, hlist]
        simp
      rw [merge_eq_find, hrefined, List.find?_cons_of_neg (by simp [hdeferred])]

/-- Whether the first concrete evidence is that of a list. -/
def settlesOnList (all : List Evidence) : Bool :=
  (all.find? (!·.isDeferred)).any isList

/-- Whether two orders of the same evidence can keep different evidence although nothing conflicts.
The evidence of an open list, where it comes first, gives way to lists only. -/
def orderMatters : List Evidence → List Evidence → Bool
  | first :: later, other :: others =>
      match first.isOpenList, other.isOpenList with
      | false, false => false
      | true, true => decide (first ≠ other) && !(first :: later).any isConcreteList
      | true, false => !settlesOnList (other :: others)
      | false, true => !settlesOnList (first :: later)
  | _, _ => false

theorem settlesOnList_merge {first : Evidence} (h : first.isOpenList = false)
    (later : List Evidence) : (first.merge later).isList = settlesOnList (first :: later) := by
  rw [merge_of_not_isOpenList h, settlesOnList]
  cases hfind : (first :: later).find? (!·.isDeferred) with
  | some found => rfl
  | none =>
      have hdeferred : first.isDeferred = true := by
        simpa using List.find?_eq_none.1 hfind first List.mem_cons_self
      simpa [isOpenList, hdeferred] using h

/-- Where nothing conflicts, concrete evidence is what is kept, unless it comes after an open list
and is of no list. -/
theorem merge_eq_of_concrete {first next : Evidence} {later : List Evidence}
    (hnone : first.conflicts later = []) (hmem : next ∈ first :: later)
    (hconcrete : next.isDeferred = false) (h : first.isOpenList = false ∨ next.isList = true) :
    first.merge later = next := by
  rcases List.mem_cons.1 hmem with rfl | hmem
  · exact merge_of_concrete hconcrete later
  · apply merge_eq_of_no_conflicts hnone hmem hconcrete
    rw [passesBy, hconcrete]
    rcases h with hopen | hlist
    · rw [isOpenList] at hopen
      cases hdeferred : first.isDeferred <;> simp_all
    · simp [hlist]

theorem eq_deferred {evidence : Evidence} (h : evidence.isDeferred = true)
    (hopen : evidence.isOpenList = false) : evidence = .deferred := by
  rw [isOpenList, h, Bool.true_and] at hopen
  cases evidence with
  | deferred => rfl
  | scalar kind => cases h
  | object name => cases h
  | list element => cases hopen
  | deferredList => cases hopen

theorem merge_mem (first : Evidence) (later : List Evidence) :
    first.merge later ∈ first :: later := by
  rw [merge_eq_find]
  cases hfind : later.find? first.isRefinedBy with
  | none => exact List.mem_cons_self
  | some found => exact List.mem_cons_of_mem _ (List.mem_of_find?_eq_some hfind)

/-- An open list is kept only if it comes first. -/
theorem merge_isOpenList {first : Evidence} (h : first.isOpenList = false)
    (later : List Evidence) : (first.merge later).isOpenList = false := by
  rw [merge_eq_find]
  cases hfind : later.find? first.isRefinedBy with
  | none => exact h
  | some found =>
      rw [Option.getD_some, isOpenList, (deferred_of_isRefinedBy (List.find?_some hfind)).2]
      rfl

section Orders

variable {first other : Evidence} {later others : List Evidence}

theorem merge_eq_merge_of_not_open (hnone : first.conflicts later = [])
    (hperm : (first :: later).Perm (other :: others)) (hfirst : first.isOpenList = false)
    (hother : other.isOpenList = false) : first.merge later = other.merge others := by
  rw [merge_of_not_isOpenList hother]
  cases hfind : (other :: others).find? (!·.isDeferred) with
  | some found =>
      have hfound : found ∈ first :: later :=
        hperm.mem_iff.2 (List.mem_of_find?_eq_some hfind)
      exact merge_eq_of_concrete hnone hfound (by simpa using List.find?_some hfind) (.inl hfirst)
  | none =>
      have hopen : ∀ evidence ∈ other :: others, evidence.isDeferred = true := by
        simpa using List.find?_eq_none.1 hfind
      have hlater : later.find? first.isRefinedBy = none := by
        apply List.find?_eq_none.2
        intro evidence hevidence
        rw [isRefinedBy_eq, hopen evidence (hperm.mem_iff.1 (List.mem_cons_of_mem _ hevidence))]
        simp
      rw [merge_eq_find, hlater,
        eq_deferred (hopen first (hperm.mem_iff.1 List.mem_cons_self)) hfirst,
        eq_deferred (hopen other List.mem_cons_self) hother]

theorem merge_eq_merge_iff_of_open (hnone : first.conflicts later = [])
    (hperm : (first :: later).Perm (other :: others)) (hfirst : first.isOpenList = true)
    (hother : other.isOpenList = true) :
    first.merge later = other.merge others ↔
      first = other ∨ (first :: later).any isConcreteList = true := by
  have hany : (other :: others).any isConcreteList = (first :: later).any isConcreteList :=
    hperm.symm.any_eq
  cases hlists : (first :: later).any isConcreteList with
  | false =>
      rw [hlists] at hany
      rw [merge_eq_first hfirst hlists, merge_eq_first hother hany, or_iff_left Bool.false_ne_true]
  | true =>
      rw [hlists, List.any_cons, isConcreteList_of_isOpenList hother, Bool.false_or] at hany
      apply iff_of_true _ (.inr rfl)
      rw [merge_of_isOpenList hother]
      cases hfind : others.find? isConcreteList with
      | none =>
          obtain ⟨list, hlist, hislist⟩ := List.any_eq_true.1 hany
          exact absurd hislist (List.find?_eq_none.1 hfind list hlist)
      | some found =>
          have hfound : found ∈ first :: later :=
            hperm.mem_iff.2 (List.mem_cons_of_mem _ (List.mem_of_find?_eq_some hfind))
          have hlist : found.isConcreteList = true := List.find?_some hfind
          obtain ⟨hsettled, hislist⟩ := Bool.and_eq_true_iff.1 hlist
          exact merge_eq_of_concrete hnone hfound (by simpa using hsettled) (.inr hislist)

/-- What an open list gives way to is kept in an order without one in front if it is a list. -/
theorem merge_eq_merge_iff_of_first_open (hnone : first.conflicts later = [])
    (hperm : (first :: later).Perm (other :: others)) (hfirst : first.isOpenList = true)
    (hother : other.isOpenList = false) :
    first.merge later = other.merge others ↔ settlesOnList (other :: others) = true := by
  rw [← settlesOnList_merge hother]
  constructor
  · intro h
    rw [← h]
    exact merge_isList (Bool.and_eq_true_iff.1 hfirst).2 later
  · intro hlist
    have hsettled : (other.merge others).isDeferred = false := by
      simpa [isOpenList, hlist] using merge_isOpenList hother others
    exact merge_eq_of_concrete hnone (hperm.mem_iff.2 (merge_mem other others)) hsettled
      (.inr hlist)

theorem merge_eq_merge_iff_of_other_open (hnone : first.conflicts later = [])
    (hperm : (first :: later).Perm (other :: others)) (hfirst : first.isOpenList = false)
    (hother : other.isOpenList = true) :
    first.merge later = other.merge others ↔ settlesOnList (first :: later) = true := by
  rw [← settlesOnList_merge hfirst]
  obtain ⟨hdeferred, hislist⟩ := Bool.and_eq_true_iff.1 hother
  constructor
  · intro h
    rw [h]
    exact merge_isList hislist others
  · intro hlist
    have hsettled : (first.merge later).isDeferred = false := by
      simpa [isOpenList, hlist] using merge_isOpenList hfirst later
    have hmem : first.merge later ∈ others := by
      apply List.mem_of_ne_of_mem _ (hperm.mem_iff.1 (merge_mem first later))
      rintro h
      rw [h, hdeferred] at hsettled
      cases hsettled
    rw [merge_of_isOpenList hother]
    cases hfind : others.find? isConcreteList with
    | none =>
        apply absurd _ (List.find?_eq_none.1 hfind _ hmem)
        simp [isConcreteList, hsettled, hlist]
    | some found =>
        have hfound : found.isDeferred = false := by
          have := List.find?_some hfind
          simp_all [isConcreteList]
        exact merge_eq_of_concrete hnone
          (hperm.mem_iff.2 (List.mem_cons_of_mem _ (List.mem_of_find?_eq_some hfind))) hfound
          (.inl hfirst)

/-- Two orders of the same evidence keep the same exactly if the order does not tell. -/
theorem merge_eq_merge_iff (hnone : first.conflicts later = [])
    (hperm : (first :: later).Perm (other :: others)) :
    first.merge later = other.merge others ↔
      orderMatters (first :: later) (other :: others) = false := by
  cases hfirst : first.isOpenList with
  | false =>
      cases hother : other.isOpenList with
      | false =>
          simp [orderMatters, hfirst, hother,
            merge_eq_merge_of_not_open hnone hperm hfirst hother]
      | true =>
          rw [merge_eq_merge_iff_of_other_open hnone hperm hfirst hother]
          simp [orderMatters, hfirst, hother]
  | true =>
      cases hother : other.isOpenList with
      | false =>
          rw [merge_eq_merge_iff_of_first_open hnone hperm hfirst hother]
          simp [orderMatters, hfirst, hother]
      | true =>
          rw [merge_eq_merge_iff_of_open hnone hperm hfirst hother]
          simp only [orderMatters, hfirst, hother]
          cases (first :: later).any isConcreteList <;> simp

end Orders

end Exemplar.Evidence
