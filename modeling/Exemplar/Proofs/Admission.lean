import Exemplar.Proofs.Discovery.Merging
import Exemplar.Resolution

/-!
# What a type admits

A type has room for the values that agree with it.  A null agrees with every type, an empty list
with every type of lists.  The type that concrete evidence resolves to admits that evidence.
Deferred evidence is admitted as far as the lists of the type go, or where the type is open.
-/

namespace Exemplar

open Discovery Resolution

/-- Whether a type has room for a value with some evidence. -/
def Ty.admits : Ty → Evidence → Bool
  | .any, _ => true
  | _, .deferred => true
  | .list _, .deferredList => true
  | .list element, .list evidence => element.admits evidence
  | .bool, .scalar .bool => true
  | .integer, .scalar .integer => true
  | .float, .scalar .float => true
  | .string, .scalar .string => true
  | .named name, .object other => decide (name = other)
  | _, _ => false

/-- How many lists stand around the innermost type. -/
def Ty.listDepth : Ty → Nat
  | .list element => element.listDepth + 1
  | _ => 0

/-- How many lists stand around the innermost value. -/
def Evidence.listDepth : Evidence → Nat
  | .list element => element.listDepth + 1
  | .deferredList => 1
  | _ => 0

/-- Whether deferred evidence tells of more lists than a type has. -/
def Ty.isTooFlatFor (ty : Ty) (evidence : Evidence) : Bool :=
  evidence.isDeferred && !ty.isUntyped && decide (ty.listDepth < evidence.listDepth)

theorem Ty.admits_of_isDeferred (ty : Ty) {evidence : Evidence}
    (h : evidence.isDeferred = true) : ty.admits evidence = !ty.isTooFlatFor evidence := by
  rw [isTooFlatFor, h]
  induction ty generalizing evidence with
  | list element ih =>
      cases evidence with
      | scalar kind => cases h
      | object name => cases h
      | deferred => simp [admits, Evidence.listDepth]
      | deferredList => simp [admits, Evidence.listDepth, listDepth]
      | list evidence =>
          have helement : evidence.isDeferred = true := h
          rw [admits, ih helement]
          simp [isUntyped, Evidence.listDepth, listDepth]
  | any => simp [admits, isUntyped]
  | _ =>
      cases evidence with
      | scalar kind => cases h
      | object name => cases h
      | _ => simp [admits, isUntyped, Evidence.listDepth, listDepth]

theorem Ty.admits_of_concrete {ty : Ty} {evidence : Evidence} (hty : ty.isList = true)
    (hconcrete : evidence.isDeferred = false) (hlist : evidence.isList = false) :
    ty.admits evidence = false := by
  cases ty with
  | list element =>
      cases evidence with
      | scalar kind => rfl
      | object name => rfl
      | list evidence => cases hlist
      | deferred => cases hconcrete
      | deferredList => cases hconcrete
  | _ => cases hty

theorem resolve_isList {evidence : Evidence} (h : evidence.isList = true) (known : Known)
    (property : String) : (resolve known property evidence).isList = true := by
  cases evidence with
  | list element => rfl
  | deferredList => rfl
  | _ => cases h

/-- The type that concrete evidence resolves to admits the evidence. -/
theorem admits_resolve {evidence : Evidence} (h : evidence.isDeferred = false) (known : Known)
    (property : String) : (resolve known property evidence).admits evidence = true := by
  induction evidence with
  | scalar kind => cases kind <;> rfl
  | object name => exact decide_eq_true rfl
  | list element ih => exact ih h
  | deferred => cases h
  | deferredList => cases h

/-- Where nothing conflicts, the type of what is kept admits each occurrence, but for concrete
evidence that passed by and for deferred evidence of too many lists. -/
theorem admits_merge {first next : Evidence} {later : List Evidence}
    (hnone : first.conflicts later = []) (hmem : next = first ∨ next ∈ later) (known : Known)
    (property : String) :
    (resolve known property (first.merge later)).admits next =
      !(first.passesBy next || (resolve known property (first.merge later)).isTooFlatFor next) := by
  cases hnext : next.isDeferred with
  | true =>
      have hpasses : first.passesBy next = false := by simp [Evidence.passesBy, hnext]
      rw [Ty.admits_of_isDeferred _ hnext, hpasses, Bool.false_or]
  | false =>
      have hflat : (resolve known property (first.merge later)).isTooFlatFor next = false := by
        rw [Ty.isTooFlatFor, hnext]
        rfl
      rw [hflat, Bool.or_false]
      cases hpasses : first.passesBy next with
      | true =>
          have hlists : first.isList = true ∧ next.isList = false := by
            simp_all [Evidence.passesBy]
          exact Ty.admits_of_concrete (resolve_isList (Evidence.merge_isList hlists.1 later) _ _)
            hnext hlists.2
      | false =>
          have hkept : first.merge later = next := by
            rcases hmem with rfl | hmem
            · exact Evidence.merge_of_concrete hnext later
            · exact Evidence.merge_eq_of_no_conflicts hnone hmem hnext hpasses
          rw [hkept]
          exact admits_resolve hnext known property

end Exemplar
