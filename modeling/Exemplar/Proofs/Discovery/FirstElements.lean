import Mathlib.Logic.Function.Iterate
import Exemplar.Discovery.Evidence

/-!
# What first elements decide

The evidence of a value follows from what stands at the end of the way through the first elements of
its lists.  Every list that is passed gives a list of evidence.  Only a null at the end, and an empty
list, take the innermost of these lists for what they leave open.
-/

namespace Exemplar

open Json Naming

namespace Json.Value

/-- The way from a value through the first elements of lists. -/
structure Descent where
  /-- How many lists are passed. -/
  depth : ℕ
  /-- What stands at the end; nothing if the last list is empty. -/
  stop? : Option Value

def descent : Value → Descent
  | .array [] => ⟨1, none⟩
  | .array (first :: _) => ⟨first.descent.depth + 1, first.descent.stop?⟩
  | value => ⟨0, some value⟩

/-- The value without the elements behind the first, in every list on the way. -/
def firstsOnly : Value → Value
  | .array (first :: _) => .array [first.firstsOnly]
  | value => value

/-- The kind of a value that is a scalar. -/
def scalar? : Value → Option Scalar
  | .bool _ => some .bool
  | .number (.integer _) => some .integer
  | .number (.float _) => some .float
  | .string _ => some .string
  | .null | .array _ | .object _ => none

/-- What may stand at the end of a way. -/
inductive IsStop : Option Value → Prop where
  | object (members : Members) : IsStop (some (.object members))
  | scalar {value : Value} {kind : Scalar} (h : value.scalar? = some kind) : IsStop (some value)
  | null : IsStop (some .null)
  | empty : IsStop none

/-- No way ends at a list. -/
theorem isStop_descent (value : Value) : IsStop value.descent.stop? := by
  induction value using descent.induct with
  | case1 => exact .empty
  | case2 first _ ih => exact ih
  | case3 value hempty hlist =>
      cases value with
      | null => exact .null
      | bool value => exact .scalar rfl
      | number number => cases number <;> exact .scalar rfl
      | string value => exact .scalar rfl
      | array elements =>
          cases elements with
          | nil => exact absurd rfl hempty
          | cons first rest => exact absurd rfl (hlist first rest)
      | object members => exact .object members

theorem depth_pos_of_empty {value : Value} (h : value.descent.stop? = none) :
    0 < value.descent.depth := by
  cases value using descent.induct with
  | case1 => exact Nat.one_pos
  | case2 first rest => exact Nat.succ_pos _
  | case3 value hempty hlist =>
      rw [descent.eq_3 value hempty hlist] at h
      cases h

end Json.Value

namespace Evidence

/-- The evidence of the innermost elements. -/
def core : Evidence → Evidence
  | .list element => element.core
  | evidence => evidence

theorem core_iterate (depth : ℕ) (evidence : Evidence) :
    (Evidence.list^[depth] evidence).core = evidence.core := by
  induction depth with
  | zero => rfl
  | succ depth ih => rw [Function.iterate_succ_apply', core, ih]

end Evidence

namespace Discovery

/-- The class of an object at the end of a way. -/
def classAt (singular : String → String) (property : String) (way : Value.Descent) : String :=
  className (if way.depth = 0 then property else singular property)

/-- What stands at the end of a way decides on the outcome. -/
structure Decides (known : Known) (singular : String → String) (property : String)
    (way : Value.Descent) (outcome : Except Failure Evidence) : Prop where
  object : ∀ members, way.stop? = some (.object members) →
    outcome =
      if known (classAt singular property way) then
        .ok (Evidence.list^[way.depth] (.object (classAt singular property way)))
      else .error (.unknownClass (classAt singular property way))
  scalar : ∀ kind, way.stop?.bind Value.scalar? = some kind →
    outcome = .ok (Evidence.list^[way.depth] (.scalar kind))
  null : way.stop? = some .null →
    outcome = .ok (if way.depth = 0 then .deferred
      else Evidence.list^[way.depth - 1] .deferredList)
  empty : way.stop? = none → outcome = .ok (Evidence.list^[way.depth - 1] .deferredList)

variable {known : Known} {name property : String} {singular : String → String} {value : Value}

/-- Evidence at the end of the way comes through under the lists that were passed. -/
theorem elementEvidence_of_stop {stop : Value} {outcome : Except Failure Evidence}
    (hstop : value.descent.stop? = some stop)
    (h : elementEvidence known name stop = outcome.map some) :
    elementEvidence known name value =
      outcome.map fun evidence => some (Evidence.list^[value.descent.depth] evidence) := by
  induction value using Value.descent.induct with
  | case1 => cases hstop
  | case2 first rest ih =>
      rw [elementEvidence, ih hstop, Value.descent]
      cases outcome with
      | error failure => rfl
      | ok evidence =>
          rw [Function.iterate_succ']
          rfl
  | case3 value hempty hlist =>
      rw [Value.descent.eq_3 value hempty hlist] at hstop ⊢
      cases hstop
      exact h

/-- What lists give as the first element of another when there is nothing in the innermost. -/
def openElement : ℕ → Option Evidence
  | 0 => none
  | outer + 1 => some (Evidence.list^[outer] .deferredList)

/-- Without evidence at the end of the way the innermost list is left open. -/
theorem elementEvidence_of_open
    (hstop : value.descent.stop? = some .null ∨ value.descent.stop? = none) :
    elementEvidence known name value = .ok (openElement value.descent.depth) := by
  induction value using Value.descent.induct with
  | case1 => rfl
  | case2 first rest ih =>
      rw [elementEvidence, ih hstop, Value.descent]
      cases first.descent.depth with
      | zero => rfl
      | succ outer =>
          rw [openElement, openElement, Function.iterate_succ_apply']
          rfl
  | case3 value hempty hlist =>
      rw [Value.descent.eq_3 value hempty hlist] at hstop ⊢
      rcases hstop with hnull | hnone
      · cases hnull
        rfl
      · cases hnone

theorem elementEvidence_of_scalar {kind : Scalar} (h : value.scalar? = some kind) :
    elementEvidence known name value = .ok (some (.scalar kind)) := by
  cases value with
  | number number => cases number <;> cases h <;> rfl
  | bool value => cases h; rfl
  | string value => cases h; rfl
  | _ => cases h

/-- What is no object is evidence as a first element is. -/
theorem evidenceOf_of_not_object (h : ∀ members, value ≠ .object members) :
    evidenceOf known singular property value =
      (elementEvidence known (className (singular property)) value).map (·.getD .deferred) := by
  cases value with
  | object members => exact absurd rfl (h members)
  | _ => rfl

/-- A value from which a way leads through lists is no object. -/
theorem not_object_of_depth (h : value.descent.depth ≠ 0) (members : Members) :
    value ≠ .object members := by
  rintro rfl
  exact h rfl

theorem eq_stop_of_depth {stop : Value} (hdepth : value.descent.depth = 0)
    (hstop : value.descent.stop? = some stop) : value = stop := by
  cases value using Value.descent.induct with
  | case1 => cases hstop
  | case2 first rest => cases hdepth
  | case3 value hempty hlist =>
      rw [Value.descent.eq_3 value hempty hlist] at hstop
      exact Option.some.inj hstop

/-- A way to an object through lists leads to one of the class in the singular. -/
theorem evidenceOf_of_object {members : Members}
    (hstop : value.descent.stop? = some (.object members)) :
    evidenceOf known singular property value =
      (objectEvidence known (classAt singular property value.descent)).map
        Evidence.list^[value.descent.depth] := by
  by_cases hdepth : value.descent.depth = 0
  · obtain rfl := eq_stop_of_depth hdepth hstop
    rw [evidenceOf, classAt, if_pos hdepth, hdepth]
    cases objectEvidence known (className property) <;> rfl
  · rw [evidenceOf_of_not_object (not_object_of_depth hdepth), elementEvidence_of_stop hstop rfl,
      classAt, if_neg hdepth]
    cases objectEvidence known (className (singular property)) <;> rfl

theorem evidenceOf_of_scalar {kind : Scalar}
    (hstop : value.descent.stop?.bind Value.scalar? = some kind) :
    evidenceOf known singular property value =
      .ok (Evidence.list^[value.descent.depth] (.scalar kind)) := by
  obtain ⟨stop, hstop, hscalar⟩ := Option.bind_eq_some_iff.1 hstop
  have hobject : ∀ members, value ≠ .object members := by
    rintro members rfl
    cases hstop
    cases hscalar
  have hevidence : elementEvidence known (className (singular property)) stop =
      (Except.ok (.scalar kind) : Except Failure Evidence).map some :=
    elementEvidence_of_scalar hscalar
  rw [evidenceOf_of_not_object hobject, elementEvidence_of_stop hstop hevidence]
  rfl

theorem evidenceOf_of_open
    (hstop : value.descent.stop? = some .null ∨ value.descent.stop? = none) :
    evidenceOf known singular property value =
      .ok ((openElement value.descent.depth).getD .deferred) := by
  have hobject : ∀ members, value ≠ .object members := by
    rintro members rfl
    rcases hstop with h | h <;> cases h
  rw [evidenceOf_of_not_object hobject, elementEvidence_of_open hstop]
  rfl

theorem decides_descent (known : Known) (singular : String → String) (property : String)
    (value : Value) :
    Decides known singular property value.descent (evidenceOf known singular property value) where
  object members hstop := by
    rw [evidenceOf_of_object hstop, objectEvidence]
    split <;> rfl
  scalar kind := evidenceOf_of_scalar
  null hstop := by
    rw [evidenceOf_of_open (.inl hstop)]
    cases value.descent.depth <;> rfl
  empty hstop := by
    have hdepth := Value.depth_pos_of_empty hstop
    rw [evidenceOf_of_open (.inr hstop)]
    cases hways : value.descent.depth with
    | zero => omega
    | succ outer => rfl

/-- The outcome is never deferred evidence in a list. -/
theorem Decides.ne_list_deferred {way : Value.Descent} {outcome : Except Failure Evidence}
    (h : Decides known singular property way outcome) (hstop : Value.IsStop way.stop?) (depth : ℕ) :
    outcome ≠ .ok (Evidence.list^[depth + 1] .deferred) := by
  -- Lists are told apart by what is in the innermost.
  have hcore : ∀ {outer : ℕ} {evidence : Evidence}, evidence.core ≠ .deferred →
      Except.ok (Evidence.list^[outer] evidence) ≠
        (.ok (Evidence.list^[depth + 1] .deferred) : Except Failure Evidence) := by
    intro outer evidence hne heq
    have hcores := congrArg Evidence.core (Except.ok.inj heq)
    rw [Evidence.core_iterate, Evidence.core_iterate] at hcores
    exact hne hcores
  obtain ⟨depthOf, stop?⟩ := way
  cases hstop with
  | object members =>
      rw [h.object members rfl]
      split
      · exact hcore nofun
      · exact nofun
  | scalar hscalar =>
      rw [h.scalar _ hscalar]
      exact hcore nofun
  | null =>
      rw [h.null rfl]
      split
      · rw [Function.iterate_succ_apply' Evidence.list]
        exact nofun
      · exact hcore nofun
  | empty =>
      rw [h.empty rfl]
      exact hcore nofun

theorem elementEvidence_firstsOnly (value : Value) :
    elementEvidence known name value.firstsOnly = elementEvidence known name value := by
  induction value using Value.firstsOnly.induct with
  | case1 first rest ih => rw [Value.firstsOnly, elementEvidence, elementEvidence, ih]
  | case2 value hlist => rw [Value.firstsOnly.eq_2 value hlist]

/-- Elements behind the first do not matter. -/
theorem evidenceOf_firstsOnly (known : Known) (singular : String → String) (property : String)
    (value : Value) :
    evidenceOf known singular property value.firstsOnly =
      evidenceOf known singular property value := by
  cases value with
  | array elements =>
      have hfirsts : ∀ members, (Value.array elements).firstsOnly ≠ .object members := by
        intro members heq
        cases elements <;> cases heq
      have harray : ∀ members, Value.array elements ≠ .object members := nofun
      rw [evidenceOf_of_not_object hfirsts, evidenceOf_of_not_object harray,
        elementEvidence_firstsOnly]
  | _ => rfl

/-- Whatever classes are known and however names are made singular, what stands at the end of the way
through first elements decides on the evidence of a value: an object on its class, which has to be
known, a scalar on its kind, and a null or an empty list on deferred evidence, that of a null never
in a list.  Elements behind the first do not matter. -/
theorem evidenceOf_decided_by_first_elements (known : Known) (singular : String → String)
    (property : String) (value : Value) :
    Value.IsStop value.descent.stop? ∧
      Decides known singular property value.descent
        (evidenceOf known singular property value) ∧
      (∀ depth, evidenceOf known singular property value ≠
        .ok (Evidence.list^[depth + 1] .deferred)) ∧
      ∀ other : Value, other.firstsOnly = value.firstsOnly →
        evidenceOf known singular property other = evidenceOf known singular property value := by
  have hstop := value.isStop_descent
  have hdecides := decides_descent known singular property value
  refine ⟨hstop, hdecides, hdecides.ne_list_deferred hstop, fun other hother => ?_⟩
  calc
    evidenceOf known singular property other
      = evidenceOf known singular property other.firstsOnly := by
        rw [evidenceOf_firstsOnly]
    _ = evidenceOf known singular property value.firstsOnly := by rw [hother]
    _ = evidenceOf known singular property value := by rw [evidenceOf_firstsOnly]

end Discovery

end Exemplar
