import Mathlib.Data.Set.Function
import Exemplar.Proofs.Discovery.MergingOrders
import Exemplar.Proofs.Discovery.Series
import Exemplar.Proofs.Naming.Initials
import Exemplar.Proofs.References

/-!
# What the descriptions of types tell

A conflict between types is reported by their descriptions.  These do not tell all evidence apart: a
list of nulls would read like an open list, and a class could be named like a scalar.  Among the
evidence that values give they do.  An element that is null leaves the list open instead of standing
in it, and the name of a class never begins with a small letter, as all other descriptions do.
-/

namespace Exemplar

open Discovery Json Naming Reporting

namespace Evidence

/-! ## Evidence that values give -/

/-- Whether evidence comes of a value under a property, whatever is known and however words are put
in the singular. -/
def IsInferred (evidence : Evidence) : Prop :=
  ∃ known singular property value, evidenceOf known singular property value = .ok evidence

/-- Evidence of an element of a list.  All its classes are named after properties, and it is open
only where a list is. -/
inductive IsElement : Evidence → Prop
  | scalar (kind : Scalar) : IsElement (.scalar kind)
  | object (property : String) : IsElement (.object (className property))
  | deferredList : IsElement .deferredList
  | list {element : Evidence} (helement : IsElement element) : IsElement (.list element)

theorem isElement_of_elementEvidence {known : Known} {property : String} {value : Value}
    {evidence : Evidence}
    (h : elementEvidence known (className property) value = .ok (some evidence)) :
    evidence.IsElement := by
  -- The induction is along first elements; of the elements of a list none but the first counts.
  induction value using elementEvidence.induct generalizing evidence with
  | case1 => cases h
  | case2 value =>
      cases h
      exact .scalar .bool
  | case3 number =>
      cases h
      exact .scalar _
  | case4 value =>
      cases h
      exact .scalar .string
  | case5 members =>
      rw [elementEvidence, objectEvidence] at h
      split at h
      · cases h
        exact .object property
      · cases h
  | case6 =>
      cases h
      exact .deferredList
  | case7 first rest ih =>
      rw [elementEvidence] at h
      cases hfirst : elementEvidence known (className property) first with
      | error failure =>
          rw [hfirst] at h
          cases h
      | ok element =>
          rw [hfirst] at h
          cases element with
          | none =>
              cases h
              exact .deferredList
          | some element =>
              cases h
              exact .list (ih hfirst)

theorem IsInferred.eq_deferred_or_isElement {evidence : Evidence} (h : evidence.IsInferred) :
    evidence = .deferred ∨ evidence.IsElement := by
  obtain ⟨known, singular, property, value, h⟩ := h
  rw [evidenceOf.eq_def] at h
  split at h
  · rw [objectEvidence] at h
    split at h
    · cases h
      exact .inr (.object property)
    · cases h
  · cases hvalue : elementEvidence known (className (singular property)) value with
    | error failure =>
        rw [hvalue] at h
        cases h
    | ok element =>
        rw [hvalue] at h
        cases element with
        | none =>
            cases h
            exact .inl rfl
        | some element =>
            cases h
            exact .inr (isElement_of_elementEvidence hvalue)

/-! ## Descriptions -/

/-- The small letter with which the description of evidence begins, if it is not that of a class. -/
def initial? : Evidence → Option Char
  | .scalar .bool => some 'b'
  | .scalar .integer => some 'i'
  | .scalar .float => some 'f'
  | .scalar .string => some 's'
  | .object _ => none
  | .list _ | .deferredList => some 'l'
  | .deferred => some 'd'

theorem IsElement.initial?_describe {evidence : Evidence} (h : evidence.IsElement) :
    evidence.describe.toList.head?.filter Char.isLower = evidence.initial? := by
  cases h with
  | scalar kind => cases kind <;> decide
  | object property =>
      obtain ⟨c, rest, hchars, hsmall⟩ := exists_className_eq_cons property
      rw [describe, hchars]
      simp [hsmall.isLower_eq_false, initial?]
  | deferredList => decide
  | list helement => simp [describe, initial?]

theorem IsElement.describe_ne_deferred {evidence : Evidence} (h : evidence.IsElement) :
    evidence.describe ≠ "deferred" := by
  intro heq
  have hinitial : some 'd' = evidence.initial? := by
    rw [← h.initial?_describe, heq]
    decide
  cases h with
  | scalar kind => cases kind <;> cases hinitial
  | object property => cases hinitial
  | deferredList => cases hinitial
  | list helement => cases hinitial

theorem IsElement.initial?_eq {evidence other : Evidence} (h : evidence.IsElement)
    (hother : other.IsElement) (heq : evidence.describe = other.describe) :
    evidence.initial? = other.initial? := by
  rw [← h.initial?_describe, heq, hother.initial?_describe]

theorem describe_inner {first second : String}
    (h : "list<" ++ first ++ ">" = "list<" ++ second ++ ">") : first = second := by
  have hchars := congrArg String.toList h
  exact String.toList_inj.1 (by simpa using hchars)

/-- Elements with the same description have the same type. -/
theorem IsElement.eq_of_describe_eq {evidence other : Evidence} (h : evidence.IsElement)
    (hother : other.IsElement) (heq : evidence.describe = other.describe) : evidence = other := by
  -- Only cases in which both descriptions begin with the same letter are possible.
  have hinitial := h.initial?_eq hother heq
  induction h generalizing other with
  | scalar kind =>
      cases hother with
      | scalar otherKind => cases kind <;> cases otherKind <;> first | rfl | cases hinitial
      | object property => cases kind <;> cases hinitial
      | deferredList => cases kind <;> cases hinitial
      | list _ => cases kind <;> cases hinitial
  | object property =>
      cases hother with
      | scalar kind => cases kind <;> cases hinitial
      | object _ => exact congrArg Evidence.object heq
      | deferredList => cases hinitial
      | list _ => cases hinitial
  | deferredList =>
      cases hother with
      | scalar kind => cases kind <;> cases hinitial
      | object _ => cases hinitial
      | deferredList => rfl
      | list helement => exact absurd (describe_inner heq).symm helement.describe_ne_deferred
  | list helement ih =>
      cases hother with
      | scalar kind => cases kind <;> cases hinitial
      | object _ => cases hinitial
      | deferredList => exact absurd (describe_inner heq) helement.describe_ne_deferred
      | list hsecond =>
          have hinner := describe_inner heq
          rw [ih hsecond hinner (helement.initial?_eq hsecond hinner)]

theorem describe_injOn : Set.InjOn describe { evidence | evidence.IsInferred } := by
  intro evidence h other hother heq
  rcases h.eq_deferred_or_isElement with rfl | helement
  · rcases hother.eq_deferred_or_isElement with rfl | helement
    · rfl
    · exact absurd heq.symm helement.describe_ne_deferred
  · rcases hother.eq_deferred_or_isElement with rfl | hsecond
    · exact absurd heq helement.describe_ne_deferred
    · exact helement.eq_of_describe_eq hsecond heq

/-! ## Conflicts -/

/-- What conflicts is evidence of two occurrences that differs. -/
theorem of_mem_conflicts {first kept dropped : Evidence} {later : List Evidence}
    (h : (kept, dropped) ∈ first.conflicts later) :
    kept ≠ dropped ∧ kept ∈ first :: later ∧ dropped ∈ later := by
  induction later generalizing first with
  | nil => exact absurd h List.not_mem_nil
  | cons next rest ih =>
      have hrest : (kept, dropped) ∈ (first.keep next).conflicts rest →
          kept ≠ dropped ∧ kept ∈ first :: next :: rest ∧ dropped ∈ next :: rest := by
        intro hmem
        obtain ⟨hne, hkept, hdropped⟩ := ih hmem
        have hkeep : first.keep next ∈ [first, next] := merge_mem first [next]
        refine ⟨hne, ?_, List.mem_cons_of_mem _ hdropped⟩
        rcases List.mem_cons.1 hkept with rfl | hkept
        · exact List.mem_append_left rest hkeep
        · exact List.mem_append_right [first, next] hkept
      rw [conflicts] at h
      split at h
      · rename_i hconflict
        rcases List.mem_cons.1 h with heq | hmem
        · cases heq
          have hne : kept ≠ dropped := by
            rintro rfl
            simp [conflictsWith] at hconflict
          exact ⟨hne, List.mem_cons_self, List.mem_cons_self⟩
        · exact hrest hmem
      · exact hrest h

end Evidence

namespace Discovery

/-- Each member is recorded with evidence that its value gives. -/
theorem isInferred_evidence (record : Occurrence) : record.evidence.IsInferred :=
  ⟨fun _ => true, singular, record.property, record.value,
    evidenceOf_eq_settled fun _ _ => rfl⟩

/-- Whether a member is recorded with evidence that its value gives, or not at all. -/
def RecordsInferred (owner property : String) (value : Value) (discovery : Discovery) : Prop :=
  (∃ failure, recordMember owner property value discovery = (.error failure, discovery)) ∨
    ∃ evidence : Evidence, evidence.IsInferred ∧
      recordMember owner property value discovery =
        updateDraft owner (Draft.record owner (fieldName discovery.fieldPrefix property) property
          evidence value.isNull) discovery

theorem recordsInferred (owner property : String) (value : Value) (discovery : Discovery) :
    RecordsInferred owner property value discovery := by
  cases hevidence : evidenceOf discovery.knows singular property value with
  | error failure =>
      left
      refine ⟨failure, ?_⟩
      rw [recordMember, bind_run (get_run discovery), hevidence]
      rfl
  | ok evidence =>
      right
      refine ⟨evidence, ⟨_, _, _, _, hevidence⟩, ?_⟩
      rw [recordMember, bind_run (get_run discovery), hevidence, recordMember.liftExcept,
        bind_run (pure_run _ discovery)]

variable {fieldPrefix name field : String} {documents : List (String × Value)}

theorem about_discoveredAll (fieldPrefix name field : String) (documents : List (String × Value)) :
    (slotIn name field (discoveredAll fieldPrefix documents).classes,
        (discoveredAll fieldPrefix documents).diagnostics.filter (isAbout name field)) =
      run (recordSlot name field) none
        (recordsAmong fieldPrefix name field (seriesSteps documents)) := by
  obtain ⟨hclasses, hdiagnostics⟩ := discoveredAll_eq_run fieldPrefix documents
  rw [hclasses, hdiagnostics, (stepDrafts_actsOn_slot fieldPrefix name field).run_eq]
  rfl

theorem isInferred_of_slot {draft : Draft} {slot : Slot}
    (hdraft : (name, draft) ∈ (discoveredAll fieldPrefix documents).classes)
    (hslot : (field, slot) ∈ draft.slots) : slot.evidence.IsInferred := by
  obtain ⟨first, rest, -, rfl⟩ := (mem_slots_discoveredAll hdraft).1 hslot
  obtain ⟨record, -, -, hevidence⟩ := exists_record_slotAfter first rest
  rw [hevidence]
  exact isInferred_evidence record

/-- A conflict is reported by the descriptions of two types that values gave, and that differ. -/
theorem exists_of_typeConflict {kept dropped : String}
    (h : .typeConflict name field kept dropped ∈
      (discoveredAll fieldPrefix documents).diagnostics) :
    ∃ stored other : Evidence, stored.IsInferred ∧ other.IsInferred ∧ stored ≠ other ∧
      kept = stored.describe ∧ dropped = other.describe := by
  have habout := congrArg Prod.snd (about_discoveredAll fieldPrefix name field documents)
  have hmem : .typeConflict name field kept dropped ∈
      ((discoveredAll fieldPrefix documents).diagnostics.filter (isAbout name field)).filter
        isConflict := by
    simp [h, isAbout, isConflict]
  dsimp only at habout
  rw [habout] at hmem
  cases hrecords : recordsAmong fieldPrefix name field (seriesSteps documents) with
  | nil =>
      rw [hrecords] at hmem
      cases hmem
  | cons first rest =>
      have hfirst : run (recordSlot name field) none (first :: rest) =
          run (recordSlot name field) (some (firstSlot first)) rest := rfl
      rw [hrecords, hfirst, conflicts_run] at hmem
      obtain ⟨⟨stored, other⟩, hpair, heq⟩ := List.mem_map.1 hmem
      cases heq
      obtain ⟨hne, hstored, hother⟩ := Evidence.of_mem_conflicts hpair
      have hrecorded : ∀ evidence ∈ (firstSlot first).evidence ::
          (rest.filter (·.property == (firstSlot first).property)).map Occurrence.evidence,
          evidence.IsInferred := by
        intro evidence hevidence
        rcases List.mem_cons.1 hevidence with rfl | hevidence
        · exact isInferred_evidence first
        · obtain ⟨record, -, rfl⟩ := List.mem_map.1 hevidence
          exact isInferred_evidence record
      exact ⟨stored, other, hrecorded stored hstored,
        hrecorded other (List.mem_cons_of_mem _ hother), hne, rfl, rfl⟩

/-- What a series of documents stores of types, and what it tells of conflicts between them. -/
structure TellsTypes (fieldPrefix : String) (documents : List (String × Value)) : Prop where
  stored : ∀ name draft, (name, draft) ∈ (discoveredAll fieldPrefix documents).classes →
    ∀ field slot, (field, slot) ∈ draft.slots → slot.evidence.IsInferred
  reported : ∀ name field kept dropped,
    .typeConflict name field kept dropped ∈ (discoveredAll fieldPrefix documents).diagnostics →
      kept ≠ dropped
  resolved : ∀ watch model,
    ((discoveredAll fieldPrefix documents).resolve watch).result = .ok model →
      ∀ name field kept dropped, .typeConflict name field kept dropped ∈ model.diagnostics →
        kept ≠ dropped

theorem tellsTypes (fieldPrefix : String) (documents : List (String × Value)) :
    TellsTypes fieldPrefix documents := by
  have hreported : ∀ name field kept dropped, .typeConflict name field kept dropped ∈
      (discoveredAll fieldPrefix documents).diagnostics → kept ≠ dropped := by
    intro name field kept dropped h
    obtain ⟨stored, other, hstored, hother, hne, rfl, rfl⟩ := exists_of_typeConflict h
    exact fun heq => hne (Evidence.describe_injOn hstored hother heq)
  constructor
  case stored => exact fun name draft hdraft field slot hslot => isInferred_of_slot hdraft hslot
  case reported => exact hreported
  case resolved =>
    intro watch model hmodel name field kept dropped h
    rw [Resolution.resolve_result] at hmodel
    split at hmodel
    · cases hmodel
    · cases hmodel
      rcases List.mem_append.1 h with h | h
      · exact hreported name field kept dropped h
      · -- What the resolution adds tells of no conflict.
        simp [Resolution.unresolved] at h

/-- Descriptions identify types.  In any discovery a member is recorded with evidence that its value
gives, or not at all; all such evidence, of whatever run over whatever documents, is told apart by
its descriptions.  So every conflict that is reported tells two types that read differently. -/
theorem descriptions_identify_types :
    (∀ owner property value discovery, RecordsInferred owner property value discovery) ∧
    Set.InjOn Evidence.describe { evidence | evidence.IsInferred } ∧
    ∀ fieldPrefix documents, TellsTypes fieldPrefix documents :=
  ⟨recordsInferred, Evidence.describe_injOn, tellsTypes⟩

/-- Not all evidence is told apart by its descriptions, only that which values give. -/
example : (Evidence.list .deferred).describe = Evidence.deferredList.describe ∧
    (Evidence.object "float").describe = (Evidence.scalar .float).describe := by
  decide

end Discovery

end Exemplar
