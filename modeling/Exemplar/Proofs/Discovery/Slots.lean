import Exemplar.Proofs.Discovery.Merging
import Exemplar.Proofs.Discovery.Records

/-!
# What a field sees of a walk

A slot is changed by the records of its own field only: those in its class whose property has the
identifier of the field.  A walk seen from a slot is therefore a run over those records.  The first
of them makes the slot and gives it its property; each later one of the same property is counted and
may refine the evidence; one of another property is reported as a collision and leaves the slot as
it is.
-/

namespace Exemplar.Discovery

open Json Naming Reporting

theorem mergeEvidence_eq (name field : String) (evidence : Evidence) (isNull : Bool)
    (slot : Slot) :
    Draft.mergeEvidence name field evidence isNull slot =
      ({ slot with
          evidence := slot.evidence.keep evidence
          presentIn := slot.presentIn + 1
          nullIn := slot.nullIn + isNull.toNat },
        if slot.evidence.conflictsWith evidence then
          some (.typeConflict name field slot.evidence.describe evidence.describe)
        else none) := by
  unfold Draft.mergeEvidence Evidence.keep Evidence.conflictsWith
  cases hrefined : slot.evidence.isRefinedBy evidence with
  | true =>
      rw [(Evidence.deferred_of_isRefinedBy hrefined).1]
      rfl
  | false =>
      by_cases heq : slot.evidence = evidence
      · simp [heq]
      · cases slot.evidence.isDeferred <;> cases evidence.isDeferred <;> simp [heq]

/-- The slot that the first record of a field makes. -/
def firstSlot (record : Occurrence) : Slot :=
  ⟨record.property, record.evidence, 1, record.value.isNull.toNat⟩

/-- What one record of its field makes of a slot, which is there from the first record on. -/
def recordSlot (name field : String) (slot : Option Slot) (record : Occurrence) :
    Option Slot × Option Diagnostic :=
  match slot with
  | none => (some (firstSlot record), none)
  | some slot =>
      if slot.property = record.property then
        let merged := Draft.mergeEvidence name field record.evidence record.value.isNull slot
        (some merged.1, merged.2)
      else (some slot, some (.fieldCollision name field slot.property record.property))

theorem recordSlot_of_eq {slot : Slot} {record : Occurrence}
    (h : record.property = slot.property) (name field : String) :
    recordSlot name field (some slot) record =
      (some { slot with
          evidence := slot.evidence.keep record.evidence
          presentIn := slot.presentIn + 1
          nullIn := slot.nullIn + record.value.isNull.toNat },
        if slot.evidence.conflictsWith record.evidence then
          some (.typeConflict name field slot.evidence.describe record.evidence.describe)
        else none) := by
  simp only [recordSlot, h, if_true, mergeEvidence_eq]

theorem recordSlot_of_ne {slot : Slot} {record : Occurrence}
    (h : record.property ≠ slot.property) (name field : String) :
    recordSlot name field (some slot) record =
      (some slot, some (.fieldCollision name field slot.property record.property)) := by
  simp only [recordSlot, Ne.symm h, if_false]

/-- Whether a diagnostic is about what is recorded of a field of a class. -/
def isAbout (name field : String) : Diagnostic → Bool
  | .fieldCollision other otherField _ _ => other == name && otherField == field
  | .typeConflict other otherField _ _ => other == name && otherField == field
  | .shapeMismatch _ _ _ => false
  | .unresolved _ _ => false

theorem recordSlot_isAbout {name field : String} {slot : Option Slot} {record : Occurrence}
    {diagnostic : Diagnostic} (h : (recordSlot name field slot record).2 = some diagnostic) :
    isAbout name field diagnostic = true := by
  cases slot with
  | none => cases h
  | some slot =>
      by_cases hproperty : record.property = slot.property
      · rw [recordSlot_of_eq hproperty] at h
        obtain ⟨-, hconflict⟩ := Option.ite_none_right_eq_some.1 h
        cases hconflict
        simp [isAbout]
      · rw [recordSlot_of_ne hproperty] at h
        cases h
        simp [isAbout]

theorem filter_recordSlot (name field : String) (slot : Option Slot) (record : Occurrence) :
    (recordSlot name field slot record).2.filter (isAbout name field) =
      (recordSlot name field slot record).2 := by
  cases h : (recordSlot name field slot record).2 with
  | none => rfl
  | some diagnostic => exact Option.filter_some_eq_some.2 (recordSlot_isAbout h)

theorem isAbout_inj {name field other otherField : String} {diagnostic : Diagnostic}
    (h : isAbout name field diagnostic = true)
    (hother : isAbout other otherField diagnostic = true) : name = other ∧ field = otherField := by
  cases diagnostic <;> simp_all [isAbout]

/-- Recording reaches the slot of its own field only. -/
theorem record_lookup (draft : Draft) (name field other : String) (record : Occurrence) :
    (draft.record name field record.property record.evidence record.value.isNull).1.slots.lookup
        other =
      if other = field then (recordSlot name field (draft.slots.lookup field) record).1
      else draft.slots.lookup other := by
  by_cases hother : other = field
  · subst hother
    rw [if_pos rfl, Draft.record]
    cases hslot : draft.slots.lookup other with
    | none => exact Sorted.lookup_set_self _ _ _
    | some slot =>
        by_cases hproperty : slot.property = record.property
        · simp only [recordSlot, hproperty, if_true]
          exact Sorted.lookup_set_self _ _ _
        · simp only [recordSlot, hproperty, if_false]
          exact hslot
  · rw [if_neg hother, Draft.record]
    cases hslot : draft.slots.lookup field with
    | none => exact Sorted.lookup_set_of_ne hother _ _
    | some slot =>
        by_cases hproperty : slot.property = record.property
        · simp only [hproperty, if_true]
          exact Sorted.lookup_set_of_ne hother _ _
        · simp only [hproperty, if_false]

theorem record_report (draft : Draft) (name field : String) (record : Occurrence) :
    (draft.record name field record.property record.evidence record.value.isNull).2 =
      (recordSlot name field (draft.slots.lookup field) record).2 := by
  rw [Draft.record]
  cases hslot : draft.slots.lookup field with
  | none => rfl
  | some slot =>
      by_cases hproperty : slot.property = record.property
      · simp only [recordSlot, hproperty, if_true]
      · simp only [recordSlot, hproperty, if_false]

theorem observeShape_slots (name : String) (shape : List String) (draft : Draft) :
    (draft.observeShape name shape).1.slots = draft.slots := by
  unfold Draft.observeShape
  split
  · rfl
  · split <;> rfl

theorem observeShape_report {name field other : String} {shape : List String} {draft : Draft} :
    (draft.observeShape name shape).2.filter (isAbout other field) = none := by
  unfold Draft.observeShape
  split
  · rfl
  · split
    · rfl
    · rfl

/-- Whether a record is one of a field of a class. -/
def isRecordOf (fieldPrefix name field : String) (record : Occurrence) : Bool :=
  record.owner == name && record.field fieldPrefix == field

/-- The slot of a field in the draft of a class. -/
def slotIn (name field : String) (classes : List (String × Draft)) : Option Slot :=
  (draftIn name classes).slots.lookup field

theorem isRecordOf_iff {fieldPrefix name field : String} {record : Occurrence} :
    isRecordOf fieldPrefix name field record = true ↔
      record.owner = name ∧ record.field fieldPrefix = field := by
  simp [isRecordOf]

theorem filter_isRecordOf {fieldPrefix name field : String} {record own : Occurrence}
    (h : (some record).filter (isRecordOf fieldPrefix name field) = some own) :
    own = record ∧ record.owner = name ∧ record.field fieldPrefix = field := by
  obtain ⟨hown, hrecord⟩ := Option.filter_eq_some_iff.1 h
  cases hown
  exact ⟨rfl, isRecordOf_iff.1 hrecord⟩

/-- A record of another field leaves a slot as it is and says nothing about it. -/
theorem record_frame {fieldPrefix name field : String} {classes : List (String × Draft)}
    {record : Occurrence} (hrecord : isRecordOf fieldPrefix name field record = false) :
    slotIn name field (stepDrafts fieldPrefix classes (.member record)).1 =
        slotIn name field classes ∧
      (stepDrafts fieldPrefix classes (.member record)).2.filter (isAbout name field) = none := by
  have hne : ¬ (record.owner = name ∧ record.field fieldPrefix = field) := by
    rw [← isRecordOf_iff, hrecord]
    exact Bool.false_ne_true
  constructor
  · rw [slotIn, draftIn_stepDrafts]
    split
    · rename_i howner
      have hfield : field ≠ record.field fieldPrefix := fun h => hne ⟨howner, h.symm⟩
      exact (record_lookup _ _ _ _ _).trans (if_neg hfield)
    · rfl
  · apply Option.filter_eq_none_iff.2
    intro diagnostic hdiagnostic habout
    have hreport := record_report (draftIn record.owner classes) record.owner
      (record.field fieldPrefix) record
    have hown := recordSlot_isAbout (hreport.symm.trans hdiagnostic)
    exact hne (isAbout_inj hown habout)

/-- A step acts on a slot by the records of its field. -/
theorem stepDrafts_actsOn_slot (fieldPrefix name field : String) :
    ActsOn (stepDrafts fieldPrefix) (slotIn name field) (isAbout name field)
      (fun step => step.occurrence?.filter (isRecordOf fieldPrefix name field))
      (recordSlot name field) where
  picked := by
    intro classes step own hpick
    cases step with
    | enter other => cases hpick
    | object other members => cases hpick
    | member record =>
        obtain ⟨rfl, rfl, rfl⟩ := filter_isRecordOf hpick
        have hreport := record_report (draftIn own.owner classes) own.owner
          (own.field fieldPrefix) own
        constructor
        · have hclass : (Step.member own).className = own.owner := rfl
          rw [slotIn, draftIn_stepDrafts, if_pos hclass]
          exact (record_lookup _ _ _ _ _).trans (if_pos rfl)
        · exact (congrArg _ hreport).trans (filter_recordSlot _ _ _ _)
  other := by
    intro classes step hpick
    cases step with
    | enter other =>
        refine ⟨?_, rfl⟩
        rw [slotIn, draftIn_stepDrafts]
        split <;> rfl
    | object other members =>
        refine ⟨?_, observeShape_report⟩
        rw [slotIn, draftIn_stepDrafts]
        split
        · rw [Step.change, observeShape_slots]
          rfl
        · rfl
    | member record =>
        apply record_frame
        exact Bool.eq_false_iff.2 (Option.filter_eq_none_iff.1 hpick record rfl)

/-! ## What the records of a field add up to -/

/-- The slot after more records of its field: only those of its property count. -/
def slotAfter (slot : Slot) (records : List Occurrence) : Slot :=
  let own := records.filter (·.property == slot.property)
  { slot with
    evidence := slot.evidence.merge (own.map Occurrence.evidence)
    presentIn := slot.presentIn + own.length
    nullIn := slot.nullIn + own.countP (·.value.isNull) }

theorem slotAfter_cons_of_eq {slot : Slot} {record : Occurrence}
    (h : record.property = slot.property) (rest : List Occurrence) :
    slotAfter slot (record :: rest) =
      slotAfter { slot with
        evidence := slot.evidence.keep record.evidence
        presentIn := slot.presentIn + 1
        nullIn := slot.nullIn + record.value.isNull.toNat } rest := by
  simp only [slotAfter, h, List.filter_cons, beq_self_eq_true, if_true, List.map_cons,
    Evidence.merge_cons, List.length_cons, List.countP_cons, Slot.mk.injEq, true_and]
  constructor
  · omega
  · cases hnull : record.value.isNull with
    | true =>
        rw [Bool.toNat_true, if_pos rfl]
        omega
    | false =>
        rw [Bool.toNat_false, if_neg Bool.false_ne_true]
        omega

theorem slotAfter_cons_of_ne {slot : Slot} {record : Occurrence}
    (h : record.property ≠ slot.property) (rest : List Occurrence) :
    slotAfter slot (record :: rest) = slotAfter slot rest := by
  have hbeq : (record.property == slot.property) = false := beq_false_of_ne h
  simp only [slotAfter, List.filter_cons, hbeq, Bool.false_eq_true, if_false]

theorem run_recordSlot (name field : String) (slot : Slot) (records : List Occurrence) :
    (run (recordSlot name field) (some slot) records).1 = some (slotAfter slot records) := by
  induction records generalizing slot with
  | nil => rfl
  | cons record rest ih =>
      rw [run_cons]
      by_cases h : record.property = slot.property
      · rw [recordSlot_of_eq h, ih, slotAfter_cons_of_eq h]
      · rw [recordSlot_of_ne h, ih, slotAfter_cons_of_ne h]

def isConflict : Diagnostic → Bool
  | .typeConflict _ _ _ _ => true
  | _ => false

/-- The conflicts that are reported are those among the evidence of the property. -/
theorem conflicts_run (name field : String) (slot : Slot) (records : List Occurrence) :
    (run (recordSlot name field) (some slot) records).2.filter isConflict =
      (slot.evidence.conflicts
        ((records.filter (·.property == slot.property)).map Occurrence.evidence)).map
          fun pair => .typeConflict name field pair.1.describe pair.2.describe := by
  induction records generalizing slot with
  | nil => rfl
  | cons record rest ih =>
      rw [run_cons, List.filter_append]
      by_cases h : record.property = slot.property
      · have hbeq : (record.property == slot.property) = true := by simp [h]
        rw [recordSlot_of_eq h, ih, List.filter_cons, hbeq, if_pos rfl, List.map_cons,
          Evidence.conflicts]
        cases slot.evidence.conflictsWith record.evidence <;> rfl
      · have hbeq : (record.property == slot.property) = false := by simp [h]
        rw [recordSlot_of_ne h, ih, List.filter_cons, hbeq]
        rfl

def isCollision : Diagnostic → Bool
  | .fieldCollision _ _ _ _ => true
  | _ => false

/-- Every record of another property is reported as a collision, no other record is. -/
theorem collisions_run (name field : String) (slot : Slot) (records : List Occurrence) :
    (run (recordSlot name field) (some slot) records).2.filter isCollision =
      (records.filter (·.property != slot.property)).map fun record =>
        .fieldCollision name field slot.property record.property := by
  induction records generalizing slot with
  | nil => rfl
  | cons record rest ih =>
      rw [run_cons, List.filter_append]
      by_cases h : record.property = slot.property
      · have hbne : (record.property != slot.property) = false := by simp [h]
        rw [recordSlot_of_eq h, ih, List.filter_cons, hbne]
        cases slot.evidence.conflictsWith record.evidence <;> rfl
      · have hbne : (record.property != slot.property) = true := by simp [h]
        rw [recordSlot_of_ne h, ih, List.filter_cons, hbne]
        rfl

/-! ## The slots of a document -/

/-- The records of a field of a class, in the order in which they are made. -/
def fieldRecords (fieldPrefix root : String) (value : Value) (name field : String) :
    List Occurrence :=
  (recorded root value).filter (isRecordOf fieldPrefix name field)

/-- The records of a field of a class among some steps. -/
def recordsAmong (fieldPrefix name field : String) (steps : List Step) : List Occurrence :=
  steps.filterMap fun step => step.occurrence?.filter (isRecordOf fieldPrefix name field)

theorem recordsAmong_append (fieldPrefix name field : String) (first second : List Step) :
    recordsAmong fieldPrefix name field (first ++ second) =
      recordsAmong fieldPrefix name field first ++ recordsAmong fieldPrefix name field second :=
  List.filterMap_append

theorem recordsAmong_rootSteps (fieldPrefix root name field : String) (value : Value) :
    recordsAmong fieldPrefix name field (rootSteps root value) =
      fieldRecords fieldPrefix root value name field := by
  rw [fieldRecords, ← occurrence?_rootSteps, List.filter_filterMap, recordsAmong]

/-- Steps seen from a slot are a run over the records of its field. -/
theorem slotIn_run (fieldPrefix name field : String) (classes : List (String × Draft))
    (steps : List Step) :
    slotIn name field (run (stepDrafts fieldPrefix) classes steps).1 =
      (run (recordSlot name field) (slotIn name field classes)
        (recordsAmong fieldPrefix name field steps)).1 :=
  congrArg Prod.fst ((stepDrafts_actsOn_slot fieldPrefix name field).run_eq classes steps)

theorem slotIn_fresh (root name field : String) : slotIn name field [(root, {})] = none := by
  rw [slotIn, draftIn_fresh]
  rfl

/-- A walk seen from a slot is a run over the records of its field. -/
theorem slot_run (fieldPrefix root name field : String) (value : Value) :
    (slotIn name field (discovered fieldPrefix root value).classes,
        (discovered fieldPrefix root value).diagnostics.filter (isAbout name field)) =
      run (recordSlot name field) none (fieldRecords fieldPrefix root value name field) := by
  rw [discovered_classes, discovered_diagnostics,
    (stepDrafts_actsOn_slot fieldPrefix name field).run_eq, slotIn_fresh,
    ← recordsAmong_rootSteps, recordsAmong]

theorem slotIn_discovered (fieldPrefix root name field : String) (value : Value) :
    slotIn name field (discovered fieldPrefix root value).classes =
      (run (recordSlot name field) none (fieldRecords fieldPrefix root value name field)).1 :=
  congrArg Prod.fst (slot_run fieldPrefix root name field value)

theorem about_discovered (fieldPrefix root name field : String) (value : Value) :
    (discovered fieldPrefix root value).diagnostics.filter (isAbout name field) =
      (run (recordSlot name field) none (fieldRecords fieldPrefix root value name field)).2 :=
  congrArg Prod.snd (slot_run fieldPrefix root name field value)

theorem record_sorted {draft : Draft} (h : (draft.slots.map (·.1)).Pairwise (· < ·))
    (name field property : String) (evidence : Evidence) (isNull : Bool) :
    ((draft.record name field property evidence isNull).1.slots.map (·.1)).Pairwise (· < ·) := by
  unfold Draft.record
  split
  · exact Sorted.pairwise_keys_set h
  · split
    · exact Sorted.pairwise_keys_set h
    · exact h

/-- No step puts a slot out of the order of the fields. -/
theorem change_sorted {draft : Draft} (h : (draft.slots.map (·.1)).Pairwise (· < ·))
    (fieldPrefix : String) (step : Step) :
    ((step.change fieldPrefix draft).1.slots.map (·.1)).Pairwise (· < ·) := by
  cases step with
  | enter name => exact h
  | object name members =>
      rw [Step.change, observeShape_slots]
      exact h
  | member record => exact record_sorted h _ _ _ _ _

theorem run_sorted (fieldPrefix name : String) {classes : List (String × Draft)}
    (h : ((draftIn name classes).slots.map (·.1)).Pairwise (· < ·)) (steps : List Step) :
    ((draftIn name (run (stepDrafts fieldPrefix) classes steps).1).slots.map (·.1)).Pairwise
      (· < ·) := by
  induction steps generalizing classes with
  | nil => exact h
  | cons step rest ih =>
      apply ih
      rw [draftIn_stepDrafts]
      split
      · exact change_sorted h _ _
      · exact h

/-! ## The slots of a class -/

section FreshClass

variable {fieldPrefix name : String} {classes : List (String × Draft)} {steps : List Step}
  {draft : Draft}

theorem slots_sorted_run (hnodup : (classes.map (·.1)).Nodup) (hfresh : draftIn name classes = {})
    (hdraft : (name, draft) ∈ (run (stepDrafts fieldPrefix) classes steps).1) :
    (draft.slots.map (·.1)).Pairwise (· < ·) := by
  rw [← draftIn_of_mem (run_stepDrafts_nodup hnodup steps) hdraft]
  apply run_sorted
  rw [hfresh]
  exact List.Pairwise.nil

/-- The slots that a fresh class gets by some steps are those that the records of its fields
make. -/
theorem mem_slots_run {field : String} {slot : Slot} (hnodup : (classes.map (·.1)).Nodup)
    (hfresh : draftIn name classes = {})
    (hdraft : (name, draft) ∈ (run (stepDrafts fieldPrefix) classes steps).1) :
    (field, slot) ∈ draft.slots ↔
      ∃ first rest, recordsAmong fieldPrefix name field steps = first :: rest ∧
        slot = slotAfter (firstSlot first) rest := by
  have hslots := Sorted.nodup_of_pairwise (slots_sorted_run hnodup hfresh hdraft)
  have hnone : slotIn name field classes = none := by
    rw [slotIn, hfresh]
    rfl
  rw [← Roster.lookup_eq_some_iff_mem hslots,
    ← draftIn_of_mem (run_stepDrafts_nodup hnodup steps) hdraft]
  change slotIn name field _ = some slot ↔ _
  rw [slotIn_run, hnone]
  cases recordsAmong fieldPrefix name field steps with
  | nil => simp
  | cons first rest =>
      change (run (recordSlot name field) (some (firstSlot first)) rest).1 = _ ↔ _
      rw [run_recordSlot, Option.some_inj]
      constructor
      · intro h
        exact ⟨first, rest, rfl, h.symm⟩
      · rintro ⟨_, _, hrecords, rfl⟩
        cases hrecords
        rfl

end FreshClass

theorem discovered_sorted {fieldPrefix root name : String} {value : Value} {draft : Draft}
    (hdraft : (name, draft) ∈ (discovered fieldPrefix root value).classes) :
    (draft.slots.map (·.1)).Pairwise (· < ·) := by
  rw [discovered_classes] at hdraft
  exact slots_sorted_run (by simp) (draftIn_fresh root name) hdraft

/-- The slots of a class are those that the records of its fields make. -/
theorem mem_slots_iff {fieldPrefix root name field : String} {value : Value} {draft : Draft}
    {slot : Slot} (hdraft : (name, draft) ∈ (discovered fieldPrefix root value).classes) :
    (field, slot) ∈ draft.slots ↔
      ∃ first rest, fieldRecords fieldPrefix root value name field = first :: rest ∧
        slot = slotAfter (firstSlot first) rest := by
  rw [discovered_classes] at hdraft
  rw [mem_slots_run (by simp) (draftIn_fresh root name) hdraft, recordsAmong_rootSteps]

/-- What is reported about a field whose records are known. -/
theorem reports_discovered {fieldPrefix root name field : String} {value : Value}
    {first : Occurrence} {rest : List Occurrence}
    (hrecords : fieldRecords fieldPrefix root value name field = first :: rest) :
    (discovered fieldPrefix root value).diagnostics.filter (isAbout name field) =
      (run (recordSlot name field) (some (firstSlot first)) rest).2 := by
  rw [about_discovered, hrecords]
  rfl

end Exemplar.Discovery
