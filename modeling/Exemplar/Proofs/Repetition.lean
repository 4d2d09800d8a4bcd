import Exemplar.Proofs.Discovery.Shapes
import Exemplar.Proofs.Discovery.Visits

/-!
# The same document once more

A document that is taken in a second time meets its own classes and fields.  Each field keeps its
property and its type, since what gives way to one of its occurrences has given way to it before,
and each class its shape.  Only the counts go on, so that all of them are doubled.
-/

namespace Exemplar

open Discovery Json Naming Reporting

namespace Evidence

/-- What is kept of some occurrences gives way to none of them. -/
theorem keep_merge_of_mem {first next : Evidence} {later : List Evidence}
    (hmem : next ∈ first :: later) : (first.merge later).keep next = first.merge later := by
  apply keep_of_not_isRefinedBy
  rw [merge_eq_find]
  cases hfind : later.find? first.isRefinedBy with
  | some found =>
      have hconcrete := (deferred_of_isRefinedBy (List.find?_some hfind)).2
      rw [isRefinedBy_eq, Option.getD_some, hconcrete]
      rfl
  | none =>
      rcases List.mem_cons.1 hmem with rfl | hmem
      · rw [isRefinedBy_eq, Option.getD_none]
        cases next.isDeferred <;> rfl
      · exact Bool.eq_false_iff.2 (List.find?_eq_none.1 hfind next hmem)

theorem merge_again (first : Evidence) (later : List Evidence) :
    (first.merge later).merge (first :: later) = first.merge later := by
  have hkept : ∀ nexts : List Evidence, nexts ⊆ first :: later →
      (first.merge later).merge nexts = first.merge later := by
    intro nexts hsubset
    induction nexts with
    | nil => rfl
    | cons next rest ih =>
        obtain ⟨hnext, hrest⟩ := List.cons_subset.1 hsubset
        rw [merge_cons, keep_merge_of_mem hnext, ih hrest]
  exact hkept _ (List.Subset.refl _)

end Evidence

/-! ## Twice what was counted -/

def Slot.doubled (slot : Slot) : Slot :=
  { slot with presentIn := 2 * slot.presentIn, nullIn := 2 * slot.nullIn }

/-- The draft with the same fields, and of everything that it counts twice as much. -/
def Draft.doubled (draft : Draft) : Draft :=
  { draft with
    slots := draft.slots.map fun entry => (entry.1, entry.2.doubled)
    seenObjects := 2 * draft.seenObjects }

namespace Discovery

variable {fieldPrefix root name : String} {value : Value} {draft : Draft}

/-- The drafts once the steps of a document were made again. -/
def draftsAgain (fieldPrefix root : String) (value : Value) : List (String × Draft) :=
  (run (stepDrafts fieldPrefix) (discovered fieldPrefix root value).classes
    (rootSteps root value)).1

theorem slotAfter_again (first : Occurrence) (rest : List Occurrence) :
    slotAfter (slotAfter (firstSlot first) rest) (first :: rest) =
      (slotAfter (firstSlot first) rest).doubled := by
  have hown : (first :: rest).filter (·.property == first.property) =
      first :: rest.filter (·.property == first.property) :=
    List.filter_cons_of_pos (beq_self_eq_true _)
  simp only [slotAfter, firstSlot, hown, List.map_cons, Evidence.merge_again, List.length_cons,
    List.countP_cons, Slot.doubled, Slot.mk.injEq, true_and]
  constructor
  · omega
  · cases first.value.isNull with
    | true =>
        rw [Bool.toNat_true, if_pos rfl]
        omega
    | false =>
        rw [Bool.toNat_false, if_neg Bool.false_ne_true]
        omega

theorem slotIn_again (fieldPrefix root : String) (value : Value) (name field : String) :
    slotIn name field (draftsAgain fieldPrefix root value) =
      (slotIn name field (discovered fieldPrefix root value).classes).map Slot.doubled := by
  rw [draftsAgain, slotIn_run, recordsAmong_rootSteps, slotIn_discovered]
  cases fieldRecords fieldPrefix root value name field with
  | nil => rfl
  | cons first rest =>
      have honce : (run (recordSlot name field) none (first :: rest)).1 =
          some (slotAfter (firstSlot first) rest) :=
        run_recordSlot name field (firstSlot first) rest
      rw [honce, run_recordSlot, slotAfter_again]
      rfl

/-! ## The classes -/

/-- A class that came up before the steps of a document are made again does not come up then. -/
theorem keys_again (fieldPrefix root : String) (value : Value) :
    (draftsAgain fieldPrefix root value).map (·.1) =
      (discovered fieldPrefix root value).classes.map (·.1) := by
  rw [draftsAgain, keys_run, comeUp_eq]
  have hnone : ((rootSteps root value).map Step.className).filter
      (!((discovered fieldPrefix root value).classes.map (·.1)).contains ·) = [] := by
    apply List.filter_eq_nil_iff.2
    intro name hname
    obtain ⟨step, hstep, rfl⟩ := List.mem_map.1 hname
    have hknown : (discovered fieldPrefix root value).knows step.className = true :=
      knows_applyAll.2 (.inr ⟨step, hstep, rfl⟩)
    simpa using Roster.contains_iff_mem.1 hknown
  rw [hnone]
  exact List.append_nil _

theorem seenObjects_again (fieldPrefix root : String) (value : Value) (name : String) :
    (draftIn name (draftsAgain fieldPrefix root value)).seenObjects =
      2 * (draftIn name (discovered fieldPrefix root value).classes).seenObjects := by
  rw [draftsAgain, seenObjects_run, discovered_classes, seenObjects_run, draftIn_fresh,
    Nat.zero_add]
  exact (Nat.two_mul _).symm

theorem slots_again (hdraft : (name, draft) ∈ (discovered fieldPrefix root value).classes) :
    (draftIn name (draftsAgain fieldPrefix root value)).slots = draft.doubled.slots := by
  have hsorted := discovered_sorted hdraft
  have honce := draftIn_discovered hdraft
  have hagain : ((draftIn name (draftsAgain fieldPrefix root value)).slots.map (·.1)).Pairwise
      (· < ·) := by
    apply run_sorted
    rwa [honce]
  have hslot : ∀ field, (draftIn name (draftsAgain fieldPrefix root value)).slots.lookup field =
      (draft.slots.lookup field).map Slot.doubled := by
    intro field
    have h := slotIn_again fieldPrefix root value name field
    rwa [slotIn, slotIn, honce] at h
  have hkeys : (draftIn name (draftsAgain fieldPrefix root value)).slots.map (·.1) =
      draft.slots.map (·.1) := by
    apply Sorted.eq_of_mem_iff hagain hsorted
    intro field
    rw [← Roster.contains_iff_mem, ← Roster.contains_iff_mem, Roster.contains, Roster.contains,
      hslot, Option.isSome_map]
  apply Roster.eq_map_of_map_eq hkeys
  rintro ⟨field, slot⟩ hslotOnce ⟨_, twin⟩ hslotAgain rfl
  have hfound := (Roster.lookup_eq_some_iff_mem (Sorted.nodup_of_pairwise hagain)).2 hslotAgain
  rw [hslot, (Roster.lookup_eq_some_iff_mem (Sorted.nodup_of_pairwise hsorted)).2 hslotOnce]
    at hfound
  rw [← Option.some.inj hfound]

theorem draftIn_again (hdraft : (name, draft) ∈ (discovered fieldPrefix root value).classes) :
    draftIn name (draftsAgain fieldPrefix root value) = draft.doubled := by
  have hslots := slots_again hdraft
  have hseen := seenObjects_again fieldPrefix root value name
  have hshapes := (shapes_again fieldPrefix name [(root, {})] (rootSteps root value)).1
  rw [← discovered_classes, ← draftsAgain] at hshapes
  obtain ⟨hshape, hreported⟩ := Prod.mk.inj hshapes
  rw [draftIn_discovered hdraft] at hseen hshape hreported
  calc
    draftIn name (draftsAgain fieldPrefix root value) =
        ⟨(draftIn name (draftsAgain fieldPrefix root value)).slots,
          (draftIn name (draftsAgain fieldPrefix root value)).seenObjects,
          (draftIn name (draftsAgain fieldPrefix root value)).shape,
          (draftIn name (draftsAgain fieldPrefix root value)).mismatchReported⟩ := rfl
    _ = draft.doubled := by
      rw [hslots, hseen, hshape, hreported]
      rfl

theorem classes_again (fieldPrefix root : String) (value : Value) :
    draftsAgain fieldPrefix root value =
      (discovered fieldPrefix root value).classes.map fun entry => (entry.1, entry.2.doubled) := by
  have hkeys := keys_again fieldPrefix root value
  have hnodup : ((draftsAgain fieldPrefix root value).map (·.1)).Nodup := by
    rw [hkeys]
    exact discovered_nodup fieldPrefix root value
  apply Roster.eq_map_of_map_eq hkeys
  rintro ⟨name, draft⟩ hdraft ⟨_, twin⟩ htwin rfl
  have hfound := (Roster.lookup_eq_some_iff_mem hnodup).2 htwin
  have hagain := draftIn_again hdraft
  rw [draftIn, hfound] at hagain
  rw [← hagain]
  rfl

/-! ## Taking a document in twice -/

def isMismatch : Diagnostic → Bool
  | .shapeMismatch _ _ _ => true
  | _ => false

theorem isMismatch_eq_false_of_filter {reports : List Diagnostic}
    (h : ∀ name, reports.filter (isMismatchOf name) = []) :
    ∀ diagnostic ∈ reports, isMismatch diagnostic = false := by
  intro diagnostic hdiagnostic
  cases diagnostic with
  | shapeMismatch name expected found =>
      exact absurd (beq_self_eq_true name) (List.filter_eq_nil_iff.1 (h name) _ hdiagnostic)
  | _ => rfl

/-- Bringing up the root class again changes nothing but the journal. -/
theorem openRoot_again (fieldPrefix root : String) (value : Value) :
    let opened := openRoot root (discovered fieldPrefix root value)
    opened.fieldPrefix = fieldPrefix ∧
      opened.classes = (discovered fieldPrefix root value).classes ∧
      opened.diagnostics = (discovered fieldPrefix root value).diagnostics := by
  have hknows : (discovered fieldPrefix root value).knows root = true :=
    knows_applyAll_of_knows _ (openRoot_knows root _)
  rw [openRoot, withClass_of_knows hknows]
  exact ⟨applyAll_fieldPrefix _ _, rfl, rfl⟩

/-- Taking in a document twice finds the same classes, with the same fields, properties and types,
as taking it in once.  Everything that is counted is counted twice, and no shape is reported that was
not reported before. -/
theorem observe_twice (root : String) {value : Value} (hvalue : isRoot value = true)
    (fieldPrefix : String) :
    ∃ once twice, observe root value { fieldPrefix } = (.ok (), once) ∧
      observe root value once = (.ok (), twice) ∧
      twice.classes = once.classes.map (fun entry => (entry.1, entry.2.doubled)) ∧
      ∃ added, twice.diagnostics = once.diagnostics ++ added ∧
        ∀ diagnostic ∈ added, isMismatch diagnostic = false := by
  obtain ⟨hsame, hopened, hreported⟩ := openRoot_again fieldPrefix root value
  obtain ⟨hclasses, hdiagnostics⟩ :=
    applyAll_eq_run (openRoot root (discovered fieldPrefix root value)) (rootSteps root value)
  rw [hsame, hopened] at hclasses hdiagnostics
  rw [hreported] at hdiagnostics
  refine ⟨_, _, observe_fresh hvalue fieldPrefix, observe_run hvalue _, ?_, _, hdiagnostics, ?_⟩
  · exact hclasses.trans (classes_again fieldPrefix root value)
  · apply isMismatch_eq_false_of_filter
    intro name
    rw [discovered_classes]
    exact (shapes_again fieldPrefix name [(root, {})] (rootSteps root value)).2

/-- Objects of several shapes in one class, with a null before a number and a text. -/
def mixedItems : Value :=
  .object [("items", .array [
    .object [("a", .null)],
    .object [("a", .number (.integer 1)), ("b", .array [])],
    .object [("a", .string "x")]])]

theorem observe_twice_mixedItems :
    isRoot mixedItems = true ∧
      ∃ once twice, observe "Root" mixedItems { fieldPrefix := "m" } = (.ok (), once) ∧
        observe "Root" mixedItems once = (.ok (), twice) ∧
        ("Item", ⟨[("mA", ⟨"a", .scalar .integer, 6, 2⟩), ("mB", ⟨"b", .deferredList, 2, 0⟩)], 6,
          some ["mA"], true⟩) ∈ twice.classes := by
  have hroot : isRoot mixedItems = true := rfl
  obtain ⟨once, twice, honce, htwice, hclasses, -⟩ := observe_twice "Root" hroot "m"
  have hdiscovery := (Prod.mk.inj ((observe_fresh hroot "m").symm.trans honce)).2
  have hclass :
      ("Item", ⟨[("mA", ⟨"a", .scalar .integer, 3, 1⟩), ("mB", ⟨"b", .deferredList, 1, 0⟩)], 3,
        some ["mA"], true⟩) ∈ (discovered "m" "Root" mixedItems).classes := by
    decide +kernel
  rw [hdiscovery] at hclass
  refine ⟨hroot, once, twice, honce, htwice, ?_⟩
  rw [hclasses]
  exact List.mem_map.2 ⟨_, hclass, rfl⟩

end Discovery

end Exemplar
