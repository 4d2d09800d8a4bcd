import Exemplar.Proofs.Discovery.Known
import Exemplar.Proofs.Discovery.Slots

/-!
# Documents in a series

Documents are taken in one after the other, under root names of their own.  Whatever can be
discovered is discovered from such a series.  It does what one walk over the steps of all of them
does, so that the classes are those with an object in one of the documents, and every field is what
its records in all of them make of it.
-/

namespace Exemplar.Discovery

open Json Naming Reporting

/-- What is discovered of documents, each under its root name.  A document that is turned down
changes nothing. -/
def discoveredAll (fieldPrefix : String) (documents : List (String × Value)) : Discovery :=
  documents.foldl (fun discovery document => (observe document.1 document.2 discovery).2)
    { fieldPrefix }

/-- The steps of a document, from the one by which its root class comes up. -/
def documentSteps (document : String × Value) : List Step :=
  if isRoot document.2 then .enter document.1 :: rootSteps document.1 document.2 else []

/-- The steps of all documents of a series. -/
def seriesSteps (documents : List (String × Value)) : List Step :=
  documents.flatMap documentSteps

/-- Whether a document of a series has an object that belongs to a class. -/
def HasObject (documents : List (String × Value)) (name : String) : Prop :=
  ∃ document ∈ documents, ∃ members, (name, members) ∈ visited document.1 document.2

/-! ## The run over a series -/

theorem observe_eq_run (document : String × Value) (discovery : Discovery) :
    let after := (observe document.1 document.2 discovery).2
    let made := run (stepDrafts discovery.fieldPrefix) discovery.classes (documentSteps document)
    after.fieldPrefix = discovery.fieldPrefix ∧ after.classes = made.1 ∧
      after.diagnostics = discovery.diagnostics ++ made.2 := by
  cases hvalue : isRoot document.2 with
  | false =>
      rw [observe_turned_down hvalue, documentSteps, hvalue]
      exact ⟨rfl, rfl, (List.append_nil _).symm⟩
  | true =>
      rw [observe_run hvalue, documentSteps, hvalue, if_pos rfl, run_cons]
      -- Opening the root changes what the first step of its class changes, and names the root.
      have hfieldPrefix : (openRoot document.1 discovery).fieldPrefix = discovery.fieldPrefix :=
        apply_fieldPrefix discovery (.enter document.1)
      have hclasses : (openRoot document.1 discovery).classes =
          (stepDrafts discovery.fieldPrefix discovery.classes (.enter document.1)).1 :=
        apply_classes discovery (.enter document.1)
      have hdiagnostics : (openRoot document.1 discovery).diagnostics = discovery.diagnostics ++
          (stepDrafts discovery.fieldPrefix discovery.classes (.enter document.1)).2.toList :=
        apply_diagnostics discovery (.enter document.1)
      obtain ⟨hdrafts, hreported⟩ :=
        applyAll_eq_run (openRoot document.1 discovery) (rootSteps document.1 document.2)
      rw [hfieldPrefix, hclasses] at hdrafts hreported
      rw [hdiagnostics, List.append_assoc] at hreported
      exact ⟨(applyAll_fieldPrefix _ _).trans hfieldPrefix, hdrafts, hreported⟩

theorem discoveredAll_eq_run (fieldPrefix : String) (documents : List (String × Value)) :
    let made := run (stepDrafts fieldPrefix) [] (seriesSteps documents)
    (discoveredAll fieldPrefix documents).classes = made.1 ∧
      (discoveredAll fieldPrefix documents).diagnostics = made.2 := by
  have hseries : ∀ discovery : Discovery, discovery.fieldPrefix = fieldPrefix →
      let after := documents.foldl
        (fun discovery document => (observe document.1 document.2 discovery).2) discovery
      let made := run (stepDrafts fieldPrefix) discovery.classes (seriesSteps documents)
      after.classes = made.1 ∧ after.diagnostics = discovery.diagnostics ++ made.2 := by
    induction documents with
    | nil => exact fun discovery _ => ⟨rfl, (List.append_nil _).symm⟩
    | cons document rest ih =>
        rintro discovery rfl
        obtain ⟨hfieldPrefix, hclasses, hdiagnostics⟩ := observe_eq_run document discovery
        obtain ⟨hrest, hreported⟩ := ih _ hfieldPrefix
        rw [hclasses] at hrest hreported
        rw [hdiagnostics] at hreported
        simp only [List.foldl_cons, seriesSteps, List.flatMap_cons, run_append]
        exact ⟨hrest, by rw [← List.append_assoc]; exact hreported⟩
  exact hseries { fieldPrefix } rfl

/-! ## The classes of a series -/

/-- A document that is turned down has no object of a class. -/
theorem visited_eq_nil {root : String} {value : Value} (hvalue : isRoot value = false) :
    visited root value = [] := by
  have hobjects : rootObjects value = [] := by
    cases value with
    | object members => exact absurd hvalue.symm Bool.false_ne_true
    | array elements =>
        apply List.filterMap_eq_nil_iff.2
        intro element helement
        cases element with
        | object members => exact absurd rfl (List.any_eq_false.1 hvalue _ helement)
        | _ => rfl
    | _ => rfl
  rw [visited, hobjects, List.flatMap_nil]

/-- The steps of a document are those of the classes with an object in it. -/
theorem exists_step_iff (document : String × Value) (name : String) :
    (∃ step ∈ documentSteps document, step.className = name) ↔
      ∃ members, (name, members) ∈ visited document.1 document.2 := by
  cases hvalue : isRoot document.2 with
  | false => simp [documentSteps, hvalue, visited_eq_nil hvalue]
  | true =>
      have hopened : (openRoot document.1 { fieldPrefix := "" }).knows name = true ↔
          document.1 = name := by
        rw [knows, openRoot, withClass_classes, Roster.contains_set]
        simp [Roster.contains]
      have hknown : (discovered "" document.1 document.2).knows name = true ↔
          name ∈ (visited document.1 document.2).map (·.1) := knows_discovered hvalue "" name
      rw [discovered, knows_applyAll, hopened] at hknown
      rw [documentSteps, hvalue, if_pos rfl]
      simp only [List.mem_cons, exists_eq_or_imp]
      exact hknown.trans (by simp)

/-- The classes that are known are those with an object in one of the documents, whichever. -/
theorem knows_discoveredAll {fieldPrefix : String} {documents : List (String × Value)}
    {name : String} :
    (discoveredAll fieldPrefix documents).knows name = true ↔ HasObject documents name := by
  rw [knows, Roster.contains_iff_mem, (discoveredAll_eq_run fieldPrefix documents).1, keys_run,
    List.map_nil, comeUp_nil, List.mem_eraseDups, List.mem_map]
  simp only [seriesSteps, List.mem_flatMap, HasObject, ← exists_step_iff]
  constructor
  · rintro ⟨step, ⟨document, hdocument, hstep⟩, rfl⟩
    exact ⟨document, hdocument, step, hstep, rfl⟩
  · rintro ⟨document, hdocument, step, hstep, rfl⟩
    exact ⟨step, ⟨document, hdocument, hstep⟩, rfl⟩

theorem discoveredAll_nodup (fieldPrefix : String) (documents : List (String × Value)) :
    ((discoveredAll fieldPrefix documents).classes.map (·.1)).Nodup := by
  rw [(discoveredAll_eq_run fieldPrefix documents).1]
  exact run_stepDrafts_nodup (by simp) _

/-! ## The fields of a series -/

variable {fieldPrefix name : String} {documents : List (String × Value)} {draft : Draft}

theorem discoveredAll_sorted
    (hdraft : (name, draft) ∈ (discoveredAll fieldPrefix documents).classes) :
    (draft.slots.map (·.1)).Pairwise (· < ·) := by
  rw [(discoveredAll_eq_run fieldPrefix documents).1] at hdraft
  exact slots_sorted_run (by simp) (by rfl) hdraft

/-- The fields of a class are those that their records in all documents make. -/
theorem mem_slots_discoveredAll {field : String} {slot : Slot}
    (hdraft : (name, draft) ∈ (discoveredAll fieldPrefix documents).classes) :
    (field, slot) ∈ draft.slots ↔
      ∃ first rest, recordsAmong fieldPrefix name field (seriesSteps documents) = first :: rest ∧
        slot = slotAfter (firstSlot first) rest := by
  rw [(discoveredAll_eq_run fieldPrefix documents).1] at hdraft
  exact mem_slots_run (by simp) (by rfl) hdraft

end Exemplar.Discovery
