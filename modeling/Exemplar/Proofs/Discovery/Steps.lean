import Exemplar.Discovery.Basic
import Exemplar.Proofs.Reporting

/-!
# The steps of a walk

What a walk does next depends on the document alone, never on what it has discovered.  A document
therefore gives a list of steps, and a walk makes them one after the other.  Each step changes the
draft of one class and nothing else of the drafts, so that all that is to be known about a walk
follows from what one step does to one draft.
-/

namespace Exemplar.Discovery

open Json Naming Reporting

/-- A key in an object of the class `owner`, with its value. -/
structure Occurrence where
  owner : String
  property : String
  value : Value

inductive Step where
  /-- A class comes up. -/
  | enter (className : String)
  /-- An object of a class is counted. -/
  | object (className : String) (members : Members)
  /-- A member of an object is recorded. -/
  | member (occurrence : Occurrence)

namespace Step

/-- The class whose draft a step changes. -/
def className : Step → String
  | .enter name => name
  | .object name _ => name
  | .member occurrence => occurrence.owner

def object? : Step → Option (String × Members)
  | .object name members => some (name, members)
  | _ => none

def occurrence? : Step → Option Occurrence
  | .member occurrence => some occurrence
  | _ => none

end Step

/-! ## The steps that a document gives -/

mutual

/-- The steps for a value, whose classes are given as for `walkValue`. -/
def valueSteps (own element : String) : Value → List Step
  | .object members => .enter own :: .object own members :: membersSteps own members
  | .array elements => elementsSteps element elements
  | _ => []

def membersSteps (owner : String) : List (String × Value) → List Step
  | [] => []
  | entry :: rest => memberSteps owner entry ++ membersSteps owner rest

/-- A member is recorded after the steps for its value. -/
def memberSteps (owner : String) : String × Value → List Step
  | (property, value) =>
      valueSteps (className property) (elementClassName property) value ++
        [.member ⟨owner, property, value⟩]

def elementsSteps (element : String) : List Value → List Step
  | [] => []
  | value :: rest => valueSteps element element value ++ elementsSteps element rest

end

/-- The objects that a document puts into its root class: itself, or those among its elements. -/
def rootObjects : Value → List Members
  | .object members => [members]
  | .array elements => elements.filterMap fun
      | .object members => some members
      | _ => none
  | _ => []

/-- The steps for one object of the root class. -/
def rootObjectSteps (root : String) (members : Members) : List Step :=
  .object root members :: membersSteps root members

/-- The steps for a document, once its root class has come up. -/
def rootSteps (root : String) (value : Value) : List Step :=
  (rootObjects value).flatMap (rootObjectSteps root)

/-! ## What a step does -/

/-- The evidence of a property depends on whether the value is an object, and on the evidence of its
first elements. -/
theorem evidenceOf_eq (known : Known) (property : String) (value : Value) :
    evidenceOf known singular property value =
      if value.isObject then objectEvidence known (className property)
      else (elementEvidence known (className (singular property)) value).map (·.getD .deferred) := by
  cases value <;> rfl

/-- The evidence of the value of a property once every class that it needs has come up. -/
def settledEvidence (property : String) (value : Value) : Evidence :=
  match evidenceOf (fun _ => true) singular property value with
  | .ok evidence => evidence
  | .error _ => .deferred

def Occurrence.evidence (occurrence : Occurrence) : Evidence :=
  settledEvidence occurrence.property occurrence.value

/-- The identifier of the field to which an occurrence belongs. -/
def Occurrence.field (fieldPrefix : String) (occurrence : Occurrence) : String :=
  fieldName fieldPrefix occurrence.property

/-- What a step makes of the draft of its class. -/
def Step.change (fieldPrefix : String) : Step → Draft → Draft × Option Diagnostic
  | .enter _, draft => (draft, none)
  | .object name members, draft => draft.observeShape name (shapeOf fieldPrefix members)
  | .member occurrence, draft =>
      draft.record occurrence.owner (occurrence.field fieldPrefix) occurrence.property
        occurrence.evidence occurrence.value.isNull

/-- The draft of a class; an empty one before the class has come up. -/
def draftIn (name : String) (classes : List (String × Draft)) : Draft :=
  (classes.lookup name).getD {}

theorem draftIn_of_mem {name : String} {draft : Draft} {classes : List (String × Draft)}
    (hnodup : (classes.map (·.1)).Nodup) (hdraft : (name, draft) ∈ classes) :
    draftIn name classes = draft := by
  rw [draftIn, (Roster.lookup_eq_some_iff_mem hnodup).2 hdraft]
  rfl

/-- What a step makes of the drafts. -/
def stepDrafts (fieldPrefix : String) (classes : List (String × Draft)) (step : Step) :
    List (String × Draft) × Option Diagnostic :=
  let changed := step.change fieldPrefix (draftIn step.className classes)
  (Roster.set step.className changed.1 classes, changed.2)

/-- A step reaches the draft of its own class only. -/
theorem draftIn_stepDrafts (fieldPrefix : String) (classes : List (String × Draft)) (step : Step)
    (name : String) :
    draftIn name (stepDrafts fieldPrefix classes step).1 =
      if step.className = name then (step.change fieldPrefix (draftIn name classes)).1
      else draftIn name classes := by
  by_cases hname : step.className = name
  · subst hname
    rw [if_pos rfl]
    simp only [stepDrafts, draftIn, Roster.lookup_set_self, Option.getD_some]
  · rw [if_neg hname]
    simp only [stepDrafts, draftIn, Roster.lookup_set_of_ne (Ne.symm hname)]

/-- The discovery after a step. -/
def apply (discovery : Discovery) : Step → Discovery
  | .enter name => discovery.withClass name
  | step =>
      let changed := stepDrafts discovery.fieldPrefix discovery.classes step
      report changed.2 { discovery with classes := changed.1 }

@[simp]
theorem report_fieldPrefix (diagnostic : Option Diagnostic) (discovery : Discovery) :
    (report diagnostic discovery).fieldPrefix = discovery.fieldPrefix := by
  cases diagnostic <;> rfl

@[simp]
theorem report_root (diagnostic : Option Diagnostic) (discovery : Discovery) :
    (report diagnostic discovery).root = discovery.root := by
  cases diagnostic <;> rfl

@[simp]
theorem report_classes (diagnostic : Option Diagnostic) (discovery : Discovery) :
    (report diagnostic discovery).classes = discovery.classes := by
  cases diagnostic <;> rfl

theorem report_diagnostics (diagnostic : Option Diagnostic) (discovery : Discovery) :
    (report diagnostic discovery).diagnostics =
      discovery.diagnostics ++ diagnostic.toList := by
  cases diagnostic with
  | none => exact (List.append_nil _).symm
  | some diagnostic => rfl

/-- A class comes up by a step that changes nothing in its draft. -/
theorem withClass_classes (name : String) (discovery : Discovery) :
    (discovery.withClass name).classes =
      Roster.set name (draftIn name discovery.classes) discovery.classes := by
  unfold withClass draftIn knows Roster.contains
  cases hlookup : discovery.classes.lookup name with
  | none => rfl
  | some draft => exact (Roster.set_eq_self hlookup).symm

theorem withClass_eq (name : String) (discovery : Discovery) :
    ∃ journal, discovery.withClass name =
      { discovery with classes := (discovery.withClass name).classes, journal } := by
  unfold withClass
  split
  · exact ⟨_, rfl⟩
  · exact ⟨_, rfl⟩

/-- A class that is known comes up again in the journal only. -/
theorem withClass_of_knows {name : String} {discovery : Discovery}
    (hknows : discovery.knows name = true) :
    discovery.withClass name =
      { discovery with journal := discovery.journal ++ [.mergedClass name] } := if_pos hknows

theorem apply_fieldPrefix (discovery : Discovery) (step : Step) :
    (discovery.apply step).fieldPrefix = discovery.fieldPrefix := by
  cases step with
  | enter name =>
      obtain ⟨journal, heq⟩ := withClass_eq name discovery
      rw [apply, heq]
  | object name members => simp [apply]
  | member occurrence => simp [apply]

theorem apply_root (discovery : Discovery) (step : Step) :
    (discovery.apply step).root = discovery.root := by
  cases step with
  | enter name =>
      obtain ⟨journal, heq⟩ := withClass_eq name discovery
      rw [apply, heq]
  | object name members => simp [apply]
  | member occurrence => simp [apply]

theorem apply_classes (discovery : Discovery) (step : Step) :
    (discovery.apply step).classes =
      (stepDrafts discovery.fieldPrefix discovery.classes step).1 := by
  cases step with
  | enter name => exact withClass_classes name discovery
  | object name members => simp [apply]
  | member occurrence => simp [apply]

theorem apply_diagnostics (discovery : Discovery) (step : Step) :
    (discovery.apply step).diagnostics =
      discovery.diagnostics ++
        (stepDrafts discovery.fieldPrefix discovery.classes step).2.toList := by
  cases step with
  | enter name =>
      obtain ⟨journal, heq⟩ := withClass_eq name discovery
      rw [apply, heq]
      exact (List.append_nil _).symm
  | object name members => exact report_diagnostics _ _
  | member occurrence => exact report_diagnostics _ _

/-- The discovery after all of a list of steps. -/
def applyAll (discovery : Discovery) (steps : List Step) : Discovery :=
  steps.foldl apply discovery

@[simp]
theorem applyAll_nil (discovery : Discovery) : discovery.applyAll [] = discovery := rfl

theorem applyAll_cons (discovery : Discovery) (step : Step) (rest : List Step) :
    discovery.applyAll (step :: rest) = (discovery.apply step).applyAll rest := rfl

theorem applyAll_append (discovery : Discovery) (first second : List Step) :
    discovery.applyAll (first ++ second) = (discovery.applyAll first).applyAll second :=
  List.foldl_append

theorem applyAll_fieldPrefix (discovery : Discovery) (steps : List Step) :
    (discovery.applyAll steps).fieldPrefix = discovery.fieldPrefix := by
  induction steps generalizing discovery with
  | nil => rfl
  | cons step rest ih => rw [applyAll_cons, ih, apply_fieldPrefix]

theorem applyAll_root (discovery : Discovery) (steps : List Step) :
    (discovery.applyAll steps).root = discovery.root := by
  induction steps generalizing discovery with
  | nil => rfl
  | cons step rest ih => rw [applyAll_cons, ih, apply_root]

/-- The drafts after a list of steps, and what was reported, as one run over the drafts alone. -/
theorem applyAll_eq_run (discovery : Discovery) (steps : List Step) :
    (discovery.applyAll steps).classes =
        (run (stepDrafts discovery.fieldPrefix) discovery.classes steps).1 ∧
      (discovery.applyAll steps).diagnostics = discovery.diagnostics ++
        (run (stepDrafts discovery.fieldPrefix) discovery.classes steps).2 := by
  induction steps generalizing discovery with
  | nil => exact ⟨rfl, (List.append_nil _).symm⟩
  | cons step rest ih =>
      obtain ⟨hclasses, hdiagnostics⟩ := ih (discovery.apply step)
      rw [apply_fieldPrefix, apply_classes] at hclasses hdiagnostics
      rw [applyAll_cons, run_cons, hclasses, hdiagnostics, apply_diagnostics, List.append_assoc]
      exact ⟨rfl, rfl⟩

theorem run_stepDrafts_nodup {fieldPrefix : String} {classes : List (String × Draft)}
    (hnodup : (classes.map (·.1)).Nodup) (steps : List Step) :
    ((run (stepDrafts fieldPrefix) classes steps).1.map (·.1)).Nodup := by
  induction steps generalizing classes with
  | nil => exact hnodup
  | cons step rest ih => exact ih (Roster.nodup_keys_set hnodup)

/-! ## The classes that steps make known -/

theorem knows_apply (discovery : Discovery) (step : Step) (name : String) :
    (discovery.apply step).knows name = (step.className == name || discovery.knows name) := by
  rw [knows, apply_classes, stepDrafts, Roster.contains_set]
  rfl

/-- A class is known after some steps if it was before or if one of them was a step of it. -/
theorem knows_applyAll {discovery : Discovery} {steps : List Step} {name : String} :
    (discovery.applyAll steps).knows name = true ↔
      discovery.knows name = true ∨ ∃ step ∈ steps, step.className = name := by
  induction steps generalizing discovery with
  | nil => simp
  | cons step rest ih =>
      rw [applyAll_cons, ih, knows_apply, Bool.or_eq_true, beq_iff_eq]
      simp only [List.mem_cons, exists_eq_or_imp]
      rw [or_comm (a := step.className = name), or_assoc]

theorem knows_applyAll_of_knows {discovery : Discovery} (steps : List Step) {name : String}
    (hknows : discovery.knows name = true) : (discovery.applyAll steps).knows name = true :=
  knows_applyAll.2 (.inl hknows)

end Exemplar.Discovery
