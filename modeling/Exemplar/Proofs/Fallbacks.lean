import Mathlib.Data.List.Forall2
import Mathlib.Data.List.Nodup
import Mathlib.Logic.Function.Iterate
import Exemplar.Proofs.Discovery.Series
import Exemplar.Proofs.KeyOrder

/-!
# Fallbacks

What documents leave open of the type of a field is looked up among the classes that they have
objects of, no matter which came first.  A field that is looked up in vain falls back to `any`, under
as many lists as are known of it.  Every such field is reported once, by the resolution alone.
-/

namespace Exemplar

open Discovery Json Naming Reporting

/-- The type that evidence states by itself, if it is concrete. -/
def Evidence.stated? : Evidence → Option Ty
  | .scalar kind => some (Resolution.Scalar.toTy kind)
  | .object name => some (.named name)
  | .list element => element.stated?.map .list
  | .deferred | .deferredList => none

namespace Resolution

/-! ## Specification -/

/-- The type that a field has for what is kept of its evidence, where `hasObject` tells the classes
that objects belong to. -/
structure ResolvesTo (hasObject : String → Prop) (property : String) (evidence : Evidence)
    (ty : Ty) : Prop where
  /-- What leaves the type open is a null, or lists of which the innermost does. -/
  form : evidence.isDeferred = true →
    evidence = .deferred ∨ ∃ depth, evidence = Evidence.list^[depth] .deferredList
  ofConcrete : evidence.isDeferred = false → evidence.stated? = some ty
  ofNull : evidence = .deferred →
    (ty = .named (className property) ↔ hasObject (className property)) ∧
      (ty = .any ↔ ¬ hasObject (className property))
  ofOpenList : ∀ depth, evidence = Evidence.list^[depth] .deferredList →
    (ty = Ty.list^[depth + 1] (.named (className (singular property))) ↔
        hasObject (className (singular property))) ∧
      (ty = Ty.list^[depth + 1] .any ↔ ¬ hasObject (className (singular property)))

/-- The field that is made of a slot. -/
structure ResolvedField (hasObject : String → Prop) (entry : String × Slot) (field : Field) :
    Prop where
  name : field.name = entry.1
  property : field.property = entry.2.property
  presentIn : field.presentIn = entry.2.presentIn
  nullIn : field.nullIn = entry.2.nullIn
  ty : ResolvesTo hasObject entry.2.property entry.2.evidence field.ty

/-- The class that is made of a draft, with its fields in the order of the slots. -/
structure ResolvedClass (hasObject : String → Prop) (entry : String × Draft) (cls : ClassDef) :
    Prop where
  name : cls.name = entry.1
  seenObjects : cls.seenObjects = entry.2.seenObjects
  fields : List.Forall₂ (ResolvedField hasObject) entry.2.slots cls.fields

/-- One report for each field that has `any` in its type, in the order of the classes and of their
fields. -/
def untypedReports (classes : List ClassDef) : List Diagnostic :=
  classes.flatMap fun cls =>
    (cls.fields.filter (·.ty.isUntyped)).map fun field => .unresolved cls.name field.name

def isUnresolved : Diagnostic → Bool
  | .unresolved _ _ => true
  | _ => false

/-! ## Types of open evidence -/

theorem lookUp_eq_named_iff {known : Known} {name : String} :
    lookUp known name = .named name ↔ known name = true := by
  rw [lookUp]
  split <;> simp_all

theorem lookUp_eq_any_iff {known : Known} {name : String} :
    lookUp known name = .any ↔ ¬ known name = true := by
  rw [lookUp]
  split <;> simp_all

theorem isUntyped_lookUp (known : Known) (name : String) :
    (lookUp known name).isUntyped = !known name := by
  rw [lookUp]
  cases known name <;> rfl

/-- A type contains `any` exactly if it was looked up in vain. -/
theorem isUntyped_resolve (known : Known) (property : String) (evidence : Evidence) :
    (resolve known property evidence).isUntyped = looksUpInVain known property evidence := by
  induction evidence with
  | scalar kind => cases kind <;> rfl
  | object name => rfl
  | list element ih => exact ih
  | deferred => exact isUntyped_lookUp known _
  | deferredList => exact isUntyped_lookUp known _

theorem resolve_iterate (known : Known) (property : String) (depth : ℕ) (evidence : Evidence) :
    resolve known property (Evidence.list^[depth] evidence) =
      Ty.list^[depth] (resolve known property evidence) := by
  induction depth with
  | zero => rfl
  | succ depth ih =>
      rw [Function.iterate_succ_apply', Function.iterate_succ_apply', resolve, ih]

theorem stated?_eq_resolve (known : Known) (property : String) {evidence : Evidence}
    (h : evidence.isDeferred = false) :
    evidence.stated? = some (resolve known property evidence) := by
  induction evidence with
  | scalar kind => rfl
  | object name => rfl
  | list element ih =>
      rw [Evidence.stated?, ih h]
      rfl
  | deferred => cases h
  | deferredList => cases h

theorem exists_iterate_of_endsOpen {evidence : Evidence} (h : evidence.endsOpen = true) :
    ∃ depth, evidence = Evidence.list^[depth] .deferredList := by
  induction evidence with
  | deferredList => exact ⟨0, rfl⟩
  | list element ih =>
      obtain ⟨depth, heq⟩ := ih h
      exact ⟨depth + 1, by rw [Function.iterate_succ_apply', heq]⟩
  | _ => cases h

theorem resolvesTo_resolve {known : Known} {hasObject : String → Prop}
    (hknown : ∀ name, known name = true ↔ hasObject name) (property : String)
    {evidence : Evidence} (hends : evidence.isOpenList = true → evidence.endsOpen = true) :
    ResolvesTo hasObject property evidence (resolve known property evidence) where
  form hdeferred := by
    cases hopen : evidence.isOpenList with
    | false => exact .inl (Evidence.eq_deferred hdeferred hopen)
    | true => exact .inr (exists_iterate_of_endsOpen (hends hopen))
  ofConcrete := stated?_eq_resolve known property
  ofNull := by
    rintro rfl
    rw [← hknown]
    exact ⟨lookUp_eq_named_iff, lookUp_eq_any_iff⟩
  ofOpenList := by
    rintro depth rfl
    -- The lists around what was looked up are taken off on both sides.
    have hinjective : Function.Injective Ty.list^[depth + 1] :=
      Function.Injective.iterate (fun _ _ => Ty.list.inj) _
    rw [resolve_iterate, resolve, ← Function.iterate_succ_apply, ← hknown, hinjective.eq_iff,
      hinjective.eq_iff]
    exact ⟨lookUp_eq_named_iff, lookUp_eq_any_iff⟩

/-! ## Reports of untyped fields -/

theorem unresolved_eq_untypedReports (known : Known) (classes : List (String × Draft)) :
    unresolved known classes = untypedReports (classes.map (resolveClass known)) := by
  rw [unresolved, untypedReports, List.flatMap_map]
  apply List.flatMap_congr
  intro entry _
  have hfields : (entry.2.slots.map (resolveField known)).filter (·.ty.isUntyped) =
      (entry.2.slots.filter fun slot =>
        looksUpInVain known slot.2.property slot.2.evidence).map (resolveField known) := by
    rw [List.filter_map]
    apply congrArg
    apply List.filter_congr
    intro slot _
    exact isUntyped_resolve known slot.2.property slot.2.evidence
  rw [resolveClass, hfields, untypedFields, List.map_map, List.map_map]
  rfl

theorem untypedReports_nodup {classes : List ClassDef} (hclasses : (classes.map (·.name)).Nodup)
    (hfields : ∀ cls ∈ classes, (cls.fields.map (·.name)).Nodup) :
    (untypedReports classes).Nodup := by
  rw [untypedReports, List.nodup_flatMap]
  constructor
  · intro cls hcls
    have hnames := ((List.filter_sublist (p := (·.ty.isUntyped))).map Field.name).nodup
      (hfields cls hcls)
    have hreports := hnames.map (f := Diagnostic.unresolved cls.name)
      fun _ _ heq => (Diagnostic.unresolved.inj heq).2
    rwa [List.map_map] at hreports
  · refine (List.pairwise_map.1 hclasses).imp ?_
    intro cls other hne diagnostic hmem hother
    obtain ⟨field, -, rfl⟩ := List.mem_map.1 hmem
    obtain ⟨otherField, -, heq⟩ := List.mem_map.1 hother
    exact hne (Diagnostic.unresolved.inj heq).1.symm

end Resolution

/-! ## Series of documents -/

namespace Discovery

open Resolution

theorem isUnresolved_change {fieldPrefix : String} {step : Step} {draft : Draft}
    {diagnostic : Diagnostic} (h : (step.change fieldPrefix draft).2 = some diagnostic) :
    isUnresolved diagnostic = false := by
  cases step with
  | enter name => cases h
  | object name members =>
      rw [Step.change, Draft.observeShape] at h
      split at h
      · cases h
      · split at h
        · cases h
        · cases h
          rfl
  | member occurrence =>
      have habout := recordSlot_isAbout ((record_report _ _ _ _).symm.trans h)
      cases diagnostic with
      | unresolved name field => cases habout
      | _ => rfl

/-- No walk reports a field for its missing type. -/
theorem isUnresolved_discoveredAll {fieldPrefix : String} {documents : List (String × Value)}
    {diagnostic : Diagnostic}
    (h : diagnostic ∈ (discoveredAll fieldPrefix documents).diagnostics) :
    isUnresolved diagnostic = false := by
  rw [(discoveredAll_eq_run fieldPrefix documents).2] at h
  obtain ⟨classes, step, -, hreport⟩ := exists_step_of_report h
  exact isUnresolved_change hreport

theorem endsOpen_of_slot {fieldPrefix name field : String} {documents : List (String × Value)}
    {draft : Draft} {slot : Slot}
    (hdraft : (name, draft) ∈ (discoveredAll fieldPrefix documents).classes)
    (hslot : (field, slot) ∈ draft.slots) (hopen : slot.evidence.isOpenList = true) :
    slot.evidence.endsOpen = true := by
  obtain ⟨first, rest, -, rfl⟩ := (mem_slots_discoveredAll hdraft).1 hslot
  obtain ⟨record, -, -, hevidence⟩ := exists_record_slotAfter first rest
  rw [hevidence] at hopen ⊢
  exact settledEvidence_endsOpen hopen

theorem resolvedClass_discoveredAll {fieldPrefix : String} {documents : List (String × Value)}
    {entry : String × Draft} (hentry : entry ∈ (discoveredAll fieldPrefix documents).classes) :
    ResolvedClass (HasObject documents) entry
      (resolveClass (discoveredAll fieldPrefix documents).knows entry) where
  name := rfl
  seenObjects := rfl
  fields := by
    rw [resolveClass, List.forall₂_map_right_iff, List.forall₂_same]
    intro slot hslot
    exact ⟨rfl, rfl, rfl, rfl, resolvesTo_resolve (fun _ => knows_discoveredAll) _
      (endsOpen_of_slot hentry hslot)⟩

end Discovery

namespace Resolution

/-- Whatever documents came, a resolution that is not called off gives every field the type that its
evidence states, or that of the class that is looked up for it, which is found exactly if one of the
documents has an object of it.  After what the walks reported, it reports the fields that have `any`
in their type, in order and each once, and no other. -/
theorem resolve_falls_back (fieldPrefix : String) (documents : List (String × Value))
    {watch : Watch}
    (hwatch : ∀ received < (discoveredAll fieldPrefix documents).classes.length,
      watch received = false) :
    let discovery := discoveredAll fieldPrefix documents
    ∃ model, (discovery.resolve watch).result = .ok model ∧
      model.diagnostics = discovery.diagnostics ++ untypedReports model.classes ∧
      (∀ diagnostic ∈ discovery.diagnostics, isUnresolved diagnostic = false) ∧
      (untypedReports model.classes).Nodup ∧
      List.Forall₂ (ResolvedClass (HasObject documents)) discovery.classes model.classes := by
  intro discovery
  refine ⟨discovery.resolved, resolve_of_quiet hwatch, ?_,
    fun _ => isUnresolved_discoveredAll, ?_, ?_⟩
  · rw [Discovery.resolved, unresolved_eq_untypedReports]
  · apply untypedReports_nodup
    · rw [Discovery.resolved, List.map_map]
      exact discoveredAll_nodup fieldPrefix documents
    · intro cls hcls
      obtain ⟨entry, hentry, rfl⟩ := List.mem_map.1 hcls
      rw [resolveClass, List.map_map]
      exact Sorted.nodup_of_pairwise (discoveredAll_sorted hentry)
  · rw [Discovery.resolved, List.forall₂_map_right_iff, List.forall₂_same]
    exact fun entry hentry => resolvedClass_discoveredAll hentry

/-- Types that are left open, a document that is turned down, and objects for two of the types. -/
def openBefore : List (String × Value) := [
  ("Root", .object [("owner", .null), ("rows", .array [.array [.array []]]), ("tags", .array [])]),
  ("Other", .number (.integer 42)),
  ("Other", .object [("owner", .object []), ("row", .object [])])]

theorem resolve_falls_back_openBefore :
    (∀ received < (discoveredAll "m" openBefore).classes.length, Watch.never received = false) ∧
      ∃ model, ((discoveredAll "m" openBefore).resolve Watch.never).result = .ok model ∧
        model.diagnostics = [.unresolved "Root" "mTags"] ∧
        ∃ cls ∈ model.classes, cls.fields.map (·.ty) =
            [.named "Owner", .list (.list (.list (.named "Row"))), .list .any] ∧
          ∃ entry, ResolvedClass (HasObject openBefore) entry cls := by
  have hwatch : ∀ received < (discoveredAll "m" openBefore).classes.length,
      Watch.never received = false := fun _ _ => rfl
  obtain ⟨model, hmodel, -, -, -, hclasses⟩ := resolve_falls_back "m" openBefore hwatch
  have hresolved : (discoveredAll "m" openBefore).resolved =
      ⟨"Other",
        [⟨"Root", [⟨"owner", "mOwner", .named "Owner", 1, 1⟩,
            ⟨"rows", "mRows", .list (.list (.list (.named "Row"))), 1, 0⟩,
            ⟨"tags", "mTags", .list .any, 1, 0⟩], 1⟩,
          ⟨"Other", [⟨"owner", "mOwner", .named "Owner", 1, 0⟩,
            ⟨"row", "mRow", .named "Row", 1, 0⟩], 1⟩,
          ⟨"Owner", [], 1⟩, ⟨"Row", [], 1⟩],
        [.unresolved "Root" "mTags"]⟩ := by
    decide +kernel
  have hsame : (discoveredAll "m" openBefore).resolved = model :=
    Except.ok.inj ((resolve_of_quiet hwatch).symm.trans hmodel)
  rw [hresolved] at hsame
  subst hsame
  obtain ⟨entry, entries, hroot, -, -⟩ := List.forall₂_cons_right_iff.1 hclasses
  exact ⟨hwatch, _, hmodel, rfl, _, List.mem_cons_self, rfl, entry, hroot⟩

end Resolution

end Exemplar
