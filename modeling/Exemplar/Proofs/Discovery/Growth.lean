import Exemplar.Proofs.Discovery.Slots

/-!
# Discovery only grows

Taking in one more document loses nothing that was discovered before.  Classes keep their order and
new ones come up behind them, a field keeps its identifier, its property and its concrete type,
counts do not go down, and what was reported stays reported.  The order on what is discovered is
put together from one on slots and one on drafts; a step keeps to it since it changes one slot of
one draft, and a walk is nothing but steps, however its traversals are nested.
-/

namespace Exemplar

open Discovery

/-- Evidence stays as it is, or it was deferred and becomes concrete. -/
def Evidence.SettlesTo (evidence later : Evidence) : Prop :=
  later = evidence ∨ evidence.isDeferred = true ∧ later.isDeferred = false

/-- A slot keeps its property, and its counts do not go down. -/
structure Slot.GrowsTo (slot later : Slot) : Prop where
  property : later.property = slot.property
  presentIn : slot.presentIn ≤ later.presentIn
  nullIn : slot.nullIn ≤ later.nullIn
  evidence : slot.evidence.SettlesTo later.evidence

/-- Every field of a draft is still there under its identifier. -/
structure Draft.GrowsTo (draft later : Draft) : Prop where
  seenObjects : draft.seenObjects ≤ later.seenObjects
  slots : ∀ field slot, draft.slots.lookup field = some slot →
    ∃ grown, later.slots.lookup field = some grown ∧ slot.GrowsTo grown

/-- Every class is still there in its place, and so is every diagnostic. -/
structure Discovery.GrowsTo (discovery later : Discovery) : Prop where
  classNames : discovery.classes.map (·.1) <+: later.classes.map (·.1)
  drafts : ∀ name draft, discovery.classes.lookup name = some draft →
    ∃ grown, later.classes.lookup name = some grown ∧ draft.GrowsTo grown
  diagnostics : discovery.diagnostics <+: later.diagnostics

/-! ## Growth upon growth -/

theorem Evidence.SettlesTo.refl (evidence : Evidence) : evidence.SettlesTo evidence :=
  .inl rfl

theorem Evidence.SettlesTo.trans {first second third : Evidence} (h : first.SettlesTo second)
    (hnext : second.SettlesTo third) : first.SettlesTo third := by
  rcases h with rfl | ⟨hdeferred, hconcrete⟩
  · exact hnext
  · rcases hnext with rfl | ⟨hopen, -⟩
    · exact .inr ⟨hdeferred, hconcrete⟩
    · rw [hconcrete] at hopen
      cases hopen

theorem Slot.GrowsTo.refl (slot : Slot) : slot.GrowsTo slot :=
  ⟨rfl, Nat.le_refl _, Nat.le_refl _, .refl _⟩

theorem Slot.GrowsTo.trans {first second third : Slot} (h : first.GrowsTo second)
    (hnext : second.GrowsTo third) : first.GrowsTo third :=
  ⟨hnext.property.trans h.property, Nat.le_trans h.presentIn hnext.presentIn,
    Nat.le_trans h.nullIn hnext.nullIn, h.evidence.trans hnext.evidence⟩

theorem Draft.GrowsTo.refl (draft : Draft) : draft.GrowsTo draft :=
  ⟨Nat.le_refl _, fun _ slot hslot => ⟨slot, hslot, .refl slot⟩⟩

theorem Draft.GrowsTo.trans {first second third : Draft} (h : first.GrowsTo second)
    (hnext : second.GrowsTo third) : first.GrowsTo third := by
  refine ⟨Nat.le_trans h.seenObjects hnext.seenObjects, ?_⟩
  intro field slot hslot
  obtain ⟨grown, hgrown, hslot⟩ := h.slots field slot hslot
  obtain ⟨last, hlast, hgrown⟩ := hnext.slots field grown hgrown
  exact ⟨last, hlast, hslot.trans hgrown⟩

namespace Discovery

theorem GrowsTo.refl (discovery : Discovery) : discovery.GrowsTo discovery :=
  ⟨List.prefix_rfl, fun _ draft hdraft => ⟨draft, hdraft, .refl draft⟩, List.prefix_rfl⟩

theorem GrowsTo.trans {first second third : Discovery} (h : first.GrowsTo second)
    (hnext : second.GrowsTo third) : first.GrowsTo third := by
  refine ⟨h.classNames.trans hnext.classNames, ?_, h.diagnostics.trans hnext.diagnostics⟩
  intro name draft hdraft
  obtain ⟨grown, hgrown, hdraft⟩ := h.drafts name draft hdraft
  obtain ⟨last, hlast, hgrown⟩ := hnext.drafts name grown hgrown
  exact ⟨last, hlast, hdraft.trans hgrown⟩

/-! ## One step -/

theorem settlesTo_keep (kept next : Evidence) : kept.SettlesTo (kept.keep next) := by
  cases h : kept.isRefinedBy next with
  | true =>
      rw [Evidence.keep_of_isRefinedBy h]
      exact .inr (Evidence.deferred_of_isRefinedBy h)
  | false =>
      rw [Evidence.keep_of_not_isRefinedBy h]
      exact .refl kept

/-- A record of a field that is there leaves it there. -/
theorem growsTo_recordSlot (name field : String) (slot : Slot) (record : Occurrence) :
    ∃ grown, (recordSlot name field (some slot) record).1 = some grown ∧ slot.GrowsTo grown := by
  by_cases h : record.property = slot.property
  · rw [recordSlot_of_eq h]
    exact ⟨_, rfl, rfl, Nat.le_succ _, Nat.le_add_right _ _, settlesTo_keep _ _⟩
  · rw [recordSlot_of_ne h]
    exact ⟨slot, rfl, .refl slot⟩

theorem growsTo_change (fieldPrefix : String) (step : Step) (draft : Draft) :
    draft.GrowsTo (step.change fieldPrefix draft).1 := by
  refine ⟨?_, fun field slot hslot => ?_⟩
  · rw [seenObjects_change]
    exact Nat.le_add_right _ _
  · cases step with
    | enter name => exact ⟨slot, hslot, .refl slot⟩
    | object name members =>
        rw [Step.change, observeShape_slots]
        exact ⟨slot, hslot, .refl slot⟩
    | member record =>
        rw [Step.change, record_lookup]
        split
        · rename_i hfield
          rw [← hfield, hslot]
          exact growsTo_recordSlot record.owner field slot record
        · exact ⟨slot, hslot, .refl slot⟩

theorem keys_prefix_set {α : Type} (name : String) (value : α) (roster : List (String × α)) :
    roster.map (·.1) <+: (Roster.set name value roster).map (·.1) := by
  rw [Roster.keys_set]
  split
  · exact List.prefix_rfl
  · exact List.prefix_append _ _

/-- Whatever class a step belongs to, that of an outer object still in progress or any other, it
only adds to its draft. -/
theorem growsTo_apply (discovery : Discovery) (step : Step) :
    discovery.GrowsTo (discovery.apply step) := by
  constructor
  case classNames =>
    rw [apply_classes]
    exact keys_prefix_set _ _ _
  case drafts =>
    intro name draft hdraft
    rw [apply_classes, stepDrafts]
    by_cases hname : name = step.className
    · subst hname
      have hown : draftIn step.className discovery.classes = draft := by rw [draftIn, hdraft]; rfl
      rw [hown, Roster.lookup_set_self]
      exact ⟨_, rfl, growsTo_change _ _ _⟩
    · rw [Roster.lookup_set_of_ne hname]
      exact ⟨draft, hdraft, .refl draft⟩
  case diagnostics =>
    rw [apply_diagnostics]
    exact List.prefix_append _ _

/-! ## A walk -/

theorem growsTo_applyAll (discovery : Discovery) (steps : List Step) :
    discovery.GrowsTo (discovery.applyAll steps) := by
  induction steps generalizing discovery with
  | nil => exact .refl discovery
  | cons step rest ih => exact (growsTo_apply discovery step).trans (ih _)

/-- Naming the root adds to the classes what the first step of its class does. -/
theorem growsTo_openRoot (root : String) (discovery : Discovery) :
    discovery.GrowsTo (openRoot root discovery) := by
  obtain ⟨hnames, hdrafts, hdiagnostics⟩ := growsTo_apply discovery (.enter root)
  exact ⟨hnames, hdrafts, hdiagnostics⟩

/-- Whatever was discovered before, taking in a document only adds to it. -/
theorem observe_growsTo (root : String) (value : Json.Value) (discovery : Discovery) :
    discovery.GrowsTo (observe root value discovery).2 := by
  cases hvalue : isRoot value with
  | true =>
      rw [observe_run hvalue]
      exact (growsTo_openRoot root discovery).trans (growsTo_applyAll _ _)
  | false =>
      rw [observe_turned_down hvalue]
      exact .refl discovery

end Discovery

end Exemplar
