import Exemplar.Proofs.KeyOrder

/-!
# How the type of a field settles

The occurrences of a field tell one type after the other.  A concrete type that comes first stays; a
null in front gives way to the first concrete type, an open list in front to the first concrete
list.  So the type of a field changes at most once, and what conflicts with it is told occurrence by
occurrence against the type it has by then.
-/

namespace Exemplar

open Discovery Json Naming Reporting

namespace Evidence

variable {first : Evidence} {later : List Evidence}

/-! ## The type that is kept -/

/-- What a first occurrence and those after it yield: three cases, by the first. -/
structure Yields (first : Evidence) (later : List Evidence) (kept : Evidence) : Prop where
  ofConcrete : first.isDeferred = false → kept = first
  ofNull : first = .deferred →
    kept = (later.find? fun next => !next.isDeferred).getD .deferred
  ofOpenList : first.isOpenList = true →
    kept = (later.find? fun next => !next.isDeferred && next.isList).getD first

theorem yields_merge (first : Evidence) (later : List Evidence) :
    first.Yields later (first.merge later) where
  ofConcrete h := merge_of_concrete h later
  ofNull h := by
    subst h
    exact merge_of_not_isOpenList rfl later
  ofOpenList h := merge_of_isOpenList h later

/-- As more occurrences come, what is kept stays, or it was the first and is now what is kept in the
end. -/
theorem merge_take_settles (first : Evidence) (later : List Evidence) {count more : Nat}
    (h : count ≤ more) :
    first.merge (later.take count) = first.merge (later.take more) ∨
      first.merge (later.take count) = first ∧
        first.merge (later.take more) = first.merge later := by
  have hprefix : ∀ {short long : List Evidence}, short <+: long →
      first.merge short = first ∨ first.merge short = first.merge long := by
    rintro short long ⟨rest, rfl⟩
    rw [merge_eq_find, merge_eq_find, List.find?_append]
    cases short.find? first.isRefinedBy with
    | none => exact .inl rfl
    | some found => exact .inr rfl
  have hmore := hprefix (List.take_prefix more later)
  have hcount := hprefix (List.take_prefix count later)
  rcases hprefix (List.take_prefix_take_left h) with hfirst | hsame
  · rcases hmore with hstill | hdone
    · exact .inl (hfirst.trans hstill.symm)
    · exact .inr ⟨hfirst, hdone⟩
  · exact .inl hsame

/-- What conflicts is what differs from the type that is kept by then, both being concrete. -/
theorem conflicts_eq (first : Evidence) (later : List Evidence) :
    first.conflicts later = later.zipIdx.filterMap fun entry =>
      let kept := first.merge (later.take entry.2)
      if kept.conflictsWith entry.1 then some (kept, entry.1) else none := by
  induction later generalizing first with
  | nil => rfl
  | cons next rest ih =>
      -- What is kept when an occurrence of the rest comes is counted from the first one on.
      have hshift : (fun entry : Evidence × Nat =>
          let kept := (first.keep next).merge (rest.take entry.2)
          if kept.conflictsWith entry.1 then some (kept, entry.1) else none) =
          (fun entry : Evidence × Nat =>
            let kept := first.merge ((next :: rest).take entry.2)
            if kept.conflictsWith entry.1 then some (kept, entry.1) else none) ∘
              Prod.map id (· + 1) := rfl
      rw [conflicts, ih, List.zipIdx_cons', List.filterMap_cons, List.filterMap_map, hshift]
      cases hconflict : first.conflictsWith next <;> simp [merge, hconflict]

end Evidence

namespace Discovery

/-! ## The history of a field -/

/-- The records of a property in a class, in the order in which they are made. -/
def propertyRecords (root : String) (value : Value) (owner property : String) :
    List Occurrence :=
  (recorded root value).filter fun record => record.owner == owner && record.property == property

def isConflictOf (name field : String) (diagnostic : Diagnostic) : Bool :=
  isConflict diagnostic && isAbout name field diagnostic

/-- How the type of a field comes about: the occurrences of its property tell the types `first` and
`later`, and `kept` is the type of the field after the first of them and so many more. -/
structure Settles (fieldPrefix root : String) (value : Value) (diagnostics : List Diagnostic)
    (name field : String) (slot : Slot) (first : Evidence) (later : List Evidence)
    (kept : Nat → Evidence) : Prop where
  yields : ∀ count, first.Yields (later.take count) (kept count)
  final : slot.evidence = kept later.length
  /-- Anywhere in the walk, the field has the type of the occurrences recorded so far. -/
  meanwhile : ∀ steps, steps <+: rootSteps root value → ∀ early,
    slotIn name field ((openRoot root { fieldPrefix }).applyAll steps).classes = some early →
      early.property = slot.property ∧ early.evidence = kept (early.presentIn - 1)
  changesOnce : ∀ count more, count ≤ more →
    kept count = kept more ∨ kept count = first ∧ kept more = slot.evidence
  conflicts : diagnostics.filter (isConflictOf name field) =
    later.zipIdx.filterMap fun entry =>
      if !(kept entry.2).isDeferred && !entry.1.isDeferred && kept entry.2 ≠ entry.1 then
        some (.typeConflict name field (kept entry.2).describe entry.1.describe)
      else none

variable {fieldPrefix root name field : String} {value : Value} {first : Occurrence}
  {rest : List Occurrence}

/-- A slot that has come up within a walk is that of the records made so far. -/
theorem exists_slotAfter_of_prefix
    (hrecords : fieldRecords fieldPrefix root value name field = first :: rest)
    {steps : List Step} (hsteps : steps <+: rootSteps root value) {early : Slot}
    (hearly : slotIn name field ((openRoot root { fieldPrefix }).applyAll steps).classes =
      some early) :
    ∃ made, made <+: rest ∧ early = slotAfter (firstSlot first) made := by
  obtain ⟨more, hmore⟩ := hsteps
  have hclasses : ((openRoot root { fieldPrefix }).applyAll steps).classes =
      (run (stepDrafts fieldPrefix) [(root, {})] steps).1 := (applyAll_eq_run _ _).1
  rw [hclasses, slotIn_run, slotIn_fresh] at hearly
  rw [← recordsAmong_rootSteps, ← hmore, recordsAmong_append] at hrecords
  cases hmade : recordsAmong fieldPrefix name field steps with
  | nil =>
      rw [hmade] at hearly
      cases hearly
  | cons record made =>
      rw [hmade, List.cons_append] at hrecords
      obtain ⟨rfl, hrest⟩ := List.cons.inj hrecords
      have hrun : (run (recordSlot name field) (some (firstSlot record)) made).1 = some early := by
        rw [hmade] at hearly
        exact hearly
      rw [run_recordSlot] at hrun
      exact ⟨made, ⟨_, hrest⟩, (Option.some.inj hrun).symm⟩

/-- The evidence of a slot within a walk is what the occurrences counted by then yield. -/
theorem evidence_slotAfter_of_prefix {made : List Occurrence} (h : made <+: rest) :
    (slotAfter (firstSlot first) made).evidence =
      first.evidence.merge
        (((rest.filter (·.property == first.property)).map Occurrence.evidence).take
          ((slotAfter (firstSlot first) made).presentIn - 1)) := by
  obtain ⟨more, rfl⟩ := h
  have hcount : (slotAfter (firstSlot first) made).presentIn - 1 =
      ((made.filter (·.property == first.property)).map Occurrence.evidence).length := by
    rw [List.length_map]
    exact Nat.add_sub_cancel_left 1 _
  rw [hcount, List.filter_append, List.map_append, List.take_left]
  rfl

theorem conflicts_discovered
    (hrecords : fieldRecords fieldPrefix root value name field = first :: rest) :
    (discovered fieldPrefix root value).diagnostics.filter (isConflictOf name field) =
      (first.evidence.conflicts
        ((rest.filter (·.property == first.property)).map Occurrence.evidence)).map
          fun pair => .typeConflict name field pair.1.describe pair.2.describe := by
  unfold isConflictOf
  rw [← List.filter_filter, reports_discovered hrecords]
  exact conflicts_run name field (firstSlot first) rest

theorem settles_discovered
    (hrecords : fieldRecords fieldPrefix root value name field = first :: rest) :
    let later := (rest.filter (·.property == first.property)).map Occurrence.evidence
    Settles fieldPrefix root value (discovered fieldPrefix root value).diagnostics name field
      (slotAfter (firstSlot first) rest) first.evidence later
      fun count => first.evidence.merge (later.take count) where
  yields count := Evidence.yields_merge _ _
  final := by
    rw [List.take_length]
    rfl
  meanwhile steps hsteps early hearly := by
    obtain ⟨made, hmade, rfl⟩ := exists_slotAfter_of_prefix hrecords hsteps hearly
    exact ⟨rfl, evidence_slotAfter_of_prefix hmade⟩
  changesOnce count more h := Evidence.merge_take_settles _ _ h
  conflicts := by
    rw [conflicts_discovered hrecords, Evidence.conflicts_eq, List.map_filterMap]
    apply List.filterMap_congr
    rintro ⟨next, count⟩ -
    simp only [Evidence.conflictsWith, ← decide_not]
    split <;> rfl

/-- The type of a field is that of the first occurrence of its property if that is concrete; the
first concrete type if the property was null at first; and the first concrete list if it was an open
list.  It changes at most once, and each later occurrence of a concrete type that differs from a
concrete type which the field has by then is reported as a conflict, in order. -/
theorem observe_settles_types (root : String) {value : Value} (hvalue : isRoot value = true)
    (fieldPrefix : String) :
    ∃ discovery, observe root value { fieldPrefix } = (.ok (), discovery) ∧
      ∀ name draft, (name, draft) ∈ discovery.classes →
        ∀ field slot, (field, slot) ∈ draft.slots →
          ∃ first later kept,
            ((propertyRecords root value name slot.property).map fun record =>
                evidenceOf discovery.knows singular slot.property record.value) =
              (first :: later).map .ok ∧
            Settles fieldPrefix root value discovery.diagnostics name field slot first later
              kept := by
  refine ⟨_, observe_fresh hvalue fieldPrefix, ?_⟩
  intro name draft hdraft field slot hslot
  obtain ⟨first, rest, hrecords, rfl⟩ := (mem_slots_iff hdraft).1 hslot
  refine ⟨_, _, _, ?_, settles_discovered hrecords⟩
  rw [← propertyEvidence_eq_cons hrecords, propertyEvidence, List.map_map, propertyRecords]
  apply List.map_congr_left
  intro record hrecord
  obtain ⟨hmem, hown⟩ := List.mem_filter.1 hrecord
  obtain ⟨members, hobject, hmember⟩ := mem_recorded.1 hmem
  have hproperty : record.property = first.property :=
    beq_iff_eq.1 (Bool.and_eq_true_iff.1 hown).2
  have hevidence := evidenceOf_discovered hvalue fieldPrefix hobject hmember
  rw [hproperty] at hevidence
  refine hevidence.trans ?_
  rw [Function.comp_apply, Occurrence.evidence, hproperty]

/-- Null, an open list, a number, a text and a list under one key. -/
def manyTypes : Value :=
  .object [("items", .array [
    .object [("a", .null)],
    .object [("a", .array [.null])],
    .object [("a", .number (.integer 1))],
    .object [("a", .string "x")],
    .object [("a", .array [.bool true])]])]

/-- The field of it, whose type settles on the third occurrence. -/
def manyTypesSlot : Slot :=
  ⟨"a", .scalar .integer, 5, 1⟩

theorem observe_settles_types_manyTypes :
    isRoot manyTypes = true ∧
      ∃ discovery, observe "Root" manyTypes { fieldPrefix := "m" } = (.ok (), discovery) ∧
        ∃ kept, Settles "m" "Root" manyTypes discovery.diagnostics "Item" "mA" manyTypesSlot
            .deferred [.deferredList, .scalar .integer, .scalar .string, .list (.scalar .bool)]
            kept ∧
          kept 1 = .deferred ∧ kept 2 = .scalar .integer ∧
          discovery.diagnostics.filter (isConflictOf "Item" "mA") =
            [.typeConflict "Item" "mA" "integer" "string",
              .typeConflict "Item" "mA" "integer" "list<bool>"] := by
  have hroot : isRoot manyTypes = true := rfl
  obtain ⟨discovery, hobserve, hfields⟩ := observe_settles_types "Root" hroot "m"
  have hdiscovery := (Prod.mk.inj ((observe_fresh hroot "m").symm.trans hobserve)).2
  have hclass : ("Item", ⟨[("mA", manyTypesSlot)], 5, some ["mA"], false⟩) ∈
      (discovered "m" "Root" manyTypes).classes := by
    decide +kernel
  have hinferred : ((propertyRecords "Root" manyTypes "Item" "a").map fun record =>
      evidenceOf (discovered "m" "Root" manyTypes).knows singular "a" record.value) =
        [.ok .deferred, .ok .deferredList, .ok (.scalar .integer), .ok (.scalar .string),
          .ok (.list (.scalar .bool))] := by
    decide +kernel
  rw [hdiscovery] at hclass hinferred
  obtain ⟨first, later, kept, hknown, hsettles⟩ :=
    hfields "Item" _ hclass "mA" manyTypesSlot (List.mem_singleton_self _)
  obtain ⟨hfirst, hlater⟩ := List.cons.inj (hknown.symm.trans hinferred)
  cases hfirst
  obtain rfl : later =
      [.deferredList, .scalar .integer, .scalar .string, .list (.scalar .bool)] :=
    List.map_injective_iff.2 (fun _ _ => Except.ok.inj) hlater
  have hkept : ∀ count, kept count = _ := fun count => (hsettles.yields count).ofNull rfl
  refine ⟨hroot, discovery, hobserve, kept, hsettles, hkept 1, hkept 2, ?_⟩
  rw [hsettles.conflicts]
  simp only [hkept]
  rfl

end Discovery

end Exemplar
