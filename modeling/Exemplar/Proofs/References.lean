import Exemplar.Proofs.Discovery.Fields
import Exemplar.Proofs.Discovery.Known
import Exemplar.Proofs.Resolution

/-!
# Closed models

The types of a model name classes in three ways: by an object under a property, by the first element
of a list, however deep, and by looking up what was left open.  All three lead to classes that the
walk brought up, so that a model is closed.  Its classes are well formed: the fields stand in the
order of their identifiers, and each is found by its property.
-/

namespace Exemplar

open Discovery Json Naming Resolution

/-- The class that evidence names, at whatever list depth. -/
def Evidence.objectClass? : Evidence → Option String
  | .object name => some name
  | .list element => element.objectClass?
  | _ => none

/-- A class as a model holds it under a prefix for its identifiers. -/
structure ClassDef.WellFormed (fieldPrefix : String) (cls : ClassDef) : Prop where
  sorted : (cls.fields.map (·.name)).Pairwise (· < ·)
  distinctNames : (cls.fields.map (·.name)).Nodup
  distinctProperties : (cls.fields.map (·.property)).Nodup
  identifier : ∀ field ∈ cls.fields, field.name = fieldName fieldPrefix field.property
  /-- A property leads to its field. -/
  found : ∀ property field,
    cls.field? property = some field ↔ field ∈ cls.fields ∧ field.property = property

namespace Discovery

/-! ## The classes that evidence names -/

theorem objectEvidence_objectClass? {known : Known} {name other : String} {evidence : Evidence}
    (h : objectEvidence known name = .ok evidence)
    (hother : evidence.objectClass? = some other) : other = name ∧ known other = true := by
  unfold objectEvidence at h
  split at h
  · rename_i hname
    cases h
    cases hother
    exact ⟨rfl, hname⟩
  · cases h

/-- Along first elements no class is named but that of the elements, and it is known. -/
theorem elementEvidence_objectClass? {known : Known} {name other : String} :
    ∀ (value : Value) {evidence : Evidence},
      elementEvidence known name value = .ok (some evidence) →
      evidence.objectClass? = some other → other = name ∧ known other = true
  | .null, _, h, _ => by cases h
  | .bool _, _, h, hother => by cases h; cases hother
  | .number _, _, h, hother => by cases h; cases hother
  | .string _, _, h, hother => by cases h; cases hother
  | .object _, evidence, h, hother => by
      rw [elementEvidence] at h
      cases hobject : objectEvidence known name with
      | error failure =>
          rw [hobject] at h
          cases h
      | ok found =>
          rw [hobject] at h
          cases h
          exact objectEvidence_objectClass? hobject hother
  | .array [], _, h, hother => by cases h; cases hother
  | .array (first :: _), evidence, h, hother => by
      rw [elementEvidence] at h
      cases hfirst : elementEvidence known name first with
      | error failure =>
          rw [hfirst] at h
          cases h
      | ok found =>
          rw [hfirst] at h
          cases found with
          | none =>
              cases h
              cases hother
          | some element =>
              cases h
              exact elementEvidence_objectClass? first hfirst hother

/-- Evidence of a property names the class of the property or that of its elements, and only if it
is known. -/
theorem evidenceOf_objectClass? {known : Known} {property other : String} {value : Value}
    {evidence : Evidence} (h : evidenceOf known singular property value = .ok evidence)
    (hother : evidence.objectClass? = some other) :
    known other = true ∧ (other = className property ∨ other = className (singular property)) := by
  have helement : ∀ {found : Option Evidence},
      elementEvidence known (className (singular property)) value = .ok found →
      evidence = found.getD .deferred →
      known other = true ∧
        (other = className property ∨ other = className (singular property)) := by
    rintro (_ | element) hfound rfl
    · cases hother
    · obtain ⟨hname, hknown⟩ := elementEvidence_objectClass? value hfound hother
      exact ⟨hknown, .inr hname⟩
  unfold evidenceOf at h
  split at h
  · obtain ⟨hname, hknown⟩ := objectEvidence_objectClass? h hother
    exact ⟨hknown, .inl hname⟩
  · cases hfound : elementEvidence known (className (singular property)) value with
    | error failure =>
        rw [hfound] at h
        cases h
    | ok found =>
        rw [hfound] at h
        cases h
        exact helement hfound rfl

/-- What is kept of a field is the evidence of one of its records. -/
theorem exists_record_slotAfter (first : Occurrence) (rest : List Occurrence) :
    ∃ record ∈ first :: rest, record.property = first.property ∧
      (slotAfter (firstSlot first) rest).evidence = record.evidence := by
  have hmerge : (slotAfter (firstSlot first) rest).evidence =
      first.evidence.merge
        ((rest.filter (·.property == first.property)).map Occurrence.evidence) := rfl
  rw [hmerge, Evidence.merge_eq_find]
  cases hfind : ((rest.filter (·.property == first.property)).map
      Occurrence.evidence).find? first.evidence.isRefinedBy with
  | none => exact ⟨first, List.mem_cons_self, rfl, rfl⟩
  | some evidence =>
      obtain ⟨record, hrecord, rfl⟩ := List.mem_map.1 (List.mem_of_find?_eq_some hfind)
      obtain ⟨hrest, hproperty⟩ := List.mem_filter.1 hrecord
      exact ⟨record, List.mem_cons_of_mem _ hrest, beq_iff_eq.1 hproperty, rfl⟩

end Discovery

namespace Resolution

/-- A type names the class that its evidence names, or one that was looked up. -/
theorem resolve_referencedClass? {known : Known} {property name : String} {evidence : Evidence}
    (h : (resolve known property evidence).referencedClass? = some name) :
    evidence.objectClass? = some name ∨
      known name = true ∧ (name = className property ∨ name = className (singular property)) := by
  have hlook : ∀ {other : String}, (lookUp known other).referencedClass? = some name →
      known name = true ∧ name = other := by
    intro other hother
    unfold lookUp at hother
    split at hother
    · rename_i hknown
      cases hother
      exact ⟨hknown, rfl⟩
    · cases hother
  induction evidence with
  | scalar kind => cases kind <;> cases h
  | object other => exact .inl h
  | list element ih => exact ih h
  | deferred =>
      obtain ⟨hknown, hname⟩ := hlook h
      exact .inr ⟨hknown, .inl hname⟩
  | deferredList =>
      obtain ⟨hknown, hname⟩ := hlook h
      exact .inr ⟨hknown, .inr hname⟩

/-! ## The classes of a model -/

variable {fieldPrefix root : String} {value : Value}

theorem classNames_resolvedModel (fieldPrefix root : String) (value : Value) :
    (resolvedModel fieldPrefix root value).classNames =
      (discovered fieldPrefix root value).classes.map (·.1) := by
  rw [Model.classNames, resolvedModel, resolvedClasses, List.map_map]
  rfl

/-- Under its name a class is found. -/
theorem class?_resolvedModel {cls : ClassDef}
    (hcls : cls ∈ (resolvedModel fieldPrefix root value).classes) :
    (resolvedModel fieldPrefix root value).class? cls.name = some cls := by
  have hnodup : ((resolvedModel fieldPrefix root value).classes.map (·.name)).Nodup := by
    have hnames := classNames_resolvedModel fieldPrefix root value
    rw [Model.classNames] at hnames
    rw [hnames]
    exact discovered_nodup fieldPrefix root value
  exact (Roster.find?_key_eq_some_iff hnodup cls.name cls).2 ⟨hcls, rfl⟩

/-- A field of a model is what its records make of it. -/
theorem exists_slotAfter {cls : ClassDef} {field : Field}
    (hcls : cls ∈ (resolvedModel fieldPrefix root value).classes) (hfield : field ∈ cls.fields) :
    ∃ first rest,
      fieldRecords fieldPrefix root value cls.name field.name = first :: rest ∧
      field = resolveField (discovered fieldPrefix root value).knows
        (field.name, slotAfter (firstSlot first) rest) := by
  obtain ⟨⟨name, draft⟩, hdraft, rfl⟩ := List.mem_map.1 hcls
  obtain ⟨⟨identifier, slot⟩, hslot, rfl⟩ := List.mem_map.1 hfield
  obtain ⟨first, rest, hrecords, rfl⟩ := (mem_slots_iff hdraft).1 hslot
  exact ⟨first, rest, hrecords, rfl⟩

/-- The records behind the property and the type of a field. -/
theorem exists_fieldRecords {cls : ClassDef} {field : Field}
    (hcls : cls ∈ (resolvedModel fieldPrefix root value).classes) (hfield : field ∈ cls.fields) :
    ∃ first rest,
      fieldRecords fieldPrefix root value cls.name field.name = first :: rest ∧
      field.property = first.property ∧
      field.ty = resolve (discovered fieldPrefix root value).knows first.property
        (slotAfter (firstSlot first) rest).evidence := by
  obtain ⟨first, rest, hrecords, hslot⟩ := exists_slotAfter hcls hfield
  exact ⟨first, rest, hrecords, congrArg Field.property hslot, congrArg Field.ty hslot⟩

/-- An identifier is made of its property. -/
theorem name_eq_fieldName {cls : ClassDef} {field : Field}
    (hcls : cls ∈ (resolvedModel fieldPrefix root value).classes) (hfield : field ∈ cls.fields) :
    field.name = fieldName fieldPrefix field.property := by
  obtain ⟨first, rest, hrecords, hproperty, -⟩ := exists_fieldRecords hcls hfield
  rw [hproperty]
  exact (first_mem_fieldRecords hrecords).2.2.symm

/-- The fields of a class stand in the order of their identifiers. -/
theorem fields_sorted {cls : ClassDef}
    (hcls : cls ∈ (resolvedModel fieldPrefix root value).classes) :
    (cls.fields.map (·.name)).Pairwise (· < ·) := by
  obtain ⟨⟨name, draft⟩, hdraft, rfl⟩ := List.mem_map.1 hcls
  have hnames : (resolveClass (discovered fieldPrefix root value).knows (name, draft)).fields.map
      (·.name) = draft.slots.map (·.1) := by
    rw [resolveClass, List.map_map]
    rfl
  rw [hnames]
  exact discovered_sorted hdraft

theorem wellFormed_resolvedModel {cls : ClassDef}
    (hcls : cls ∈ (resolvedModel fieldPrefix root value).classes) :
    cls.WellFormed fieldPrefix := by
  have hsorted := fields_sorted hcls
  have hnames : (cls.fields.map (·.name)).Nodup := Sorted.nodup_of_pairwise hsorted
  have hidentifier : ∀ field ∈ cls.fields, field.name = fieldName fieldPrefix field.property :=
    fun field hfield => name_eq_fieldName hcls hfield
  have hproperties : (cls.fields.map (·.property)).Nodup := by
    have hmap : cls.fields.map (·.name) =
        (cls.fields.map (·.property)).map (fieldName fieldPrefix) := by
      rw [List.map_map]
      exact List.map_congr_left hidentifier
    rw [hmap] at hnames
    exact List.Pairwise.of_map _ (fun _ _ hne heq => hne (congrArg _ heq)) hnames
  exact ⟨hsorted, hnames, hproperties, hidentifier,
    fun property field => Roster.find?_key_eq_some_iff hproperties property field⟩

/-- The type of a field names a class that was discovered, by the name of a property. -/
theorem referencedClass?_resolvedModel (hvalue : isRoot value = true) {cls : ClassDef}
    {field : Field} (hcls : cls ∈ (resolvedModel fieldPrefix root value).classes)
    (hfield : field ∈ cls.fields) {name : String} (hname : field.ty.referencedClass? = some name) :
    (resolvedModel fieldPrefix root value).hasClass name = true ∧
      ∃ property, name = className property := by
  obtain ⟨first, rest, hrecords, hproperty, hty⟩ := exists_fieldRecords hcls hfield
  rw [hasClass_resolvedModel]
  rw [hty] at hname
  obtain ⟨record, hrecord, hown, hevidence⟩ := exists_record_slotAfter first rest
  rw [hevidence] at hname
  have hclass : (discovered fieldPrefix root value).knows name = true ∧
      (name = className first.property ∨ name = className (singular first.property)) := by
    rcases resolve_referencedClass? hname with hobject | hlooked
    · obtain ⟨⟨members, hmembers, hmember⟩, -, -⟩ := mem_fieldRecords.1 (hrecords ▸ hrecord)
      have hsettled := evidenceOf_discovered hvalue fieldPrefix (mem_objectsOf.1 hmembers) hmember
      rw [← hown]
      exact evidenceOf_objectClass? hsettled hobject
    · exact hlooked
  rcases hclass with ⟨hknown, hname | hname⟩
  · exact ⟨hknown, _, hname⟩
  · exact ⟨hknown, _, hname⟩

/-- The model of a document has the classes that the walk brought up, in the same order, the root
class first, each under its name.  Its classes are well formed, and no field of them names a class
that the model lacks. -/
theorem modelOf_closed (root : String) {value : Value} (hvalue : isRoot value = true)
    (fieldPrefix : String) :
    ∃ discovery model,
      observe root value { fieldPrefix } = (.ok (), discovery) ∧
      (Generation.modelOf root value fieldPrefix Watch.never).result = .ok model ∧
      model.root = root ∧
      model.classNames = discovery.classes.map (·.1) ∧
      model.classNames.head? = some root ∧ model.classNames.Nodup ∧
      ∀ cls ∈ model.classes,
        model.class? cls.name = some cls ∧ cls.WellFormed fieldPrefix ∧
        ∀ field ∈ cls.fields, ∀ name, field.ty.referencedClass? = some name →
          ∃ target ∈ model.classes, target.name = name := by
  refine ⟨_, _, observe_fresh hvalue fieldPrefix, modelOf_never hvalue fieldPrefix, rfl,
    classNames_resolvedModel fieldPrefix root value, ?_, ?_, ?_⟩
  · obtain ⟨members, rest, hvisited⟩ := visited_eq_cons root hvalue
    rw [classNames_resolvedModel, discovered_keys hvalue, hvisited, List.map_cons,
      List.eraseDups_cons]
    rfl
  · rw [classNames_resolvedModel]
    exact discovered_nodup fieldPrefix root value
  · intro cls hcls
    refine ⟨class?_resolvedModel hcls, wellFormed_resolvedModel hcls, ?_⟩
    intro field hfield name hname
    obtain ⟨hknown, -⟩ := referencedClass?_resolvedModel hvalue hcls hfield hname
    exact List.mem_map.1 (List.contains_iff_mem.1 hknown)

/-- A class that is named before it comes up, one inside a list of lists, and one of an empty
list. -/
def namedEarly : Value :=
  .object [
    ("owner", .null),
    ("items", .array [.array [.object [("owner", .object [("items", .array [])])]]])]

theorem modelOf_closed_namedEarly :
    isRoot namedEarly = true ∧
      ∃ model, (Generation.modelOf "Root" namedEarly "m" Watch.never).result = .ok model ∧
        model.classNames = ["Root", "Item", "Owner"] ∧
        ∃ cls ∈ model.classes, cls.WellFormed "m" ∧
          ∃ field ∈ cls.fields, field.ty = .list (.list (.named "Item")) ∧
            cls.field? "items" = some field ∧ ∃ target ∈ model.classes, target.name = "Item" := by
  have hroot : isRoot namedEarly = true := rfl
  obtain ⟨_, model, -, hmodel, -, -, -, -, hclasses⟩ := modelOf_closed "Root" hroot "m"
  have hresolved : resolvedModel "m" "Root" namedEarly =
      ⟨"Root",
        [⟨"Root", [⟨"items", "mItems", .list (.list (.named "Item")), 1, 0⟩,
            ⟨"owner", "mOwner", .named "Owner", 1, 1⟩], 1⟩,
          ⟨"Item", [⟨"owner", "mOwner", .named "Owner", 1, 0⟩], 1⟩,
          ⟨"Owner", [⟨"items", "mItems", .list (.named "Item"), 1, 0⟩], 1⟩], []⟩ := by
    decide +kernel
  have hsame : resolvedModel "m" "Root" namedEarly = model :=
    Except.ok.inj ((modelOf_never hroot "m").symm.trans hmodel)
  rw [hresolved] at hsame
  subst hsame
  obtain ⟨-, hformed, hnames⟩ := hclasses _ List.mem_cons_self
  exact ⟨hroot, _, hmodel, rfl, _, List.mem_cons_self, hformed, _, List.mem_cons_self, rfl,
    (hformed.found "items" _).2 ⟨List.mem_cons_self, rfl⟩,
    hnames _ List.mem_cons_self "Item" rfl⟩

end Resolution

end Exemplar
