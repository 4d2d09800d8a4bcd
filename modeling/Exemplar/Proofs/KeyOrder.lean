import Mathlib.Data.List.Forall2
import Exemplar.Proofs.Discovery.MergingOrders
import Exemplar.Proofs.Discovery.Reordering
import Exemplar.Proofs.References
import Exemplar.Proofs.Typing

/-!
# Models of reordered documents

A document whose objects have their keys in another order gives the same classes, with the same
fields and counts, as long as nothing conflicts.  So it does for the types of the fields, unless an
open list comes first in one of the two orders and holds up what the other order keeps.
-/

namespace Exemplar

open Discovery Json Naming

namespace Evidence

/-- Whether the innermost of some lists was empty or started with null. -/
def endsOpen : Evidence → Bool
  | .deferredList => true
  | .list element => element.endsOpen
  | _ => false

end Evidence

namespace Discovery

/-! ## Evidence of a property -/

theorem elementEvidence_endsOpen {known : Known} {name : String} :
    ∀ (value : Value) {evidence : Evidence},
      elementEvidence known name value = .ok (some evidence) → evidence.isDeferred = true →
      evidence.endsOpen = true
  | .null, _, h, _ => by cases h
  | .bool _, _, h, hopen => by cases h; cases hopen
  | .number _, _, h, hopen => by cases h; cases hopen
  | .string _, _, h, hopen => by cases h; cases hopen
  | .object _, evidence, h, hopen => by
      rw [elementEvidence, objectEvidence] at h
      split at h
      · cases h
        cases hopen
      · cases h
  | .array [], _, h, _ => by cases h; rfl
  | .array (first :: _), evidence, h, hopen => by
      rw [elementEvidence] at h
      cases hfirst : elementEvidence known name first with
      | error failure =>
          rw [hfirst] at h
          cases h
      | ok found =>
          rw [hfirst] at h
          cases found with
          | none => cases h; rfl
          | some element =>
              cases h
              have helement : element.endsOpen = true := elementEvidence_endsOpen first hfirst hopen
              exact helement

/-- Open lists are open in the innermost list. -/
theorem settledEvidence_endsOpen {property : String} {value : Value}
    (h : (settledEvidence property value).isOpenList = true) :
    (settledEvidence property value).endsOpen = true := by
  rw [settledEvidence, evidenceOf_eq] at h ⊢
  cases hobject : value.isObject with
  | true =>
      rw [hobject] at h
      cases h
  | false =>
      rw [hobject, if_neg Bool.false_ne_true] at h
      rw [if_neg Bool.false_ne_true]
      cases hfound : elementEvidence (fun _ => true) (className (singular property)) value with
      | error failure =>
          rw [hfound] at h
          cases h
      | ok found =>
          rw [hfound] at h
          cases found with
          | none => cases h
          | some evidence =>
              exact elementEvidence_endsOpen value hfound (Bool.and_eq_true_iff.1 h).1

/-- The evidence of a property in the objects of a class, in the order in which it is recorded. -/
def propertyEvidence (root : String) (value : Value) (owner property : String) : List Evidence :=
  ((recorded root value).filter fun record =>
    record.owner == owner && record.property == property).map Occurrence.evidence

theorem propertyEvidence_eq_map_mention (root : String) (value : Value)
    (owner property : String) :
    propertyEvidence root value owner property =
      (((recorded root value).map Occurrence.mention).filter fun mention =>
        mention.owner == owner && mention.property == property).map Mention.evidence := by
  rw [propertyEvidence, List.filter_map, List.map_map]
  rfl

theorem propertyEvidence_perm {value other : Value} (h : value.Reordered other)
    (root owner property : String) :
    (propertyEvidence root value owner property).Perm
      (propertyEvidence root other owner property) := by
  rw [propertyEvidence_eq_map_mention, propertyEvidence_eq_map_mention]
  exact ((alikeRoots_of_reordered root h).mentions.filter _).map _

/-- The evidence of the property of a field is that of its records. -/
theorem propertyEvidence_eq_cons {fieldPrefix root name field : String} {value : Value}
    {first : Occurrence} {rest : List Occurrence}
    (hrecords : fieldRecords fieldPrefix root value name field = first :: rest) :
    propertyEvidence root value name first.property =
      first.evidence ::
        (rest.filter (·.property == first.property)).map Occurrence.evidence := by
  obtain ⟨-, -, hfield⟩ := first_mem_fieldRecords hrecords
  rw [propertyEvidence, ← Resolution.filter_property hfield, hrecords,
    List.filter_cons_of_pos (p := fun record : Occurrence => record.property == first.property)
      (beq_self_eq_true _), List.map_cons]

theorem endsOpen_of_mem_propertyEvidence {root owner property : String} {value : Value}
    {evidence : Evidence} (hmem : evidence ∈ propertyEvidence root value owner property)
    (hopen : evidence.isOpenList = true) : evidence.endsOpen = true := by
  obtain ⟨record, -, rfl⟩ := List.mem_map.1 hmem
  exact settledEvidence_endsOpen hopen

end Discovery

namespace Resolution

/-! ## Types of the evidence that is kept -/

theorem isList_resolve (known : Known) (property : String) (evidence : Evidence) :
    (resolve known property evidence).isList = evidence.isList := by
  cases evidence with
  | scalar kind => cases kind <;> rfl
  | deferred =>
      rw [resolve, lookUp]
      split <;> rfl
  | _ => rfl

/-- Open lists of different depths have different types. -/
theorem resolve_inj_of_endsOpen {known : Known} {property : String} {evidence other : Evidence}
    (hopen : evidence.endsOpen = true) (hother : other.endsOpen = true)
    (h : resolve known property evidence = resolve known property other) : evidence = other := by
  have hlookUp : ∀ (name : String) {element : Evidence}, element.endsOpen = true →
      lookUp known name ≠ resolve known property element := by
    intro name element helement heq
    have hlist : element.isList = true := by
      cases element with
      | list element => rfl
      | deferredList => rfl
      | _ => cases helement
    rw [← isList_resolve known property, ← heq, lookUp] at hlist
    split at hlist <;> cases hlist
  induction evidence generalizing other with
  | deferredList =>
      cases other with
      | deferredList => rfl
      | list element => exact absurd (Ty.list.inj h) (hlookUp _ hother)
      | _ => cases hother
  | list element ih =>
      cases other with
      | deferredList => exact absurd (Ty.list.inj h).symm (hlookUp _ hopen)
      | list otherElement =>
          have hsame : element = otherElement := ih hopen hother (Ty.list.inj h)
          rw [hsame]
      | _ => cases hother
  | _ => cases hopen

open Evidence in
/-- Two orders of the evidence of a field give it the same type exactly if the order does not
matter. -/
theorem resolve_merge_eq_iff {first other : Evidence} {later others : List Evidence}
    (hnone : first.conflicts later = []) (hperm : (first :: later).Perm (other :: others))
    (hends : ∀ evidence ∈ first :: later, evidence.isOpenList = true → evidence.endsOpen = true)
    (known : Known) (property : String) :
    resolve known property (first.merge later) = resolve known property (other.merge others) ↔
      orderMatters (first :: later) (other :: others) = false := by
  constructor
  · intro h
    have hlists : (first.merge later).isList = (other.merge others).isList := by
      rw [← isList_resolve known property, h, isList_resolve]
    cases hfirst : first.isOpenList with
    | false =>
        cases hother : other.isOpenList with
        | false => simp only [orderMatters, hfirst, hother]
        | true =>
            rw [settlesOnList_merge hfirst,
              merge_isList (Bool.and_eq_true_iff.1 hother).2] at hlists
            simp only [orderMatters, hfirst, hother, hlists]
            rfl
    | true =>
        cases hother : other.isOpenList with
        | false =>
            rw [settlesOnList_merge hother,
              merge_isList (Bool.and_eq_true_iff.1 hfirst).2] at hlists
            simp only [orderMatters, hfirst, hother, ← hlists]
            rfl
        | true =>
            cases hany : (first :: later).any isConcreteList with
            | true => simp only [orderMatters, hfirst, hother, hany, Bool.not_true, Bool.and_false]
            | false =>
                have hanyOther : (other :: others).any isConcreteList = false :=
                  hperm.any_eq ▸ hany
                rw [merge_eq_first hfirst hany, merge_eq_first hother hanyOther] at h
                have hsame : first = other :=
                  resolve_inj_of_endsOpen (hends _ List.mem_cons_self hfirst)
                    (hends _ (hperm.mem_iff.2 List.mem_cons_self) hother) h
                simp [orderMatters, hother, hsame]
  · intro h
    rw [(merge_eq_merge_iff hnone hperm).2 h]

/-! ## Reordered documents -/

/-- The fields that two orders of a document give a class for one of its properties. -/
structure SameField (root : String) (value other : Value) (owner : String)
    (field twin : Field) : Prop where
  property : twin.property = field.property
  name : twin.name = field.name
  presentIn : twin.presentIn = field.presentIn
  nullIn : twin.nullIn = field.nullIn
  /-- The type is the same, except for open lists that come first in one order. -/
  ty : twin.ty = field.ty ↔
    Evidence.orderMatters (propertyEvidence root value owner field.property)
      (propertyEvidence root other owner field.property) = false

variable {fieldPrefix root : String} {value other : Value}

theorem isRoot_reordered (hvalue : isRoot value = true) (h : value.Reordered other) :
    isRoot other = true := by
  rw [← (alikeRoots_of_reordered "" h).isRoot]
  exact hvalue

theorem knows_reordered (hvalue : isRoot value = true) (h : value.Reordered other)
    (fieldPrefix root : String) :
    (discovered fieldPrefix root other).knows = (discovered fieldPrefix root value).knows := by
  funext name
  apply Bool.eq_iff_iff.2
  rw [knows_discovered hvalue, knows_discovered (isRoot_reordered hvalue h),
    (alikeRoots_of_reordered root h).classes.mem_iff]

theorem classNames_reordered (hvalue : isRoot value = true) (h : value.Reordered other)
    (fieldPrefix root : String) :
    (resolvedModel fieldPrefix root value).classNames.Perm
      (resolvedModel fieldPrefix root other).classNames := by
  rw [classNames_resolvedModel, classNames_resolvedModel]
  apply (List.perm_ext_iff_of_nodup (discovered_nodup fieldPrefix root value)
    (discovered_nodup fieldPrefix root other)).2
  intro name
  rw [← Roster.contains_iff_mem, ← Roster.contains_iff_mem]
  exact Bool.eq_iff_iff.1 (congrFun (knows_reordered hvalue h fieldPrefix root) name).symm

theorem seenObjects_resolvedModel {cls : ClassDef}
    (hcls : cls ∈ (resolvedModel fieldPrefix root value).classes) :
    cls.seenObjects = ((visited root value).map (·.1)).count cls.name := by
  obtain ⟨⟨name, draft⟩, hdraft, rfl⟩ := List.mem_map.1 hcls
  exact seenObjects_discovered hdraft

/-- A class has the fields of which there are records. -/
theorem mem_fieldNames_iff {cls : ClassDef} {field : String}
    (hcls : cls ∈ (resolvedModel fieldPrefix root value).classes) :
    field ∈ cls.fields.map (·.name) ↔
      fieldRecords fieldPrefix root value cls.name field ≠ [] := by
  obtain ⟨⟨name, draft⟩, hdraft, rfl⟩ := List.mem_map.1 hcls
  rw [resolveClass, List.map_map]
  constructor
  · intro hfield
    obtain ⟨⟨_, slot⟩, hslot, rfl⟩ := List.mem_map.1 hfield
    obtain ⟨first, rest, hrecords, -⟩ := (mem_slots_iff hdraft).1 hslot
    exact List.ne_nil_of_mem (hrecords ▸ List.mem_cons_self)
  · intro hne
    obtain ⟨first, rest, hrecords⟩ := List.exists_cons_of_ne_nil hne
    exact List.mem_map.2 ⟨_, (mem_slots_iff hdraft).2 ⟨first, rest, hrecords, rfl⟩, rfl⟩

/-- A class has fields of the same names in another order of the keys. -/
theorem fieldNames_reordered (h : value.Reordered other) {cls twin : ClassDef}
    (hcls : cls ∈ (resolvedModel fieldPrefix root value).classes)
    (htwin : twin ∈ (resolvedModel fieldPrefix root other).classes) (hname : twin.name = cls.name) :
    cls.fields.map (·.name) = twin.fields.map (·.name) := by
  apply Sorted.eq_of_mem_iff (fields_sorted hcls) (fields_sorted htwin)
  intro field
  have hrecords := (fieldMentions_perm h fieldPrefix root cls.name field).length_eq
  rw [fieldMentions, fieldMentions, List.length_map, List.length_map] at hrecords
  rw [mem_fieldNames_iff hcls, mem_fieldNames_iff htwin, hname, ← List.length_pos_iff,
    ← List.length_pos_iff, hrecords]

/-- Where no collision is reported of a field, it has one property. -/
theorem property_eq_of_no_collisions {name field : String} {first : Occurrence}
    {rest : List Occurrence}
    (hrecords : fieldRecords fieldPrefix root value name field = first :: rest)
    (hnone : ∀ kept dropped, .fieldCollision name field kept dropped ∉
      (discovered fieldPrefix root value).diagnostics) :
    ∀ record ∈ fieldRecords fieldPrefix root value name field,
      record.property = first.property := by
  intro record hrecord
  rw [hrecords] at hrecord
  rcases List.mem_cons.1 hrecord with rfl | hrecord
  · rfl
  · apply Decidable.of_not_not
    intro hne
    have hcollision : .fieldCollision name field first.property record.property ∈
        (discovered fieldPrefix root value).diagnostics.filter (isCollisionOf name field) := by
      rw [collisions_discovered hrecords]
      exact List.mem_map.2 ⟨record, List.mem_filter.2 ⟨hrecord, by simpa using hne⟩, rfl⟩
    exact hnone _ _ (List.mem_filter.1 hcollision).1

/-- The counts of a field, from what is taken of its records. -/
theorem counts_slotAfter {name field : String} {first : Occurrence} {rest : List Occurrence}
    (hrecords : fieldRecords fieldPrefix root value name field = first :: rest) :
    (slotAfter (firstSlot first) rest).presentIn =
        (fieldMentions fieldPrefix root value name field).countP
          (·.property == first.property) ∧
      (slotAfter (firstSlot first) rest).nullIn =
        (fieldMentions fieldPrefix root value name field).countP
          fun mention => mention.property == first.property && mention.isNull := by
  rw [presentIn_slotAfter, nullIn_slotAfter, ← hrecords, fieldMentions, List.countP_map,
    List.countP_map]
  exact ⟨rfl, rfl⟩

/-- What two orders keep of a field has the same type exactly if the order does not matter. -/
theorem resolve_slotAfter_eq_iff (h : value.Reordered other) {name field : String}
    {first firstTwin : Occurrence} {rest restTwin : List Occurrence}
    (hrecords : fieldRecords fieldPrefix root value name field = first :: rest)
    (hrecordsTwin : fieldRecords fieldPrefix root other name field = firstTwin :: restTwin)
    (hproperty : firstTwin.property = first.property)
    (hconflicts : ∀ kept dropped, .typeConflict name field kept dropped ∉
      (discovered fieldPrefix root value).diagnostics) (known : Known) :
    resolve known first.property (slotAfter (firstSlot firstTwin) restTwin).evidence =
        resolve known first.property (slotAfter (firstSlot first) rest).evidence ↔
      Evidence.orderMatters (propertyEvidence root value name first.property)
        (propertyEvidence root other name first.property) = false := by
  have hevidence := propertyEvidence_eq_cons hrecords
  have hevidenceTwin := propertyEvidence_eq_cons hrecordsTwin
  have hperm := propertyEvidence_perm h root name first.property
  have hends : ∀ evidence ∈ propertyEvidence root value name first.property,
      evidence.isOpenList = true → evidence.endsOpen = true :=
    fun evidence hmem hopen => endsOpen_of_mem_propertyEvidence hmem hopen
  simp only [slotAfter, firstSlot]
  rw [hproperty] at hevidenceTwin ⊢
  rw [hevidenceTwin, hevidence] at hperm
  rw [hevidence] at hends
  rw [hevidence, hevidenceTwin]
  exact eq_comm.trans (resolve_merge_eq_iff (conflicts_eq_nil hrecords hconflicts) hperm hends
    known first.property)

/-- A field without collisions and conflicts is the same in another order of the keys, with a type
of its own only if an open list comes first in one order. -/
theorem sameField_reordered (hvalue : isRoot value = true) (h : value.Reordered other)
    {cls twin : ClassDef} {field twinField : Field}
    (hcls : cls ∈ (resolvedModel fieldPrefix root value).classes)
    (htwin : twin ∈ (resolvedModel fieldPrefix root other).classes) (hclass : twin.name = cls.name)
    (hfield : field ∈ cls.fields) (htwinField : twinField ∈ twin.fields)
    (hname : twinField.name = field.name)
    (hcollisions : ∀ kept dropped, .fieldCollision cls.name field.name kept dropped ∉
      (discovered fieldPrefix root value).diagnostics)
    (hconflicts : ∀ kept dropped, .typeConflict cls.name field.name kept dropped ∉
      (discovered fieldPrefix root value).diagnostics) :
    SameField root value other cls.name field twinField := by
  obtain ⟨first, rest, hrecords, hslot⟩ := exists_slotAfter hcls hfield
  obtain ⟨firstTwin, restTwin, hrecordsTwin, hslotTwin⟩ := exists_slotAfter htwin htwinField
  rw [hclass, hname] at hrecordsTwin
  have hperm := fieldMentions_perm h fieldPrefix root cls.name field.name
  have hproperty : firstTwin.property = first.property := by
    have hmention : firstTwin.mention ∈
        fieldMentions fieldPrefix root other cls.name field.name := by
      rw [fieldMentions, hrecordsTwin]
      exact List.mem_cons_self
    obtain ⟨record, hrecord, hsame⟩ := List.mem_map.1 (hperm.mem_iff.2 hmention)
    have hown := property_eq_of_no_collisions hrecords hcollisions record hrecord
    exact (congrArg Mention.property hsame).symm.trans hown
  have hcounts := counts_slotAfter hrecords
  have hcountsTwin := counts_slotAfter hrecordsTwin
  rw [hproperty, ← hperm.countP_eq, ← hperm.countP_eq] at hcountsTwin
  refine ⟨?_, hname, ?_, ?_, ?_⟩
  · rw [congrArg Field.property hslot, congrArg Field.property hslotTwin]
    exact hproperty
  · rw [congrArg Field.presentIn hslot, congrArg Field.presentIn hslotTwin]
    exact hcountsTwin.1.trans hcounts.1.symm
  · rw [congrArg Field.nullIn hslot, congrArg Field.nullIn hslotTwin]
    exact hcountsTwin.2.trans hcounts.2.symm
  · rw [congrArg Field.property hslot, congrArg Field.ty hslot, congrArg Field.ty hslotTwin,
      knows_reordered hvalue h]
    change resolve _ firstTwin.property _ = resolve _ first.property _ ↔ _
    rw [hproperty]
    exact resolve_slotAfter_eq_iff h hrecords hrecordsTwin hproperty hconflicts _

/-- A document whose keys stand in another order gives the same classes, with the same fields and
counts, if no collision and no conflict is reported of it.  A field has the same type exactly if no
open list comes first in one of the orders and makes a difference. -/
theorem modelOf_reordered (root : String) {value other : Value} (hvalue : isRoot value = true)
    (h : value.Reordered other) (fieldPrefix : String) :
    ∃ model twin,
      (Generation.modelOf root value fieldPrefix Watch.never).result = .ok model ∧
      (Generation.modelOf root other fieldPrefix Watch.never).result = .ok twin ∧
      ((∀ diagnostic ∈ model.diagnostics,
          isCollision diagnostic = false ∧ isConflict diagnostic = false) →
        model.classNames.Perm twin.classNames ∧
        ∀ cls ∈ model.classes, ∃ twinClass,
          twin.class? cls.name = some twinClass ∧ twinClass.name = cls.name ∧
          twinClass.seenObjects = cls.seenObjects ∧
          List.Forall₂ (SameField root value other cls.name) cls.fields twinClass.fields) := by
  refine ⟨_, _, modelOf_never hvalue fieldPrefix,
    modelOf_never (isRoot_reordered hvalue h) fieldPrefix, ?_⟩
  intro hquiet
  have hnames := classNames_reordered hvalue h fieldPrefix root
  refine ⟨hnames, ?_⟩
  intro cls hcls
  obtain ⟨twin, htwin, hname⟩ : ∃ twin ∈ (resolvedModel fieldPrefix root other).classes,
      twin.name = cls.name :=
    List.mem_map.1 (hnames.mem_iff.1 (List.mem_map_of_mem hcls))
  refine ⟨twin, hname ▸ class?_resolvedModel htwin, hname, ?_, ?_⟩
  · rw [seenObjects_resolvedModel hcls, seenObjects_resolvedModel htwin, hname]
    exact ((alikeRoots_of_reordered root h).classes.count_eq cls.name).symm
  · have hfields := fieldNames_reordered h hcls htwin hname
    apply List.forall₂_iff_zip.2
    refine ⟨by simpa using congrArg List.length hfields, ?_⟩
    intro field twinField hzip
    obtain ⟨hfield, htwinField⟩ := List.of_mem_zip hzip
    have hsame : twinField.name = field.name := by
      have hnamed : List.Forall₂ (fun field twinField : Field => field.name = twinField.name)
          cls.fields twin.fields :=
        List.forall₂_map_left_iff.1 (List.forall₂_map_right_iff.1
          (List.forall₂_eq_eq_eq ▸ hfields))
      exact ((List.forall₂_iff_zip.1 hnamed).2 hzip).symm
    apply sameField_reordered hvalue h hcls htwin hname hfield htwinField hsame
    · intro kept dropped hmem
      have hquiet := (hquiet _ (List.mem_append_left _ hmem)).1
      cases hquiet
    · intro kept dropped hmem
      have hquiet := (hquiet _ (List.mem_append_left _ hmem)).2
      cases hquiet

/-- A null before a list under one key. -/
def nullFirst : Value :=
  .object [("item", .object [("b", .null)]),
    ("items", .array [.object [("b", .array [.number (.integer 1)])]])]

/-- The same with the list first. -/
def nullLast : Value :=
  .object [("items", .array [.object [("b", .array [.number (.integer 1)])]]),
    ("item", .object [("b", .null)])]

theorem modelOf_reordered_nullFirst :
    isRoot nullFirst = true ∧ nullFirst.Reordered nullLast ∧
      ∃ twin, (Generation.modelOf "Root" nullLast "m" Watch.never).result = .ok twin ∧
        ∃ cls, twin.class? "Item" = some cls ∧ cls.seenObjects = 2 ∧
          ∃ field ∈ cls.fields, field.property = "b" ∧ field.ty = .list .integer ∧
            field.presentIn = 2 ∧ field.nullIn = 1 := by
  have hroot : isRoot nullFirst = true := rfl
  have hswap : nullFirst.Reordered nullLast := .keys (List.Perm.swap _ _ [])
  obtain ⟨model, twin, hmodel, htwin, hsame⟩ := modelOf_reordered "Root" hroot hswap "m"
  have hresolved : resolvedModel "m" "Root" nullFirst =
      ⟨"Root",
        [⟨"Root", [⟨"item", "mItem", .named "Item", 1, 0⟩,
            ⟨"items", "mItems", .list (.named "Item"), 1, 0⟩], 1⟩,
          ⟨"Item", [⟨"b", "mB", .list .integer, 2, 1⟩], 2⟩], []⟩ := by
    decide +kernel
  have hown : resolvedModel "m" "Root" nullFirst = model :=
    Except.ok.inj ((modelOf_never hroot "m").symm.trans hmodel)
  rw [hresolved] at hown
  subst hown
  obtain ⟨-, hclasses⟩ := hsame (by simp)
  obtain ⟨cls, hcls, -, hseen, hfields⟩ :=
    hclasses ⟨"Item", [⟨"b", "mB", .list .integer, 2, 1⟩], 2⟩ (by simp)
  obtain ⟨field, rest, hfield, -, hcons⟩ := List.forall₂_cons_left_iff.1 hfields
  have hmem : field ∈ cls.fields := by
    rw [hcons]
    exact List.mem_cons_self
  exact ⟨hroot, hswap, twin, htwin, cls, hcls, hseen, field, hmem, hfield.property,
    hfield.ty.2 (by decide +kernel), hfield.presentIn, hfield.nullIn⟩

/-- An empty list and a null before a number and a list. -/
def openFirst : Value :=
  .object [("item", .object [("x", .array []), ("y", .null)]),
    ("items", .array [.object [("x", .number (.integer 5)), ("y", .array [])]])]

/-- The same with the number and the list first. -/
def openLast : Value :=
  .object [("items", .array [.object [("x", .number (.integer 5)), ("y", .array [])]]),
    ("item", .object [("x", .array []), ("y", .null)])]

/-- Without a collision or conflict, a field has another type in another order of the keys. -/
theorem modelOf_differs_openFirst :
    isRoot openFirst = true ∧ openFirst.Reordered openLast ∧
      ∃ model twin,
        (Generation.modelOf "Root" openFirst "m" Watch.never).result = .ok model ∧
        (Generation.modelOf "Root" openLast "m" Watch.never).result = .ok twin ∧
        (∀ diagnostic ∈ model.diagnostics,
          isCollision diagnostic = false ∧ isConflict diagnostic = false) ∧
        ∃ cls ∈ model.classes, ∃ twinClass, twin.class? cls.name = some twinClass ∧
          ∃ field ∈ cls.fields, ∃ twinField ∈ twinClass.fields,
            twinField.name = field.name ∧ twinField.ty ≠ field.ty := by
  have hmodel : resolvedModel "m" "Root" openFirst =
      ⟨"Root",
        [⟨"Root", [⟨"item", "mItem", .named "Item", 1, 0⟩,
            ⟨"items", "mItems", .list (.named "Item"), 1, 0⟩], 1⟩,
          ⟨"Item", [⟨"x", "mX", .list .any, 2, 0⟩, ⟨"y", "mY", .any, 2, 1⟩], 2⟩],
        [.unresolved "Item" "mX", .unresolved "Item" "mY"]⟩ := by
    decide +kernel
  have htwin : resolvedModel "m" "Root" openLast =
      ⟨"Root",
        [⟨"Root", [⟨"item", "mItem", .named "Item", 1, 0⟩,
            ⟨"items", "mItems", .list (.named "Item"), 1, 0⟩], 1⟩,
          ⟨"Item", [⟨"x", "mX", .integer, 2, 0⟩, ⟨"y", "mY", .list .any, 2, 1⟩], 2⟩],
        [.unresolved "Item" "mY"]⟩ := by
    decide +kernel
  refine ⟨rfl, .keys (List.Perm.swap _ _ []), _, _, modelOf_never rfl "m", modelOf_never rfl "m",
    ?_⟩
  rw [hmodel, htwin]
  refine ⟨by simp [isCollision, isConflict], _, List.mem_cons_of_mem _ List.mem_cons_self, _, rfl,
    _, List.mem_cons_self, _, List.mem_cons_self, rfl, by simp⟩

end Resolution

end Exemplar
