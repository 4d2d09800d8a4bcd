import Exemplar.Proofs.Admission
import Exemplar.Proofs.Discovery.Fields
import Exemplar.Proofs.Discovery.Known
import Exemplar.Proofs.Resolution

/-!
# Types of fields

The type of a field is that of the evidence which was kept of it.  Where no conflict was reported
for the field, a value that the type does not admit has met deferred evidence on the way: either it
is of no list and came after a list of unknown type, or it is itself a list of unknown type with
more levels than the type of the field has.
-/

namespace Exemplar.Resolution

open Discovery Json Naming Reporting

/-- Where a walk reports no conflict of a field, there is none among the evidence of its
property. -/
theorem conflicts_eq_nil {fieldPrefix root name field : String} {value : Value}
    {first : Occurrence} {rest : List Occurrence}
    (hrecords : fieldRecords fieldPrefix root value name field = first :: rest)
    (hnone : ∀ kept dropped, .typeConflict name field kept dropped ∉
      (discovered fieldPrefix root value).diagnostics) :
    first.evidence.conflicts
      ((rest.filter (·.property == first.property)).map Occurrence.evidence) = [] := by
  apply List.eq_nil_iff_forall_not_mem.2
  intro pair hpair
  have hreport : .typeConflict name field pair.1.describe pair.2.describe ∈
      (run (recordSlot name field) (some (firstSlot first)) rest).2.filter isConflict := by
    rw [conflicts_run]
    exact List.mem_map.2 ⟨pair, hpair, rfl⟩
  rw [← reports_discovered hrecords] at hreport
  exact hnone _ _ (List.mem_filter.1 (List.mem_filter.1 hreport).1).1

/-- The records of a field under its property are all those of the property. -/
theorem filter_property {fieldPrefix root name field property : String} {value : Value}
    (hfield : fieldName fieldPrefix property = field) :
    (fieldRecords fieldPrefix root value name field).filter (·.property == property) =
      (recorded root value).filter
        fun record => record.owner == name && record.property == property := by
  rw [fieldRecords, List.filter_filter]
  apply List.filter_congr
  intro record _
  apply Bool.eq_iff_iff.2
  simp only [Bool.and_eq_true, beq_iff_eq, isRecordOf_iff, Occurrence.field]
  constructor
  · rintro ⟨hproperty, hname, -⟩
    exact ⟨hname, hproperty⟩
  · rintro ⟨hname, hproperty⟩
    exact ⟨hproperty, hname, hproperty ▸ hfield⟩

/-- The first record of a field is the first of its property. -/
theorem find?_property {fieldPrefix root name field : String} {value : Value}
    {first : Occurrence} {rest : List Occurrence}
    (hrecords : fieldRecords fieldPrefix root value name field = first :: rest) :
    (recorded root value).find?
        (fun record => record.owner == name && record.property == first.property) =
      some first := by
  obtain ⟨-, -, hfield⟩ := first_mem_fieldRecords hrecords
  rw [← List.head?_filter, ← filter_property hfield, hrecords,
    List.filter_cons_of_pos (p := fun record : Occurrence => record.property == first.property)
      (beq_self_eq_true _), List.head?_cons]

/-- The type of a field against the value of one record of its property. -/
theorem admits_record {fieldPrefix root name field : String} {value : Value}
    {first record : Occurrence} {rest : List Occurrence}
    (hrecords : fieldRecords fieldPrefix root value name field = first :: rest)
    (hnone : ∀ kept dropped, .typeConflict name field kept dropped ∉
      (discovered fieldPrefix root value).diagnostics)
    (hrecord : record ∈ fieldRecords fieldPrefix root value name field)
    (hproperty : record.property = first.property) (known : Known) :
    let ty := resolve known first.property (slotAfter (firstSlot first) rest).evidence
    ty.admits record.evidence =
      !(first.evidence.passesBy record.evidence || ty.isTooFlatFor record.evidence) := by
  apply admits_merge (conflicts_eq_nil hrecords hnone)
  rw [hrecords] at hrecord
  rcases List.mem_cons.1 hrecord with rfl | hrecord
  · exact .inl rfl
  · right
    apply List.mem_map_of_mem
    exact List.mem_filter.2 ⟨hrecord, beq_iff_eq.2 hproperty⟩

/-- Where no conflict is reported for a field, its type admits every value of its property, except
for exactly two kinds: concrete values that passed by the deferred list which came first, and values
that leave their own type open under more lists than the type has. -/
theorem fields_admit_their_values (root : String) {value : Value} (hvalue : isRoot value = true)
    (fieldPrefix : String) :
    ∃ model, (Generation.modelOf root value fieldPrefix Watch.never).result = .ok model ∧
      ∀ cls ∈ model.classes, ∀ field ∈ cls.fields,
        (∀ kept dropped, .typeConflict cls.name field.name kept dropped ∉ model.diagnostics) →
        ∃ first kept,
          (recorded root value).find?
              (fun record => record.owner == cls.name && record.property == field.property) =
            some first ∧
          evidenceOf model.hasClass singular field.property first.value = .ok kept ∧
          ∀ members ∈ objectsOf root value cls.name, ∀ child, (field.property, child) ∈ members →
            ∃ evidence, evidenceOf model.hasClass singular field.property child = .ok evidence ∧
              field.ty.admits evidence =
                !(kept.passesBy evidence || field.ty.isTooFlatFor evidence) := by
  refine ⟨_, modelOf_never hvalue fieldPrefix, ?_⟩
  intro cls hcls field hfield hnone
  rw [hasClass_resolvedModel]
  obtain ⟨⟨name, draft⟩, hdraft, rfl⟩ := List.mem_map.1 hcls
  obtain ⟨⟨identifier, slot⟩, hslot, rfl⟩ := List.mem_map.1 hfield
  obtain ⟨first, rest, hrecords, rfl⟩ := (mem_slots_iff hdraft).1 hslot
  have hwalk : ∀ kept dropped, .typeConflict name identifier kept dropped ∉
      (discovered fieldPrefix root value).diagnostics :=
    fun kept dropped hconflict => hnone kept dropped (List.mem_append_left _ hconflict)
  obtain ⟨⟨members, hmembers, hmember⟩, -, hidentifier⟩ := first_mem_fieldRecords hrecords
  refine ⟨first, first.evidence, find?_property hrecords,
    evidenceOf_discovered hvalue fieldPrefix (mem_objectsOf.1 hmembers) hmember, ?_⟩
  intro members hmembers child hchild
  have hrecord : ⟨name, first.property, child⟩ ∈
      fieldRecords fieldPrefix root value name identifier :=
    mem_fieldRecords.2 ⟨⟨members, hmembers, hchild⟩, rfl, hidentifier⟩
  exact ⟨_, evidenceOf_discovered hvalue fieldPrefix (mem_objectsOf.1 hmembers) hchild,
    admits_record hrecords hwalk hrecord rfl _⟩

/-- Null, an empty list and an object under one key. -/
def ownedLast : Value :=
  .object [("items", .array [
    .object [("owner", .null)],
    .object [("owner", .array [])],
    .object [("owner", .object [("name", .string "x")])]])]

theorem fields_admit_their_values_ownedLast :
    isRoot ownedLast = true ∧
      ∃ model, (Generation.modelOf "Root" ownedLast "m" Watch.never).result = .ok model ∧
        ∃ kept : Evidence, ∀ members ∈ objectsOf "Root" ownedLast "Item", ∀ child,
          ("owner", child) ∈ members →
          ∃ evidence, evidenceOf model.hasClass singular "owner" child = .ok evidence ∧
            (Ty.named "Owner").admits evidence =
              !(kept.passesBy evidence || (Ty.named "Owner").isTooFlatFor evidence) := by
  have hroot : isRoot ownedLast = true := rfl
  obtain ⟨model, hmodel, hfields⟩ := fields_admit_their_values "Root" hroot "m"
  have hresolved : resolvedModel "m" "Root" ownedLast =
      ⟨"Root",
        [⟨"Root", [⟨"items", "mItems", .list (.named "Item"), 1, 0⟩], 1⟩,
          ⟨"Item", [⟨"owner", "mOwner", .named "Owner", 3, 1⟩], 3⟩,
          ⟨"Owner", [⟨"name", "mName", .string, 1, 0⟩], 1⟩], []⟩ := by
    decide +kernel
  have hsame : resolvedModel "m" "Root" ownedLast = model :=
    Except.ok.inj ((modelOf_never hroot "m").symm.trans hmodel)
  rw [hresolved] at hsame
  subst hsame
  obtain ⟨first, kept, -, -, hvalues⟩ := hfields
    ⟨"Item", [⟨"owner", "mOwner", .named "Owner", 3, 1⟩], 3⟩ (by simp)
    ⟨"owner", "mOwner", .named "Owner", 3, 1⟩ (by simp) (by simp)
  exact ⟨hroot, _, hmodel, kept, hvalues⟩

/-- An empty list before a number, and a number before an empty list. -/
def emptyEither : Value :=
  .object [("items", .array [
    .object [("a", .array []), ("b", .number (.integer 1))],
    .object [("a", .number (.integer 5)), ("b", .array [])]])]

/-- Neither of two fields of a class admits all of its values, and no conflict is reported. -/
theorem fields_lack_values_emptyEither :
    isRoot emptyEither = true ∧
      ∃ model, (Generation.modelOf "Root" emptyEither "m" Watch.never).result = .ok model ∧
        ∃ cls ∈ model.classes, ∃ number ∈ cls.fields, ∃ list ∈ cls.fields,
          (∀ name field kept dropped, .typeConflict name field kept dropped ∉ model.diagnostics) ∧
          (∃ members ∈ objectsOf "Root" emptyEither cls.name,
            ∃ child evidence, (list.property, child) ∈ members ∧
              evidenceOf model.hasClass singular list.property child = .ok evidence ∧
              evidence = .scalar .integer ∧ list.ty.admits evidence = false) ∧
          ∃ members ∈ objectsOf "Root" emptyEither cls.name,
            ∃ child evidence, (number.property, child) ∈ members ∧
              evidenceOf model.hasClass singular number.property child = .ok evidence ∧
              evidence = .deferredList ∧ number.ty.admits evidence = false := by
  have hresolved : resolvedModel "m" "Root" emptyEither =
      ⟨"Root",
        [⟨"Root", [⟨"items", "mItems", .list (.named "Item"), 1, 0⟩], 1⟩,
          ⟨"Item", [⟨"a", "mA", .list .any, 2, 0⟩, ⟨"b", "mB", .integer, 2, 0⟩], 2⟩],
        [.unresolved "Item" "mA"]⟩ := by
    decide +kernel
  have hitem : className (singular "items") = "Item" := by decide +kernel
  have hobject : [("a", .number (.integer 5)), ("b", .array [])] ∈
      objectsOf "Root" emptyEither "Item" := by
    simp [objectsOf, visited, rootObjects, emptyEither, objectsIn, objectsInMembers,
      objectsInMember, objectsInElements, hitem]
  refine ⟨rfl, _, modelOf_never rfl "m", ?_⟩
  rw [hresolved]
  refine ⟨⟨"Item", [⟨"a", "mA", .list .any, 2, 0⟩, ⟨"b", "mB", .integer, 2, 0⟩], 2⟩, by simp,
    ⟨"b", "mB", .integer, 2, 0⟩, by simp, ⟨"a", "mA", .list .any, 2, 0⟩, by simp, by simp, ?_, ?_⟩
  · exact ⟨_, hobject, .number (.integer 5), .scalar .integer, by simp, rfl, rfl, rfl⟩
  · exact ⟨_, hobject, .array [], .deferredList, by simp, rfl, rfl, rfl⟩

end Exemplar.Resolution
