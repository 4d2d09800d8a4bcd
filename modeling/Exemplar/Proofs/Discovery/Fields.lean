import Exemplar.Proofs.Discovery.Slots

/-!
# The fields of a document

Every key of every object is accounted for once.  A class has a field for each identifier among the
keys of its objects.  The first key recorded under an identifier keeps the field and is counted
there; every other key of the identifier is reported as a collision, once for each object with it.
-/

namespace Exemplar.Discovery

open Json Naming Reporting

/-! ## Records of a field -/

theorem mem_recorded {root : String} {value : Value} {record : Occurrence} :
    record ∈ recorded root value ↔
      ∃ members, (record.owner, members) ∈ visited root value ∧
        (record.property, record.value) ∈ members := by
  rw [(recorded_perm root value).mem_iff, List.mem_flatMap]
  constructor
  · rintro ⟨⟨name, members⟩, hobject, hrecord⟩
    obtain ⟨⟨property, value⟩, hmember, rfl⟩ := List.mem_map.1 hrecord
    exact ⟨members, hobject, hmember⟩
  · rintro ⟨members, hobject, hmember⟩
    exact ⟨_, hobject, List.mem_map.2 ⟨_, hmember, rfl⟩⟩

theorem mem_fieldRecords {fieldPrefix root name field : String} {value : Value}
    {record : Occurrence} :
    record ∈ fieldRecords fieldPrefix root value name field ↔
      (∃ members ∈ objectsOf root value name, (record.property, record.value) ∈ members) ∧
        record.owner = name ∧ fieldName fieldPrefix record.property = field := by
  rw [fieldRecords, List.mem_filter, isRecordOf_iff, mem_recorded]
  constructor
  · rintro ⟨⟨members, hobject, hmember⟩, rfl, hfield⟩
    exact ⟨⟨members, mem_objectsOf.2 hobject, hmember⟩, rfl, hfield⟩
  · rintro ⟨⟨members, hobject, hmember⟩, rfl, hfield⟩
    exact ⟨⟨members, mem_objectsOf.1 hobject, hmember⟩, rfl, hfield⟩

theorem first_mem_fieldRecords {fieldPrefix root name field : String} {value : Value}
    {first : Occurrence} {rest : List Occurrence}
    (hrecords : fieldRecords fieldPrefix root value name field = first :: rest) :
    (∃ members ∈ objectsOf root value name, (first.property, first.value) ∈ members) ∧
      first.owner = name ∧ fieldName fieldPrefix first.property = field := by
  apply mem_fieldRecords.1
  rw [hrecords]
  exact List.mem_cons_self

/-- The records of a field under one of its keys are as many as the objects that hold the key. -/
theorem countP_fieldRecords {fieldPrefix field key : String} {value : Value}
    (hvalue : value.DistinctKeys) (hkey : fieldName fieldPrefix key = field)
    (root name : String) (test : Value → Bool) :
    (fieldRecords fieldPrefix root value name field).countP
        (fun record => record.property == key && test record.value) =
      (objectsOf root value name).countP fun members => (member? key members).any test := by
  rw [← countP_recorded hvalue, fieldRecords, List.countP_filter]
  apply List.countP_congr
  intro record _
  simp only [Bool.and_eq_true, beq_iff_eq, isRecordOf_iff, Occurrence.field]
  constructor
  · rintro ⟨⟨hproperty, htest⟩, howner, -⟩
    exact ⟨howner, hproperty, htest⟩
  · rintro ⟨howner, rfl, htest⟩
    exact ⟨⟨rfl, htest⟩, howner, hkey⟩

theorem countP_fieldRecords_key {fieldPrefix field key : String} {value : Value}
    (hvalue : value.DistinctKeys) (hkey : fieldName fieldPrefix key = field)
    (root name : String) :
    (fieldRecords fieldPrefix root value name field).countP (·.property == key) =
      (objectsOf root value name).countP fun members => (member? key members).isSome := by
  have hsome : ∀ members : Members,
      (member? key members).any (fun _ => true) = (member? key members).isSome := by
    intro members
    cases member? key members <;> rfl
  have hcount := countP_fieldRecords hvalue hkey root name fun _ => true
  simpa only [Bool.and_true, hsome] using hcount

/-! ## Counts of a slot -/

theorem presentIn_slotAfter (first : Occurrence) (rest : List Occurrence) :
    (slotAfter (firstSlot first) rest).presentIn =
      (first :: rest).countP (·.property == first.property) := by
  rw [List.countP_cons_of_pos (p := fun record : Occurrence => record.property == first.property)
    (beq_self_eq_true _), List.countP_eq_length_filter, Nat.add_comm]
  rfl

theorem nullIn_slotAfter (first : Occurrence) (rest : List Occurrence) :
    (slotAfter (firstSlot first) rest).nullIn =
      (first :: rest).countP fun record =>
        record.property == first.property && record.value.isNull := by
  have hrest : rest.countP (fun record =>
      record.property == first.property && record.value.isNull) =
        (rest.filter (·.property == first.property)).countP (·.value.isNull) := by
    rw [List.countP_filter]
    apply List.countP_congr
    intro record _
    rw [Bool.and_comm]
  rw [List.countP_cons, hrest, Nat.add_comm]
  cases hnull : first.value.isNull <;> simp [slotAfter, firstSlot, hnull]

/-! ## Collisions -/

def isCollisionOf (name field : String) (diagnostic : Diagnostic) : Bool :=
  isCollision diagnostic && isAbout name field diagnostic

@[simp]
theorem isCollisionOf_fieldCollision (name field kept dropped : String) :
    isCollisionOf name field (.fieldCollision name field kept dropped) = true := by
  simp [isCollisionOf, isCollision, isAbout]

/-- The collisions that are reported for a field. -/
theorem collisions_discovered {fieldPrefix root name field : String} {value : Value}
    {first : Occurrence} {rest : List Occurrence}
    (hrecords : fieldRecords fieldPrefix root value name field = first :: rest) :
    (discovered fieldPrefix root value).diagnostics.filter (isCollisionOf name field) =
      (rest.filter (·.property != first.property)).map fun record =>
        .fieldCollision name field first.property record.property := by
  unfold isCollisionOf
  rw [← List.filter_filter, reports_discovered hrecords]
  exact collisions_run name field (firstSlot first) rest

/-- A key of the field that did not keep it is reported for each of its records. -/
theorem count_collisions {fieldPrefix root name field dropped : String} {value : Value}
    {first : Occurrence} {rest : List Occurrence}
    (hrecords : fieldRecords fieldPrefix root value name field = first :: rest)
    (hdropped : dropped ≠ first.property) :
    (discovered fieldPrefix root value).diagnostics.count
        (.fieldCollision name field first.property dropped) =
      (first :: rest).countP (·.property == dropped) := by
  have habout := isCollisionOf_fieldCollision name field first.property dropped
  have hfirst : ¬ (first.property == dropped) = true := by simpa using Ne.symm hdropped
  rw [← List.count_filter habout, collisions_discovered hrecords,
    List.countP_cons_of_neg (p := fun record : Occurrence => record.property == dropped) hfirst,
    List.count_eq_countP, List.countP_map, List.countP_filter]
  apply List.countP_congr
  intro record _
  by_cases hproperty : record.property = dropped <;> simp [hproperty, hdropped]

/-- A collision names the key that kept the field and another key of it. -/
theorem of_mem_collisions {fieldPrefix root name field kept dropped : String} {value : Value}
    (hmem : .fieldCollision name field kept dropped ∈
      (discovered fieldPrefix root value).diagnostics) :
    ∃ first rest, fieldRecords fieldPrefix root value name field = first :: rest ∧
      kept = first.property ∧ dropped ≠ kept ∧ ∃ record ∈ rest, record.property = dropped := by
  have habout : isAbout name field (.fieldCollision name field kept dropped) = true := by
    simp [isAbout]
  cases hrecords : fieldRecords fieldPrefix root value name field with
  | nil =>
      have hreport := List.mem_filter.2 ⟨hmem, habout⟩
      rw [about_discovered, hrecords, run_nil] at hreport
      exact absurd hreport List.not_mem_nil
  | cons first rest =>
      have hcollision := List.mem_filter.2
        ⟨hmem, isCollisionOf_fieldCollision name field kept dropped⟩
      rw [collisions_discovered hrecords] at hcollision
      obtain ⟨record, hrecord, heq⟩ := List.mem_map.1 hcollision
      obtain ⟨hrecord, hne⟩ := List.mem_filter.1 hrecord
      cases heq
      exact ⟨first, rest, rfl, rfl, by simpa using hne, record, hrecord, rfl⟩

/-! ## Accounts -/

/-- A slot of a class tells of every object of the class with a key of its field. -/
structure Accounts (fieldPrefix root : String) (value : Value) (diagnostics : List Diagnostic)
    (name field : String) (slot : Slot) : Prop where
  identifier : fieldName fieldPrefix slot.property = field
  /-- The property is that of the first record of the field. -/
  first : ((recorded root value).find? fun record =>
    record.owner == name && fieldName fieldPrefix record.property == field).map (·.property) =
      some slot.property
  presentIn : slot.presentIn =
    (objectsOf root value name).countP fun members => (member? slot.property members).isSome
  nullIn : slot.nullIn =
    (objectsOf root value name).countP fun members =>
      (member? slot.property members).any Value.isNull
  /-- Every other key of the field is reported once for each object with it. -/
  collisions : ∀ key, key ≠ slot.property → fieldName fieldPrefix key = field →
    diagnostics.count (.fieldCollision name field slot.property key) =
      (objectsOf root value name).countP fun members => (member? key members).isSome

theorem accounts_discovered {fieldPrefix root name field : String} {value : Value}
    (hvalue : value.DistinctKeys) {first : Occurrence} {rest : List Occurrence}
    (hrecords : fieldRecords fieldPrefix root value name field = first :: rest) :
    Accounts fieldPrefix root value (discovered fieldPrefix root value).diagnostics name field
      (slotAfter (firstSlot first) rest) := by
  have hfirst : fieldName fieldPrefix first.property = field :=
    (first_mem_fieldRecords hrecords).2.2
  refine ⟨hfirst, ?_, ?_, ?_, ?_⟩
  · have hfind : (recorded root value).find? (isRecordOf fieldPrefix name field) = some first := by
      rw [← List.head?_filter]
      exact congrArg List.head? hrecords
    exact congrArg (Option.map Occurrence.property) hfind
  · rw [presentIn_slotAfter, ← hrecords]
    exact countP_fieldRecords_key hvalue hfirst root name
  · rw [nullIn_slotAfter, ← hrecords]
    exact countP_fieldRecords hvalue hfirst root name Value.isNull
  · intro key hkey hfield
    have hcount := count_collisions hrecords hkey
    rw [← hrecords, countP_fieldRecords_key hvalue hfield] at hcount
    exact hcount

/-- A class has a field for each identifier among the keys of its objects. -/
theorem mem_identifiers_iff {fieldPrefix root name field : String} {value : Value} {draft : Draft}
    (hdraft : (name, draft) ∈ (discovered fieldPrefix root value).classes) :
    field ∈ draft.slots.map (·.1) ↔
      ∃ members ∈ objectsOf root value name, ∃ key ∈ members.map (·.1),
        fieldName fieldPrefix key = field := by
  constructor
  · intro hfield
    obtain ⟨⟨_, slot⟩, hslot, rfl⟩ := List.mem_map.1 hfield
    obtain ⟨first, rest, hrecords, -⟩ := (mem_slots_iff hdraft).1 hslot
    obtain ⟨⟨members, hmembers, hmember⟩, -, hidentifier⟩ := first_mem_fieldRecords hrecords
    exact ⟨members, hmembers, _, List.mem_map_of_mem hmember, hidentifier⟩
  · rintro ⟨members, hmembers, key, hkey, hidentifier⟩
    obtain ⟨⟨key, found⟩, hmember, rfl⟩ := List.mem_map.1 hkey
    have hmem : ⟨name, key, found⟩ ∈ fieldRecords fieldPrefix root value name field :=
      mem_fieldRecords.2 ⟨⟨members, hmembers, hmember⟩, rfl, hidentifier⟩
    obtain ⟨first, rest, hrecords⟩ := List.exists_cons_of_ne_nil (List.ne_nil_of_mem hmem)
    have hslot : (field, slotAfter (firstSlot first) rest) ∈ draft.slots :=
      (mem_slots_iff hdraft).2 ⟨first, rest, hrecords, rfl⟩
    exact List.mem_map_of_mem hslot

/-- Every key of every object is accounted for exactly once.  The fields of a class are those of the
keys of its objects, each with the key that came first and the counts of that key; every other key
of a field is a collision in each object with it, and no collision is reported besides. -/
theorem observe_accounts_for_keys (root : String) {value : Value} (hroot : isRoot value = true)
    (hvalue : value.DistinctKeys) (fieldPrefix : String) :
    ∃ discovery, observe root value { fieldPrefix } = (.ok (), discovery) ∧
      ∀ name draft, (name, draft) ∈ discovery.classes →
        (draft.slots.map (·.1)).Nodup ∧
        (∀ field, field ∈ draft.slots.map (·.1) ↔
          ∃ members ∈ objectsOf root value name, ∃ key ∈ members.map (·.1),
            fieldName fieldPrefix key = field) ∧
        (∀ field slot, (field, slot) ∈ draft.slots →
          Accounts fieldPrefix root value discovery.diagnostics name field slot) ∧
        ∀ field kept dropped,
          .fieldCollision name field kept dropped ∈ discovery.diagnostics →
          fieldName fieldPrefix dropped = field ∧
            ∃ slot, (field, slot) ∈ draft.slots ∧ kept = slot.property ∧ dropped ≠ kept := by
  refine ⟨_, observe_fresh hroot fieldPrefix, ?_⟩
  intro name draft hdraft
  refine ⟨Sorted.nodup_of_pairwise (discovered_sorted hdraft),
    fun field => mem_identifiers_iff hdraft, ?_, ?_⟩
  · intro field slot hslot
    obtain ⟨first, rest, hrecords, rfl⟩ := (mem_slots_iff hdraft).1 hslot
    exact accounts_discovered hvalue hrecords
  · intro field kept dropped hmem
    obtain ⟨first, rest, hrecords, rfl, hne, record, hrecord, rfl⟩ := of_mem_collisions hmem
    have hfield : record ∈ fieldRecords fieldPrefix root value name field :=
      hrecords ▸ List.mem_cons_of_mem _ hrecord
    exact ⟨(mem_fieldRecords.1 hfield).2.2, _,
      (mem_slots_iff hdraft).2 ⟨first, rest, hrecords, rfl⟩, rfl, hne⟩

/-- A class nested in itself whose two objects spell one field differently.  The inner object is
recorded first. -/
def spelledTwice : Value :=
  .object [("a", .object [("a", .object [("b-c", .null)]), ("b_c", .bool true)])]

theorem observe_accounts_for_keys_spelledTwice :
    isRoot spelledTwice = true ∧ spelledTwice.DistinctKeys ∧
      ∃ discovery, observe "Root" spelledTwice { fieldPrefix := "m" } = (.ok (), discovery) ∧
        ∀ draft, ("A", draft) ∈ discovery.classes →
          ∃ slot, ("mBC", slot) ∈ draft.slots ∧ slot.property = "b-c" ∧ slot.presentIn = 1 ∧
            slot.nullIn = 1 ∧
            discovery.diagnostics.count (.fieldCollision "A" "mBC" "b-c" "b_c") = 1 := by
  have hkeys : spelledTwice.DistinctKeys := by
    simp [spelledTwice, Value.DistinctKeys, Value.DistinctKeysMembers, Value.DistinctKeysMember]
  have hroot : isRoot spelledTwice = true := rfl
  obtain ⟨discovery, hobserve, hclasses⟩ := observe_accounts_for_keys "Root" hroot hkeys "m"
  refine ⟨hroot, hkeys, discovery, hobserve, ?_⟩
  intro draft hdraft
  obtain ⟨-, hidentifiers, hslots, -⟩ := hclasses "A" draft hdraft
  have hobjects : objectsOf "Root" spelledTwice "A" =
      [[("a", .object [("b-c", .null)]), ("b_c", .bool true)], [("b-c", .null)]] := by
    have hname : className "a" = "A" := by decide +kernel
    simp [objectsOf, visited, rootObjects, spelledTwice, objectsIn, objectsInMembers,
      objectsInMember, hname]
  have hfield : "mBC" ∈ draft.slots.map (·.1) := by
    apply (hidentifiers "mBC").2
    rw [hobjects]
    exact ⟨_, List.mem_cons_self, "b_c", by decide, by decide +kernel⟩
  obtain ⟨⟨_, slot⟩, hslot, rfl⟩ := List.mem_map.1 hfield
  have haccounts := hslots _ slot hslot
  have hfirst : some slot.property = some "b-c" :=
    haccounts.first.symm.trans (by decide +kernel)
  have hproperty : slot.property = "b-c" := Option.some_inj.1 hfirst
  have hpresent := haccounts.presentIn
  have hnull := haccounts.nullIn
  have hcollisions := haccounts.collisions "b_c" (by rw [hproperty]; decide) (by decide +kernel)
  rw [hproperty, hobjects] at hpresent hnull hcollisions
  exact ⟨slot, hslot, hproperty, hpresent, hnull, hcollisions⟩

end Exemplar.Discovery
