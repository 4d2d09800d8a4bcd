import Exemplar.Proofs.Discovery.Fields

/-!
# Documents with their keys in another order

What a walk makes of a key depends on the class of its object, on the evidence of its value and on
whether the value is null.  These mentions of the keys are the same for a document whose objects have
their keys in another order, and so are the classes of its objects; only the order differs in which
they come.
-/

namespace Exemplar

open Json

/-- The keys of objects in a value were put in another order, at any depths. -/
inductive Json.Value.Reordered : Value → Value → Prop where
  | refl (value : Value) : Reordered value value
  | trans {first second third : Value} :
      Reordered first second → Reordered second third → Reordered first third
  | keys {members others : Members} :
      members.Perm others → Reordered (.object members) (.object others)
  /-- The keys were reordered within a member. -/
  | member {value other : Value} (before : Members) (key : String) (after : Members) :
      Reordered value other →
      Reordered (.object (before ++ (key, value) :: after))
        (.object (before ++ (key, other) :: after))
  /-- The keys were reordered within an element. -/
  | element {value other : Value} (before after : List Value) :
      Reordered value other →
      Reordered (.array (before ++ value :: after)) (.array (before ++ other :: after))

namespace Discovery

open Naming

/-- What a walk takes from one occurrence of a key. -/
structure Mention where
  owner : String
  property : String
  evidence : Evidence
  isNull : Bool

def Occurrence.mention (occurrence : Occurrence) : Mention :=
  ⟨occurrence.owner, occurrence.property, occurrence.evidence, occurrence.value.isNull⟩

/-! ## Parts of a value -/

theorem objectsInMembers_eq_flatMap (members : Members) :
    objectsInMembers members = members.flatMap objectsInMember := by
  induction members with
  | nil => rfl
  | cons entry rest ih => rw [objectsInMembers, ih, List.flatMap_cons]

theorem recordsInMembers_eq_flatMap (owner : String) (members : Members) :
    recordsInMembers owner members = members.flatMap (recordsInMember owner) := by
  induction members with
  | nil => rfl
  | cons entry rest ih => rw [recordsInMembers, ih, List.flatMap_cons]

theorem objectsInElements_eq_flatMap (element : String) (elements : List Value) :
    objectsInElements element elements = elements.flatMap (objectsIn element element) := by
  induction elements with
  | nil => rfl
  | cons value rest ih => rw [objectsInElements, ih, List.flatMap_cons]

theorem recordsInElements_eq_flatMap (element : String) (elements : List Value) :
    recordsInElements element elements = elements.flatMap (recordsIn element element) := by
  induction elements with
  | nil => rfl
  | cons value rest ih => rw [recordsInElements, ih, List.flatMap_cons]

/-- Changing one item changes the list that is made item by item in one part. -/
theorem perm_map_flatMap_middle {Item Part Seen : Type} {parts : Item → List Part}
    {view : Part → Seen} {item other : Item} (before after : List Item)
    (h : ((parts item).map view).Perm ((parts other).map view)) :
    (((before ++ item :: after).flatMap parts).map view).Perm
      (((before ++ other :: after).flatMap parts).map view) := by
  simp only [List.flatMap_append, List.flatMap_cons, List.map_append]
  exact (h.append_right _).append_left _

/-! ## Values that a walk does not tell apart -/

/-- Two values of which a walk takes the same, but for the order. -/
structure Alike (value other : Value) : Prop where
  isObject : value.isObject = other.isObject
  isNull : value.isNull = other.isNull
  evidence : ∀ known name, elementEvidence known name value = elementEvidence known name other
  classes : ∀ own element,
    ((objectsIn own element value).map (·.1)).Perm ((objectsIn own element other).map (·.1))
  mentions : ∀ own element,
    ((recordsIn own element value).map Occurrence.mention).Perm
      ((recordsIn own element other).map Occurrence.mention)

theorem Alike.settledEvidence {value other : Value} (h : Alike value other) (property : String) :
    Discovery.settledEvidence property value = Discovery.settledEvidence property other := by
  simp only [Discovery.settledEvidence, evidenceOf_eq, h.isObject, h.evidence]

theorem Alike.refl (value : Value) : Alike value value :=
  ⟨rfl, rfl, fun _ _ => rfl, fun _ _ => .refl _, fun _ _ => .refl _⟩

theorem Alike.trans {first second third : Value} (h : Alike first second)
    (hnext : Alike second third) : Alike first third where
  isObject := h.isObject.trans hnext.isObject
  isNull := h.isNull.trans hnext.isNull
  evidence known name := (h.evidence known name).trans (hnext.evidence known name)
  classes own element := (h.classes own element).trans (hnext.classes own element)
  mentions own element := (h.mentions own element).trans (hnext.mentions own element)

theorem alike_keys {members others : Members} (h : members.Perm others) :
    Alike (.object members) (.object others) where
  isObject := rfl
  isNull := rfl
  evidence _ _ := rfl
  classes own element := by
    simp only [objectsIn, objectsInMembers_eq_flatMap, List.map_cons]
    exact ((h.flatMap_right _).map _).cons own
  mentions own element := by
    simp only [recordsIn, recordsInMembers_eq_flatMap]
    exact (h.flatMap_right _).map _

theorem alike_member {value other : Value} (h : Alike value other) (before : Members)
    (key : String) (after : Members) :
    Alike (.object (before ++ (key, value) :: after))
      (.object (before ++ (key, other) :: after)) where
  isObject := rfl
  isNull := rfl
  evidence _ _ := rfl
  classes own element := by
    simp only [objectsIn, objectsInMembers_eq_flatMap, List.map_cons]
    apply List.Perm.cons own
    apply perm_map_flatMap_middle
    simp only [objectsInMember]
    exact h.classes _ _
  mentions own element := by
    simp only [recordsIn, recordsInMembers_eq_flatMap]
    apply perm_map_flatMap_middle
    have hmention : Occurrence.mention ⟨own, key, value⟩ = Occurrence.mention ⟨own, key, other⟩ := by
      simp only [Occurrence.mention, Occurrence.evidence, h.settledEvidence, h.isNull]
    simp only [recordsInMember, List.map_append, List.map_cons, List.map_nil, hmention]
    exact (h.mentions _ _).append_right _

theorem alike_element {value other : Value} (h : Alike value other) (before after : List Value) :
    Alike (.array (before ++ value :: after)) (.array (before ++ other :: after)) where
  isObject := rfl
  isNull := rfl
  evidence known name := by
    cases before with
    | nil => simp only [List.nil_append, elementEvidence, h.evidence]
    | cons first rest => rfl
  classes own element := by
    simp only [objectsIn, objectsInElements_eq_flatMap]
    exact perm_map_flatMap_middle _ _ (h.classes _ _)
  mentions own element := by
    simp only [recordsIn, recordsInElements_eq_flatMap]
    exact perm_map_flatMap_middle _ _ (h.mentions _ _)

/-- A walk takes the same of values that differ in the order of keys only. -/
theorem alike_of_reordered {value other : Value} (h : value.Reordered other) :
    Alike value other := by
  induction h with
  | refl value => exact .refl value
  | trans _ _ ih ihnext => exact ih.trans ihnext
  | keys h => exact alike_keys h
  | member before key after _ ih => exact alike_member ih before key after
  | element before after _ ih => exact alike_element ih before after

/-! ## Documents -/

/-- The objects that an element of a root list puts into the root class, with those inside them. -/
def rootPart (root : String) (element : Value) : List (String × Members) :=
  if element.isObject then objectsIn root root element else []

def rootRecords (root : String) (element : Value) : List Occurrence :=
  if element.isObject then recordsIn root root element else []

theorem visited_array (root : String) (elements : List Value) :
    visited root (.array elements) = elements.flatMap (rootPart root) := by
  induction elements with
  | nil => rfl
  | cons element rest ih =>
      rw [List.flatMap_cons, ← ih]
      cases element <;> rfl

theorem recorded_array (root : String) (elements : List Value) :
    recorded root (.array elements) = elements.flatMap (rootRecords root) := by
  induction elements with
  | nil => rfl
  | cons element rest ih =>
      rw [List.flatMap_cons, ← ih]
      cases element <;> rfl

/-- Two documents of which a walk takes the same, but for the order. -/
structure AlikeRoots (root : String) (value other : Value) : Prop where
  isRoot : Discovery.isRoot value = Discovery.isRoot other
  classes : ((visited root value).map (·.1)).Perm ((visited root other).map (·.1))
  mentions : ((recorded root value).map Occurrence.mention).Perm
    ((recorded root other).map Occurrence.mention)

theorem AlikeRoots.of_objects {members others : Members}
    (h : Alike (.object members) (.object others)) (root : String) :
    AlikeRoots root (.object members) (.object others) := by
  have hvisited : ∀ members : Members,
      visited root (.object members) = objectsIn root root (.object members) := by
    intro members
    simp [visited, rootObjects, objectsIn]
  have hrecorded : ∀ members : Members,
      recorded root (.object members) = recordsIn root root (.object members) := by
    intro members
    simp [recorded, rootObjects, recordsIn]
  refine ⟨rfl, ?_, ?_⟩
  · rw [hvisited, hvisited]
    exact h.classes root root
  · rw [hrecorded, hrecorded]
    exact h.mentions root root

theorem AlikeRoots.of_element {value other : Value} (h : Alike value other) (root : String)
    (before after : List Value) :
    AlikeRoots root (.array (before ++ value :: after)) (.array (before ++ other :: after)) where
  isRoot := by simp only [Discovery.isRoot, List.any_append, List.any_cons, h.isObject]
  classes := by
    rw [visited_array, visited_array]
    apply perm_map_flatMap_middle
    simp only [rootPart, h.isObject]
    split
    · exact h.classes root root
    · exact .refl _
  mentions := by
    rw [recorded_array, recorded_array]
    apply perm_map_flatMap_middle
    simp only [rootRecords, h.isObject]
    split
    · exact h.mentions root root
    · exact .refl _

/-- A walk takes the same of documents that differ in the order of keys only. -/
theorem alikeRoots_of_reordered (root : String) {value other : Value}
    (h : value.Reordered other) : AlikeRoots root value other := by
  induction h with
  | refl value => exact ⟨rfl, .refl _, .refl _⟩
  | trans _ _ ih ihnext =>
      exact ⟨ih.isRoot.trans ihnext.isRoot, ih.classes.trans ihnext.classes,
        ih.mentions.trans ihnext.mentions⟩
  | keys h => exact .of_objects (alike_keys h) root
  | member before key after h _ =>
      exact .of_objects (alike_member (alike_of_reordered h) before key after) root
  | element before after h _ => exact .of_element (alike_of_reordered h) root before after

/-! ## Fields -/

/-- What a walk takes from the records of a field, in order. -/
def fieldMentions (fieldPrefix root : String) (value : Value) (name field : String) :
    List Mention :=
  (fieldRecords fieldPrefix root value name field).map Occurrence.mention

theorem fieldMentions_eq_filter (fieldPrefix root : String) (value : Value) (name field : String) :
    fieldMentions fieldPrefix root value name field =
      ((recorded root value).map Occurrence.mention).filter fun mention =>
        mention.owner == name && fieldName fieldPrefix mention.property == field := by
  rw [fieldMentions, fieldRecords, List.filter_map]
  rfl

theorem fieldMentions_perm {value other : Value} (h : value.Reordered other)
    (fieldPrefix root name field : String) :
    (fieldMentions fieldPrefix root value name field).Perm
      (fieldMentions fieldPrefix root other name field) := by
  rw [fieldMentions_eq_filter, fieldMentions_eq_filter]
  exact (alikeRoots_of_reordered root h).mentions.filter _

end Discovery

end Exemplar
