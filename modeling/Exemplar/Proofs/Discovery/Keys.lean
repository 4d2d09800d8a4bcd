import Exemplar.Proofs.Naming.AsciiNames
import Exemplar.Proofs.References

/-!
# Keys of a document

Every name in a model but that of the root class is made of a key of the document: a property is a
key, and a class is named after a key or after the singular of one.  So where the keys are ASCII
texts, the names are words.
-/

namespace Exemplar

open Json Naming

namespace Json.Value

mutual

/-- The keys of all objects in a value. -/
def keys : Value → List String
  | .array elements => keysOfList elements
  | .object members => keysOfMembers members
  | _ => []

def keysOfList : List Value → List String
  | [] => []
  | value :: rest => keys value ++ keysOfList rest

def keysOfMembers : List (String × Value) → List String
  | [] => []
  | entry :: rest => keysOfMember entry ++ keysOfMembers rest

def keysOfMember : String × Value → List String
  | (key, value) => key :: keys value

end

end Json.Value

namespace Discovery

/-- What an object that is listed owes to the keys of a document: the keys of its members, and the
name of its class, unless that is among the names given. -/
structure IsMadeOf (keys given : List String) (object : String × Members) : Prop where
  named : object.1 ∈ given ∨
    ∃ key ∈ keys, object.1 = className key ∨ object.1 = className (singular key)
  members : ∀ entry ∈ object.2, entry.1 ∈ keys

theorem IsMadeOf.mono {keys others given : List String} {object : String × Members}
    (h : IsMadeOf keys given object) (hkeys : ∀ key ∈ keys, key ∈ others) :
    IsMadeOf others given object := by
  refine ⟨h.named.imp_right ?_, fun entry hentry => hkeys _ (h.members entry hentry)⟩
  rintro ⟨key, hkey, hname⟩
  exact ⟨key, hkeys key hkey, hname⟩

theorem key_mem_keysOfMembers {members : List (String × Value)} {entry : String × Value}
    (hentry : entry ∈ members) : entry.1 ∈ Value.keysOfMembers members := by
  induction members with
  | nil => exact absurd hentry List.not_mem_nil
  | cons first rest ih =>
      rw [Value.keysOfMembers]
      rcases List.mem_cons.1 hentry with rfl | hentry
      · apply List.mem_append_left
        rw [Value.keysOfMember.eq_def]
        exact List.mem_cons_self
      · exact List.mem_append_right _ (ih hentry)

mutual

/-- The objects in a value are made of its keys, but for the classes that its place gives. -/
theorem isMadeOf_objectsIn (own element : String) : ∀ value : Value,
    ∀ object ∈ objectsIn own element value, IsMadeOf value.keys [own, element] object
  | .null, _, hobject => absurd hobject List.not_mem_nil
  | .bool _, _, hobject => absurd hobject List.not_mem_nil
  | .number _, _, hobject => absurd hobject List.not_mem_nil
  | .string _, _, hobject => absurd hobject List.not_mem_nil
  | .array elements, object, hobject => by
      rw [objectsIn] at hobject
      rw [Value.keys]
      have hmade := isMadeOf_objectsInElements element elements object hobject
      exact ⟨hmade.named.imp_left (List.mem_cons_of_mem _), hmade.members⟩
  | .object members, object, hobject => by
      rw [objectsIn] at hobject
      rw [Value.keys]
      rcases List.mem_cons.1 hobject with rfl | hobject
      · exact ⟨.inl List.mem_cons_self, fun entry => key_mem_keysOfMembers⟩
      · have hmade := isMadeOf_objectsInMembers members object hobject
        exact ⟨hmade.named.imp_left (absurd · List.not_mem_nil), hmade.members⟩

theorem isMadeOf_objectsInMembers : ∀ members : List (String × Value),
    ∀ object ∈ objectsInMembers members, IsMadeOf (Value.keysOfMembers members) [] object
  | [], _, hobject => absurd hobject List.not_mem_nil
  | entry :: rest, object, hobject => by
      rw [objectsInMembers] at hobject
      rw [Value.keysOfMembers]
      rcases List.mem_append.1 hobject with hobject | hobject
      · exact (isMadeOf_objectsInMember entry object hobject).mono fun _ => List.mem_append_left _
      · exact (isMadeOf_objectsInMembers rest object hobject).mono fun _ => List.mem_append_right _

theorem isMadeOf_objectsInMember : ∀ entry : String × Value,
    ∀ object ∈ objectsInMember entry, IsMadeOf (Value.keysOfMember entry) [] object
  | (property, value), object, hobject => by
      rw [objectsInMember] at hobject
      rw [Value.keysOfMember]
      have hmade := isMadeOf_objectsIn _ _ value object hobject
      refine ⟨.inr ?_, fun entry hentry => List.mem_cons_of_mem _ (hmade.members entry hentry)⟩
      rcases hmade.named with hgiven | ⟨key, hkey, hname⟩
      · refine ⟨property, List.mem_cons_self, ?_⟩
        rcases List.mem_cons.1 hgiven with hown | helement
        · exact .inl hown
        · exact .inr (List.mem_singleton.1 helement)
      · exact ⟨key, List.mem_cons_of_mem _ hkey, hname⟩

theorem isMadeOf_objectsInElements (element : String) : ∀ elements : List Value,
    ∀ object ∈ objectsInElements element elements,
      IsMadeOf (Value.keysOfList elements) [element] object
  | [], _, hobject => absurd hobject List.not_mem_nil
  | value :: rest, object, hobject => by
      rw [objectsInElements] at hobject
      rw [Value.keysOfList]
      rcases List.mem_append.1 hobject with hobject | hobject
      · have hmade := isMadeOf_objectsIn element element value object hobject
        have hgiven : object.1 ∈ [element, element] → object.1 ∈ [element] := by simp
        exact IsMadeOf.mono ⟨hmade.named.imp_left hgiven, hmade.members⟩
          fun _ => List.mem_append_left _
      · exact (isMadeOf_objectsInElements element rest object hobject).mono
          fun _ => List.mem_append_right _

end

theorem keys_subset_keysOfList {elements : List Value} {value : Value} (h : value ∈ elements) :
    ∀ key ∈ value.keys, key ∈ Value.keysOfList elements := by
  induction elements with
  | nil => exact absurd h List.not_mem_nil
  | cons first rest ih =>
      intro key hkey
      rw [Value.keysOfList]
      rcases List.mem_cons.1 h with rfl | h
      · exact List.mem_append_left _ hkey
      · exact List.mem_append_right _ (ih h key hkey)

/-- The keys of a root object are keys of the document. -/
theorem keys_rootObjects {value : Value} {members : Members} (h : members ∈ rootObjects value) :
    ∀ key ∈ Value.keysOfMembers members, key ∈ value.keys := by
  have hobject : ∀ others : Members, (Value.object others).keys = Value.keysOfMembers others := by
    intro others
    rw [Value.keys]
  cases value with
  | object others =>
      rw [List.mem_singleton.1 h, hobject]
      exact fun _ => id
  | array elements =>
      obtain ⟨element, helement, hfound⟩ := List.mem_filterMap.1 h
      have heq : element = .object members := by
        split at hfound
        · cases hfound
          rfl
        · cases hfound
      rw [heq] at helement
      rw [Value.keys, ← hobject]
      exact keys_subset_keysOfList helement
  | _ => exact absurd h List.not_mem_nil

theorem isMadeOf_visited (root : String) {value : Value} {object : String × Members}
    (h : object ∈ visited root value) : IsMadeOf value.keys [root] object := by
  obtain ⟨members, hmembers, hobject⟩ := List.mem_flatMap.1 h
  have hkeys := keys_rootObjects hmembers
  rcases List.mem_cons.1 hobject with rfl | hobject
  · exact ⟨.inl List.mem_cons_self, fun entry hentry => hkeys _ (key_mem_keysOfMembers hentry)⟩
  · have hmade := (isMadeOf_objectsInMembers members object hobject).mono hkeys
    exact ⟨hmade.named.imp_left (absurd · List.not_mem_nil), hmade.members⟩

end Discovery

/-- A class named by words, as its fields are, whose properties are ASCII texts. -/
structure ClassDef.HasWords (cls : ClassDef) : Prop where
  name : isWord cls.name.toList = true
  fields : ∀ field ∈ cls.fields, isWord field.name.toList = true
  properties : ∀ field ∈ cls.fields, IsAscii field.property.toList

namespace Resolution

open Discovery

variable {fieldPrefix root : String} {value : Value} {cls : ClassDef}

/-- A class other than the root class is named after a key. -/
theorem name_of_mem_classes (hvalue : isRoot value = true)
    (hcls : cls ∈ (resolvedModel fieldPrefix root value).classes) :
    cls.name = root ∨
      ∃ key ∈ value.keys, cls.name = className key ∨ cls.name = className (singular key) := by
  have hname : cls.name ∈ (resolvedModel fieldPrefix root value).classNames :=
    List.mem_map_of_mem hcls
  rw [classNames_resolvedModel, discovered_keys hvalue, List.mem_eraseDups] at hname
  obtain ⟨object, hobject, heq⟩ := List.mem_map.1 hname
  rw [← heq]
  exact (isMadeOf_visited root hobject).named.imp_left List.mem_singleton.1

/-- The properties of fields are keys. -/
theorem property_mem_keys (hcls : cls ∈ (resolvedModel fieldPrefix root value).classes)
    {field : Field} (hfield : field ∈ cls.fields) : field.property ∈ value.keys := by
  obtain ⟨first, rest, hrecords, hproperty, -⟩ := exists_fieldRecords hcls hfield
  obtain ⟨⟨members, hmembers, hmember⟩, -, -⟩ := first_mem_fieldRecords hrecords
  rw [hproperty]
  exact (isMadeOf_visited root (mem_objectsOf.1 hmembers)).members _ hmember

/-- Where the keys of a document are ASCII texts and the prefix is made of letters, the names in its
model are words. -/
theorem hasWords_resolvedModel (hroot : isClassName root = true) (hvalue : isRoot value = true)
    (hkeys : ∀ key ∈ value.keys, IsAscii key.toList)
    (hletters : ∀ c ∈ fieldPrefix.toList, c.isAlpha = true)
    (hcls : cls ∈ (resolvedModel fieldPrefix root value).classes) : cls.HasWords := by
  have hproperties : ∀ field ∈ cls.fields, IsAscii field.property.toList :=
    fun field hfield => hkeys _ (property_mem_keys hcls hfield)
  constructor
  case name =>
    rcases name_of_mem_classes hvalue hcls with hname | ⟨key, hkey, hname | hname⟩
    · rw [hname, ← isClassName_eq_isWord]
      exact hroot
    · rw [hname]
      exact isWord_className (hkeys key hkey)
    · rw [hname]
      exact isWord_className (isAscii_singular (hkeys key hkey))
  case fields =>
    intro field hfield
    rw [name_eq_fieldName hcls hfield]
    exact isWord_fieldName hletters (hproperties field hfield)
  case properties => exact hproperties

end Resolution

end Exemplar
