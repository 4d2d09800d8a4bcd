import Exemplar.Proofs.Discovery.Keys
import Exemplar.Proofs.Source.RustMethods
import Exemplar.Proofs.Source.RustModules

/-!
# Identifiers in Rust files

Fields, parameters and modules are escaped, and methods are words with a kind in front.  An escaped
name is never a reserved word: a word that a raw identifier may spell is written as one, and the
words of paths get an underscore.
-/

namespace Exemplar.Source.Rust

open Naming

/-! ## Escaped names -/

/-- Whether a name may be given to a field, a parameter or a module.  Without the mark of a raw
identifier it is a word in snake case and no word of paths; only with the mark may it be a reserved
word. -/
structure IsLegal (identifier : String) : Prop where
  shape : isSnakeWord (unraw identifier).toList = true
  noPath : unraw identifier ∉ pathWords
  unreserved : unraw identifier = identifier → identifier ∉ reservedWords

/-- Whatever is escaped is no reserved word. -/
theorem escapeWord_unreserved (identifier : String) :
    escapeWord identifier ∉ reservedWords ++ pathWords := by
  have hmarked : ∀ word ∈ pathWords, word ++ "_" ∉ reservedWords ++ pathWords := by decide
  have hhash : ∀ word ∈ reservedWords ++ pathWords, '#' ∉ word.toList := by decide +kernel
  unfold escapeWord
  split
  · rename_i hpath
    exact hmarked identifier (List.contains_iff_mem.1 hpath)
  · rename_i hpath
    split
    · intro hreserved
      apply hhash _ hreserved
      rw [String.toList_append]
      exact List.mem_append_left _ (by decide)
    · rename_i hfree
      rw [List.mem_append, not_or]
      exact ⟨mt List.contains_iff_mem.2 hfree, mt List.contains_iff_mem.2 hpath⟩

variable {identifier : String}

theorem hash_notMem_of_isSnakeWord (h : isSnakeWord identifier.toList = true) :
    '#' ∉ identifier.toList := by
  intro hmem
  exact absurd (isAlphanum_of_isSnakeWord h '#' hmem) (by decide)

theorem isSnakeWord_plainName (h : isSnakeWord identifier.toList = true) :
    isSnakeWord (plainName identifier).toList = true := by
  unfold plainName
  split
  · rw [String.toList_append]
    exact isSnakeWord_append h (by simp)
  · exact h

/-- Escaping makes a word in snake case legal. -/
theorem isLegal_escapeWord (h : isSnakeWord identifier.toList = true) :
    IsLegal (escapeWord identifier) := by
  have hunraw : unraw (escapeWord identifier) = plainName identifier :=
    unraw_escapeWord (hash_notMem_of_isSnakeWord h)
  constructor
  case shape =>
    rw [hunraw]
    exact isSnakeWord_plainName h
  case noPath =>
    rw [hunraw]
    exact plainName_notMem_pathWords identifier
  case unreserved => exact fun _ hreserved =>
    escapeWord_unreserved identifier (List.mem_append_left _ hreserved)

/-! ## Names in a unit -/

/-- Whether a name may be given to a method, which is never written as a raw identifier. -/
structure IsMethodName (name : String) : Prop where
  shape : isSnakeWord name.toList = true
  unreserved : name ∉ reservedWords ++ pathWords

structure Method.HasLegalNames (method : Method) : Prop where
  name : IsMethodName method.name
  parameter : ∀ parameter ∈ method.parameter, IsLegal parameter.identifier

/-- The names of a struct, its methods and its builder are legal. -/
structure HasLegalNames (unit : StructUnit) (code : Code) : Prop where
  fields : ∀ field ∈ unit.fields ++ code.builder.toList.flatMap (·.fields),
    IsLegal field.identifier
  methods : ∀ method ∈ code.implementation.methods ++ code.builder.toList.flatMap (·.methods),
    method.HasLegalNames

/-- The modules are declared, and exported from, by legal names. -/
structure ModuleUnit.HasLegalNames (unit : ModuleUnit) : Prop where
  modules : ∀ name ∈ unit.modules, IsLegal name
  exports : ∀ exported ∈ unit.exports, IsLegal exported.module

/-! ## Members -/

/-- What the methods of fields begin with. -/
def leads : List String := ["get_", "set_", "with_"]

theorem leads_unreserved : ∀ lead ∈ leads, ∀ word ∈ reservedWords ++ pathWords,
    lead.toList.isPrefixOf word.toList = false := by
  decide +kernel

theorem isSnakeWord_leads : ∀ lead ∈ leads, isSnakeWord lead.toList = true := by
  decide

theorem isMethodName_lead_append {lead : String} (hlead : lead ∈ leads)
    (h : isSnakeWord identifier.toList = true) : IsMethodName (lead ++ identifier) := by
  constructor
  case shape =>
    rw [String.toList_append]
    exact isSnakeWord_append (isSnakeWord_leads lead hlead) (isAlphanum_of_isSnakeWord h)
  case unreserved => exact lead_append_notMem (leads_unreserved lead hlead) identifier

variable {model : Model} {options : Options} {cls : ClassDef} {member : Member}

structure Member.HasLegalNames (member : Member) : Prop where
  stem : isSnakeWord member.stem.toList = true
  identifier : IsLegal member.identifier

theorem Member.hasLegalNames_ofField (h : cls.HasWords) {field : Field}
    (hfield : field ∈ cls.fields) : (Member.ofField model cls.name field).HasLegalNames := by
  have hstem : isSnakeWord (fieldStem field).toList = true := by
    apply isSnakeWord_snake
    rw [Naming.normalize, String.toList_ofList]
    exact isWord_camel (h.properties field hfield)
  unfold Member.ofField
  constructor <;> dsimp only
  case stem => exact hstem
  case identifier => exact isLegal_escapeWord hstem

namespace Member.HasLegalNames

variable (h : member.HasLegalNames)

include h

theorem parameter : ∀ parameter ∈ some member.parameter, IsLegal parameter.identifier := by
  rintro parameter ⟨⟩
  exact h.identifier

theorem getterMethod : member.getterMethod.HasLegalNames where
  name := isMethodName_lead_append (by decide) h.stem
  parameter := fun _ hparameter => nomatch hparameter

theorem setterMethod : member.setterMethod.HasLegalNames where
  name := isMethodName_lead_append (by decide) h.stem
  parameter := h.parameter

theorem builderMethod : member.builderMethod.HasLegalNames where
  name := isMethodName_lead_append (by decide) h.stem
  parameter := h.parameter

end Member.HasLegalNames

/-! ## Units -/

theorem builderEntry_hasLegalNames (name : String) : (builderEntry name).HasLegalNames where
  name := (⟨by decide, by decide⟩ : IsMethodName "builder")
  parameter := fun _ hparameter => nomatch hparameter

theorem buildMethod_hasLegalNames (name : String) (members : List Member) :
    (buildMethod name members).HasLegalNames where
  name := (⟨by decide, by decide⟩ : IsMethodName "build")
  parameter := fun _ hparameter => nomatch hparameter

theorem methodsOf_hasLegalNames {members : List Member}
    (hmembers : ∀ member ∈ members, member.HasLegalNames) (name : String) :
    ∀ method ∈ methodsOf options name members, method.HasLegalNames := by
  intro method hmethod
  unfold methodsOf at hmethod
  split at hmethod
  · rcases List.mem_cons.1 hmethod with rfl | hmethod
    · exact builderEntry_hasLegalNames name
    · obtain ⟨member, hmember, rfl⟩ := List.mem_map.1 hmethod
      exact (hmembers member hmember).getterMethod
  · obtain ⟨member, hmember, hmethod⟩ := List.mem_flatMap.1 hmethod
    rcases List.mem_cons.1 hmethod with rfl | hmethod
    · exact (hmembers member hmember).getterMethod
    · rw [List.mem_singleton.1 hmethod]
      exact (hmembers member hmember).setterMethod

theorem builderMethods_hasLegalNames {members : List Member}
    (hmembers : ∀ member ∈ members, member.HasLegalNames) (name : String) :
    ∀ method ∈ (builderOf name members).methods, method.HasLegalNames := by
  intro method hmethod
  rcases List.mem_append.1 hmethod with hmethod | hmethod
  · obtain ⟨member, hmember, rfl⟩ := List.mem_map.1 hmethod
    exact (hmembers member hmember).builderMethod
  · rw [List.mem_singleton.1 hmethod]
    exact buildMethod_hasLegalNames name members

/-- The builder of the code of a class, if there is one, is that of its members. -/
theorem mem_builder_codeOf {builder : BuilderUnit}
    (hbuilder : builder ∈ (codeOf options model cls).builder) :
    builder = builderOf (typeName cls.name) (membersOf model cls) := by
  unfold codeOf at hbuilder
  dsimp only at hbuilder
  split at hbuilder
  · exact (Option.some.inj hbuilder).symm
  · cases hbuilder

/-- All names in the file of a class are legal. -/
theorem hasLegalNames_codeOf (h : cls.HasWords) :
    HasLegalNames (structUnit model options cls) (codeOf options model cls) := by
  have hmembers : ∀ member ∈ membersOf model cls, member.HasLegalNames := by
    intro member hmember
    obtain ⟨field, hfield, rfl⟩ := List.mem_map.1 hmember
    exact Member.hasLegalNames_ofField h hfield
  constructor
  case fields =>
    rw [List.forall_mem_append]
    constructor
    · intro field hfield
      obtain ⟨member, hmember, rfl⟩ := List.mem_map.1 hfield
      exact (hmembers member hmember).identifier
    · intro field hfield
      obtain ⟨builder, hbuilder, hfield⟩ := List.mem_flatMap.1 hfield
      rw [mem_builder_codeOf (Option.mem_toList.1 hbuilder)] at hfield
      obtain ⟨member, hmember, rfl⟩ := List.mem_map.1 hfield
      exact (hmembers member hmember).identifier
  case methods =>
    rw [List.forall_mem_append]
    constructor
    · exact methodsOf_hasLegalNames hmembers (typeName cls.name)
    · intro method hmethod
      obtain ⟨builder, hbuilder, hmethod⟩ := List.mem_flatMap.1 hmethod
      rw [mem_builder_codeOf (Option.mem_toList.1 hbuilder)] at hmethod
      exact builderMethods_hasLegalNames hmembers (typeName cls.name) method hmethod

theorem isLegal_moduleName {className : String} (h : isWord className.toList = true) :
    IsLegal (moduleName className) := by
  rw [moduleName, moduleStem_eq_plainName]
  exact isLegal_escapeWord (isSnakeWord_plainName (isSnakeWord_snake h))

/-- All names in the module file are legal. -/
theorem hasLegalNames_moduleUnit (h : ∀ cls ∈ model.classes, cls.HasWords) :
    (moduleUnit model options).HasLegalNames := by
  constructor
  case modules =>
    intro name hname
    obtain ⟨cls, hcls, rfl⟩ := List.mem_map.1 hname
    exact isLegal_moduleName (h cls hcls).name
  case exports =>
    intro exported hexported
    obtain ⟨cls, hcls, rfl⟩ := List.mem_map.1 hexported
    unfold exportedOf
    dsimp only
    exact isLegal_moduleName (h cls hcls).name

end Exemplar.Source.Rust
