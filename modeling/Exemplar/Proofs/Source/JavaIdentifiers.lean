import Exemplar.Proofs.Discovery.Keys
import Exemplar.Proofs.Source.JavaMembers

/-!
# Identifiers in Java files

A file declares fields, methods, their parameters, and a variable where a builder makes an object.
Where the class is named by words and its properties are ASCII, each of these names is a word,
behind which an underscore may stand, and none is a reserved word.  Variables are read off the
statements of the methods, so that no statement is left out that declares one.
-/

namespace Exemplar.Source.Java

open Naming

/-! ## Names in a unit -/

/-- The variable that a statement declares: behind its type stands its name, then a sign of
equality. -/
def localName? (statement : String) : Option String :=
  match Text.pieces ' ' statement.toList with
  | _ :: name :: ['='] :: _ => some (String.ofList name)
  | _ => none

def Method.localNames (method : Method) : List String :=
  method.body.filterMap localName?

/-- The fields of the class and of its builder. -/
def CompilationUnit.allFields (unit : CompilationUnit) : List FieldDeclaration :=
  unit.fields ++ unit.builder.toList.flatMap (·.fields)

/-- The methods of the class and of its builder. -/
def CompilationUnit.methods (unit : CompilationUnit) : List Method :=
  unit.accessors.flatMap (fun accessors => accessors.getter :: accessors.setter.toList) ++
    unit.builder.toList.flatMap fun builder => builder.withMethods ++ [builder.build]

/-- The names of the class and of its builder. -/
def CompilationUnit.classNames (unit : CompilationUnit) : List String :=
  unit.name :: (unit.builder.map fun _ => builderClass).toList

/-- Whether a name may be given to a member, a parameter or a variable. -/
structure IsLegal (name : String) : Prop where
  shape : isMarkedWord name.toList = true
  unreserved : name ∉ reservedWords

/-- The names that a method declares are legal, and it does not hide the final `getClass`. -/
structure Method.HasLegalNames (method : Method) : Prop where
  name : IsLegal method.name
  parameter : ∀ parameter ∈ method.parameter, IsLegal parameter.identifier
  localNames : ∀ name ∈ method.localNames, IsLegal name
  notFinal : method.name ≠ "getClass"

structure CompilationUnit.HasLegalNames (unit : CompilationUnit) : Prop where
  fields : ∀ field ∈ unit.allFields, IsLegal field.identifier
  methods : ∀ method ∈ unit.methods, method.HasLegalNames

/-! ## Legal names -/

variable {name : String}

theorem IsLegal.notMem {c : Char} (h : IsLegal name) (hc : c.isAlphanum = false)
    (hmark : c ≠ '_') : c ∉ name.toList := by
  intro hmem
  rcases isAlphanum_of_isMarkedWord h.shape c hmem with halphanum | heq
  · rw [hc] at halphanum
    cases halphanum
  · exact hmark heq

/-- Escaping makes a word legal. -/
theorem isLegal_escapeWord (h : isWord name.toList = true) : IsLegal (escapeWord name) := by
  have hmarked : ∀ word ∈ reservedWords, word ++ "_" ∉ reservedWords := by decide +kernel
  unfold escapeWord
  split
  · rename_i hreserved
    refine ⟨?_, hmarked name (List.contains_iff_mem.1 hreserved)⟩
    rw [String.toList_append]
    exact isMarkedWord_concat h
  · rename_i hfree
    exact ⟨isMarkedWord_of_isWord h, mt List.contains_iff_mem.2 hfree⟩

/-- What methods begin with. -/
def leads : List String := ["get", "set", "with"]

theorem leads_unreserved :
    ∀ lead ∈ leads, ∀ word ∈ reservedWords, lead.toList.isPrefixOf word.toList = false := by
  decide +kernel

theorem isAlpha_leads : ∀ lead ∈ leads, lead.toList.all Char.isAlpha = true := by
  decide

theorem isLegal_lead_append {lead : String} (hlead : lead ∈ leads)
    (h : isWord name.toList = true) : IsLegal (lead ++ name) := by
  refine ⟨?_, lead_append_notMem (leads_unreserved lead hlead) name⟩
  rw [String.toList_append]
  exact isMarkedWord_of_isWord (isWord_append (List.all_eq_true.1 (isAlpha_leads lead hlead)) h)

/-! ## Statements -/

theorem localName?_return {value : String} (h : ' ' ∉ value.toList) :
    localName? s!"return {value};" = none := by
  have htext : (s!"return {value};").toList =
      [' '].intercalate ["return".toList, value.toList ++ [';']] := by
    simp [toString]
  rw [localName?, htext, Text.pieces_intercalate (by simp) (by simp [h])]

theorem localName?_assignment {target value : String} (htarget : ' ' ∉ target.toList)
    (hvalue : ' ' ∉ value.toList) : localName? (target ++ " = " ++ value ++ ";") = none := by
  have htext : (target ++ " = " ++ value ++ ";").toList =
      [' '].intercalate [target.toList, ['='], value.toList ++ [';']] := by
    simp
  rw [localName?, htext, Text.pieces_intercalate (by simp) (by simp [htarget, hvalue])]
  -- The third word ends in a semicolon.
  split
  · rename_i hwords
    obtain ⟨-, hwords⟩ := List.cons.inj (List.cons.inj hwords).2
    have hlast := congrArg List.getLast? (List.cons.inj hwords).1
    simp at hlast
  · rfl

theorem localName?_declaration {type name : String} (htype : ' ' ∉ type.toList)
    (hname : ' ' ∉ name.toList) :
    localName? s!"{type} {name} = new {type}();" = some name := by
  have htext : (s!"{type} {name} = new {type}();").toList =
      [' '].intercalate
        [type.toList, name.toList, ['='], "new".toList, type.toList ++ "();".toList] := by
    simp [toString]
  rw [localName?, htext, Text.pieces_intercalate (by simp) (by simp [htype, hname])]
  simp

/-! ## Members -/

/-- What the names in the methods of a field are made of. -/
structure Member.HasLegalNames (member : Member) : Prop where
  identifier : IsLegal member.identifier
  parameter : IsLegal member.parameter
  suffix : isWord member.suffix.toList = true

variable {model : Model} {options : Options} {cls : ClassDef} {member : Member}

theorem Member.hasLegalNames_ofField (h : cls.HasWords) {field : Field}
    (hfield : field ∈ cls.fields) : (Member.ofField model field).HasLegalNames := by
  have hproperty := h.properties field hfield
  unfold Member.ofField accessorSuffix
  constructor <;> dsimp only
  case identifier => exact isLegal_escapeWord (h.fields field hfield)
  case parameter => exact isLegal_escapeWord (isWord_parameterName hproperty)
  case suffix => exact isWord_className hproperty

namespace Member.HasLegalNames

variable (h : member.HasLegalNames)

include h

theorem blank_notMem_identifier : ' ' ∉ member.identifier.toList :=
  h.identifier.notMem (by decide) (by decide)

theorem blank_notMem_parameter : ' ' ∉ member.parameter.toList :=
  h.parameter.notMem (by decide) (by decide)

theorem localName?_assignment : localName? (assignment member) = none := by
  have hidentifier := h.blank_notMem_identifier
  have hthis : ' ' ∉ ("this." ++ member.identifier).toList := by simpa using hidentifier
  unfold assignment
  split
  · exact Java.localName?_assignment hthis h.blank_notMem_parameter
  · exact Java.localName?_assignment hidentifier h.blank_notMem_parameter

theorem getterMethod : member.getterMethod.HasLegalNames := by
  have hreturn : localName? s!"return {member.identifier};" = none :=
    localName?_return h.blank_notMem_identifier
  have hgetter : IsLegal member.getter ∧ member.getter ≠ "getClass" := by
    rw [getter_eq]
    split
    · exact ⟨⟨by decide, by decide⟩, by decide⟩
    · rename_i hsuffix
      exact ⟨isLegal_lead_append (by decide) h.suffix,
        fun heq => hsuffix ((String.append_right_inj "get").1 heq)⟩
  constructor
  case name => exact hgetter.1
  case parameter => exact fun _ hparameter => nomatch hparameter
  case localNames => simp [Method.localNames, Member.getterMethod, hreturn]
  case notFinal => exact hgetter.2

theorem setterMethod : member.setterMethod.HasLegalNames := by
  constructor
  case name => exact isLegal_lead_append (by decide) h.suffix
  case parameter =>
    rintro parameter ⟨⟩
    exact h.parameter
  case localNames => simp [Method.localNames, Member.setterMethod, h.localName?_assignment]
  case notFinal =>
    intro heq
    have hfirst := congrArg (fun name : String => name.toList.head?) heq
    simp [Member.setterMethod, Member.setter] at hfirst

theorem builderMethod (owner : String) : (member.builderMethod owner).HasLegalNames := by
  have hthis : localName? "return this;" = none := by decide
  constructor
  case name => exact isLegal_lead_append (by decide) h.suffix
  case parameter =>
    rintro parameter ⟨⟩
    exact h.parameter
  case localNames =>
    simp [Method.localNames, Member.builderMethod, h.localName?_assignment, hthis]
  case notFinal =>
    intro heq
    have hfirst := congrArg (fun name : String => name.toList.head?) heq
    simp [Member.builderMethod, Member.withMethod] at hfirst

/-- A field of an object that is copied declares no variable. -/
theorem localName?_copy {target : String} (htarget : ' ' ∉ target.toList) :
    localName? s!"{target}.{member.identifier} = this.{member.identifier};" = none := by
  have hfield : ' ' ∉ (target ++ "." ++ member.identifier).toList := by
    simpa using ⟨htarget, h.blank_notMem_identifier⟩
  have hthis : ' ' ∉ ("this." ++ member.identifier).toList := by
    simpa using h.blank_notMem_identifier
  have hassigned := Java.localName?_assignment hfield hthis
  rw [← hassigned]
  apply congrArg localName?
  apply String.toList_inj.1
  simp [toString]

end Member.HasLegalNames

/-! ## Units -/

/-- The variable in which a builder makes an object is the only one that a file declares. -/
theorem localNames_build (h : cls.HasWords) {members : List Member}
    (hmembers : ∀ member ∈ members, member.HasLegalNames) :
    (builderOf cls members).build.localNames = [escapeWord (uncapitalize cls.name)] := by
  have hname : ' ' ∉ cls.name.toList := by
    intro hmem
    exact absurd (isAlphanum_of_isWord h.name ' ' hmem) (by decide)
  have hlegal : IsLegal (escapeWord (uncapitalize cls.name)) :=
    isLegal_escapeWord (isWord_uncapitalize h.name)
  have hblank := hlegal.notMem (c := ' ') (by decide) (by decide)
  unfold Method.localNames builderOf
  dsimp only
  generalize escapeWord (uncapitalize cls.name) = target at hblank
  have hcopies : (members.map fun member =>
      s!"{target}.{member.identifier} = this.{member.identifier};").filterMap localName? = [] := by
    rw [List.filterMap_map, List.filterMap_eq_nil_iff]
    exact fun member hmember => (hmembers member hmember).localName?_copy hblank
  rw [List.cons_append, List.filterMap_cons_some (localName?_declaration hname hblank),
    List.filterMap_append, hcopies, List.nil_append,
    List.filterMap_cons_none (localName?_return hblank), List.filterMap_nil]

theorem build_hasLegalNames (h : cls.HasWords) {members : List Member}
    (hmembers : ∀ member ∈ members, member.HasLegalNames) :
    (builderOf cls members).build.HasLegalNames := by
  constructor
  case name => exact (⟨by decide, by decide⟩ : IsLegal "build")
  case parameter => exact fun _ hparameter => nomatch hparameter
  case localNames =>
    rw [localNames_build h hmembers, List.forall_mem_singleton]
    exact isLegal_escapeWord (isWord_uncapitalize h.name)
  case notFinal => exact (by decide : "build" ≠ "getClass")

theorem mem_methods_unitOf {package : String} {method : Method}
    (hmethod : method ∈ (unitOf model options package cls).methods) :
    (∃ member ∈ membersOf model cls, method = member.getterMethod ∨ method = member.setterMethod ∨
        method = member.builderMethod (cls.name ++ "." ++ builderClass)) ∨
      method = (builderOf cls (membersOf model cls)).build := by
  rcases List.mem_append.1 hmethod with hmethod | hmethod
  · obtain ⟨accessors, haccessors, hmethod⟩ := List.mem_flatMap.1 hmethod
    obtain ⟨member, hmember, rfl⟩ := List.mem_map.1 haccessors
    refine .inl ⟨member, hmember, ?_⟩
    rcases List.mem_cons.1 hmethod with rfl | hmethod
    · exact .inl rfl
    · unfold Member.accessors at hmethod
      dsimp only at hmethod
      split at hmethod
      · exact absurd hmethod List.not_mem_nil
      · exact .inr (.inl (List.mem_singleton.1 hmethod))
  · unfold unitOf at hmethod
    dsimp only at hmethod
    split at hmethod
    · rw [Option.toList_some, List.flatMap_singleton] at hmethod
      rcases List.mem_append.1 hmethod with hmethod | hmethod
      · obtain ⟨member, hmember, rfl⟩ := List.mem_map.1 hmethod
        exact .inl ⟨member, hmember, .inr (.inr rfl)⟩
      · exact .inr (List.mem_singleton.1 hmethod)
    · exact absurd hmethod List.not_mem_nil

theorem mem_allFields_unitOf {package : String} {field : FieldDeclaration}
    (hfield : field ∈ (unitOf model options package cls).allFields) :
    ∃ member ∈ membersOf model cls, field.identifier = member.identifier := by
  rcases List.mem_append.1 hfield with hfield | hfield
  · obtain ⟨member, hmember, rfl⟩ := List.mem_map.1 hfield
    exact ⟨member, hmember, rfl⟩
  · unfold unitOf at hfield
    dsimp only at hfield
    split at hfield
    · rw [Option.toList_some, List.flatMap_singleton] at hfield
      obtain ⟨member, hmember, rfl⟩ := List.mem_map.1 hfield
      exact ⟨member, hmember, rfl⟩
    · exact absurd hfield List.not_mem_nil

/-- All names in the file of a class are legal. -/
theorem hasLegalNames_unitOf (h : cls.HasWords) (package : String) :
    (unitOf model options package cls).HasLegalNames := by
  have hmembers : ∀ member ∈ membersOf model cls, member.HasLegalNames := by
    intro member hmember
    obtain ⟨field, hfield, rfl⟩ := List.mem_map.1 hmember
    exact Member.hasLegalNames_ofField h hfield
  constructor
  case fields =>
    intro field hfield
    obtain ⟨member, hmember, heq⟩ := mem_allFields_unitOf hfield
    rw [heq]
    exact (hmembers member hmember).identifier
  case methods =>
    intro method hmethod
    rcases mem_methods_unitOf hmethod with ⟨member, hmember, rfl | rfl | rfl⟩ | rfl
    · exact (hmembers member hmember).getterMethod
    · exact (hmembers member hmember).setterMethod
    · exact (hmembers member hmember).builderMethod _
    · exact build_hasLegalNames h hmembers

end Exemplar.Source.Java
