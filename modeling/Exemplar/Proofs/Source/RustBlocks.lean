import Exemplar.Proofs.Source.Blocks
import Exemplar.Proofs.Source.RustImports
import Exemplar.Proofs.Source.RustMethods

/-!
# The blocks of Rust files

The parts of a class are arranged lines: the struct and the implementations are blocks, and so is
each method in them.  Only the method that builds the struct may have a block in its body.  The module
file has no blocks at all.
-/

namespace Exemplar.Source.Rust

open Naming

variable {model : Model} {options : Options} {cls : ClassDef} {members : List Member}
  {member : Member}

theorem oneLine_escapeWord {identifier : String} (h : OneLine identifier) :
    OneLine (escapeWord identifier) := by
  rw [escapeWord]
  split
  · exact oneLine_append.2 ⟨h, by decide⟩
  · split
    · exact oneLine_append.2 ⟨by decide, h⟩
    · exact h

theorem oneLine_literal (text : String) : OneLine (literal text) := by
  rw [literal_eq_quote]
  exact oneLine_quote (Text.isSealed_flatMap isSealed_asciiChar text.toList)

theorem oneLine_snake {name : String} (h : ∀ c ∈ name.toList, Unicode.IsPlain c) :
    OneLine (snake name) := by
  intro hmem
  rw [snake, String.toList_ofList] at hmem
  rcases isSmallPlain_snakeChars h '\n' hmem with heq | hsmall
  · exact absurd heq (by decide)
  · exact absurd hsmall (by decide)

theorem oneLine_moduleName {name : String} (h : ∀ c ∈ name.toList, Unicode.IsPlain c) :
    OneLine (moduleName name) := by
  apply oneLine_escapeWord
  rw [moduleStem]
  split
  · exact oneLine_append.2 ⟨oneLine_snake h, by decide⟩
  · exact oneLine_snake h

theorem oneLine_typeName (h : HasOneLineNames cls) : OneLine (typeName cls.name) :=
  oneLine_escapeWord (oneLine_of_isPlain h.name)

/-- A struct has a name, which is not set off by blanks. -/
theorem exists_typeName_eq_cons (h : HasOneLineNames cls) :
    ∃ c rest, (typeName cls.name).toList = c :: rest ∧ c ≠ ' ' := by
  obtain ⟨c, rest, hchars⟩ := List.exists_cons_of_ne_nil (mt String.toList_eq_nil_iff.1 h.name_ne)
  have hc : c ≠ ' ' := by
    rintro rfl
    exact absurd (h.name ' ' (by rw [hchars]; exact List.mem_cons_self)) (by decide)
  rw [typeName, escapeWord]
  split
  · exact ⟨c, rest ++ ['_'], by simp [hchars], hc⟩
  · split
    · exact ⟨'r', '#' :: c :: rest, by simp [hchars], by decide⟩
    · exact ⟨c, rest, hchars, hc⟩

theorem oneLine_typeText {ty : Ty}
    (h : ∀ name, ty.referencedClass? = some name → OneLine name) : OneLine (typeText ty) := by
  induction ty with
  | named name => exact oneLine_escapeWord (h name rfl)
  | list element ih =>
      have hlist : typeText (.list element) = "::std::vec::Vec<" ++ typeText element ++ ">" := rfl
      rw [hlist]
      simp +decide [ih h]
  | _ => decide

/-- Whether what a member is written with stands on one line each, its literal apart. -/
structure Member.IsOneLine (member : Member) : Prop where
  stem : OneLine member.stem
  identifier : OneLine member.identifier
  type : OneLine member.type

theorem Member.isOneLine_ofField (h : HasOneLineNames cls) {field : Field}
    (hfield : field ∈ cls.fields) : (Member.ofField model cls.name field).IsOneLine := by
  have hstem : OneLine (fieldStem field) := oneLine_snake (isPlain_normalize field.property)
  rw [Member.ofField]
  constructor <;> dsimp only
  case stem => exact hstem
  case identifier => exact oneLine_escapeWord hstem
  case type => exact oneLine_typeText (h.types field hfield)

/-! ## Lines of units -/

theorem FieldDeclaration.arranged {field : FieldDeclaration}
    (hrename : ∀ literal ∈ field.rename, OneLine literal) (hidentifier : OneLine field.identifier)
    (htype : OneLine field.type) : Arranged field.lines := by
  have hfield : Arranged [.plain s!"{field.identifier}: {field.type},"] :=
    .plain (by simp +decide [toString, hidentifier, htype]) .nil
  rw [FieldDeclaration.lines]
  cases h : field.rename with
  | none => exact hfield
  | some literal => exact .plain (by simp +decide [toString, hrename literal h]) hfield

theorem arranged_useLines {names : List String} (h : ∀ name ∈ names, OneLine name) :
    Arranged (useLines names) := by
  rw [useLines.eq_def]
  split
  · exact .nil
  · exact .plain (by simp +decide [toString, h]) (.blank .nil)
  · exact .plain (by simp +decide [oneLine_intercalate h]) (.blank .nil)

def Parameter.IsOneLine (parameter : Parameter) : Prop :=
  OneLine parameter.identifier ∧ OneLine parameter.type

/-- Whether the parts of the heading of a method stand on one line, above arranged lines. -/
structure Method.IsArranged (method : Method) : Prop where
  name : OneLine method.name
  receiver : ∀ receiver ∈ method.receiver, OneLine receiver
  parameter : ∀ parameter ∈ method.parameter, parameter.IsOneLine
  result : ∀ type ∈ method.result, OneLine type
  body : Arranged method.body

theorem Method.IsArranged.heading {method : Method} (h : method.IsArranged) :
    OneLine method.heading := by
  have harguments : ∀ argument ∈ method.arguments, OneLine argument := by
    refine List.forall_mem_append.2 ⟨?_, ?_⟩
    · simpa using h.receiver
    · intro argument hargument
      obtain ⟨parameter, hparameter, rfl⟩ :=
        Option.map_eq_some_iff.1 (Option.mem_toList.1 hargument)
      obtain ⟨hidentifier, htype⟩ := h.parameter parameter hparameter
      simp +decide [toString, hidentifier, htype]
  have hresult : OneLine ((method.result.map fun type => " -> " ++ type).getD "") := by
    cases hresult : method.result with
    | none => decide
    | some type => simp +decide [h.result type hresult]
  simp +decide [Method.heading, h.name, oneLine_intercalate harguments, hresult]

theorem Method.IsArranged.arranged {method : Method} (h : method.IsArranged) :
    Arranged method.lines :=
  .braced h.heading (by simp [Method.heading]) h.body .nil

theorem Implementation.arranged {implementation : Implementation}
    (howner : OneLine implementation.owner)
    (hmethods : ∀ method ∈ implementation.methods, method.IsArranged) :
    Arranged implementation.lines := by
  have hblocks : Arranged ([Line.blank].intercalate (implementation.methods.map Method.lines)) := by
    apply Arranged.intercalate_blank
    intro block hblock
    obtain ⟨method, hmethod, rfl⟩ := List.mem_map.1 hblock
    exact (hmethods method hmethod).arranged
  exact .braced (by simp +decide [toString, howner]) (by simp [toString]) hblocks .nil

/-- A struct with its fields, and what stands behind it. -/
theorem arranged_struct {name : String} {fields : List FieldDeclaration} {behind : List Line}
    (hname : OneLine name) (hfields : ∀ field ∈ fields, Arranged field.lines)
    (h : Arranged behind) :
    Arranged (.opening s!"pub struct {name} \x7b" ::
      (fields.flatMap FieldDeclaration.lines ++ .closing "\x7d" :: .blank :: behind)) :=
  .braced (by simp +decide [toString, hname]) (by simp [toString]) (.flatMap hfields) (.blank h)

theorem BuilderUnit.arranged {builder : BuilderUnit} (hname : OneLine builder.name)
    (hfields : ∀ field ∈ builder.fields, Arranged field.lines)
    (hmethods : ∀ method ∈ builder.methods, method.IsArranged) : Arranged builder.lines := by
  have himplementation : Arranged (Implementation.lines ⟨builder.name, builder.methods⟩) :=
    Implementation.arranged hname hmethods
  have hlines := Arranged.blank
    (.plain (by decide : OneLine "#[derive(Debug, Clone, Default)]")
      (arranged_struct hname hfields himplementation))
  simpa [BuilderUnit.lines] using hlines

theorem StructUnit.arranged {unit : StructUnit} (hmaker : OneLine unit.maker)
    (himports : ∀ name ∈ unit.imports, OneLine name) (hname : OneLine unit.name)
    (hfields : ∀ field ∈ unit.fields, Arranged field.lines)
    (himplementation : Arranged unit.implementation) : Arranged unit.lines := by
  have hderives : OneLine
      "#[derive(Debug, Clone, Default, PartialEq, ::serde::Serialize, ::serde::Deserialize)]" := by
    decide +kernel
  have hstruct := Arranged.plain hderives
    (.plain (by decide : OneLine "#[serde(default)]")
      (arranged_struct hname hfields himplementation))
  have hmark : OneLine s!"// @generated by {unit.maker}" := by simp +decide [toString, hmaker]
  have hlines := Arranged.plain hmark (.blank ((arranged_useLines himports).append hstruct))
  simpa [StructUnit.lines] using hlines

/-! ## Methods of members -/

namespace Member.IsOneLine

variable (h : member.IsOneLine)
include h

theorem storage : OneLine member.storage := by
  rw [Member.storage]
  split <;> simp +decide [h.type]

theorem wrapped : OneLine member.wrapped := by
  rw [Member.wrapped]
  split <;> simp +decide [h.identifier]

theorem declaration : Arranged member.declaration.lines := by
  apply FieldDeclaration.arranged
  · intro text htext
    rw [Member.declaration, Member.rename] at htext
    split at htext
    · cases htext
    · cases htext
      exact oneLine_literal member.property
  · exact h.identifier
  · exact h.storage

theorem builderDeclaration : Arranged member.builderDeclaration.lines := by
  apply FieldDeclaration.arranged
  · exact nofun
  · exact h.identifier
  · exact h.storage

theorem parameter : ∀ parameter ∈ some member.parameter, parameter.IsOneLine := by
  rintro _ ⟨⟩
  exact ⟨h.identifier, h.type⟩

/-- The line that assigns the parameter to the field. -/
theorem assignment : OneLine s!"self.{member.identifier} = {member.wrapped};" := by
  simp +decide [toString, h.identifier, h.wrapped]

theorem getterMethod : member.getterMethod.IsArranged where
  name := by simp +decide [Member.getterMethod, Member.getter, h.stem]
  receiver := by
    rintro _ ⟨⟩
    decide
  parameter := nofun
  result := by
    rintro _ ⟨⟩
    simp +decide [toString, h.type]
  body := by
    refine .plain ?_ .nil
    rw [Member.reference]
    split <;> simp +decide [toString, h.identifier]

theorem setterMethod : member.setterMethod.IsArranged where
  name := by simp +decide [Member.setterMethod, Member.setter, h.stem]
  receiver := by
    rintro _ ⟨⟩
    decide
  parameter := h.parameter
  result := nofun
  body := .plain h.assignment .nil

theorem builderMethod : member.builderMethod.IsArranged where
  name := by simp +decide [Member.builderMethod, Member.withMethod, h.stem]
  receiver := by
    rintro _ ⟨⟩
    decide
  parameter := h.parameter
  result := by
    rintro _ ⟨⟩
    decide
  body := .plain h.assignment (.plain (by decide) .nil)

end Member.IsOneLine

theorem builderEntry_isArranged {name : String} (h : OneLine name) :
    (builderEntry name).IsArranged where
  name := by simp +decide [builderEntry]
  receiver := nofun
  parameter := nofun
  result := by
    rintro _ ⟨⟩
    simp +decide [builderName, h]
  body := .plain (by simp +decide [toString, builderName, h]) .nil

section Built

variable {name : String} (hname : OneLine name)
  (hfirst : ∃ c rest, name.toList = c :: rest ∧ c ≠ ' ')
  (hmembers : ∀ member ∈ members, member.IsOneLine)
include hname hfirst hmembers

/-- The struct that a builder makes is a block, unless it has no fields. -/
theorem arranged_builtLines : Arranged (builtLines name members) := by
  have hcopies : Arranged
      (members.map fun member => .plain s!"{member.identifier}: self.{member.identifier},") :=
    .map_plain fun member hmember => by
      simp +decide [toString, (hmembers member hmember).identifier]
  rw [builtLines]
  split
  · exact .plain (by simp +decide [toString, hname]) .nil
  · obtain ⟨c, rest, hchars, hc⟩ := hfirst
    have hblock : Arranged (.opening s!"{name} \x7b" ::
        ((members.map fun member =>
            Line.plain s!"{member.identifier}: self.{member.identifier},") ++
          [.closing "\x7d"])) := by
      refine .braced ?_ ?_ hcopies .nil
      · simp +decide [toString, hname]
      · simp [toString, hchars, hc]
    simpa using hblock

theorem buildMethod_isArranged : (buildMethod name members).IsArranged where
  name := by simp +decide [buildMethod]
  receiver := by
    rintro _ ⟨⟩
    decide
  parameter := nofun
  result := by
    rintro _ ⟨⟩
    exact hname
  body := arranged_builtLines hname hfirst hmembers

omit hfirst in
theorem methodsOf_isArranged (options : Options) :
    ∀ method ∈ methodsOf options name members, method.IsArranged := by
  rw [methodsOf]
  split
  · refine List.forall_mem_cons.2 ⟨builderEntry_isArranged hname, ?_⟩
    intro method hmethod
    obtain ⟨member, hmember, rfl⟩ := List.mem_map.1 hmethod
    exact (hmembers member hmember).getterMethod
  · intro method hmethod
    obtain ⟨member, hmember, hmethod⟩ := List.mem_flatMap.1 hmethod
    have hparts := hmembers member hmember
    rcases List.mem_pair.1 hmethod with rfl | rfl
    · exact hparts.getterMethod
    · exact hparts.setterMethod

theorem arranged_builderOf : Arranged (builderOf name members).lines := by
  apply BuilderUnit.arranged
  · simp +decide [builderOf, builderName, hname]
  · intro field hfield
    obtain ⟨member, hmember, rfl⟩ := List.mem_map.1 hfield
    exact (hmembers member hmember).builderDeclaration
  · refine List.forall_mem_append.2 ⟨?_, ?_⟩
    · intro method hmethod
      obtain ⟨member, hmember, rfl⟩ := List.mem_map.1 hmethod
      exact (hmembers member hmember).builderMethod
    · exact List.forall_mem_singleton.2 (buildMethod_isArranged hname hfirst hmembers)

end Built

/-! ## Files -/

theorem isOneLine_membersOf (h : HasOneLineNames cls) :
    ∀ member ∈ membersOf model cls, member.IsOneLine := by
  intro member hmember
  obtain ⟨field, hfield, rfl⟩ := List.mem_map.1 hmember
  exact Member.isOneLine_ofField h hfield

theorem arranged_codeOf (h : HasOneLineNames cls) (model : Model) (options : Options) :
    Arranged (codeOf options model cls).lines := by
  have hname := oneLine_typeName h
  have hfirst := exists_typeName_eq_cons h
  have hmembers : ∀ member ∈ membersOf model cls, member.IsOneLine := isOneLine_membersOf h
  have himplementation : Arranged (codeOf options model cls).implementation.lines :=
    Implementation.arranged hname (methodsOf_isArranged hname hmembers options)
  apply himplementation.append
  rw [codeOf]
  dsimp only
  split
  · exact arranged_builderOf hname hfirst hmembers
  · exact .nil

theorem arranged_classLines (h : HasOneLineNames cls) (hmaker : OneLine options.generatedBy)
    (model : Model) : Arranged (classLines model options cls) := by
  rw [← lines_structUnit]
  apply StructUnit.arranged
  · exact hmaker
  · intro name hname
    obtain ⟨field, hfield, target, htarget, -, rfl⟩ := mem_importedNames.1 hname
    exact oneLine_escapeWord (h.types field hfield target htarget)
  · exact oneLine_typeName h
  · intro field hfield
    obtain ⟨member, hmember, rfl⟩ := List.mem_map.1 hfield
    exact (isOneLine_membersOf h member hmember).declaration
  · rw [← lines_codeOf]
    exact arranged_codeOf h model options

theorem arranged_moduleLines (h : ∀ cls ∈ model.classes, HasOneLineNames cls)
    (hmaker : OneLine options.generatedBy) : Arranged (moduleLines model options) := by
  have hmodules : Arranged
      (model.classes.map fun cls => .plain s!"mod {moduleName cls.name};") :=
    .map_plain fun cls hcls => by
      simp +decide [toString, oneLine_moduleName (h cls hcls).name]
  have hexports : Arranged (model.classes.map (exportLine options)) := by
    rw [List.map_eq_flatMap]
    apply Arranged.flatMap
    intro cls hcls
    have hmodule := oneLine_moduleName (h cls hcls).name
    have hname := oneLine_typeName (h cls hcls)
    rw [exportLine]
    split
    · exact .plain (by simp +decide [toString, hmodule, hname, builderName]) .nil
    · exact .plain (by simp +decide [toString, hmodule, hname]) .nil
  have hgap : Arranged (if model.classes.isEmpty then [] else [.blank]) := by
    split
    · exact .nil
    · exact .blank .nil
  have hmark : OneLine s!"// @generated by {options.generatedBy}" := by
    simp +decide [toString, hmaker]
  have hlines := Arranged.plain hmark (.blank (hmodules.append (hgap.append hexports)))
  simpa [moduleLines, headerLines] using hlines

end Exemplar.Source.Rust
