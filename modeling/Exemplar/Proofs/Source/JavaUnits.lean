import Exemplar.Source.Java

/-!
# Compilation units

The parts of a generated Java file: what it imports, how it is annotated, and the types of its
fields and methods as they are written.  The source of a class is the print of its unit, line by
line, so that what holds of the unit holds of the text.
-/

namespace Exemplar.Source.Java

structure Annotation where
  name : String
  /-- A literal. -/
  argument : Option String

def Annotation.line (tag : Annotation) : Line :=
  match tag.argument with
  | none => .plain ("@" ++ tag.name)
  | some literal => .plain s!"@{tag.name}({literal})"

structure FieldDeclaration where
  annotations : List Annotation
  type : String
  identifier : String

def FieldDeclaration.lines (field : FieldDeclaration) : List Line :=
  [.blank] ++ field.annotations.map Annotation.line ++
    [.plain s!"private {field.type} {field.identifier};"]

structure Parameter where
  type : String
  identifier : String

structure Method where
  result : String
  name : String
  parameter : Option Parameter
  body : List String

def Method.heading (method : Method) : String :=
  match method.parameter with
  | none => s!"public {method.result} {method.name}() \x7b"
  | some parameter =>
      s!"public {method.result} {method.name}({parameter.type} {parameter.identifier}) \x7b"

def Method.lines (method : Method) : List Line :=
  [.blank, .opening method.heading] ++ method.body.map .plain ++ [.closing "\x7d"]

/-- The methods of one field. -/
structure Accessors where
  getter : Method
  setter : Option Method

def Accessors.lines (accessors : Accessors) : List Line :=
  accessors.getter.lines ++ (accessors.setter.map Method.lines).getD []

/-- A nested builder. -/
structure BuilderUnit where
  fields : List FieldDeclaration
  withMethods : List Method
  build : Method

def BuilderUnit.lines (builder : BuilderUnit) : List Line :=
  List.flatten [
    [.blank, .opening s!"public static class {builderClass} \x7b"],
    builder.fields.flatMap FieldDeclaration.lines,
    builder.withMethods.flatMap Method.lines,
    builder.build.lines,
    [.blank, .closing "\x7d"]]

structure CompilationUnit where
  package : String
  imports : List String
  marks : List Annotation
  name : String
  fields : List FieldDeclaration
  accessors : List Accessors
  builder : Option BuilderUnit

def CompilationUnit.lines (unit : CompilationUnit) : List Line :=
  List.flatten [
    if unit.package.isEmpty then [] else [.plain s!"package {unit.package};", .blank],
    unit.imports.map fun name => .plain s!"import {name};",
    if unit.imports.isEmpty then [] else [.blank],
    unit.marks.map Annotation.line,
    [.opening s!"public class {unit.name} \x7b"],
    unit.fields.flatMap FieldDeclaration.lines,
    unit.accessors.flatMap Accessors.lines,
    (unit.builder.map BuilderUnit.lines).getD [],
    [.blank, .closing "\x7d"]]

/-! ## The unit of a class -/

variable (model : Model) (options : Options)

def Member.annotations (member : Member) : List Annotation :=
  let expose : Annotation := ⟨qualify model exposeType, none⟩
  if member.isRenamed then
    ⟨qualify model serializedNameType, some (literal member.field.property)⟩ ::
      (if options.alwaysAnnotateExpose then [expose] else [])
  else [expose]

def Member.declaration (member : Member) : FieldDeclaration :=
  ⟨member.annotations model options, member.type, member.identifier⟩

def Member.getterMethod (member : Member) : Method :=
  ⟨member.type, member.getter, none, [s!"return {member.identifier};"]⟩

def Member.setterMethod (member : Member) : Method :=
  ⟨"void", member.setter, some ⟨member.type, member.parameter⟩, [assignment member]⟩

def Member.accessors (member : Member) : Accessors :=
  ⟨member.getterMethod, if options.generateBuilders then none else some member.setterMethod⟩

def Member.builderDeclaration (member : Member) : FieldDeclaration :=
  ⟨[], member.type, member.identifier⟩

def Member.builderMethod (owner : String) (member : Member) : Method :=
  ⟨owner, member.withMethod, some ⟨member.type, member.parameter⟩,
    [assignment member, "return this;"]⟩

def builderOf (cls : ClassDef) (members : List Member) : BuilderUnit where
  fields := members.map Member.builderDeclaration
  withMethods := members.map (Member.builderMethod (cls.name ++ "." ++ builderClass))
  build :=
    let target := escapeWord (Naming.uncapitalize cls.name)
    ⟨cls.name, "build", none,
      s!"{cls.name} {target} = new {cls.name}();" ::
        members.map (fun member =>
          s!"{target}.{member.identifier} = this.{member.identifier};") ++ [s!"return {target};"]⟩

/-- The marks in front of a class. -/
def marks : List Annotation :=
  [⟨qualify model generatedType, some (literal options.generatedBy)⟩,
    ⟨qualify model (langType "SuppressWarnings"), some "\"unused\""⟩]

def unitOf (package : String) (cls : ClassDef) : CompilationUnit :=
  let members := cls.fields.map (Member.ofField model)
  { package := package
    imports := importedNames model options members
    marks := marks model options
    name := cls.name
    fields := members.map (Member.declaration model options)
    accessors := members.map (Member.accessors options)
    builder := if options.generateBuilders then some (builderOf cls members) else none }

theorem lines_annotations (member : Member) :
    (member.annotations model options).map Annotation.line =
      annotationLines model options member := by
  unfold Member.annotations annotationLines
  split
  · split <;> rfl
  · rfl

theorem lines_declaration (member : Member) :
    (member.declaration model options).lines = fieldLines model options member := by
  rw [FieldDeclaration.lines, Member.declaration, lines_annotations]
  rfl

theorem lines_getterMethod (member : Member) : member.getterMethod.lines = getterLines member := by
  rfl

theorem lines_setterMethod (member : Member) : member.setterMethod.lines = setterLines member := by
  rfl

theorem lines_accessors (member : Member) :
    (member.accessors options).lines = accessorLines options member := by
  rw [Accessors.lines, Member.accessors, lines_getterMethod]
  unfold accessorLines
  split
  · rfl
  · rw [Option.map_some, lines_setterMethod]
    rfl

theorem lines_builderDeclaration (member : Member) :
    member.builderDeclaration.lines = [.blank, fieldLine member] := rfl

theorem lines_builderMethod (owner : String) (member : Member) :
    (member.builderMethod owner).lines = withLines owner member := by
  rfl

/-- The parts of a unit that were made of members one by one are printed one by one. -/
theorem flatMap_map_lines {Part : Type} {part : Member → Part} {print : Part → List Line}
    {lines : Member → List Line} (h : ∀ member, print (part member) = lines member)
    (members : List Member) : (members.map part).flatMap print = members.flatMap lines := by
  rw [List.flatMap_map]
  exact congrArg (List.flatMap · members) (funext h)

theorem lines_builderOf (cls : ClassDef) (members : List Member) :
    (builderOf cls members).lines = builderLines cls members := by
  have hbuild : "public " ++ cls.name ++ " " ++ "build" ++ "() \x7b" =
      "public " ++ cls.name ++ " build() \x7b" := by
    simp only [String.append_assoc]
    rfl
  unfold BuilderUnit.lines builderOf builderLines
  rw [flatMap_map_lines lines_builderDeclaration, flatMap_map_lines (lines_builderMethod _)]
  simp only [Method.lines, Method.heading, List.map_append, List.map_cons, List.map_map,
    List.flatten_cons, List.flatten_nil, List.append_assoc, List.cons_append, List.nil_append,
    List.map_nil, toString, hbuild]
  rfl

theorem lines_marks : (marks model options).map Annotation.line = markLines model options := by
  have hsuppress : ∀ name : String, "@" ++ name ++ "(" ++ "\"unused\"" ++ ")" =
      "@" ++ name ++ "(\"unused\")" := by
    intro name
    simp only [String.append_assoc]
    rfl
  simp only [marks, List.map_cons, List.map_nil, Annotation.line, markLines, toString, hsuppress]

/-- The source of a class is the print of its unit. -/
theorem lines_unitOf (package : String) (cls : ClassDef) :
    (unitOf model options package cls).lines = classLines model options package cls := by
  have hbuilder : ∀ members : List Member,
      ((if options.generateBuilders then some (builderOf cls members) else none).map
        BuilderUnit.lines).getD [] =
        if options.generateBuilders then builderLines cls members else [] := by
    intro members
    split
    · exact lines_builderOf cls members
    · rfl
  unfold CompilationUnit.lines unitOf classLines headerLines
  dsimp only
  rw [flatMap_map_lines (lines_declaration model options),
    flatMap_map_lines (lines_accessors options), hbuilder, lines_marks]
  simp only [List.flatten_cons, List.append_assoc]

end Exemplar.Source.Java
