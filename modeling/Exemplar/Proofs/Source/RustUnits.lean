import Exemplar.Proofs.Source.RustLiterals

/-!
# Struct files

The parts of a generated Rust file up to the end of its struct: what it uses of the other modules and
how the fields are attributed and stored.  The source of a class is the print of its unit, so that
what holds of the unit holds of the text.
-/

namespace Exemplar.Source.Rust

structure FieldDeclaration where
  /-- The literal that names the field for serde. -/
  rename : Option String
  identifier : String
  type : String

def FieldDeclaration.lines (field : FieldDeclaration) : List Line :=
  (field.rename.map fun literal => Line.plain s!"#[serde(rename = {literal})]").toList ++
    [.plain s!"{field.identifier}: {field.type},"]

/-- The line that brings other structs into scope. -/
def useLines : List String → List Line
  | [] => []
  | [name] => [.plain s!"use super::{name};", .blank]
  | names => [.plain ("use super::\x7b" ++ ", ".intercalate names ++ "\x7d;"), .blank]

structure StructUnit where
  maker : String
  imports : List String
  name : String
  fields : List FieldDeclaration
  /-- The methods of the struct, and the builder with its own. -/
  implementation : List Line

def StructUnit.lines (unit : StructUnit) : List Line :=
  List.flatten [
    [.plain s!"// @generated by {unit.maker}", .blank],
    useLines unit.imports,
    [.plain
        "#[derive(Debug, Clone, Default, PartialEq, ::serde::Serialize, ::serde::Deserialize)]",
      .plain "#[serde(default)]", .opening s!"pub struct {unit.name} \x7b"],
    unit.fields.flatMap FieldDeclaration.lines,
    [.closing "\x7d", .blank],
    unit.implementation]

/-! ## The unit of a class -/

def Member.rename (member : Member) : Option String :=
  if member.defaultKey = member.property then none else some (literal member.property)

def Member.declaration (member : Member) : FieldDeclaration :=
  ⟨member.rename, member.identifier, member.storage⟩

variable (model : Model) (options : Options)

def structUnit (cls : ClassDef) : StructUnit :=
  let members := membersOf model cls
  let name := typeName cls.name
  { maker := options.generatedBy
    imports := importedNames cls
    name := name
    fields := members.map Member.declaration
    implementation := implLines options name members ++
      if options.generateBuilders then builderLines name members else [] }

theorem lines_declaration (member : Member) :
    member.declaration.lines = renameLines member ++ [fieldLine member] := by
  have hliteral : ∀ text : String, "#[serde(rename = " ++ literal text ++ ")]" =
      "#[serde(rename = \"" ++ Text.asciiEscaped text ++ "\")]" := by
    intro text
    apply String.toList_inj.1
    simp [literal]
  unfold FieldDeclaration.lines Member.declaration Member.rename renameLines
  dsimp only
  split
  · rfl
  · simp only [Option.map_some, Option.toList_some, toString, hliteral]
    rfl

theorem useLines_importedNames (cls : ClassDef) :
    useLines (importedNames cls) = importLines cls := by
  unfold useLines importLines
  rfl

/-- The source of a class is the print of its unit. -/
theorem lines_structUnit (cls : ClassDef) :
    (structUnit model options cls).lines = classLines model options cls := by
  have hfields : ∀ members : List Member,
      (members.map Member.declaration).flatMap FieldDeclaration.lines =
        members.flatMap fun member => renameLines member ++ [fieldLine member] := by
    intro members
    rw [List.flatMap_map]
    exact congrArg (List.flatMap · members) (funext lines_declaration)
  unfold StructUnit.lines structUnit classLines structLines headerLines
  dsimp only
  rw [hfields, useLines_importedNames]
  simp only [List.flatten_cons, List.flatten_nil, List.append_assoc, List.append_nil,
    List.cons_append, List.nil_append]

end Exemplar.Source.Rust
