import Exemplar.Naming.Identifier
import Exemplar.Naming.Snake
import Exemplar.Options.Basic
import Exemplar.Sorted
import Exemplar.Source.Basic

/-!
# Rust structs

Each class of a model becomes a module with a struct of optional fields for serde, a getter for each
field, and setters or a builder. A field whose class leads back to the struct is boxed. The module
file `mod.rs` declares the modules and exports their structs.
-/

namespace Exemplar.Source.Rust

open Naming

def reservedWords : List String := [
  "as", "async", "await", "box", "break", "const", "continue", "dyn", "else", "enum", "extern",
  "false", "fn", "for", "gen", "if", "impl", "in", "let", "loop", "macro", "match", "mod", "move",
  "mut", "priv", "pub", "ref", "return", "static", "struct", "trait", "true", "try", "type",
  "typeof", "unsafe", "unsized", "use", "virtual", "where", "while", "yield", "abstract",
  "become", "do", "final", "override"]

/-- The reserved words that no raw identifier can spell. -/
def pathWords : List String := ["self", "Self", "super", "crate", "_"]

/-- An identifier that is no reserved word. -/
def escapeWord (identifier : String) : String :=
  if pathWords.contains identifier then identifier ++ "_"
  else if reservedWords.contains identifier then "r#" ++ identifier
  else identifier

def builderName (className : String) : String :=
  className ++ "Builder"

/-- The file name of a class, and the name of its module unless that is a reserved word. -/
def moduleStem (className : String) : String :=
  let stem := snake className
  if pathWords.contains stem then stem ++ "_" else stem

def moduleName (className : String) : String :=
  escapeWord (moduleStem className)

def typeName (className : String) : String :=
  escapeWord className

def fieldStem (field : Field) : String :=
  snake (normalize field.property)

def typeText : Ty → String
  | .bool => "bool"
  | .integer => "i64"
  | .float => "f64"
  | .string => "::std::string::String"
  | .any => "::serde_json::Value"
  | .named name => typeName name
  | .list element => "::std::vec::Vec<" ++ typeText element ++ ">"

/-! ## Recursive structs -/

/-- The class that a field holds inline. -/
def inlineClass? (field : Field) : Option String :=
  match field.ty with
  | .named name => some name
  | _ => none

/-- The classes that the fields of a class hold inline; none for a class the model lacks. -/
def inlineClasses (model : Model) (className : String) : List String :=
  match model.class? className with
  | some cls => cls.fields.filterMap inlineClass?
  | none => []

/-- Searches the owner among the classes on the stack and all that they hold, classes seen before
left aside. Every step takes a class off the stack and no class is opened twice, so the fields of
all classes together bound the steps. -/
def searchOwner (model : Model) (owner : String) : Nat → List String → List String → Bool
  | 0, _, _ => false
  | _ + 1, _, [] => false
  | fuel + 1, seen, className :: stack =>
      if className = owner then true
      else if seen.contains className then searchOwner model owner fuel seen stack
      else
        searchOwner model owner fuel (className :: seen) (inlineClasses model className ++ stack)

def searchBound (model : Model) : Nat :=
  model.classes.foldr (fun cls count => cls.fields.length + count) 1

/-- Whether a class holds the owner inline, at whatever remove. -/
def isRecursive (model : Model) (owner className : String) : Bool :=
  searchOwner model owner (searchBound model) [] [className]

/-! ## Members -/

structure Member where
  /-- The field name without escape, as methods spell it. -/
  stem : String
  identifier : String
  property : String
  type : String
  boxed : Bool

def isBoxed (model : Model) (owner : String) (field : Field) : Bool :=
  match inlineClass? field with
  | some className => isRecursive model owner className
  | none => false

def Member.ofField (model : Model) (owner : String) (field : Field) : Member where
  stem := fieldStem field
  identifier := escapeWord (fieldStem field)
  property := field.property
  type := typeText field.ty
  boxed := isBoxed model owner field

/-- The identifier without the mark of a raw identifier. -/
def unraw (identifier : String) : String :=
  match identifier.toList with
  | 'r' :: '#' :: rest => String.ofList rest
  | _ => identifier

/-- The key under which a field is serialized by default. -/
def Member.defaultKey (member : Member) : String :=
  unraw member.identifier

def Member.storage (member : Member) : String :=
  if member.boxed then "::std::option::Option<::std::boxed::Box<" ++ member.type ++ ">>"
  else "::std::option::Option<" ++ member.type ++ ">"

def Member.wrapped (member : Member) : String :=
  if member.boxed then
    "::std::option::Option::Some(::std::boxed::Box::new(" ++ member.identifier ++ "))"
  else "::std::option::Option::Some(" ++ member.identifier ++ ")"

def Member.reference (member : Member) : String :=
  if member.boxed then "as_deref" else "as_ref"

def Member.getter (member : Member) : String :=
  "get_" ++ member.stem

def Member.setter (member : Member) : String :=
  "set_" ++ member.stem

def Member.withMethod (member : Member) : String :=
  "with_" ++ member.stem

def membersOf (model : Model) (cls : ClassDef) : List Member :=
  cls.fields.map (Member.ofField model cls.name)

/-! ## Lines -/

def headerLines (options : Options) : List Line :=
  [.plain s!"// @generated by {options.generatedBy}", .blank]

/-- The other structs that a class names, sorted. -/
def importedNames (cls : ClassDef) : List String :=
  Sorted.ofList
    (((cls.fields.filterMap (·.ty.referencedClass?)).filter (· != cls.name)).map typeName)

def importLines (cls : ClassDef) : List Line :=
  match importedNames cls with
  | [] => []
  | [name] => [.plain s!"use super::{name};", .blank]
  | names => [.plain ("use super::\x7b" ++ ", ".intercalate names ++ "\x7d;"), .blank]

def renameLines (member : Member) : List Line :=
  if member.defaultKey = member.property then []
  else [.plain ("#[serde(rename = \"" ++ Text.asciiEscaped member.property ++ "\")]")]

def fieldLine (member : Member) : Line :=
  .plain s!"{member.identifier}: {member.storage},"

def structLines (name : String) (members : List Member) : List Line :=
  List.flatten [
    [.plain
        "#[derive(Debug, Clone, Default, PartialEq, ::serde::Serialize, ::serde::Deserialize)]",
      .plain "#[serde(default)]", .opening s!"pub struct {name} \x7b"],
    members.flatMap fun member => renameLines member ++ [fieldLine member],
    [.closing "\x7d"]]

def getterLines (member : Member) : List Line :=
  [.opening
      s!"pub fn {member.getter}(&self) -> ::std::option::Option<&{member.type}> \x7b",
    .plain s!"self.{member.identifier}.{member.reference}()", .closing "\x7d"]

def setterLines (member : Member) : List Line :=
  [.opening
      s!"pub fn {member.setter}(&mut self, {member.identifier}: {member.type}) \x7b",
    .plain s!"self.{member.identifier} = {member.wrapped};", .closing "\x7d"]

/-- The way to the builder, which stands first. -/
def builderEntryLines (name : String) : List Line :=
  let builder := builderName name
  [.opening s!"pub fn builder() -> {builder} \x7b", .plain s!"{builder}::default()",
    .closing "\x7d"]

/-- The methods of a struct; a blank line stands between any two. -/
def methodBlocks (options : Options) (name : String) (members : List Member) :
    List (List Line) :=
  if options.generateBuilders then builderEntryLines name :: members.map getterLines
  else members.flatMap fun member => [getterLines member, setterLines member]

def implLines (options : Options) (name : String) (members : List Member) : List Line :=
  [.opening s!"impl {name} \x7b"]
    ++ [Line.blank].intercalate (methodBlocks options name members)
    ++ [.closing "\x7d"]

def withLines (member : Member) : List Line :=
  [.opening
      s!"pub fn {member.withMethod}(mut self, {member.identifier}: {member.type}) -> Self \x7b",
    .plain s!"self.{member.identifier} = {member.wrapped};", .plain "self", .closing "\x7d",
    .blank]

/-- The struct that a builder makes. -/
def builtLines (name : String) (members : List Member) : List Line :=
  if members.isEmpty then [.plain s!"{name} \x7b\x7d"]
  else
    List.flatten [
      [.opening s!"{name} \x7b"],
      members.map fun member => .plain s!"{member.identifier}: self.{member.identifier},",
      [.closing "\x7d"]]

/-- The builder: the same fields, a method to set each, and one that makes the struct. -/
def builderLines (name : String) (members : List Member) : List Line :=
  let builder := builderName name
  List.flatten [
    [.blank, .plain "#[derive(Debug, Clone, Default)]", .opening s!"pub struct {builder} \x7b"],
    members.map fieldLine,
    [.closing "\x7d", .blank, .opening s!"impl {builder} \x7b"],
    members.flatMap withLines,
    [.opening s!"pub fn build(self) -> {name} \x7b"],
    builtLines name members,
    [.closing "\x7d", .closing "\x7d"]]

def classLines (model : Model) (options : Options) (cls : ClassDef) : List Line :=
  let members := membersOf model cls
  let name := typeName cls.name
  List.flatten [
    headerLines options,
    importLines cls,
    structLines name members,
    [.blank],
    implLines options name members,
    if options.generateBuilders then builderLines name members else []]

def exportLine (options : Options) (cls : ClassDef) : Line :=
  let name := typeName cls.name
  let modName := moduleName cls.name
  if options.generateBuilders then
    .plain s!"pub use {modName}::\x7b{name}, {builderName name}\x7d;"
  else .plain s!"pub use {modName}::{name};"

def moduleLines (model : Model) (options : Options) : List Line :=
  headerLines options
    ++ model.classes.map (fun cls => .plain s!"mod {moduleName cls.name};")
    ++ (if model.classes.isEmpty then [] else [.blank])
    ++ model.classes.map (exportLine options)

/-! ## Files -/

/-- The methods of a struct, in the order in which they are declared. -/
def methodNames (options : Options) (members : List Member) : List String :=
  if options.generateBuilders then "builder" :: members.map (·.getter)
  else members.flatMap fun member => [member.getter, member.setter]

/-- Refuses a class in which a field or a method would be declared twice. -/
def checkMembers (model : Model) (options : Options) (cls : ClassDef) : Except Failure Unit := do
  let members := membersOf model cls
  declare cls.name (members.map (·.stem))
  declare cls.name (methodNames options members)
  if options.generateBuilders then
    declare (builderName (typeName cls.name)) (members.map (·.withMethod) ++ ["build"])

/-- The directory of a module path; `crate` is where the path starts. -/
def directory (modulePath : String) : Path :=
  .ofParts
    (((Text.doubleColonPieces modulePath.toList).map String.ofList).filter
      fun part => !part.isEmpty && part != "crate")

/-- The file of the modules. -/
def moduleFile (modulePath : String) : Path :=
  (directory modulePath).join ⟨"mod.rs"⟩

/-- The files of the classes, where `stems` are the modules declared before. -/
def classFiles (model : Model) (options : Options) (modulePath : String) (stems : List String) :
    List ClassDef → Except Failure (List SourceFile)
  | [] => .ok []
  | cls :: rest =>
      let stem := moduleStem cls.name
      if stems.contains stem then
        .error (.duplicateMember (moduleFile modulePath).text stem)
      else do
        checkMembers model options cls
        let file : SourceFile :=
          ⟨cls.name, (directory modulePath).join ⟨stem ++ ".rs"⟩,
            render (classLines model options cls)⟩
        let files ← classFiles model options modulePath (stem :: stems) rest
        return file :: files

/-- The files of a model: one for each class, and the module file. -/
def files (model : Model) (options : Options) (modulePath : String) :
    Except Failure (List SourceFile) := do
  if options.generateBuilders then
    checkBuilderNames builderName model
  let classes ← classFiles model options modulePath ["mod"] model.classes
  return classes ++ [⟨"", moduleFile modulePath, render (moduleLines model options)⟩]

end Exemplar.Source.Rust
