import Exemplar.Naming.Identifier
import Exemplar.Options.Basic
import Exemplar.Sorted
import Exemplar.Source.Basic

/-!
# Java classes

Each class of a model becomes a file with private fields, a getter for each of them, and setters or
a nested builder. Fields are annotated for Gson. A type of a library is written by its simple name,
imported where that is needed, unless a generated class has the name: then it is written in full.
-/

namespace Exemplar.Source.Java

open Naming

def reservedWords : List String := [
  "abstract", "assert", "boolean", "break", "byte", "case", "catch", "char", "class", "const",
  "continue", "default", "do", "double", "else", "enum", "extends", "final", "finally", "float",
  "for", "goto", "if", "implements", "import", "instanceof", "int", "interface", "long", "native",
  "new", "package", "private", "protected", "public", "return", "short", "static", "strictfp",
  "super", "switch", "synchronized", "this", "throw", "throws", "transient", "try", "void",
  "volatile", "while", "true", "false", "null", "var", "record", "yield", "_"]

def escapeWord (identifier : String) : String :=
  if reservedWords.contains identifier then identifier ++ "_" else identifier

/-- A type of a library. -/
structure LibraryType where
  package : String
  name : String
  deriving DecidableEq

def LibraryType.fullName (library : LibraryType) : String :=
  library.package ++ "." ++ library.name

def generatedType : LibraryType := ⟨"javax.annotation", "Generated"⟩
def listType : LibraryType := ⟨"java.util", "List"⟩
def serializedNameType : LibraryType := ⟨"com.google.gson.annotations", "SerializedName"⟩
def exposeType : LibraryType := ⟨"com.google.gson.annotations", "Expose"⟩

def langType (name : String) : LibraryType := ⟨"java.lang", name⟩

/-- A library type as it is written in a model. -/
def qualify (model : Model) (library : LibraryType) : String :=
  if model.hasClass library.name then library.fullName else library.name

/-- The type of a field as it is written in a model. -/
def typeText (model : Model) : Ty → String
  | .bool => qualify model (langType "Boolean")
  | .integer => qualify model (langType "Long")
  | .float => qualify model (langType "Double")
  | .string => qualify model (langType "String")
  | .any => qualify model (langType "Object")
  | .named name => name
  | .list element => qualify model listType ++ "<" ++ typeText model element ++ ">"

/-- What the class and its builder need to know of a field. -/
structure Member where
  field : Field
  identifier : String
  type : String
  suffix : String
  parameter : String

def Member.ofField (model : Model) (field : Field) : Member where
  field := field
  identifier := escapeWord field.name
  type := typeText model field.ty
  suffix := accessorSuffix field.property
  parameter := escapeWord (parameterName field.property)

/-- A member whose identifier is not its property has to be given the property's name. -/
def Member.isRenamed (member : Member) : Bool :=
  member.identifier != member.field.property

/-- A getter may not hide the final method `getClass`. -/
def Member.getter (member : Member) : String :=
  let name := "get" ++ member.suffix
  if name = "getClass" then name ++ "_" else name

def Member.setter (member : Member) : String :=
  "set" ++ member.suffix

def Member.withMethod (member : Member) : String :=
  "with" ++ member.suffix

/-- The name of the nested builder. -/
def builderClass : String := "Builder"

/-- The library types that a class refers to by a name to be imported. -/
def neededTypes (options : Options) (members : List Member) : List LibraryType :=
  let renamed := members.any Member.isRenamed
  let kept := members.any (!·.isRenamed)
  [generatedType]
    ++ (if members.any (·.field.ty.isList) then [listType] else [])
    ++ (if renamed then [serializedNameType] else [])
    ++ (if kept || (renamed && options.alwaysAnnotateExpose) then [exposeType] else [])

/-- The names to import, sorted. -/
def importedNames (model : Model) (options : Options) (members : List Member) : List String :=
  Sorted.ofList
    (((neededTypes options members).filter (!model.hasClass ·.name)).map LibraryType.fullName)

def headerLines (model : Model) (options : Options) (package : String) (members : List Member) :
    List Line :=
  let imports := importedNames model options members
  let clause : List Line :=
    if package.isEmpty then [] else [.plain s!"package {package};", .blank]
  let importLines := imports.map fun name => Line.plain s!"import {name};"
  clause ++ importLines ++ (if imports.isEmpty then [] else [.blank])

/-- A string literal. -/
def literal (text : String) : String :=
  "\"" ++ Text.fourDigitEscaped text ++ "\""

def annotationLines (model : Model) (options : Options) (member : Member) : List Line :=
  let expose := Line.plain ("@" ++ qualify model exposeType)
  if member.isRenamed then
    let name := qualify model serializedNameType
    let wire := literal member.field.property
    .plain s!"@{name}({wire})" :: (if options.alwaysAnnotateExpose then [expose] else [])
  else [expose]

def fieldLine (member : Member) : Line :=
  .plain s!"private {member.type} {member.identifier};"

/-- The assignment of a parameter to a field, where the two may have one name. -/
def assignment (member : Member) : String :=
  if member.identifier = member.parameter then
    s!"this.{member.identifier} = {member.parameter};"
  else s!"{member.identifier} = {member.parameter};"

def fieldLines (model : Model) (options : Options) (member : Member) : List Line :=
  [.blank] ++ annotationLines model options member ++ [fieldLine member]

def getterLines (member : Member) : List Line :=
  [.blank, .opening s!"public {member.type} {member.getter}() \x7b",
    .plain s!"return {member.identifier};", .closing "\x7d"]

def setterLines (member : Member) : List Line :=
  [.blank,
    .opening s!"public void {member.setter}({member.type} {member.parameter}) \x7b",
    .plain (assignment member), .closing "\x7d"]

/-- The methods of a field; a builder takes the place of the setter. -/
def accessorLines (options : Options) (member : Member) : List Line :=
  getterLines member ++ if options.generateBuilders then [] else setterLines member

def withLines (owner : String) (member : Member) : List Line :=
  [.blank,
    .opening s!"public {owner} {member.withMethod}({member.type} {member.parameter}) \x7b",
    .plain (assignment member), .plain "return this;", .closing "\x7d"]

/-- The nested builder: the same fields, a method to set each, and one that copies them all into a
new object. -/
def builderLines (cls : ClassDef) (members : List Member) : List Line :=
  let owner := cls.name ++ "." ++ builderClass
  let target := escapeWord (uncapitalize cls.name)
  List.flatten [
    [.blank, .opening s!"public static class {builderClass} \x7b"],
    members.flatMap fun member => [.blank, fieldLine member],
    members.flatMap (withLines owner),
    [.blank, .opening s!"public {cls.name} build() \x7b",
      .plain s!"{cls.name} {target} = new {cls.name}();"],
    members.map fun member =>
      .plain s!"{target}.{member.identifier} = this.{member.identifier};",
    [.plain s!"return {target};", .closing "\x7d", .blank, .closing "\x7d"]]

/-- The marks in front of a class. -/
def markLines (model : Model) (options : Options) : List Line :=
  let mark := qualify model generatedType
  let maker := literal options.generatedBy
  let suppress := qualify model (langType "SuppressWarnings")
  [.plain s!"@{mark}({maker})", .plain s!"@{suppress}(\"unused\")"]

def classLines (model : Model) (options : Options) (package : String) (cls : ClassDef) :
    List Line :=
  let members := cls.fields.map (Member.ofField model)
  List.flatten [
    headerLines model options package members,
    markLines model options,
    [.opening s!"public class {cls.name} \x7b"],
    members.flatMap (fieldLines model options),
    members.flatMap (accessorLines options),
    if options.generateBuilders then builderLines cls members else [],
    [.blank, .closing "\x7d"]]

/-- The methods of a class, in the order in which they are declared. -/
def methodNames (options : Options) (members : List Member) : List String :=
  members.flatMap fun member =>
    member.getter :: (if options.generateBuilders then [] else [member.setter])

/-- Refuses a class in which a field or a method would be declared twice. -/
def checkMembers (model : Model) (options : Options) (cls : ClassDef) : Except Failure Unit := do
  let members := cls.fields.map (Member.ofField model)
  declare cls.name (members.map (·.identifier))
  declare cls.name (methodNames options members)
  if options.generateBuilders then
    declare (cls.name ++ "." ++ builderClass) (members.map (·.withMethod) ++ ["build"])

/-- The directory of a package: one level for each piece between the dots. -/
def directory (package : String) : Path :=
  .ofParts (((Text.pieces '.' package.toList).map String.ofList).filter (!·.isEmpty))

def fileOf (model : Model) (options : Options) (package : String) (cls : ClassDef) :
    Except Failure SourceFile := do
  checkMembers model options cls
  return ⟨cls.name, (directory package).join ⟨cls.name ++ ".java"⟩,
    render (classLines model options package cls)⟩

/-- The files of a model, one for each class. -/
def files (model : Model) (options : Options) (package : String) :
    Except Failure (List SourceFile) := do
  if options.generateBuilders then
    checkBuilderNames (fun _ => builderClass) model
  model.classes.mapM (fileOf model options package)

end Exemplar.Source.Java
