import Exemplar.Json.Value
import Exemplar.Model.Basic

/-!
# Models as documents

The form in which a model is printed: an object with the classes under their names. The kind of a
type and of a diagnostic is a member of its own.
-/

namespace Exemplar

open Json

namespace Ty

def kindName : Ty → String
  | .bool => "bool"
  | .integer => "integer"
  | .float => "float"
  | .string => "string"
  | .any => "any"
  | .named _ => "class"
  | .list _ => "list"

def toJson : Ty → Value
  | .named name => .object [("kind", .string "class"), ("of", .string name)]
  | .list element => .object [("kind", .string "list"), ("of", element.toJson)]
  | ty => .object [("kind", .string ty.kindName)]

end Ty

def countJson (count : Nat) : Value :=
  .number (.integer count)

def textsJson (texts : List String) : Value :=
  .array (texts.map .string)

def Field.toJson (field : Field) : Value :=
  .object [
    ("property", .string field.property),
    ("name", .string field.name),
    ("ty", field.ty.toJson),
    ("present_in", countJson field.presentIn),
    ("null_in", countJson field.nullIn)]

def ClassDef.toJson (cls : ClassDef) : Value :=
  .object [
    ("name", .string cls.name),
    ("fields", .array (cls.fields.map Field.toJson)),
    ("seen_objects", countJson cls.seenObjects)]

def Diagnostic.toJson : Diagnostic → Value
  | .shapeMismatch className expected found => .object [
      ("type", .string "shape_mismatch"), ("class", .string className),
      ("expected", textsJson expected), ("found", textsJson found)]
  | .fieldCollision className field kept dropped => .object [
      ("type", .string "field_collision"), ("class", .string className),
      ("field", .string field), ("kept", .string kept), ("dropped", .string dropped)]
  | .typeConflict className field kept dropped => .object [
      ("type", .string "type_conflict"), ("class", .string className),
      ("field", .string field), ("kept", .string kept), ("dropped", .string dropped)]
  | .unresolved className field => .object [
      ("type", .string "unresolved"), ("class", .string className), ("field", .string field)]

def Model.toJson (model : Model) : Value :=
  .object [
    ("root", .string model.root),
    ("classes", .object (model.classes.map fun cls => (cls.name, cls.toJson))),
    ("diagnostics", .array (model.diagnostics.map Diagnostic.toJson))]

end Exemplar
