import Exemplar.CommandLine.Invocation
import Exemplar.Path

/-!
# Invocations shown

The text of an invocation as it was read, one field on a line. It is shown in place of a run that is
to do nothing.
-/

namespace Exemplar.CommandLine

/-- A value with named parts or with one part. -/
inductive Shown where
  | word (text : String)
  | wrapped (name : String) (inner : Shown)
  | record (name : String) (fields : List (String × Shown))

namespace Shown

/-- A line break and four blanks for each level. -/
def newLine (depth : Nat) : String :=
  "\n" ++ String.ofList (List.replicate (4 * depth) ' ')

mutual

/-- The text of a value at a depth. -/
def text (depth : Nat) : Shown → String
  | .word text => text
  | .wrapped name inner =>
      name ++ "(" ++ newLine (depth + 1) ++ inner.text (depth + 1) ++ "," ++ newLine depth ++ ")"
  | .record name fields =>
      name ++ " \x7b" ++ fieldsText (depth + 1) fields ++ newLine depth ++ "\x7d"

def fieldsText (depth : Nat) : List (String × Shown) → String
  | [] => ""
  | field :: rest => newLine depth ++ fieldText depth field ++ "," ++ fieldsText depth rest

def fieldText (depth : Nat) : String × Shown → String
  | (name, value) => name ++ ": " ++ value.text depth

end

def ofText (text : String) : Shown :=
  .word (Text.shown text)

def ofPath (text : String) : Shown :=
  .word (Path.shown ⟨text⟩)

def ofBool (value : Bool) : Shown :=
  .word (toString value)

def ofOption (show? : String → Shown) : Option String → Shown
  | none => .word "None"
  | some value => .wrapped "Some" (show? value)

end Shown

open Shown

def InputChoice.shown (input : InputChoice) : Shown :=
  .record "InputSettings" [
    ("input", ofText input.file),
    ("json_pointer", ofOption ofText input.jsonPointer),
    ("jq_expr", ofOption ofText input.jqExpr),
    ("root_name", ofText input.rootName)]

def OptionChoice.shown (choice : OptionChoice) : Shown :=
  .record "OptionSettings" [
    ("config", ofOption ofPath choice.config),
    ("prefix", ofOption ofText choice.fieldPrefix)]

def EmitChoice.shown (choice : EmitChoice) : Shown :=
  .record "EmitSettings" [
    ("options", choice.options.shown),
    ("builders", ofBool choice.builders),
    ("out", ofOption ofPath choice.out),
    ("no_op", ofBool choice.noOp)]

def Command.shown : Command → Shown
  | .model input options out noOp => .wrapped "Model" (.record "ModelOut" [
      ("input_settings", input.shown),
      ("options", options.shown),
      ("out", ofOption ofPath out),
      ("no_op", ofBool noOp)])
  | .java input emit packageName alwaysExpose => .wrapped "Java" (.record "JavaOut" [
      ("input_settings", input.shown),
      ("emit", emit.shown),
      ("package", ofText packageName),
      ("always_expose", ofBool alwaysExpose)])
  | .rust input emit modulePath => .wrapped "Rust" (.record "RustOut" [
      ("input_settings", input.shown),
      ("emit", emit.shown),
      ("module", ofText modulePath)])

def Invocation.shown (invocation : Invocation) : Shown :=
  .record "CommandLineInterface" [
    ("verbose", ofBool invocation.verbose),
    ("cmd", invocation.command.shown)]

end Exemplar.CommandLine
