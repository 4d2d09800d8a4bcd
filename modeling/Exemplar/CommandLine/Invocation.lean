/-!
# Invocations

What a command line asks for.
-/

namespace Exemplar.CommandLine

/-- Which document is looked at. -/
structure InputChoice where
  /-- The file of the document; a hyphen for the standard input. -/
  file : String
  /-- Selects a part of the document. -/
  jsonPointer : Option String
  /-- A query whose single result is looked at. -/
  jqExpr : Option String
  rootName : String
  deriving DecidableEq

/-- How an input is called in messages. -/
def InputChoice.label (input : InputChoice) : String :=
  if input.file = "-" then "<stdin>" else input.file

structure OptionChoice where
  /-- The file of the options. -/
  config : Option String
  fieldPrefix : Option String
  deriving DecidableEq

structure EmitChoice where
  options : OptionChoice
  builders : Bool
  /-- The directory of the sources; they are printed if there is none. -/
  out : Option String
  noOp : Bool
  deriving DecidableEq

inductive Command where
  /-- Prints the model, or writes it to a file. -/
  | model (input : InputChoice) (options : OptionChoice) (out : Option String) (noOp : Bool)
  | java (input : InputChoice) (emit : EmitChoice) (packageName : String) (alwaysExpose : Bool)
  | rust (input : InputChoice) (emit : EmitChoice) (modulePath : String)
  deriving DecidableEq

structure Invocation where
  verbose : Bool
  command : Command
  deriving DecidableEq

end Exemplar.CommandLine
