import Exemplar.CommandLine.Invocation
import Exemplar.CommandLine.Setting
import Exemplar.Text.Pieces

/-!
# Reading the command line

The arguments are read one by one: settings first, then the name of a command, then its settings. A
setting is taken in as soon as the next one comes up or the arguments end; so of two faults the one
that shows first counts.
-/

namespace Exemplar.CommandLine

/-- Why there is no invocation: the arguments ask for a text instead, or they are wrong. -/
inductive Refusal where
  | help
  | version
  /-- There are no arguments at all. -/
  | noArguments
  | missingCommand
  | unknownCommand
  | unknownArgument
  /-- A value is missing, or empty where it must not be. -/
  | missingValue
  | repeatedSetting
  /-- There is a value where none is taken. -/
  | surplusValue
  | missingInput
  deriving DecidableEq

/-- What the program ends with. -/
def Refusal.exitCode : Refusal → UInt32
  | .help | .version => 0
  | _ => 2

/-- An argument by its form. -/
inductive Argument where
  /-- Two hyphens: what follows is no setting. -/
  | separator
  | long (name : String) (value : Option String)
  | letters (letters : List Char)
  | word (text : String)

/-- A long name and what follows its equals sign. -/
def Argument.ofLong (text : List Char) : Argument :=
  match text.dropWhile (· ≠ '=') with
  | [] => .long (String.ofList text) none
  | _ :: value => .long (String.ofList (text.takeWhile (· ≠ '='))) (some (String.ofList value))

def Argument.ofText (text : String) : Argument :=
  match text.toList with
  | ['-', '-'] => .separator
  | '-' :: '-' :: rest => .ofLong rest
  | ['-'] => .word text
  | '-' :: rest => .letters rest
  | _ => .word text

/-- How far the arguments of one level are read. -/
structure Reading where
  given : List (Setting × String) := []
  /-- The last setting that takes a value, and the value if it was read. -/
  pending : Option (Setting × Option String) := none
  separated : Bool := false

namespace Reading

def has (reading : Reading) (setting : Setting) : Bool :=
  (reading.given.lookup setting).isSome

def record (setting : Setting) (value : String) (reading : Reading) : Except Refusal Reading :=
  if reading.has setting then .error .repeatedSetting
  else if setting.isPath && value.isEmpty then .error .missingValue
  else .ok { reading with given := reading.given ++ [(setting, value)] }

/-- Takes in the setting that is pending. -/
def settle (reading : Reading) : Except Refusal Reading :=
  match reading.pending with
  | none => .ok reading
  | some (_, none) => .error .missingValue
  | some (setting, some value) => { reading with pending := none }.record setting value

/-- Takes in a setting without a value. -/
def switchOn (setting : Setting) (reading : Reading) : Except Refusal Reading := do
  let reading ← reading.settle
  match setting with
  | .help => throw .help
  | .version => throw .version
  | setting => reading.record setting ""

/-- Takes in a setting with the value that is attached to it, or waits for its value. -/
def assign (setting : Setting) (value : Option String) (reading : Reading) :
    Except Refusal Reading := do
  let reading ← reading.settle
  match value with
  | some value => reading.record setting value
  | none => return { reading with pending := some (setting, none) }

def readLong (settings : List Setting) (name : String) (value : Option String)
    (reading : Reading) : Except Refusal Reading :=
  match settings.find? (·.longName == name) with
  | none => .error .unknownArgument
  | some setting =>
      if setting.takesValue then reading.assign setting value
      else if value.isSome then .error .surplusValue
      else reading.switchOn setting

/-- The value that is attached to a letter: what follows it, but for an equals sign. -/
def attachedValue? : List Char → Option String
  | [] => none
  | '=' :: value => some (String.ofList value)
  | value => some (String.ofList value)

/-- Reads letters. All but the last stand for settings without a value, unless a value follows. -/
def readLetters (settings : List Setting) : List Char → Reading → Except Refusal Reading
  | [], reading => .ok reading
  | letter :: rest, reading =>
      match settings.find? (·.letter? == some letter) with
      | none => .error .unknownArgument
      | some setting =>
          if setting.takesValue then reading.assign setting (attachedValue? rest)
          else do readLetters settings rest (← reading.switchOn setting)

/-- Reads a word, which is the value of the pending setting. -/
def readWord (text : String) (reading : Reading) : Except Refusal Reading :=
  match reading.pending with
  | some (setting, none) => .ok { reading with pending := some (setting, some text) }
  | _ => .error .unknownArgument

def readArgument (settings : List Setting) (argument : Argument) (reading : Reading) :
    Except Refusal Reading :=
  match argument with
  | .separator => .ok { reading with separated := true }
  | .long name value => reading.readLong settings name value
  | .letters letters => readLetters settings letters reading
  | .word text => reading.readWord text

/-- Reads the arguments of a command. -/
def readAll (settings : List Setting) : List String → Reading → Except Refusal Reading
  | [], reading => reading.settle
  | argument :: rest, reading =>
      if reading.separated then .error .unknownArgument
      else do readAll settings rest (← reading.readArgument settings (.ofText argument))

/-! ## What was read -/

def value? (reading : Reading) (setting : Setting) : Option String :=
  reading.given.lookup setting

def inputChoice (reading : Reading) : Except Refusal InputChoice :=
  match reading.value? .input with
  | none => .error .missingInput
  | some file =>
      .ok {
        file
        jsonPointer := reading.value? .jsonPointer
        jqExpr := reading.value? .jqExpr
        rootName := (reading.value? .rootName).getD "Root" }

def options (reading : Reading) : OptionChoice where
  config := reading.value? .config
  fieldPrefix := reading.value? .fieldPrefix

def emit (reading : Reading) : EmitChoice where
  options := reading.options
  builders := reading.has .builders
  out := reading.value? .out
  noOp := reading.has .noOp

def command (name : CommandName) (reading : Reading) : Except Refusal Command := do
  let input ← reading.inputChoice
  match name with
  | .model => return .model input reading.options (reading.value? .out) (reading.has .noOp)
  | .java =>
      return .java input reading.emit ((reading.value? .packageName).getD "")
        (reading.has .alwaysExpose)
  | .rust => return .rust input reading.emit ((reading.value? .modulePath).getD "")

end Reading

/-- Why there is no command among the arguments. -/
def absentCommand (reading : Reading) : Refusal :=
  if reading.given.isEmpty then .noArguments else .missingCommand

/-- What asking for help comes to, with the names of the commands that it is about. -/
def helpAbout : List String → Refusal
  | [] => .help
  | [name] => if name = "help" ∨ (CommandName.ofText? name).isSome then .help else .unknownCommand
  | _ => .unknownCommand

/-- Reads a command with what was given before it. -/
def readCommand (leading : Reading) (name : CommandName) (arguments : List String) :
    Except Refusal Invocation := do
  let reading ← Reading.readAll name.settings arguments {}
  let command ← reading.command name
  return ⟨leading.has .verbose || reading.has .verbose, command⟩

def isCommandName (text : String) : Bool :=
  text = "help" || (CommandName.ofText? text).isSome

/-- Reads arguments that may still have settings before the command. -/
def readLeading (reading : Reading) : List String → Except Refusal Invocation
  | [] => do throw (absentCommand (← reading.settle))
  | argument :: rest =>
      if reading.separated then
        .error (if isCommandName argument then .unknownArgument else .unknownCommand)
      else if argument = "help" then .error (helpAbout rest)
      else
        match CommandName.ofText? argument, Argument.ofText argument with
        | some name, _ => readCommand reading name rest
        | none, .word _ => .error .unknownCommand
        | none, form => do readLeading (← reading.readArgument leadingSettings form) rest

/-- The invocation that arguments spell. -/
def Invocation.ofArguments (arguments : List String) : Except Refusal Invocation :=
  readLeading {} arguments

end Exemplar.CommandLine
