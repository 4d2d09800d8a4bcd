import Exemplar.Failure
import Exemplar.Json.Printer
import Exemplar.Json.Reader
import Exemplar.Options.Basic

/-!
# Reading options

Options are read from JSON text, straight into their fields: from an object whose keys are the
options, each at most once, or from a list that gives them in order. What is left out keeps its
default. A fault tells the way to the value at which it came up. Only the first value of the text is
looked at.
-/

namespace Exemplar

open Json

inductive OptionField where
  | fieldPrefix
  | generateBuilders
  | alwaysAnnotateExpose
  | target
  | generatedBy
  deriving DecidableEq

namespace OptionField

def name : OptionField → String
  | .fieldPrefix => "field_prefix"
  | .generateBuilders => "generate_builders"
  | .alwaysAnnotateExpose => "always_annotate_expose"
  | .target => "target"
  | .generatedBy => "generated_by"

/-- The options in the order of a list. -/
def all : List OptionField :=
  [.fieldPrefix, .generateBuilders, .alwaysAnnotateExpose, .target, .generatedBy]

def ofName? (name : String) : Option OptionField :=
  all.find? (·.name == name)

end OptionField

namespace OptionsReader

/-- A step of the way to a value. -/
inductive Segment where
  | key (name : String)
  | index (position : Nat)
  /-- A key that could not be read. -/
  | unreadable

/-- A fault and the way to it. -/
structure ConfigFault where
  way : List Segment
  fault : Fault

def Segment.text : Segment → String
  | .key name => name
  | .index position => "[" ++ toString position ++ "]"
  | .unreadable => "?"

/-- The steps behind the first. A point stands before each that is no index. -/
def restText : List Segment → String
  | [] => ""
  | .index position :: rest => (Segment.index position).text ++ restText rest
  | segment :: rest => "." ++ segment.text ++ restText rest

/-- A way as text; a single point where there is no step. -/
def wayText : List Segment → String
  | [] => "."
  | segment :: rest => segment.text ++ restText rest

/-- A fault at the value itself. -/
def atRoot {α : Type} (result : Except Fault α) : Except ConfigFault α :=
  result.mapError fun fault => ⟨[], fault⟩

/-- A fault one step further from the root. -/
def under {α : Type} (segment : Segment) (result : Except ConfigFault α) :
    Except ConfigFault α :=
  result.mapError fun fault => { fault with way := segment :: fault.way }

def codeQuoted (text : String) : String :=
  "`" ++ text ++ "`"

def describeNumber : Number → String
  | .integer value => "integer " ++ codeQuoted (toString value)
  | .float value => "floating point " ++ codeQuoted (printFloat value)

/-- The fault of a value that is not of the expected kind. Scalars are read to their end first. -/
def unfitValue (expected : String) (text : List Char) : Fault :=
  let unfit (found : String) (rest : List Char) : Fault :=
    faultHere (.unfit ("invalid type: " ++ found ++ ", expected " ++ expected)) rest
  let word (letters : List Char) (found : String) (rest : List Char) : Fault :=
    match readWord letters rest with
    | .ok rest => unfit found rest
    | .error fault => fault
  let number (result : Except Fault (Number × List Char)) : Fault :=
    match result with
    | .ok (number, rest) => unfit (describeNumber number) rest
    | .error fault => fault
  match text with
  | [] => faultPast .endInValue []
  | c :: rest =>
      if c = 'n' then word ['u', 'l', 'l'] "null" rest
      else if c = 't' then word ['r', 'u', 'e'] ("boolean " ++ codeQuoted "true") rest
      else if c = 'f' then word ['a', 'l', 's', 'e'] ("boolean " ++ codeQuoted "false") rest
      else if c = '-' then number (readNumber true rest)
      else if c.isDigit then number (readNumber false text)
      else if c = '"' then
        match readString rest with
        | .ok (value, rest) => unfit ("string " ++ Text.shown value) rest
        | .error fault => fault
      else if c = '[' then unfit "sequence" text
      else if c = '\x7b' then unfit "map" text
      else faultPast .expectedValue text

def readStringOf (expected : String) (text : List Char) : Except Fault (String × List Char) :=
  match skipBlanks text with
  | '"' :: rest => readString rest
  | text => .error (unfitValue expected text)

def readBool (text : List Char) : Except Fault (Bool × List Char) :=
  match skipBlanks text with
  | 't' :: rest => do return (true, ← readWord ['r', 'u', 'e'] rest)
  | 'f' :: rest => do return (false, ← readWord ['a', 'l', 's', 'e'] rest)
  | text => .error (unfitValue "a boolean" text)

def readNull (text : List Char) : Except Fault (List Char) :=
  match skipBlanks text with
  | 'n' :: rest => readWord ['u', 'l', 'l'] rest
  | text => .error (unfitValue "unit" text)

/-- A list of alternatives for a message about two of them. -/
def targetNames : List (String × Target) :=
  [("java", .java), ("rust", .rust)]

/-- Reads the name of a target language. -/
def readTargetName (text : List Char) : Except Fault ((String × Target) × List Char) := do
  let (name, rest) ← readStringOf "variant identifier" text
  match targetNames.lookup name with
  | some target => return ((name, target), rest)
  | none =>
      throw (faultHere
        (.unfit ("unknown variant " ++ codeQuoted name ++ ", expected `java` or `rust`")) rest)

/-- Reads a target language: its name, or an object with its name as the only key, over null. -/
def readTarget (text : List Char) : Except ConfigFault (Target × List Char) :=
  match skipBlanks text with
  | [] => atRoot (.error (faultPast .endInValue []))
  | text@('"' :: _) => atRoot do
      let ((_, target), rest) ← readTargetName text
      return (target, rest)
  | '\x7b' :: rest => do
      let ((name, target), rest) ← atRoot (readTargetName rest)
      let rest ← atRoot (readColon rest)
      let rest ← under (.key name) (atRoot (readNull rest))
      match skipBlanks rest with
      | '\x7d' :: rest => return (target, rest)
      | [] => atRoot (.error (faultHere .endInObject []))
      | rest => atRoot (.error (faultHere .expectedValue rest))
  | text => atRoot (.error (faultPast .expectedValue text))

/-- Reads the value of an option. -/
def readField (field : OptionField) (options : Options) (text : List Char) :
    Except ConfigFault (Options × List Char) := do
  match field with
  | .fieldPrefix =>
      let (value, rest) ← atRoot (readStringOf "a string" text)
      return ({ options with fieldPrefix := value }, rest)
  | .generateBuilders =>
      let (value, rest) ← atRoot (readBool text)
      return ({ options with generateBuilders := value }, rest)
  | .alwaysAnnotateExpose =>
      let (value, rest) ← atRoot (readBool text)
      return ({ options with alwaysAnnotateExpose := value }, rest)
  | .target =>
      let (value, rest) ← readTarget text
      return ({ options with target := value }, rest)
  | .generatedBy =>
      let (value, rest) ← atRoot (readStringOf "a string" text)
      return ({ options with generatedBy := value }, rest)

/-- The text behind an object that is given up: the blanks, and the end of the object if it is
there. -/
def giveUp (text : List Char) : List Char :=
  match skipBlanks text with
  | '\x7d' :: rest => rest
  | rest => rest

def unknownField (key : String) : Fault.Cause :=
  .unfit ("unknown field " ++ codeQuoted key ++ ", expected one of "
    ++ ", ".intercalate (OptionField.all.map fun field => codeQuoted field.name))

def duplicateField (field : OptionField) : Fault.Cause :=
  .unfit ("duplicate field " ++ codeQuoted field.name)

/-- Reads the members of an object of options, where those in `seen` were given before. Each takes
more than one character, so the length of the text is `fuel` enough. -/
def readMembers (fuel : Nat) (seen : List OptionField) (options : Options) (text : List Char) :
    Except ConfigFault (Options × List Char) :=
  match fuel with
  | 0 => atRoot (.error (faultPast .tooDeep text))
  | fuel + 1 => do
      match ← under .unreadable (atRoot (readObjectSeparator seen.isEmpty text)) with
      | none => return (options, (skipBlanks text).drop 1)
      | some text =>
          let (key, text) ← under .unreadable (atRoot (readString text))
          match OptionField.ofName? key with
          | none => throw ⟨[.key key], faultHere (unknownField key) (giveUp text)⟩
          | some field =>
              if seen.contains field then
                throw ⟨[], faultHere (duplicateField field) (giveUp text)⟩
              let text ← atRoot (readColon text)
              let (options, text) ← under (.key key) (readField field options text)
              readMembers fuel (field :: seen) options text

/-- Reads the options that a list gives, from the one at an index on. -/
def readElements (index : Nat) (options : Options) (text : List Char) :
    List OptionField → Except ConfigFault (Options × List Char)
  | [] => return (options, text)
  | field :: fields => do
      match ← atRoot (readListSeparator (index == 0) text) with
      | none => return (options, text)
      | some text =>
          let (options, text) ← under (.index index) (readField field options text)
          readElements (index + 1) options text fields

/-- Reads options from the front of a text. -/
def read (text : List Char) : Except ConfigFault (Options × List Char) :=
  match skipBlanks text with
  | [] => atRoot (.error (faultPast .endInValue []))
  | '\x7b' :: rest => readMembers (rest.length + 1) [] {} rest
  | '[' :: rest => do
      let (options, rest) ← readElements 0 {} rest OptionField.all
      let rest ← atRoot (readListEnd rest)
      return (options, rest)
  | text => atRoot (.error (unfitValue "struct GenerateOptions" text))

end OptionsReader

/-- The options that a JSON text gives. -/
def Options.ofJson (text : String) : Except Failure Options :=
  match OptionsReader.read text.toList with
  | .ok (options, _) => .ok options
  | .error fault =>
      .error (.config (OptionsReader.wayText fault.way) (fault.fault.describe text.toList))

end Exemplar
