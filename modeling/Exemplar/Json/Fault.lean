/-!
# Faults of a JSON text

Why a text is no JSON value, and where. A place is kept as the number of bytes that were still
unread; line and column follow from the text. A column counts the bytes since the last line break,
and faults found by looking at a byte point behind it.
-/

namespace Exemplar.Json

inductive Fault.Cause where
  | endInList
  | endInObject
  | endInString
  | endInValue
  | expectedColon
  | expectedListSeparator
  | expectedObjectSeparator
  | expectedWord
  | expectedValue
  | invalidEscape
  | invalidNumber
  | numberOutOfRange
  | controlCharacter
  | keyNotString
  | loneSurrogate
  | trailingComma
  | trailingCharacters
  | unfinishedSurrogatePair
  | tooDeep
  /-- The text is JSON, but not of the form that its reader expects. -/
  | unfit (message : String)

structure Fault where
  cause : Fault.Cause
  /-- How many bytes of the text were unread. -/
  unread : Nat

def Fault.Cause.message : Fault.Cause → String
  | .endInList => "EOF while parsing a list"
  | .endInObject => "EOF while parsing an object"
  | .endInString => "EOF while parsing a string"
  | .endInValue => "EOF while parsing a value"
  | .expectedColon => "expected `:`"
  | .expectedListSeparator => "expected `,` or `]`"
  | .expectedObjectSeparator => "expected `,` or `\x7d`"
  | .expectedWord => "expected ident"
  | .expectedValue => "expected value"
  | .invalidEscape => "invalid escape"
  | .invalidNumber => "invalid number"
  | .numberOutOfRange => "number out of range"
  | .controlCharacter => "control character (\\u0000-\\u001F) found while parsing a string"
  | .keyNotString => "key must be a string"
  | .loneSurrogate => "lone leading surrogate in hex escape"
  | .trailingComma => "trailing comma"
  | .trailingCharacters => "trailing characters"
  | .unfinishedSurrogatePair => "unexpected end of hex escape"
  | .tooDeep => "recursion limit exceeded"
  | .unfit message => message

/-- The length of a text in bytes. -/
def byteCount (cs : List Char) : Nat :=
  cs.foldr (fun c count => c.utf8Size + count) 0

/-- Line (from one) and column (bytes since the last line break) of the place `offset` bytes into a
text, where the text is `line`, `column` bytes in. -/
def positionFrom (line column : Nat) : List Char → Nat → Nat × Nat
  | _, 0 => (line, column)
  | [], _ => (line, column)
  | c :: rest, offset@(_ + 1) =>
      if offset < c.utf8Size then (line, column + offset)
      else if c = '\n' then positionFrom (line + 1) 0 rest (offset - 1)
      else positionFrom line (column + c.utf8Size) rest (offset - c.utf8Size)

/-- Line and column of a fault in the text. -/
def Fault.position (fault : Fault) (text : List Char) : Nat × Nat :=
  positionFrom 1 0 text (byteCount text - fault.unread)

/-- The message with the place of the fault. -/
def Fault.describe (fault : Fault) (text : List Char) : String :=
  let place := fault.position text
  fault.cause.message ++ " at line " ++ toString place.1 ++ " column " ++ toString place.2

end Exemplar.Json
