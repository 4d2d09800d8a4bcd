import Exemplar.Json.Fault
import Exemplar.Json.Value

/-!
# Tokens of a JSON text

Reading the parts of JSON that hold no other value: blanks, words, strings and numbers. A reader
takes the unread text and gives what it read with the text behind it, or a fault.
-/

namespace Exemplar.Json

/-- A fault at the next byte. -/
def faultHere (cause : Fault.Cause) (unread : List Char) : Fault :=
  ⟨cause, byteCount unread⟩

/-- A fault one byte further on, or at the end of the text. -/
def faultPast (cause : Fault.Cause) (unread : List Char) : Fault :=
  ⟨cause, byteCount unread - 1⟩

def isBlank (c : Char) : Bool :=
  c = ' ' || c = '\n' || c = '\t' || c = '\r'

def skipBlanks (text : List Char) : List Char :=
  text.dropWhile isBlank

/-- Reads the rest of a word such as `null`. -/
def readWord : List Char → List Char → Except Fault (List Char)
  | [], text => .ok text
  | _ :: _, [] => .error (faultHere .endInValue [])
  | expected :: word, text@(c :: rest) =>
      if c = expected then readWord word rest else .error (faultPast .expectedWord text)

def hexDigit? (c : Char) : Option Nat :=
  if '0' ≤ c ∧ c ≤ '9' then some (c.toNat - '0'.toNat)
  else if 'a' ≤ c ∧ c ≤ 'f' then some (c.toNat - 'a'.toNat + 10)
  else if 'A' ≤ c ∧ c ≤ 'F' then some (c.toNat - 'A'.toNat + 10)
  else none

/-- Reads four hexadecimal digits. Where four bytes are left that are no such digits, the fault lies
behind them. -/
def readHex4 (text : List Char) : Except Fault (Nat × List Char) :=
  if byteCount text < 4 then .error (faultHere .endInString [])
  else
    match text with
    | a :: b :: c :: d :: rest =>
        match hexDigit? a, hexDigit? b, hexDigit? c, hexDigit? d with
        | some a, some b, some c, some d => .ok (((a * 16 + b) * 16 + c) * 16 + d, rest)
        | _, _, _, _ => .error ⟨.invalidEscape, byteCount text - 4⟩
    | _ => .error ⟨.invalidEscape, byteCount text - 4⟩

/-- Reads one character of the escape that completes a surrogate pair. -/
def readPairMark (mark : Char) : List Char → Except Fault (List Char)
  | [] => .error (faultHere .endInString [])
  | text@(c :: rest) =>
      if c = mark then .ok rest else .error (faultPast .unfinishedSurrogatePair text)

/-- Reads the digits of a `\u` escape, and a second escape where the first is half of a pair. -/
def readUnicodeEscape (text : List Char) : Except Fault (Char × List Char) := do
  let (unit, text) ← readHex4 text
  if 0xDC00 ≤ unit ∧ unit ≤ 0xDFFF then .error (faultHere .loneSurrogate text)
  else if unit < 0xD800 ∨ 0xDFFF < unit then .ok (Char.ofNat unit, text)
  else
    let text ← readPairMark '\\' text
    let text ← readPairMark 'u' text
    let (low, text) ← readHex4 text
    if 0xDC00 ≤ low ∧ low ≤ 0xDFFF then
      .ok (Char.ofNat (0x10000 + (unit - 0xD800) * 0x400 + (low - 0xDC00)), text)
    else .error (faultHere .loneSurrogate text)

/-- The character that a one-letter escape stands for. -/
def simpleEscape? : Char → Option Char
  | '"' => some '"'
  | '\\' => some '\\'
  | '/' => some '/'
  | 'b' => some '\x08'
  | 'f' => some '\x0C'
  | 'n' => some '\n'
  | 'r' => some '\r'
  | 't' => some '\t'
  | _ => none

/-- Reads an escape behind its backslash. -/
def readEscape : List Char → Except Fault (Char × List Char)
  | [] => .error (faultHere .endInString [])
  | 'u' :: text => readUnicodeEscape text
  | text@(c :: rest) =>
      match simpleEscape? c with
      | some escaped => .ok (escaped, rest)
      | none => .error (faultPast .invalidEscape text)

/-- Reads a string behind its opening quote. Each step takes a character or more off the text, so
`fuel` need not exceed its length. -/
def readStringFrom : Nat → List Char → Except Fault (List Char × List Char)
  | 0, _ => .error (faultHere .endInString [])
  | _, [] => .error (faultHere .endInString [])
  | fuel + 1, c :: text =>
      if c = '"' then .ok ([], text)
      else if c = '\\' then do
        let (escaped, text) ← readEscape text
        let (rest, text) ← readStringFrom fuel text
        .ok (escaped :: rest, text)
      else if c.toNat < 0x20 then .error (faultHere .controlCharacter text)
      else do
        let (rest, text) ← readStringFrom fuel text
        .ok (c :: rest, text)

/-- Reads a string behind its opening quote. -/
def readString (text : List Char) : Except Fault (String × List Char) := do
  let (cs, text) ← readStringFrom (text.length + 1) text
  .ok (String.ofList cs, text)

/-! ## Numbers -/

def digitValue (c : Char) : Nat :=
  c.toNat - '0'.toNat

/-- The greatest unsigned word; a run of digits is collected exactly as long as it does not pass
this. -/
def wordLimit : Nat := 0xFFFFFFFFFFFFFFFF

/-- The digits of a number read so far: its sign, the digits collected in one word, and the power
of ten by which that word is to be multiplied. -/
structure Decimal where
  negative : Bool
  digits : Nat
  exponent : Int

/-- The powers of ten that a binary64 is multiplied or divided by in one step. -/
def stepLimit : Nat := 308

/-- The value of a word times a power of ten, where the power is taken in steps of at most
`10³⁰⁸`; none where the value is infinite. `fuel` bounds the steps. -/
def scale (fuel : Nat) (value : Float) (exponent : Int) : Option Float :=
  if exponent.natAbs ≤ stepLimit then
    if 0 ≤ exponent then
      let scaled := value * Float.ofScientific 1 false exponent.natAbs
      if scaled.isInf then none else some scaled
    else some (value / Float.ofScientific 1 false exponent.natAbs)
  else if value == 0.0 then some value
  else if 0 ≤ exponent then none
  else
    match fuel with
    | 0 => some 0.0
    | fuel + 1 => scale fuel (value / 1e308) (exponent + 308)

/-- The binary64 of a decimal. The digits are rounded first, then the power of ten is applied, with
a rounding for each step. -/
def Decimal.toFloat? (decimal : Decimal) : Option Float :=
  (scale 8 (Float.ofNat decimal.digits) decimal.exponent).map
    fun value => if decimal.negative then -value else value

/-- Reads digits into the word as long as it holds them. -/
def readDigits (digits : Nat) : List Char → Nat × List Char
  | [] => (digits, [])
  | c :: text =>
      if c.isDigit ∧ digits * 10 + digitValue c ≤ wordLimit then
        readDigits (digits * 10 + digitValue c) text
      else (digits, c :: text)

def startsWithDigit : List Char → Bool
  | c :: _ => c.isDigit
  | [] => false

/-- The number of a finished decimal. -/
def finishFloat (decimal : Decimal) (text : List Char) : Except Fault (Number × List Char) :=
  match decimal.toFloat? with
  | some value => .ok (.float value, text)
  | none => .error (faultHere .numberOutOfRange text)

/-- The greatest exponent that is read exactly. -/
def exponentLimit : Nat := 0x7FFFFFFF

/-- Reads the digits of an exponent, as long as it does not pass its limit. -/
def readExponentDigits (value : Nat) : List Char → Nat × List Char
  | [] => (value, [])
  | c :: text =>
      if c.isDigit ∧ value * 10 + digitValue c ≤ exponentLimit then
        readExponentDigits (value * 10 + digitValue c) text
      else (value, c :: text)

/-- Reads an exponent behind its `e`. -/
def readExponent (decimal : Decimal) (text : List Char) : Except Fault (Number × List Char) :=
  let (negative, text) :=
    match text with
    | '+' :: rest => (false, rest)
    | '-' :: rest => (true, rest)
    | _ => (false, text)
  match text with
  | [] => .error (faultHere .endInValue [])
  | c :: rest =>
      if !c.isDigit then .error (faultPast .invalidNumber text)
      else
        let (value, rest) := readExponentDigits (digitValue c) rest
        if startsWithDigit rest then
          if decimal.digits ≠ 0 ∧ !negative then
            .error (faultHere .numberOutOfRange (rest.drop 1))
          else .ok (.float (if decimal.negative then -0.0 else 0.0), rest.dropWhile Char.isDigit)
        else
          let shift : Int := if negative then -(value : Int) else value
          finishFloat { decimal with exponent := decimal.exponent + shift } rest

def readOptionalExponent (decimal : Decimal) (text : List Char) :
    Except Fault (Number × List Char) :=
  match text with
  | 'e' :: rest | 'E' :: rest => readExponent decimal rest
  | _ => finishFloat decimal text

/-- Reads a fraction behind its point. Digits that the word no longer holds are dropped. -/
def readFraction (decimal : Decimal) (text : List Char) : Except Fault (Number × List Char) :=
  let (digits, rest) := readDigits decimal.digits text
  if startsWithDigit text then
    let places : Int := text.length - rest.length
    readOptionalExponent
      { decimal with digits, exponent := decimal.exponent - places } (rest.dropWhile Char.isDigit)
  else
    match text with
    | [] => .error (faultPast .endInValue [])
    | _ => .error (faultPast .invalidNumber text)

/-- Reads what may follow the digits of an integer. -/
def readAfterInteger (decimal : Decimal) (exact : Bool) (text : List Char) :
    Except Fault (Number × List Char) :=
  match text with
  | '.' :: rest => readFraction decimal rest
  | 'e' :: rest | 'E' :: rest => readExponent decimal rest
  | _ =>
      if !exact then finishFloat decimal text
      else if !decimal.negative then .ok (.integer decimal.digits, text)
      else if 0 < decimal.digits ∧ decimal.digits ≤ 0x8000000000000000 then
        .ok (.integer (-(decimal.digits : Int)), text)
      else .ok (.float (-Float.ofNat decimal.digits), text)

/-- Reads a number behind its sign. The digits that a word no longer holds only raise the power of
ten, and make the number a binary64. -/
def readNumber (negative : Bool) (text : List Char) : Except Fault (Number × List Char) :=
  match text with
  | [] => .error (faultHere .endInValue [])
  | c :: rest =>
      if c = '0' then
        if startsWithDigit rest then .error (faultPast .invalidNumber rest)
        else readAfterInteger ⟨negative, 0, 0⟩ true rest
      else if c.isDigit then
        let (digits, behind) := readDigits (digitValue c) rest
        let surplus := behind.takeWhile Char.isDigit
        readAfterInteger ⟨negative, digits, surplus.length⟩ surplus.isEmpty
          (behind.drop surplus.length)
      else .error (faultPast .invalidNumber text)

end Exemplar.Json
