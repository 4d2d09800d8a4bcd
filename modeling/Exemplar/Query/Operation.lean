import Exemplar.Query.Filter
import Exemplar.Query.Results
import Exemplar.Text.Split

/-!
# Operations on values

Arithmetic, and the parts of a value. Null is neutral in a sum. Sums, differences and products of
integers are integers of 64 bits; a quotient never is one. A negative index counts from the end.
-/

namespace Exemplar.Query

namespace Value

def ofFloat (value : Float) : Value :=
  .number (.float value)

/-! ## Arithmetic -/

/-- A result of two numbers that is an integer if both are. -/
def calculateWith (integers : Int64 → Int64 → Int64) (floats : Float → Float → Float)
    (a b : Number) : Value :=
  match a, b with
  | .integer a, .integer b => .number (.integer (integers a b))
  | a, b => ofFloat (floats a.toFloat b.toFloat)

def add : Value → Value → Except Fault Value
  | .null, value | value, .null => .ok value
  | .number a, .number b => .ok (calculateWith (· + ·) (· + ·) a b)
  | .string a, .string b => .ok (.string (a ++ b))
  | .array as, .array bs => .ok (.array (as ++ bs))
  | .object as, .object bs => .ok (.object (mergeMembers as bs))
  | a, b => .error (.unfitOperands a Arithmetic.add.text b)

def subtract : Value → Value → Except Fault Value
  | .number a, .number b => .ok (calculateWith (· - ·) (· - ·) a b)
  | .array as, .array bs => .ok (.array (as.filter fun a => !bs.any (alike a)))
  | a, b => .error (.unfitOperands a Arithmetic.subtract.text b)

mutual

/-- The members of both, where objects under one key are merged in turn. -/
def mergeDeep (members : Members) : List (String × Value) → Members
  | [] => members
  | entry :: rest => mergeDeep (mergeEntry members entry) rest

def mergeEntry (members : Members) : String × Value → Members
  | (key, value) => setMember key (mergeUnder (members.lookup key) value) members

def mergeUnder (old : Option Value) : Value → Value
  | .object members =>
      match old with
      | some (.object others) => .object (mergeDeep others members)
      | _ => .object members
  | value => value

end

/-- A text a number of times over; null if there is none of it. -/
def repeated (text : String) (count : Int64) : Value :=
  if 0 < count then .string (String.join (List.replicate count.toNatClampNeg text)) else .null

def multiply : Value → Value → Except Fault Value
  | .number a, .number b => .ok (calculateWith (· * ·) (· * ·) a b)
  | .string text, .number (.integer count) | .number (.integer count), .string text =>
      .ok (repeated text count)
  | .object as, .object bs => .ok (.object (mergeDeep as bs))
  | a, b => .error (.unfitOperands a Arithmetic.multiply.text b)

def divide : Value → Value → Except Fault Value
  | .number a, .number b => .ok (ofFloat (a.toFloat / b.toFloat))
  | .string a, .string b => .ok (.array ((Text.split b a).map .string))
  | a, b => .error (.unfitOperands a Arithmetic.divide.text b)

/-- The exact remainder of a division towards zero, which has the sign of the dividend. -/
def floatRemainder (a b : Float) : Float :=
  if !a.isFinite || b.isNaN || b == 0.0 then 0.0 / 0.0
  else if !b.isFinite then a
  else
    let dividend := Decimal.Binary.ofBits (a.toBits.toNat % Decimal.signBit)
    let divisor := Decimal.Binary.ofBits (b.toBits.toNat % Decimal.signBit)
    let exponent := min dividend.exponent divisor.exponent
    let rest := dividend.mantissa * Nat.pow 2 (dividend.exponent - exponent).toNat
      % (divisor.mantissa * Nat.pow 2 (divisor.exponent - exponent).toNat)
    let size := (Float.ofNat rest).scaleB exponent
    if a < 0.0 then -size else size

def remainder : Value → Value → Except Fault Value
  | .number (.integer a), .number (.integer b) =>
      if b = 0 then
        .error (.unfitOperands (.number (.integer a)) Arithmetic.remainder.text
          (.number (.integer b)))
      else .ok (.number (.integer (a % b)))
  | .number a, .number b => .ok (ofFloat (floatRemainder a.toFloat b.toFloat))
  | a, b => .error (.unfitOperands a Arithmetic.remainder.text b)

def calculate : Arithmetic → Value → Value → Except Fault Value
  | .add => add
  | .subtract => subtract
  | .multiply => multiply
  | .divide => divide
  | .remainder => remainder

def negate : Value → Except Fault Value
  | .number (.integer value) => .ok (.number (.integer (-value)))
  | .number other => .ok (ofFloat (-other.toFloat))
  | value => .error (.mistyped value "number")

/-! ## Parts -/

/-- The place of an index in a list of a length, counted from the end if it is negative. -/
def place (index : Int) (length : Nat) : Int :=
  if index < 0 then index + length else index

def element? (index : Int) (elements : List Value) : Option Value :=
  let place := place index elements.length
  if place < 0 then none else elements[place.toNat]?

def index (value index : Value) : Except Fault Value :=
  match value, index with
  | .array elements, .number (.integer index) =>
      .ok ((element? index.toInt elements).getD .null)
  | .object members, .string key => .ok ((members.lookup key).getD .null)
  | .array _, _ | .object _, _ => .error (.unfitIndex value index)
  | _, _ => .error (.mistyped value "iterable (array or object)")

def children (value : Value) : Except Fault (List Value) :=
  match value with
  | .array elements => .ok elements
  | .object members => .ok (members.map (·.2))
  | value => .error (.mistyped value "iterable (array or object)")

/-- The keys of an object in their order, or the indexes of a list. -/
def keys (value : Value) : Except Fault (List Value) :=
  match value with
  | .array elements => .ok ((List.range elements.length).map ofNat)
  | .object members => .ok (members.map fun entry => .string entry.1)
  | value => .error (.mistyped value "iterable (array or object)")

def integer (value : Value) : Except Fault Int :=
  match value with
  | .number (.integer value) => .ok value.toInt
  | value => .error (.mistyped value "integer")

/-- A bound of a slice, cut to the length of the list. -/
def bound (length default : Nat) : Option Value → Except Fault Nat
  | none => .ok default
  | some value => do return min (place (← value.integer) length).toNat length

/-- Where a slice starts and how long it is. -/
def span (length : Nat) (start stop : Option Value) : Except Fault (Nat × Nat) := do
  let start ← bound length 0 start
  let stop ← bound length length stop
  return (start, stop - start)

def slice (value : Value) (start stop : Option Value) : Except Fault Value :=
  match value with
  | .array elements => do
      let (skipped, size) ← span elements.length start stop
      return .array ((elements.drop skipped).take size)
  | .string text => do
      let cs := text.toList
      let (skipped, size) ← span cs.length start stop
      return .string (String.ofList ((cs.drop skipped).take size))
  | value => .error (.mistyped value "rangeable (array or string)")

/-! ## Questions -/

def kindName : Value → String
  | .null => "null"
  | .bool _ => "boolean"
  | .number _ => "number"
  | .string _ => "string"
  | .array _ => "array"
  | .object _ => "object"

def length : Value → Except Fault Value
  | .null => .ok (ofNat 0)
  | .number (.integer value) => .ok (ofInt value.toInt.natAbs)
  | .number other => .ok (ofFloat other.toFloat.abs)
  | .string text => .ok (ofNat text.length)
  | .array elements => .ok (ofNat elements.length)
  | .object members => .ok (ofNat members.length)
  | value => .error (.ofText (value.text ++ " has no length"))

def has (value key : Value) : Except Fault Bool :=
  match value, key with
  | .array elements, .number (.integer index) =>
      if 0 ≤ index then .ok (decide (index.toInt < elements.length))
      else .error (.unfitIndex value key)
  | .object members, .string key => .ok (members.lookup key).isSome
  | _, _ => .error (.unfitIndex value key)

mutual

/-- Whether `value` contains the other: a text as a part, a list each element in one of its own, an
object each member under its key. -/
def contains (value : Value) : Value → Bool
  | .string other =>
      match value with
      | .string text => Text.occurs other text
      | _ => false
  | .array others =>
      match value with
      | .array elements => containsAll elements others
      | _ => false
  | .object others =>
      match value with
      | .object members => containsMembers members others
      | _ => false
  | other => alike value other

def containsAll (elements : List Value) : List Value → Bool
  | [] => true
  | other :: rest => elements.any (contains · other) && containsAll elements rest

def containsMembers (members : Members) : List (String × Value) → Bool
  | [] => true
  | entry :: rest => containsMember members entry && containsMembers members rest

def containsMember (members : Members) : String × Value → Bool
  | (key, other) =>
      match members.lookup key with
      | some value => contains value other
      | none => false

end

/-- The text of a value as it stands within another: a string without its quotes. -/
def plainText : Value → String
  | .string text => text
  | value => value.text

end Value

end Exemplar.Query
