import Exemplar.Json.Printer

/-!
# Values of queries

The values that a query takes in and gives out. Numbers that were read keep their spelling until
they are calculated with; only integers of 64 bits are numbers of their own kind. All values are
ordered: null, false, true, numbers, strings, arrays, objects.
-/

namespace Exemplar.Query

inductive Number where
  | integer (value : Int64)
  | float (value : Float)
  /-- A number as it was spelled. -/
  | literal (text : String)

inductive Value where
  | null
  | bool (value : Bool)
  | number (value : Number)
  | string (value : String)
  | array (elements : List Value)
  | object (members : List (String × Value))

instance : Inhabited Value := ⟨.null⟩

abbrev Members := List (String × Value)

/-! ## Numbers -/

namespace Number

/-- No binary64 that is finite and not zero has an exponent beyond this. -/
def exponentLimit : Nat := 400

/-- The binary64 nearest to `digits · 10 ^ exponent`. -/
def floatOf (digits : Nat) (exponent : Int) : Float :=
  let width := (Nat.toDigits 10 digits).length
  if digits = 0 ∨ exponent < -((exponentLimit + width : Nat) : Int) then 0.0
  else if (exponentLimit : Int) < exponent then 1.0 / 0.0
  else Float.ofScientific digits (exponent < 0) exponent.natAbs

def natOf (digits : List Char) : Nat :=
  digits.foldl (fun value c => value * 10 + (c.toNat - '0'.toNat)) 0

/-- The value of an exponent with its sign. -/
def exponentOf : List Char → Int
  | '-' :: digits => -(natOf digits : Int)
  | '+' :: digits => natOf digits
  | digits => natOf digits

/-- The binary64 nearest to a decimal with fraction and exponent. -/
def floatOfChars (text : List Char) : Float :=
  let (negative, text) :=
    match text with
    | '-' :: rest => (true, rest)
    | _ => (false, text)
  let whole := text.takeWhile Char.isDigit
  let rest := text.dropWhile Char.isDigit
  let fraction := if rest.head? = some '.' then (rest.drop 1).takeWhile Char.isDigit else []
  let rest := if rest.head? = some '.' then (rest.drop 1).dropWhile Char.isDigit else rest
  let value := floatOf (natOf (whole ++ fraction)) (exponentOf (rest.drop 1) - fraction.length)
  if negative then -value else value

def toFloat : Number → Float
  | .integer value => value.toFloat
  | .float value => value
  | .literal text => floatOfChars text.toList

/-- Computed floats have a point for exponents from -4 to 15. -/
def format : Decimal.Format where
  positionalFrom := -4
  positionalTo := 15
  plusSign := false
  exponentDigits := 1

def text : Number → String
  | .integer value => toString value
  | .float value => if value.isFinite then format.write value else "null"
  | .literal text => text

/-- The integer of a value, if it has 64 bits. -/
def ofInt? (value : Int) : Option Number :=
  if Int64.minValue.toInt ≤ value ∧ value ≤ Int64.maxValue.toInt then
    some (.integer (Int64.ofInt value))
  else none

/-- The number that decimal digits with fraction and exponent spell. -/
def ofText (text : String) : Number :=
  match text.toInt?.bind ofInt? with
  | some number => number
  | none => .literal text

def ofJson : Json.Number → Number
  | .integer value => (ofInt? value).getD (.literal (toString value))
  | .float value => .literal (Json.printFloat value)

/-- The order of floats: zeros are alike, and no number is below one that is none. -/
def compareFloats (a b : Float) : Ordering :=
  if a.isNaN then .lt
  else if b.isNaN then .gt
  else if a < b then .lt
  else if a == b then .eq
  else .gt

def compare : Number → Number → Ordering
  | .integer a, .integer b => Ord.compare a.toInt b.toInt
  | a, b => compareFloats a.toFloat b.toFloat

end Number

namespace Value

def ofNat (value : Nat) : Value :=
  .number (.integer (Int64.ofNat value))

def ofInt (value : Int) : Value :=
  .number (.integer (Int64.ofInt value))

/-- Whether a condition holds: all but null and false. -/
def isTrue : Value → Bool
  | .null | .bool false => false
  | _ => true

mutual

/-- The value of a JSON document. -/
def ofJson : Json.Value → Value
  | .null => .null
  | .bool value => .bool value
  | .number value => .number (Number.ofJson value)
  | .string value => .string value
  | .array elements => .array (ofElements elements)
  | .object members => .object (ofMembers members)

def ofElements : List Json.Value → List Value
  | [] => []
  | value :: rest => ofJson value :: ofElements rest

def ofMembers : List (String × Json.Value) → Members
  | [] => []
  | entry :: rest => ofMember entry :: ofMembers rest

def ofMember : String × Json.Value → String × Value
  | (key, value) => (key, ofJson value)

end

mutual

/-- The text of a value, without any blank. -/
def text : Value → String
  | .null => "null"
  | .bool value => toString value
  | .number value => value.text
  | .string value => Json.printString value
  | .array elements => "[" ++ elementsText true elements ++ "]"
  | .object members => "\x7b" ++ membersText true members ++ "\x7d"

def elementsText (first : Bool) : List Value → String
  | [] => ""
  | value :: rest => (if first then "" else ",") ++ text value ++ elementsText false rest

def membersText (first : Bool) : List (String × Value) → String
  | [] => ""
  | entry :: rest => (if first then "" else ",") ++ memberText entry ++ membersText false rest

def memberText : String × Value → String
  | (key, value) => Json.printString key ++ ":" ++ text value

end

/-! ## Order -/

mutual

/-- The value with the members of every object in the order of their keys. -/
def sorted : Value → Value
  | .array elements => .array (sortedElements elements)
  | .object members =>
      .object ((sortedMembers members).mergeSort fun a b => !decide (b.1 < a.1))
  | value => value

def sortedElements : List Value → List Value
  | [] => []
  | value :: rest => sorted value :: sortedElements rest

def sortedMembers : List (String × Value) → List (String × Value)
  | [] => []
  | entry :: rest => sortedMember entry :: sortedMembers rest

def sortedMember : String × Value → String × Value
  | (key, value) => (key, sorted value)

end

/-- The place of a value among those of other kinds. -/
def rank : Value → Nat
  | .null => 0
  | .bool _ => 1
  | .number _ => 2
  | .string _ => 3
  | .array _ => 4
  | .object _ => 5

def compareKeys : List (String × Value) → List (String × Value) → Ordering
  | [], [] => .eq
  | [], _ :: _ => .lt
  | _ :: _, [] => .gt
  | a :: as, b :: bs => (Ord.compare a.1 b.1).then (compareKeys as bs)

mutual

/-- The order of values whose objects are sorted. Of objects the keys are compared first. -/
def compareSorted : Value → Value → Ordering
  | .bool a, .bool b => Ord.compare a b
  | .number a, .number b => a.compare b
  | .string a, .string b => Ord.compare a b
  | .array as, .array bs => compareElements as bs
  | .object as, .object bs => (compareKeys as bs).then (compareMembers as bs)
  | a, b => Ord.compare a.rank b.rank

def compareElements : List Value → List Value → Ordering
  | [], [] => .eq
  | [], _ :: _ => .lt
  | _ :: _, [] => .gt
  | a :: as, b :: bs => (compareSorted a b).then (compareElements as bs)

def compareMembers : List (String × Value) → List (String × Value) → Ordering
  | [], [] => .eq
  | [], _ :: _ => .lt
  | _ :: _, [] => .gt
  | a :: as, b :: bs => (compareMember a b).then (compareMembers as bs)

def compareMember : String × Value → String × Value → Ordering
  | (_, a), (_, b) => compareSorted a b

end

def compare (a b : Value) : Ordering :=
  compareSorted a.sorted b.sorted

def alike (a b : Value) : Bool :=
  compare a b == .eq

def precedes (a b : Value) : Bool :=
  compare a b == .lt

/-! ## Members -/

/-- The members with a key set: in its old place, or at the end. -/
def setMember (key : String) (value : Value) : Members → Members
  | [] => [(key, value)]
  | (other, old) :: rest =>
      if other = key then (key, value) :: rest else (other, old) :: setMember key value rest

/-- All members of both, where those of the second count. -/
def mergeMembers (members others : Members) : Members :=
  others.foldl (fun members entry => setMember entry.1 entry.2 members) members

end Value

end Exemplar.Query
