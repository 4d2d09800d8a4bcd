import Exemplar.Decimal.Shortest
import Exemplar.Json.Value
import Exemplar.Text.Quoted

/-!
# Printing JSON

Two forms of a value: compact, without any blank, and indented, with one element or member on a
line. Members stand in their order; a number that is not finite is null.
-/

namespace Exemplar.Json

/-- Floats have a point for exponents from -5 to 15, and else an exponent of two digits at least
with its sign. -/
def floatFormat : Decimal.Format where
  positionalFrom := -5
  positionalTo := 15
  plusSign := true
  exponentDigits := 2

def printFloat (value : Float) : String :=
  if value.isFinite then floatFormat.write value else "null"

def printNumber : Number → String
  | .integer value => toString value
  | .float value => printFloat value

def escapeChar (c : Char) : List Char :=
  match c with
  | '"' => ['\\', '"']
  | '\\' => ['\\', '\\']
  | '\x08' => ['\\', 'b']
  | '\x0C' => ['\\', 'f']
  | '\n' => ['\\', 'n']
  | '\r' => ['\\', 'r']
  | '\t' => ['\\', 't']
  | c => if c.toNat < 0x20 then Text.fourDigitEscape c else [c]

def printString (text : String) : String :=
  String.ofList ('"' :: text.toList.flatMap escapeChar ++ ['"'])

mutual

/-- The compact form. -/
def compact : Value → String
  | .null => "null"
  | .bool value => toString value
  | .number value => printNumber value
  | .string value => printString value
  | .array elements => "[" ++ compactElements true elements ++ "]"
  | .object members => "\x7b" ++ compactMembers true members ++ "\x7d"

def compactElements (first : Bool) : List Value → String
  | [] => ""
  | value :: rest =>
      (if first then "" else ",") ++ compact value ++ compactElements false rest

def compactMembers (first : Bool) : List (String × Value) → String
  | [] => ""
  | entry :: rest =>
      (if first then "" else ",") ++ compactMember entry ++ compactMembers false rest

def compactMember : String × Value → String
  | (key, value) => printString key ++ ":" ++ compact value

end

/-- A line break and two blanks for each level. -/
def newLine (depth : Nat) : String :=
  "\n" ++ String.ofList (List.replicate (2 * depth) ' ')

mutual

/-- The indented form, at a depth. -/
def indented (depth : Nat) : Value → String
  | .null => "null"
  | .bool value => toString value
  | .number value => printNumber value
  | .string value => printString value
  | .array [] => "[]"
  | .array elements =>
      "[" ++ indentedElements (depth + 1) true elements ++ newLine depth ++ "]"
  | .object [] => "\x7b\x7d"
  | .object members =>
      "\x7b" ++ indentedMembers (depth + 1) true members ++ newLine depth ++ "\x7d"

def indentedElements (depth : Nat) (first : Bool) : List Value → String
  | [] => ""
  | value :: rest =>
      (if first then "" else ",") ++ newLine depth ++ indented depth value
        ++ indentedElements depth false rest

def indentedMembers (depth : Nat) (first : Bool) : List (String × Value) → String
  | [] => ""
  | entry :: rest =>
      (if first then "" else ",") ++ newLine depth ++ indentedMember depth entry
        ++ indentedMembers depth false rest

def indentedMember (depth : Nat) : String × Value → String
  | (key, value) => printString key ++ ": " ++ indented depth value

end

end Exemplar.Json
