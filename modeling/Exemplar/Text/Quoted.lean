import Exemplar.Unicode.Extending
import Exemplar.Unicode.Printable

/-!
# Escaped text

Three ways to write a text between double quotes. The shown form, for messages, escapes what a
reader could not see. The four-digit form writes control characters as `\u` with four hexadecimal
digits. The ASCII form writes every other character than printable ASCII as its code point in
braces.
-/

namespace Exemplar.Text

def hexDigits (n : Nat) : List Char :=
  Nat.toDigits 16 n

/-- A code point in braces: `\u`, then the hexadecimal digits between them. -/
def bracedEscape (c : Char) : List Char :=
  ['\\', 'u', '\x7b'] ++ hexDigits c.toNat ++ ['\x7d']

def fourDigitEscape (c : Char) : List Char :=
  ['\\', 'u'] ++ List.replicate (4 - (hexDigits c.toNat).length) '0' ++ hexDigits c.toNat

/-- The letter behind the backslash of the escapes that all forms share. -/
def escapeLetter? : Char → Option Char
  | '"' => some '"'
  | '\\' => some '\\'
  | '\n' => some 'n'
  | '\r' => some 'r'
  | '\t' => some 't'
  | _ => none

def shownChar (c : Char) : List Char :=
  match escapeLetter? c with
  | some letter => ['\\', letter]
  | none =>
      if c = '\x00' then ['\\', '0']
      else if Unicode.isPrintable c && !Unicode.isExtending c then [c]
      else bracedEscape c

def fourDigitChar (c : Char) : List Char :=
  match escapeLetter? c with
  | some letter => ['\\', letter]
  | none => if Unicode.isControl c then fourDigitEscape c else [c]

def asciiChar (c : Char) : List Char :=
  match escapeLetter? c with
  | some letter => ['\\', letter]
  | none =>
      if c = '\'' then ['\\', '\'']
      else if 0x20 ≤ c.toNat ∧ c.toNat ≤ 0x7E then [c]
      else bracedEscape c

/-- The shown form of a text, with its quotes. -/
def shown (text : String) : String :=
  String.ofList ('"' :: text.toList.flatMap shownChar ++ ['"'])

/-- The four-digit form of a text, without quotes. -/
def fourDigitEscaped (text : String) : String :=
  String.ofList (text.toList.flatMap fourDigitChar)

/-- The ASCII form of a text, without quotes. -/
def asciiEscaped (text : String) : String :=
  String.ofList (text.toList.flatMap asciiChar)

/-- A list of texts in shown form, in brackets. -/
def shownList (texts : List String) : String :=
  "[" ++ ", ".intercalate (texts.map shown) ++ "]"

end Exemplar.Text
