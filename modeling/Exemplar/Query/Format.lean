import Exemplar.Query.Operation

/-!
# Formats

Ways to write a value as text, for a text that is to hold it: as it is, as JSON, as a row of a
table, or escaped for HTML, for a URI, for a shell or in the base 64.
-/

namespace Exemplar.Query.Format

def escapedBy (escape : Char → List Char) (text : String) : String :=
  String.ofList (text.toList.flatMap escape)

def htmlEscape : Char → List Char
  | '<' => "&lt;".toList
  | '>' => "&gt;".toList
  | '&' => "&amp;".toList
  | '\'' => "&#39;".toList
  | '"' => "&quot;".toList
  | c => [c]

def hexDigit (n : Nat) : Char :=
  (Nat.digitChar n).toUpper

/-- A byte as it stands in a URI. -/
def uriByte (byte : UInt8) : List Char :=
  let c := Char.ofNat byte.toNat
  if byte < 0x80 ∧ (c.isAlphanum ∨ ['-', '_', '.', '~'].contains c) then [c]
  else ['%', hexDigit (byte.toNat / 16), hexDigit (byte.toNat % 16)]

def uri (text : String) : String :=
  String.ofList (text.toUTF8.toList.flatMap uriByte)

/-- The fields of a row. -/
def row (separator : String) (quoted : String → String) (value : Value) :
    Except Fault Value :=
  match value with
  | .array elements => do
      let fields ← elements.mapM fun
        | .null => .ok ""
        | .string text => .ok (quoted text)
        | .array elements => .error (.mistyped (.array elements) "field of a row")
        | .object members => .error (.mistyped (.object members) "field of a row")
        | value => .ok value.text
      return .string (separator.intercalate fields)
  | value => .error (.mistyped value "array")

def csvQuoted (text : String) : String :=
  "\"" ++ escapedBy (fun c => if c = '"' then ['"', '"'] else [c]) text ++ "\""

def tsvEscape : Char → List Char
  | '\t' => ['\\', 't']
  | '\n' => ['\\', 'n']
  | '\r' => ['\\', 'r']
  | '\\' => ['\\', '\\']
  | c => [c]

def shellQuoted (text : String) : String :=
  "'" ++ escapedBy (fun c => if c = '\'' then ['\'', '\\', '\'', '\''] else [c]) text ++ "'"

def shellWord (value : Value) : Except Fault String :=
  match value with
  | .string text => .ok (shellQuoted text)
  | .array elements => .error (.mistyped (.array elements) "word of a shell")
  | .object members => .error (.mistyped (.object members) "word of a shell")
  | value => .ok value.text

def shell (value : Value) : Except Fault Value :=
  match value with
  | .array elements => do return .string (" ".intercalate (← elements.mapM shellWord))
  | value => do return .string (← shellWord value)

/-! ## Base 64 -/

def alphabet : List Char :=
  "ABCDEFGHIJKLMNOPQRSTUVWXYZabcdefghijklmnopqrstuvwxyz0123456789+/".toList

def digit (n : Nat) : Char :=
  (alphabet[n % 64]?).getD 'A'

/-- Three bytes become four digits; what is missing at the end is filled up. -/
def base64Chars : List UInt8 → List Char
  | a :: b :: c :: rest =>
      let word := (a.toNat * 256 + b.toNat) * 256 + c.toNat
      [digit (word / 262144), digit (word / 4096), digit (word / 64), digit word]
        ++ base64Chars rest
  | [a, b] =>
      let word := (a.toNat * 256 + b.toNat) * 256
      [digit (word / 262144), digit (word / 4096), digit (word / 64), '=']
  | [a] =>
      let word := a.toNat * 65536
      [digit (word / 262144), digit (word / 4096), '=', '=']
  | [] => []

def digitValue? (c : Char) : Option Nat :=
  alphabet.findIdx? (· = c)

/-- The bytes that digits stand for, where the last group may have less than four. -/
def base64Bytes? : List Char → Option (List UInt8)
  | a :: b :: c :: d :: rest => do
      let word := ((← digitValue? a) * 64 + (← digitValue? b)) * 4096
        + (← digitValue? c) * 64 + (← digitValue? d)
      return (word / 65536).toUInt8 :: (word / 256).toUInt8 :: word.toUInt8
        :: (← base64Bytes? rest)
  | [a, b, c] => do
      let word := ((← digitValue? a) * 64 + (← digitValue? b)) * 64 + (← digitValue? c)
      return [(word / 1024).toUInt8, (word / 4).toUInt8]
  | [a, b] => do
      let word := (← digitValue? a) * 64 + (← digitValue? b)
      return [(word / 16).toUInt8]
  | [_] => none
  | [] => some []

def decodeBase64 (text : String) : Except Fault Value :=
  let decoded := do
    let bytes ← base64Bytes? (text.toList.takeWhile (· ≠ '='))
    String.fromUTF8? ⟨bytes.toArray⟩
  match decoded with
  | some decoded => .ok (.string decoded)
  | none => .error (.mistyped (.string text) "text in base 64")

/-- The names of the formats. -/
def names : List String :=
  ["text", "json", "csv", "tsv", "html", "uri", "sh", "base64", "base64d"]

/-- A value in the format of a name. -/
def write (format : String) (value : Value) : Except Fault Value :=
  match format with
  | "json" => .ok (.string value.text)
  | "csv" => row "," csvQuoted value
  | "tsv" => row "\t" (escapedBy tsvEscape) value
  | "html" => .ok (.string (escapedBy htmlEscape value.plainText))
  | "uri" => .ok (.string (uri value.plainText))
  | "sh" => shell value
  | "base64" => .ok (.string (String.ofList (base64Chars value.plainText.toUTF8.toList)))
  | "base64d" => decodeBase64 value.plainText
  | _ => .ok (.string value.plainText)

end Exemplar.Query.Format
