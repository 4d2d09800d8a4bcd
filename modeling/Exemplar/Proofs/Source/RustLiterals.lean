import Exemplar.Proofs.Text.Unescaping
import Exemplar.Source.Rust

/-!
# String literals of Rust

A backslash opens an escape: a letter, two hexadecimal digits of an ASCII character, up to six digits
in braces, or a line end that is dropped with the blanks behind it.  Every other character stands for
itself, but for a quote and a carriage return.
-/

namespace Exemplar.Source.Rust

open Text

/-! ## Reading a literal -/

/-- The character that a letter behind a backslash stands for. -/
def letterEscape? : Char → Option Char
  | 'n' => some '\n'
  | 'r' => some '\r'
  | 't' => some '\t'
  | '0' => some '\x00'
  | '"' => some '"'
  | '\'' => some '\''
  | '\\' => some '\\'
  | _ => none

/-- Reads the two digits of an ASCII character. -/
def readByte? (text : List Char) : Option (List Char × Nat) :=
  let digits := text.take 2
  if digits.length = 2 then
    (hexNumber? digits).bind fun value =>
      if value < 0x80 then some ([Char.ofNat value], 3) else none
  else none

/-- Reads a code point in braces; underscores may stand behind its first digit. -/
def readBraced? (text : List Char) : Option (List Char × Nat) :=
  let inside := text.tail.takeWhile (· != '\x7d')
  let digits := inside.filter (· != '_')
  if text.head? = some '\x7b' ∧ inside.head? ≠ some '_' ∧ digits.length ≤ 6 ∧
      inside.length < text.tail.length then
    (hexNumber? digits).bind fun value =>
      if value < 0xD800 ∨ 0xDFFF < value ∧ value < 0x110000 then
        some ([Char.ofNat value], inside.length + 3)
      else none
  else none

def isBlank (c : Char) : Bool :=
  c == ' ' || c == '\n' || c == '\t' || c == '\r'

/-- Reads an escape of a string literal. -/
def readEscape? : EscapeReader
  | [] => none
  | c :: text =>
      match letterEscape? c with
      | some image => some ([image], 1)
      | none =>
          if c = 'x' then readByte? text
          else if c = 'u' then readBraced? text
          else if c = '\n' then some ([], 1 + (text.takeWhile isBlank).length)
          else none

/-- Whether a character may stand by itself in a string literal. -/
def admitsRaw (c : Char) : Bool :=
  c != '"' && c != '\r'

/-- The text of a string literal. -/
def literalText? (literal : String) : Option String :=
  ((unquote? literal).bind (unescape readEscape? admitsRaw)).map String.ofList

/-! ## Literals are read back -/

/-- A string literal. -/
def literal (text : String) : String :=
  "\"" ++ asciiEscaped text ++ "\""

theorem literal_eq_quote (text : String) :
    literal text = quote (text.toList.flatMap asciiChar) := by
  apply String.toList_inj.1
  simp [literal, quote, asciiEscaped]

/-- A code point in braces is read as its character. -/
theorem readBraced?_hexDigits (c : Char) (rest : List Char) :
    readBraced? ('\x7b' :: hexDigits c.toNat ++ '\x7d' :: rest) =
      some ([c], (hexDigits c.toNat).length + 3) := by
  have hinside : (hexDigits c.toNat ++ '\x7d' :: rest).takeWhile (· != '\x7d') =
      hexDigits c.toNat := by
    rw [List.takeWhile_append_of_pos
      (of_mem_hexDigits (p := fun digit => (digit != '\x7d') = true) (by decide)),
      List.takeWhile_cons_of_neg (by decide), List.append_nil]
  have hdigits : (hexDigits c.toNat).filter (· != '_') = hexDigits c.toNat :=
    List.filter_eq_self.2 (of_mem_hexDigits (p := fun digit => (digit != '_') = true) (by decide))
  have hfirst : (hexDigits c.toNat).head? ≠ some '_' := by
    intro hhead
    exact of_mem_hexDigits (p := (· ≠ '_')) (by decide) '_' (List.mem_of_head? hhead) rfl
  have hscalar : c.toNat < 0xD800 ∨ 0xDFFF < c.toNat ∧ c.toNat < 0x110000 := c.valid
  have hlength : (hexDigits c.toNat).length ≤ 6 :=
    (Nat.length_toDigits_le_iff (by decide) (by decide)).2 (by omega)
  have hclosed : (hexDigits c.toNat).length <
      (hexDigits c.toNat ++ '\x7d' :: rest).length := by
    rw [List.length_append, List.length_cons]
    omega
  unfold readBraced?
  rw [List.cons_append, List.tail_cons, List.head?_cons]
  dsimp only
  rw [hinside, hdigits, if_pos ⟨rfl, hfirst, hlength, hclosed⟩, hexNumber?_hexDigits,
    Option.bind_some, if_pos hscalar, Char.ofNat_toNat]

/-- Every character is read as itself. -/
theorem unescape_asciiChar (c : Char) (rest : List Char) :
    unescape readEscape? admitsRaw (asciiChar c ++ rest) =
      (unescape readEscape? admitsRaw rest).map ([c] ++ ·) := by
  unfold asciiChar
  cases hletter : escapeLetter? c with
  | some letter =>
      have hread : readEscape? ([letter] ++ rest) = some ([c], 1) := by
        rcases escapeLetter?_eq_some hletter with
          ⟨rfl, rfl⟩ | ⟨rfl, rfl⟩ | ⟨rfl, rfl⟩ | ⟨rfl, rfl⟩ | ⟨rfl, rfl⟩ <;> rfl
      exact unescape_escape hread
  | none =>
      have hquiet := isQuiet_of_escapeLetter? hletter
      dsimp only
      split
      · rename_i hquote
        rw [hquote]
        have hread : readEscape? (['\''] ++ rest) = some (['\''], 1) := rfl
        exact unescape_escape hread
      · split
        · have hraw : admitsRaw c = true := by
            simp only [isQuiet, Bool.and_eq_true] at hquiet
            simp only [admitsRaw, hquiet.1.1.2, hquiet.2, Bool.and_self]
          exact unescape_plain (ne_backslash_of_isQuiet hquiet) hraw rest
        · have hread : readEscape? (('u' :: '\x7b' :: hexDigits c.toNat ++ ['\x7d']) ++ rest) =
              some ([c], ('u' :: '\x7b' :: hexDigits c.toNat ++ ['\x7d']).length) := by
            have hbraced := readBraced?_hexDigits c rest
            simp only [List.cons_append, List.append_assoc, List.nil_append, List.length_cons,
              List.length_append, List.length_nil] at hbraced ⊢
            exact hbraced
          exact unescape_escape hread

/-- A literal is read as the text it was made of. -/
theorem literalText?_literal (text : String) : literalText? (literal text) = some text := by
  have hescapes : unescape readEscape? admitsRaw (text.toList.flatMap asciiChar) =
      some (text.toList.flatMap fun c => [c]) :=
    unescape_flatMap unescape_asciiChar text.toList
  calc
    literalText? (literal text)
      = ((unquote? (quote (text.toList.flatMap asciiChar))).bind
          (unescape readEscape? admitsRaw)).map String.ofList := by
        rw [literalText?, literal_eq_quote]
    _ = (unescape readEscape? admitsRaw (text.toList.flatMap asciiChar)).map String.ofList := by
        rw [unquote?_quote, Option.bind_some]
    _ = some (String.ofList text.toList) := by
        rw [hescapes, Option.map_some, List.flatMap_singleton']
    _ = some text := by rw [String.ofList_toList]

-- Code points stand in braces; the other escape of a number is for ASCII characters only.
example : literalText? "\"\\u\x7b1F_600\x7d\\x41\"" = some "😀A" ∧
    literalText? "\"\\u0041\"" = none ∧ literalText? "\"\\x80\"" = none := by
  decide +kernel

theorem isSealed_asciiChar (c : Char) (rest : List Char) :
    isSealed (asciiChar c ++ rest) = isSealed rest := by
  unfold asciiChar
  cases hletter : escapeLetter? c with
  | some letter => exact isSealed_letter hletter rest
  | none =>
      dsimp only
      split
      · exact isSealed_escape (by decide) (by decide) rest
      · split
        · have hquiet : ∀ own ∈ [c], isQuiet own = true := by
            intro own hown
            rw [List.mem_singleton.1 hown]
            exact isQuiet_of_escapeLetter? hletter
          exact isSealed_quiet hquiet rest
        · have hquiet : ∀ own ∈ '\x7b' :: hexDigits c.toNat ++ ['\x7d'], isQuiet own = true := by
            rw [List.cons_append, List.forall_mem_cons, List.forall_mem_append,
              List.forall_mem_singleton]
            exact ⟨by decide, isQuiet_hexDigits _, by decide⟩
          exact (isSealed_escape (by decide) (by decide) _).trans (isSealed_quiet hquiet rest)

theorem isSealedLiteral_literal (text : String) : IsSealedLiteral (literal text) := by
  rw [literal_eq_quote]
  exact isSealedLiteral_quote (isSealed_flatMap isSealed_asciiChar text.toList)

end Exemplar.Source.Rust
