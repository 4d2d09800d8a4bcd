import Exemplar.Proofs.Text.Unescaping
import Exemplar.Source.Java

/-!
# String literals of Java

A source text is read in two stages.  First every Unicode escape is replaced by its character,
wherever it stands; a backslash behind another one opens none.  Then the escapes of a string literal
are read, in which no quote and no line end may stand by itself, not even one that came of a Unicode
escape.
-/

namespace Exemplar.Source.Java

open Text

/-! ## Reading a literal -/

/-- The code unit of a Unicode escape behind its backslash, and how many characters the escape
takes: one `u` or more, and four digits. -/
def unitEscape? (text : List Char) : Option (Nat × Nat) :=
  let marks := (text.takeWhile (· == 'u')).length
  let digits := (text.drop marks).take 4
  if marks = 0 ∨ digits.length ≠ 4 then none
  else (hexNumber? digits).map (·, marks + 4)

/-- Reads a Unicode escape, or two for a character beyond the first plane.  Any other backslash stays
together with the character behind it. -/
def readUnicode? : EscapeReader
  | [] => some (['\\'], 0)
  | c :: text =>
      if c ≠ 'u' then some (['\\', c], 1)
      else
        match unitEscape? (c :: text) with
        | none => none
        | some (unit, size) =>
            if unit < 0xD800 ∨ 0xDFFF < unit then some ([Char.ofNat unit], size)
            else
              match (c :: text).drop size with
              | '\\' :: behind =>
                  match unitEscape? behind with
                  | some (low, more) =>
                      if unit < 0xDC00 ∧ 0xDC00 ≤ low ∧ low ≤ 0xDFFF then
                        some ([Char.ofNat (0x10000 + (unit - 0xD800) * 0x400 + (low - 0xDC00))],
                          size + 1 + more)
                      else none
                  | none => none
              | _ => none

/-- The character that a letter behind a backslash stands for. -/
def letterEscape? : Char → Option Char
  | 'b' => some '\x08'
  | 's' => some ' '
  | 't' => some '\t'
  | 'n' => some '\n'
  | 'f' => some '\x0C'
  | 'r' => some '\r'
  | '"' => some '"'
  | '\'' => some '\''
  | '\\' => some '\\'
  | _ => none

def isOctal (c : Char) : Bool :=
  '0' ≤ c && c ≤ '7'

/-- Reads an escape of a string literal: a letter, or up to three octal digits below four hundred. -/
def readEscape? : EscapeReader
  | [] => none
  | c :: text =>
      match letterEscape? c with
      | some image => some ([image], 1)
      | none =>
          let digits := ((c :: text).take (if c ≤ '3' then 3 else 2)).takeWhile isOctal
          let value := digits.foldl (fun value digit => 8 * value + (digit.toNat - '0'.toNat)) 0
          if digits.isEmpty then none else some ([Char.ofNat value], digits.length)

/-- Whether a character may stand by itself in a string literal. -/
def admitsRaw (c : Char) : Bool :=
  c != '"' && c != '\n' && c != '\r'

/-- A source text without its Unicode escapes. -/
def translate (text : List Char) : Option (List Char) :=
  unescape readUnicode? (fun _ => true) text

/-- The text of a string literal. -/
def literalText? (literal : String) : Option String :=
  (((unquote? literal).bind translate).bind (unescape readEscape? admitsRaw)).map String.ofList

/-! ## Literals are read back -/

theorem unitEscape?_digits {digits : List Char} (hlength : digits.length = 4)
    (hmarks : ∀ c ∈ digits, c ≠ 'u') (rest : List Char) :
    unitEscape? ('u' :: digits ++ rest) = (hexNumber? digits).map (·, 5) := by
  have hmark : (('u' :: digits ++ rest).takeWhile (· == 'u')).length = 1 := by
    cases digits with
    | nil => cases hlength
    | cons digit digits =>
        have hdigit : (digit == 'u') = false := beq_false_of_ne (hmarks digit List.mem_cons_self)
        rw [List.cons_append, List.cons_append, List.takeWhile_cons_of_pos (by rfl),
          List.takeWhile_cons_of_neg (by simp [hdigit])]
        rfl
  have hdigits : (('u' :: digits ++ rest).drop 1).take 4 = digits := by
    rw [List.cons_append, List.drop_one, List.tail_cons, ← hlength, List.take_left]
  unfold unitEscape?
  dsimp only
  rw [hmark, hdigits, if_neg (by simp [hlength])]

/-- The four digits of a control character. -/
def paddedDigits (c : Char) : List Char :=
  List.replicate (4 - (hexDigits c.toNat).length) '0' ++ hexDigits c.toNat

theorem length_paddedDigits {c : Char} (h : c.toNat < 0x10000) : (paddedDigits c).length = 4 := by
  have hdigits : (hexDigits c.toNat).length ≤ 4 :=
    (Nat.length_toDigits_le_iff (by decide) (by decide)).2 (by omega)
  rw [paddedDigits, List.length_append, List.length_replicate]
  omega

/-- What holds of the digits below sixteen holds of the four. -/
theorem of_mem_paddedDigits {p : Char → Prop} (hall : ∀ digit : Fin 16, p digit.val.digitChar)
    {c digit : Char} (h : digit ∈ paddedDigits c) : p digit := by
  rcases List.mem_append.1 h with h | h
  · rw [List.eq_of_mem_replicate h]
    exact hall 0
  · exact of_mem_hexDigits hall digit h

/-- The Unicode escape of a character of the first plane is read as the character. -/
theorem readUnicode?_paddedDigits {c : Char} (h : c.toNat < 0xD800) (rest : List Char) :
    readUnicode? ('u' :: paddedDigits c ++ rest) = some ([c], 5) := by
  have hlength : (paddedDigits c).length = 4 := length_paddedDigits (by omega)
  have hmarks : ∀ digit ∈ paddedDigits c, digit ≠ 'u' := by
    intro digit hdigit
    exact of_mem_paddedDigits (p := (· ≠ 'u')) (by decide) hdigit
  have hunit := unitEscape?_digits hlength hmarks rest
  rw [paddedDigits, hexNumber?_padded, ← paddedDigits] at hunit
  have hplane : c.toNat < 0xD800 ∨ 0xDFFF < c.toNat := .inl h
  rw [List.cons_append] at hunit ⊢
  simp only [readUnicode?, ne_eq, not_true, if_false, hunit, Option.map_some, hplane, if_true,
    Char.ofNat_toNat]

theorem toNat_of_isControl {c : Char} (h : Unicode.isControl c = true) : c.toNat < 0xA0 := by
  simp only [Unicode.isControl, Bool.or_eq_true, Bool.and_eq_true, decide_eq_true_eq] at h
  omega

/-- What the first stage leaves of a character as it was written. -/
def translatedChar (c : Char) : List Char :=
  match escapeLetter? c with
  | some letter => ['\\', letter]
  | none => [c]

/-- The first stage undoes the escapes of control characters. -/
theorem translate_fourDigitChar (c : Char) (rest : List Char) :
    translate (fourDigitChar c ++ rest) = (translate rest).map (translatedChar c ++ ·) := by
  unfold fourDigitChar translatedChar
  cases hletter : escapeLetter? c with
  | some letter =>
      have hread : readUnicode? ([letter] ++ rest) = some (['\\', letter], 1) := by
        rcases escapeLetter?_eq_some hletter with
          ⟨-, rfl⟩ | ⟨-, rfl⟩ | ⟨-, rfl⟩ | ⟨-, rfl⟩ | ⟨-, rfl⟩ <;> rfl
      exact unescape_escape hread
  | none =>
      dsimp only
      split
      · rename_i hcontrol
        have hsmall := toNat_of_isControl hcontrol
        have hlength : ('u' :: paddedDigits c).length = 5 := by
          rw [List.length_cons, length_paddedDigits (by omega)]
        have hread := readUnicode?_paddedDigits (by omega : c.toNat < 0xD800) rest
        rw [← hlength] at hread
        exact unescape_escape hread
      · exact unescape_plain (ne_backslash_of_isQuiet (isQuiet_of_escapeLetter? hletter)) rfl rest

/-- The second stage undoes the escapes of letters. -/
theorem unescape_translatedChar (c : Char) (rest : List Char) :
    unescape readEscape? admitsRaw (translatedChar c ++ rest) =
      (unescape readEscape? admitsRaw rest).map ([c] ++ ·) := by
  unfold translatedChar
  cases hletter : escapeLetter? c with
  | some letter =>
      have hread : readEscape? ([letter] ++ rest) = some ([c], 1) := by
        rcases escapeLetter?_eq_some hletter with
          ⟨rfl, rfl⟩ | ⟨rfl, rfl⟩ | ⟨rfl, rfl⟩ | ⟨rfl, rfl⟩ | ⟨rfl, rfl⟩ <;> rfl
      exact unescape_escape hread
  | none =>
      have hquiet := isQuiet_of_escapeLetter? hletter
      have hraw : admitsRaw c = true := by
        simp only [isQuiet, Bool.and_eq_true] at hquiet
        simp only [admitsRaw, hquiet.1.1.2, hquiet.1.2, hquiet.2, Bool.and_self]
      exact unescape_plain (ne_backslash_of_isQuiet hquiet) hraw rest

theorem literal_eq_quote (text : String) :
    literal text = quote (text.toList.flatMap fourDigitChar) := by
  apply String.toList_inj.1
  simp [literal, quote, fourDigitEscaped]

/-- A literal is read as the text it was made of. -/
theorem literalText?_literal (text : String) : literalText? (literal text) = some text := by
  have htranslate : translate (text.toList.flatMap fourDigitChar) =
      some (text.toList.flatMap translatedChar) :=
    unescape_flatMap translate_fourDigitChar text.toList
  have hescapes : unescape readEscape? admitsRaw (text.toList.flatMap translatedChar) =
      some (text.toList.flatMap fun c => [c]) :=
    unescape_flatMap unescape_translatedChar text.toList
  calc
    literalText? (literal text)
      = (((unquote? (quote (text.toList.flatMap fourDigitChar))).bind translate).bind
          (unescape readEscape? admitsRaw)).map String.ofList := by
        rw [literalText?, literal_eq_quote]
    _ = ((translate (text.toList.flatMap fourDigitChar)).bind
          (unescape readEscape? admitsRaw)).map String.ofList := by
        rw [unquote?_quote, Option.bind_some]
    _ = (unescape readEscape? admitsRaw (text.toList.flatMap translatedChar)).map
          String.ofList := by
        rw [htranslate, Option.bind_some]
    _ = some (String.ofList text.toList) := by
        rw [hescapes, Option.map_some, List.flatMap_singleton']
    _ = some text := by rw [String.ofList_toList]

-- A backslash behind another one opens no Unicode escape; that of a line end breaks the literal.
example : literalText? "\"\\\\u0041\\uu0041\\101\"" = some "\\u0041AA" ∧
    literalText? "\"a\\u000ab\"" = none := by
  decide +kernel

theorem isSealed_fourDigitChar (c : Char) (rest : List Char) :
    isSealed (fourDigitChar c ++ rest) = isSealed rest := by
  unfold fourDigitChar
  cases hletter : escapeLetter? c with
  | some letter => exact isSealed_letter hletter rest
  | none =>
      dsimp only
      split
      · have hdigits : ∀ digit ∈ paddedDigits c, isQuiet digit = true :=
          fun digit hdigit => of_mem_paddedDigits (p := (isQuiet · = true)) (by decide) hdigit
        exact (isSealed_escape (by decide) (by decide) _).trans (isSealed_quiet hdigits rest)
      · have hquiet : ∀ own ∈ [c], isQuiet own = true := by
          intro own hown
          rw [List.mem_singleton.1 hown]
          exact isQuiet_of_escapeLetter? hletter
        exact isSealed_quiet hquiet rest

theorem isSealedLiteral_literal (text : String) : IsSealedLiteral (literal text) := by
  rw [literal_eq_quote]
  exact isSealedLiteral_quote (isSealed_flatMap isSealed_fourDigitChar text.toList)

end Exemplar.Source.Java
