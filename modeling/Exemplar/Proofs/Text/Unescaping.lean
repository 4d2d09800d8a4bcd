import Exemplar.Json.Token
import Exemplar.Text.Quoted

/-!
# Unescaped text

Escaped text is read from left to right: a backslash opens an escape, whose reader tells what it
stands for and how many characters it takes; every other character stands for itself, if it is
admitted.  Text that was escaped character by character is therefore read back as soon as the
reader gives back each character by itself.
-/

namespace Exemplar.Text

/-- Reads an escape behind its backslash: what it stands for, and how many characters it takes. -/
abbrev EscapeReader := List Char → Option (List Char × Nat)

/-- The text that an escaped text stands for; `skip` characters belong to the last escape. -/
def unescapeFrom (escape? : EscapeReader) (admits : Char → Bool) :
    Nat → List Char → Option (List Char)
  | _, [] => some []
  | skip + 1, _ :: rest => unescapeFrom escape? admits skip rest
  | 0, c :: rest =>
      if c = '\\' then
        match escape? rest with
        | some (image, size) => (unescapeFrom escape? admits size rest).map (image ++ ·)
        | none => none
      else if admits c then (unescapeFrom escape? admits 0 rest).map (c :: ·)
      else none

def unescape (escape? : EscapeReader) (admits : Char → Bool) (text : List Char) :
    Option (List Char) :=
  unescapeFrom escape? admits 0 text

section Unescape

variable {escape? : EscapeReader} {admits : Char → Bool}

theorem unescapeFrom_append (size : Nat) {taken : List Char} (h : taken.length = size)
    (rest : List Char) :
    unescapeFrom escape? admits size (taken ++ rest) = unescape escape? admits rest := by
  induction taken generalizing size with
  | nil =>
      cases h
      rfl
  | cons c taken ih =>
      cases h
      rw [List.length_cons, List.cons_append, unescapeFrom]
      exact ih _ rfl

/-- An escape is read as what it stands for. -/
theorem unescape_escape {taken rest image : List Char}
    (h : escape? (taken ++ rest) = some (image, taken.length)) :
    unescape escape? admits ('\\' :: taken ++ rest) =
      (unescape escape? admits rest).map (image ++ ·) := by
  rw [List.cons_append, unescape, unescapeFrom, if_pos rfl, h]
  dsimp only
  rw [unescapeFrom_append _ rfl]

theorem unescape_plain {c : Char} (hbackslash : c ≠ '\\') (hadmits : admits c = true)
    (rest : List Char) :
    unescape escape? admits (c :: rest) = (unescape escape? admits rest).map (c :: ·) := by
  rw [unescape, unescapeFrom, if_neg hbackslash, if_pos hadmits]
  rfl

/-- Text that was written character by character is read character by character. -/
theorem unescape_flatMap {write view : Char → List Char}
    (h : ∀ c rest, unescape escape? admits (write c ++ rest) =
      (unescape escape? admits rest).map (view c ++ ·)) (cs : List Char) :
    unescape escape? admits (cs.flatMap write) = some (cs.flatMap view) := by
  induction cs with
  | nil => rfl
  | cons c rest ih =>
      rw [List.flatMap_cons, h, ih]
      rfl

end Unescape

/-! ## Sealed text -/

/-- Whether text between quotes stays between them: no quote ends it, no backslash takes the closing
quote for itself, and no line ends in it.  `escaped` tells that a backslash stands before. -/
def isSealedFrom : Bool → List Char → Bool
  | escaped, [] => !escaped
  | true, c :: rest => c != '\n' && c != '\r' && isSealedFrom false rest
  | false, c :: rest =>
      if c = '\\' then isSealedFrom true rest
      else c != '"' && c != '\n' && c != '\r' && isSealedFrom false rest

def isSealed (text : List Char) : Bool :=
  isSealedFrom false text

/-- A character that neither escapes nor ends a text. -/
def isQuiet (c : Char) : Bool :=
  c != '\\' && c != '"' && c != '\n' && c != '\r'

theorem isSealed_quiet {cs : List Char} (h : ∀ c ∈ cs, isQuiet c = true) (rest : List Char) :
    isSealed (cs ++ rest) = isSealed rest := by
  induction cs with
  | nil => rfl
  | cons c cs ih =>
      have hquiet := h c List.mem_cons_self
      simp only [isQuiet, Bool.and_eq_true, bne_iff_ne] at hquiet
      obtain ⟨⟨⟨hbackslash, hquote⟩, hline⟩, hreturn⟩ := hquiet
      rw [List.cons_append, isSealed, isSealedFrom, if_neg hbackslash]
      simp only [bne_iff_ne.2 hquote, bne_iff_ne.2 hline, bne_iff_ne.2 hreturn, Bool.true_and]
      exact ih fun c hc => h c (List.mem_cons_of_mem _ hc)

theorem isSealed_escape {c : Char} (hline : c ≠ '\n') (hreturn : c ≠ '\r') (rest : List Char) :
    isSealed ('\\' :: c :: rest) = isSealed rest := by
  rw [isSealed, isSealedFrom, if_pos rfl, isSealedFrom, bne_iff_ne.2 hline, bne_iff_ne.2 hreturn]
  rfl

theorem isSealed_flatMap {write : Char → List Char}
    (h : ∀ c rest, isSealed (write c ++ rest) = isSealed rest) (cs : List Char) :
    isSealed (cs.flatMap write) = true := by
  induction cs with
  | nil => rfl
  | cons c rest ih => rw [List.flatMap_cons, h, ih]

/-! ## Letters behind a backslash -/

theorem escapeLetter?_eq_some {c letter : Char} (h : escapeLetter? c = some letter) :
    (c = '"' ∧ letter = '"') ∨ (c = '\\' ∧ letter = '\\') ∨ (c = '\n' ∧ letter = 'n') ∨
      (c = '\r' ∧ letter = 'r') ∨ (c = '\t' ∧ letter = 't') := by
  unfold escapeLetter? at h
  split at h <;> cases h <;> simp

/-- The escape of a letter keeps a text sealed. -/
theorem isSealed_letter {c letter : Char} (h : escapeLetter? c = some letter) (rest : List Char) :
    isSealed ('\\' :: letter :: rest) = isSealed rest := by
  have hletter : letter ≠ '\n' ∧ letter ≠ '\r' := by
    rcases escapeLetter?_eq_some h with ⟨-, rfl⟩ | ⟨-, rfl⟩ | ⟨-, rfl⟩ | ⟨-, rfl⟩ | ⟨-, rfl⟩ <;>
      decide
  exact isSealed_escape hletter.1 hletter.2 rest

/-- A character without a letter to escape it can stand by itself. -/
theorem isQuiet_of_escapeLetter? {c : Char} (h : escapeLetter? c = none) : isQuiet c = true := by
  simp only [isQuiet, Bool.and_eq_true, bne_iff_ne]
  refine ⟨⟨⟨?_, ?_⟩, ?_⟩, ?_⟩
  all_goals
    rintro rfl
    cases h

theorem ne_backslash_of_isQuiet {c : Char} (h : isQuiet c = true) : c ≠ '\\' := by
  rintro rfl
  cases h

/-! ## Quotes -/

def quote (text : List Char) : String :=
  String.ofList ('"' :: text ++ ['"'])

/-- What stands between the quotes of a literal. -/
def unquote? (literal : String) : Option (List Char) :=
  match literal.toList with
  | '"' :: rest => if rest.getLast? = some '"' then some rest.dropLast else none
  | _ => none

theorem unquote?_quote (text : List Char) : unquote? (quote text) = some text := by
  rw [unquote?, quote, String.toList_ofList]
  simp

/-- A literal that stands on one line between its quotes. -/
def IsSealedLiteral (literal : String) : Prop :=
  ∃ body, unquote? literal = some body ∧ isSealed body = true

theorem isSealedLiteral_quote {text : List Char} (h : isSealed text = true) :
    IsSealedLiteral (quote text) :=
  ⟨text, unquote?_quote text, h⟩

/-! ## Hexadecimal digits -/

def hexStep (value : Nat) (c : Char) : Option Nat :=
  (Json.hexDigit? c).map (16 * value + ·)

/-- The number that hexadecimal digits tell; none for other characters, or where there are none. -/
def hexNumber? (digits : List Char) : Option Nat :=
  if digits.isEmpty then none else digits.foldlM hexStep 0

theorem hexDigit?_digitChar {digit : Nat} (h : digit < 16) :
    Json.hexDigit? digit.digitChar = some digit := by
  have hall : ∀ digit : Fin 16, Json.hexDigit? digit.val.digitChar = some digit.val := by decide
  exact hall ⟨digit, h⟩

theorem foldlM_hexDigits (n : Nat) : (hexDigits n).foldlM hexStep 0 = some n := by
  induction n using Nat.strongRecOn with
  | ind n ih =>
      by_cases h : n < 16
      · rw [hexDigits, Nat.toDigits_of_lt_base h, List.foldlM_cons, hexStep, hexDigit?_digitChar h]
        simp
      · have hlast := hexDigit?_digitChar (Nat.mod_lt n (by decide : 0 < 16))
        rw [hexDigits, Nat.toDigits_of_base_le (by decide) (Nat.le_of_not_lt h),
          List.foldlM_append]
        have hrest := ih (n / 16) (by omega)
        rw [hexDigits] at hrest
        rw [hrest]
        simp only [Option.bind_eq_bind, Option.bind_some, List.foldlM_cons, List.foldlM_nil,
          hexStep, hlast, Option.map_some, Option.pure_def]
        rw [Nat.div_add_mod]

/-- A number is read from its digits, behind any zeros. -/
theorem hexNumber?_padded (zeros n : Nat) :
    hexNumber? (List.replicate zeros '0' ++ hexDigits n) = some n := by
  have hzeros : (List.replicate zeros '0').foldlM hexStep 0 = some 0 := by
    induction zeros with
    | zero => rfl
    | succ zeros ih =>
        rw [List.replicate_succ, List.foldlM_cons]
        exact ih
  have hne : (List.replicate zeros '0' ++ hexDigits n).isEmpty = false := by
    rw [List.isEmpty_eq_false_iff]
    exact List.append_ne_nil_of_right_ne_nil _ Nat.toDigits_ne_nil
  rw [hexNumber?, hne, if_neg Bool.false_ne_true, List.foldlM_append, hzeros]
  exact foldlM_hexDigits n

theorem hexNumber?_hexDigits (n : Nat) : hexNumber? (hexDigits n) = some n :=
  hexNumber?_padded 0 n

theorem mem_hexDigits {n : Nat} {c : Char} (h : c ∈ hexDigits n) :
    ∃ digit < 16, c = Nat.digitChar digit := by
  induction n using Nat.strongRecOn with
  | ind n ih =>
      by_cases hsmall : n < 16
      · rw [hexDigits, Nat.toDigits_of_lt_base hsmall] at h
        exact ⟨n, hsmall, List.mem_singleton.1 h⟩
      · rw [hexDigits, Nat.toDigits_of_base_le (by decide) (Nat.le_of_not_lt hsmall)] at h
        rcases List.mem_append.1 h with h | h
        · exact ih (n / 16) (by omega) h
        · exact ⟨n % 16, Nat.mod_lt n (by decide), List.mem_singleton.1 h⟩

/-- What holds of the digits below sixteen holds of all digits. -/
theorem of_mem_hexDigits {p : Char → Prop} (hall : ∀ digit : Fin 16, p digit.val.digitChar)
    {n : Nat} : ∀ c ∈ hexDigits n, p c := by
  intro c hmem
  obtain ⟨digit, hdigit, rfl⟩ := mem_hexDigits hmem
  exact hall ⟨digit, hdigit⟩

theorem isQuiet_hexDigits (n : Nat) : ∀ c ∈ hexDigits n, isQuiet c = true :=
  of_mem_hexDigits (by decide)

end Exemplar.Text
