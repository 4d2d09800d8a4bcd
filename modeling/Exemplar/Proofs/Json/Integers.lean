import Mathlib.Algebra.Group.Int.Defs
import Exemplar.Proofs.Json.Parts

/-!
# Integers of documents that were read

The digits of a number are collected in one unsigned word, and a number that the word does not hold
is read as a float.  So is one with a fraction or an exponent, and a negative one beyond the signed
words.  So the integers of a document are those that signed and unsigned words cover together.
-/

namespace Exemplar.Json

/-- Whether an integer is in the range that signed and unsigned words cover together. -/
def FitsWords (n : Int) : Prop :=
  -2 ^ 63 ≤ n ∧ n < 2 ^ 64

/-! ## Floats -/

theorem finishFloat_isFloat {decimal : Decimal} {text rest : List Char} {number : Number}
    (h : finishFloat decimal text = .ok (number, rest)) : ∃ value, number = .float value := by
  rw [finishFloat] at h
  split at h
  · cases h
    exact ⟨_, rfl⟩
  · cases h

theorem readExponent_isFloat {decimal : Decimal} {text rest : List Char} {number : Number}
    (h : readExponent decimal text = .ok (number, rest)) : ∃ value, number = .float value := by
  unfold readExponent at h
  -- the sign apart, so that it does not matter below
  split at h
  rename_i negative unsigned _
  cases unsigned with
  | nil => cases h
  | cons c digits =>
      dsimp only at h
      split at h
      · cases h
      · split at h
        · split at h
          · cases h
          · cases h
            exact ⟨_, rfl⟩
        · exact finishFloat_isFloat h

theorem readFraction_isFloat {decimal : Decimal} {text rest : List Char} {number : Number}
    (h : readFraction decimal text = .ok (number, rest)) : ∃ value, number = .float value := by
  unfold readFraction readOptionalExponent at h
  dsimp only at h
  split at h
  · split at h
    · exact readExponent_isFloat h
    · exact readExponent_isFloat h
    · exact finishFloat_isFloat h
  · split at h <;> cases h

/-! ## Integers -/

theorem readDigits_le {digits : Nat} {text : List Char} (h : digits ≤ wordLimit) :
    (readDigits digits text).1 ≤ wordLimit := by
  induction text generalizing digits with
  | nil => exact h
  | cons c rest ih =>
      rw [readDigits]
      split
      · rename_i hdigit
        exact ih hdigit.2
      · exact h

theorem digitValue_le {c : Char} (h : c.isDigit = true) : digitValue c ≤ 9 := by
  have hlast : c.toNat ≤ '9'.toNat :=
    UInt32.le_iff_toNat_le.1 (of_decide_eq_true (Bool.and_eq_true_iff.1 h).2)
  have hnine : '9'.toNat - '0'.toNat = 9 := by decide
  rw [digitValue]
  omega

theorem readAfterInteger_fits {decimal : Decimal} {exact : Bool} {text rest : List Char} {n : Int}
    (hdigits : decimal.digits ≤ wordLimit)
    (h : readAfterInteger decimal exact text = .ok (.integer n, rest)) : FitsWords n := by
  have hlimit : wordLimit = 2 ^ 64 - 1 := rfl
  unfold readAfterInteger at h
  split at h
  · obtain ⟨_, hfloat⟩ := readFraction_isFloat h
    cases hfloat
  · obtain ⟨_, hfloat⟩ := readExponent_isFloat h
    cases hfloat
  · obtain ⟨_, hfloat⟩ := readExponent_isFloat h
    cases hfloat
  · split at h
    · obtain ⟨_, hfloat⟩ := finishFloat_isFloat h
      cases hfloat
    · split at h
      · cases h
        exact ⟨by omega, by omega⟩
      · split at h
        · rename_i hnegative
          cases h
          exact ⟨by omega, by omega⟩
        · cases h

/-- An integer that is read is one that signed and unsigned words cover. -/
theorem readNumber_fits {negative : Bool} {text rest : List Char} {n : Int}
    (h : readNumber negative text = .ok (.integer n, rest)) : FitsWords n := by
  unfold readNumber at h
  split at h
  · cases h
  · split at h
    · split at h
      · cases h
      · exact readAfterInteger_fits (Nat.zero_le _) h
    · split at h
      · rename_i hdigit
        exact readAfterInteger_fits
          (readDigits_le (Nat.le_trans (digitValue_le hdigit) (by decide))) h
      · cases h

theorem fitsWords_of_parse {text : String} {value : Value} (h : parse text = .ok value) {n : Int}
    (hpart : (Value.number (.integer n)).IsPartOf value) : FitsWords n := by
  obtain ⟨_, _, _, hnumber⟩ := of_parse hasReadNumbers_kept h _ hpart
  exact readNumber_fits hnumber

end Exemplar.Json
