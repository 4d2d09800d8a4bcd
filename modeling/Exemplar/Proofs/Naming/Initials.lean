import Exemplar.Proofs.Naming.PlainNames

/-!
# The first letters of class names

A class name begins with an upper case, whatever the property.  Not every upper case is a capital
letter, as most characters have no case; but none has a small ASCII letter in it.
-/

namespace Exemplar

namespace Unicode

/-- Whether a character is no small letter, if it is an ASCII character. -/
def IsNoSmall (c : Char) : Prop :=
  c.toNat < 0x80 → c.isLower = false

instance (c : Char) : Decidable (IsNoSmall c) :=
  inferInstanceAs (Decidable (_ → _))

theorem IsNoSmall.isLower_eq_false {c : Char} (h : IsNoSmall c) : c.isLower = false := by
  by_cases hascii : c.toNat < 0x80
  · exact h hascii
  · refine Bool.eq_false_iff.2 fun hlower => hascii ?_
    have hle : c.toNat ≤ 'z'.toNat :=
      UInt32.le_iff_toNat_le.1 (of_decide_eq_true (Bool.and_eq_true_iff.1 hlower).2)
    exact Nat.lt_of_le_of_lt hle (by decide)

theorem isNoSmall_toUpper {c : Char} (hascii : c.toNat < 0x80) : IsNoSmall c.toUpper :=
  ascii_forall (p := fun c => IsNoSmall c.toUpper) (by decide +kernel) hascii

theorem isNoSmall_upper (c : Char) : ∀ image ∈ upper c, IsNoSmall image := by
  have hruns : ∀ run ∈ upperRuns, run.hasImages IsNoSmall = true := by decide +kernel
  have hexpansions : ∀ entry ∈ upperExpansions, ∀ n ∈ entry.2.1 :: entry.2.2,
      IsNoSmall (Char.ofNat n) := by
    decide +kernel
  unfold upper
  split
  · rename_i hascii
    intro image hmem
    rw [List.mem_singleton.1 hmem]
    exact isNoSmall_toUpper hascii
  · rename_i hbeyond
    exact of_mem_caseImage (fun c hc hascii => absurd hascii (by omega)) hruns hexpansions
      fun hascii => absurd hascii hbeyond

end Unicode

namespace Naming

open Unicode

/-- The first character of a class name is no small letter. -/
theorem exists_className_eq_cons (property : String) :
    ∃ c rest, (className property).toList = c :: rest ∧ IsNoSmall c := by
  rw [className, capitalize, normalize, String.toList_ofList, String.toList_ofList]
  obtain ⟨first, rest, hcamel⟩ := List.exists_cons_of_ne_nil (camel_ne_nil property.toList)
  obtain ⟨c, others, hupper⟩ := List.exists_cons_of_ne_nil (upper_ne_nil first)
  refine ⟨c, others ++ rest, by rw [hcamel, capitalizeChars, hupper, List.cons_append], ?_⟩
  apply isNoSmall_upper first
  rw [hupper]
  exact List.mem_cons_self

end Naming

end Exemplar
