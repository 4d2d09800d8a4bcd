import Exemplar.Discovery.Basic
import Exemplar.Proofs.Naming.AsciiNames
import Exemplar.Proofs.Naming.SingularRules

/-!
# Singulars without regard to case

Rules compare letters in lower case and put in small letters only, and the words without a plural
are looked up in lower case.  So the singular of a name in lower case is the singular of the name, in
lower case, and spellings of a property which differ in case alone give element classes that do.
Lower case is that of the ASCII letters here; other characters stay as they are.
-/

namespace Exemplar

namespace Unicode

theorem toLower_of_beyond {c : Char} (h : 0x80 ≤ c.toNat) : c.toLower = c := by
  apply dif_neg
  rintro ⟨-, hlast⟩
  have hbelow : c.toNat ≤ 'Z'.toNat := UInt32.le_iff_toNat_le.1 hlast
  have hz : 'Z'.toNat < 0x80 := by decide
  omega

/-- A function does not see the lower case of characters if it does not see that of any ASCII
character. -/
theorem apply_toLower {α : Type} {f : Char → α}
    (h : ∀ n : Fin 128, f (Char.ofNat n).toLower = f (Char.ofNat n)) (c : Char) :
    f c.toLower = f c := by
  by_cases hascii : c.toNat < 0x80
  · exact ascii_forall (p := fun c => f c.toLower = f c) h hascii
  · rw [toLower_of_beyond (Nat.le_of_not_lt hascii)]

/-- What names, singulars and the lower case of texts read of a character. -/
structure Caseless where
  isAlphabetic : Bool
  isDigit : Bool
  isCased : Bool
  isCaseIgnorable : Bool
  isSigma : Bool
  lower : List Char
  /-- The upper case, with its ASCII letters in lower case. -/
  upper : List Char
  small : Char
  folded : Char
  deriving DecidableEq

def caseless (c : Char) : Caseless where
  isAlphabetic := isAlphabetic c
  isDigit := c.isDigit
  isCased := isCased c
  isCaseIgnorable := isCaseIgnorable c
  isSigma := decide (c = 'Σ')
  lower := lower c
  upper := (upper c).map Char.toLower
  small := c.toLower
  folded := Naming.foldLetter c

theorem caseless_toLower (c : Char) : caseless c.toLower = caseless c :=
  apply_toLower (by decide +kernel) c

theorem isAlphabetic_toLower (c : Char) : isAlphabetic c.toLower = isAlphabetic c :=
  congrArg Caseless.isAlphabetic (caseless_toLower c)

theorem isDigit_toLower (c : Char) : c.toLower.isDigit = c.isDigit :=
  congrArg Caseless.isDigit (caseless_toLower c)

theorem isCased_toLower (c : Char) : isCased c.toLower = isCased c :=
  congrArg Caseless.isCased (caseless_toLower c)

theorem isCaseIgnorable_toLower (c : Char) : isCaseIgnorable c.toLower = isCaseIgnorable c :=
  congrArg Caseless.isCaseIgnorable (caseless_toLower c)

theorem toLower_eq_sigma_iff (c : Char) : c.toLower = 'Σ' ↔ c = 'Σ' :=
  decide_eq_decide.1 (congrArg Caseless.isSigma (caseless_toLower c))

theorem lower_toLower (c : Char) : lower c.toLower = lower c :=
  congrArg Caseless.lower (caseless_toLower c)

theorem map_toLower_upper_toLower (c : Char) :
    (upper c.toLower).map Char.toLower = (upper c).map Char.toLower :=
  congrArg Caseless.upper (caseless_toLower c)

theorem toLower_toLower (c : Char) : c.toLower.toLower = c.toLower :=
  congrArg Caseless.small (caseless_toLower c)

theorem meetsCased_map_toLower (cs : List Char) :
    meetsCased (cs.map Char.toLower) = meetsCased cs := by
  have hignorable : isCaseIgnorable ∘ Char.toLower = isCaseIgnorable :=
    funext isCaseIgnorable_toLower
  rw [meetsCased, meetsCased, List.dropWhile_map, hignorable]
  cases cs.dropWhile isCaseIgnorable with
  | nil => rfl
  | cons c rest => exact isCased_toLower c

/-- The lower case of a text is that of the text with its ASCII letters in lower case. -/
theorem lowercaseAfter_map_toLower (before cs : List Char) :
    lowercaseAfter (before.map Char.toLower) (cs.map Char.toLower) = lowercaseAfter before cs := by
  induction cs generalizing before with
  | nil => rfl
  | cons c rest ih =>
      have hrest := ih (c :: before)
      rw [List.map_cons] at hrest
      rw [List.map_cons, lowercaseAfter, lowercaseAfter, hrest, meetsCased_map_toLower,
        meetsCased_map_toLower, lower_toLower]
      simp only [toLower_eq_sigma_iff]

/-- The lower case of a character beyond ASCII holds another such character, but for that of the
Kelvin sign. -/
theorem exists_mem_lower_of_beyond {c : Char} (h : 0x80 ≤ c.toNat) :
    ∃ image ∈ lower c, 0x80 ≤ image.toNat ∨ image = 'k' := by
  have hruns : ∀ run ∈ lowerRuns,
      run.hasImages (fun image => 0x80 ≤ image.toNat ∨ image = 'k') = true := by
    decide +kernel
  have hexpansions : ∀ entry ∈ lowerExpansions, ∃ n ∈ entry.2.1 :: entry.2.2,
      0x80 ≤ (Char.ofNat n).toNat ∨ Char.ofNat n = 'k' := by
    decide +kernel
  rw [lower, if_neg (Nat.not_lt.2 h)]
  unfold caseImage
  split
  · rename_i entry head tail hfound
    obtain ⟨n, hn, himage⟩ := hexpansions _ (List.mem_of_find?_eq_some hfound)
    exact ⟨Char.ofNat n, List.mem_map_of_mem hn, himage⟩
  · split
    · rename_i n hn
      exact ⟨_, List.mem_cons_self, of_image? (fun _ => Or.inl) hruns hn⟩
    · exact ⟨c, List.mem_cons_self, .inl h⟩

theorem ascii_of_lowercaseAfter {before cs : List Char}
    (h : ∀ image ∈ lowercaseAfter before cs, image.toNat < 0x80 ∧ image ≠ 'k') :
    ∀ c ∈ cs, c.toNat < 0x80 := by
  induction cs generalizing before with
  | nil => exact fun c hc => absurd hc List.not_mem_nil
  | cons c rest ih =>
      rw [lowercaseAfter] at h
      refine List.forall_mem_cons.2
        ⟨?_, ih fun image himage => h image (List.mem_append_right _ himage)⟩
      by_contra hbeyond
      have hsigma : ¬ c = 'Σ' := by
        rintro rfl
        split at h
        · split at h
          · exact absurd (h 'ς' List.mem_cons_self).1 (by decide)
          · exact absurd (h 'σ' List.mem_cons_self).1 (by decide)
        · contradiction
      rw [if_neg hsigma] at h
      obtain ⟨image, himage, hlower⟩ := exists_mem_lower_of_beyond (Nat.le_of_not_lt hbeyond)
      obtain ⟨hascii, hkelvin⟩ := h image (List.mem_append_left _ himage)
      exact hlower.elim (by omega) hkelvin

end Unicode

namespace Naming

open Discovery Unicode

/-! ## Singulars -/

theorem foldLetter_toLower (c : Char) : foldLetter c.toLower = foldLetter c :=
  congrArg Caseless.folded (caseless_toLower c)

theorem isUncountable_map_toLower (word : List Char) :
    isUncountable (word.map Char.toLower) = isUncountable word := by
  have hlowercase := lowercaseAfter_map_toLower [] word
  rw [List.map_nil] at hlowercase
  rw [isUncountable, isUncountable, lowercase, lowercase, hlowercase]

/-- The words without a plural are spelled with small ASCII letters, none of them a `k`. -/
theorem uncountable_spelling :
    ∀ uncountable ∈ uncountableWords, 4 ≤ uncountable.toList.length ∧
      uncountable.toList.map Char.toLower = uncountable.toList ∧
      uncountable.toList.all (fun c => c.isAlpha && c != 'k') = true := by
  decide

theorem isAlpha_of_mem_uncountable {uncountable : String} (h : uncountable ∈ uncountableWords)
    {c : Char} (hc : c ∈ uncountable.toList) : c.isAlpha = true ∧ c ≠ 'k' := by
  have hspelled := List.all_eq_true.1 (uncountable_spelling uncountable h).2.2 c hc
  rw [Bool.and_eq_true, bne_iff_ne] at hspelled
  exact hspelled

/-- The words without a plural are those of ASCII letters that are one in the lower case of the
letters. -/
theorem isUncountable_iff {word : List Char} :
    isUncountable word = true ↔
      ∃ uncountable ∈ uncountableWords, word.map Char.toLower = uncountable.toList := by
  constructor
  · intro h
    obtain ⟨uncountable, hmem, hlowercase⟩ := List.any_eq_true.1 h
    rw [beq_iff_eq, lowercase] at hlowercase
    have hascii : ∀ c ∈ word, c.toNat < 0x80 := by
      apply ascii_of_lowercaseAfter
      rw [← hlowercase]
      intro image himage
      obtain ⟨halpha, hkelvin⟩ := isAlpha_of_mem_uncountable hmem himage
      exact ⟨ascii_of_isAlpha halpha, hkelvin⟩
    exact ⟨uncountable, hmem, by rw [hlowercase, lowercaseAfter_of_ascii [] hascii]⟩
  · rintro ⟨uncountable, hmem, hword⟩
    have hascii : ∀ c ∈ uncountable.toList, c.toNat < 0x80 :=
      fun c hc => ascii_of_isAlpha (isAlpha_of_mem_uncountable hmem hc).1
    rw [← isUncountable_map_toLower, hword]
    refine List.any_eq_true.2 ⟨uncountable, hmem, beq_iff_eq.2 ?_⟩
    rw [lowercase, lowercaseAfter_of_ascii [] hascii, (uncountable_spelling _ hmem).2.1]

theorem toLower_replacement :
    ∀ rule ∈ singularRules, rule.replacement.map Char.toLower = rule.replacement :=
  fun rule hrule => (replacement_small rule hrule).1

theorem singularChars_map_toLower (word : List Char) :
    singularChars (word.map Char.toLower) = (singularChars word).map Char.toLower := by
  rw [singularChars_eq, singularChars_eq, isUncountable_map_toLower,
    ruled_map foldLetter_toLower toLower_replacement]
  split <;> rfl

theorem toList_toLower (text : String) : text.toLower.toList = text.toList.map Char.toLower :=
  String.toList_map

theorem singular_toLower (word : String) : singular word.toLower = (singular word).toLower := by
  rw [← String.toList_inj, toList_toLower, singular, singular, String.toList_ofList,
    String.toList_ofList, toList_toLower, singularChars_map_toLower]

/-! ## Class names -/

theorem camelFrom_map_toLower (started boundary : Bool) (raw : List Char) :
    (camelFrom started boundary (raw.map Char.toLower)).map Char.toLower =
      (camelFrom started boundary raw).map Char.toLower := by
  induction raw generalizing started boundary with
  | nil => rfl
  | cons c rest ih =>
      rw [List.map_cons, camelFrom, camelFrom, isAlphabetic_toLower, isDigit_toLower]
      split
      · rw [List.map_append, List.map_append, ih]
        split
        · rw [map_toLower_upper_toLower]
        · rw [List.map_singleton, List.map_singleton, toLower_toLower]
      · split
        · rw [List.map_append, List.map_append, ih]
          split
          · rw [List.map_singleton, List.map_singleton, toLower_toLower]
          · rfl
        · exact ih _ _

theorem camel_map_toLower (raw : List Char) :
    (camel (raw.map Char.toLower)).map Char.toLower = (camel raw).map Char.toLower := by
  have hchars := camelFrom_map_toLower false false raw
  unfold camel
  cases hraw : camelFrom false false raw with
  | nil =>
      have hdigit : Char.isDigit ∘ Char.toLower = Char.isDigit := funext isDigit_toLower
      rw [hraw, List.map_nil, List.map_eq_nil_iff] at hchars
      rw [hchars]
      dsimp only
      rw [List.map_append, List.map_append, List.filter_map, hdigit, List.map_map]
      simp only [Function.comp_def, toLower_toLower]
  | cons first rest =>
      rw [hraw] at hchars
      cases hlower : camelFrom false false (raw.map Char.toLower) with
      | nil =>
          rw [hlower] at hchars
          cases hchars
      | cons other others =>
          rw [hlower] at hchars
          exact hchars

theorem map_toLower_capitalizeChars {text other : List Char}
    (h : text.map Char.toLower = other.map Char.toLower) :
    (capitalizeChars text).map Char.toLower = (capitalizeChars other).map Char.toLower := by
  cases text with
  | nil =>
      rw [List.map_nil, eq_comm, List.map_eq_nil_iff] at h
      rw [h]
  | cons c rest =>
      cases other with
      | nil => cases h
      | cons d others =>
          rw [List.map_cons, List.map_cons, List.cons.injEq] at h
          rw [capitalizeChars, capitalizeChars, List.map_append, List.map_append, h.2,
            ← map_toLower_upper_toLower c, h.1, map_toLower_upper_toLower]

theorem className_toLower (property : String) :
    (className property.toLower).toLower = (className property).toLower := by
  simp only [← String.toList_inj, toList_toLower, className, capitalize, normalize,
    String.toList_ofList]
  exact map_toLower_capitalizeChars (camel_map_toLower property.toList)

/-- The singular of a name in lower case is its singular in lower case, and two spellings of a
property that differ in case alone name element classes that differ in case alone. -/
theorem singular_ignores_case (word : String) :
    (singular word).toLower = singular word.toLower ∧
      ∀ other : String, other.toLower = word.toLower →
        (elementClassName other).toLower = (elementClassName word).toLower := by
  refine ⟨(singular_toLower word).symm, fun other h => ?_⟩
  have hname : ∀ property : String, (elementClassName property).toLower =
      (className (singular property.toLower)).toLower := by
    intro property
    rw [elementClassName, singular_toLower, className_toLower]
  rw [hname, hname, h]

/-- The same property in two spellings. -/
theorem singular_ignores_case_mixed :
    "userADDRESSES".toLower = "UserAddresses".toLower ∧
      (elementClassName "userADDRESSES").toLower = (elementClassName "UserAddresses").toLower := by
  have hspellings : "userADDRESSES".toLower = "UserAddresses".toLower := by
    rw [← String.toList_inj, toList_toLower, toList_toLower]
    decide
  exact ⟨hspellings, (singular_ignores_case "UserAddresses").2 "userADDRESSES" hspellings⟩

end Naming

end Exemplar
