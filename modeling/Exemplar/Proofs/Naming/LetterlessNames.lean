import Exemplar.Proofs.Naming.SingularCase

/-!
# Singulars without a letter

The last rule of the table asks for one letter only and takes it away.  So a name whose only letter
is the `s` at its end has a singular without a letter, and its elements go to the class of the stem
for names without letters.  No other name with a letter has such a singular: wherever another rule
fits it leaves a letter of the stem or puts one in.
-/

namespace Exemplar.Naming

open Discovery Unicode

/-! ## Letters that patterns ask for -/

/-- Whether a place of a pattern is for certain letters. -/
def Letter.asksLetter : Letter → Bool
  | .one letter => letter.isAlpha
  | .oneOf letters => letters.all Char.isAlpha
  | .noneOf _ => false

theorem isAlphabetic_of_foldLetter {c : Char} (h : (foldLetter c).isAlpha = true) :
    isAlphabetic c = true := by
  by_cases hlong : c = 'ſ'
  · rw [hlong]
    decide +kernel
  · by_cases hkelvin : c = '\u212A'
    · rw [hkelvin]
      decide +kernel
    · rw [foldLetter, if_neg hlong, if_neg hkelvin] at h
      rw [← isAlphabetic_toLower, isAlphabetic_of_ascii (ascii_of_isAlpha h), h]

theorem isAlphabetic_of_admits {letter : Letter} (hasks : letter.asksLetter = true) {c : Char}
    (h : letter.admits c = true) : isAlphabetic c = true := by
  apply isAlphabetic_of_foldLetter
  cases letter with
  | one a =>
      rw [Letter.admits, beq_iff_eq] at h
      rw [h]
      exact hasks
  | oneOf letters => exact List.all_eq_true.1 hasks _ (List.contains_iff_mem.1 h)
  | noneOf letters => cases hasks

/-- A text holds the letters that its pattern asks for. -/
theorem countP_asksLetter_le {letters : List Letter} {text : List Char}
    (h : describes letters text = true) :
    letters.countP Letter.asksLetter ≤ text.countP isAlphabetic := by
  induction letters generalizing text with
  | nil => exact Nat.zero_le _
  | cons letter letters ih =>
      cases text with
      | nil => cases h
      | cons c rest =>
          obtain ⟨hletter, hrest⟩ := Bool.and_eq_true_iff.1 h
          have hle := ih hrest
          rw [List.countP_cons, List.countP_cons]
          cases hasks : letter.asksLetter with
          | false =>
              rw [if_neg Bool.false_ne_true]
              omega
          | true =>
              rw [if_pos rfl, if_pos (isAlphabetic_of_admits hasks hletter)]
              omega

/-! ## The last rule -/

/-- The rule that takes an `s` away. -/
def trailingRule : Rule :=
  .ofSpelling [""] ["s"] ""

theorem singularRules_eq : singularRules = singularRules.dropLast ++ [trailingRule] :=
  rfl

/-- Every rule but the last asks for two letters, and leaves one of them or puts one in. -/
theorem rules_keep_letters :
    ∀ rule ∈ singularRules.dropLast, ∀ stem ∈ rule.stems,
      0 < stem.countP Letter.asksLetter + rule.replacement.countP isAlphabetic ∧
        ∀ ending ∈ rule.endings, 2 ≤ (stem ++ ending).countP Letter.asksLetter := by
  decide +kernel

theorem trailingRule_singular?_iff {word made : List Char} :
    trailingRule.singular? word = some made ↔
      ∃ last, word = made ++ [last] ∧ foldLetter last = 's' := by
  have hfit : trailingRule.singular? word = trailingRule.fit? word (spelled "") (spelled "s") := by
    simp only [trailingRule, Rule.singular?, Rule.ofSpelling, List.map_cons, List.map_nil,
      List.findSome?_singleton]
  have hreplacement : trailingRule.replacement = [] := rfl
  rw [hfit, Rule.fit?_eq_some_iff, hreplacement]
  constructor
  · rintro ⟨before, stemText, endingText, after, rfl, rfl, hstem, hending, rfl⟩
    rw [describes_spelled_iff] at hstem hending
    obtain rfl := List.map_eq_nil_iff.1 hstem
    obtain ⟨last, rfl, hlast⟩ := List.map_eq_singleton_iff.1 hending
    exact ⟨last, by simp only [List.append_nil, List.nil_append], hlast⟩
  · rintro ⟨last, rfl, hlast⟩
    exact ⟨made, [], [last], [], by simp only [List.append_nil, List.nil_append], rfl, rfl,
      describes_spelled_iff.2 (congrArg ([·]) hlast), by simp only [List.append_nil]⟩

/-! ## Names with one letter -/

/-- Whether the only letter of a text is an `s` at its end. -/
def IsLoneEnding (text : List Char) : Prop :=
  ∃ lead last, text = lead ++ [last] ∧ lead.any isAlphabetic = false ∧ foldLetter last = 's'

theorem countP_eq_zero_of_letterless {text : List Char} (h : text.any isAlphabetic = false) :
    text.countP isAlphabetic = 0 :=
  List.countP_eq_zero.2 (List.any_eq_false.1 h)

theorem countP_le_one_of_lone {text : List Char} (h : IsLoneEnding text) :
    text.countP isAlphabetic ≤ 1 := by
  obtain ⟨lead, last, rfl, hlead, -⟩ := h
  rw [List.countP_append, countP_eq_zero_of_letterless hlead, Nat.zero_add]
  exact List.countP_le_length

/-- What a rule that decides keeps of the letters. -/
theorem singular?_of_dropLast {rule : Rule} (hrule : rule ∈ singularRules.dropLast)
    {word made : List Char} (h : rule.singular? word = some made) :
    2 ≤ word.countP isAlphabetic ∧ 0 < made.countP isAlphabetic := by
  obtain ⟨stem, hstem, ending, hending, hfits⟩ := Rule.singular?_eq_some h
  obtain ⟨hkeeps, hasks⟩ := rules_keep_letters rule hrule stem hstem
  obtain ⟨before, stemText, endingText, after, rfl, -, hstemText, hendingText, rfl⟩ :=
    Rule.fit?_eq_some_iff.1 hfits
  have hpattern := countP_asksLetter_le
    (describes_append_iff.2 ⟨stemText, endingText, rfl, hstemText, hendingText⟩)
  have hletters := countP_asksLetter_le hstemText
  have htwo := hasks ending hending
  simp only [List.countP_append] at hpattern htwo ⊢
  omega

theorem isUncountable_of_lone {word : List Char} (h : IsLoneEnding word) :
    isUncountable word = false := by
  rw [Bool.eq_false_iff, ne_eq, isUncountable_iff]
  rintro ⟨uncountable, hmem, hword⟩
  have hcount : (word.map Char.toLower).countP isAlphabetic = word.countP isAlphabetic := by
    rw [List.countP_map]
    exact List.countP_congr fun c _ => by rw [Function.comp_apply, isAlphabetic_toLower]
  have hletters : uncountable.toList.countP isAlphabetic = uncountable.toList.length := by
    rw [List.countP_eq_length]
    intro c hc
    have halpha := (isAlpha_of_mem_uncountable hmem hc).1
    rw [isAlphabetic_of_ascii (ascii_of_isAlpha halpha), halpha]
  have hlone := countP_le_one_of_lone h
  have hfour := (uncountable_spelling uncountable hmem).1
  rw [hword, hletters] at hcount
  omega

/-- Of a lone ending nothing but the characters in front is left. -/
theorem singularChars_of_lone {lead : List Char} {last : Char}
    (hlead : lead.any isAlphabetic = false) (hlast : foldLetter last = 's') :
    singularChars (lead ++ [last]) = lead := by
  have hlone : IsLoneEnding (lead ++ [last]) := ⟨lead, last, rfl, hlead, hlast⟩
  have hothers : singularRules.dropLast.findSome? (·.singular? (lead ++ [last])) = none := by
    rw [List.findSome?_eq_none_iff]
    intro rule hrule
    rw [Option.eq_none_iff_forall_ne_some]
    intro made hmade
    have htwo := (singular?_of_dropLast hrule hmade).1
    have hone := countP_le_one_of_lone hlone
    omega
  rw [singularChars_eq, isUncountable_of_lone hlone, if_neg Bool.false_ne_true, ruled,
    singularRules_eq, List.findSome?_append, hothers, Option.none_or, List.findSome?_singleton,
    trailingRule_singular?_iff.2 ⟨last, rfl, hlast⟩, Option.getD_some]

/-- The names with a letter that lose it in the singular. -/
theorem singularChars_letterless_iff {word : List Char} (hletter : word.any isAlphabetic = true) :
    (singularChars word).any isAlphabetic = false ↔ IsLoneEnding word := by
  constructor
  · intro h
    rw [singularChars_eq] at h
    split at h
    · rw [hletter] at h
      cases h
    · rw [ruled_eq] at h
      cases hdeciding : decidingRule? word with
      | none =>
          rw [hdeciding] at h
          exact absurd hletter (Bool.eq_false_iff.1 h)
      | some rule =>
          obtain ⟨hrule, made, hmade⟩ := exists_of_decidingRule? hdeciding
          rw [hdeciding, Option.bind_some, hmade, Option.getD_some] at h
          rw [singularRules_eq, List.mem_append, List.mem_singleton] at hrule
          rcases hrule with hrule | rfl
          · have hpos := (singular?_of_dropLast hrule hmade).2
            rw [countP_eq_zero_of_letterless h] at hpos
            exact absurd hpos (Nat.lt_irrefl 0)
          · obtain ⟨last, hword, hlast⟩ := trailingRule_singular?_iff.1 hmade
            exact ⟨made, last, hword, h, hlast⟩
  · rintro ⟨lead, last, rfl, hlead, hlast⟩
    rw [singularChars_of_lone hlead hlast]
    exact hlead

/-! ## The classes of their elements -/

theorem isDigit_eq_false_of_ending {c : Char} (h : foldLetter c = 's') : c.isDigit = false := by
  rw [Bool.eq_false_iff]
  intro hdigit
  have hascii : c.toNat < 0x80 :=
    ascii_of_isAlphanum (by rw [Char.isAlphanum, hdigit, Bool.or_true])
  have hletter : isAlphabetic c = true := isAlphabetic_of_foldLetter (by rw [h]; decide)
  rw [isAlphabetic_of_ascii hascii] at hletter
  have hnine : c.val ≤ '9'.val := of_decide_eq_true (Bool.and_eq_true_iff.1 hdigit).2
  rcases Bool.or_eq_true_iff.1 hletter with hupper | hlower
  · exact absurd (UInt32.le_trans (of_decide_eq_true hupper).1 hnine) (by decide)
  · exact absurd (UInt32.le_trans (of_decide_eq_true (Bool.and_eq_true_iff.1 hlower).1) hnine)
      (by decide)

theorem elementClassName_of_lone {property : String} (h : IsLoneEnding property.toList) :
    elementClassName property =
      "Value" ++ String.ofList (property.toList.filter Char.isDigit) := by
  obtain ⟨lead, last, hproperty, hlead, hlast⟩ := h
  have hdigits : property.toList.filter Char.isDigit = lead.filter Char.isDigit := by
    rw [hproperty, List.filter_append, List.filter_cons_of_neg
      (Bool.eq_false_iff.1 (isDigit_eq_false_of_ending hlast)), List.filter_nil, List.append_nil]
  rw [hdigits, ← String.toList_inj, String.toList_append,
    String.toList_ofList (l := lead.filter Char.isDigit), elementClassName, className, capitalize,
    normalize, singular, String.toList_ofList, String.toList_ofList, String.toList_ofList,
    hproperty, singularChars_of_lone hlead hlast, camel_eq, hlead,
    if_neg Bool.false_ne_true]
  rfl

theorem camelFrom_eq_nil_iff (raw : List Char) :
    camelFrom false false raw = [] ↔ raw.any isAlphabetic = false := by
  constructor
  · intro h
    rw [Bool.eq_false_iff]
    exact fun hletter => camelFrom_ne_nil hletter h
  · intro h
    exact camelFrom_of_letterless fun c hc => Bool.eq_false_iff.2 (List.any_eq_false.1 h c hc)

/-- The elements under a name with a letter are named by the stem for names without letters exactly
if the only letter of the name is an `s` at its end. -/
theorem singular_letterless_iff (property : String)
    (hletter : property.toList.any isAlphabetic = true) :
    ((singular property).toList.any isAlphabetic = false ↔ IsLoneEnding property.toList) ∧
      (camelFrom false false (singular property).toList = [] ↔ IsLoneEnding property.toList) ∧
      (IsLoneEnding property.toList →
        elementClassName property =
          "Value" ++ String.ofList (property.toList.filter Char.isDigit)) := by
  rw [camelFrom_eq_nil_iff, singular, String.toList_ofList]
  have hiff := singularChars_letterless_iff hletter
  exact ⟨hiff, hiff, elementClassName_of_lone⟩

theorem singular_letterless_iff_years :
    "year_2000s".toList.any isAlphabetic = true ∧ "2000s".toList.any isAlphabetic = true ∧
      ¬ IsLoneEnding "year_2000s".toList ∧ IsLoneEnding "2000s".toList ∧
      elementClassName "2000s" = "Value2000" := by
  have hyear : "year_2000s".toList.any isAlphabetic = true := by decide +kernel
  have hplain : "2000s".toList.any isAlphabetic = true := by decide +kernel
  have hkept : ¬ (singular "year_2000s").toList.any isAlphabetic = false := by decide +kernel
  have hlost : (singular "2000s").toList.any isAlphabetic = false := by decide +kernel
  have hlone := (singular_letterless_iff "2000s" hplain).1.1 hlost
  exact ⟨hyear, hplain, fun h => hkept ((singular_letterless_iff "year_2000s" hyear).1.2 h), hlone,
    (singular_letterless_iff "2000s" hplain).2.2 hlone⟩

/-- A name that is a letter, and the class that its elements share with those of another name. -/
theorem singular_letterless_s :
    "s".toList.any isAlphabetic = true ∧ singular "s" = "" ∧ elementClassName "s" = "Value" ∧
      elementClassName "values" = "Value" := by
  decide +kernel

end Exemplar.Naming
