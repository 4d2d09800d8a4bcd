import Exemplar.Proofs.Naming.SingularCase

/-!
# Singulars of compound names

A rule for the end of a name sees the last word of a compound only: an underscore is none of the
letters that it asks for.  It sees one more thing, namely that there is a character in front of the
word.  So a compound is made singular in its last word, but for the few words that are looked up as
a whole or need a letter in front of them.
-/

namespace Exemplar.Naming

open Discovery

/-! ## First matches -/

theorem findSome?_map_of_forall {α β : Type} {candidates : List α} {first second : α → Option β}
    {image : β → β} (h : ∀ a ∈ candidates, first a = (second a).map image) :
    candidates.findSome? first = (candidates.findSome? second).map image := by
  induction candidates with
  | nil => rfl
  | cons a rest ih =>
      rw [List.forall_mem_cons] at h
      rw [List.findSome?_cons, List.findSome?_cons, h.1, ih h.2]
      cases second a <;> rfl

/-- Two searches that agree but on some candidates find the same, if neither finds one of those. -/
theorem find?_eq_of_agree {α : Type} {candidates : List α} {first second aside : α → Bool}
    (hagree : ∀ a ∈ candidates, aside a = false → first a = second a)
    (hfirst : (candidates.find? first).any aside = false)
    (hsecond : (candidates.find? second).any aside = false) :
    candidates.find? first = candidates.find? second := by
  induction candidates with
  | nil => rfl
  | cons a rest ih =>
      rw [List.forall_mem_cons] at hagree
      rw [List.find?_cons] at hfirst hsecond
      rw [List.find?_cons, List.find?_cons]
      cases haside : aside a with
      | false =>
          rw [hagree.1 haside] at hfirst ⊢
          cases hsecond' : second a with
          | true => rfl
          | false =>
              rw [hsecond'] at hfirst hsecond
              exact ih hagree.2 hfirst hsecond
      | true =>
          cases hfirst' : first a with
          | true =>
              rw [hfirst'] at hfirst
              exact absurd hfirst (by rw [Option.any_some, haside]; decide)
          | false =>
              cases hsecond' : second a with
              | true =>
                  rw [hsecond'] at hsecond
                  exact absurd hsecond (by rw [Option.any_some, haside]; decide)
              | false =>
                  rw [hfirst'] at hfirst
                  rw [hsecond'] at hsecond
                  exact ih hagree.2 hfirst hsecond

/-! ## A text in front of a name -/

/-- A rule for the end of a name leaves a text in front of the name alone, if its pattern does not
reach into the text. -/
theorem Rule.fit?_append {rule : Rule} (hplace : rule.place = .ending) {front word : List Char}
    {stem ending : List Letter}
    (hreach : ∀ shift, shift <:+ front → shift ≠ [] →
      describes (stem ++ ending) (shift ++ word) = false) :
    rule.fit? (front ++ word) stem ending = (rule.fit? word stem ending).map (front ++ ·) := by
  ext made
  rw [Option.map_eq_some_iff, fit?_eq_some_iff, hplace]
  constructor
  · rintro ⟨before, stemText, endingText, after, hword, rfl, hstem, hending, rfl⟩
    rw [List.append_nil] at hword
    rcases List.append_eq_append_iff.1 hword with ⟨inner, rfl, rfl⟩ | ⟨shift, rfl, htext⟩
    · refine ⟨inner ++ stemText ++ rule.replacement, ?_, by simp only [List.append_assoc,
        List.append_nil]⟩
      rw [fit?_eq_some_iff, hplace]
      exact ⟨inner, stemText, endingText, [], (List.append_nil _).symm, rfl, hstem, hending,
        (List.append_nil _).symm⟩
    · have hdescribes := describes_append_iff.2 ⟨stemText, endingText, rfl, hstem, hending⟩
      rw [htext] at hdescribes
      cases shift with
      | nil =>
          refine ⟨stemText ++ rule.replacement, ?_, by simp only [List.append_assoc,
            List.append_nil]⟩
          rw [fit?_eq_some_iff, hplace]
          rw [List.nil_append] at htext
          exact ⟨[], stemText, endingText, [], by rw [← htext, List.nil_append, List.append_nil],
            rfl, hstem, hending, (List.append_nil _).symm⟩
      | cons c rest =>
          rw [hreach _ (List.suffix_append _ _) (List.cons_ne_nil _ _)] at hdescribes
          cases hdescribes
  · rintro ⟨cut, hcut, rfl⟩
    rw [fit?_eq_some_iff, hplace] at hcut
    obtain ⟨before, stemText, endingText, after, rfl, rfl, hstem, hending, rfl⟩ := hcut
    exact ⟨front ++ before, stemText, endingText, [], by simp only [List.append_assoc], rfl, hstem,
      hending, by simp only [List.append_assoc]⟩

/-- Whether a rule at the beginning of a name decides on it. -/
def isDecidedAtBeginning (word : List Char) : Bool :=
  (decidingRule? word).any fun rule => decide (rule.place = .beginning)

/-- Where the rules for the end leave a text in front of a name alone, all do, unless one at the
beginning decides. -/
theorem ruled_append {front word : List Char}
    (hrules : ∀ rule ∈ singularRules, rule.place ≠ .beginning →
      rule.singular? (front ++ word) = (rule.singular? word).map (front ++ ·))
    (hwhole : isDecidedAtBeginning (front ++ word) = false)
    (hword : isDecidedAtBeginning word = false) :
    ruled (front ++ word) = front ++ ruled word := by
  have hdeciding : decidingRule? (front ++ word) = decidingRule? word := by
    refine find?_eq_of_agree (fun rule hrule hplace => ?_) hwhole hword
    rw [hrules rule hrule (of_decide_eq_false hplace), Option.isSome_map]
  rw [ruled_eq, ruled_eq, hdeciding]
  cases hrule : decidingRule? word with
  | none => rfl
  | some rule =>
      have hplace : rule.place ≠ .beginning := by
        rw [isDecidedAtBeginning, hrule] at hword
        exact of_decide_eq_false hword
      rw [Option.bind_some, Option.bind_some,
        hrules rule (List.mem_of_find?_eq_some hrule) hplace]
      cases rule.singular? word <;> rfl

/-! ## Underscores -/

theorem exists_admits_of_describes {letters : List Letter} {text : List Char} {c : Char}
    (h : describes letters text = true) (hc : c ∈ text) :
    ∃ letter ∈ letters, letter.admits c = true := by
  induction letters generalizing text with
  | nil =>
      cases text with
      | nil => cases hc
      | cons d rest => cases h
  | cons letter letters ih =>
      cases text with
      | nil => cases hc
      | cons d rest =>
          obtain ⟨hletter, hrest⟩ := Bool.and_eq_true_iff.1 h
          rcases List.mem_cons.1 hc with rfl | hc
          · exact ⟨letter, List.mem_cons_self, hletter⟩
          · obtain ⟨other, hother, hadmits⟩ := ih hrest hc
            exact ⟨other, List.mem_cons_of_mem _ hother, hadmits⟩

/-- A pattern admits an underscore in the first place at most, and then asks for `ies` or `ves` at
the end of a name.  The names asked for as a whole are `axis` and `axes`, and the only beginning is
`oxen`. -/
theorem patterns_of_table :
    ∀ rule ∈ singularRules, ∀ stem ∈ rule.stems, ∀ ending ∈ rule.endings,
      (∀ letter ∈ (stem ++ ending).tail, letter.admits '_' = false) ∧
        ((stem ++ ending).head?.any (·.admits '_') = true →
          rule.place = .ending ∧ (stem ++ ending).tail ∈ [spelled "ies", spelled "ves"]) ∧
        (rule.place = .whole → stem ++ ending ∈ [spelled "axis", spelled "axes"]) ∧
        (rule.place = .beginning → stem ++ ending = spelled "oxen") := by
  decide +kernel

section Table

variable {rule : Rule} (hrule : rule ∈ singularRules)

include hrule

/-- A pattern that describes a text with an underscore begins there. -/
theorem underscore_described {stem ending : List Letter} (hstem : stem ∈ rule.stems)
    (hending : ending ∈ rule.endings) {front last : List Char}
    (h : describes (stem ++ ending) (front ++ '_' :: last) = true) :
    front = [] ∧ rule.place = .ending ∧ last.map foldLetter ∈ ["ies".toList, "ves".toList] := by
  obtain ⟨htail, hhead, -⟩ := patterns_of_table rule hrule stem hstem ending hending
  cases hpattern : stem ++ ending with
  | nil =>
      rw [hpattern] at h
      cases front <;> cases h
  | cons letter letters =>
      rw [hpattern] at h htail hhead
      cases front with
      | nil =>
          obtain ⟨hletter, hlast⟩ := Bool.and_eq_true_iff.1 h
          obtain ⟨hplace, hletters⟩ := hhead hletter
          obtain ⟨word, hword, rfl⟩ : ∃ word ∈ ["ies", "ves"], spelled word = letters :=
            List.mem_map.1 hletters
          rw [describes_spelled_iff.1 hlast]
          exact ⟨rfl, hplace, List.mem_map_of_mem (f := String.toList) hword⟩
      | cons c rest =>
          obtain ⟨-, hrest⟩ := Bool.and_eq_true_iff.1 h
          obtain ⟨other, hother, hadmits⟩ := exists_admits_of_describes (c := '_') hrest
            (List.mem_append_right _ List.mem_cons_self)
          rw [htail other hother] at hadmits
          cases hadmits

theorem fit?_eq_none_of_whole (hplace : rule.place = .whole) {stem ending : List Letter}
    (hstem : stem ∈ rule.stems) (hending : ending ∈ rule.endings) {word : List Char}
    (h : word.map foldLetter ∉ ["axis".toList, "axes".toList]) :
    rule.fit? word stem ending = none := by
  rw [Option.eq_none_iff_forall_ne_some]
  intro made hmade
  rw [Rule.fit?_eq_some_iff, hplace] at hmade
  obtain ⟨before, stemText, endingText, after, rfl, ⟨rfl, rfl⟩, hstemText, hendingText, rfl⟩ :=
    hmade
  have hdescribes := describes_append_iff.2 ⟨stemText, endingText, rfl, hstemText, hendingText⟩
  obtain ⟨-, -, hwhole, -⟩ := patterns_of_table rule hrule stem hstem ending hending
  obtain ⟨word, hword, hspelled⟩ : ∃ word ∈ ["axis", "axes"], spelled word = stem ++ ending :=
    List.mem_map.1 (hwhole hplace)
  rw [← hspelled, describes_spelled_iff] at hdescribes
  rw [List.nil_append, List.append_nil, hdescribes] at h
  exact h (List.mem_map_of_mem (f := String.toList) hword)

/-- A rule leaves the text in front of a name alone, unless the pattern reaches into it or is that
of the name as a whole. -/
theorem singular?_append (hplace : rule.place ≠ .beginning) {front word : List Char}
    (hreach : ∀ shift, shift <:+ front → shift ≠ [] → ∀ stem ∈ rule.stems,
      ∀ ending ∈ rule.endings, describes (stem ++ ending) (shift ++ word) = false)
    (hfront : (front ++ word).map foldLetter ∉ ["axis".toList, "axes".toList])
    (hword : word.map foldLetter ∉ ["axis".toList, "axes".toList]) :
    rule.singular? (front ++ word) = (rule.singular? word).map (front ++ ·) := by
  refine findSome?_map_of_forall fun stem hstem => findSome?_map_of_forall fun ending hending => ?_
  cases hwhere : rule.place with
  | ending =>
      exact Rule.fit?_append hwhere fun shift hshift hne =>
        hreach shift hshift hne stem hstem ending hending
  | whole =>
      rw [fit?_eq_none_of_whole hrule hwhere hstem hending hfront,
        fit?_eq_none_of_whole hrule hwhere hstem hending hword]
      rfl
  | beginning => exact absurd hwhere hplace

end Table

theorem notMem_axes_of_underscore {word : List Char} (h : '_' ∈ word) :
    word.map foldLetter ∉ ["axis".toList, "axes".toList] := by
  intro hmem
  have hnone : ∀ axis ∈ ["axis".toList, "axes".toList], foldLetter '_' ∉ axis := by decide
  exact hnone _ hmem (List.mem_map_of_mem h)

/-- The names on which a rule at their beginning decides begin with `oxen`. -/
theorem oxen_of_isDecidedAtBeginning {word : List Char} (h : isDecidedAtBeginning word = true) :
    (word.map foldLetter).take 4 = "oxen".toList := by
  obtain ⟨rule, hdeciding, hplace⟩ := (Option.any_eq_true _ _).1 h
  replace hplace := of_decide_eq_true hplace
  obtain ⟨hrule, made, hmade⟩ := exists_of_decidingRule? hdeciding
  obtain ⟨stem, hstem, ending, hending, hfits⟩ := Rule.singular?_eq_some hmade
  rw [Rule.fit?_eq_some_iff, hplace] at hfits
  obtain ⟨before, stemText, endingText, after, rfl, rfl, hstemText, hendingText, -⟩ := hfits
  have hdescribes := describes_append_iff.2 ⟨stemText, endingText, rfl, hstemText, hendingText⟩
  obtain ⟨-, -, -, hbeginning⟩ := patterns_of_table rule hrule stem hstem ending hending
  rw [hbeginning hplace, describes_spelled_iff] at hdescribes
  rw [List.nil_append, List.map_append, hdescribes]
  rfl

theorem isDecidedAtBeginning_underscore (last : List Char) :
    isDecidedAtBeginning ('_' :: last) = false := by
  rw [Bool.eq_false_iff]
  intro h
  have hoxen := oxen_of_isDecidedAtBeginning h
  rw [List.map_cons, List.take_succ_cons] at hoxen
  exact absurd (List.cons.inj hoxen).1 (by decide)

/-- What the rules make of a compound shows in its last word and the underscore in front of it. -/
theorem ruled_behind {lead last : List Char}
    (hwhole : isDecidedAtBeginning (lead ++ '_' :: last) = false) :
    ruled (lead ++ '_' :: last) = lead ++ ruled ('_' :: last) := by
  refine ruled_append (fun rule hrule hplace => singular?_append hrule hplace ?_ ?_ ?_) hwhole
    (isDecidedAtBeginning_underscore last)
  · intro shift hshift hne stem hstem ending hending
    rw [Bool.eq_false_iff]
    intro hdescribes
    exact hne (underscore_described hrule hstem hending hdescribes).1
  · exact notMem_axes_of_underscore (List.mem_append_right _ List.mem_cons_self)
  · exact notMem_axes_of_underscore List.mem_cons_self

/-- The words of which rules make something else behind an underscore: those that a rule asks for as
a whole, and endings that need a letter in front. -/
def bareWords : List (List Char) :=
  ["axis".toList, "axes".toList, "ies".toList, "ves".toList]

theorem ruled_underscore {last : List Char} (hlast : isDecidedAtBeginning last = false)
    (hbare : last.map foldLetter ∉ bareWords) : ruled ('_' :: last) = '_' :: ruled last := by
  have haxes : last.map foldLetter ∉ ["axis".toList, "axes".toList] :=
    fun h => hbare (List.mem_append_left ["ies".toList, "ves".toList] h)
  have hendings : last.map foldLetter ∉ ["ies".toList, "ves".toList] :=
    fun h => hbare (List.mem_append_right ["axis".toList, "axes".toList] h)
  change ruled (['_'] ++ last) = ['_'] ++ ruled last
  refine ruled_append (fun rule hrule hplace => singular?_append hrule hplace ?_
    (notMem_axes_of_underscore List.mem_cons_self) haxes)
    (isDecidedAtBeginning_underscore last) hlast
  intro shift hshift hne stem hstem ending hending
  have hone : shift = ['_'] := by
    rcases List.suffix_cons_iff.1 hshift with hone | hnil
    · exact hone
    · exact absurd (List.suffix_nil.1 hnil) hne
  rw [hone, Bool.eq_false_iff]
  intro hdescribes
  have hjoint : describes (stem ++ ending) ([] ++ '_' :: last) = true := hdescribes
  exact hendings (underscore_described hrule hstem hending hjoint).2.2

/-! ## Words that stand apart -/

theorem foldLetter_foldLetter (c : Char) : foldLetter (foldLetter c) = foldLetter c := by
  by_cases hlong : c = 'ſ'
  · rw [hlong]
    decide
  · by_cases hkelvin : c = '\u212A'
    · rw [hkelvin]
      decide
    · have hfold : foldLetter c = c.toLower := by
        rw [foldLetter, if_neg hlong, if_neg hkelvin]
      rw [hfold, foldLetter_toLower, hfold]

theorem foldLetter_replacement :
    ∀ rule ∈ singularRules, rule.replacement.map foldLetter = rule.replacement :=
  fun rule hrule => (replacement_small rule hrule).2

theorem map_foldLetter_of_toLower {word : List Char} {small : List Char}
    (h : word.map Char.toLower = small) : word.map foldLetter = small.map foldLetter := by
  rw [← h, List.map_map]
  exact List.map_congr_left fun c _ => (foldLetter_toLower c).symm

theorem isUncountable_underscore (lead last : List Char) :
    isUncountable (lead ++ '_' :: last) = false := by
  rw [Bool.eq_false_iff, ne_eq, isUncountable_iff]
  rintro ⟨uncountable, hmem, hword⟩
  have hunderscore : '_'.toLower ∈ uncountable.toList := by
    rw [← hword]
    exact List.mem_map_of_mem (List.mem_append_right _ List.mem_cons_self)
  exact absurd (isAlpha_of_mem_uncountable hmem hunderscore).1 (by decide)

theorem isUncountable_of_bare {word : List Char} (h : word.map foldLetter ∈ bareWords) :
    isUncountable word = false := by
  rw [Bool.eq_false_iff, ne_eq, isUncountable_iff]
  rintro ⟨uncountable, hmem, hword⟩
  have hnone : ∀ uncountable ∈ uncountableWords,
      uncountable.toList.map foldLetter ∉ bareWords := by
    decide
  rw [map_foldLetter_of_toLower hword] at h
  exact hnone uncountable hmem h

/-- The words without a plural that rules change where they are the last of a compound. -/
def ruledUncountables : List (List Char) :=
  ["species".toList, "jeans".toList, "police".toList, "metadata".toList]

/-- Whether a word has another singular alone than it has behind an underscore.  The rule for
`series` puts the small letters of it in, so that only a word with capitals tells. -/
def StandsApart (word : List Char) : Prop :=
  word.map Char.toLower ∈ ruledUncountables ∨
    (word.map Char.toLower = "series".toList ∧ word.tail ≠ "eries".toList) ∨
    word.map foldLetter ∈ bareWords

instance (word : List Char) : Decidable (StandsApart word) :=
  inferInstanceAs (Decidable (_ ∨ _))

/-- The rule that keeps `series` as it is. -/
def seriesRule : Rule :=
  .ofSpelling ["s"] ["eries"] "eries"

/-- What the rules make of the words without a plural behind an underscore. -/
theorem uncountables_underscore :
    ∀ uncountable ∈ uncountableWords,
      (uncountable.toList ∈ ruledUncountables ∧
          ruled ('_'.toLower :: uncountable.toList) ≠ '_'.toLower :: uncountable.toList) ∨
        (uncountable = "series" ∧
          decidingRule? ('_'.toLower :: uncountable.toList) = some seriesRule) ∨
        (uncountable.toList ∉ ruledUncountables ∧ uncountable ≠ "series" ∧
          decidingRule? ('_'.toLower :: uncountable.toList) = none) := by
  decide +kernel

theorem ruled_underscore_series {word : List Char} (h : word.map Char.toLower = "series".toList)
    (hdeciding : decidingRule? ('_' :: word) = some seriesRule) :
    ruled ('_' :: word) = '_' :: word ↔ word.tail = "eries".toList := by
  cases word with
  | nil => cases h
  | cons c rest =>
      obtain ⟨hc, hrest⟩ := List.cons.inj (map_foldLetter_of_toLower h)
      have hmade : seriesRule.singular? ('_' :: c :: rest) =
          some ('_' :: c :: "eries".toList) := by
        simp only [seriesRule, Rule.singular?, Rule.ofSpelling, List.map_cons, List.map_nil,
          List.findSome?_singleton]
        rw [Rule.fit?_eq_some_iff]
        exact ⟨['_'], [c], rest, [], (List.append_nil _).symm, rfl,
          describes_spelled_iff.2 (congrArg ([·]) hc), describes_spelled_iff.2 hrest, rfl⟩
      rw [ruled_of_deciding hdeciding hmade, List.tail_cons]
      simp only [List.cons.injEq, true_and]
      exact eq_comm

theorem ruled_underscore_uncountable {word : List Char} (huncountable : isUncountable word = true) :
    ruled ('_' :: word) = '_' :: word ↔ ¬ StandsApart word := by
  have hbare : word.map foldLetter ∉ bareWords := by
    intro h
    rw [isUncountable_of_bare h] at huncountable
    cases huncountable
  obtain ⟨uncountable, hmem, hword⟩ := isUncountable_iff.1 huncountable
  have hkinds := uncountables_underscore uncountable hmem
  rw [← hword, ← List.map_cons, decidingRule?_map foldLetter_toLower toLower_replacement,
    ruled_map foldLetter_toLower toLower_replacement] at hkinds
  rcases hkinds with ⟨hruled, hchanged⟩ | ⟨rfl, hdeciding⟩ | ⟨hruled, hseries, hnone⟩
  · exact iff_of_false (fun heq => hchanged (by rw [heq])) (not_not_intro (.inl hruled))
  · rw [ruled_underscore_series hword hdeciding]
    constructor
    · rintro htail (hruled | ⟨-, hne⟩ | hapart)
      · rw [hword] at hruled
        exact absurd hruled (by decide)
      · exact hne htail
      · exact hbare hapart
    · intro hnot
      by_contra hne
      exact hnot (.inr (.inl ⟨hword, hne⟩))
  · refine iff_of_true (by rw [ruled_eq, hnone]; rfl) ?_
    rintro (hmem | ⟨heq, -⟩ | hapart)
    · exact hruled hmem
    · exact hseries (String.toList_inj.1 (hword.symm.trans heq))
    · exact hbare hapart

theorem ruled_underscore_bare {word : List Char} (hbare : word.map foldLetter ∈ bareWords) :
    ruled ('_' :: word) ≠ '_' :: ruled word := by
  intro heq
  have hfolded := congrArg (List.map foldLetter) heq
  rw [← ruled_map foldLetter_foldLetter foldLetter_replacement, List.map_cons, List.map_cons,
    ← ruled_map foldLetter_foldLetter foldLetter_replacement] at hfolded
  have hnone : ∀ bare ∈ bareWords,
      ruled (foldLetter '_' :: bare) ≠ foldLetter '_' :: ruled bare := by
    decide +kernel
  exact hnone _ hbare hfolded

theorem isUncountable_of_toLower {word : List Char}
    (h : word.map Char.toLower ∈ ruledUncountables ∨ word.map Char.toLower = "series".toList) :
    isUncountable word = true := by
  have hlisted : ∀ small ∈ "series".toList :: ruledUncountables,
      ∃ uncountable ∈ uncountableWords, small = uncountable.toList := by
    decide
  exact isUncountable_iff.2 (hlisted _ (List.mem_cons.2 h.symm))

theorem ruled_underscore_iff {last : List Char} (hlast : isDecidedAtBeginning last = false) :
    ruled ('_' :: last) = '_' :: singularChars last ↔ ¬ StandsApart last := by
  rw [singularChars_eq]
  cases huncountable : isUncountable last with
  | true =>
      rw [if_pos rfl]
      exact ruled_underscore_uncountable huncountable
  | false =>
      rw [if_neg Bool.false_ne_true]
      by_cases hbare : last.map foldLetter ∈ bareWords
      · exact iff_of_false (ruled_underscore_bare hbare) (not_not_intro (.inr (.inr hbare)))
      · refine iff_of_true (ruled_underscore hlast hbare) ?_
        rintro (hruled | ⟨hseries, -⟩ | hapart)
        · rw [isUncountable_of_toLower (.inl hruled)] at huncountable
          cases huncountable
        · rw [isUncountable_of_toLower (.inr hseries)] at huncountable
          cases huncountable
        · exact hbare hapart

theorem singular_append_underscore {lead last : String}
    (hwhole : isDecidedAtBeginning (lead ++ "_" ++ last).toList = false)
    (hlast : isDecidedAtBeginning last.toList = false) :
    singular (lead ++ "_" ++ last) = lead ++ "_" ++ singular last ↔ ¬ StandsApart last.toList := by
  have hcompound : (lead ++ "_" ++ last).toList = lead.toList ++ '_' :: last.toList := by
    rw [String.toList_append, String.toList_append, List.append_assoc]
    rfl
  have hlead : (lead ++ "_" ++ singular last).toList =
      lead.toList ++ '_' :: singularChars last.toList := by
    rw [String.toList_append, String.toList_append, List.append_assoc, singular,
      String.toList_ofList (l := singularChars _)]
    rfl
  rw [hcompound] at hwhole
  rw [← ruled_underscore_iff hlast, ← String.toList_inj, hlead, singular, hcompound,
    String.toList_ofList, singularChars_eq (lead.toList ++ _), isUncountable_underscore,
    if_neg Bool.false_ne_true, ruled_behind hwhole, List.append_cancel_left_eq]

/-- A compound is made singular in its last word, whatever stands in front, exactly if the word does
not stand apart; then its elements are named after the lead and the singular of the word.  Names on
which the rule at their beginning decides are left aside. -/
theorem singular_compound_iff (lead last : String)
    (hwhole : isDecidedAtBeginning (lead ++ "_" ++ last).toList = false)
    (hlast : isDecidedAtBeginning last.toList = false) :
    (singular (lead ++ "_" ++ last) = lead ++ "_" ++ singular last ↔ ¬ StandsApart last.toList) ∧
      (¬ StandsApart last.toList →
        elementClassName (lead ++ "_" ++ last) = className (lead ++ "_" ++ singular last)) := by
  have hiff := singular_append_underscore hwhole hlast
  exact ⟨hiff, fun happlies => congrArg className (hiff.2 happlies)⟩

theorem singular_compound_iff_addresses :
    isDecidedAtBeginning ("user" ++ "_" ++ "addresses").toList = false ∧
      isDecidedAtBeginning "addresses".toList = false ∧
      singular ("user" ++ "_" ++ "addresses") = "user" ++ "_" ++ singular "addresses" ∧
      elementClassName ("user" ++ "_" ++ "addresses") = "UserAddress" := by
  have hwhole : isDecidedAtBeginning ("user" ++ "_" ++ "addresses").toList = false := by
    decide +kernel
  have hlast : isDecidedAtBeginning "addresses".toList = false := by
    decide +kernel
  have hregular : ¬ StandsApart "addresses".toList := by
    decide +kernel
  obtain ⟨hiff, hname⟩ := singular_compound_iff "user" "addresses" hwhole hlast
  exact ⟨hwhole, hlast, hiff.2 hregular, (hname hregular).trans (by decide +kernel)⟩

/-- A word without a plural, and the same word behind another. -/
theorem singular_compound_species :
    singular ("data" ++ "_" ++ "species") = "data_specy" ∧
      "data" ++ "_" ++ singular "species" = "data_species" ∧
      singular ("data" ++ "_" ++ "species") ≠ "data" ++ "_" ++ singular "species" := by
  decide +kernel

end Exemplar.Naming
