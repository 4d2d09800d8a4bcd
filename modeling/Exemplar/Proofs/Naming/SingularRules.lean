import Mathlib.Data.List.Find
import Exemplar.Naming.Singular

/-!
# What the rules for singulars do

A rule fits a name where its stem and one of its endings are found; what stands in front of them and
behind them stays, and so does the stem.  Whether a rule fits depends on the letters only as far as
rules compare them, so that a mapping of characters which they do not see goes through the rules.
-/

namespace Exemplar.Naming

/-! ## Patterns -/

theorem describes_append_iff {first second : List Letter} {text : List Char} :
    describes (first ++ second) text = true ↔
      ∃ stem ending, text = stem ++ ending ∧ describes first stem = true ∧
        describes second ending = true := by
  induction first generalizing text with
  | nil =>
      constructor
      · intro h
        exact ⟨[], text, rfl, rfl, h⟩
      · rintro ⟨stem, ending, rfl, hstem, hending⟩
        cases stem with
        | nil => exact hending
        | cons c rest => cases hstem
  | cons letter letters ih =>
      cases text with
      | nil =>
          constructor
          · intro h
            cases h
          · rintro ⟨stem, ending, heq, hstem, -⟩
            obtain ⟨rfl, -⟩ := List.append_eq_nil_iff.1 heq.symm
            cases hstem
      | cons c rest =>
          rw [List.cons_append, describes, Bool.and_eq_true, ih]
          constructor
          · rintro ⟨hletter, stem, ending, rfl, hstem, hending⟩
            exact ⟨c :: stem, ending, rfl, Bool.and_eq_true_iff.2 ⟨hletter, hstem⟩, hending⟩
          · rintro ⟨stem, ending, heq, hstem, hending⟩
            cases stem with
            | nil => cases hstem
            | cons d stem =>
                rw [List.cons_append, List.cons.injEq] at heq
                obtain ⟨rfl, rfl⟩ := heq
                obtain ⟨hletter, hstem⟩ := Bool.and_eq_true_iff.1 hstem
                exact ⟨hletter, stem, ending, rfl, hstem, hending⟩

theorem length_of_describes {letters : List Letter} {text : List Char}
    (h : describes letters text = true) : text.length = letters.length := by
  induction letters generalizing text with
  | nil =>
      cases text with
      | nil => rfl
      | cons c rest => cases h
  | cons letter letters ih =>
      cases text with
      | nil => cases h
      | cons c rest =>
          rw [List.length_cons, List.length_cons, ih (Bool.and_eq_true_iff.1 h).2]

/-- A spelling describes the texts that are it as far as rules compare letters. -/
theorem describes_spelled_iff {word : String} {text : List Char} :
    describes (spelled word) text = true ↔ text.map foldLetter = word.toList := by
  rw [spelled]
  induction word.toList generalizing text with
  | nil => cases text <;> simp [describes]
  | cons a letters ih =>
      cases text with
      | nil => simp [describes]
      | cons c rest =>
          rw [List.map_cons, describes, Bool.and_eq_true, ih, Letter.admits, beq_iff_eq,
            List.map_cons, List.cons.injEq]

/-! ## One rule -/

theorem cutEnding?_append {stem ending : List Letter} (before : List Char)
    {stemText endingText : List Char} (hstem : describes stem stemText = true)
    (hending : describes ending endingText = true) :
    cutEnding? stem ending (before ++ (stemText ++ endingText)) = some (before ++ stemText) := by
  have hdescribes := describes_append_iff.2 ⟨stemText, endingText, rfl, hstem, hending⟩
  have hstemLength := length_of_describes hstem
  have hendingLength := length_of_describes hending
  have hsize : stem.length + ending.length ≤ (before ++ (stemText ++ endingText)).length := by
    rw [List.length_append, List.length_append]
    omega
  have hdrop : (before ++ (stemText ++ endingText)).length - (stem.length + ending.length) =
      before.length := by
    rw [List.length_append, List.length_append]
    omega
  have htake : (before ++ (stemText ++ endingText)).length - ending.length =
      (before ++ stemText).length := by
    rw [List.length_append, List.length_append, List.length_append]
    omega
  unfold cutEnding?
  dsimp only
  rw [htake, hdrop, List.drop_left, if_pos ⟨hsize, hdescribes⟩, ← List.append_assoc,
    List.take_left]

theorem cutEnding?_eq_some_iff {stem ending : List Letter} {word cut : List Char} :
    cutEnding? stem ending word = some cut ↔
      ∃ before stemText endingText, word = before ++ (stemText ++ endingText) ∧
        describes stem stemText = true ∧ describes ending endingText = true ∧
        cut = before ++ stemText := by
  constructor
  · intro h
    have hfits : describes (stem ++ ending)
        (word.drop (word.length - (stem.length + ending.length))) = true := by
      unfold cutEnding? at h
      dsimp only at h
      split at h
      · rename_i hfits
        exact hfits.2
      · cases h
    obtain ⟨stemText, endingText, hdrop, hstem, hending⟩ := describes_append_iff.1 hfits
    have hword := List.take_append_drop (word.length - (stem.length + ending.length)) word
    rw [hdrop] at hword
    refine ⟨_, stemText, endingText, hword.symm, hstem, hending, ?_⟩
    rw [← hword, cutEnding?_append _ hstem hending] at h
    exact (Option.some.inj h).symm
  · rintro ⟨before, stemText, endingText, rfl, hstem, hending, rfl⟩
    exact cutEnding?_append before hstem hending

/-- Whether a rule that looks at a place allows a text in front of what fits, and one behind it. -/
def Place.Allows (place : Place) (before after : List Char) : Prop :=
  match place with
  | .ending => after = []
  | .whole => before = [] ∧ after = []
  | .beginning => before = []

theorem fit?_whole_eq_some_iff {stems endings : List (List Letter)}
    {replacement word made : List Char} {stem ending : List Letter} :
    Rule.fit? ⟨.whole, stems, endings, replacement⟩ word stem ending = some made ↔
      ∃ stemText endingText, word = stemText ++ endingText ∧ describes stem stemText = true ∧
        describes ending endingText = true ∧ made = stemText ++ replacement := by
  unfold Rule.fit?
  dsimp only
  constructor
  · intro h
    split at h
    · rename_i hlength
      obtain ⟨cut, hcut, rfl⟩ := Option.map_eq_some_iff.1 h
      obtain ⟨before, stemText, endingText, rfl, hstem, hending, rfl⟩ :=
        cutEnding?_eq_some_iff.1 hcut
      have hnil : before = [] := by
        rw [List.length_append, List.length_append, length_of_describes hstem,
          length_of_describes hending] at hlength
        exact List.eq_nil_of_length_eq_zero (by omega)
      subst hnil
      exact ⟨stemText, endingText, rfl, hstem, hending, rfl⟩
    · cases h
  · rintro ⟨stemText, endingText, rfl, hstem, hending, rfl⟩
    have hlength : (stemText ++ endingText).length = stem.length + ending.length := by
      rw [List.length_append, length_of_describes hstem, length_of_describes hending]
    rw [if_pos hlength]
    exact Option.map_eq_some_iff.2 ⟨_, cutEnding?_append [] hstem hending, rfl⟩

theorem fit?_beginning_eq_some_iff {stems endings : List (List Letter)}
    {replacement word made : List Char} {stem ending : List Letter} :
    Rule.fit? ⟨.beginning, stems, endings, replacement⟩ word stem ending = some made ↔
      ∃ stemText endingText after, word = stemText ++ endingText ++ after ∧
        describes stem stemText = true ∧ describes ending endingText = true ∧
        made = stemText ++ replacement ++ after := by
  unfold Rule.fit?
  dsimp only
  constructor
  · intro h
    split at h
    · rename_i hfits
      cases h
      obtain ⟨stemText, endingText, htake, hstem, hending⟩ := describes_append_iff.1 hfits
      have hword := List.take_append_drop (stem.length + ending.length) word
      rw [htake] at hword
      have hstemText : word.take stem.length = stemText := by
        rw [← hword, List.append_assoc, ← length_of_describes hstem, List.take_left]
      refine ⟨stemText, endingText, _, hword.symm, hstem, hending, ?_⟩
      rw [hstemText]
    · cases h
  · rintro ⟨stemText, endingText, after, rfl, hstem, hending, rfl⟩
    have hdescribes := describes_append_iff.2 ⟨stemText, endingText, rfl, hstem, hending⟩
    have hsize : stem.length + ending.length = (stemText ++ endingText).length := by
      rw [List.length_append, length_of_describes hstem, length_of_describes hending]
    rw [hsize, List.take_left, if_pos hdescribes, List.drop_left, List.append_assoc stemText,
      ← length_of_describes hstem, List.take_left]

/-- What a rule makes of a name with a stem and an ending. -/
theorem Rule.fit?_eq_some_iff {rule : Rule} {word made : List Char} {stem ending : List Letter} :
    rule.fit? word stem ending = some made ↔
      ∃ before stemText endingText after, word = before ++ (stemText ++ endingText) ++ after ∧
        rule.place.Allows before after ∧ describes stem stemText = true ∧
        describes ending endingText = true ∧
        made = before ++ stemText ++ rule.replacement ++ after := by
  obtain ⟨place, stems, endings, replacement⟩ := rule
  cases place with
  | ending =>
      change (cutEnding? stem ending word).map (· ++ replacement) = some made ↔ _
      rw [Option.map_eq_some_iff]
      constructor
      · rintro ⟨cut, hcut, rfl⟩
        obtain ⟨before, stemText, endingText, rfl, hstem, hending, rfl⟩ :=
          cutEnding?_eq_some_iff.1 hcut
        exact ⟨before, stemText, endingText, [], (List.append_nil _).symm, rfl, hstem, hending,
          (List.append_nil _).symm⟩
      · rintro ⟨before, stemText, endingText, after, rfl, rfl, hstem, hending, rfl⟩
        rw [List.append_nil, List.append_nil]
        exact ⟨_, cutEnding?_append before hstem hending, rfl⟩
  | whole =>
      rw [fit?_whole_eq_some_iff]
      constructor
      · rintro ⟨stemText, endingText, rfl, hstem, hending, rfl⟩
        exact ⟨[], stemText, endingText, [], (List.append_nil _).symm, ⟨rfl, rfl⟩, hstem, hending,
          (List.append_nil _).symm⟩
      · rintro ⟨before, stemText, endingText, after, rfl, ⟨rfl, rfl⟩, hstem, hending, rfl⟩
        rw [List.append_nil, List.append_nil]
        exact ⟨stemText, endingText, rfl, hstem, hending, rfl⟩
  | beginning =>
      rw [fit?_beginning_eq_some_iff]
      constructor
      · rintro ⟨stemText, endingText, after, rfl, hstem, hending, rfl⟩
        exact ⟨[], stemText, endingText, after, rfl, rfl, hstem, hending, rfl⟩
      · rintro ⟨before, stemText, endingText, after, rfl, rfl, hstem, hending, rfl⟩
        exact ⟨stemText, endingText, after, rfl, hstem, hending, rfl⟩

theorem Rule.singular?_eq_some {rule : Rule} {word made : List Char}
    (h : rule.singular? word = some made) :
    ∃ stem ∈ rule.stems, ∃ ending ∈ rule.endings, rule.fit? word stem ending = some made := by
  obtain ⟨stem, hstem, h⟩ := List.exists_of_findSome?_eq_some h
  obtain ⟨ending, hending, h⟩ := List.exists_of_findSome?_eq_some h
  exact ⟨stem, hstem, ending, hending, h⟩

/-! ## The table -/

/-- Rules put in small letters only. -/
theorem replacement_small :
    ∀ rule ∈ singularRules, rule.replacement.map Char.toLower = rule.replacement ∧
      rule.replacement.map foldLetter = rule.replacement := by
  decide +kernel

/-- The rule that decides on a name: the first that fits. -/
def decidingRule? (word : List Char) : Option Rule :=
  singularRules.find? fun rule => (rule.singular? word).isSome

theorem exists_of_decidingRule? {word : List Char} {rule : Rule}
    (h : decidingRule? word = some rule) :
    rule ∈ singularRules ∧ ∃ made, rule.singular? word = some made := by
  have hsome : (rule.singular? word).isSome = true :=
    List.find?_some (p := fun other : Rule => (other.singular? word).isSome) h
  exact ⟨List.mem_of_find?_eq_some h, Option.isSome_iff_exists.1 hsome⟩

/-- What the rules make of a name.  A name that no rule fits stays. -/
def ruled (word : List Char) : List Char :=
  (singularRules.findSome? (·.singular? word)).getD word

theorem singularChars_eq (word : List Char) :
    singularChars word = if isUncountable word then word else ruled word :=
  rfl

theorem findSome?_singular? (rules : List Rule) (word : List Char) :
    rules.findSome? (·.singular? word) =
      (rules.find? fun rule => (rule.singular? word).isSome).bind (·.singular? word) := by
  induction rules with
  | nil => rfl
  | cons rule rest ih =>
      rw [List.findSome?_cons, List.find?_cons, ih]
      cases hrule : rule.singular? word with
      | none => rfl
      | some made => exact hrule.symm

theorem ruled_eq (word : List Char) :
    ruled word = ((decidingRule? word).bind (·.singular? word)).getD word := by
  rw [ruled, findSome?_singular?, decidingRule?]

theorem ruled_of_deciding {word made : List Char} {rule : Rule}
    (hrule : decidingRule? word = some rule) (hmade : rule.singular? word = some made) :
    ruled word = made := by
  rw [ruled_eq, hrule, Option.bind_some, hmade, Option.getD_some]

/-! ## Mappings of characters -/

section Mapped

variable {image : Char → Char}

theorem describes_map (himage : ∀ c, foldLetter (image c) = foldLetter c) (letters : List Letter)
    (text : List Char) : describes letters (text.map image) = describes letters text := by
  have hadmits : ∀ (letter : Letter) c, letter.admits (image c) = letter.admits c := by
    intro letter c
    cases letter <;> rw [Letter.admits, Letter.admits, himage]
  induction letters generalizing text with
  | nil => cases text <;> rfl
  | cons letter letters ih =>
      cases text with
      | nil => rfl
      | cons c rest => rw [List.map_cons, describes, describes, hadmits, ih]

theorem cutEnding?_map (himage : ∀ c, foldLetter (image c) = foldLetter c)
    (stem ending : List Letter) (word : List Char) :
    cutEnding? stem ending (word.map image) =
      (cutEnding? stem ending word).map (List.map image) := by
  unfold cutEnding?
  dsimp only
  rw [List.length_map, ← List.map_drop, describes_map himage, ← List.map_take]
  split <;> rfl

/-- A mapping that rules do not see goes through a rule. -/
theorem Rule.fit?_map (himage : ∀ c, foldLetter (image c) = foldLetter c) {rule : Rule}
    (hreplacement : rule.replacement.map image = rule.replacement) (word : List Char)
    (stem ending : List Letter) :
    rule.fit? (word.map image) stem ending =
      (rule.fit? word stem ending).map (List.map image) := by
  have hcut : (cutEnding? stem ending (word.map image)).map (· ++ rule.replacement) =
      ((cutEnding? stem ending word).map (· ++ rule.replacement)).map (List.map image) := by
    rw [cutEnding?_map himage]
    cases cutEnding? stem ending word with
    | none => rfl
    | some cut =>
        simp only [Option.map_some, List.map_append, hreplacement]
  unfold Rule.fit?
  cases rule.place with
  | ending => exact hcut
  | whole =>
      dsimp only
      rw [List.length_map]
      split
      · exact hcut
      · rfl
  | beginning =>
      dsimp only
      rw [← List.map_take, describes_map himage]
      split
      · simp only [Option.map_some, List.map_append, hreplacement, List.map_take, List.map_drop]
      · rfl

theorem Rule.singular?_map (himage : ∀ c, foldLetter (image c) = foldLetter c) {rule : Rule}
    (hreplacement : rule.replacement.map image = rule.replacement) (word : List Char) :
    rule.singular? (word.map image) = (rule.singular? word).map (List.map image) := by
  simp only [Rule.singular?, Rule.fit?_map himage hreplacement, List.map_findSome?,
    Function.comp_def]

variable (himage : ∀ c, foldLetter (image c) = foldLetter c)
  (hreplacements : ∀ rule ∈ singularRules, rule.replacement.map image = rule.replacement)

include himage hreplacements

theorem decidingRule?_map (word : List Char) :
    decidingRule? (word.map image) = decidingRule? word := by
  rw [decidingRule?, decidingRule?]
  apply List.find?_congr
  intro rule hrule
  rw [Rule.singular?_map himage (hreplacements rule hrule), Option.isSome_map]

theorem ruled_map (word : List Char) : ruled (word.map image) = (ruled word).map image := by
  rw [ruled_eq, ruled_eq, decidingRule?_map himage hreplacements]
  cases hrule : decidingRule? word with
  | none => rfl
  | some rule =>
      rw [Option.bind_some, Option.bind_some, Rule.singular?_map himage
        (hreplacements rule (List.mem_of_find?_eq_some hrule))]
      cases rule.singular? word <;> rfl

end Mapped

end Exemplar.Naming
