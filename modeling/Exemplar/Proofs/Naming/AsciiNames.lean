import Exemplar.Proofs.Naming.SecondPass
import Exemplar.Proofs.Naming.SingularRules
import Exemplar.Proofs.Naming.SnakeNames

/-!
# Names of ASCII properties

Of an ASCII property every name is an ASCII word: it begins with a letter, and letters and digits
follow.  So is the name of its elements, which the singular makes of it.  In snake case underscores
stand between the letters and digits, and none in front of them.
-/

namespace Exemplar

namespace Unicode

theorem ascii_of_isAlphanum {c : Char} (h : c.isAlphanum = true) : c.toNat < 0x80 := by
  change (c.isUpper || c.isLower || c.isDigit) = true at h
  have hbelow : ∀ last : Char, last.toNat < 0x80 → c.val ≤ last.val → c.toNat < 0x80 :=
    fun last hlast hc => Nat.lt_of_le_of_lt (UInt32.le_iff_toNat_le.1 hc) hlast
  rcases Bool.or_eq_true_iff.1 h with hletter | hdigit
  · rcases Bool.or_eq_true_iff.1 hletter with hupper | hlower
    · exact hbelow 'Z' (by decide) (of_decide_eq_true hupper).2
    · exact hbelow 'z' (by decide) (of_decide_eq_true (Bool.and_eq_true_iff.1 hlower).2)
  · exact hbelow '9' (by decide) (of_decide_eq_true (Bool.and_eq_true_iff.1 hdigit).2)

theorem isAlphanum_of_isAlpha {c : Char} (h : c.isAlpha = true) : c.isAlphanum = true := by
  rw [Char.isAlphanum, h, Bool.true_or]

theorem ascii_of_isAlpha {c : Char} (h : c.isAlpha = true) : c.toNat < 0x80 :=
  ascii_of_isAlphanum (isAlphanum_of_isAlpha h)

theorem upper_of_ascii {c : Char} (h : c.toNat < 0x80) : upper c = [c.toUpper] :=
  if_pos h

theorem lower_of_ascii {c : Char} (h : c.toNat < 0x80) : lower c = [c.toLower] :=
  if_pos h

theorem ascii_toUpper {c : Char} (h : c.toNat < 0x80) : c.toUpper.toNat < 0x80 :=
  ascii_forall (p := fun c => c.toUpper.toNat < 0x80) (by decide +kernel) h

theorem isAlpha_toUpper {c : Char} (h : c.isAlpha = true) : c.toUpper.isAlpha = true :=
  ascii_forall (p := fun c => c.isAlpha = true → c.toUpper.isAlpha = true) (by decide +kernel)
    (ascii_of_isAlpha h) h

theorem isAlpha_toLower {c : Char} (h : c.isAlpha = true) : c.toLower.isAlpha = true :=
  ascii_forall (p := fun c => c.isAlpha = true → c.toLower.isAlpha = true) (by decide +kernel)
    (ascii_of_isAlpha h) h

theorem isAlphanum_toLower {c : Char} (h : c.isAlphanum = true) : c.toLower.isAlphanum = true :=
  ascii_forall (p := fun c => c.isAlphanum = true → c.toLower.isAlphanum = true)
    (by decide +kernel) (ascii_of_isAlphanum h) h

/-- The lower case of ASCII characters is that of each of them. -/
theorem lowercaseAfter_of_ascii (before : List Char) {cs : List Char}
    (h : ∀ c ∈ cs, c.toNat < 0x80) : lowercaseAfter before cs = cs.map Char.toLower := by
  induction cs generalizing before with
  | nil => rfl
  | cons c rest ih =>
      have hc := h c List.mem_cons_self
      have hsigma : c ≠ 'Σ' := by
        rintro rfl
        exact absurd hc (by decide)
      rw [lowercaseAfter, if_neg hsigma, lower_of_ascii hc,
        ih _ fun other hother => h other (List.mem_cons_of_mem _ hother)]
      rfl

end Unicode

namespace Naming

open Unicode

/-- Whether a text is a word: an ASCII letter, then ASCII letters and digits. -/
def isWord : List Char → Bool
  | [] => false
  | c :: rest => c.isAlpha && rest.all Char.isAlphanum

/-- Whether a text is a word in snake case: a letter, then letters, digits and underscores. -/
def isSnakeWord : List Char → Bool
  | [] => false
  | c :: rest => c.isAlpha && rest.all fun other => other.isAlphanum || other == '_'

/-- Whether a text is a word or a word with an underscore behind it. -/
def isMarkedWord (text : List Char) : Bool :=
  isWord text || (text.getLast? == some '_' && isWord text.dropLast)

/-- Whether all characters of a text are ASCII characters. -/
def IsAscii (text : List Char) : Prop :=
  ∀ c ∈ text, c.toNat < 0x80

instance (text : List Char) : Decidable (IsAscii text) :=
  List.decidableBAll _ text

/-! ## Words -/

theorem isClassName_eq_isWord (name : String) : isClassName name = isWord name.toList := by
  rw [isClassName]
  cases name.toList <;> rfl

theorem isWord_cons_iff {c : Char} {rest : List Char} :
    isWord (c :: rest) = true ↔ c.isAlpha = true ∧ ∀ other ∈ rest, other.isAlphanum = true := by
  rw [isWord, Bool.and_eq_true, List.all_eq_true]

theorem isAlphanum_of_isWord {text : List Char} (h : isWord text = true) :
    ∀ c ∈ text, c.isAlphanum = true := by
  cases text with
  | nil => cases h
  | cons first rest =>
      obtain ⟨hfirst, hrest⟩ := isWord_cons_iff.1 h
      exact List.forall_mem_cons.2 ⟨isAlphanum_of_isAlpha hfirst, hrest⟩

/-- Letters in front of a word make another word. -/
theorem isWord_append {lead text : List Char} (hlead : ∀ c ∈ lead, c.isAlpha = true)
    (h : isWord text = true) : isWord (lead ++ text) = true := by
  cases lead with
  | nil => exact h
  | cons first rest =>
      rw [List.forall_mem_cons] at hlead
      refine isWord_cons_iff.2 ⟨hlead.1, fun c hc => ?_⟩
      rcases List.mem_append.1 hc with hc | hc
      · exact isAlphanum_of_isAlpha (hlead.2 c hc)
      · exact isAlphanum_of_isWord h c hc

/-- Where no text of a list begins with a lead, nothing that does is in the list. -/
theorem lead_append_notMem {texts : List String} {lead : String}
    (h : ∀ text ∈ texts, lead.toList.isPrefixOf text.toList = false) (rest : String) :
    lead ++ rest ∉ texts := by
  intro hmem
  have hnone := h _ hmem
  rw [String.toList_append, List.isPrefixOf_iff_prefix.2 (List.prefix_append _ _)] at hnone
  cases hnone

theorem isWord_capitalizeChars {text : List Char} (h : isWord text = true) :
    isWord (capitalizeChars text) = true := by
  cases text with
  | nil => cases h
  | cons first rest =>
      obtain ⟨hfirst, hrest⟩ := isWord_cons_iff.1 h
      rw [capitalizeChars, upper_of_ascii (ascii_of_isAlpha hfirst)]
      exact isWord_cons_iff.2 ⟨isAlpha_toUpper hfirst, hrest⟩

theorem isWord_uncapitalizeChars {text : List Char} (h : isWord text = true) :
    isWord (uncapitalizeChars text) = true := by
  cases text with
  | nil => cases h
  | cons first rest =>
      obtain ⟨hfirst, hrest⟩ := isWord_cons_iff.1 h
      rw [uncapitalizeChars, lower_of_ascii (ascii_of_isAlpha hfirst)]
      exact isWord_cons_iff.2 ⟨isAlpha_toLower hfirst, hrest⟩

theorem isMarkedWord_of_isWord {text : List Char} (h : isWord text = true) :
    isMarkedWord text = true := by
  rw [isMarkedWord, h, Bool.true_or]

theorem isMarkedWord_concat {text : List Char} (h : isWord text = true) :
    isMarkedWord (text ++ ['_']) = true := by
  rw [isMarkedWord, List.getLast?_concat, List.dropLast_concat, h, beq_self_eq_true,
    Bool.and_true, Bool.or_true]

theorem isAlphanum_of_isMarkedWord {text : List Char} (h : isMarkedWord text = true) :
    ∀ c ∈ text, c.isAlphanum = true ∨ c = '_' := by
  rw [isMarkedWord, Bool.or_eq_true, Bool.and_eq_true, beq_iff_eq] at h
  intro c hc
  rcases h with hword | ⟨hlast, hword⟩
  · exact .inl (isAlphanum_of_isWord hword c hc)
  · obtain ⟨stem, rfl⟩ := List.getLast?_eq_some_iff.1 hlast
    rw [List.dropLast_concat] at hword
    rcases List.mem_append.1 hc with hc | hc
    · exact .inl (isAlphanum_of_isWord hword c hc)
    · exact .inr (List.mem_singleton.1 hc)

theorem isSnakeWord_cons_iff {c : Char} {rest : List Char} :
    isSnakeWord (c :: rest) = true ↔
      c.isAlpha = true ∧ ∀ other ∈ rest, other.isAlphanum = true ∨ other = '_' := by
  simp only [isSnakeWord, Bool.and_eq_true, List.all_eq_true, Bool.or_eq_true, beq_iff_eq]

theorem isAlphanum_of_isSnakeWord {text : List Char} (h : isSnakeWord text = true) :
    ∀ c ∈ text, c.isAlphanum = true ∨ c = '_' := by
  cases text with
  | nil => cases h
  | cons first rest =>
      obtain ⟨hfirst, hrest⟩ := isSnakeWord_cons_iff.1 h
      exact List.forall_mem_cons.2 ⟨.inl (isAlphanum_of_isAlpha hfirst), hrest⟩

/-- A word in snake case is one with more of its characters behind it, too. -/
theorem isSnakeWord_append {text more : List Char} (h : isSnakeWord text = true)
    (hmore : ∀ c ∈ more, c.isAlphanum = true ∨ c = '_') : isSnakeWord (text ++ more) = true := by
  cases text with
  | nil => cases h
  | cons first rest =>
      obtain ⟨hfirst, hrest⟩ := isSnakeWord_cons_iff.1 h
      exact isSnakeWord_cons_iff.2 ⟨hfirst, List.forall_mem_append.2 ⟨hrest, hmore⟩⟩

/-! ## Identifiers -/

theorem isAscii_camelFrom (started boundary : Bool) {cs : List Char} (h : IsAscii cs) :
    IsAscii (camelFrom started boundary cs) := by
  induction cs generalizing started boundary with
  | nil => exact h
  | cons first rest ih =>
      have hfirst := h first List.mem_cons_self
      have hrest : IsAscii rest := fun c hc => h c (List.mem_cons_of_mem _ hc)
      intro c hc
      unfold camelFrom at hc
      split at hc
      · rw [upper_of_ascii hfirst] at hc
        rcases List.mem_append.1 hc with hc | hc
        · split at hc
          · rw [List.mem_singleton.1 hc]
            exact ascii_toUpper hfirst
          · rwa [List.mem_singleton.1 hc]
        · exact ih _ _ hrest c hc
      · split at hc
        · rcases List.mem_append.1 hc with hc | hc
          · split at hc
            · rwa [List.mem_singleton.1 hc]
            · cases hc
          · exact ih _ _ hrest c hc
        · exact ih _ _ hrest c hc

theorem isAscii_camel {raw : List Char} (h : IsAscii raw) : IsAscii (camel raw) := by
  have hstem : IsAscii letterlessStem := by decide
  unfold camel
  split
  · intro c hc
    rcases List.mem_append.1 hc with hc | hc
    · exact hstem c hc
    · exact h c (List.mem_filter.1 hc).1
  · rename_i hcamel
    rw [← hcamel]
    exact isAscii_camelFrom false false h

/-- The identifier of an ASCII name is a word. -/
theorem isWord_camel {raw : List Char} (h : IsAscii raw) : isWord (camel raw) = true := by
  have hascii := isAscii_camel h
  have hplain := isPlain_camel raw
  obtain ⟨first, rest, hcamel, hletter⟩ := exists_camel_eq_cons raw
  rw [hcamel] at hascii hplain ⊢
  rw [isAlphabetic_of_ascii (hascii first List.mem_cons_self)] at hletter
  refine isWord_cons_iff.2 ⟨hletter, fun c hc => ?_⟩
  exact hplain c (List.mem_cons_of_mem _ hc) (hascii c (List.mem_cons_of_mem _ hc))

section Properties

variable {property : String}

theorem isWord_className (h : IsAscii property.toList) :
    isWord (className property).toList = true := by
  rw [className, capitalize, normalize, String.toList_ofList, String.toList_ofList]
  exact isWord_capitalizeChars (isWord_camel h)

theorem isWord_uncapitalize {name : String} (h : isWord name.toList = true) :
    isWord (uncapitalize name).toList = true := by
  rw [uncapitalize, String.toList_ofList]
  exact isWord_uncapitalizeChars h

theorem isWord_parameterName (h : IsAscii property.toList) :
    isWord (parameterName property).toList = true := by
  apply isWord_uncapitalize
  rw [normalize, String.toList_ofList]
  exact isWord_camel h

theorem isWord_fieldName {fieldPrefix : String}
    (hletters : ∀ c ∈ fieldPrefix.toList, c.isAlpha = true) (h : IsAscii property.toList) :
    isWord (fieldName fieldPrefix property).toList = true := by
  unfold fieldName
  split
  · exact isWord_parameterName h
  · rw [String.toList_append]
    exact isWord_append hletters (isWord_className h)

end Properties

/-! ## Singular forms -/

/-- A rule leaves nothing in a name but parts of it and what the rule puts in. -/
theorem isAscii_fit? {rule : Rule} (hrule : IsAscii rule.replacement) {word made : List Char}
    (h : IsAscii word) {stem ending : List Letter}
    (hmade : rule.fit? word stem ending = some made) : IsAscii made := by
  obtain ⟨before, stemText, endingText, after, rfl, -, -, -, rfl⟩ := Rule.fit?_eq_some_iff.1 hmade
  simp only [IsAscii, List.mem_append] at h ⊢
  rintro c (((hc | hc) | hc) | hc)
  · exact h c (.inl (.inl hc))
  · exact h c (.inl (.inr (.inl hc)))
  · exact hrule c hc
  · exact h c (.inr hc)

theorem isAscii_replacement : ∀ rule ∈ singularRules, IsAscii rule.replacement := by
  decide +kernel

theorem isAscii_singularChars {word : List Char} (h : IsAscii word) :
    IsAscii (singularChars word) := by
  unfold singularChars
  split
  · exact h
  · cases hfound : singularRules.findSome? (·.singular? word) with
    | none => exact h
    | some made =>
        obtain ⟨rule, hrule, hmade⟩ := List.exists_of_findSome?_eq_some hfound
        obtain ⟨stem, -, ending, -, hfit⟩ := Rule.singular?_eq_some hmade
        exact isAscii_fit? (isAscii_replacement rule hrule) h hfit

theorem isAscii_singular {property : String} (h : IsAscii property.toList) :
    IsAscii (singular property).toList := by
  rw [singular, String.toList_ofList]
  exact isAscii_singularChars h

/-! ## Snake case -/

/-- The words of a text without separators, one after the other, are the text. -/
theorem flatten_wordsFrom {clusters : List Cluster}
    (h : ∀ cluster ∈ clusters, cluster.isSeparator = false) (before : Option Cluster)
    (word : List Char) : (wordsFrom before word clusters).flatten = word ++ clusters.flatten := by
  induction clusters generalizing before word with
  | nil => simp [wordsFrom]
  | cons cluster rest ih =>
      rw [List.forall_mem_cons] at h
      rw [wordsFrom, h.1, if_neg Bool.false_ne_true]
      split
      · rw [List.flatten_cons, ih h.2, List.flatten_cons]
      · rw [ih h.2, List.flatten_cons, List.append_assoc]

theorem flatten_words {identifier : List Char} (h : ∀ c ∈ identifier, c.isAlphanum = true) :
    (words identifier).flatten = identifier := by
  have hseparator : ∀ cluster ∈ Text.clusters identifier, Cluster.isSeparator cluster = false := by
    intro cluster hcluster
    have hmark : ∀ c ∈ ['_', '-', ' '], cluster ≠ [c] := by
      rintro c hc rfl
      have hmem : c ∈ identifier := by
        rw [← Text.flatten_clusters identifier]
        exact List.mem_flatten.2 ⟨_, hcluster, List.mem_singleton_self c⟩
      have hmarks : ['_', '-', ' '].all (!·.isAlphanum) = true := by decide
      have hnone := List.all_eq_true.1 hmarks c hc
      rw [h c hmem] at hnone
      cases hnone
    simp only [List.forall_mem_cons] at hmark
    simp [Cluster.isSeparator, hmark]
  rw [words, List.flatten_filter_not_isEmpty, flatten_wordsFrom hseparator, List.nil_append,
    Text.flatten_clusters]

theorem lowercase_of_mem_words {identifier word : List Char}
    (h : ∀ c ∈ identifier, c.isAlphanum = true) (hword : word ∈ words identifier) :
    lowercase word = word.map Char.toLower :=
  lowercaseAfter_of_ascii [] fun c hc => ascii_of_isAlphanum (h c (mem_of_mem_words hword hc))

/-- Snake case of letters and digits holds nothing else but underscores. -/
theorem isAlphanum_snakeChars {identifier : List Char}
    (h : ∀ c ∈ identifier, c.isAlphanum = true) :
    ∀ c ∈ snakeChars identifier, c.isAlphanum = true ∨ c = '_' := by
  intro c hc
  rcases mem_intercalate hc with hc | ⟨part, hpart, hc⟩
  · exact .inr (List.mem_singleton.1 hc)
  · obtain ⟨word, hword, rfl⟩ := List.mem_map.1 hpart
    rw [lowercase_of_mem_words h hword] at hc
    obtain ⟨letter, hletter, rfl⟩ := List.mem_map.1 hc
    exact .inl (isAlphanum_toLower (h letter (mem_of_mem_words hword hletter)))

theorem exists_intercalate_eq_cons (separator : List Char) (c : Char) (cs : List Char)
    (parts : List (List Char)) :
    ∃ rest, separator.intercalate ((c :: cs) :: parts) = c :: rest := by
  cases parts with
  | nil => exact ⟨cs, List.intercalate_singleton⟩
  | cons part others =>
      rw [List.intercalate_cons_cons, List.append_assoc, List.cons_append]
      exact ⟨_, rfl⟩

/-- Snake case begins with the first letter in lower case. -/
theorem exists_snakeChars_eq_cons {first : Char} {rest : List Char}
    (h : ∀ c ∈ first :: rest, c.isAlphanum = true) :
    ∃ others, snakeChars (first :: rest) = first.toLower :: others := by
  have hflatten := flatten_words h
  cases hwords : words (first :: rest) with
  | nil =>
      rw [hwords] at hflatten
      cases hflatten
  | cons word tail =>
      have hword : word ∈ words (first :: rest) := by
        rw [hwords]
        exact List.mem_cons_self
      cases word with
      | nil =>
          have hempty := (List.mem_filter.1 hword).2
          cases hempty
      | cons c cs =>
          rw [hwords, List.flatten_cons, List.cons_append] at hflatten
          rw [snakeChars, hwords, List.map_cons, lowercase_of_mem_words h hword, List.map_cons,
            (List.cons.inj hflatten).1]
          exact exists_intercalate_eq_cons _ _ _ _

/-- In snake case a word stays a word, but for underscores behind its first letter. -/
theorem isSnakeWord_snakeChars {identifier : List Char} (h : isWord identifier = true) :
    isSnakeWord (snakeChars identifier) = true := by
  cases identifier with
  | nil => cases h
  | cons first rest =>
      have hchars := isAlphanum_snakeChars (isAlphanum_of_isWord h)
      obtain ⟨others, hothers⟩ := exists_snakeChars_eq_cons (isAlphanum_of_isWord h)
      rw [hothers] at hchars ⊢
      exact isSnakeWord_cons_iff.2 ⟨isAlpha_toLower (isWord_cons_iff.1 h).1,
        (List.forall_mem_cons.1 hchars).2⟩

theorem isSnakeWord_snake {identifier : String} (h : isWord identifier.toList = true) :
    isSnakeWord (snake identifier).toList = true := by
  rw [snake, String.toList_ofList]
  exact isSnakeWord_snakeChars h

end Naming

end Exemplar
