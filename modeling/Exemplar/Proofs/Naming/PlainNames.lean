import Exemplar.Naming.Identifier

/-!
# Plain names

Of the ASCII characters, the identifier of a property holds letters and digits only, whatever the
property holds: the other characters are dropped, and no letter has an upper case among them.  So
class names can stand in a source text without running into what is around them.
-/

namespace Exemplar

namespace Unicode

/-- Whether a character is a letter or digit, if it is an ASCII character. -/
def IsPlain (c : Char) : Prop :=
  c.toNat < 0x80 → c.isAlphanum = true

instance (c : Char) : Decidable (IsPlain c) :=
  inferInstanceAs (Decidable (_ → _))

/-- A property of all ASCII characters, checked one by one. -/
theorem ascii_forall {p : Char → Prop} (h : ∀ n : Fin 128, p (Char.ofNat n)) {c : Char}
    (hc : c.toNat < 0x80) : p c := by
  have hp := h ⟨c.toNat, hc⟩
  rwa [Char.ofNat_toNat] at hp

theorem isPlain_toUpper {c : Char} (h : IsPlain c) (hascii : c.toNat < 0x80) :
    IsPlain c.toUpper :=
  ascii_forall (p := fun c => IsPlain c → IsPlain c.toUpper) (by decide +kernel) hascii h

/-- Whether the images of a run of letters have a property that all characters beyond ASCII have:
they lie beyond ASCII, or there is only one, with the property. -/
def CaseRun.hasImages (p : Char → Prop) [DecidablePred p] (run : CaseRun) : Bool :=
  let first := Int.toNat (run.first + run.distance)
  let last := Int.toNat (run.last + run.distance)
  0x80 ≤ first ∧ (last < 0xD800 ∨ 0xDFFF < first ∧ last < 0x110000) ∨
    run.first = run.last ∧ p (Char.ofNat first)

theorem toNat_ofNat {n : Nat} (h : n < 0xD800 ∨ 0xDFFF < n ∧ n < 0x110000) :
    (Char.ofNat n).toNat = n := by
  have hvalid : n.isValidChar := h
  rw [Char.ofNat, dif_pos hvalid]
  rfl

section Images

variable {p : Char → Prop} [DecidablePred p]

theorem of_image? (hbeyond : ∀ c : Char, 0x80 ≤ c.toNat → p c) {runs : List CaseRun}
    (hruns : ∀ run ∈ runs, run.hasImages p = true) {n image : Nat}
    (h : CaseRun.image? runs n = some image) : p (Char.ofNat image) := by
  induction runs with
  | nil => cases h
  | cons run rest ih =>
      unfold CaseRun.image? at h
      split at h
      · rename_i hrange
        have himages := hruns run List.mem_cons_self
        unfold CaseRun.hasImages at himages
        simp only [decide_eq_true_eq] at himages
        simp only [Option.some.injEq] at h
        rcases himages with ⟨hfirst, hvalid⟩ | ⟨hone, hp⟩
        · apply hbeyond
          rw [toNat_ofNat (by omega)]
          omega
        · have hn : n = run.first := by omega
          rw [← h, hn]
          exact hp
      · exact ih (fun other hother => hruns other (List.mem_cons_of_mem _ hother)) h

/-- A case mapping keeps a property that its tables keep. -/
theorem of_mem_caseImage (hbeyond : ∀ c : Char, 0x80 ≤ c.toNat → p c) {runs : List CaseRun}
    {expansions : List (Nat × Nat × List Nat)} (hruns : ∀ run ∈ runs, run.hasImages p = true)
    (hexpansions : ∀ entry ∈ expansions, ∀ n ∈ entry.2.1 :: entry.2.2, p (Char.ofNat n))
    {c : Char} (h : p c) :
    ∀ image ∈ (caseImage runs expansions c).1 :: (caseImage runs expansions c).2, p image := by
  unfold caseImage
  split
  · rename_i entry head tail hfound
    have hp := hexpansions _ (List.mem_of_find?_eq_some hfound)
    intro image hmem
    have hmap : image ∈ (head :: tail).map Char.ofNat := hmem
    obtain ⟨n, hn, rfl⟩ := List.mem_map.1 hmap
    exact hp n hn
  · split
    · rename_i n hn
      intro image hmem
      rw [List.mem_singleton.1 hmem]
      exact of_image? hbeyond hruns hn
    · intro image hmem
      rw [List.mem_singleton.1 hmem]
      exact h

end Images

theorem isPlain_of_beyond {c : Char} (h : 0x80 ≤ c.toNat) : IsPlain c := by
  intro hascii
  omega

theorem isPlain_upper {c : Char} (h : IsPlain c) : ∀ image ∈ upper c, IsPlain image := by
  have hruns : ∀ run ∈ upperRuns, run.hasImages IsPlain = true := by decide +kernel
  have hexpansions : ∀ entry ∈ upperExpansions, ∀ n ∈ entry.2.1 :: entry.2.2,
      IsPlain (Char.ofNat n) := by
    decide +kernel
  unfold upper
  split
  · rename_i hascii
    intro image hmem
    rw [List.mem_singleton.1 hmem]
    exact isPlain_toUpper h hascii
  · exact of_mem_caseImage (fun _ => isPlain_of_beyond) hruns hexpansions h

/-- Whether a character is a small letter or a digit, if it is an ASCII character. -/
def IsSmallPlain (c : Char) : Prop :=
  c.toNat < 0x80 → c.isLower = true ∨ c.isDigit = true

instance (c : Char) : Decidable (IsSmallPlain c) :=
  inferInstanceAs (Decidable (_ → _))

theorem IsSmallPlain.isPlain {c : Char} (h : IsSmallPlain c) : IsPlain c := by
  intro hascii
  change (c.isUpper || c.isLower || c.isDigit) = true
  rcases h hascii with hlower | hdigit
  · rw [hlower, Bool.or_true, Bool.true_or]
  · rw [hdigit, Bool.or_true]

theorem isSmallPlain_toLower {c : Char} (h : IsPlain c) (hascii : c.toNat < 0x80) :
    IsSmallPlain c.toLower :=
  ascii_forall (p := fun c => IsPlain c → IsSmallPlain c.toLower) (by decide +kernel) hascii h

/-- The lower case of a plain character holds no ASCII capital. -/
theorem isSmallPlain_lower {c : Char} (h : IsPlain c) : ∀ image ∈ lower c, IsSmallPlain image := by
  have hruns : ∀ run ∈ lowerRuns, run.hasImages IsSmallPlain = true := by decide +kernel
  have hexpansions : ∀ entry ∈ lowerExpansions, ∀ n ∈ entry.2.1 :: entry.2.2,
      IsSmallPlain (Char.ofNat n) := by
    decide +kernel
  unfold lower
  split
  · rename_i hascii
    intro image hmem
    rw [List.mem_singleton.1 hmem]
    exact isSmallPlain_toLower h hascii
  · rename_i hbeyond
    exact of_mem_caseImage (fun c hc hascii => absurd hascii (by omega)) hruns hexpansions
      fun hascii => absurd hascii hbeyond

theorem isPlain_of_isAlphabetic {c : Char} (h : isAlphabetic c = true) : IsPlain c := by
  intro hascii
  rw [isAlphabetic_of_ascii hascii] at h
  rw [Char.isAlphanum, h, Bool.true_or]

theorem isPlain_of_isDigit {c : Char} (h : c.isDigit = true) : IsPlain c := by
  intro _
  rw [Char.isAlphanum, h, Bool.or_true]

end Unicode

namespace Naming

open Unicode

theorem isPlain_camelFrom (started boundary : Bool) (cs : List Char) :
    ∀ c ∈ camelFrom started boundary cs, IsPlain c := by
  induction cs generalizing started boundary with
  | nil => exact fun c hmem => nomatch hmem
  | cons first rest ih =>
      intro c hmem
      unfold camelFrom at hmem
      split at hmem
      · rename_i halphabetic
        have hplain := isPlain_of_isAlphabetic halphabetic
        rcases List.mem_append.1 hmem with hmem | hmem
        · split at hmem
          · exact isPlain_upper hplain c hmem
          · rw [List.mem_singleton.1 hmem]
            exact hplain
        · exact ih _ _ c hmem
      · split at hmem
        · rename_i hdigit
          rcases List.mem_append.1 hmem with hmem | hmem
          · split at hmem
            · rw [List.mem_singleton.1 hmem]
              exact isPlain_of_isDigit hdigit
            · cases hmem
          · exact ih _ _ c hmem
        · exact ih _ _ c hmem

theorem isPlain_letterlessStem : ∀ c ∈ letterlessStem, IsPlain c := by
  have hall : letterlessStem.all (IsPlain ·) = true := by decide
  exact fun c hmem => of_decide_eq_true (List.all_eq_true.1 hall c hmem)

theorem isPlain_camel (raw : List Char) : ∀ c ∈ camel raw, IsPlain c := by
  intro c hmem
  unfold camel at hmem
  split at hmem
  · rcases List.mem_append.1 hmem with hmem | hmem
    · exact isPlain_letterlessStem c hmem
    · exact isPlain_of_isDigit (List.mem_filter.1 hmem).2
  · rename_i first rest hcamel
    rw [← hcamel] at hmem
    exact isPlain_camelFrom false false raw c hmem

/-- Class names are plain. -/
theorem isPlain_className (property : String) : ∀ c ∈ (className property).toList, IsPlain c := by
  rw [className, capitalize, normalize, String.toList_ofList, String.toList_ofList]
  have hcamel := isPlain_camel property.toList
  cases hchars : camel property.toList with
  | nil => exact fun c hmem => nomatch hmem
  | cons first rest =>
      rw [hchars] at hcamel
      intro c hmem
      rcases List.mem_append.1 hmem with hmem | hmem
      · exact isPlain_upper (hcamel first List.mem_cons_self) c hmem
      · exact hcamel c (List.mem_cons_of_mem _ hmem)

theorem camel_ne_nil (raw : List Char) : camel raw ≠ [] := by
  unfold camel
  split
  · simp [letterlessStem]
  · simp

theorem className_ne_nil (property : String) : (className property).toList ≠ [] := by
  rw [className, capitalize, normalize, String.toList_ofList, String.toList_ofList]
  cases hchars : camel property.toList with
  | nil => exact absurd hchars (camel_ne_nil _)
  | cons first rest => simp [capitalizeChars, upper_ne_nil]

/-- Plain characters do not end in an underscore. -/
theorem getLast?_ne_underscore (start : List Char) {cs : List Char} (hne : cs ≠ [])
    (hplain : ∀ c ∈ cs, IsPlain c) : (start ++ cs).getLast? ≠ some '_' := by
  rw [List.getLast?_append, List.getLast?_eq_some_getLast hne, Option.some_or]
  intro hlast
  have hunderscore : ¬ IsPlain '_' := by decide
  apply hunderscore
  rw [← Option.some_inj.1 hlast]
  exact hplain _ (List.getLast_mem hne)

/-- The identifier of a field does not end in an underscore, whatever its prefix. -/
theorem getLast?_fieldName (fieldPrefix property : String) :
    (fieldName fieldPrefix property).toList.getLast? ≠ some '_' := by
  unfold fieldName
  split
  · rw [uncapitalize, normalize, String.toList_ofList, String.toList_ofList]
    have hcamel := isPlain_camel property.toList
    cases hchars : camel property.toList with
    | nil => exact absurd hchars (camel_ne_nil _)
    | cons first rest =>
        rw [hchars] at hcamel
        have hplain : ∀ c ∈ lower first ++ rest, IsPlain c := by
          intro c hmem
          rcases List.mem_append.1 hmem with hmem | hmem
          · exact (isSmallPlain_lower (hcamel first List.mem_cons_self) c hmem).isPlain
          · exact hcamel c (List.mem_cons_of_mem _ hmem)
        exact getLast?_ne_underscore [] (by simp [lower_ne_nil]) hplain
  · rw [String.toList_append]
    exact getLast?_ne_underscore _ (className_ne_nil property) (isPlain_className property)

end Naming

end Exemplar
