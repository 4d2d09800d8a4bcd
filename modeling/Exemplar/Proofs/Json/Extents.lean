import Mathlib.Data.List.TakeWhile
import Exemplar.Failure
import Exemplar.Json.Reader

/-!
# How far readers reach

What a reader takes off a text is a front of it.  All values but numbers have an end of their own, so
that the reader of one takes the same front whatever is behind it.
-/

namespace Exemplar.Json

/-- A text that a reader takes as a whole, whatever is behind it. -/
structure Takes {ε α : Type} (reader : List Char → Except ε (α × List Char)) (front : List Char)
    (result : α) : Prop where
  ne_nil : front ≠ []
  read : ∀ behind, reader (front ++ behind) = .ok (result, behind)

/-- Whether what a reader takes has an end of its own. -/
def SelfDelimiting {ε α : Type} (reader : List Char → Except ε (α × List Char)) : Prop :=
  ∀ ⦃text result rest⦄, reader text = .ok (result, rest) →
    ∃ front, text = front ++ rest ∧ Takes reader front result

variable {text rest : List Char}

/-! ## Blanks and marks -/

theorem skipBlanks_eq_cons {c : Char} (h : skipBlanks text = c :: rest) :
    ∃ blanks, text = blanks ++ c :: rest ∧
      ∀ behind, skipBlanks (blanks ++ c :: behind) = c :: behind := by
  induction text with
  | nil => cases h
  | cons d text ih =>
      by_cases hd : isBlank d = true
      · rw [skipBlanks, List.dropWhile_cons_of_pos hd] at h
        obtain ⟨blanks, rfl, hskip⟩ := ih h
        refine ⟨d :: blanks, rfl, fun behind => ?_⟩
        rw [skipBlanks, List.cons_append, List.dropWhile_cons_of_pos hd]
        exact hskip behind
      · rw [skipBlanks, List.dropWhile_cons_of_neg hd] at h
        cases h
        exact ⟨[], rfl, fun behind => List.dropWhile_cons_of_neg hd⟩

theorem skipBlanks_eq_nil_iff : skipBlanks text = [] ↔ ∀ c ∈ text, isBlank c = true :=
  List.dropWhile_eq_nil_iff

theorem readWord_eq_ok_iff {word : List Char} :
    readWord word text = .ok rest ↔ text = word ++ rest := by
  induction word generalizing text with
  | nil => simp [readWord]
  | cons expected word ih =>
      cases text with
      | nil => simp [readWord]
      | cons c text =>
          by_cases hc : c = expected
          · simp [readWord, hc, ih]
          · simp [readWord, hc]

theorem readPairMark_eq_ok_iff {mark : Char} :
    readPairMark mark text = .ok rest ↔ text = mark :: rest := by
  cases text with
  | nil => simp [readPairMark]
  | cons c text =>
      by_cases hc : c = mark
      · simp [readPairMark, hc]
      · simp [readPairMark, hc]

theorem readColon_eq_ok_iff : readColon text = .ok rest ↔ skipBlanks text = ':' :: rest := by
  unfold readColon
  split <;> simp_all

theorem readListEnd_eq_ok_iff : readListEnd text = .ok rest ↔ skipBlanks text = ']' :: rest := by
  unfold readListEnd
  split
  · simp_all
  · simp_all
  · split <;> simp_all
  · simp_all

/-! ## Strings -/

theorem length_le_byteCount (cs : List Char) : cs.length ≤ byteCount cs := by
  induction cs with
  | nil => exact Nat.zero_le _
  | cons c rest ih =>
      have hsize : 1 ≤ c.utf8Size := c.utf8Size_pos
      rw [byteCount, List.foldr_cons, List.length_cons, ← byteCount]
      omega

theorem selfDelimiting_readHex4 : SelfDelimiting readHex4 := by
  intro text unit rest h
  unfold readHex4 at h
  split at h
  · cases h
  · split at h
    · rename_i a b c d behind _
      split at h
      · rename_i ha hb hc hd
        cases h
        refine ⟨[a, b, c, d], rfl, List.cons_ne_nil _ _, fun behind => ?_⟩
        have hlong : ¬ byteCount ([a, b, c, d] ++ behind) < 4 := by
          have hlength := length_le_byteCount ([a, b, c, d] ++ behind)
          simp only [List.length_append, List.length_cons] at hlength
          omega
        unfold readHex4
        rw [if_neg hlong]
        simp only [List.cons_append, List.nil_append, ha, hb, hc, hd]
      · cases h
    · cases h

theorem selfDelimiting_readUnicodeEscape : SelfDelimiting readUnicodeEscape := by
  intro text result rest hread
  obtain ⟨⟨unit, behind⟩, hunit, h⟩ := bind_eq_ok hread
  obtain ⟨digits, rfl, hdigits⟩ := selfDelimiting_readHex4 hunit
  dsimp only at h
  split at h
  · cases h
  · rename_i hlow
    split at h
    · rename_i hwhole
      cases h
      refine ⟨digits, rfl, hdigits.ne_nil, fun behind => ?_⟩
      rw [readUnicodeEscape, hdigits.read]
      simp only [bind, Except.bind, if_neg hlow, if_pos hwhole]
    · rename_i hwhole
      obtain ⟨marked, hbackslash, hmarked⟩ := bind_eq_ok h
      obtain ⟨second, hmark, hsecond⟩ := bind_eq_ok hmarked
      obtain ⟨⟨low, last⟩, hunitLow, hlast⟩ := bind_eq_ok hsecond
      rw [readPairMark_eq_ok_iff] at hbackslash hmark
      obtain ⟨more, rfl, hmore⟩ := selfDelimiting_readHex4 hunitLow
      subst hmark hbackslash
      dsimp only at hlast
      split at hlast
      · rename_i hpair
        obtain ⟨rfl, rfl⟩ := Prod.mk.inj (Except.ok.inj hlast)
        refine ⟨digits ++ '\\' :: 'u' :: more, by simp, by simp, fun behind => ?_⟩
        rw [readUnicodeEscape, List.append_assoc, hdigits.read]
        simp only [bind, Except.bind, if_neg hlow, if_neg hwhole, List.cons_append,
          readPairMark_eq_ok_iff.2 rfl, hmore.read, if_pos hpair]
      · cases hlast

theorem selfDelimiting_readEscape : SelfDelimiting readEscape := by
  intro text result rest h
  unfold readEscape at h
  split at h
  · cases h
  · obtain ⟨front, rfl, hfront⟩ := selfDelimiting_readUnicodeEscape h
    exact ⟨'u' :: front, rfl, List.cons_ne_nil _ _, fun behind => hfront.read behind⟩
  · rename_i c behind hc
    split at h
    · rename_i escaped hescaped
      cases h
      refine ⟨[c], rfl, List.cons_ne_nil _ _, fun behind => ?_⟩
      rw [List.cons_append, readEscape, hescaped]
      · rfl
      · exact hc
    · cases h

/-- A string is read up to its closing quote, with as much fuel as it has characters. -/
theorem readStringFrom_eq_ok {fuel : Nat} {cs : List Char}
    (h : readStringFrom fuel text = .ok (cs, rest)) :
    ∃ front, text = front ++ rest ∧ front ≠ [] ∧
      ∀ more behind, front.length ≤ more →
        readStringFrom more (front ++ behind) = .ok (cs, behind) := by
  induction fuel generalizing text cs with
  | zero => cases h
  | succ fuel ih =>
      cases text with
      | nil => cases h
      | cons c text =>
          rw [readStringFrom] at h
          split at h
          · rename_i hquote
            cases h
            refine ⟨[c], rfl, List.cons_ne_nil _ _, fun more behind hmore => ?_⟩
            obtain ⟨more, rfl⟩ := Nat.exists_eq_succ_of_ne_zero (Nat.ne_of_gt hmore)
            rw [List.cons_append, readStringFrom, if_pos hquote]
            rfl
          · rename_i hquote
            split at h
            · rename_i hbackslash
              obtain ⟨⟨escaped, unread⟩, hfirst, h⟩ := bind_eq_ok h
              obtain ⟨⟨others, unread⟩, hothers, h⟩ := bind_eq_ok h
              cases h
              obtain ⟨escape, rfl, hescape⟩ := selfDelimiting_readEscape hfirst
              obtain ⟨front, rfl, -, hfront⟩ := ih hothers
              refine ⟨c :: (escape ++ front), by simp, List.cons_ne_nil _ _,
                fun more behind hmore => ?_⟩
              rw [List.length_cons, List.length_append] at hmore
              obtain ⟨more, rfl⟩ := Nat.exists_eq_add_of_le' (Nat.one_le_of_lt hmore)
              rw [List.cons_append, readStringFrom, if_neg hquote, if_pos hbackslash,
                List.append_assoc, hescape.read]
              simp only [bind, Except.bind, hfront more behind (by omega)]
            · rename_i hbackslash
              split at h
              · cases h
              · rename_i hplain
                obtain ⟨⟨others, unread⟩, hothers, h⟩ := bind_eq_ok h
                cases h
                obtain ⟨front, rfl, -, hfront⟩ := ih hothers
                refine ⟨c :: front, rfl, List.cons_ne_nil _ _, fun more behind hmore => ?_⟩
                rw [List.length_cons] at hmore
                obtain ⟨more, rfl⟩ := Nat.exists_eq_add_of_le' (Nat.one_le_of_lt hmore)
                rw [List.cons_append, readStringFrom, if_neg hquote, if_neg hbackslash,
                  if_neg hplain]
                simp only [bind, Except.bind, hfront more behind (by omega)]

theorem selfDelimiting_readString : SelfDelimiting readString := by
  intro text result rest h
  obtain ⟨⟨cs, unread⟩, hchars, h⟩ := bind_eq_ok h
  cases h
  obtain ⟨front, rfl, hne, hfront⟩ := readStringFrom_eq_ok hchars
  refine ⟨front, rfl, hne, fun behind => ?_⟩
  rw [readString, hfront _ _ (by rw [List.length_append]; omega)]
  rfl

/-! ## Separators -/

theorem readObjectSeparator_eq_none {first : Bool} (h : readObjectSeparator first text = .ok none) :
    ∃ rest, skipBlanks text = '\x7d' :: rest := by
  unfold readObjectSeparator at h
  split at h
  · cases h
  · rename_i rest hskip
    exact ⟨rest, hskip⟩
  · repeat' split at h
    all_goals cases h

theorem readObjectSeparator_of_end {first : Bool} (h : skipBlanks text = '\x7d' :: rest) :
    readObjectSeparator first text = .ok none := by
  unfold readObjectSeparator
  rw [h]
  rfl

/-- What stands in front of a key, up to its quote. -/
theorem readObjectSeparator_eq_some {first : Bool}
    (h : readObjectSeparator first text = .ok (some rest)) :
    ∃ lead, text = lead ++ rest ∧
      ∀ behind, readObjectSeparator first (lead ++ behind) = .ok (some behind) := by
  unfold readObjectSeparator at h
  split at h
  · cases h
  · cases h
  · rename_i c behind _ hskip
    obtain ⟨blanks, rfl, hblanks⟩ := skipBlanks_eq_cons hskip
    split at h
    · split at h
      · rename_i hfirst hquote
        cases h
        refine ⟨blanks ++ [c], by simp, fun behind => ?_⟩
        rw [readObjectSeparator, List.append_assoc, List.cons_append, List.nil_append, hblanks,
          hquote, hfirst]
        rfl
      · cases h
    · split at h
      · rename_i hfirst hcomma
        split at h
        · cases h
        · rename_i unread hnext
          cases h
          obtain ⟨more, rfl, hmore⟩ := skipBlanks_eq_cons hnext
          refine ⟨blanks ++ c :: more ++ ['"'], by simp, fun behind => ?_⟩
          have htext : blanks ++ c :: more ++ ['"'] ++ behind =
              blanks ++ c :: (more ++ '"' :: behind) := by simp
          rw [readObjectSeparator, htext, hblanks, hcomma]
          simp [hfirst, hmore]
        · cases h
        · cases h
      · cases h

theorem readListSeparator_of_end {first : Bool} (h : skipBlanks text = ']' :: rest) :
    readListSeparator first text = .ok none := by
  unfold readListSeparator
  rw [h]
  rfl

/-- What stands in front of an element, whose first character is looked at. -/
theorem readListSeparator_eq_some {first : Bool}
    (h : readListSeparator first text = .ok (some rest)) :
    ∃ lead c behind, rest = c :: behind ∧ text = lead ++ rest ∧
      ∀ behind, readListSeparator first (lead ++ c :: behind) = .ok (some (c :: behind)) := by
  unfold readListSeparator at h
  split at h
  · cases h
  · cases h
  · rename_i c behind hend hskip
    obtain ⟨blanks, rfl, hblanks⟩ := skipBlanks_eq_cons hskip
    split at h
    · rename_i hfirst
      cases h
      refine ⟨blanks, c, behind, rfl, rfl, fun behind => ?_⟩
      rw [readListSeparator, hblanks]
      simp [hfirst]
    · split at h
      · rename_i hfirst hcomma
        split at h
        · cases h
        · cases h
        · rename_i next hempty hclosed
          cases h
          obtain ⟨d, others, hnext⟩ := List.exists_cons_of_ne_nil hempty
          obtain ⟨more, rfl, hmore⟩ := skipBlanks_eq_cons hnext
          have hd : d ≠ ']' := by
            rintro rfl
            exact hclosed _ hnext
          refine ⟨blanks ++ c :: more, d, others, hnext, by simp [hnext], fun behind => ?_⟩
          have htext : blanks ++ c :: more ++ d :: behind =
              blanks ++ c :: (more ++ d :: behind) := by
            simp
          rw [readListSeparator, htext, hblanks, hcomma]
          simp [hfirst, hmore, hd]
      · cases h

/-! ## Values of a document -/

section Values

variable {fuel depth : ℕ}

theorem readValue_null (h : skipBlanks text = 'n' :: rest) :
    readValue (fuel + 1) depth text = (do .ok (.null, ← readWord ['u', 'l', 'l'] rest)) := by
  rw [readValue, h]
  rfl

theorem readValue_true (h : skipBlanks text = 't' :: rest) :
    readValue (fuel + 1) depth text = (do .ok (.bool true, ← readWord ['r', 'u', 'e'] rest)) := by
  rw [readValue, h]
  rfl

theorem readValue_false (h : skipBlanks text = 'f' :: rest) :
    readValue (fuel + 1) depth text =
      (do .ok (.bool false, ← readWord ['a', 'l', 's', 'e'] rest)) := by
  rw [readValue, h]
  rfl

theorem readValue_string (h : skipBlanks text = '"' :: rest) :
    readValue (fuel + 1) depth text = (do
      let (value, rest) ← readString rest
      .ok (.string value, rest)) := by
  rw [readValue, h]
  rfl

theorem readValue_array (h : skipBlanks text = '[' :: rest) :
    readValue (fuel + 1) (depth + 1) text = (do
      let (elements, rest) ← readElements fuel depth true rest
      .ok (.array elements, rest)) := by
  rw [readValue, h]
  rfl

theorem readValue_object (h : skipBlanks text = '\x7b' :: rest) :
    readValue (fuel + 1) (depth + 1) text = (do
      let (members, rest) ← readMembers fuel depth [] true rest
      .ok (.object members, rest)) := by
  rw [readValue, h]
  rfl

end Values

/-- A text that a document can hold as one value, whatever is behind it, where no more than `levels`
lists and objects are open at once. -/
structure Spells (levels : ℕ) (front : List Char) (value : Value) : Prop where
  read : ∀ {fuel depth} behind, front.length ≤ fuel → levels ≤ depth →
    readValue fuel depth (front ++ behind) = .ok (value, behind)

/-- A spelling, seen from its first character that is no blank. -/
theorem spells_of_lead {levels : ℕ} {blanks front : List Char} {c : Char} {value : Value}
    (hblanks : ∀ behind, skipBlanks (blanks ++ c :: behind) = c :: behind)
    (h : ∀ {fuel depth text behind}, front.length ≤ fuel → levels ≤ depth →
      skipBlanks text = c :: (front ++ behind) →
      readValue (fuel + 1) depth text = .ok (value, behind)) :
    Spells levels (blanks ++ c :: front) value where
  read := by
    intro fuel depth behind hfuel hdepth
    rw [List.length_append, List.length_cons] at hfuel
    obtain ⟨fuel, rfl⟩ := Nat.exists_eq_add_of_le' (by omega : 1 ≤ fuel)
    refine h (by omega) hdepth ?_
    rw [List.append_assoc, List.cons_append, hblanks]

/-- A text with a spelling in front is one value exactly if only blanks are behind the spelling. -/
theorem Spells.parseChars_iff {levels : ℕ} {front : List Char} {value : Value}
    (h : Spells levels front value) (hlevels : levels ≤ nestingLimit) (behind : List Char) :
    (∃ whole, parseChars (front ++ behind) = .ok whole) ↔ ∀ c ∈ behind, isBlank c = true := by
  have hread : readValue (2 * (front ++ behind).length + 2) nestingLimit (front ++ behind) =
      .ok (value, behind) := h.read behind (by rw [List.length_append]; omega) hlevels
  rw [parseChars, hread, ← skipBlanks_eq_nil_iff]
  cases hskip : skipBlanks behind with
  | nil => simp [bind, Except.bind, hskip]
  | cons c rest => simp [bind, Except.bind, hskip]

end Exemplar.Json
