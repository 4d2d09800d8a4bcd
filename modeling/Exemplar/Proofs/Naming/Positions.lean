import Exemplar.Proofs.Naming.PlainNames

/-!
# Identifiers position by position

The identifier of a property is made in one pass over its characters.  What becomes of a character
depends on no more than the character before it, so that the identifier can be read off the property
position by position, from the first letter on.
-/

namespace Exemplar.Naming

open Unicode

/-- Whether an identifier that has started keeps a character. -/
def isKept (c : Char) : Bool :=
  isAlphabetic c || c.isDigit

/-- The character in front of a position. -/
def predecessor? (raw : List Char) : Nat → Option Char
  | 0 => none
  | position + 1 => raw[position]?

/-- Whether the character in front of a position is there and is dropped. -/
def followsDropped (raw : List Char) (position : Nat) : Bool :=
  (predecessor? raw position).any (!isKept ·)

/-- What stands in the identifier for one position: a letter in upper case behind a dropped character
and as it is elsewhere, a digit as it is. -/
def imageAt (raw : List Char) (position : Nat) : List Char :=
  match raw[position]? with
  | none => []
  | some c =>
      if isAlphabetic c then if followsDropped raw position then upper c else [c]
      else if c.isDigit then [c]
      else []

/-- What stands in the identifier for the positions from the first letter on. -/
def images (raw : List Char) : List Char :=
  let first := raw.findIdx isAlphabetic
  (List.range' first (raw.length - first)).flatMap (imageAt raw)

/-! ## One pass -/

theorem imageAt_length (before : List Char) (c : Char) (rest : List Char) :
    imageAt (before ++ c :: rest) before.length =
      if isAlphabetic c then
        if followsDropped (before ++ c :: rest) before.length then upper c else [c]
      else if c.isDigit then [c]
      else [] := by
  rw [imageAt, List.getElem?_append_right (Nat.le_refl _), Nat.sub_self]
  rfl

theorem followsDropped_length_succ (before : List Char) (c : Char) (rest : List Char) :
    followsDropped (before ++ c :: rest) (before.length + 1) = !isKept c := by
  rw [followsDropped, predecessor?, List.getElem?_append_right (Nat.le_refl _), Nat.sub_self]
  rfl

/-- Once a letter stands before, every position gives its image. -/
theorem camelFrom_eq_images (before rest : List Char) :
    camelFrom true (followsDropped (before ++ rest) before.length) rest =
      (List.range' before.length rest.length).flatMap (imageAt (before ++ rest)) := by
  induction rest generalizing before with
  | nil => rfl
  | cons c rest ih =>
      have hrest := ih (before ++ [c])
      rw [List.append_assoc, List.singleton_append, List.length_append, List.length_singleton,
        followsDropped_length_succ] at hrest
      rw [List.length_cons, List.range'_succ, List.flatMap_cons, ← hrest, imageAt_length, camelFrom,
        isKept]
      split
      · rename_i hletter
        rw [hletter, Bool.true_or, Bool.not_true]
      · rename_i hletter
        split
        · rename_i hdigit
          rw [hdigit, Bool.or_true, Bool.not_true, if_pos rfl]
        · rename_i hdigit
          rw [Bool.eq_false_iff.2 hletter, Bool.eq_false_iff.2 hdigit, Bool.or_false,
            Bool.not_false, List.nil_append]

/-- Characters in front of the first letter leave nothing but whether the letter follows one that is
dropped. -/
theorem camelFrom_lead {lead : List Char} (hlead : ∀ c ∈ lead, isAlphabetic c = false)
    (before rest : List Char) :
    camelFrom false (followsDropped (before ++ (lead ++ rest)) before.length) (lead ++ rest) =
      camelFrom false (followsDropped (before ++ (lead ++ rest)) (before.length + lead.length))
        rest := by
  induction lead generalizing before with
  | nil => rfl
  | cons c lead ih =>
      have hrest := ih (fun other hother => hlead other (List.mem_cons_of_mem _ hother))
        (before ++ [c])
      rw [List.append_assoc, List.singleton_append, List.length_append, List.length_singleton,
        followsDropped_length_succ] at hrest
      have hletter := hlead c List.mem_cons_self
      have hlength : before.length + (c :: lead).length = before.length + 1 + lead.length := by
        rw [List.length_cons]
        omega
      rw [List.cons_append, hlength, ← hrest, camelFrom, isKept, hletter, Bool.false_or,
        if_neg Bool.false_ne_true]
      cases c.isDigit with
      | true => rfl
      | false => rfl

theorem camelFrom_false_cons {c : Char} (hletter : isAlphabetic c = true) (boundary : Bool)
    (rest : List Char) :
    camelFrom false boundary (c :: rest) = camelFrom true boundary (c :: rest) := by
  rw [camelFrom, camelFrom, if_pos hletter, if_pos hletter]

theorem camelFrom_of_letterless {raw : List Char} (h : ∀ c ∈ raw, isAlphabetic c = false) :
    camelFrom false false raw = [] := by
  have hlead := camelFrom_lead h [] []
  rw [List.append_nil] at hlead
  exact hlead

/-- A name with a letter falls apart at the first. -/
theorem exists_first_letter {raw : List Char} (h : raw.any isAlphabetic = true) :
    ∃ lead c rest, raw = lead ++ c :: rest ∧ (∀ other ∈ lead, isAlphabetic other = false) ∧
      isAlphabetic c = true ∧ raw.findIdx isAlphabetic = lead.length := by
  induction raw with
  | nil => cases h
  | cons first rest ih =>
      cases hfirst : isAlphabetic first with
      | true =>
          have hindex : (first :: rest).findIdx isAlphabetic = 0 := by
            rw [List.findIdx_cons, hfirst]
            rfl
          exact ⟨[], first, rest, rfl, fun _ hnone => absurd hnone List.not_mem_nil, hfirst, hindex⟩
      | false =>
          rw [List.any_cons, hfirst, Bool.false_or] at h
          obtain ⟨lead, c, tail, rfl, hlead, hletter, hindex⟩ := ih h
          refine ⟨first :: lead, c, tail, rfl, List.forall_mem_cons.2 ⟨hfirst, hlead⟩, hletter, ?_⟩
          rw [List.findIdx_cons, hfirst, hindex]
          rfl

/-- The pass begins at the first letter. -/
theorem camelFrom_first_letter {lead : List Char} (hlead : ∀ c ∈ lead, isAlphabetic c = false)
    {c : Char} (hletter : isAlphabetic c = true) (rest : List Char) :
    camelFrom false false (lead ++ c :: rest) =
      camelFrom true (followsDropped (lead ++ c :: rest) lead.length) (c :: rest) := by
  have hskip := camelFrom_lead hlead [] (c :: rest)
  rw [List.nil_append, List.length_nil, Nat.zero_add, camelFrom_false_cons hletter] at hskip
  exact hskip

theorem camelFrom_eq_images_of_letter {raw : List Char} (h : raw.any isAlphabetic = true) :
    camelFrom false false raw = images raw := by
  obtain ⟨lead, c, rest, rfl, hlead, hletter, hindex⟩ := exists_first_letter h
  have hlength : (lead ++ c :: rest).length - lead.length = (c :: rest).length := by
    rw [List.length_append]
    omega
  rw [camelFrom_first_letter hlead hletter, camelFrom_eq_images, images, hindex, hlength]

theorem camelFrom_ne_nil {raw : List Char} (h : raw.any isAlphabetic = true) :
    camelFrom false false raw ≠ [] := by
  obtain ⟨lead, c, rest, rfl, hlead, hletter, -⟩ := exists_first_letter h
  rw [camelFrom_first_letter hlead hletter, camelFrom, if_pos hletter]
  split <;> simp [upper_ne_nil]

/-- The identifier of a name is made of the images of its positions, or else of the stem of names
without letters and the digits. -/
theorem camel_eq (raw : List Char) :
    camel raw =
      if raw.any isAlphabetic then images raw else letterlessStem ++ raw.filter Char.isDigit := by
  cases h : raw.any isAlphabetic with
  | false =>
      have hnone : ∀ c ∈ raw, isAlphabetic c = false :=
        fun c hc => Bool.eq_false_iff.2 (List.any_eq_false.1 h c hc)
      rw [camel, camelFrom_of_letterless hnone]
      rfl
  | true =>
      rw [← camelFrom_eq_images_of_letter h, if_pos rfl, camel]
      split
      · rename_i hnil
        exact absurd hnil (camelFrom_ne_nil h)
      · rename_i hcons
        exact hcons.symm

theorem fieldName_ne_nil (fieldPrefix property : String) :
    (fieldName fieldPrefix property).toList ≠ [] := by
  unfold fieldName
  split
  · rw [uncapitalize, normalize, String.toList_ofList, String.toList_ofList]
    cases hchars : camel property.toList with
    | nil => exact absurd hchars (camel_ne_nil _)
    | cons first rest => simp [uncapitalizeChars, lower_ne_nil]
  · rw [String.toList_append]
    exact List.append_ne_nil_of_right_ne_nil _ (className_ne_nil property)

/-- A name that has a letter gives the images of its positions from the first letter on, and a name
without letters the stem `value` and its digits.  So no name of a class, field or parameter is
empty. -/
theorem normalize_by_position (raw fieldPrefix : String) :
    (normalize raw).toList =
        (if raw.toList.any isAlphabetic then images raw.toList
        else "value".toList ++ raw.toList.filter Char.isDigit) ∧
      className raw ≠ "" ∧ fieldName fieldPrefix raw ≠ "" ∧ parameterName raw ≠ "" := by
  have hne : ∀ {name : String}, name.toList ≠ [] → name ≠ "" := by
    rintro name h rfl
    exact h rfl
  refine ⟨?_, hne (className_ne_nil raw), hne (fieldName_ne_nil fieldPrefix raw),
    hne (fieldName_ne_nil "" raw)⟩
  rw [normalize, String.toList_ofList]
  exact camel_eq raw.toList

end Exemplar.Naming
