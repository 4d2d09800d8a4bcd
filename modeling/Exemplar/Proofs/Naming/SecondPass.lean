import Exemplar.Proofs.Naming.Positions

/-!
# Identifiers of identifiers

Making the identifier of an identifier changes nothing as long as the first pass leaves letters and
digits only.  The upper case of a letter begins with a letter, but some go on with a mark that is
none (`ǰ` becomes `J` with a caron behind it).  Where such a letter was raised, the second pass drops
the mark.
-/

namespace Exemplar

namespace Unicode

/-! ## Upper case begins with a letter -/

/-- Whether one of the ranges holds all code points from `low` to `high`. -/
def Ranges.covers : Ranges → Nat → Nat → Bool
  | [], _, _ => false
  | (first, last) :: ranges, low, high =>
      bif high.ble last then first.ble low else !low.ble last && covers ranges low high

theorem Ranges.contains_of_covers {ranges : Ranges} {low high n : Nat}
    (h : ranges.covers low high = true) (hlow : low ≤ n) (hhigh : n ≤ high) :
    ranges.contains n = true := by
  induction ranges with
  | nil => cases h
  | cons range rest ih =>
      obtain ⟨first, last⟩ := range
      rw [Ranges.covers] at h
      rw [Ranges.contains]
      cases hlast : high.ble last with
      | true =>
          have hend := Nat.le_of_ble_eq_true hlast
          rw [hlast, cond_true] at h
          have hfirst := Nat.le_of_ble_eq_true h
          rw [if_pos (by omega)]
          exact decide_eq_true (by omega)
      | false =>
          have hend := Nat.not_le_of_not_ble_eq_true (Bool.eq_false_iff.1 hlast)
          rw [hlast, cond_false, Bool.and_eq_true, Bool.not_eq_true'] at h
          have hlater := Nat.not_le_of_not_ble_eq_true (Bool.eq_false_iff.1 h.1)
          rw [if_neg (by omega)]
          exact ih h.2

theorem isAlphabetic_ofNat {low high n : Nat} (hbeyond : 0x80 ≤ low)
    (hvalid : high < 0xD800 ∨ 0xDFFF < low ∧ high < 0x110000)
    (hcovers : alphabeticRanges.covers low high = true) (hlow : low ≤ n) (hhigh : n ≤ high) :
    isAlphabetic (Char.ofNat n) = true := by
  rw [isAlphabetic, toNat_ofNat (by omega), if_neg (by omega)]
  exact Ranges.contains_of_covers hcovers hlow hhigh

/-- The images of a run of letters. -/
def CaseRun.images (run : CaseRun) : List Char :=
  (List.range ((run.last - run.first) / run.step + 1)).map fun index =>
    Char.ofNat (Int.toNat (↑(run.first + run.step * index) + run.distance))

/-- Whether the images of a run are letters.  The look-up of every image is left to the runs whose
images do not lie in one range. -/
def CaseRun.hasLetters (run : CaseRun) : Bool :=
  let first := Int.toNat (run.first + run.distance)
  let last := Int.toNat (run.last + run.distance)
  decide (0x80 ≤ first ∧ (last < 0xD800 ∨ 0xDFFF < first ∧ last < 0x110000)) &&
      alphabeticRanges.covers first last ||
    run.images.all isAlphabetic

theorem CaseRun.mem_images {run : CaseRun} {n : Nat} (hfirst : run.first ≤ n) (hlast : n ≤ run.last)
    (hstep : (n - run.first) % run.step = 0) :
    Char.ofNat (Int.toNat (n + run.distance)) ∈ run.images := by
  have hn : run.first + run.step * ((n - run.first) / run.step) = n := by
    rw [Nat.mul_div_cancel' (Nat.dvd_of_mod_eq_zero hstep)]
    omega
  have hindex : (n - run.first) / run.step < (run.last - run.first) / run.step + 1 :=
    Nat.lt_succ_of_le (Nat.div_le_div_right (by omega))
  exact List.mem_map.2 ⟨_, List.mem_range.2 hindex, by rw [hn]⟩

theorem isAlphabetic_of_image? {runs : List CaseRun}
    (hruns : ∀ run ∈ runs, run.hasLetters = true) {n image : Nat}
    (h : CaseRun.image? runs n = some image) : isAlphabetic (Char.ofNat image) = true := by
  induction runs with
  | nil => cases h
  | cons run rest ih =>
      unfold CaseRun.image? at h
      split at h
      · rename_i hrange
        obtain ⟨hfirst, hlast, hstep⟩ := hrange
        cases h
        rcases Bool.or_eq_true_iff.1 (hruns run List.mem_cons_self) with hcovers | hall
        · obtain ⟨hvalid, hcovers⟩ := Bool.and_eq_true_iff.1 hcovers
          obtain ⟨hbeyond, hvalid⟩ := of_decide_eq_true hvalid
          exact isAlphabetic_ofNat hbeyond hvalid hcovers (by omega) (by omega)
        · exact List.all_eq_true.1 hall _ (CaseRun.mem_images hfirst hlast hstep)
      · exact ih (fun other hother => hruns other (List.mem_cons_of_mem _ hother)) h

theorem isAlphabetic_toUpper {c : Char} (hascii : c.toNat < 0x80) (h : c.isAlpha = true) :
    isAlphabetic c.toUpper = true :=
  ascii_forall (p := fun c => c.isAlpha = true → isAlphabetic c.toUpper = true)
    (by decide +kernel) hascii h

/-- The upper case of a letter begins with a letter. -/
theorem exists_upper_eq_cons {c : Char} (h : isAlphabetic c = true) :
    ∃ first rest, upper c = first :: rest ∧ isAlphabetic first = true := by
  have hruns : upperRuns.all CaseRun.hasLetters = true := by decide +kernel
  have hexpansions : ∀ entry ∈ upperExpansions, isAlphabetic (Char.ofNat entry.2.1) = true := by
    decide +kernel
  unfold upper
  split
  · rename_i hascii
    rw [isAlphabetic_of_ascii hascii] at h
    exact ⟨_, _, rfl, isAlphabetic_toUpper hascii h⟩
  · refine ⟨_, _, rfl, ?_⟩
    unfold caseImage
    split
    · rename_i entry head tail hfound
      exact hexpansions _ (List.mem_of_find?_eq_some hfound)
    · split
      · rename_i n hn
        exact isAlphabetic_of_image? (List.all_eq_true.1 hruns) hn
      · exact h

end Unicode

namespace Naming

open Unicode

/-! ## Identifiers begin with a letter -/

theorem isKept_of_isAlphabetic {c : Char} (h : isAlphabetic c = true) : isKept c = true := by
  rw [isKept, h, Bool.true_or]

/-- Whatever a pass drops, it goes on with a letter or a digit. -/
theorem isKept_head_camelFrom {started boundary : Bool} {cs : List Char} {c : Char}
    (h : (camelFrom started boundary cs).head? = some c) : isKept c = true := by
  induction cs generalizing started boundary with
  | nil => cases h
  | cons first rest ih =>
      unfold camelFrom at h
      split at h
      · rename_i hletter
        obtain ⟨capital, marks, hupper, hcapital⟩ := exists_upper_eq_cons hletter
        split at h
        · rw [hupper] at h
          cases h
          exact isKept_of_isAlphabetic hcapital
        · cases h
          exact isKept_of_isAlphabetic hletter
      · split at h
        · rename_i hdigit
          split at h
          · cases h
            rw [isKept, hdigit, Bool.or_true]
          · exact ih h
        · exact ih h

/-- The identifier of a name begins with a letter. -/
theorem exists_camel_eq_cons (raw : List Char) :
    ∃ first rest, camel raw = first :: rest ∧ isAlphabetic first = true := by
  rw [camel_eq]
  split
  · rename_i hany
    obtain ⟨lead, c, rest, rfl, hlead, hletter, -⟩ := exists_first_letter hany
    obtain ⟨capital, marks, hupper, hcapital⟩ := exists_upper_eq_cons hletter
    rw [← camelFrom_eq_images_of_letter hany, camelFrom_first_letter hlead hletter, camelFrom,
      if_pos hletter, hupper]
    split
    · exact ⟨_, _, rfl, hcapital⟩
    · exact ⟨_, _, rfl, hletter⟩
  · exact ⟨_, _, rfl, by decide +kernel⟩

/-! ## The second pass -/

theorem camelFrom_cons_of_kept {c : Char} (hkept : isKept c = true) (rest : List Char) :
    camelFrom true false (c :: rest) = c :: camelFrom true false rest := by
  rw [isKept] at hkept
  rw [camelFrom]
  cases hletter : isAlphabetic c with
  | true => rfl
  | false =>
      rw [hletter, Bool.false_or] at hkept
      rw [hkept]
      rfl

theorem camelFrom_cons_of_dropped {c : Char} (hdropped : isKept c = false) (rest : List Char) :
    camelFrom true false (c :: rest) = camelFrom true true rest := by
  obtain ⟨hletter, hdigit⟩ := Bool.or_eq_false_iff.1 hdropped
  rw [camelFrom, hletter, hdigit]
  rfl

/-- A pass that has started changes nothing exactly if there is nothing to drop. -/
theorem camelFrom_eq_self_iff (text : List Char) :
    camelFrom true false text = text ↔ ∀ c ∈ text, isKept c = true := by
  induction text with
  | nil => simp [camelFrom]
  | cons c rest ih =>
      rw [List.forall_mem_cons]
      cases hkept : isKept c with
      | true =>
          rw [camelFrom_cons_of_kept hkept, List.cons.injEq, ih]
          simp
      | false =>
          rw [camelFrom_cons_of_dropped hkept]
          constructor
          · intro heq
            -- What stands after the character does not begin with one that is dropped.
            have hhead : (camelFrom true true rest).head? = some c := by rw [heq]; rfl
            rw [isKept_head_camelFrom hhead] at hkept
            cases hkept
          · rintro ⟨hnone, -⟩
            cases hnone

theorem camel_of_letter {first : Char} (hletter : isAlphabetic first = true) (rest : List Char) :
    camel (first :: rest) = camelFrom true false (first :: rest) := by
  have hany : (first :: rest).any isAlphabetic = true := by
    rw [List.any_cons, hletter, Bool.true_or]
  rw [camel_eq, if_pos hany, ← camelFrom_eq_images_of_letter hany, camelFrom_false_cons hletter]

/-- A second pass changes nothing exactly if the first leaves letters and digits only. -/
theorem camel_camel_eq_iff (raw : List Char) :
    camel (camel raw) = camel raw ↔ ∀ c ∈ camel raw, isKept c = true := by
  obtain ⟨first, rest, hcamel, hletter⟩ := exists_camel_eq_cons raw
  rw [hcamel, camel_of_letter hletter]
  exact camelFrom_eq_self_iff _

/-! ## Raised letters -/

theorem imageAt_of_raised {raw : List Char} {position : Nat} {c : Char}
    (hc : raw[position]? = some c) (hletter : isAlphabetic c = true)
    (hdropped : followsDropped raw position = true) : imageAt raw position = upper c := by
  rw [imageAt, hc]
  exact (if_pos hletter).trans (if_pos hdropped)

/-- What stands for a position is from the upper case of a raised letter, or it is kept. -/
theorem of_mem_imageAt {raw : List Char} {position : Nat} {image : Char}
    (h : image ∈ imageAt raw position) :
    isKept image = true ∨
      ∃ c, raw[position]? = some c ∧ isAlphabetic c = true ∧
        followsDropped raw position = true ∧ image ∈ upper c := by
  unfold imageAt at h
  split at h
  · cases h
  · rename_i c hc
    split at h
    · rename_i hletter
      split at h
      · rename_i hdropped
        exact .inr ⟨c, hc, hletter, hdropped, h⟩
      · rw [List.mem_singleton.1 h]
        exact .inl (isKept_of_isAlphabetic hletter)
    · split at h
      · rename_i hdigit
        rw [List.mem_singleton.1 h, isKept, hdigit, Bool.or_true]
        exact .inl rfl
      · cases h

theorem mem_images_of_letter {raw : List Char} {position : Nat} {c image : Char}
    (hc : raw[position]? = some c) (hletter : isAlphabetic c = true)
    (himage : image ∈ imageAt raw position) : image ∈ images raw := by
  obtain ⟨hposition, hfound⟩ := List.getElem?_eq_some_iff.1 hc
  have hfirst : raw.findIdx isAlphabetic ≤ position := by
    apply Nat.le_of_not_lt
    intro hbefore
    have hnone := List.not_of_lt_findIdx hbefore
    rw [hfound, hletter] at hnone
    cases hnone
  exact List.mem_flatMap.2 ⟨position, List.mem_range'_1.2 (by omega), himage⟩

theorem isKept_letterless (raw : List Char) :
    ∀ c ∈ letterlessStem ++ raw.filter Char.isDigit, isKept c = true := by
  have hstem : letterlessStem.all isKept = true := by decide +kernel
  intro c hc
  rcases List.mem_append.1 hc with hc | hc
  · exact List.all_eq_true.1 hstem c hc
  · rw [isKept, (List.mem_filter.1 hc).2, Bool.or_true]

/-- An identifier holds letters and digits only exactly if the upper case of every raised letter
does. -/
theorem isKept_camel_iff (raw : List Char) :
    (∀ c ∈ camel raw, isKept c = true) ↔
      ∀ position c, raw[position]? = some c → isAlphabetic c = true →
        followsDropped raw position = true → ∀ image ∈ upper c, isKept image = true := by
  rw [camel_eq]
  cases hany : raw.any isAlphabetic with
  | true =>
      constructor
      · intro hkept position c hc hletter hdropped image himage
        rw [← imageAt_of_raised hc hletter hdropped] at himage
        exact hkept image (mem_images_of_letter hc hletter himage)
      · intro hraised image himage
        obtain ⟨position, -, himage⟩ := List.mem_flatMap.1 himage
        rcases of_mem_imageAt himage with hkept | ⟨c, hc, hletter, hdropped, hupper⟩
        · exact hkept
        · exact hraised position c hc hletter hdropped image hupper
  | false =>
      refine ⟨fun _ position c hc hletter => ?_, fun _ => isKept_letterless raw⟩
      exact absurd hletter (List.any_eq_false.1 hany c (List.mem_of_getElem? hc))

/-- Making the identifier of an identifier changes nothing exactly if the upper case of every letter
that follows a dropped character is made of letters and digits. -/
theorem normalize_normalize_iff (raw : String) :
    normalize (normalize raw) = normalize raw ↔
      ∀ position c, raw.toList[position]? = some c → isAlphabetic c = true →
        followsDropped raw.toList position = true → ∀ image ∈ upper c, isKept image = true := by
  have htexts : normalize (normalize raw) = normalize raw ↔
      camel (camel raw.toList) = camel raw.toList := by
    rw [← String.toList_inj, normalize, normalize, String.toList_ofList, String.toList_ofList]
  rw [htexts, camel_camel_eq_iff, isKept_camel_iff]

/-- The upper case of `ǰ` is a letter and a mark.  The second pass drops the mark. -/
theorem normalize_normalize_caron :
    normalize "_\u01f0" = "J\u030c" ∧ normalize (normalize "_\u01f0") = "J" ∧
      normalize (normalize "_\u01f0") ≠ normalize "_\u01f0" := by
  decide +kernel

end Naming

end Exemplar
