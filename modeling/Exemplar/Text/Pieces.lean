/-!
# Pieces of a text

Cutting a text at every occurrence of a mark. There is always one piece more than there are marks.
-/

namespace Exemplar.Text

/-- The list of pieces with a character put in front of the first. -/
def consFirst (c : Char) : List (List Char) → List (List Char)
  | [] => [[c]]
  | piece :: pieces => (c :: piece) :: pieces

/-- The pieces between the occurrences of one character. -/
def pieces (mark : Char) : List Char → List (List Char)
  | [] => [[]]
  | c :: rest => if c = mark then [] :: pieces mark rest else consFirst c (pieces mark rest)

/-- The pieces between the occurrences of two colons, found from the left. -/
def doubleColonPieces : List Char → List (List Char)
  | ':' :: ':' :: rest => [] :: doubleColonPieces rest
  | c :: rest => consFirst c (doubleColonPieces rest)
  | [] => [[]]

theorem pieces_ne_nil (mark : Char) (cs : List Char) : pieces mark cs ≠ [] := by
  cases cs with
  | nil => simp [pieces]
  | cons c rest =>
      unfold pieces
      split
      · simp
      · cases pieces mark rest <;> simp [consFirst]

/-- The mark between the pieces gives the text back. -/
theorem intercalate_pieces (mark : Char) (cs : List Char) :
    [mark].intercalate (pieces mark cs) = cs := by
  induction cs with
  | nil => rfl
  | cons c rest ih =>
      have hne := pieces_ne_nil mark rest
      unfold pieces
      cases hpieces : pieces mark rest with
      | nil => exact absurd hpieces hne
      | cons piece others =>
          rw [hpieces] at ih
          split
          · next heq => rw [heq, ← ih]; cases others <;> simp [List.intercalate]
          · rw [← ih]; cases others <;> simp [consFirst, List.intercalate]

theorem pieces_of_notMem {mark : Char} {cs : List Char} (h : mark ∉ cs) :
    pieces mark cs = [cs] := by
  induction cs with
  | nil => rfl
  | cons c rest ih =>
      have hc : c ≠ mark := fun heq => h (heq ▸ List.mem_cons_self)
      rw [pieces, if_neg hc, ih fun hmem => h (List.mem_cons_of_mem _ hmem)]
      rfl

/-- The pieces of two texts with the mark between them. -/
theorem pieces_append (mark : Char) (first second : List Char) :
    pieces mark (first ++ mark :: second) = pieces mark first ++ pieces mark second := by
  induction first with
  | nil => simp [pieces]
  | cons c rest ih =>
      have hne := pieces_ne_nil mark rest
      rw [List.cons_append, pieces, pieces, ih]
      split
      · rfl
      · cases hpieces : pieces mark rest with
        | nil => exact absurd hpieces hne
        | cons piece others => rfl

/-- Pieces do not hold the mark. -/
theorem notMem_of_mem_pieces {mark : Char} {cs piece : List Char} (h : piece ∈ pieces mark cs) :
    mark ∉ piece := by
  induction cs generalizing piece with
  | nil =>
      rw [List.mem_singleton.1 h]
      exact List.not_mem_nil
  | cons c rest ih =>
      rw [pieces] at h
      split at h
      · rcases List.mem_cons.1 h with rfl | h
        · exact List.not_mem_nil
        · exact ih h
      · rename_i hc
        cases hpieces : pieces mark rest with
        | nil => exact absurd hpieces (pieces_ne_nil mark rest)
        | cons first others =>
            rw [hpieces] at h ih
            rcases List.mem_cons.1 h with rfl | h
            · intro hmem
              rcases List.mem_cons.1 hmem with heq | hmem
              · exact hc heq.symm
              · exact ih List.mem_cons_self hmem
            · exact ih (List.mem_cons_of_mem _ h)

/-- Pieces are made of characters of the text. -/
theorem mem_of_mem_pieces {mark c : Char} {cs piece : List Char} (h : piece ∈ pieces mark cs)
    (hc : c ∈ piece) : c ∈ cs := by
  induction cs generalizing piece with
  | nil =>
      rw [List.mem_singleton.1 h] at hc
      exact hc
  | cons d rest ih =>
      rw [pieces] at h
      split at h
      · rcases List.mem_cons.1 h with rfl | h
        · cases hc
        · exact List.mem_cons_of_mem _ (ih h hc)
      · cases hpieces : pieces mark rest with
        | nil => exact absurd hpieces (pieces_ne_nil mark rest)
        | cons first others =>
            rw [hpieces] at h ih
            rcases List.mem_cons.1 h with rfl | h
            · rcases List.mem_cons.1 hc with rfl | hc
              · exact List.mem_cons_self
              · exact List.mem_cons_of_mem _ (ih List.mem_cons_self hc)
            · exact List.mem_cons_of_mem _ (ih (List.mem_cons_of_mem _ h) hc)

/-- Pieces with the mark between them are cut apart again. -/
theorem pieces_intercalate {mark : Char} {texts : List (List Char)} (hne : texts ≠ [])
    (h : ∀ text ∈ texts, mark ∉ text) : pieces mark ([mark].intercalate texts) = texts := by
  induction texts with
  | nil => exact absurd rfl hne
  | cons text rest ih =>
      have htext := pieces_of_notMem (h text List.mem_cons_self)
      cases rest with
      | nil => simpa [List.intercalate] using htext
      | cons next others =>
          have hrest := ih (List.cons_ne_nil _ _)
            fun other hother => h other (List.mem_cons_of_mem _ hother)
          have hcut : [mark].intercalate (text :: next :: others) =
              text ++ mark :: [mark].intercalate (next :: others) := by
            simp [List.intercalate]
          rw [hcut, pieces_append, htext, hrest]
          rfl

end Exemplar.Text
