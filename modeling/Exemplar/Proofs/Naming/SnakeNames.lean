import Exemplar.Naming.Snake
import Exemplar.Proofs.Naming.PlainNames

/-!
# Characters of snake case

The words of an identifier hold no other characters than the identifier.  In lower case they hold no
ASCII capital, so that the snake case of a plain identifier is made of underscores and of small
letters and digits, as far as it is ASCII.
-/

namespace Exemplar.Naming

open Text Unicode

/-- A word is made of what stands open and of clusters. -/
theorem mem_of_mem_wordsFrom {before : Option Cluster} {word : List Char}
    {clusters : List Cluster} {found : List Char} (hfound : found ∈ wordsFrom before word clusters)
    {c : Char} (hc : c ∈ found) : c ∈ word ∨ c ∈ clusters.flatten := by
  induction clusters generalizing before word with
  | nil =>
      rw [wordsFrom, List.mem_singleton] at hfound
      exact .inl (hfound ▸ hc)
  | cons cluster rest ih =>
      rw [List.flatten_cons, List.mem_append]
      unfold wordsFrom at hfound
      split at hfound
      · rcases List.mem_cons.1 hfound with rfl | hfound
        · exact .inl hc
        · rcases ih hfound with hnone | hrest
          · cases hnone
          · exact .inr (.inr hrest)
      · split at hfound
        · rcases List.mem_cons.1 hfound with rfl | hfound
          · exact .inl hc
          · exact .inr (ih hfound)
        · rcases ih hfound with hword | hrest
          · exact (List.mem_append.1 hword).imp_right .inl
          · exact .inr (.inr hrest)

theorem mem_of_mem_words {identifier word : List Char} (hword : word ∈ words identifier) {c : Char}
    (hc : c ∈ word) : c ∈ identifier := by
  rcases mem_of_mem_wordsFrom (List.mem_filter.1 hword).1 hc with hnone | hmem
  · cases hnone
  · rwa [flatten_clusters] at hmem

/-- The lower case of plain characters holds no ASCII capital. -/
theorem isSmallPlain_lowercaseAfter (before : List Char) {cs : List Char}
    (hplain : ∀ c ∈ cs, IsPlain c) : ∀ c ∈ lowercaseAfter before cs, IsSmallPlain c := by
  induction cs generalizing before with
  | nil => exact fun c hmem => absurd hmem List.not_mem_nil
  | cons first rest ih =>
      intro c hmem
      rw [lowercaseAfter] at hmem
      rcases List.mem_append.1 hmem with hmem | hmem
      · split at hmem
        · have hsigma : c = 'ς' ∨ c = 'σ' := by
            split at hmem
            · exact .inl (List.mem_singleton.1 hmem)
            · exact .inr (List.mem_singleton.1 hmem)
          rcases hsigma with rfl | rfl <;> decide
        · exact isSmallPlain_lower (hplain first List.mem_cons_self) c hmem
      · exact ih _ (fun c hc => hplain c (List.mem_cons_of_mem _ hc)) c hmem

theorem mem_intercalate {separator : List Char} {parts : List (List Char)} {c : Char}
    (hmem : c ∈ separator.intercalate parts) : c ∈ separator ∨ ∃ part ∈ parts, c ∈ part := by
  induction parts with
  | nil => cases hmem
  | cons part rest ih =>
      cases rest with
      | nil =>
          rw [List.intercalate_singleton] at hmem
          exact .inr ⟨part, List.mem_cons_self, hmem⟩
      | cons next others =>
          rw [List.intercalate_cons_cons, List.append_assoc, List.mem_append,
            List.mem_append] at hmem
          rcases hmem with hmem | hmem | hmem
          · exact .inr ⟨part, List.mem_cons_self, hmem⟩
          · exact .inl hmem
          · rcases ih hmem with hmem | ⟨found, hfound, hmem⟩
            · exact .inl hmem
            · exact .inr ⟨found, List.mem_cons_of_mem _ hfound, hmem⟩

/-- Snake case holds underscores and, as far as it is ASCII, small letters and digits. -/
theorem isSmallPlain_snakeChars {identifier : List Char} (hplain : ∀ c ∈ identifier, IsPlain c) :
    ∀ c ∈ snakeChars identifier, c = '_' ∨ IsSmallPlain c := by
  intro c hmem
  rcases mem_intercalate hmem with hmem | ⟨part, hpart, hmem⟩
  · exact .inl (List.mem_singleton.1 hmem)
  · right
    obtain ⟨word, hword, rfl⟩ := List.mem_map.1 hpart
    exact isSmallPlain_lowercaseAfter [] (fun c hc => hplain c (mem_of_mem_words hword hc)) c hmem

end Exemplar.Naming
