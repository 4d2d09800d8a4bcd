import Exemplar.Unicode.ClusterBreak

/-!
# Grapheme clusters

Text is cut into the pieces a reader takes for one character: a letter with its marks, a Hangul
syllable, a flag, a bound pictograph, an Indic conjunct. The cut is made left to right; `Edge` holds
what the rules need to know of the text before the next character.
-/

namespace Exemplar.Text

open Unicode

/-- How far a run that binds across its middle has come: a pictograph waiting for a joiner, or a
consonant waiting for a virama. -/
inductive Binding where
  | absent
  | started
  | ready
  deriving DecidableEq

structure Edge where
  last : ClusterBreak
  /-- The last character is a regional indicator without a partner. -/
  unpairedRegional : Bool
  pictograph : Binding
  conjunct : Binding

def pictographAfter (before : Binding) : ClusterBreak → Binding
  | .pictograph => .started
  | .extend => if before = .started then .started else .absent
  | .joiner => if before = .started then .ready else .absent
  | _ => .absent

/-- A zero width non-joiner ends a conjunct; every other extending character leaves it as it is. -/
def conjunctAfter (before : Binding) (c : Char) (kind : ClusterBreak) : Binding :=
  if isConjunctConsonant c then .started
  else if isConjunctLinker c then if before = .absent then .absent else .ready
  else if kind = .joiner || (kind = .extend && c.toNat != 0x200C) then before
  else .absent

def Edge.start (c : Char) : Edge :=
  let kind := ClusterBreak.ofChar c
  ⟨kind, kind = .regional, pictographAfter .absent kind, conjunctAfter .absent c kind⟩

def Edge.push (edge : Edge) (c : Char) : Edge :=
  let kind := ClusterBreak.ofChar c
  ⟨kind, kind = .regional && !edge.unpairedRegional, pictographAfter edge.pictograph kind,
    conjunctAfter edge.conjunct c kind⟩

/-- Whether the next character belongs to the cluster that ends at the edge. -/
def Edge.joins (edge : Edge) (c : Char) : Bool :=
  match edge.last, ClusterBreak.ofChar c with
  | .carriageReturn, .lineFeed => true
  | .carriageReturn, _ | .lineFeed, _ | .control, _ => false
  | _, .carriageReturn | _, .lineFeed | _, .control => false
  | _, .extend | _, .joiner | _, .spacing => true
  | .prepend, _ => true
  | .leading, .leading | .leading, .vowel => true
  | .leading, .leadingVowel | .leading, .leadingVowelTrailing => true
  | .leadingVowel, .vowel | .leadingVowel, .trailing => true
  | .vowel, .vowel | .vowel, .trailing => true
  | .leadingVowelTrailing, .trailing | .trailing, .trailing => true
  | _, .pictograph => edge.pictograph = .ready
  | _, .regional => edge.unpairedRegional
  | _, _ => edge.conjunct = .ready && isConjunctConsonant c

/-- The clusters of the rest of a text, where `cluster` (nearest character first) is still open. -/
def clustersFrom (edge : Edge) (cluster : List Char) : List Char → List (List Char)
  | [] => [cluster.reverse]
  | c :: rest =>
      if edge.joins c then clustersFrom (edge.push c) (c :: cluster) rest
      else cluster.reverse :: clustersFrom (edge.push c) [c] rest

def clusters : List Char → List (List Char)
  | [] => []
  | c :: rest => clustersFrom (Edge.start c) [c] rest

theorem flatten_clustersFrom (edge : Edge) (cluster rest : List Char) :
    (clustersFrom edge cluster rest).flatten = cluster.reverse ++ rest := by
  induction rest generalizing edge cluster with
  | nil => simp [clustersFrom]
  | cons c rest ih =>
      by_cases h : edge.joins c = true <;> simp [clustersFrom, h, ih]

/-- Cutting a text loses nothing. -/
theorem flatten_clusters (cs : List Char) : (clusters cs).flatten = cs := by
  cases cs with
  | nil => rfl
  | cons c rest => simp [clusters, flatten_clustersFrom]

end Exemplar.Text
