import Exemplar.Proofs.Disk.Places

/-!
# Paths that only go down

A path without `..` leads through the positions above its place, one after the other, and so do the
paths of its ancestors.  In a tree where everything stands in a directory, whether such a path leads
to something is therefore only a matter of what is at its place.
-/

namespace Exemplar

open FileTree

namespace Path

variable {path other parent : Path} {home : Position}

/-- No component of the path is `..`. -/
def NeverUp (path : Path) : Prop :=
  Component.up ∉ path.components

instance (path : Path) : Decidable path.NeverUp :=
  inferInstanceAs (Decidable (Component.up ∉ path.components))

/-! ## Segments -/

theorem segments_ne_nil (path : Path) : path.segments ≠ [] :=
  Text.pieces_ne_nil _ _

/-- A path is absolute if a slash stands in front of its second segment. -/
theorem isAbsolute_iff :
    path.isAbsolute = true ↔ ∃ segment rest, path.segments = [] :: segment :: rest := by
  unfold isAbsolute segments
  cases path.text.toList with
  | nil => simp [Text.pieces]
  | cons c rest =>
      obtain ⟨first, others, hpieces⟩ := List.exists_cons_of_ne_nil (Text.pieces_ne_nil '/' rest)
      by_cases hc : c = '/'
      · simp [Text.pieces, hc, hpieces]
      · simp [Text.pieces, hc, hpieces, Text.consFirst]

theorem segments_ofSegments {segments : List (List Char)} (hne : segments ≠ [])
    (h : ∀ segment ∈ segments, '/' ∉ segment) : (ofSegments segments).segments = segments := by
  rw [Path.segments, ofSegments, String.toList_ofList]
  exact Text.pieces_intercalate hne h

theorem slash_notMem_of_mem_segments {segment : List Char} (h : segment ∈ path.segments) :
    '/' ∉ segment :=
  Text.notMem_of_mem_pieces h

/-- What is behind the slash in front of an absolute path, or the whole of another path. -/
theorem steps_eq (path : Path) : path.steps = path.segments ∧ path.isAbsolute = false ∨
    path.segments = [] :: path.steps ∧ path.isAbsolute = true := by
  cases habsolute : path.isAbsolute with
  | false => exact .inl ⟨by rw [steps, habsolute]; rfl, rfl⟩
  | true =>
      obtain ⟨segment, rest, hsegments⟩ := isAbsolute_iff.1 habsolute
      right
      rw [steps, habsolute, hsegments]
      exact ⟨rfl, rfl⟩

theorem mem_segments_of_mem_steps {segment : List Char} (h : segment ∈ path.steps) :
    segment ∈ path.segments := by
  rcases steps_eq path with ⟨hsteps, -⟩ | ⟨hsegments, -⟩
  · rwa [hsteps] at h
  · rw [hsegments]
    exact List.mem_cons_of_mem _ h

/-- Whether no segment is `..`. -/
def Descends (path : Path) : Prop :=
  ['.', '.'] ∉ path.segments

instance (path : Path) : Decidable path.Descends :=
  inferInstanceAs (Decidable (['.', '.'] ∉ path.segments))

theorem NeverUp.descends (h : path.NeverUp) : path.Descends := by
  intro hup
  apply h
  unfold components
  have hcomponent : component? ['.', '.'] = some .up := by decide
  cases hsegments : path.segments with
  | nil => exact absurd hsegments (segments_ne_nil path)
  | cons first rest =>
      rw [hsegments] at hup
      rcases List.mem_cons.1 hup with rfl | hup
      · have habsolute : path.isAbsolute = false := by
          rw [← Bool.not_eq_true]
          intro habsolute
          obtain ⟨_, _, heq⟩ := isAbsolute_iff.1 habsolute
          rw [hsegments] at heq
          cases heq
        rw [habsolute]
        exact List.mem_append_left _ (by decide)
      · exact List.mem_append_right _ (List.mem_filterMap.2 ⟨_, hup, hcomponent⟩)

/-- A path taken from another has the segments of the two, or of itself alone. -/
theorem descends_join (h : path.Descends) (hother : other.Descends) :
    (path.join other).Descends := by
  have hcut : ∀ (text : String) (before : List Char),
      text.toList = before ++ '/' :: other.text.toList →
      ['.', '.'] ∉ Text.pieces '/' before → (Path.mk text).Descends := by
    intro text before htext hbefore
    rw [Descends, segments, htext, Text.pieces_append]
    intro hup
    rcases List.mem_append.1 hup with hup | hup
    · exact hbefore hup
    · exact hother hup
  unfold join
  split
  · exact hother
  · split
    · rename_i hslash
      rw [Bool.or_eq_true] at hslash
      rcases hslash with hempty | hlast
      · have htext : path.text = "" := String.isEmpty_iff.1 hempty
        rw [htext, String.empty_append]
        exact hother
      · obtain ⟨before, hbefore⟩ := List.getLast?_eq_some_iff.1 (of_decide_eq_true hlast)
        apply hcut _ before
        · simp [hbefore]
        · rw [Descends, segments, hbefore, Text.pieces_append] at h
          exact fun hup => h (List.mem_append_left _ hup)
    · exact hcut _ path.text.toList (by simp) h

/-! ## Places -/

/-- The names among segments. -/
def names (segments : List (List Char)) : Position :=
  (segments.filter (!isFiller ·)).map String.ofList

theorem walk_eq_append {segments : List (List Char)} (h : ['.', '.'] ∉ segments)
    (position : Position) : walk position segments = position ++ names segments := by
  induction segments generalizing position with
  | nil => exact (List.append_nil _).symm
  | cons segment rest ih =>
      have hsegment : segment ≠ ['.', '.'] := fun heq => h (heq ▸ List.mem_cons_self)
      rw [walk_cons, ih fun hup => h (List.mem_cons_of_mem _ hup), stepFrom, names, names]
      cases hfiller : isFiller segment with
      | true => simp [hfiller]
      | false => simp [hfiller, hsegment]

theorem prefix_walk {segments : List (List Char)} (h : ['.', '.'] ∉ segments)
    (position : Position) : position <+: walk position segments := by
  rw [walk_eq_append h]
  exact List.prefix_append _ _

theorem dropFillers_append (segments : List (List Char)) :
    ∃ fillers, segments = dropFillers segments ++ fillers := by
  obtain ⟨fillers, hsegments, -⟩ := exists_append_cut isFiller segments
  exact ⟨fillers, hsegments⟩

theorem isName_of_not_filler {segment : List Char} (h : isFiller segment = false)
    (hup : segment ≠ ['.', '.']) : IsName segment := by
  rw [isFiller, Bool.or_eq_false_iff] at h
  exact ⟨by simpa using h.1, by simpa using h.2, hup⟩

/-- Whether the last segment of the path is a name. -/
def EndsWithName (path : Path) : Prop :=
  ∃ before last, path.steps = before ++ [last] ∧ IsName last

/-- Whether the path ends with a name, unless it leads nowhere but to where it starts. -/
def IsTrim (path : Path) : Prop :=
  path.EndsWithName ∨ ∀ segment ∈ path.steps, isFiller segment = true

theorem endsWithName_of_getLast? {last : List Char} (h : path.Descends)
    (hlast : path.steps.getLast? = some last) (hfiller : isFiller last = false) :
    path.EndsWithName := by
  obtain ⟨before, hsteps⟩ := List.getLast?_eq_some_iff.1 hlast
  refine ⟨before, last, hsteps, isName_of_not_filler hfiller ?_⟩
  rintro rfl
  apply h
  apply mem_segments_of_mem_steps
  rw [hsteps]
  exact List.mem_concat_self

/-! ## Ancestors -/

/-- How a path relates to one of those above it. -/
structure LiesBelow (home : Position) (path above : Path) : Prop where
  descends : above.Descends
  trim : above.IsTrim
  place : above.place home <+: path.place home

theorem isAbsolute_of_segments {first : List Char} {rest : List (List Char)}
    (h : path.segments = first :: rest) : path.isAbsolute = true ↔ first = [] ∧ rest ≠ [] := by
  rw [isAbsolute_iff, h]
  constructor
  · rintro ⟨segment, others, heq⟩
    cases heq
    exact ⟨rfl, List.cons_ne_nil _ _⟩
  · rintro ⟨rfl, hrest⟩
    obtain ⟨segment, others, rfl⟩ := List.exists_cons_of_ne_nil hrest
    exact ⟨segment, others, rfl⟩

/-- A path that has some of the segments of another, from the first on, lies above it. -/
theorem place_prefix_of_segments {first : List Char} {rest more : List (List Char)}
    (h : path.Descends) (hpath : path.segments = first :: (rest ++ more))
    (hother : other.segments = first :: rest) (hroot : first = [] → rest ≠ []) (home : Position) :
    other.place home <+: path.place home := by
  have hup : ['.', '.'] ∉ more := by
    intro hmem
    apply h
    rw [hpath]
    exact List.mem_cons_of_mem _ (List.mem_append_right _ hmem)
  have habsolute : path.isAbsolute = other.isAbsolute := by
    rw [Bool.eq_iff_iff, isAbsolute_of_segments hpath, isAbsolute_of_segments hother]
    constructor
    · exact fun ⟨hfirst, _⟩ => ⟨hfirst, hroot hfirst⟩
    · exact fun ⟨hfirst, hrest⟩ => ⟨hfirst, List.append_ne_nil_of_left_ne_nil hrest _⟩
  have hsteps : path.steps = other.steps ++ more := by
    rw [steps, steps, habsolute, hpath, hother]
    cases other.isAbsolute <;> rfl
  rw [Path.place, Path.place, hsteps, walk_append, origin, origin, habsolute]
  exact prefix_walk hup _

theorem isTrim_of_segments {first : List Char} {rest : List (List Char)} (h : path.Descends)
    (hpath : path.segments = first :: rest)
    (hrest : ∀ last, rest.getLast? = some last → isFiller last = false) : path.IsTrim := by
  rcases List.eq_nil_or_concat rest with rfl | ⟨before, last, rfl⟩
  · have habsolute : path.isAbsolute = false := by
      rw [← Bool.not_eq_true, isAbsolute_of_segments hpath]
      exact fun hroot => hroot.2 rfl
    have hsteps : path.steps = [first] := by rw [steps, habsolute, hpath]; rfl
    cases hfiller : isFiller first with
    | true => exact .inr (by simpa [hsteps] using hfiller)
    | false => exact .inl (endsWithName_of_getLast? h (by rw [hsteps]; rfl) hfiller)
  · rw [List.concat_eq_append] at hpath hrest
    left
    apply endsWithName_of_getLast? h _ (hrest last List.getLast?_concat)
    rcases steps_eq path with ⟨hsteps, -⟩ | ⟨hsegments, -⟩
    · rw [hsteps, hpath, ← List.cons_append, List.getLast?_concat]
    · rw [hpath] at hsegments
      rw [← List.tail_eq_of_cons_eq hsegments]
      exact List.getLast?_concat

theorem liesBelow_ofRooted {first : List Char} {rest kept more : List (List Char)}
    (h : path.Descends) (hpath : path.segments = first :: rest)
    (hkept : rest = dropFillers kept ++ more) (home : Position) :
    LiesBelow home path (ofRooted first (dropFillers kept)) := by
  have hmem : ∀ segment ∈ first :: dropFillers kept, segment ∈ path.segments := by
    rw [hpath, hkept]
    intro segment hsegment
    rcases List.mem_cons.1 hsegment with rfl | hsegment
    · exact List.mem_cons_self
    · exact List.mem_cons_of_mem _ (List.mem_append_left _ hsegment)
  unfold ofRooted
  split
  · exact ⟨by decide, .inr (by decide), List.nil_prefix⟩
  · rename_i hroot
    have hsegments := segments_ofSegments (List.cons_ne_nil first (dropFillers kept))
      fun segment hsegment => slash_notMem_of_mem_segments (hmem segment hsegment)
    have hdescends : (ofSegments (first :: dropFillers kept)).Descends := by
      intro hup
      rw [hsegments] at hup
      exact h (hmem _ hup)
    refine ⟨hdescends, isTrim_of_segments hdescends hsegments fun last => ?_, ?_⟩
    · exact not_cut_of_getLast?
    · rw [hkept] at hpath
      exact place_prefix_of_segments h hpath hsegments
        (fun hfirst hnil => hroot ⟨hfirst, hnil⟩) home

theorem liesBelow_parent (h : path.Descends) (hparent : path.parent? = some parent)
    (home : Position) : LiesBelow home path parent := by
  unfold parent? at hparent
  cases hsegments : path.segments with
  | nil => exact absurd hsegments (segments_ne_nil path)
  | cons first rest =>
      simp only [hsegments] at hparent
      obtain ⟨fillers, hrest⟩ := dropFillers_append rest
      cases hnames : dropFillers rest with
      | nil =>
          rw [hnames] at hparent
          by_cases hfirst : first = []
          · simp [hfirst] at hparent
          · simp only [hfirst, if_false, Option.some.injEq] at hparent
            subst hparent
            have habsolute : path.isAbsolute = false := by
              rw [← Bool.not_eq_true, isAbsolute_of_segments hsegments]
              exact fun hroot => hfirst hroot.1
            refine ⟨by decide, .inr (by decide), ?_⟩
            have hplace : place home ⟨""⟩ = home := rfl
            rw [hplace, Path.place, origin, habsolute]
            exact prefix_walk (fun hup => h (mem_segments_of_mem_steps hup)) home
      | cons segment others =>
          rw [hnames] at hparent hrest
          simp only [Option.some.injEq] at hparent
          subst hparent
          obtain ⟨more, hcut⟩ := dropFillers_append (segment :: others).dropLast
          have hinit := List.dropLast_concat_getLast (List.cons_ne_nil segment others)
          have hkept : rest = dropFillers (segment :: others).dropLast ++
              (more ++ [(segment :: others).getLast (List.cons_ne_nil _ _)] ++ fillers) := by
            rw [← List.append_assoc, ← List.append_assoc, ← hcut, hinit, hrest]
          exact liesBelow_ofRooted h hsegments hkept home

theorem LiesBelow.trans {above : Path} (h : LiesBelow home path parent)
    (habove : LiesBelow home parent above) : LiesBelow home path above :=
  ⟨habove.descends, habove.trim, habove.place.trans h.place⟩

theorem liesBelow_ancestorsFrom (home : Position) (fuel : Nat) (h : path.Descends)
    (htrim : path.IsTrim) :
    ∀ above ∈ ancestorsFrom fuel path, LiesBelow home path above := by
  induction fuel generalizing path with
  | zero =>
      intro above hmem
      rw [List.mem_singleton.1 hmem]
      exact ⟨h, htrim, List.prefix_refl _⟩
  | succ fuel ih =>
      intro above hmem
      unfold ancestorsFrom at hmem
      cases hparent : path.parent? with
      | none =>
          rw [hparent] at hmem
          rw [List.mem_singleton.1 hmem]
          exact ⟨h, htrim, List.prefix_refl _⟩
      | some parent =>
          rw [hparent] at hmem
          have hbelow := liesBelow_parent h hparent home
          rcases List.mem_cons.1 hmem with rfl | hmem
          · exact ⟨h, htrim, List.prefix_refl _⟩
          · exact hbelow.trans (ih hbelow.descends hbelow.trim above hmem)

/-- The ancestors of a path stand above it, each above those before it. -/
theorem ancestorsFrom_pairwise (home : Position) (fuel : Nat) (h : path.Descends)
    (htrim : path.IsTrim) :
    (ancestorsFrom fuel path).Pairwise fun lower upper =>
      upper.place home <+: lower.place home := by
  induction fuel generalizing path with
  | zero => exact List.pairwise_singleton _ _
  | succ fuel ih =>
      unfold ancestorsFrom
      cases hparent : path.parent? with
      | none => exact List.pairwise_singleton _ _
      | some parent =>
          have hbelow := liesBelow_parent h hparent home
          refine List.Pairwise.cons ?_ (ih hbelow.descends hbelow.trim)
          intro above hmem
          exact (hbelow.trans
            (liesBelow_ancestorsFrom home fuel hbelow.descends hbelow.trim above hmem)).place

end Path

end Exemplar
