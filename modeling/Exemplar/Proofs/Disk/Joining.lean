import Exemplar.Proofs.Disk.Descents

/-!
# Paths taken from others

A relative path that is taken from another has its segments behind those of the other.  So a path
stays below whatever it is taken from if it consists of names only.  A path of several parts does so
exactly if no part is absolute or goes up, and the first does not start with a dot of its own.
-/

namespace Exemplar

namespace Path

variable {path other : Path}

/-! ## Segments -/

theorem empty_join (path : Path) : (Path.mk "").join path = path := by
  unfold join
  split
  · rfl
  · exact congrArg Path.mk String.empty_append

theorem isAbsolute_of_notMem {text : String} (h : '/' ∉ text.toList) :
    (Path.mk text).isAbsolute = false := by
  rw [← Bool.not_eq_true]
  exact fun habsolute => h (List.mem_of_head? (of_decide_eq_true habsolute))

theorem isAbsolute_join (path other : Path) :
    (path.join other).isAbsolute = (path.isAbsolute || other.isAbsolute) := by
  by_cases hempty : path.text = ""
  · have hpath : path = ⟨""⟩ := congrArg Path.mk hempty
    rw [hpath, empty_join]
    rfl
  · have hne := mt String.toList_eq_nil_iff.1 hempty
    obtain ⟨first, rest, hchars⟩ := List.exists_cons_of_ne_nil hne
    -- Whatever is put behind it, the text starts as it did.
    have hfirst : ∀ text : String, (Path.mk (path.text ++ text)).isAbsolute = path.isAbsolute := by
      intro text
      rw [isAbsolute, isAbsolute, String.toList_append, hchars]
      rfl
    unfold join
    cases hother : other.isAbsolute with
    | true => rw [if_pos rfl, hother, Bool.or_true]
    | false =>
        rw [if_neg Bool.false_ne_true, Bool.or_false]
        split
        · exact hfirst _
        · rw [String.append_assoc]
          exact hfirst _

/-- What a path puts in front of the relative paths that are taken from it: its segments without the
empty one that a slash at the end leaves. -/
structure PutsInFront (path : Path) (before : List (List Char)) : Prop where
  segments_eq : ∃ slashes, path.segments = before ++ slashes ∧ ∀ segment ∈ slashes, segment = []
  ne_nil : path.text ≠ "" → before ≠ []
  segments_join : ∀ other : Path, other.isAbsolute = false →
    (path.join other).segments = before ++ other.segments

theorem exists_putsInFront (path : Path) : ∃ before, PutsInFront path before := by
  by_cases hempty : path.text = ""
  · have hpath : path = ⟨""⟩ := congrArg Path.mk hempty
    rw [hpath]
    refine ⟨[], ⟨[[]], rfl, by simp⟩, fun hne => absurd rfl hne, fun other _ => ?_⟩
    rw [empty_join, List.nil_append]
  · have hnonempty : path.text.isEmpty = false := by simpa using hempty
    by_cases hlast : path.text.toList.getLast? = some '/'
    · obtain ⟨before, hbefore⟩ := List.getLast?_eq_some_iff.1 hlast
      refine ⟨Text.pieces '/' before, ⟨[[]], ?_, by simp⟩, fun _ => Text.pieces_ne_nil _ _,
        fun other hother => ?_⟩
      · rw [segments, hbefore, Text.pieces_append]
        rfl
      · have htext : (path.text ++ other.text).toList = before ++ '/' :: other.text.toList := by
          simp [hbefore]
        rw [join, hother, if_neg Bool.false_ne_true, hnonempty, if_pos (by simp [hlast]), segments,
          htext, Text.pieces_append]
        rfl
    · refine ⟨path.segments, ⟨[], (List.append_nil _).symm, by simp⟩, fun _ => segments_ne_nil path,
        fun other hother => ?_⟩
      have htext : (path.text ++ "/" ++ other.text).toList =
          path.text.toList ++ '/' :: other.text.toList := by
        simp
      rw [join, hother, if_neg Bool.false_ne_true, hnonempty, if_neg (by simp [hlast]), segments,
        htext, Text.pieces_append]
      rfl

/-! ## Components -/

def Component.isName : Component → Bool
  | .name _ => true
  | _ => false

/-- Whether the path is relative and has neither `..` nor a `.` in front. -/
def OnlyNames (path : Path) : Prop :=
  ∀ component ∈ path.components, component.isName = true

instance (path : Path) : Decidable path.OnlyNames :=
  inferInstanceAs (Decidable (∀ component ∈ path.components, component.isName = true))

/-- What the first segment of a path gives. -/
def leading (absolute : Bool) (first : List Char) : List Component :=
  if absolute then [.root] else if first = ['.'] then [.here] else (component? first).toList

theorem components_of_segments {first : List Char} {rest : List (List Char)}
    (h : path.segments = first :: rest) :
    path.components = leading path.isAbsolute first ++ rest.filterMap component? := by
  rw [components, h]
  rfl

theorem isName_of_component? {segment : List Char} {component : Component}
    (h : component? segment = some component) :
    component.isName = true ↔ segment ≠ ['.', '.'] := by
  unfold component? at h
  split at h
  · cases h
  · split at h
    · rename_i hup
      cases h
      simp [Component.isName, hup]
    · rename_i hname
      cases h
      simp [Component.isName, hname]

theorem forall_isName_iff (segments : List (List Char)) :
    (∀ component ∈ segments.filterMap component?, component.isName = true) ↔
      ['.', '.'] ∉ segments := by
  constructor
  · intro hnames hmem
    have hup : component? ['.', '.'] = some .up := by decide
    cases hnames .up (List.mem_filterMap.2 ⟨_, hmem, hup⟩)
  · intro hnotMem component hcomponent
    obtain ⟨segment, hsegment, heq⟩ := List.mem_filterMap.1 hcomponent
    exact (isName_of_component? heq).2 fun hup => hnotMem (hup ▸ hsegment)

theorem filterMap_cons_component? (first : List Char) (rest : List (List Char)) :
    (first :: rest).filterMap component? =
      (component? first).toList ++ rest.filterMap component? := by
  cases hfirst : component? first <;> simp [hfirst]

theorem components_eq (hrelative : path.isAbsolute = false)
    (hhead : path.segments.head? ≠ some ['.']) :
    path.components = path.segments.filterMap component? := by
  obtain ⟨first, rest, hsegments⟩ := List.exists_cons_of_ne_nil (segments_ne_nil path)
  have hfirst : first ≠ ['.'] := by
    rintro rfl
    exact hhead (by rw [hsegments]; rfl)
  rw [components_of_segments hsegments, hsegments, filterMap_cons_component?, leading, hrelative,
    if_neg Bool.false_ne_true, if_neg hfirst]

theorem onlyNames_iff : path.OnlyNames ↔
    path.isAbsolute = false ∧ path.segments.head? ≠ some ['.'] ∧ path.Descends := by
  constructor
  · intro hnames
    obtain ⟨first, rest, hsegments⟩ := List.exists_cons_of_ne_nil (segments_ne_nil path)
    have hleading : ∀ component ∈ leading path.isAbsolute first, component.isName = true := by
      intro component hcomponent
      apply hnames
      rw [components_of_segments hsegments]
      exact List.mem_append_left _ hcomponent
    have hrelative : path.isAbsolute = false := by
      rw [← Bool.not_eq_true]
      intro habsolute
      rw [habsolute] at hleading
      cases hleading .root List.mem_cons_self
    have hhead : path.segments.head? ≠ some ['.'] := by
      intro hdot
      rw [hsegments] at hdot
      rw [hrelative, Option.some.inj hdot] at hleading
      cases hleading .here List.mem_cons_self
    refine ⟨hrelative, hhead, ?_⟩
    rw [OnlyNames, components_eq hrelative hhead, forall_isName_iff] at hnames
    exact hnames
  · rintro ⟨hrelative, hhead, hdescends⟩
    rw [OnlyNames, components_eq hrelative hhead, forall_isName_iff]
    exact hdescends

/-- Behind a path that is not empty a relative path gives the components of its segments. -/
theorem components_join_of_ne (hne : path.text ≠ "") (hother : other.isAbsolute = false) :
    (path.join other).components = path.components ++ other.segments.filterMap component? := by
  obtain ⟨before, hbefore⟩ := exists_putsInFront path
  obtain ⟨slashes, hsegments, hslashes⟩ := hbefore.segments_eq
  have hjoin := hbefore.segments_join other hother
  obtain ⟨first, rest, rfl⟩ := List.exists_cons_of_ne_nil (hbefore.ne_nil hne)
  rw [List.cons_append] at hsegments hjoin
  have hnothing : slashes.filterMap component? = [] := by
    rw [List.filterMap_eq_nil_iff]
    intro segment hmem
    rw [hslashes segment hmem]
    rfl
  rw [components_of_segments hsegments, components_of_segments hjoin, isAbsolute_join, hother,
    Bool.or_false, List.filterMap_append, List.filterMap_append, hnothing, List.append_nil,
    List.append_assoc]

/-- A path that consists of names comes behind the components of the path that it is taken from. -/
theorem components_join (h : other.OnlyNames) (path : Path) :
    (path.join other).components = path.components ++ other.components := by
  obtain ⟨hrelative, hhead, -⟩ := onlyNames_iff.1 h
  by_cases hempty : path.text = ""
  · have hpath : path = ⟨""⟩ := congrArg Path.mk hempty
    rw [hpath, empty_join]
    rfl
  · rw [components_join_of_ne hempty hrelative, components_eq hrelative hhead]

/-! ## File names -/

/-- A text that a directory can have as the name of a file. -/
structure IsFileName (text : String) : Prop where
  noSlash : '/' ∉ text.toList
  noFiller : isFiller text.toList = false
  notUp : text.toList ≠ ['.', '.']

/-- A text with an ending behind it is a file name, unless there is a slash in one of them or a dot
at the end. -/
theorem isFileName_append {stem ending : String} {last : Char} (hstem : '/' ∉ stem.toList)
    (hending : '/' ∉ ending.toList) (hlast : ending.toList.getLast? = some last)
    (hdot : last ≠ '.') : IsFileName (stem ++ ending) := by
  have hwhole : (stem ++ ending).toList.getLast? = some last := by
    rw [String.toList_append, List.getLast?_append, hlast]
    rfl
  have hne : ∀ {text : List Char}, text.getLast? ≠ some last → (stem ++ ending).toList ≠ text :=
    fun hother heq => hother (heq ▸ hwhole)
  constructor
  · rw [String.toList_append, List.mem_append]
    exact fun hmem => hmem.elim hstem hending
  · rw [isFiller, Bool.or_eq_false_iff, beq_eq_false_iff_ne, beq_eq_false_iff_ne]
    exact ⟨hne (by simp), hne (by simpa using hdot.symm)⟩
  · exact hne (by simpa using hdot.symm)

theorem component?_of_isFileName {text : String} (h : IsFileName text) :
    component? text.toList = some (.name text.toList) := by
  rw [component?, h.noFiller, if_neg Bool.false_ne_true, if_neg h.notUp]

theorem segments_of_isFileName {text : String} (h : IsFileName text) :
    (Path.mk text).segments = [text.toList] :=
  Text.pieces_of_notMem h.noSlash

theorem onlyNames_of_isFileName {text : String} (h : IsFileName text) :
    (Path.mk text).OnlyNames := by
  rw [onlyNames_iff, Descends, segments_of_isFileName h]
  refine ⟨isAbsolute_of_notMem h.noSlash, fun hdot => ?_, fun hup => ?_⟩
  · have hfiller := h.noFiller
    rw [Option.some.inj hdot] at hfiller
    cases hfiller
  · exact h.notUp (List.mem_singleton.1 hup).symm

theorem components_of_isFileName {text : String} (h : IsFileName text) :
    (Path.mk text).components = [.name text.toList] := by
  obtain ⟨hrelative, hhead, -⟩ := onlyNames_iff.1 (onlyNames_of_isFileName h)
  rw [components_eq hrelative hhead, segments_of_isFileName h, filterMap_cons_component?,
    component?_of_isFileName h]
  rfl

/-- Behind the same directory file names are what differs between paths. -/
theorem same_join_iff {directory : Path} {text other : String} (htext : IsFileName text)
    (hother : IsFileName other) :
    (directory.join ⟨text⟩).same (directory.join ⟨other⟩) = true ↔ text = other := by
  rw [same, beq_iff_eq, components_join (onlyNames_of_isFileName htext),
    components_join (onlyNames_of_isFileName hother), List.append_right_inj,
    components_of_isFileName htext, components_of_isFileName hother, List.singleton_inj,
    Component.name.injEq, String.toList_inj]

/-! ## Parts -/

/-- Whether a part is relative and has no `..`. -/
def GoesDown (part : String) : Prop :=
  (Path.mk part).isAbsolute = false ∧ (Path.mk part).Descends

instance (part : String) : Decidable (GoesDown part) :=
  inferInstanceAs (Decidable (_ ∧ _))

/-- Whether all parts go down, and the first does not start with a dot of its own. -/
def StaysBelow : List String → Prop
  | [] => True
  | first :: rest => (Path.mk first).OnlyNames ∧ ∀ part ∈ rest, GoesDown part

instance : DecidablePred StaysBelow
  | [] => inferInstanceAs (Decidable True)
  | first :: rest =>
      inferInstanceAs (Decidable ((Path.mk first).OnlyNames ∧ ∀ part ∈ rest, GoesDown part))

theorem onlyNames_join_iff (hne : path.text ≠ "") (part : String) :
    (path.join ⟨part⟩).OnlyNames ↔ path.OnlyNames ∧ GoesDown part := by
  cases hpart : (Path.mk part).isAbsolute with
  | true => simp [onlyNames_iff, isAbsolute_join, GoesDown, hpart]
  | false =>
      rw [OnlyNames, components_join_of_ne hne hpart, List.forall_mem_append, forall_isName_iff,
        GoesDown]
      simp only [hpart, true_and]
      rfl

theorem text_join_ne (hne : other.text ≠ "") (path : Path) : (path.join other).text ≠ "" := by
  unfold join
  split
  · exact hne
  · split <;> simp [hne]

theorem onlyNames_foldl {parts : List String} (hne : path.text ≠ "")
    (hparts : ∀ part ∈ parts, part ≠ "") :
    (parts.foldl (fun path part => path.join ⟨part⟩) path).OnlyNames ↔
      path.OnlyNames ∧ ∀ part ∈ parts, GoesDown part := by
  induction parts generalizing path with
  | nil => simp
  | cons part rest ih =>
      obtain ⟨hpart, hrest⟩ := List.forall_mem_cons.1 hparts
      rw [List.foldl_cons, ih (text_join_ne hpart path) hrest, onlyNames_join_iff hne,
        List.forall_mem_cons, and_assoc]

/-- A path of parts that are not empty consists of names exactly if the parts stay below. -/
theorem onlyNames_ofParts {parts : List String} (hparts : ∀ part ∈ parts, part ≠ "") :
    (ofParts parts).OnlyNames ↔ StaysBelow parts := by
  cases parts with
  | nil => exact iff_of_true (by decide) trivial
  | cons first rest =>
      obtain ⟨hfirst, hrest⟩ := List.forall_mem_cons.1 hparts
      rw [ofParts, List.foldl_cons, empty_join, onlyNames_foldl hfirst hrest, StaysBelow]

/-! ## Places -/

/-- A relative path adds its segments to the steps of the path that it is taken from, whose slashes
at the end lead nowhere. -/
theorem exists_steps_join (hother : other.isAbsolute = false) (path : Path) :
    ∃ start slashes, path.steps = start ++ slashes ∧ (∀ segment ∈ slashes, segment = []) ∧
      (path.join other).steps = start ++ other.segments := by
  obtain ⟨before, hbefore⟩ := exists_putsInFront path
  obtain ⟨slashes, hsegments, hslashes⟩ := hbefore.segments_eq
  have hjoin := hbefore.segments_join other hother
  rw [steps, steps, isAbsolute_join, hother, Bool.or_false, hsegments, hjoin]
  cases habsolute : path.isAbsolute with
  | false => exact ⟨before, slashes, rfl, hslashes, rfl⟩
  | true =>
      have hne : path.text ≠ "" := by
        intro hempty
        rw [isAbsolute, hempty] at habsolute
        cases habsolute
      obtain ⟨first, rest, rfl⟩ := List.exists_cons_of_ne_nil (hbefore.ne_nil hne)
      exact ⟨rest, slashes, rfl, hslashes, rfl⟩

/-- A relative path is followed from where the path leads that it is taken from. -/
theorem place_join (hother : other.isAbsolute = false) (path : Path) (home : Position) :
    (path.join other).place home = walk (path.place home) other.segments := by
  obtain ⟨start, slashes, hsteps, hslashes, hjoin⟩ := exists_steps_join hother path
  have hfillers : ∀ segment ∈ slashes, isFiller segment = true := by
    intro segment hmem
    rw [hslashes segment hmem]
    rfl
  rw [Path.place, Path.place, hjoin, hsteps, walk_append, walk_append, walk_fillers hfillers,
    origin, origin, isAbsolute_join, hother, Bool.or_false]

/-- A path that consists of names leads below the place of the path that it is taken from. -/
theorem place_join_of_onlyNames (h : other.OnlyNames) (path : Path) (home : Position) :
    (path.join other).place home = path.place home ++ names other.segments := by
  obtain ⟨hrelative, -, hdescends⟩ := onlyNames_iff.1 h
  rw [place_join hrelative, walk_eq_append hdescends]

end Path

end Exemplar
