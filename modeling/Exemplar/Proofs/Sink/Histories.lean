import Exemplar.Proofs.Collection
import Exemplar.Proofs.Disk.Joining
import Mathlib.Logic.Relation

/-!
# What the memory keeps of a history

The sink in memory is a map from paths to files in the order of the first writes, where paths count
as equal if they have the same components.  The place of a file, its path and its content may come
from different writes: a later write to an equal path leaves the file at its place, but replaces it
as a whole, with its class and its spelling of the path.
-/

namespace Exemplar

namespace Path

variable {path other third : Path}

/-! ## Equal paths -/

theorem same_iff : path.same other = true ↔ path.components = other.components :=
  beq_iff_eq

theorem same_refl (path : Path) : path.same path = true :=
  same_iff.2 rfl

theorem same_symm (h : path.same other = true) : other.same path = true :=
  same_iff.2 (same_iff.1 h).symm

/-- Nothing tells two equal paths apart. -/
theorem same_congr (h : path.same other = true) (third : Path) :
    third.same path = third.same other := by
  rw [same, same, same_iff.1 h]

theorem same_comm (path other : Path) : path.same other = other.same path :=
  Bool.eq_iff_iff.2 ⟨same_symm, same_symm⟩

/-! ## Spellings -/

/-- One way to spell a path shorter. -/
inductive Shortens : Path → Path → Prop
  | slashes (before after : String) :
      Shortens ⟨before ++ "//" ++ after⟩ ⟨before ++ "/" ++ after⟩
  | innerDot (before after : String) :
      Shortens ⟨before ++ "/./" ++ after⟩ ⟨before ++ "/" ++ after⟩
  | lastDot (before : String) : Shortens ⟨before ++ "/."⟩ ⟨before ++ "/"⟩
  | lastSlash (before : String) (hne : before ≠ "") : Shortens ⟨before ++ "/"⟩ ⟨before⟩

/-- Whether two paths are spellings of one, by any number of such steps in either direction. -/
def Respells : Path → Path → Prop :=
  Relation.EqvGen Shortens

/-- A text with a slash behind it gives its components first, whatever is behind the slash. -/
theorem exists_components_slash (before : String) : ∃ start,
    (before ≠ "" → (Path.mk before).components = start) ∧
      ∀ (path : Path) (after : List Char), path.text.toList = before.toList ++ '/' :: after →
        path.components = start ++ (Text.pieces '/' after).filterMap component? := by
  obtain ⟨first, rest, hpieces⟩ :=
    List.exists_cons_of_ne_nil (Text.pieces_ne_nil '/' before.toList)
  refine ⟨leading (Path.mk (before ++ "/")).isAbsolute first ++ rest.filterMap component?, ?_, ?_⟩
  · intro hne
    obtain ⟨c, chars, hchars⟩ := List.exists_cons_of_ne_nil (mt String.toList_eq_nil_iff.1 hne)
    have habsolute : (Path.mk (before ++ "/")).isAbsolute = (Path.mk before).isAbsolute := by
      simp [isAbsolute, hchars]
    rw [components_of_segments hpieces, habsolute]
  · intro path after htext
    have hsegments : path.segments = first :: (rest ++ Text.pieces '/' after) := by
      rw [segments, htext, Text.pieces_append, hpieces]
      rfl
    have habsolute : path.isAbsolute = (Path.mk (before ++ "/")).isAbsolute := by
      rw [isAbsolute, htext]
      cases hchars : before.toList <;> simp [isAbsolute, hchars]
    rw [components_of_segments hsegments, habsolute, List.filterMap_append, List.append_assoc]

theorem Shortens.same (h : Shortens path other) : path.same other = true := by
  apply same_iff.2
  cases h with
  | slashes before after =>
      obtain ⟨start, -, hslash⟩ := exists_components_slash before
      rw [hslash _ ('/' :: after.toList) (by simp), hslash _ after.toList (by simp)]
      rfl
  | innerDot before after =>
      obtain ⟨start, -, hslash⟩ := exists_components_slash before
      rw [hslash _ ('.' :: '/' :: after.toList) (by simp), hslash _ after.toList (by simp)]
      rfl
  | lastDot before =>
      obtain ⟨start, -, hslash⟩ := exists_components_slash before
      rw [hslash _ ['.'] (by simp), hslash _ [] (by simp)]
      rfl
  | lastSlash before hne =>
      obtain ⟨start, hstart, hslash⟩ := exists_components_slash before
      rw [hslash _ [] (by simp), hstart hne]
      exact List.append_nil start

/-- Spellings of one path are equal as paths. -/
theorem Respells.same (h : Respells path other) : path.same other = true := by
  induction h with
  | rel _ _ hshortens => exact hshortens.same
  | refl path => exact same_refl path
  | symm _ _ _ ih => exact same_symm ih
  | trans _ _ _ _ _ ihfirst ihsecond => exact (same_congr ihsecond _).symm.trans ihfirst

end Path

/-! ## Histories -/

/-- The number of writes before the first to a path. -/
def firstWrite (writes : List SourceFile) (path : Path) : Nat :=
  writes.findIdx (·.path.same path)

/-- The last write to a path. -/
def lastWrite? (writes : List SourceFile) (path : Path) : Option SourceFile :=
  writes.reverse.find? (·.path.same path)

section Writes

variable {writes : List SourceFile} {file : SourceFile} {path other : Path}

theorem firstWrite_congr (h : path.same other = true) (writes : List SourceFile) :
    firstWrite writes path = firstWrite writes other := by
  have hsame : (fun file : SourceFile => file.path.same path) = (·.path.same other) :=
    funext fun file => Path.same_congr h file.path
  rw [firstWrite, firstWrite, hsame]

theorem lastWrite?_concat (writes : List SourceFile) (file : SourceFile) (path : Path) :
    lastWrite? (writes ++ [file]) path =
      if file.path.same path then some file else lastWrite? writes path := by
  rw [lastWrite?, List.reverse_concat, List.find?_cons, lastWrite?]
  cases file.path.same path <;> rfl

/-- The last write is a write with no write to an equal path behind it. -/
theorem lastWrite?_eq_some_iff : lastWrite? writes path = some file ↔
    file.path.same path = true ∧ ∃ before after, writes = before ++ file :: after ∧
      ∀ later ∈ after, later.path.same path = false := by
  rw [lastWrite?, List.find?_eq_some_iff_append]
  refine and_congr_right fun _ => ?_
  constructor
  · rintro ⟨after, before, hwrites, hafter⟩
    refine ⟨before.reverse, after.reverse, ?_, fun later hlater => ?_⟩
    · simpa using congrArg List.reverse hwrites
    · simpa using hafter later (List.mem_reverse.1 hlater)
  · rintro ⟨before, after, rfl, hafter⟩
    refine ⟨after.reverse, before.reverse, by simp, fun later hlater => ?_⟩
    simpa using hafter later (List.mem_reverse.1 hlater)

theorem lastWrite?_eq_none_iff : lastWrite? writes path = none ↔
    ∀ file ∈ writes, file.path.same path = false := by
  simp [lastWrite?]

/-- Paths that were written keep the number of their first write. -/
theorem firstWrite_append (h : ∃ file ∈ writes, file.path.same path = true)
    (more : List SourceFile) : firstWrite (writes ++ more) path = firstWrite writes path := by
  rw [firstWrite, List.findIdx_append, if_pos (List.findIdx_lt_length.2 h)]
  rfl

theorem firstWrite_lt (h : ∃ file ∈ writes, file.path.same path = true) :
    firstWrite writes path < writes.length :=
  List.findIdx_lt_length.2 h

/-- A path that was not written before is first written now. -/
theorem firstWrite_concat_of_new (h : ∀ other ∈ writes, other.path.same file.path = false) :
    firstWrite (writes ++ [file]) file.path = writes.length := by
  have hnone : writes.findIdx (·.path.same file.path) = writes.length :=
    List.findIdx_eq_length.2 h
  have hfile : [file].findIdx (·.path.same file.path) = 0 := by
    rw [List.findIdx_cons, Path.same_refl]
    rfl
  rw [firstWrite, List.findIdx_append, hnone, if_neg (Nat.lt_irrefl _), hfile, Nat.zero_add]

end Writes

namespace Memory

variable {writes files : List SourceFile} {file : SourceFile} {path : Path}

/-! ## One write -/

/-- A file takes the place of the first one with an equal path, or it comes last. -/
theorem put_cases (file : SourceFile) (files : List SourceFile) :
    (∃ before other after, files = before ++ other :: after ∧
      other.path.same file.path = true ∧
      (∀ earlier ∈ before, earlier.path.same file.path = false) ∧
      put file files = before ++ file :: after) ∨
    (∀ other ∈ files, other.path.same file.path = false) ∧ put file files = files ++ [file] := by
  induction files with
  | nil => exact .inr ⟨fun other hother => absurd hother List.not_mem_nil, rfl⟩
  | cons first rest ih =>
      cases hfirst : first.path.same file.path with
      | true =>
          refine .inl ⟨[], first, rest, rfl, hfirst, fun other h => absurd h List.not_mem_nil, ?_⟩
          rw [put, if_pos hfirst]
          rfl
      | false =>
          have hput : put file (first :: rest) = first :: put file rest := by
            rw [put, hfirst, if_neg Bool.false_ne_true]
          rcases ih with ⟨before, other, after, rfl, hother, hbefore, hrest⟩ | ⟨hnew, hrest⟩
          · refine .inl ⟨first :: before, other, after, rfl, hother, ?_, by rw [hput, hrest]; rfl⟩
            exact List.forall_mem_cons.2 ⟨hfirst, hbefore⟩
          · refine .inr ⟨List.forall_mem_cons.2 ⟨hfirst, hnew⟩, by rw [hput, hrest]; rfl⟩

theorem find?_eq_none_of_new (h : ∀ other ∈ files, other.path.same file.path = false)
    (hfile : file.path.same path = true) : files.find? (·.path.same path) = none := by
  rw [List.find?_eq_none]
  intro other hother hsame
  rw [← Path.same_congr hfile, h other hother] at hsame
  cases hsame

/-- What is found under a path after a write. -/
theorem find?_put (file : SourceFile) (files : List SourceFile) (path : Path) :
    (put file files).find? (·.path.same path) =
      if file.path.same path then some file else files.find? (·.path.same path) := by
  rcases put_cases file files with
    ⟨before, other, after, rfl, hother, hbefore, hput⟩ | ⟨hnew, hput⟩
  · cases hfile : file.path.same path with
    | true => simp [hput, hfile, find?_eq_none_of_new hbefore hfile]
    | false =>
        have hsame : other.path.same path = false := by
          rw [Path.same_comm, Path.same_congr hother, Path.same_comm, hfile]
        simp [hput, hfile, hsame]
  · cases hfile : file.path.same path with
    | true => simp [hput, hfile, find?_eq_none_of_new hnew hfile]
    | false => simp [hput, hfile]

/-! ## A history of writes -/

/-- Whether files are those that a history of writes leaves: in the order of the first writes, and
with the last write to be found under each path. -/
structure Tracks (writes files : List SourceFile) : Prop where
  ordered : (files.map fun file => firstWrite writes file.path).Pairwise (· < ·)
  found : ∀ path, files.find? (·.path.same path) = lastWrite? writes path

namespace Tracks

theorem written (h : Tracks writes files) (hfile : file ∈ files) :
    ∃ other ∈ writes, other.path.same file.path = true := by
  cases hlast : lastWrite? writes file.path with
  | none =>
      rw [← h.found, List.find?_eq_none] at hlast
      exact absurd (Path.same_refl _) (hlast file hfile)
  | some other =>
      obtain ⟨hsame, before, after, rfl, -⟩ := lastWrite?_eq_some_iff.1 hlast
      exact ⟨other, List.mem_append_right _ List.mem_cons_self, hsame⟩

theorem put (h : Tracks writes files) (file : SourceFile) :
    Tracks (writes ++ [file]) (Memory.put file files) := by
  have hkept : (files.map fun other => firstWrite (writes ++ [file]) other.path) =
      files.map fun other => firstWrite writes other.path :=
    List.map_congr_left fun other hother => firstWrite_append (h.written hother) [file]
  constructor
  case found =>
    intro path
    rw [find?_put, lastWrite?_concat, h.found]
  case ordered =>
    rcases put_cases file files with ⟨before, other, after, rfl, hother, -, hput⟩ | ⟨hnew, hput⟩
    · -- The file in place of another has the first write of that one.
      have hplace : firstWrite (writes ++ [file]) file.path =
          firstWrite (writes ++ [file]) other.path :=
        (firstWrite_congr hother _).symm
      have hordered := h.ordered
      rw [← hkept] at hordered
      simpa [hput, hplace] using hordered
    · have hnone : lastWrite? writes file.path = none := by
        rw [← h.found]
        exact find?_eq_none_of_new hnew (Path.same_refl _)
      rw [hput, List.map_append, hkept, List.map_singleton,
        firstWrite_concat_of_new (lastWrite?_eq_none_iff.1 hnone), List.pairwise_append]
      refine ⟨h.ordered, List.pairwise_singleton _ _, ?_⟩
      rintro first hfirst last hlast
      obtain ⟨other, hother, rfl⟩ := List.mem_map.1 hfirst
      rw [List.mem_singleton.1 hlast]
      exact firstWrite_lt (h.written hother)

/-- Further writes go on with the history. -/
theorem foldl_write {memory : Memory} (h : Tracks writes memory.files) (more : List SourceFile) :
    Tracks (writes ++ more) (more.foldl write memory).files := by
  -- The history and the memory are left free, since both grow with each write.
  induction more generalizing writes memory with
  | nil => rwa [List.append_nil]
  | cons file rest ih =>
      rw [List.append_cons, List.foldl_cons]
      exact ih (h.put file)

theorem distinct (h : Tracks writes files) : PathsDiffer files := by
  refine (List.pairwise_map.1 h.ordered).imp fun {file other} hlt => ?_
  rw [← Bool.not_eq_true]
  exact fun hsame => absurd (firstWrite_congr hsame writes) hlt.ne

theorem eq_of_same (h : Tracks writes files) {other : SourceFile} (hfile : file ∈ files)
    (hother : other ∈ files) (hsame : file.path.same other.path = true) : file = other := by
  have hsymm : Std.Symm fun first second : SourceFile => first.path.same second.path = false :=
    ⟨fun first second hdiffer => (Path.same_comm _ _).trans hdiffer⟩
  by_contra hne
  rw [h.distinct.forall hfile hother hne] at hsame
  cases hsame

/-- What is found under a path is the one file with an equal path. -/
theorem find?_eq_some_iff (h : Tracks writes files) :
    files.find? (·.path.same path) = some file ↔ file ∈ files ∧ file.path.same path = true := by
  constructor
  · intro hfile
    exact ⟨List.mem_of_find?_eq_some hfile, by simpa using List.find?_some hfile⟩
  · rintro ⟨hfile, hsame⟩
    cases hfound : files.find? (·.path.same path) with
    | none => exact absurd hsame (List.find?_eq_none.1 hfound file hfile)
    | some other =>
        have hother : other.path.same path = true := by simpa using List.find?_some hfound
        rw [← Path.same_congr hsame] at hother
        rw [h.eq_of_same (List.mem_of_find?_eq_some hfound) hfile hother]

theorem mem_iff (h : Tracks writes files) :
    file ∈ files ↔ lastWrite? writes file.path = some file := by
  rw [← h.found, h.find?_eq_some_iff, and_iff_left (Path.same_refl _)]

end Tracks

/-- A memory as an ordered map of the files that were written, from paths that count as equal if
they have the same components. -/
structure IsMapOf (writes : List SourceFile) (memory : Memory) : Prop where
  distinct : PathsDiffer memory.files
  ordered : memory.files.Pairwise fun file other =>
    firstWrite writes file.path < firstWrite writes other.path
  /-- Each file is the last one written to a path like its own, and there are all of these. -/
  latest : ∀ file, file ∈ memory.files ↔ lastWrite? writes file.path = some file
  looksUp : ∀ path source, memory.file? path = some source ↔
    ∃ file ∈ memory.files, file.path.same path = true ∧ file.source = source
  respelled : ∀ file ∈ memory.files, ∀ path, file.path.Respells path →
    memory.file? path = some file.source
  missing : ∀ path, (∀ file ∈ writes, file.path.same path = false) → memory.file? path = none
  /-- The source of a class is that of its first file. -/
  sources : ∀ className ≠ "", ∀ source, memory.source? className = some source ↔
    ∃ before file after, memory.files = before ++ file :: after ∧
      file.className = className ∧ (∀ earlier ∈ before, earlier.className ≠ className) ∧
      file.source = source
  classless : memory.source? "" = none
  classNames : memory.classNames =
    (memory.files.filter (·.className ≠ "")).map (·.className)

theorem Tracks.file?_eq_some_iff {memory : Memory} (h : Tracks writes memory.files)
    {source : String} : memory.file? path = some source ↔
      ∃ file ∈ memory.files, file.path.same path = true ∧ file.source = source := by
  simp only [file?, Option.map_eq_some_iff, h.find?_eq_some_iff, and_assoc]

theorem source?_eq_some_iff (memory : Memory) {className source : String} (hne : className ≠ "") :
    memory.source? className = some source ↔
      ∃ before file after, memory.files = before ++ file :: after ∧
        file.className = className ∧ (∀ earlier ∈ before, earlier.className ≠ className) ∧
        file.source = source := by
  have howned : ∀ file : SourceFile,
      (!file.className.isEmpty && file.className == className) = true ↔
        file.className = className := by
    intro file
    rw [Bool.and_eq_true, beq_iff_eq, Bool.not_eq_true', String.isEmpty_eq_false_iff]
    exact and_iff_right_of_imp fun heq => heq ▸ hne
  rw [source?, Option.map_eq_some_iff]
  constructor
  · rintro ⟨file, hfound, hsource⟩
    obtain ⟨hfile, before, after, hfiles, hbefore⟩ := List.find?_eq_some_iff_append.1 hfound
    refine ⟨before, file, after, hfiles, (howned file).1 hfile, fun earlier hearlier => ?_, hsource⟩
    have hother := hbefore earlier hearlier
    rwa [Bool.not_eq_true', ← Bool.not_eq_true, howned] at hother
  · rintro ⟨before, file, after, hfiles, hclass, hbefore, hsource⟩
    refine ⟨file, List.find?_eq_some_iff_append.2 ⟨(howned file).2 hclass, before, after, hfiles,
      fun earlier hearlier => ?_⟩, hsource⟩
    rw [Bool.not_eq_true', ← Bool.not_eq_true, howned]
    exact hbefore earlier hearlier

theorem Tracks.isMapOf {memory : Memory} (h : Tracks writes memory.files) :
    memory.IsMapOf writes := by
  constructor
  case distinct => exact h.distinct
  case ordered => exact List.pairwise_map.1 h.ordered
  case latest => exact fun file => h.mem_iff
  case looksUp => exact fun path source => h.file?_eq_some_iff
  case respelled =>
    intro file hfile path hrespells
    exact h.file?_eq_some_iff.2 ⟨file, hfile, hrespells.same, rfl⟩
  case missing =>
    intro path hnone
    rw [file?, h.found, lastWrite?_eq_none_iff.2 hnone]
    rfl
  case sources => exact fun className hne source => source?_eq_some_iff memory hne
  case classless => simp [source?]
  case classNames =>
    have howned : (!·.isEmpty) ∘ SourceFile.className = (decide <| ·.className ≠ "") :=
      funext fun file => Bool.eq_iff_iff.2 (by simp)
    rw [classNames, List.filter_map, howned]

end Memory

/-- The memory is an ordered map up to path equality.  After any writes into an empty memory its
files have paths of their own and stand in the order in which their paths were first written, and
each is the last file written to its path, as a whole.  A path finds the file that was written under
any of its spellings, and nothing if there was none; a class finds the first of its files. -/
theorem Sink.writeAll_memory_isMapOf (writes : List SourceFile) :
    ∃ memory, Sink.memory.writeAll writes {} = (.ok (), memory) ∧ memory.IsMapOf writes := by
  have hempty : Memory.Tracks [] ({} : Memory).files := ⟨List.Pairwise.nil, fun path => rfl⟩
  refine ⟨writes.foldl Memory.write {}, Sink.writeAll_memory writes {}, ?_⟩
  exact (hempty.foldl_write writes).isMapOf

/-- A file written again under another spelling stays in front of what was written in between. -/
example : (Sink.memory.writeAll [⟨"Item", ⟨"api/item.rs"⟩, "old"⟩, ⟨"", ⟨"api/mod.rs"⟩, "module"⟩,
      ⟨"Other", ⟨"api//./item.rs/"⟩, "new"⟩] {}).2.files =
    [⟨"Other", ⟨"api//./item.rs/"⟩, "new"⟩, ⟨"", ⟨"api/mod.rs"⟩, "module"⟩] := by
  decide +kernel

end Exemplar
