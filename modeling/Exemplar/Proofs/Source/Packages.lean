import Mathlib.Data.List.TakeWhile
import Exemplar.Proofs.Source.Confinement
import Exemplar.Text.Split

/-!
# Packages and directories

A source declares its package as the text that was given for it, and an empty text not at all.  The
directory of its file is put together from the pieces of that text which are not empty, and a slash
in a piece counts as well.  So the two fit only if every piece is the name of a directory.
-/

namespace Exemplar

namespace Text

/-- A character that is not the mark is in one of the pieces. -/
theorem exists_mem_pieces {mark c : Char} {cs : List Char} (hmem : c ∈ cs) (hc : c ≠ mark) :
    ∃ piece ∈ pieces mark cs, c ∈ piece := by
  induction cs with
  | nil => cases hmem
  | cons d rest ih =>
      rw [pieces]
      split
      · rename_i hmark
        obtain ⟨piece, hpiece, hin⟩ := ih ((List.mem_cons.1 hmem).resolve_left (hmark ▸ hc))
        exact ⟨piece, List.mem_cons_of_mem _ hpiece, hin⟩
      · cases hpieces : pieces mark rest with
        | nil => exact absurd hpieces (pieces_ne_nil mark rest)
        | cons first others =>
            rcases List.mem_cons.1 hmem with rfl | hmem
            · exact ⟨c :: first, List.mem_cons_self, List.mem_cons_self⟩
            · obtain ⟨piece, hpiece, hin⟩ := ih hmem
              rw [hpieces] at hpiece
              rcases List.mem_cons.1 hpiece with rfl | hpiece
              · exact ⟨d :: piece, List.mem_cons_self, List.mem_cons_of_mem _ hin⟩
              · exact ⟨piece, List.mem_cons_of_mem _ hpiece, hin⟩

theorem after?_append (mark text : List Char) : after? mark (mark ++ text) = some text := by
  induction mark with
  | nil => rfl
  | cons c mark ih => rw [List.cons_append, after?, if_pos rfl, ih]

end Text

namespace Path

variable {path : Path} {parts : List String}

/-- The components that lead to a file. -/
def directories (path : Path) : List Component :=
  path.components.dropLast

theorem directories_join {name : String} (h : IsFileName name) (directory : Path) :
    (directory.join ⟨name⟩).directories = directory.components := by
  rw [directories, components_join (onlyNames_of_isFileName h), components_of_isFileName h,
    List.dropLast_concat]

theorem text_of_segments_nil (h : path.segments = [[]]) : path.text = "" := by
  have htext := Text.intercalate_pieces '/' path.text.toList
  rw [← segments, h] at htext
  exact String.toList_eq_nil_iff.1 htext.symm

theorem leading_ne_nil {first : List Char} (h : first ≠ []) (absolute : Bool) :
    leading absolute first ≠ [] := by
  unfold leading component?
  split
  · exact List.cons_ne_nil _ _
  · split
    · exact List.cons_ne_nil _ _
    · rename_i hhere
      have hfiller : isFiller first = false := by simp [isFiller, h, hhere]
      rw [hfiller, if_neg Bool.false_ne_true]
      split <;> exact List.cons_ne_nil _ _

theorem components_ne_nil (h : path.text ≠ "") : path.components ≠ [] := by
  obtain ⟨first, rest, hsegments⟩ := List.exists_cons_of_ne_nil (segments_ne_nil path)
  rw [components_of_segments hsegments]
  refine List.append_ne_nil_of_left_ne_nil ?_ _
  by_cases hfirst : first = []
  · subst hfirst
    have hrest : rest ≠ [] := by
      rintro rfl
      exact h (text_of_segments_nil hsegments)
    rw [(isAbsolute_of_segments hsegments).2 ⟨rfl, hrest⟩]
    exact List.cons_ne_nil _ _
  · exact leading_ne_nil hfirst _

/-- A name that a segment gives is the segment. -/
theorem name_of_component? {segment name : List Char} (h : component? segment = some (.name name)) :
    segment = name ∧ name ≠ [] := by
  unfold component? at h
  split at h
  · cases h
  · rename_i hfiller
    split at h
    · cases h
    · cases h
      refine ⟨rfl, ?_⟩
      rintro rfl
      exact hfiller rfl

/-- A name among the components of a path is a segment that is not empty. -/
theorem of_name_mem_components {name : List Char} (h : .name name ∈ path.components) :
    name ∈ path.segments ∧ name ≠ [] := by
  obtain ⟨first, rest, hsegments⟩ := List.exists_cons_of_ne_nil (segments_ne_nil path)
  rw [components_of_segments hsegments] at h
  rw [hsegments]
  rcases List.mem_append.1 h with h | h
  · unfold leading at h
    split at h
    · cases List.mem_singleton.1 h
    · split at h
      · cases List.mem_singleton.1 h
      · obtain ⟨rfl, hne⟩ := name_of_component? (Option.mem_toList.1 h)
        exact ⟨List.mem_cons_self, hne⟩
  · obtain ⟨segment, hsegment, hname⟩ := List.mem_filterMap.1 h
    obtain ⟨rfl, hne⟩ := name_of_component? hname
    exact ⟨List.mem_cons_of_mem _ hsegment, hne⟩

theorem component?_of_noDot {segment : List Char} (hne : segment ≠ []) (hdot : '.' ∉ segment) :
    component? segment = some (.name segment) := by
  have hother : ∀ rest, segment ≠ '.' :: rest := by
    rintro rest rfl
    exact hdot List.mem_cons_self
  have hfiller : isFiller segment = false := by simp [isFiller, hne, hother]
  rw [component?, hfiller, if_neg Bool.false_ne_true, if_neg (hother _)]

theorem components_foldl (hne : path.text ≠ "") (hparts : ∀ part ∈ parts, part ≠ "")
    (hrelative : ∀ part ∈ parts, (Path.mk part).isAbsolute = false) :
    (parts.foldl (fun path part => path.join ⟨part⟩) path).components =
      path.components ++ parts.flatMap fun part => (Path.mk part).segments.filterMap component? := by
  induction parts generalizing path with
  | nil => simp
  | cons part rest ih =>
      obtain ⟨hpart, hrest⟩ := List.forall_mem_cons.1 hparts
      obtain ⟨habsolute, hothers⟩ := List.forall_mem_cons.1 hrelative
      rw [List.foldl_cons, ih (text_join_ne hpart path) hrest hothers,
        components_join_of_ne hne habsolute, List.flatMap_cons, List.append_assoc]

/-- Parts that stay below give the components of their segments. -/
theorem components_ofParts (hparts : ∀ part ∈ parts, part ≠ "") (h : StaysBelow parts) :
    (ofParts parts).components =
      parts.flatMap fun part => (Path.mk part).segments.filterMap component? := by
  cases parts with
  | nil => rfl
  | cons first rest =>
      obtain ⟨hfirst, hrest⟩ := List.forall_mem_cons.1 hparts
      obtain ⟨hrelative, hhead, -⟩ := onlyNames_iff.1 h.1
      rw [ofParts, List.foldl_cons, empty_join,
        components_foldl hfirst hrest fun part hpart => (h.2 part hpart).1,
        components_eq hrelative hhead, List.flatMap_cons]

theorem components_ofParts_eq_nil_iff (hparts : ∀ part ∈ parts, part ≠ "") :
    (ofParts parts).components = [] ↔ parts = [] := by
  constructor
  · intro hnil
    rcases List.eq_nil_or_concat parts with hempty | ⟨init, last, rfl⟩
    · exact hempty
    · rw [List.concat_eq_append, ← ofParts_join] at hnil
      exact absurd hnil (components_ne_nil (text_join_ne (hparts last (by simp)) _))
  · rintro rfl
    rfl

end Path

namespace Source.Java

open Exemplar.Path

variable {package : String}

/-- The package that a source declares at its start. -/
def declaredPackage? (source : String) : Option String :=
  (Text.after? "package ".toList source.toList).map fun text =>
    String.ofList (text.takeWhile (· != ';'))

/-- Whether every piece of a package is the name of a directory. -/
structure IsPlainPackage (package : String) : Prop where
  noSemicolon : ';' ∉ package.toList
  isName : ∀ piece ∈ Text.pieces '.' package.toList, piece ≠ [] ∧ '/' ∉ piece

instance (package : String) : Decidable (IsPlainPackage package) :=
  decidable_of_iff
    (';' ∉ package.toList ∧ ∀ piece ∈ Text.pieces '.' package.toList, piece ≠ [] ∧ '/' ∉ piece)
    ⟨fun h => ⟨h.1, h.2⟩, fun h => ⟨h.noSemicolon, h.isName⟩⟩

/-! ## Package clauses -/

theorem declaredPackage?_of_head {text : String} {c : Char} {lines : List Line}
    (hhead : text.toList.head? = some c) (hc : c ≠ 'p') :
    declaredPackage? (render (.plain text :: lines)) = none := by
  obtain ⟨rest, htext⟩ := List.head?_eq_some_iff.1 hhead
  have hsource : (render (.plain text :: lines)).toList =
      c :: (rest ++ '\n' :: (render lines).toList) := by
    simp [render, renderFrom, indentation, htext]
  rw [declaredPackage?, hsource]
  simp [Text.after?, hc.symm]

/-- The source of a class declares the package as it is given, up to a semicolon. -/
theorem declaredPackage?_render (model : Model) (options : Options) (package : String)
    (cls : ClassDef) :
    declaredPackage? (render (classLines model options package cls)) =
      if package = "" then none
      else some (String.ofList (package.toList.takeWhile (· != ';'))) := by
  split
  · rename_i hempty
    -- Without a clause the first line is an import or the mark in front of the class.
    have hfirst : ∃ text c rest, classLines model options package cls = .plain text :: rest ∧
        text.toList.head? = some c ∧ c ≠ 'p' := by
      rw [classLines, headerLines, markLines, hempty]
      cases importedNames model options (cls.fields.map (Member.ofField model)) with
      | nil => exact ⟨_, '@', _, rfl, by simp [toString], by decide⟩
      | cons name rest => exact ⟨_, 'i', _, rfl, by simp [toString], by decide⟩
    obtain ⟨text, c, rest, hlines, hhead, hc⟩ := hfirst
    rw [hlines]
    exact declaredPackage?_of_head hhead hc
  · rename_i hne
    have hclause : ∃ rest, classLines model options package cls =
        .plain s!"package {package};" :: rest := by
      simp [classLines, headerLines, hne]
    obtain ⟨rest, hlines⟩ := hclause
    have hsource : (render (.plain s!"package {package};" :: rest)).toList =
        "package ".toList ++ (package.toList ++ ';' :: '\n' :: (render rest).toList) := by
      simp [render, renderFrom, indentation, toString]
    have hname : (package.toList ++ ';' :: '\n' :: (render rest).toList).takeWhile (· != ';') =
        package.toList.takeWhile (· != ';') := by
      rw [List.takeWhile_append]
      split
      · rename_i hlength
        rw [(List.takeWhile_prefix _).eq_of_length hlength, List.takeWhile_cons_of_neg (by simp),
          List.append_nil]
      · rfl
    rw [hlines, declaredPackage?, hsource, Text.after?_append, Option.map_some, hname]

/-! ## Directories of packages -/

theorem mem_parts_iff {part : String} :
    part ∈ parts package ↔ part.toList ∈ Text.pieces '.' package.toList ∧ part ≠ "" := by
  rw [parts, List.mem_filter, List.mem_map]
  constructor
  · rintro ⟨⟨piece, hpiece, rfl⟩, hne⟩
    exact ⟨by rwa [String.toList_ofList], by simpa using hne⟩
  · rintro ⟨hpiece, hne⟩
    exact ⟨⟨part.toList, hpiece, String.ofList_toList⟩, by simpa using hne⟩

theorem parts_ne_empty : ∀ part ∈ parts package, part ≠ "" :=
  fun _ hpart => (mem_parts_iff.1 hpart).2

/-- What is in a piece of a package is in one of its parts. -/
theorem ofList_mem_parts {piece : List Char} (hpiece : piece ∈ Text.pieces '.' package.toList)
    (hne : piece ≠ []) : String.ofList piece ∈ parts package :=
  mem_parts_iff.2 ⟨by rwa [String.toList_ofList], by simpa using hne⟩

/-- Whether no piece of a package starts with a slash. -/
def IsRelative (package : String) : Prop :=
  ∀ part ∈ parts package, (Path.mk part).isAbsolute = false

theorem components_directory (h : IsRelative package) :
    (directory package).components =
      (parts package).flatMap fun part => (Path.mk part).segments.filterMap component? :=
  components_ofParts parts_ne_empty ((staysBelow_parts_iff package).2 h)

/-- There are directories for a package exactly if it has a character that is no dot. -/
theorem components_directory_ne_nil_iff :
    (directory package).components ≠ [] ↔ ∃ c ∈ package.toList, c ≠ '.' := by
  rw [Ne, directory, ← parts, components_ofParts_eq_nil_iff parts_ne_empty]
  constructor
  · intro hne
    obtain ⟨part, hpart⟩ := List.exists_mem_of_ne_nil _ hne
    obtain ⟨hpiece, hnonempty⟩ := mem_parts_iff.1 hpart
    obtain ⟨c, hc⟩ := List.exists_mem_of_ne_nil _ (mt String.toList_eq_nil_iff.1 hnonempty)
    refine ⟨c, Text.mem_of_mem_pieces hpiece hc, ?_⟩
    rintro rfl
    exact Text.notMem_of_mem_pieces hpiece hc
  · rintro ⟨c, hmem, hc⟩
    obtain ⟨piece, hpiece, hin⟩ := Text.exists_mem_pieces hmem hc
    exact List.ne_nil_of_mem (ofList_mem_parts hpiece (List.ne_nil_of_mem hin))

/-- A character of a package that marks nothing is in one of its directories. -/
theorem exists_mem_components {c : Char} (h : IsRelative package)
    (hmem : c ∈ package.toList) (hdot : c ≠ '.') (hslash : c ≠ '/') :
    ∃ name, .name name ∈ (directory package).components ∧ c ∈ name := by
  obtain ⟨piece, hpiece, hin⟩ := Text.exists_mem_pieces hmem hdot
  obtain ⟨segment, hsegment, hin⟩ := Text.exists_mem_pieces hin hslash
  have hpart := ofList_mem_parts hpiece (List.ne_nil_of_mem ‹c ∈ piece›)
  have hnodot : '.' ∉ segment := fun hmem =>
    Text.notMem_of_mem_pieces hpiece (Text.mem_of_mem_pieces hsegment hmem)
  refine ⟨segment, ?_, hin⟩
  rw [components_directory h]
  refine List.mem_flatMap.2 ⟨_, hpart, List.mem_filterMap.2
    ⟨segment, ?_, component?_of_noDot (List.ne_nil_of_mem hin) hnodot⟩⟩
  rwa [segments, String.toList_ofList]

theorem IsPlainPackage.isRelative (h : IsPlainPackage package) : IsRelative package :=
  fun _ hpart => isAbsolute_of_notMem (h.isName _ (mem_parts_iff.1 hpart).1).2

/-- A plain package has its pieces as directories. -/
theorem IsPlainPackage.components_directory (h : IsPlainPackage package) :
    (directory package).components = (Text.pieces '.' package.toList).map .name := by
  have hparts : parts package = (Text.pieces '.' package.toList).map String.ofList := by
    rw [parts, List.filter_eq_self]
    intro part hpart
    obtain ⟨piece, hpiece, rfl⟩ := List.mem_map.1 hpart
    simpa using (h.isName piece hpiece).1
  have hpieces : ∀ piece ∈ Text.pieces '.' package.toList,
      (Path.mk (String.ofList piece)).segments.filterMap component? = [Component.name piece] := by
    intro piece hpiece
    obtain ⟨hne, hslash⟩ := h.isName piece hpiece
    have hdot := Text.notMem_of_mem_pieces hpiece
    rw [segments, String.toList_ofList, Text.pieces_of_notMem hslash,
      List.filterMap_cons_some (component?_of_noDot hne hdot), List.filterMap_nil]
  rw [Java.components_directory h.isRelative, hparts, List.flatMap_map, List.flatMap_congr hpieces,
    ← List.map_eq_flatMap]

theorem takeWhile_of_noSemicolon (h : ';' ∉ package.toList) :
    package.toList.takeWhile (· != ';') = package.toList := by
  rw [List.takeWhile_eq_self_iff]
  intro c hc
  rw [bne_iff_ne]
  rintro rfl
  exact h hc

/-- The declared package has the directories as its pieces exactly if every piece is the name of a
directory. -/
theorem map_pieces_eq_iff (hrelative : IsRelative package) :
    (Text.pieces '.' (package.toList.takeWhile (· != ';'))).map Component.name =
      (directory package).components ↔ IsPlainPackage package := by
  constructor
  · intro heq
    have hsemicolon : ';' ∉ package.toList := by
      intro hmem
      obtain ⟨name, hname, hin⟩ := exists_mem_components hrelative hmem (by decide) (by decide)
      rw [← heq] at hname
      obtain ⟨piece, hpiece, hsame⟩ := List.mem_map.1 hname
      cases hsame
      have htaken := List.mem_takeWhile_imp (Text.mem_of_mem_pieces hpiece hin)
      simp at htaken
    rw [takeWhile_of_noSemicolon hsemicolon] at heq
    refine ⟨hsemicolon, fun piece hpiece => ?_⟩
    have hmem : Component.name piece ∈ (directory package).components := by
      rw [← heq]
      exact List.mem_map_of_mem hpiece
    obtain ⟨hsegment, hpiece⟩ := of_name_mem_components hmem
    exact ⟨hpiece, slash_notMem_of_mem_segments hsegment⟩
  · intro hplain
    rw [takeWhile_of_noSemicolon hplain.noSemicolon, hplain.components_directory]

/-! ## Files -/

variable {model : Model} {options : Options} {files : List SourceFile}

theorem packageOf_mem_files (h : Java.files model options package = .ok files) {file : SourceFile}
    (hfile : file ∈ files) (hname : '/' ∉ file.className.toList) :
    declaredPackage? file.source =
        (if package = "" then none
        else some (String.ofList (package.toList.takeWhile (· != ';')))) ∧
      file.path.directories = (directory package).components := by
  obtain ⟨cls, -, hmade⟩ := (files_eq_ok h).2 file hfile
  obtain ⟨-, -, hmade⟩ := bind_eq_ok hmade
  cases hmade
  exact ⟨declaredPackage?_render model options package cls,
    directories_join (isFileName_append hname (by decide) rfl (by decide)) _⟩

/-- For every file whose class has no slash in its name, there is a package clause exactly if there
are directories, unless the package consists of dots only.  If no piece of the package starts with a
slash, the pieces of what is declared are those directories exactly if each is the name of one. -/
theorem packages_fit_directories (h : Java.files model options package = .ok files)
    {file : SourceFile} (hfile : file ∈ files) (hname : '/' ∉ file.className.toList) :
    (((declaredPackage? file.source).isSome ↔ file.path.directories ≠ []) ↔
        package = "" ∨ ∃ c ∈ package.toList, c ≠ '.') ∧
      (IsRelative package →
        ((∀ declared, declaredPackage? file.source = some declared →
            (Text.pieces '.' declared.toList).map .name = file.path.directories) ↔
          package = "" ∨ IsPlainPackage package)) := by
  obtain ⟨hdeclared, hdirectories⟩ := packageOf_mem_files h hfile hname
  rw [hdeclared, hdirectories, components_directory_ne_nil_iff]
  by_cases hempty : package = ""
  · subst hempty
    simp
  · rw [if_neg hempty, or_iff_right hempty, or_iff_right hempty]
    refine ⟨by simp, fun hrelative => ?_⟩
    rw [← map_pieces_eq_iff hrelative]
    simp

theorem packages_fit_directories_nested :
    ∃ file, Java.files loneModel {} "com.example" = .ok [file] ∧
      '/' ∉ file.className.toList ∧ IsPlainPackage "com.example" ∧ IsRelative "com.example" ∧
      ((declaredPackage? file.source).isSome ↔ file.path.directories ≠ []) ∧
      ∀ declared, declaredPackage? file.source = some declared →
        (Text.pieces '.' declared.toList).map .name = file.path.directories := by
  obtain ⟨file, hmade, hroot⟩ :
      ∃ file, Java.files loneModel {} "com.example" = .ok [file] ∧ file.className = "Root" :=
    ⟨_, rfl, rfl⟩
  have hname : '/' ∉ file.className.toList := by
    rw [hroot]
    decide
  have hplain : IsPlainPackage "com.example" := by decide +kernel
  obtain ⟨hclause, hpieces⟩ := packages_fit_directories hmade List.mem_cons_self hname
  exact ⟨file, hmade, hname, hplain, hplain.isRelative,
    hclause.2 (.inr ⟨'c', by decide, by decide⟩), (hpieces hplain.isRelative).2 (.inr hplain)⟩

/-- The package that a file declares, and the directories that lead to it. -/
def packaging (file : SourceFile) : Option String × List Component :=
  (declaredPackage? file.source, file.path.directories)

/-- The model of an object without members. -/
def bareModel (name : String) : Model :=
  ⟨name, [⟨name, [], 1⟩], []⟩

theorem packaging_bareModel (name : String) (hne : package ≠ "") :
    (Java.files (bareModel name) {} package).map (·.map packaging) =
      .ok [(some (String.ofList (package.toList.takeWhile (· != ';'))),
        ((directory package).join ⟨name ++ ".java"⟩).directories)] := by
  have hfiles : Java.files (bareModel name) {} package =
      .ok [⟨name, (directory package).join ⟨name ++ ".java"⟩,
        render (classLines (bareModel name) {} package ⟨name, [], 1⟩)⟩] := rfl
  rw [hfiles, Except.map, List.map_singleton, packaging, declaredPackage?_render, if_neg hne]

/-- A package of one dot has no directory, and an empty piece of a package, a slash or a semicolon
in one, or a slash in the name of the class makes other directories than are declared. -/
theorem packages_unlike_directories :
    (Java.files (bareModel "Root") {} ".").map (·.map packaging) = .ok [(some ".", [])] ∧
      (Java.files (bareModel "Root") {} "a..b").map (·.map packaging) =
        .ok [(some "a..b", [.name ['a'], .name ['b']])] ∧
      Text.pieces '.' "a..b".toList = [['a'], [], ['b']] ∧
      (Java.files (bareModel "Root") {} "a/b").map (·.map packaging) =
        .ok [(some "a/b", [.name ['a'], .name ['b']])] ∧
      (Java.files (bareModel "Root") {} "a;").map (·.map packaging) =
        .ok [(some "a", [.name ['a', ';']])] ∧
      (Java.files (bareModel "x/Y") {} "a").map (·.map packaging) =
        .ok [(some "a", [.name ['a'], .name ['x']])] := by
  rw [packaging_bareModel _ (by decide), packaging_bareModel _ (by decide),
    packaging_bareModel _ (by decide), packaging_bareModel _ (by decide),
    packaging_bareModel _ (by decide)]
  refine ⟨?_, ?_, ?_, ?_, ?_, ?_⟩ <;> decide +kernel

end Source.Java

end Exemplar
