import Exemplar.Proofs.Disk.Joining
import Exemplar.Proofs.Source.Placement

/-!
# Which files stay below the root of the output

The directory of the files is put together from the parts of the namespace, whatever they are.  A
part may be absolute, and a part of a module path may go up.  The files stay below the root of the
output exactly if no part does either, and the first does not start with a dot of its own.
-/

namespace Exemplar

namespace Path

theorem ne_empty_of_isFileName {text : String} (h : IsFileName text) : text ≠ "" := by
  rintro rfl
  cases h.noFiller

theorem goesDown_of_isFileName {text : String} (h : IsFileName text) : GoesDown text := by
  obtain ⟨hrelative, -, hdescends⟩ := onlyNames_iff.1 (onlyNames_of_isFileName h)
  exact ⟨hrelative, hdescends⟩

theorem ofParts_join (parts : List String) (name : String) :
    (ofParts parts).join ⟨name⟩ = ofParts (parts ++ [name]) := by
  rw [ofParts, ofParts, List.foldl_append]
  rfl

/-- A file name behind parts changes nothing about whether they stay below. -/
theorem staysBelow_concat_iff {parts : List String} {name : String} (h : IsFileName name) :
    StaysBelow (parts ++ [name]) ↔ StaysBelow parts := by
  cases parts with
  | nil =>
      refine iff_of_true ⟨onlyNames_of_isFileName h, ?_⟩ trivial
      exact List.forall_mem_nil _
  | cons first rest =>
      rw [List.cons_append, StaysBelow, StaysBelow, List.forall_mem_append,
        List.forall_mem_singleton, and_iff_left (goesDown_of_isFileName h)]

/-- Without dots it only matters for parts whether they are absolute. -/
theorem staysBelow_iff_of_notMem {parts : List String} (h : ∀ part ∈ parts, '.' ∉ part.toList) :
    StaysBelow parts ↔ ∀ part ∈ parts, (Path.mk part).isAbsolute = false := by
  have hsegments : ∀ part ∈ parts, ∀ segment ∈ (Path.mk part).segments, '.' ∉ segment :=
    fun part hpart segment hsegment hdot =>
      h part hpart (Text.mem_of_mem_pieces hsegment hdot)
  have hdescends : ∀ part ∈ parts, (Path.mk part).Descends :=
    fun part hpart hup => hsegments part hpart _ hup List.mem_cons_self
  cases parts with
  | nil => exact iff_of_true trivial (List.forall_mem_nil _)
  | cons first rest =>
      have hhead : (Path.mk first).segments.head? ≠ some ['.'] := fun hdot =>
        hsegments first List.mem_cons_self _ (List.mem_of_head? hdot) List.mem_cons_self
      have hfirst : (Path.mk first).OnlyNames ↔ (Path.mk first).isAbsolute = false := by
        rw [onlyNames_iff, and_iff_left ⟨hhead, hdescends first List.mem_cons_self⟩]
      have hrest : (∀ part ∈ rest, GoesDown part) ↔
          ∀ part ∈ rest, (Path.mk part).isAbsolute = false :=
        forall₂_congr fun part hpart =>
          and_iff_left (hdescends part (List.mem_cons_of_mem _ hpart))
      rw [StaysBelow, List.forall_mem_cons, hfirst, hrest]

/-- The files of a directory differ in the last of the names that lead to them. -/
theorem exists_names_join (directory : Path) :
    ∃ before, ∀ name, IsFileName name →
      names (directory.join ⟨name⟩).segments = before ++ [name] := by
  obtain ⟨before, hbefore⟩ := exists_putsInFront directory
  refine ⟨names before, fun name h => ?_⟩
  rw [hbefore.segments_join _ (isAbsolute_of_notMem h.noSlash), segments_of_isFileName h, names,
    List.filter_append, List.map_append, names]
  simp [h.noFiller]

/-- A file leads to a place below the path that its directory is taken from. -/
theorem names_join_ne_nil {directory : Path} {name : String} (h : IsFileName name) :
    names (directory.join ⟨name⟩).segments ≠ [] := by
  obtain ⟨before, hbefore⟩ := exists_names_join directory
  rw [hbefore name h]
  exact List.concat_ne_nil _ _

end Path

namespace Source

open Exemplar.Path

/-! ## Parts of a namespace -/

/-- The parts of a package. -/
def Java.parts (package : String) : List String :=
  ((Text.pieces '.' package.toList).map String.ofList).filter (!·.isEmpty)

/-- The parts of a module path. -/
def Rust.parts (modulePath : String) : List String :=
  ((Text.doubleColonPieces modulePath.toList).map String.ofList).filter
    fun part => !part.isEmpty && part != "crate"

def namespaceParts (target : Target) (namespaceText : String) : List String :=
  match target with
  | .java => Java.parts namespaceText
  | .rust => Rust.parts namespaceText

variable {target : Target} {namespaceText : String}

theorem outputDirectory_eq (target : Target) (namespaceText : String) :
    outputDirectory target namespaceText = .ofParts (namespaceParts target namespaceText) := by
  cases target <;> rfl

theorem ne_empty_of_mem_namespaceParts :
    ∀ part ∈ namespaceParts target namespaceText, part ≠ "" := by
  intro part hpart
  cases target with
  | java =>
      obtain ⟨-, hnonempty⟩ := List.mem_filter.1 hpart
      simpa using hnonempty
  | rust =>
      obtain ⟨-, hkept⟩ := List.mem_filter.1 hpart
      simp only [Bool.and_eq_true] at hkept
      simpa using hkept.1

/-- The parts of a package hold no dots, so that it only matters whether they are absolute. -/
theorem Java.staysBelow_parts_iff (package : String) :
    StaysBelow (Java.parts package) ↔
      ∀ part ∈ Java.parts package, (Path.mk part).isAbsolute = false := by
  apply staysBelow_iff_of_notMem
  intro part hpart
  obtain ⟨hmade, -⟩ := List.mem_filter.1 hpart
  obtain ⟨piece, hpiece, rfl⟩ := List.mem_map.1 hmade
  rw [String.toList_ofList]
  exact Text.notMem_of_mem_pieces hpiece

/-- A file consists of names exactly if the parts of the namespace stay below. -/
theorem onlyNames_join_iff {name : String} (h : IsFileName name) :
    ((outputDirectory target namespaceText).join ⟨name⟩).OnlyNames ↔
      StaysBelow (namespaceParts target namespaceText) := by
  have hparts : ∀ part ∈ namespaceParts target namespaceText ++ [name], part ≠ "" := by
    rw [List.forall_mem_append, List.forall_mem_singleton]
    exact ⟨ne_empty_of_mem_namespaceParts, ne_empty_of_isFileName h⟩
  rw [outputDirectory_eq, ofParts_join, onlyNames_ofParts hparts, staysBelow_concat_iff h]

/-! ## Files of a document -/

/-- Every file of a model is in the directory of the output, under a file name. -/
theorem exists_name_of_mem_files {model : Model} {options : Options} {files : List SourceFile}
    (hplain : Rust.HasPlainNames model) (h : model.emit options namespaceText = .ok files)
    {file : SourceFile} (hfile : file ∈ files) :
    ∃ name, IsFileName name ∧
      file.path = (outputDirectory options.target namespaceText).join ⟨name⟩ := by
  have hmem : whereabouts file ∈ files.map whereabouts := List.mem_map_of_mem hfile
  rw [whereabouts_of_emit h] at hmem
  obtain ⟨placement, hplacement, heq⟩ := List.mem_map.1 hmem
  exact ⟨placement.2, isFileName_of_mem_placements hplain hplacement,
    (congrArg Prod.snd heq).symm⟩

/-- How a file lies below whatever path its own path is taken from. -/
structure LiesUnder (path : Path) : Prop where
  components (above : Path) : (above.join path).components = above.components ++ path.components
  place (above : Path) (home : Position) :
    ∃ below, below ≠ [] ∧ (above.join path).place home = above.place home ++ below

/-- The path of a file that is made of a document consists of names exactly if the parts of the
namespace stay below, which the parts of a package do if none is absolute.  Then the file lies below
every root that a sink may have. -/
theorem emitted_onlyNames_iff {lowering options : Options} {root : String} {value : Json.Value}
    {watch : Watch} {model : Model} {files : List SourceFile}
    (hmodel : (Generation.model lowering root value watch).result = .ok model)
    (hemit : model.emit options namespaceText = .ok files) :
    (∀ file ∈ files,
      (file.path.OnlyNames ↔ StaysBelow (namespaceParts options.target namespaceText)) ∧
      (file.path.OnlyNames → LiesUnder file.path)) ∧
    (options.target = .java →
      (StaysBelow (namespaceParts options.target namespaceText) ↔
        ∀ part ∈ Java.parts namespaceText, (Path.mk part).isAbsolute = false)) := by
  obtain ⟨hroot, hmodel⟩ := Generation.of_model hmodel
  obtain ⟨hvalue, rfl⟩ := Resolution.eq_resolvedModel hmodel
  have hplain := Rust.hasPlainNames_resolvedModel hroot hvalue lowering.fieldPrefix
  constructor
  · intro file hfile
    obtain ⟨name, hname, hpath⟩ := exists_name_of_mem_files hplain hemit hfile
    rw [hpath]
    exact ⟨onlyNames_join_iff hname, fun honly =>
      ⟨components_join honly, fun above home =>
        ⟨_, names_join_ne_nil hname, place_join_of_onlyNames honly above home⟩⟩⟩
  · intro htarget
    rw [htarget]
    exact Java.staysBelow_parts_iff namespaceText

/-- A document with one number. -/
def lone : Json.Value :=
  .object [("a", .number (.integer 1))]

/-- The model of it. -/
def loneModel : Model :=
  ⟨"Root", [⟨"Root", [⟨"a", "mA", .integer, 1, 0⟩], 1⟩], []⟩

theorem emitted_onlyNames_iff_lone :
    (Generation.model {} "Root" lone Watch.never).result = .ok loneModel ∧
      StaysBelow (namespaceParts .rust "crate::api::v1") ∧
      ∃ files, loneModel.emit { target := .rust } "crate::api::v1" = .ok files ∧
        ∀ file ∈ files, file.path.OnlyNames ∧ LiesUnder file.path := by
  have hmodel : (Generation.model {} "Root" lone Watch.never).result = .ok loneModel := by
    decide +kernel
  have hbelow : StaysBelow (namespaceParts .rust "crate::api::v1") := by decide +kernel
  have hmade : ∃ files, loneModel.emit { target := .rust } "crate::api::v1" = .ok files :=
    ⟨_, rfl⟩
  obtain ⟨files, hfiles⟩ := hmade
  refine ⟨hmodel, hbelow, files, hfiles, fun file hfile => ?_⟩
  obtain ⟨hnames, hlies⟩ := (emitted_onlyNames_iff hmodel hfiles).1 file hfile
  exact ⟨hnames.2 hbelow, hlies (hnames.2 hbelow)⟩

/-- The files of an absolute package go to its own place, and those of a module path that goes up
stand next to the root of the output. -/
theorem emitted_leave_root :
    (Generation.model {} "Root" lone Watch.never).result = .ok loneModel ∧
      (loneModel.emit {} "/tmp/out").map (·.map (·.path)) = .ok [⟨"/tmp/out/Root.java"⟩] ∧
      (loneModel.emit { target := .rust } "..").map (·.map (·.path)) =
        .ok [⟨"../root.rs"⟩, ⟨"../mod.rs"⟩] ∧
      ¬ OnlyNames ⟨"/tmp/out/Root.java"⟩ ∧ ¬ OnlyNames ⟨"../root.rs"⟩ ∧
      ((Path.mk "generated").join ⟨"/tmp/out/Root.java"⟩).place ["home"] =
        ["tmp", "out", "Root.java"] ∧
      ((Path.mk "generated").join ⟨"../root.rs"⟩).place ["home"] = ["home", "root.rs"] := by
  decide +kernel

end Source

end Exemplar
