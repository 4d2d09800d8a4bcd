import Mathlib.Data.List.Pairwise
import Exemplar.Proofs.Source.JavaMembers
import Exemplar.Proofs.Source.RustImports

/-!
# Where files go

All files of a model go to one directory, which follows from the namespace alone.  There is a file
for each class, and for Rust the module file behind them.  In their directory the files have names,
no two of them the same, so that no two paths are the same by their components.
-/

namespace Exemplar

namespace Source

open Naming

/-- The directory of the files. -/
def outputDirectory (target : Target) (namespaceText : String) : Path :=
  match target with
  | .java => Java.directory namespaceText
  | .rust => Rust.directory namespaceText

/-- The name of the file of a class. -/
def fileName (target : Target) (className : String) : String :=
  match target with
  | .java => className ++ ".java"
  | .rust => Rust.moduleStem className ++ ".rs"

/-- The names of the files that are for no class. -/
def sharedFileNames : Target → List String
  | .java => []
  | .rust => ["mod.rs"]

/-- The class that each file is for, and the name of the file. -/
def placements (target : Target) (model : Model) : List (String × String) :=
  model.classNames.map (fun name => (name, fileName target name)) ++
    (sharedFileNames target).map fun name => ("", name)

variable {model : Model} {options : Options} {namespaceText : String} {files : List SourceFile}

theorem map_fst_placements (target : Target) (model : Model) :
    (placements target model).map (·.1) =
      model.classNames ++ (sharedFileNames target).map fun _ => "" := by
  rw [placements, List.map_append, List.map_map, List.map_map]
  exact congrArg (· ++ _) (List.map_id _)

theorem map_snd_placements (target : Target) (model : Model) :
    (placements target model).map (·.2) =
      model.classNames.map (fileName target) ++ sharedFileNames target := by
  rw [placements, List.map_append, List.map_map, List.map_map]
  exact congrArg (_ ++ ·) (List.map_id _)

/-- Where a placement puts a file. -/
def placed (target : Target) (namespaceText : String) (placement : String × String) :
    String × Path :=
  (placement.1, (outputDirectory target namespaceText).join ⟨placement.2⟩)

/-- The class of a file and where the file is. -/
def whereabouts (file : SourceFile) : String × Path :=
  (file.className, file.path)

theorem Java.mapM_of_files (h : Java.files model options namespaceText = .ok files) :
    model.classes.mapM (Java.fileOf model options namespaceText) = .ok files := by
  by_cases htaken : Java.TakesBuilderName options model
  · rw [Java.files_of_takesBuilderName htaken] at h
    cases h
  · rwa [Java.files_of_not_takesBuilderName htaken] at h

theorem Java.whereabouts_of_fileOf {cls : ClassDef} {file : SourceFile}
    (h : Java.fileOf model options namespaceText cls = .ok file) :
    whereabouts file = placed .java namespaceText (cls.name, fileName .java cls.name) := by
  obtain ⟨-, -, h⟩ := bind_eq_ok h
  cases h
  rfl

theorem Rust.whereabouts_classSource (cls : ClassDef) :
    whereabouts (Rust.classSource model options namespaceText cls) =
      placed .rust namespaceText (cls.name, fileName .rust cls.name) := by
  rw [whereabouts, Rust.classSource, placed, outputDirectory, fileName]

theorem Rust.whereabouts_moduleSource :
    whereabouts (Rust.moduleSource model options namespaceText) =
      placed .rust namespaceText ("", "mod.rs") := by
  rw [whereabouts, Rust.moduleSource, placed, outputDirectory, Rust.moduleFile]

/-- The files are where the placements put them, in this order. -/
theorem whereabouts_of_emit (h : model.emit options namespaceText = .ok files) :
    files.map whereabouts =
      (placements options.target model).map (placed options.target namespaceText) := by
  unfold Model.emit at h
  rw [placements, Model.classNames, List.map_map, List.map_append, List.map_map]
  cases htarget : options.target with
  | java =>
      rw [htarget] at h
      rw [sharedFileNames, List.map_nil, List.map_nil, List.append_nil]
      exact map_of_mapM (fun _ _ => Java.whereabouts_of_fileOf) (Java.mapM_of_files h)
  | rust =>
      rw [htarget] at h
      obtain ⟨rfl, -, -⟩ := Rust.files_eq_ok h
      simp only [List.map_append, List.map_map, Function.comp_def, Rust.whereabouts_classSource,
        Rust.whereabouts_moduleSource, sharedFileNames, List.map_cons, List.map_nil]

/-- There is a file for each class, and those for no class come last. -/
theorem owners_of_emit (h : model.emit options namespaceText = .ok files) :
    files.map (·.className) =
      model.classNames ++ (sharedFileNames options.target).map fun _ => "" := by
  have hwhere := congrArg (List.map (·.1)) (whereabouts_of_emit h)
  rw [List.map_map, List.map_map] at hwhere
  rw [← map_fst_placements]
  exact hwhere

/-- The names of the files differ. -/
theorem placements_nodup (hnames : model.classNames.Nodup)
    (h : model.emit options namespaceText = .ok files) :
    ((placements options.target model).map (·.2)).Nodup := by
  unfold Model.emit at h
  rw [map_snd_placements]
  cases htarget : options.target with
  | java =>
      rw [sharedFileNames, List.append_nil]
      refine hnames.map fun name other heq => ?_
      rw [fileName, fileName] at heq
      exact (String.append_left_inj ".java").1 heq
  | rust =>
      rw [htarget] at h
      have hmodule : "mod.rs" = "mod" ++ ".rs" := by decide
      obtain ⟨-, hstems, -⟩ := Rust.files_eq_ok h
      have hfileNames : model.classNames.map (fileName .rust) ++ sharedFileNames .rust =
          ((model.classes.map fun cls => Rust.moduleStem cls.name) ++ ["mod"]).map
            (· ++ ".rs") := by
        simp only [Model.classNames, List.map_append, List.map_map, Function.comp_def, fileName,
          sharedFileNames, List.map_cons, List.map_nil, ← hmodule]
      rw [hfileNames]
      apply List.Nodup.map (fun _ _ => (String.append_left_inj ".rs").1)
      refine List.nodup_append.2 ⟨hstems, List.nodup_singleton _, ?_⟩
      intro stem hstem other hother heq
      rw [List.mem_singleton.1 hother] at heq
      obtain ⟨cls, hcls, rfl⟩ := List.mem_map.1 hstem
      exact Rust.moduleStem_ne_mod h cls hcls heq

theorem isFileName_fileName {name : String} (h : ∀ c ∈ name.toList, Unicode.IsPlain c)
    (target : Target) : Path.IsFileName (fileName target name) := by
  cases target with
  | java =>
      have hslash : '/' ∉ name.toList := fun hmem => absurd (h _ hmem) (by decide)
      have hlast : ".java".toList.getLast? = some 'a' := by decide
      rw [fileName]
      exact Path.isFileName_append hslash (by decide) hlast (by decide)
  | rust =>
      rw [fileName]
      exact Rust.isFileName_stem (Rust.slash_notMem_moduleStem h)

theorem isFileName_of_mem_placements (hplain : Rust.HasPlainNames model) {target : Target}
    {placement : String × String} (h : placement ∈ placements target model) :
    Path.IsFileName placement.2 := by
  have hmodule : "mod.rs" = "mod" ++ ".rs" := by decide
  rcases List.mem_append.1 h with h | h
  · obtain ⟨name, hname, rfl⟩ := List.mem_map.1 h
    obtain ⟨cls, hcls, rfl⟩ := List.mem_map.1 hname
    exact isFileName_fileName (hplain cls hcls) target
  · obtain ⟨name, hname, rfl⟩ := List.mem_map.1 h
    cases target with
    | java => cases hname
    | rust =>
        rw [List.mem_singleton.1 hname, hmodule]
        exact Rust.isFileName_stem (by decide)

/-- No two files of a model have one path. -/
theorem paths_differ (hplain : Rust.HasPlainNames model) (hnames : model.classNames.Nodup)
    (h : model.emit options namespaceText = .ok files) :
    files.Pairwise fun file other => file.path.same other.path = false := by
  have hplaced : (placements options.target model).Pairwise fun placement other =>
      (placed options.target namespaceText placement).2.same
        (placed options.target namespaceText other).2 = false := by
    have hdiffer : (placements options.target model).Pairwise fun placement other =>
        placement.2 ≠ other.2 := List.pairwise_map.1 (placements_nodup hnames h)
    refine hdiffer.imp_of_mem fun hplacement hother hne => ?_
    have hsame := @Path.same_join_iff (outputDirectory options.target namespaceText) _ _
      (isFileName_of_mem_placements hplain hplacement) (isFileName_of_mem_placements hplain hother)
    rw [placed, placed, ← Bool.not_eq_true, hsame]
    exact hne
  have hwhere : (files.map whereabouts).Pairwise fun here there =>
      here.2.same there.2 = false := by
    rw [whereabouts_of_emit h]
    exact List.pairwise_map.2 hplaced
  exact List.pairwise_map.1 hwhere

end Source

end Exemplar
