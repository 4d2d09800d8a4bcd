import Exemplar.Proofs.Delivery
import Exemplar.Proofs.Sink.Writing
import Exemplar.Proofs.Source.Confinement

/-!
# What a sink leaves in a directory

Writes that all succeed leave each file with its source where its path leads from the root of the
sink.  Of the rest of the tree nothing changes but that directories come up on the way to a file.
This holds wherever the root is and however its path is spelled, as long as no two files lead to the
same place.  The files of a document never do if their paths go down from the root.
-/

namespace Exemplar

open FileTree Exemplar.Path

namespace Directory

variable {tree after : FileTree} {path : Path} {source : String} {directory : Directory}
  {failure : Failure}

/-! ## One file -/

/-- The paths that are gone through to make the directory of a file, the deepest first. -/
def pathsAbove (path : Path) : List Path :=
  match path.parent? with
  | none => []
  | some parent => parent.ancestors

/-- How a tree is once a file has come up at a path: wherever else something changed, a directory on
the way to the file came up where nothing was. -/
structure Placed (tree : FileTree) (path : Path) (content : ByteArray) (after : FileTree) :
    Prop where
  home : after.workingDirectory = tree.workingDirectory
  file : after.node? (path.place tree.workingDirectory) = some (.file content)
  elsewhere : ∀ position, position ≠ path.place tree.workingDirectory →
    after.node? position = tree.node? position ∨
      tree.node? position = none ∧ after.node? position = some .directory ∧
        ∃ above ∈ pathsAbove path, above.place tree.workingDirectory = position

theorem createParent_grown_above (path : Path) (tree : FileTree) :
    Grown tree ((createParent path : Writing) tree).2
      ((pathsAbove path).map (·.place tree.workingDirectory)) := by
  unfold createParent pathsAbove
  cases path.parent? with
  | none => exact Grown.refl tree _
  | some parent =>
      refine (createDirectories_grown parent tree).mono fun position hmem => ?_
      obtain ⟨above, habove, rfl⟩ := List.mem_map.1 hmem
      exact List.mem_map_of_mem ((List.takeWhile_sublist _).subset habove)

theorem placed_of_writeBytes {grown : FileTree} {content : ByteArray}
    (hgrown : Grown tree grown ((pathsAbove path).map (·.place tree.workingDirectory)))
    (h : grown.writeBytes path content = .ok after) : Placed tree path content after := by
  obtain ⟨rfl, -, before, last, hends, -⟩ := writeBytes_eq_ok h
  have hne : path.place grown.workingDirectory ≠ [] := by simp [hends.place]
  rw [hgrown.home] at hne ⊢
  have hput := node?_put hne (.file content) grown
  constructor
  case home => exact hgrown.home
  case file => rw [hput, if_pos rfl]
  case elsewhere =>
    intro position hposition
    rw [hput, if_neg hposition]
    refine (hgrown.node position).imp_right ?_
    rintro ⟨hnone, hdirectory, hmem⟩
    exact ⟨hnone, hdirectory, List.mem_map.1 hmem⟩

theorem placed_of_writeFile
    (h : (writeFile path source : Writing) tree = (.ok (), after)) :
    Placed tree path source.toUTF8 after := by
  have hgrown := createParent_grown_above path tree
  rw [writeFile, run_bind] at h
  rcases hparent : (createParent path : Writing) tree with ⟨failure | done, grown⟩
  all_goals rw [hparent] at hgrown h
  · cases h
  · have hwrite : (Disk.writeText path source : Action) grown =
      attempt (·.writeBytes path source.toUTF8) grown := rfl
    dsimp only at hgrown h
    rw [run_bind, hwrite] at h
    obtain ⟨refusals, ⟨fault, heq⟩ | ⟨changed, hchanged, heq⟩⟩ :=
      attempt_cases (·.writeBytes path source.toUTF8) grown
    · rw [heq] at h
      cases h
    · rw [heq] at h
      cases h
      exact placed_of_writeBytes (hgrown.trans (grown_refusals grown refusals _)) hchanged

/-! ## Failures -/

theorem failsWith_failAt (path : Path) (result : Except FileFault Unit) :
    FailsWith .file (failAt path result) := by
  intro failure h
  cases result <;> cases h
  rfl

theorem failsWith_createParent (path : Path) (tree : FileTree) :
    FailsWith .file ((createParent path : Writing) tree).1 := by
  unfold createParent
  cases path.parent? with
  | none => exact FailsWith.ok _
  | some parent => exact failsWith_failAt parent _

theorem failsWith_writeFile (path : Path) (source : String) (tree : FileTree) :
    FailsWith .file ((writeFile path source : Writing) tree).1 := by
  have hparent := failsWith_createParent path tree
  rw [writeFile, run_bind]
  rcases hrun : (createParent path : Writing) tree with ⟨failure | done, grown⟩
  · rwa [hrun] at hparent
  · exact failsWith_failAt path _

theorem failsWith_write (directory : Directory) (file : SourceFile) (tree : FileTree) :
    FailsWith .file ((directory.write file : StateM FileTree _) tree).1.1 := by
  have hfile := failsWith_writeFile (directory.root.join file.path) file.source tree
  rw [write_run]
  rcases hrun : (writeFile (directory.root.join file.path) file.source : Writing) tree with
    ⟨failure | done, after⟩
  · rwa [hrun] at hfile
  · exact FailsWith.ok _

end Directory

/-! ## All files -/

/-- How a tree is once some files have come up below a root: wherever else something changed, a
directory on the way to one of them came up where nothing was. -/
structure WritesExactly (root : Path) (files : List SourceFile) (tree after : FileTree) :
    Prop where
  home : after.workingDirectory = tree.workingDirectory
  written : ∀ file ∈ files,
    after.node? ((root.join file.path).place tree.workingDirectory) =
      some (.file file.source.toUTF8)
  elsewhere : ∀ position,
    (∀ file ∈ files, position ≠ (root.join file.path).place tree.workingDirectory) →
      after.node? position = tree.node? position ∨
        tree.node? position = none ∧ after.node? position = some .directory ∧
          ∃ file ∈ files, ∃ above ∈ Directory.pathsAbove (root.join file.path),
            above.place tree.workingDirectory = position

namespace Sink

variable {tree after : FileTree} {directory noted : Directory} {file : SourceFile}
  {files rest : List SourceFile}

/-- The sink that writes below a directory of a file tree. -/
abbrev onTree : Sink (StateT Directory (StateM FileTree)) := Sink.directory

theorem writeAll_cons_run (file : SourceFile) (rest : List SourceFile) (directory : Directory)
    (tree : FileTree) :
    onTree.writeAll (file :: rest) directory tree =
      match (directory.write file : StateM FileTree _) tree with
      | ((.error failure, noted), after) => ((.error failure, noted), after)
      | ((.ok (), noted), after) => onTree.writeAll rest noted after := by
  rw [writeAll]
  have hwrite : onTree.write file directory tree =
    (directory.write file : StateM FileTree _) tree := rfl
  simp only [bind, StateT.bind, hwrite]
  rcases (directory.write file : StateM FileTree _) tree with ⟨⟨failure | done, noted⟩, after⟩ <;>
    rfl

theorem failsWith_writeAll (files : List SourceFile) (directory : Directory) (tree : FileTree) :
    FailsWith .file (onTree.writeAll files directory tree).1.1 := by
  induction files generalizing directory tree with
  | nil => exact FailsWith.ok _
  | cons file rest ih =>
      have hwrite := Directory.failsWith_write directory file tree
      rw [writeAll_cons_run]
      rcases hrun : (directory.write file : StateM FileTree _) tree with
        ⟨⟨failure | done, noted⟩, after⟩
      · rwa [hrun] at hwrite
      · exact ih noted after

theorem deliver_run (files : List SourceFile) (directory : Directory) (tree : FileTree) :
    onTree.deliver files directory tree =
      match onTree.writeAll files directory tree with
      | ((.error failure, noted), after) => ((.error failure, noted), after)
      | ((.ok (), noted), after) => ((.ok (), noted.finish), after) := by
  rw [deliver]
  simp only [bind, StateT.bind]
  rcases onTree.writeAll files directory tree with ⟨⟨failure | done, noted⟩, after⟩ <;> rfl

/-- What is delivered to a directory fails for a file operation only. -/
theorem failsWith_deliver (files : List SourceFile) (directory : Directory) (tree : FileTree) :
    FailsWith .file (onTree.deliver files directory tree).1.1 := by
  have hwrite := failsWith_writeAll files directory tree
  rw [deliver_run]
  rcases hrun : onTree.writeAll files directory tree with ⟨⟨failure | done, noted⟩, after⟩
  · rwa [hrun] at hwrite
  · exact FailsWith.ok _

/-- A file with a place of its own and those that come up after it. -/
theorem writesExactly_cons {root : Path} {middle : FileTree}
    (hplaced : Directory.Placed tree (root.join file.path) file.source.toUTF8 middle)
    (hnew : ∀ other ∈ rest, (root.join file.path).place tree.workingDirectory ≠
      (root.join other.path).place tree.workingDirectory)
    (h : WritesExactly root rest middle after) : WritesExactly root (file :: rest) tree after := by
  obtain ⟨hhome, hwritten, helsewhere⟩ := h
  rw [hplaced.home] at hhome hwritten helsewhere
  constructor
  case home => exact hhome
  case written =>
    intro other hother
    rcases List.mem_cons.1 hother with rfl | hother
    · rcases helsewhere _ hnew with hsame | ⟨hnone, -⟩
      · rw [hsame, hplaced.file]
      · rw [hplaced.file] at hnone
        cases hnone
    · exact hwritten other hother
  case elsewhere =>
    intro position hposition
    obtain ⟨hfile, hrest⟩ := List.forall_mem_cons.1 hposition
    rcases helsewhere position hrest with hsame | ⟨hnone, hdirectory, other, hother, habove⟩
    · rw [hsame]
      refine (hplaced.elsewhere position hfile).imp_right ?_
      rintro ⟨hnone, hdirectory, habove⟩
      exact ⟨hnone, hdirectory, file, List.mem_cons_self, habove⟩
    · rcases hplaced.elsewhere position hfile with hsame | ⟨-, hmade, -⟩
      · rw [hsame] at hnone
        exact .inr ⟨hnone, hdirectory, other, List.mem_cons_of_mem _ hother, habove⟩
      · rw [hmade] at hnone
        cases hnone

/-- Writes that succeed leave exactly the files, where none of them takes the place of another. -/
theorem writesExactly_writeAll
    (hplaces : files.Pairwise fun file other =>
      (directory.root.join file.path).place tree.workingDirectory ≠
        (directory.root.join other.path).place tree.workingDirectory)
    (h : onTree.writeAll files directory tree = ((.ok (), noted), after)) :
    WritesExactly directory.root files tree after := by
  induction files generalizing directory tree with
  | nil =>
      cases h
      exact ⟨rfl, fun file hmem => absurd hmem List.not_mem_nil, fun position _ => .inl rfl⟩
  | cons file rest ih =>
      obtain ⟨hfirst, hrest⟩ := List.pairwise_cons.1 hplaces
      rw [writeAll_cons_run, Directory.write_run] at h
      rcases hrun : (Directory.writeFile (directory.root.join file.path) file.source :
        Directory.Writing) tree with ⟨failure | done, middle⟩
      all_goals rw [hrun] at h
      · cases h
      · have hplaced := Directory.placed_of_writeFile hrun
        have hlater := ih (by rwa [hplaced.home]) h
        exact writesExactly_cons hplaced hfirst hlater

end Sink

/-! ## The files of a document -/

namespace Path

/-- A path that goes down leads to a place below the place of the path that it is taken from. -/
theorem place_join_of_goesDown {other : Path} (h : GoesDown other.text) (path : Path)
    (home : Position) : (path.join other).place home = path.place home ++ names other.segments := by
  rw [place_join h.1, walk_eq_append h.2]

end Path

namespace Source

variable {model : Model} {options : Options} {namespaceText : String} {files : List SourceFile}

/-- The files of a model lead to places of their own, below whatever root their paths go down
from. -/
theorem places_differ (hplain : Rust.HasPlainNames model) (hnames : model.classNames.Nodup)
    (h : model.emit options namespaceText = .ok files)
    (hbelow : ∀ file ∈ files, GoesDown file.path.text) (root : Path) (home : Position) :
    files.Pairwise fun file other =>
      (root.join file.path).place home ≠ (root.join other.path).place home := by
  refine (paths_differ hplain hnames h).imp_of_mem fun hfile hother hsame hplace => ?_
  rw [place_join_of_goesDown (hbelow _ hfile), place_join_of_goesDown (hbelow _ hother),
    List.append_right_inj] at hplace
  obtain ⟨name, hname, hpath⟩ := exists_name_of_mem_files hplain h hfile
  obtain ⟨otherName, hotherName, hotherPath⟩ := exists_name_of_mem_files hplain h hother
  obtain ⟨before, hbefore⟩ := exists_names_join (outputDirectory options.target namespaceText)
  rw [hpath, hotherPath, hbefore name hname, hbefore otherName hotherName] at hplace
  rw [hpath, hotherPath, ← Bool.not_eq_true, same_join_iff hname hotherName] at hsame
  exact hsame (List.singleton_inj.1 (List.append_cancel_left hplace))

/-- They lie below the root. -/
theorem below_root (hplain : Rust.HasPlainNames model)
    (h : model.emit options namespaceText = .ok files) {file : SourceFile} (hfile : file ∈ files)
    (hbelow : GoesDown file.path.text) (root : Path) (home : Position) :
    ∃ below, below ≠ [] ∧ (root.join file.path).place home = root.place home ++ below := by
  obtain ⟨name, hname, hpath⟩ := exists_name_of_mem_files hplain h hfile
  refine ⟨_, ?_, place_join_of_goesDown hbelow root home⟩
  rw [hpath]
  exact names_join_ne_nil hname

end Source

end Exemplar
