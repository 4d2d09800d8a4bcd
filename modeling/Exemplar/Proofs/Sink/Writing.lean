import Exemplar.Proofs.Disk.Growth
import Exemplar.Sink.Directory

/-!
# Writing a file below a directory

What one write does to a file tree, before anything is rolled back.  The directories that the sink
notes as missing are looked up before any of them is made; in a tree in which everything stands in a
directory, and for a path that only goes down, they hold every directory that the write then makes,
even if it stops halfway.
-/

namespace Exemplar.Directory

open FileTree Exemplar.Path

variable {tree after : FileTree} {path : Path} {content : ByteArray}

/-- A step of writing a file. -/
abbrev Writing := StateM FileTree (Except Failure Unit)

/-! ## The directories that are missing -/

/-- Whether a path is gone through when directories are noted as missing. -/
def isMissing (tree : FileTree) (path : Path) : Bool :=
  !path.text.isEmpty && !tree.existsAt path

/-- The directories above a path that are missing in a tree, the topmost first. -/
def missingIn (tree : FileTree) (path : Path) : List Path :=
  match path.parent? with
  | none => []
  | some parent => (parent.ancestors.takeWhile (isMissing tree)).reverse

/-- Where the directories above a path go that are missing in a tree. -/
def missingPlaces (tree : FileTree) (path : Path) : List Position :=
  (missingIn tree path).map (·.place tree.workingDirectory)

theorem missing_run (paths : List Path) (tree : FileTree) :
    (missing paths : StateM FileTree _) tree = (paths.takeWhile (isMissing tree), tree) := by
  induction paths with
  | nil => rfl
  | cons path above ih =>
      unfold missing
      cases hempty : path.text.isEmpty with
      | true =>
          rw [List.takeWhile_cons_of_neg (by simp [isMissing, hempty])]
          rfl
      | false =>
          rw [if_neg Bool.false_ne_true, run_bind]
          change (if tree.existsAt path then (pure [] : StateM FileTree _) else _) tree = _
          cases hexists : tree.existsAt path with
          | true =>
              rw [List.takeWhile_cons_of_neg (by simp [isMissing, hexists])]
              rfl
          | false =>
              rw [List.takeWhile_cons_of_pos (by simp [isMissing, hempty, hexists]),
                if_neg Bool.false_ne_true, run_bind, ih]
              rfl

theorem missingDirectories_run (path : Path) (tree : FileTree) :
    (missingDirectories path : StateM FileTree _) tree = (missingIn tree path, tree) := by
  unfold missingDirectories missingIn
  cases path.parent? with
  | none => rfl
  | some parent =>
      dsimp only
      rw [run_bind, missing_run]
      rfl

theorem isMissing_of_absent (hempty : path.text.isEmpty = false)
    (hnone : tree.node? (path.place tree.workingDirectory) = none) :
    isMissing tree path = true := by
  have hexists : tree.existsAt path = false := by
    rw [← Bool.not_eq_true, FileTree.existsAt_iff]
    exact fun hexists => hexists.2.2 hnone
  rw [isMissing, hempty, hexists]
  rfl

theorem absent_of_isMissing (hstanding : tree.Standing) (hdescends : path.Descends)
    (htrim : path.IsTrim) (h : isMissing tree path = true) :
    tree.node? (path.place tree.workingDirectory) = none := by
  rw [isMissing, Bool.and_eq_true, Bool.not_eq_true', Bool.not_eq_true'] at h
  cases hnode : tree.node? (path.place tree.workingDirectory) with
  | none => rfl
  | some node =>
      have hexists := (hstanding.existsAt_iff hdescends htrim h.1).2 (by simp [hnode])
      rw [h.2] at hexists
      cases hexists

/-- Nothing is where a directory goes that is noted as missing, and it goes above the file. -/
theorem missingIn_absent (hstanding : tree.Standing) (hdescends : path.Descends) {above : Path}
    (hmem : above ∈ missingIn tree path) :
    LiesBelow tree.workingDirectory path above ∧
      tree.node? (above.place tree.workingDirectory) = none := by
  unfold missingIn at hmem
  cases hparent : path.parent? with
  | none =>
      rw [hparent] at hmem
      cases hmem
  | some parent =>
      rw [hparent, List.mem_reverse] at hmem
      have hbelow := liesBelow_parent hdescends hparent tree.workingDirectory
      have habove := hbelow.trans (liesBelow_ancestorsFrom _ _ hbelow.descends hbelow.trim above
        ((List.takeWhile_sublist _).subset hmem))
      have hmissing := List.all_eq_true.1 List.all_takeWhile above hmem
      exact ⟨habove, absent_of_isMissing hstanding habove.descends habove.trim hmissing⟩

/-- The directories noted as missing are in order, so that each comes after those above it. -/
theorem missingIn_pairwise (tree : FileTree) (hdescends : path.Descends) (home : Position) :
    (missingIn tree path).Pairwise fun upper lower =>
      upper.place home <+: lower.place home := by
  unfold missingIn
  cases hparent : path.parent? with
  | none => exact List.Pairwise.nil
  | some parent =>
      have hbelow := liesBelow_parent hdescends hparent home
      dsimp only
      rw [List.pairwise_reverse]
      exact (ancestorsFrom_pairwise home _ hbelow.descends hbelow.trim).sublist
        (List.takeWhile_sublist _)

/-- Paths each of which stands above those before it, down from one at whose place nothing is, are
all missing. -/
theorem mem_takeWhile_isMissing (hstanding : tree.Standing) {paths : List Path} {above : Path}
    (hpairwise : paths.Pairwise fun lower upper =>
      upper.place tree.workingDirectory <+: lower.place tree.workingDirectory)
    (hmem : above ∈ paths.takeWhile (!·.text.isEmpty))
    (hnone : tree.node? (above.place tree.workingDirectory) = none) :
    above ∈ paths.takeWhile (isMissing tree) := by
  induction paths with
  | nil => cases hmem
  | cons path rest ih =>
      obtain ⟨hfirst, hrest⟩ := List.pairwise_cons.1 hpairwise
      cases hempty : path.text.isEmpty with
      | true =>
          rw [List.takeWhile_cons_of_neg (by simp [hempty])] at hmem
          cases hmem
      | false =>
          rw [List.takeWhile_cons_of_pos (by simp [hempty])] at hmem
          have habsent : tree.node? (path.place tree.workingDirectory) = none := by
            rcases List.mem_cons.1 hmem with rfl | hmem
            · exact hnone
            · cases hnode : tree.node? (path.place tree.workingDirectory) with
              | none => rfl
              | some node =>
                  have hplace := hfirst above ((List.takeWhile_sublist _).subset hmem)
                  by_cases heq : above.place tree.workingDirectory =
                      path.place tree.workingDirectory
                  · rw [heq, hnode] at hnone
                    cases hnone
                  · rw [hstanding.directory_above hplace heq (by simp [hnode])] at hnone
                    cases hnone
          rw [List.takeWhile_cons_of_pos (isMissing_of_absent hempty habsent)]
          rcases List.mem_cons.1 hmem with rfl | hmem
          · exact List.mem_cons_self
          · exact List.mem_cons_of_mem _ (ih hrest hmem)

/-- Making the directory of a file makes none that was not noted as missing. -/
theorem createParent_grown (hstanding : tree.Standing) (hdescends : path.Descends) :
    Grown tree ((createParent path : Writing) tree).2
      (missingPlaces tree path) := by
  unfold createParent missingPlaces missingIn
  cases hparent : path.parent? with
  | none => exact Grown.refl tree _
  | some parent =>
      have hbelow := liesBelow_parent hdescends hparent tree.workingDirectory
      have hpairwise := ancestorsFrom_pairwise tree.workingDirectory parent.segments.length
        hbelow.descends hbelow.trim
      have hgrown := createDirectories_grown parent tree
      refine ⟨hgrown.home, hgrown.standing, fun position => (hgrown.node position).imp_right ?_⟩
      rintro ⟨hnone, hdirectory, hmem⟩
      refine ⟨hnone, hdirectory, ?_⟩
      obtain ⟨above, habove, rfl⟩ := List.mem_map.1 hmem
      rw [List.map_reverse, List.mem_reverse]
      exact List.mem_map_of_mem (mem_takeWhile_isMissing hstanding hpairwise habove hnone)

theorem eq_ok_of_failAt {result : Except FileFault Unit} (h : failAt path result = .ok ()) :
    result = .ok () := by
  cases result with
  | error fault => cases h
  | ok done => rfl

/-- If the directory of a file could be made, then all that were noted as missing are there. -/
theorem createParent_done (hstanding : tree.Standing) (hdescends : path.Descends)
    (h : ((createParent path : Writing) tree).1 = .ok ()) :
    ∀ position ∈ missingPlaces tree path,
      ((createParent path : Writing) tree).2.node? position =
        some .directory := by
  have hgrown := createParent_grown hstanding hdescends
  unfold createParent at h hgrown ⊢
  unfold missingPlaces missingIn
  cases hparent : path.parent? with
  | none => exact fun position hmem => nomatch hmem
  | some parent =>
      rw [hparent] at h hgrown
      have hbelow := liesBelow_parent hdescends hparent tree.workingDirectory
      intro position hmem
      obtain ⟨above, habove, rfl⟩ := List.mem_map.1 hmem
      rw [List.mem_reverse] at habove
      have hplace := (liesBelow_ancestorsFrom tree.workingDirectory _ hbelow.descends hbelow.trim
        above ((List.takeWhile_sublist _).subset habove)).place
      have hempty : parent.text.isEmpty = false := by
        obtain ⟨others, hothers⟩ := exists_ancestors_eq parent
        cases hempty : parent.text.isEmpty with
        | false => rfl
        | true =>
            rw [hothers, List.takeWhile_cons_of_neg (by simp [isMissing, hempty])] at habove
            cases habove
      exact (hgrown.standing hstanding).directory_of_directory hplace
        (createDirectories_done hempty (eq_ok_of_failAt h))

/-! ## The file -/

/-- What a write that succeeds makes of a tree. -/
structure Wrote (tree : FileTree) (path : Path) (content : ByteArray) (after : FileTree) :
    Prop where
  home : after.workingDirectory = tree.workingDirectory
  standing : after.Standing
  ending : path.EndsWithName
  /-- What is overwritten was no directory. -/
  old : tree.node? (path.place tree.workingDirectory) ≠ some .directory
  file : after.node? (path.place tree.workingDirectory) = some (.file content)
  above : ∀ position, position <+: path.place tree.workingDirectory →
    position ≠ path.place tree.workingDirectory → after.node? position = some .directory
  elsewhere : ∀ position, position ≠ path.place tree.workingDirectory →
    after.node? position = tree.node? position ∨
      tree.node? position = none ∧ after.node? position = some .directory ∧
        position ∈ missingPlaces tree path
  made : ∀ position ∈ missingPlaces tree path, after.node? position = some .directory

theorem Wrote.keeps (h : Wrote tree path content after) : Keeps tree after := by
  apply keeps_of_overwrite h.home h.old h.file
  intro position hne hnode
  rcases h.elsewhere position hne with hsame | ⟨hnone, -⟩
  · exact hsame
  · exact absurd hnone hnode

theorem wrote_of_writeBytes {grown : FileTree} (hstanding : tree.Standing)
    (hgrown : Grown tree grown (missingPlaces tree path))
    (hmade : ∀ position ∈ missingPlaces tree path, grown.node? position = some .directory)
    (h : grown.writeBytes path content = .ok after) : Wrote tree path content after := by
  obtain ⟨rfl, hold, before, last, hends, hsteps⟩ := writeBytes_eq_ok h
  have hplace := hends.place
  have hparent := (leads_append.1 hends.leads).2.1
  have hafter : (grown.put (path.place grown.workingDirectory) (.file content)).Standing := by
    rw [hplace] at hold ⊢
    exact (hgrown.standing hstanding).put hparent hold
  rw [hgrown.home] at hold hplace hafter ⊢
  have hne : path.place tree.workingDirectory ≠ [] := by simp [hplace]
  have hput := node?_put hne (.file content) grown
  constructor
  case home => exact hgrown.home
  case standing => exact hafter
  case ending => exact ⟨before, last, hsteps, hends.name⟩
  case old => exact fun hdirectory => hold (hgrown.node_of_some hdirectory)
  case file => rw [hput, if_pos rfl]
  case above =>
    intro position hbelow hne
    exact hafter.directory_above hbelow hne (by simp [hput])
  case elsewhere =>
    intro position hne
    rw [hput, if_neg hne]
    exact hgrown.node position
  case made =>
    intro position hmem
    rw [hput, if_neg, hmade position hmem]
    rintro rfl
    exact hold (hmade _ hmem)

/-- A write of a file either makes some of the missing directories and fails, or makes all of them
and the file. -/
theorem writeFile_cases (source : String) (hstanding : tree.Standing) (hdescends : path.Descends) :
    ∃ result after,
      (writeFile path source : Writing) tree = (result, after) ∧
      ((∃ failure, result = .error failure) ∧ Grown tree after (missingPlaces tree path) ∨
        result = .ok () ∧ Wrote tree path source.toUTF8 after) := by
  have hgrown := createParent_grown hstanding hdescends
  have hmade := createParent_done hstanding hdescends
  rw [writeFile, run_bind]
  rcases hparent : (createParent path : Writing) tree with ⟨failure | done, grown⟩
  all_goals rw [hparent] at hgrown hmade
  · exact ⟨_, _, rfl, .inl ⟨⟨failure, rfl⟩, hgrown⟩⟩
  · dsimp only at hgrown hmade ⊢
    have hwrite : (Disk.writeText path source : Action) grown =
      attempt (·.writeBytes path source.toUTF8) grown := rfl
    rw [run_bind, hwrite]
    obtain ⟨refusals, ⟨fault, heq⟩ | ⟨changed, hchanged, heq⟩⟩ :=
      attempt_cases (·.writeBytes path source.toUTF8) grown
    · rw [heq]
      exact ⟨_, _, rfl, .inl ⟨⟨_, rfl⟩, hgrown.trans (grown_refusals grown refusals _)⟩⟩
    · rw [heq]
      refine ⟨_, _, rfl, .inr ⟨rfl, ?_⟩⟩
      exact wrote_of_writeBytes hstanding (hgrown.trans (grown_refusals grown refusals _))
        (hmade rfl) hchanged

/-! ## The whole write -/

/-- What a directory has noted once the missing directories of a path are looked up. -/
def withMissing (directory : Directory) (tree : FileTree) (path : Path) : Directory :=
  { directory with createdDirectories := directory.createdDirectories ++ missingIn tree path }

/-- What a directory has noted once a file is written. -/
def withWritten (directory : Directory) (tree : FileTree) (path : Path) : Directory :=
  { directory.withMissing tree path with
    createdFiles := directory.createdFiles ++ (if tree.existsAt path then [] else [path])
    written := directory.written ++ [path] }

/-- A directory that is rolled back, with the tree. -/
abbrev rolledBack (directory : Directory) (tree : FileTree) : Directory × FileTree :=
  (directory.rollBack : StateM FileTree Directory) tree

theorem write_run (directory : Directory) (file : SourceFile) (tree : FileTree) :
    (directory.write file : StateM FileTree _) tree =
      match (writeFile (directory.root.join file.path) file.source : Writing) tree with
      | (.ok (), after) =>
          ((.ok (), directory.withWritten tree (directory.root.join file.path)), after)
      | (.error failure, grown) =>
          ((.error failure,
            ((directory.withMissing tree (directory.root.join file.path)).rolledBack grown).1),
            ((directory.withMissing tree (directory.root.join file.path)).rolledBack grown).2) := by
  have hexists : (Disk.pathExists (directory.root.join file.path) : StateM FileTree Bool) tree =
    (tree.existsAt (directory.root.join file.path), tree) := rfl
  simp only [write, run_bind, hexists, missingDirectories_run]
  rcases (writeFile (directory.root.join file.path) file.source : Writing) tree with
    ⟨failure | done, after⟩ <;> rfl

end Exemplar.Directory
