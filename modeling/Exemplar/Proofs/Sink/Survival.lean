import Exemplar.Proofs.Sink.Sessions

/-!
# What survives a rollback

A sink looks for a path before the directories of the path are made, and removes what is at the path
afterwards.  Paths that only go down lead to the same place both times.  A path that goes up out of
a missing directory leads nowhere at first, so that what it leads to in the end is taken for new,
and a rollback removes it.  As long as no look misses what is there, everything survives.
-/

namespace Exemplar.Directory

open FileTree Exemplar.Path

variable {before tree after : FileTree} {directory : Directory} {path : Path} {session : Session}

/-! ## Looking for a path -/

/-- Whether something is at the place of a path that seems to lead to nothing. -/
def Overlooks (tree : FileTree) (path : Path) : Prop :=
  tree.existsAt path = false ∧ tree.node? (path.place tree.workingDirectory) ≠ none

instance (tree : FileTree) (path : Path) : Decidable (Overlooks tree path) :=
  inferInstanceAs (Decidable (_ ∧ _))

/-- Whether neither a file nor one of the directories above it is overlooked. -/
def Sighted (tree : FileTree) (path : Path) : Prop :=
  ¬ Overlooks tree path ∧ ∀ above ∈ missingIn tree path, ¬ Overlooks tree above

instance (tree : FileTree) (path : Path) : Decidable (Sighted tree path) :=
  inferInstanceAs (Decidable (_ ∧ _))

/-! ## What operations keep -/

theorem keeps_of_writeBytes {content : ByteArray} (h : tree.writeBytes path content = .ok after) :
    Keeps tree after := by
  obtain ⟨rfl, hold, before, last, hends, -⟩ := writeBytes_eq_ok h
  have hput := node?_put (by simp [hends.place] : path.place tree.workingDirectory ≠ [])
    (.file content) tree
  have hfile := (hput (path.place tree.workingDirectory)).trans (if_pos rfl)
  exact keeps_of_overwrite rfl hold hfile fun position hne _ => (hput position).trans (if_neg hne)

theorem keeps_of_attempt {operation : FileTree → Except FileFault FileTree}
    (h : ∀ tree changed, operation tree = .ok changed → Keeps tree changed) (tree : FileTree) :
    Keeps tree (attempt operation tree).2 := by
  obtain ⟨refusals, ⟨fault, heq⟩ | ⟨changed, hchanged, heq⟩⟩ := attempt_cases operation tree
  · rw [heq]
    exact keeps_of_grown (grown_refusals tree refusals [])
  · rw [heq]
    exact (keeps_of_grown (grown_refusals tree refusals [])).trans (h _ changed hchanged)

theorem writeFile_keeps (path : Path) (source : String) (tree : FileTree) :
    Keeps tree ((writeFile path source : Writing) tree).2 := by
  have hparent : Keeps tree ((createParent path : Writing) tree).2 := by
    unfold createParent
    cases path.parent? with
    | none => exact Keeps.refl tree
    | some parent => exact keeps_of_grown (createDirectories_grown parent tree)
  have hwrite : ∀ grown, Keeps grown ((Disk.writeText path source : Action) grown).2 :=
    keeps_of_attempt fun _ _ => keeps_of_writeBytes
  rw [writeFile, run_bind]
  rcases hrun : (createParent path : Writing) tree with ⟨failure | done, grown⟩
  all_goals rw [hrun] at hparent
  · exact hparent
  · exact hparent.trans (hwrite grown)

/-- A removal leaves alone what is not at the place of its path. -/
theorem removed_frame {operation : FileTree → Path → Except FileFault FileTree}
    (h : ∀ tree path changed, operation tree path = .ok changed →
      changed = tree.erase (path.place tree.workingDirectory) ∧
        path.place tree.workingDirectory ≠ []) (paths : List Path) (tree : FileTree) :
    (paths.foldl (removed operation) tree).workingDirectory = tree.workingDirectory ∧
      ∀ position, (∀ path ∈ paths, path.place tree.workingDirectory ≠ position) →
        (paths.foldl (removed operation) tree).node? position = tree.node? position := by
  induction paths generalizing tree with
  | nil => exact ⟨rfl, fun _ _ => rfl⟩
  | cons path rest ih =>
      obtain ⟨hhome, hrest⟩ := ih (removed operation tree path)
      have hfirst : (removed operation tree path).workingDirectory = tree.workingDirectory ∧
          ∀ position, path.place tree.workingDirectory ≠ position →
            (removed operation tree path).node? position = tree.node? position := by
        unfold removed
        split
        · rename_i changed hchanged
          obtain ⟨rfl, hne⟩ := h tree path changed hchanged
          exact ⟨rfl, fun position hother => by rw [node?_erase hne, if_neg hother.symm]⟩
        · exact ⟨rfl, fun _ _ => rfl⟩
      rw [List.foldl_cons]
      refine ⟨hhome.trans hfirst.1, fun position hother => ?_⟩
      rw [hrest position, hfirst.2 position (hother path List.mem_cons_self)]
      rw [hfirst.1]
      exact fun other hmem => hother other (List.mem_cons_of_mem _ hmem)

theorem removeFile_erases (tree : FileTree) (path : Path) (changed : FileTree)
    (h : tree.removeFile path = .ok changed) :
    changed = tree.erase (path.place tree.workingDirectory) ∧
      path.place tree.workingDirectory ≠ [] := by
  obtain ⟨hchanged, -, before, last, hends⟩ := removeFile_eq_ok h
  exact ⟨hchanged, by simp [hends.place]⟩

theorem removeDirectory_erases (tree : FileTree) (path : Path) (changed : FileTree)
    (h : tree.removeDirectory path = .ok changed) :
    changed = tree.erase (path.place tree.workingDirectory) ∧
      path.place tree.workingDirectory ≠ [] := by
  obtain ⟨hchanged, -, -, before, last, hends⟩ := removeDirectory_eq_ok h
  exact ⟨hchanged, by simp [hends.place]⟩

/-- What is noted was not there before. -/
def NotesNew (before : FileTree) (directory : Directory) : Prop :=
  ∀ path ∈ directory.createdFiles ++ directory.createdDirectories,
    before.node? (path.place before.workingDirectory) = none

/-- Rolling back removes nothing that was there before, if nothing of that is noted. -/
theorem keeps_rolledBack (h : Keeps before tree) (hnew : NotesNew before directory) :
    Keeps before (directory.rolledBack tree).2 := by
  rw [rolledBack, rollBack_run]
  obtain ⟨hhome, hfiles⟩ := removed_frame removeFile_erases directory.createdFiles.reverse tree
  obtain ⟨hhome', hdirectories⟩ := removed_frame removeDirectory_erases
    directory.createdDirectories.reverse
    (directory.createdFiles.reverse.foldl (removed removeFile) tree)
  rw [hhome] at hhome' hdirectories
  rw [h.home] at hhome' hfiles hdirectories
  refine ⟨hhome', fun position hnode => ?_⟩
  have hother : ∀ path ∈ directory.createdFiles ++ directory.createdDirectories,
      path.place before.workingDirectory ≠ position := by
    rintro path hmem rfl
    exact hnode (hnew path hmem)
  have hsame := (hdirectories position fun path hmem =>
    hother path (List.mem_append_right _ (List.mem_reverse.1 hmem))).trans
      (hfiles position fun path hmem =>
        hother path (List.mem_append_left _ (List.mem_reverse.1 hmem)))
  rw [← h.kind position hnode, kind?, kind?]
  dsimp only
  rw [hsame]

theorem existsAt_of_mem_missingIn {above : Path} (h : above ∈ missingIn tree path) :
    tree.existsAt above = false := by
  unfold missingIn at h
  split at h
  · cases h
  · rw [List.mem_reverse] at h
    have hmissing := List.all_eq_true.1 List.all_takeWhile above h
    rw [isMissing, Bool.and_eq_true, Bool.not_eq_true', Bool.not_eq_true'] at hmissing
    exact hmissing.2

theorem absent_of_not_overlooks (h : Keeps before tree) (hexists : tree.existsAt path = false)
    (hseen : ¬ Overlooks tree path) :
    before.node? (path.place before.workingDirectory) = none := by
  cases hnode : before.node? (path.place before.workingDirectory) with
  | none => rfl
  | some node =>
      refine absurd ⟨hexists, ?_⟩ hseen
      rw [h.home]
      exact h.node?_ne_none (by simp [hnode])

theorem notesNew_withMissing (h : Keeps before tree) (hnew : NotesNew before directory)
    (hsighted : Sighted tree path) : NotesNew before (directory.withMissing tree path) := by
  intro above hmem
  rcases List.mem_append.1 hmem with hmem | hmem
  · exact hnew above (List.mem_append_left _ hmem)
  · rcases List.mem_append.1 hmem with hmem | hmem
    · exact hnew above (List.mem_append_right _ hmem)
    · exact absent_of_not_overlooks h (existsAt_of_mem_missingIn hmem) (hsighted.2 above hmem)

theorem notesNew_withWritten (h : Keeps before tree) (hnew : NotesNew before directory)
    (hsighted : Sighted tree path) : NotesNew before (directory.withWritten tree path) := by
  intro noted hmem
  have hmissing := notesNew_withMissing h hnew hsighted
  rcases List.mem_append.1 hmem with hmem | hmem
  · rcases List.mem_append.1 hmem with hmem | hmem
    · exact hnew noted (List.mem_append_left _ hmem)
    · split at hmem
      · cases hmem
      · rename_i hexists
        rw [List.mem_singleton.1 hmem]
        exact absent_of_not_overlooks h (Bool.not_eq_true _ ▸ hexists) hsighted.1
  · exact hmissing noted (List.mem_append_right _ hmem)

/-! ## Sessions -/

namespace Session

/-- Whether no write of some calls overlooks anything. -/
def SightedThrough (session : Session) : List Call → Prop
  | [] => True
  | .write file :: rest =>
      Sighted session.tree (session.directory.root.join file.path) ∧
        SightedThrough (session.write file) rest
  | .finish :: rest => SightedThrough session.finish rest

/-- Everything that was there is there, and nothing of it is noted. -/
structure Spares (before : FileTree) (session : Session) : Prop where
  keeps : Keeps before session.tree
  new : NotesNew before session.directory

theorem spares_write {file : SourceFile} (h : Spares before session)
    (hsighted : Sighted session.tree (session.directory.root.join file.path)) :
    Spares before (session.write file) := by
  have hkeeps := h.keeps.trans
    (writeFile_keeps (session.directory.root.join file.path) file.source session.tree)
  have hrun := write_run session.directory file session.tree
  unfold write
  rcases hwrite : (writeFile (session.directory.root.join file.path) file.source : Writing)
    session.tree with ⟨failure | done, after⟩
  all_goals
    rw [hwrite] at hkeeps hrun
    have hsink : sink.write file session.directory session.tree = _ := hrun
    rw [hsink]
  · refine ⟨keeps_rolledBack hkeeps (notesNew_withMissing h.keeps h.new hsighted), ?_⟩
    dsimp only
    rw [rolledBack, rollBack_run]
    exact fun path hmem => absurd hmem List.not_mem_nil
  · exact ⟨hkeeps, notesNew_withWritten h.keeps h.new hsighted⟩

theorem spares_finish (h : Spares before session) : Spares before session.finish :=
  ⟨h.keeps, fun _ hmem => nomatch hmem⟩

/-- Whatever a sink in a directory writes and rolls back, files stay files and directories stay
directories, unless something was overlooked. -/
theorem rollBack_spares {root : Path} {calls : List Call}
    (hsighted : SightedThrough (start root tree) calls) (position : Position)
    (hnode : tree.node? position ≠ none) :
    (run root tree calls).tree.kind? position = tree.kind? position := by
  have hsteps : ∀ session, Spares tree session → SightedThrough session calls →
      Spares tree (calls.foldl step session) := by
    clear hsighted
    induction calls with
    | nil => exact fun _ h _ => h
    | cons call rest ih =>
        intro session h hsighted
        cases call with
        | write file => exact ih _ (spares_write h hsighted.1) hsighted.2
        | finish => exact ih _ (spares_finish h) hsighted
  have hstart : Spares tree (start root tree) := ⟨Keeps.refl tree, fun _ hmem => nomatch hmem⟩
  exact (hsteps _ hstart hsighted).keeps.kind position hnode

/-- A file to be overwritten, and one that stands where a directory is wanted. -/
def blocked : FileTree where
  workingDirectory := ["home"]
  nodes := [(["home"], .directory), (["home", "existing.txt"], .file "old".toUTF8),
    (["home", "blocker"], .file "x".toUTF8)]

/-- Overwriting a file through a path, and a write that fails. -/
def overwritingThrough (path : Path) : List Call :=
  [.write ⟨"C", path, "new"⟩, .write ⟨"C", ⟨"blocker/B.java"⟩, "b"⟩]

theorem rollBack_spares_blocked :
    SightedThrough (start ⟨"."⟩ blocked) (overwritingThrough ⟨"../home/existing.txt"⟩) ∧
      blocked.node? ["home", "existing.txt"] ≠ none ∧
      (run ⟨"."⟩ blocked (overwritingThrough ⟨"../home/existing.txt"⟩)).tree.kind?
        ["home", "existing.txt"] = some false := by
  have hsighted :
      SightedThrough (start ⟨"."⟩ blocked) (overwritingThrough ⟨"../home/existing.txt"⟩) :=
    ⟨by decide +kernel, by decide +kernel, trivial⟩
  have hnode : blocked.node? ["home", "existing.txt"] ≠ none := by decide
  exact ⟨hsighted, hnode, (rollBack_spares hsighted _ hnode).trans rfl⟩

/-- A file that is overwritten through a missing directory is taken for new, and goes with the next
write that fails. -/
theorem rollBack_removes_overlooked :
    blocked.Standing ∧ blocked.kind? ["home", "existing.txt"] = some false ∧
      Overlooks blocked ⟨"./new/../existing.txt"⟩ ∧
      (run ⟨"."⟩ blocked (overwritingThrough ⟨"new/../existing.txt"⟩)).directory.written = [] ∧
      (run ⟨"."⟩ blocked (overwritingThrough ⟨"new/../existing.txt"⟩)).tree.node?
        ["home", "existing.txt"] = none :=
  ⟨by decide, rfl, by decide +kernel, by decide +kernel, by decide +kernel⟩

end Session

end Exemplar.Directory
