import Exemplar.Proofs.Sink.Rollback

/-!
# Exact rollback

A sink in a directory is called any number of times, to write a file or to finish.  As long as
writes succeed, the tree is the one that was last settled with what was written to it; after a write
that fails it has the same files and directories as that one, and of its files only those have
changed that were overwritten.
-/

namespace Exemplar.Directory

open FileTree Exemplar.Path

inductive Call where
  | write (file : SourceFile)
  | finish

/-- A sink in a file tree that is called again and again. -/
structure Session where
  directory : Directory
  tree : FileTree
  /-- The tree as it was at first, or after the last write that failed, or when the sink was last
  finished, whichever came last. -/
  settled : FileTree
  /-- What was written since, and where, the latest first. -/
  written : List (Position × ByteArray)

namespace Session

/-- The sink that writes below a directory of a file tree. -/
abbrev sink : Sink (StateT Directory (StateM FileTree)) := Sink.directory

def start (root : Path) (tree : FileTree) : Session :=
  ⟨{ root }, tree, tree, []⟩

def write (session : Session) (file : SourceFile) : Session :=
  match sink.write file session.directory session.tree with
  | ((.ok (), directory), tree) =>
      let place := (session.directory.root.join file.path).place session.tree.workingDirectory
      ⟨directory, tree, session.settled, (place, file.source.toUTF8) :: session.written⟩
  | ((.error _, directory), tree) => ⟨directory, tree, tree, []⟩

def finish (session : Session) : Session :=
  match sink.finish session.directory session.tree with
  | ((_, directory), tree) => ⟨directory, tree, tree, []⟩

def step (session : Session) : Call → Session
  | .write file => session.write file
  | .finish => session.finish

def run (root : Path) (tree : FileTree) (calls : List Call) : Session :=
  calls.foldl step (start root tree)

/-- What is to be at a position while writes succeed: what was last written there, a directory above
what was written, and otherwise what was there. -/
def expected (session : Session) (position : Position) : Option Node :=
  match session.written.lookup position with
  | some content => some (.file content)
  | none =>
      if session.written.any (fun entry => position.isPrefixOf entry.1) then some .directory
      else session.settled.node? position

/-- What becomes of a node whose position may have been written to. -/
def overwritten (session : Session) (position : Position) : Node → Node
  | .directory => .directory
  | .file content => .file ((session.written.lookup position).getD content)

end Session

variable {settled tree after : FileTree} {directory : Directory} {path : Path} {session : Session}

/-! ## One write -/

theorem write_cases (directory : Directory) (file : SourceFile) (hstanding : tree.Standing)
    (hdescends : (directory.root.join file.path).Descends) :
    (∃ after, (directory.write file : StateM FileTree _) tree =
        ((.ok (), directory.withWritten tree (directory.root.join file.path)), after) ∧
      Wrote tree (directory.root.join file.path) file.source.toUTF8 after) ∨
    ∃ failure grown, (directory.write file : StateM FileTree _) tree =
        ((.error failure,
          ((directory.withMissing tree (directory.root.join file.path)).rolledBack grown).1),
          ((directory.withMissing tree (directory.root.join file.path)).rolledBack grown).2) ∧
      Grown tree grown (missingPlaces tree (directory.root.join file.path)) := by
  obtain ⟨result, after, hrun, hcases⟩ := writeFile_cases file.source hstanding hdescends
  rw [write_run, hrun]
  rcases hcases with ⟨⟨failure, rfl⟩, hgrown⟩ | ⟨rfl, hwrote⟩
  · exact .inr ⟨failure, after, rfl, hgrown⟩
  · exact .inl ⟨after, rfl, hwrote⟩

theorem Notes.of_grown {grown : FileTree} (h : Notes settled directory tree)
    (hmade : ∀ above ∈ directory.createdDirectories,
      tree.node? (above.place settled.workingDirectory) = some .directory)
    (hdescends : path.Descends) (hgrown : Grown tree grown (missingPlaces tree path)) :
    Notes settled (directory.withMissing tree path) grown := by
  have hfiles : (directory.withMissing tree path).createdFiles = directory.createdFiles ++ [] :=
    (List.append_nil _).symm
  apply h.extend hdescends hmade hfiles rfl (keeps_of_grown hgrown) (hgrown.standing h.standing)
  case hfiles => exact fun file hmem => absurd hmem List.not_mem_nil
  case hnewFile =>
    intro position hnone hkind
    rcases hgrown.node position with hsame | ⟨-, hdirectory, -⟩
    · rw [kind?, hsame, hnone] at hkind
      cases hkind
    · rw [kind?, hdirectory] at hkind
      cases hkind
  case hnewDirectory =>
    intro position hnone hkind
    rcases hgrown.node position with hsame | ⟨-, -, hmem⟩
    · rw [kind?, hsame, hnone] at hkind
      cases hkind
    · exact hmem

theorem Notes.of_wrote {content : ByteArray} (h : Notes settled directory tree)
    (hmade : ∀ above ∈ directory.createdDirectories,
      tree.node? (above.place settled.workingDirectory) = some .directory)
    (hdescends : path.Descends) (hwrote : Wrote tree path content after) :
    Notes settled (directory.withWritten tree path) after := by
  obtain ⟨before, last, hsteps, hname⟩ := hwrote.ending
  have hexists := h.standing.existsAt_iff hdescends (.inl hwrote.ending)
    (isEmpty_eq_false_of_steps hsteps hname)
  apply h.extend hdescends hmade rfl rfl hwrote.keeps hwrote.standing
  case hfiles =>
    intro file hmem
    split at hmem
    · cases hmem
    · rename_i hmissing
      rw [List.mem_singleton.1 hmem]
      refine ⟨hdescends, hwrote.ending, ?_⟩
      cases hnode : tree.node? (path.place tree.workingDirectory) with
      | none => rfl
      | some node => exact absurd (hexists.2 (by simp [hnode])) hmissing
  case hnewFile =>
    intro position hnone hkind
    by_cases hplace : position = path.place tree.workingDirectory
    · subst hplace
      rw [if_neg fun hthere => hexists.1 hthere hnone]
      exact ⟨path, List.mem_cons_self, rfl⟩
    · rcases hwrote.elsewhere position hplace with hsame | ⟨-, hdirectory, -⟩
      · rw [kind?, hsame, hnone] at hkind
        cases hkind
      · rw [kind?, hdirectory] at hkind
        cases hkind
  case hnewDirectory =>
    intro position hnone hkind
    rw [kind?_eq_true] at hkind
    have hplace : position ≠ path.place tree.workingDirectory := by
      rintro rfl
      rw [hwrote.file] at hkind
      cases hkind
    rcases hwrote.elsewhere position hplace with hsame | ⟨-, -, hmem⟩
    · rw [hsame, hnone] at hkind
      cases hkind
    · exact hmem

/-! ## Sessions -/

namespace Session

/-- What holds between calls. -/
structure Sound (session : Session) : Prop where
  root : session.directory.root.Descends
  notes : Notes session.settled session.directory session.tree
  made : ∀ above ∈ session.directory.createdDirectories,
    session.tree.node? (above.place session.settled.workingDirectory) = some .directory
  node : ∀ position, session.tree.node? position = session.expected position

/-- Nothing is noted or written when a tree has just been settled. -/
theorem sound_of_settled (hstanding : tree.Standing) (hroot : directory.root.Descends)
    (hfiles : directory.createdFiles = []) (hdirectories : directory.createdDirectories = []) :
    Sound ⟨directory, tree, tree, []⟩ where
  root := hroot
  notes := notes_of_settled hstanding hfiles hdirectories
  made := by simp [hdirectories]
  node _ := rfl

theorem expected_of_wrote {content : ByteArray} (h : session.Sound) (hdescends : path.Descends)
    (hwrote : Wrote session.tree path content after) (position : Position) :
    after.node? position = expected
      ⟨directory, after, session.settled,
        (path.place session.tree.workingDirectory, content) :: session.written⟩ position := by
  have hbefore := h.node position
  unfold expected at hbefore ⊢
  by_cases hplace : position = path.place session.tree.workingDirectory
  · subst hplace
    rw [List.lookup_cons_self]
    exact hwrote.file
  · rw [List.lookup_cons, beq_false_of_ne hplace]
    dsimp only
    cases hlookup : session.written.lookup position with
    | some written =>
        rw [hlookup] at hbefore
        rcases hwrote.elsewhere position hplace with hsame | ⟨hnone, -⟩
        · rw [hsame, hbefore]
        · rw [hnone] at hbefore
          cases hbefore
    | none =>
        rw [hlookup] at hbefore
        rw [List.any_cons]
        by_cases hbelow : position <+: path.place session.tree.workingDirectory
        · rw [List.isPrefixOf_iff_prefix.2 hbelow]
          exact hwrote.above position hbelow hplace
        · have hsame : after.node? position = session.tree.node? position := by
            rcases hwrote.elsewhere position hplace with hsame | ⟨-, -, hmem⟩
            · exact hsame
            · obtain ⟨above, habove, rfl⟩ := List.mem_map.1 hmem
              exact absurd (missingIn_absent h.notes.standing hdescends habove).1.place hbelow
          have hbelow : position.isPrefixOf (path.place session.tree.workingDirectory) = false := by
            rw [← Bool.not_eq_true, List.isPrefixOf_iff_prefix]
            exact hbelow
          rw [hbelow, Bool.false_or, hsame]
          exact hbefore

theorem sound_of_wrote {content : ByteArray} (h : session.Sound) (hdescends : path.Descends)
    (hwrote : Wrote session.tree path content after) :
    Sound ⟨session.directory.withWritten session.tree path, after, session.settled,
      (path.place session.tree.workingDirectory, content) :: session.written⟩ where
  root := h.root
  notes := h.notes.of_wrote h.made hdescends hwrote
  made above hmem := by
    rcases List.mem_append.1 hmem with hmem | hmem
    · have hbefore := h.made above hmem
      have hplace : above.place session.settled.workingDirectory ≠
          path.place session.tree.workingDirectory :=
        fun hplace => hwrote.old (hplace ▸ hbefore)
      rcases hwrote.elsewhere _ hplace with hsame | ⟨hnone, -⟩
      · exact hsame.trans hbefore
      · cases hnone.symm.trans hbefore
    · have hplaces := hwrote.made (above.place session.tree.workingDirectory)
        (List.mem_map_of_mem hmem)
      rwa [h.notes.home] at hplaces
  node := expected_of_wrote h hdescends hwrote

/-- A write that fails leaves the files and directories of the settled tree, with what was written
to those files since. -/
theorem node?_rolledBack {grown : FileTree} (h : session.Sound) (hdescends : path.Descends)
    (hgrown : Grown session.tree grown (missingPlaces session.tree path)) (position : Position) :
    ((session.directory.withMissing session.tree path).rolledBack grown).2.node? position =
      (session.settled.node? position).map (session.overwritten position) := by
  have hrestored := rollBack_restored (h.notes.of_grown h.made hdescends hgrown)
  cases hsettled : session.settled.node? position with
  | none => exact hrestored.gone position hsettled
  | some node =>
      have hkept : session.settled.node? position ≠ none := by simp [hsettled]
      have hkind := h.notes.kept position hkept
      have hexpected := h.node position
      rw [Option.map_some]
      refine (hrestored.kept position hkept).trans (hgrown.node_of_some ?_)
      cases node with
      | directory =>
          rw [kind?_eq_true.2 hsettled] at hkind
          exact kind?_eq_true.1 hkind
      | file old =>
          rw [kind?_eq_false.2 ⟨old, hsettled⟩] at hkind
          obtain ⟨content, hnode⟩ := kind?_eq_false.1 hkind
          rw [hexpected, overwritten]
          unfold expected at hexpected ⊢
          cases hlookup : session.written.lookup position with
          | some written => rfl
          | none =>
              rw [hlookup, hnode] at hexpected
              dsimp only at hexpected ⊢
              split at hexpected
              · cases hexpected
              · rename_i hnotAbove
                rw [if_neg hnotAbove, hsettled]
                rfl

theorem Sound.join_descends (h : session.Sound) {file : SourceFile} (hfile : file.path.NeverUp) :
    (session.directory.root.join file.path).Descends :=
  descends_join h.root hfile.descends

/-- A directory that was rolled back has settled. -/
theorem sound_rolledBack {grown : FileTree} (h : session.Sound) (hdescends : path.Descends)
    (hgrown : Grown session.tree grown (missingPlaces session.tree path)) :
    Sound ⟨((session.directory.withMissing session.tree path).rolledBack grown).1,
      ((session.directory.withMissing session.tree path).rolledBack grown).2,
      ((session.directory.withMissing session.tree path).rolledBack grown).2, []⟩ := by
  have hrestored := rollBack_restored (h.notes.of_grown h.made hdescends hgrown)
  apply sound_of_settled hrestored.standing
  all_goals rw [rolledBack, rollBack_run]
  exact h.root

theorem sound_step {call : Call} (h : session.Sound)
    (hcall : ∀ file, call = .write file → file.path.NeverUp) : (session.step call).Sound := by
  cases call with
  | finish => exact sound_of_settled h.notes.standing h.root rfl rfl
  | write file =>
      have hdescends := h.join_descends (hcall file rfl)
      change (session.write file).Sound
      unfold write
      rcases write_cases session.directory file h.notes.standing hdescends with
        ⟨after, hrun, hwrote⟩ | ⟨failure, grown, hrun, hgrown⟩
      · have hsink : sink.write file session.directory session.tree = _ := hrun
        rw [hsink]
        exact sound_of_wrote h hdescends hwrote
      · have hsink : sink.write file session.directory session.tree = _ := hrun
        rw [hsink]
        exact sound_rolledBack h hdescends hgrown

theorem sound_run {root : Path} {calls : List Call} (hstanding : tree.Standing)
    (hroot : root.NeverUp) (hcalls : ∀ file, .write file ∈ calls → file.path.NeverUp) :
    (run root tree calls).Sound := by
  have hsteps : ∀ session : Session, session.Sound → (calls.foldl step session).Sound := by
    induction calls with
    | nil => exact fun _ h => h
    | cons call rest ih =>
        intro session h
        apply ih fun file hmem => hcalls file (List.mem_cons_of_mem _ hmem)
        exact sound_step h fun file heq => hcalls file (heq ▸ List.mem_cons_self)
  exact hsteps (start root tree) (sound_of_settled hstanding hroot.descends rfl rfl)

/-- In whatever way a sink in a directory was called, the tree is the one that was last settled with
what was written since.  A write that fails then leaves nothing written, and the files and
directories of the settled tree, the files with what was last written to them. -/
theorem rollBack_exact {root : Path} {calls : List Call} (hstanding : tree.Standing)
    (hroot : root.NeverUp) (hcalls : ∀ file, .write file ∈ calls → file.path.NeverUp) :
    (∀ position, (run root tree calls).tree.node? position =
      (run root tree calls).expected position) ∧
    ∀ file, file.path.NeverUp → ∀ failure directory after,
      sink.write file (run root tree calls).directory (run root tree calls).tree =
        ((.error failure, directory), after) →
      directory.written = [] ∧ ∀ position, after.node? position =
        ((run root tree calls).settled.node? position).map
          ((run root tree calls).overwritten position) := by
  have h := sound_run hstanding hroot hcalls
  refine ⟨h.node, fun file hfile failure directory after hwrite => ?_⟩
  have hdescends := h.join_descends hfile
  rcases write_cases _ file h.notes.standing hdescends with
    ⟨written, hrun, -⟩ | ⟨other, grown, hrun, hgrown⟩
  · have hsink : sink.write file _ _ = _ := hrun
    rw [hsink] at hwrite
    cases hwrite
  · have hsink : sink.write file _ _ = _ := hrun
    rw [hsink] at hwrite
    cases hwrite
    exact ⟨by rw [rolledBack, rollBack_run], node?_rolledBack h hdescends hgrown⟩

/-- A tree with one file, which turns down the twelfth attempt to make something. -/
def crowded : FileTree where
  workingDirectory := ["home"]
  nodes := [(["home"], .directory), (["home", "out"], .directory),
    (["home", "out", "Kept.java"], .file "old".toUTF8)]
  refusals := List.replicate 11 none ++ [some (.other "No space left on device (os error 28)")]

/-- A file in new directories, then the one that was there, then the first once more. -/
def overwriting : List Call :=
  [.write ⟨"A", ⟨"a/b/A.java"⟩, "first"⟩, .write ⟨"Kept", ⟨"Kept.java"⟩, "new"⟩,
    .write ⟨"A", ⟨"a/b/A.java"⟩, "second"⟩]

/-- The directory `c` is made and `c/d` is not: neither is left, and nor is what was written
before. -/
theorem rollBack_exact_crowded :
    crowded.Standing ∧ (⟨"out"⟩ : Path).NeverUp ∧
      (run ⟨"out"⟩ crowded overwriting).tree.node? ["home", "out", "a", "b", "A.java"] =
        some (.file "second".toUTF8) ∧
      ∃ failure directory after,
        sink.write ⟨"B", ⟨"c/d/e/B.java"⟩, "b"⟩ (run ⟨"out"⟩ crowded overwriting).directory
          (run ⟨"out"⟩ crowded overwriting).tree = ((.error failure, directory), after) ∧
        directory.written = [] ∧
        after.node? ["home", "out", "c"] = none ∧ after.node? ["home", "out", "a"] = none ∧
        after.node? ["home", "out", "Kept.java"] = some (.file "new".toUTF8) := by
  have hstanding : crowded.Standing := by decide
  have hroot : (⟨"out"⟩ : Path).NeverUp := by decide
  have hcalls : ∀ file, .write file ∈ overwriting → file.path.NeverUp := by
    intro file hmem
    simp only [overwriting, List.mem_cons, Call.write.injEq, List.not_mem_nil, or_false] at hmem
    rcases hmem with rfl | rfl | rfl <;> decide
  obtain ⟨hnode, hfail⟩ := rollBack_exact hstanding hroot hcalls
  refine ⟨hstanding, hroot, (hnode _).trans rfl, _, _, _, rfl, ?_⟩
  obtain ⟨hwritten, hafter⟩ := hfail ⟨"B", ⟨"c/d/e/B.java"⟩, "b"⟩ (by decide) _ _ _ rfl
  exact ⟨hwritten, (hafter _).trans rfl, (hafter _).trans rfl, (hafter _).trans rfl⟩

end Session

end Exemplar.Directory
