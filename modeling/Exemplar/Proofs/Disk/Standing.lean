import Exemplar.Proofs.Disk.Descents

/-!
# Trees in which everything stands in a directory

The file trees that a run can find: the working directory is a directory, and so is whatever
something stands in.  Making and removing one thing at a time keeps a tree like that.  In such a
tree a path that only goes down leads to whatever is at its place.  A change that only makes things,
or overwrites a file, keeps what there is as what it is.
-/

namespace Exemplar.FileTree

open Exemplar.Path

variable {tree after : FileTree} {path : Path} {position other : Position}

/-- Whether what is at a position is a directory. -/
def kind? (tree : FileTree) (position : Position) : Option Bool :=
  (tree.node? position).map fun
    | .directory => true
    | .file _ => false

theorem kind?_eq_none : tree.kind? position = none ↔ tree.node? position = none :=
  Option.map_eq_none_iff

theorem kind?_eq_true :
    tree.kind? position = some true ↔ tree.node? position = some .directory := by
  unfold kind?
  rcases tree.node? position with _ | _ | content <;> simp

theorem kind?_eq_false :
    tree.kind? position = some false ↔ ∃ content, tree.node? position = some (.file content) := by
  unfold kind?
  rcases tree.node? position with _ | _ | content <;> simp

/-! ## What is kept -/

/-- Files stay files and directories stay directories. -/
structure Keeps (tree after : FileTree) : Prop where
  home : after.workingDirectory = tree.workingDirectory
  kind : ∀ position, tree.node? position ≠ none → after.kind? position = tree.kind? position

theorem Keeps.refl (tree : FileTree) : Keeps tree tree := ⟨rfl, fun _ _ => rfl⟩

theorem Keeps.node?_ne_none (h : Keeps tree after) {position : Position}
    (hnode : tree.node? position ≠ none) : after.node? position ≠ none := by
  intro hnone
  have hkind := h.kind position hnode
  rw [kind?_eq_none.2 hnone] at hkind
  exact hnode (kind?_eq_none.1 hkind.symm)

theorem Keeps.trans (h : Keeps tree after) {later : FileTree} (hlater : Keeps after later) :
    Keeps tree later := by
  refine ⟨hlater.home.trans h.home, fun position hnode => ?_⟩
  rw [hlater.kind position (h.node?_ne_none hnode), h.kind position hnode]

/-- A change of a tree that puts a file where no directory is keeps what there is. -/
theorem keeps_of_overwrite {place : Position} {content : ByteArray}
    (hhome : after.workingDirectory = tree.workingDirectory)
    (hold : tree.node? place ≠ some .directory)
    (hfile : after.node? place = some (.file content))
    (hsame : ∀ position, position ≠ place → tree.node? position ≠ none →
      after.node? position = tree.node? position) : Keeps tree after := by
  refine ⟨hhome, fun position hnode => ?_⟩
  by_cases hplace : position = place
  · subst hplace
    rw [kind?_eq_false.2 ⟨content, hfile⟩]
    cases hthere : tree.node? position with
    | none => exact absurd hthere hnode
    | some node =>
        cases node with
        | directory => exact absurd hthere hold
        | file old => exact (kind?_eq_false.2 ⟨old, hthere⟩).symm
  · rw [kind?, kind?, hsame position hplace hnode]

/-! ## Everything stands in a directory -/

/-- The working directory is there, and everything stands in a directory. -/
structure Standing (tree : FileTree) : Prop where
  home : tree.node? tree.workingDirectory = some .directory
  above : ∀ position name,
    tree.node? (position ++ [name]) ≠ none → tree.node? position = some .directory

/-- Whether everything stands in a directory can be read off the table of the tree. -/
theorem standing_iff :
    tree.Standing ↔ tree.kind? tree.workingDirectory = some true ∧
      ∀ entry ∈ tree.nodes, tree.kind? entry.1.dropLast = some true := by
  constructor
  · intro h
    refine ⟨kind?_eq_true.2 h.home, fun entry hmem => kind?_eq_true.2 ?_⟩
    rcases List.eq_nil_or_concat entry.1 with hnil | ⟨before, name, hname⟩
    · rw [hnil]
      exact node?_nil tree
    · rw [hname, List.concat_eq_append, List.dropLast_concat]
      apply h.above before name
      rw [← List.concat_eq_append, ← hname, node?_of_ne_nil _ (by simp [hname]), ne_eq,
        List.lookup_eq_none_iff]
      exact fun hall => absurd (hall entry hmem) (by simp)
  · rintro ⟨hhome, hentries⟩
    refine ⟨kind?_eq_true.1 hhome, fun position name hnode => ?_⟩
    rw [node?_of_ne_nil _ (by simp), ne_eq, List.lookup_eq_none_iff] at hnode
    obtain ⟨entry, hentry⟩ := Classical.not_forall.1 hnode
    obtain ⟨hmem, heq⟩ := Classical.not_imp.1 hentry
    have hplace : position ++ [name] = entry.1 := by simpa using heq
    have hparent := hentries entry hmem
    rw [← hplace, List.dropLast_concat] at hparent
    exact kind?_eq_true.1 hparent

instance (tree : FileTree) : Decidable tree.Standing :=
  decidable_of_iff _ standing_iff.symm

theorem Standing.directory_of_append (h : tree.Standing) {names : Position} (hne : names ≠ [])
    (hnode : tree.node? (position ++ names) ≠ none) : tree.node? position = some .directory := by
  induction names generalizing position with
  | nil => exact absurd rfl hne
  | cons name rest ih =>
      apply h.above position name
      cases rest with
      | nil => exact hnode
      | cons next others =>
          have hdirectory : tree.node? (position ++ [name]) = some .directory :=
            ih (List.cons_ne_nil _ _) (by simpa using hnode)
          simp [hdirectory]

theorem Standing.directory_above (h : tree.Standing) (hbelow : position <+: other)
    (hne : position ≠ other) (hnode : tree.node? other ≠ none) :
    tree.node? position = some .directory := by
  obtain ⟨names, rfl⟩ := hbelow
  exact h.directory_of_append (fun hnil => hne (by rw [hnil, List.append_nil])) hnode

theorem Standing.directory_of_directory (h : tree.Standing) (hbelow : position <+: other)
    (hnode : tree.node? other = some .directory) : tree.node? position = some .directory := by
  by_cases heq : position = other
  · rwa [heq]
  · exact h.directory_above hbelow heq (by simp [hnode])

theorem Standing.origin (h : tree.Standing) (path : Path) :
    tree.node? (path.origin tree.workingDirectory) = some .directory := by
  unfold Path.origin
  split
  · exact node?_nil tree
  · exact h.home

/-! ## One change at a time -/

theorem Standing.put (h : tree.Standing) {node : Node} {name : String}
    (hparent : tree.node? position = some .directory)
    (hplace : tree.node? (position ++ [name]) ≠ some .directory) :
    (tree.put (position ++ [name]) node).Standing := by
  have hput := node?_put (List.append_ne_nil_of_right_ne_nil position (List.cons_ne_nil name []))
    node tree
  -- What was a directory still is one, since the place of the new node was none.
  have hkept : ∀ other, tree.node? other = some .directory →
      (tree.put (position ++ [name]) node).node? other = some .directory := by
    intro other hother
    rw [hput, if_neg, hother]
    rintro rfl
    exact hplace hother
  constructor
  · exact hkept _ h.home
  · intro other last hnode
    rw [hput] at hnode
    apply hkept
    split at hnode
    · rename_i heq
      rwa [List.append_inj_left' heq rfl]
    · exact h.above other last hnode

theorem Standing.erase (h : tree.Standing) (hne : position ≠ [])
    (hhome : position ≠ tree.workingDirectory)
    (hvacant : ∀ name, tree.node? (position ++ [name]) = none) :
    (tree.erase position).Standing := by
  have herase := node?_erase hne tree
  constructor
  · refine (herase tree.workingDirectory).trans ?_
    rw [if_neg (Ne.symm hhome), h.home]
  · intro other name hnode
    rw [herase] at hnode ⊢
    split at hnode
    · exact absurd rfl hnode
    · rw [if_neg, h.above other name hnode]
      rintro rfl
      exact hnode (hvacant name)

/-! ## Paths that only go down -/

theorem Standing.leads_of_directory (h : tree.Standing) {segments : List (List Char)}
    (hdescends : ['.', '.'] ∉ segments)
    (hnode : tree.node? (walk position segments) = some .directory) :
    tree.Leads position segments := by
  induction segments generalizing position with
  | nil => trivial
  | cons segment rest ih =>
      refine ⟨h.directory_of_directory (prefix_walk hdescends position) hnode, ?_⟩
      exact ih (fun hup => hdescends (List.mem_cons_of_mem _ hup)) hnode

theorem Standing.leads_of_endsWithName (h : tree.Standing) (hdescends : path.Descends)
    {before : List (List Char)} {last : List Char} (hsteps : path.steps = before ++ [last])
    (hname : IsName last) (hnode : tree.node? (path.place tree.workingDirectory) ≠ none) :
    tree.EndsIn path before last := by
  have hplace : path.place tree.workingDirectory =
      walk (path.origin tree.workingDirectory) before ++ [String.ofList last] := by
    rw [Path.place, hsteps, walk_append, walk_cons, stepFrom_name hname]
    rfl
  rw [hplace] at hnode
  have hbefore := h.above _ _ hnode
  have hup : ['.', '.'] ∉ before := by
    intro hmem
    apply hdescends
    apply mem_segments_of_mem_steps
    rw [hsteps]
    exact List.mem_append_left _ hmem
  exact ⟨hname, leads_append.2 ⟨h.leads_of_directory hup hbefore, hbefore, trivial⟩, hplace⟩

/-- A trim path that only goes down exists exactly if there is something at its place. -/
theorem Standing.existsAt_iff (h : tree.Standing) (hdescends : path.Descends)
    (htrim : path.IsTrim) (hempty : path.text.isEmpty = false) :
    tree.existsAt path = true ↔ tree.node? (path.place tree.workingDirectory) ≠ none := by
  rw [FileTree.existsAt_iff]
  refine ⟨fun hexists => hexists.2.2, fun hnode => ⟨hempty, ?_, hnode⟩⟩
  rcases htrim with ⟨before, last, hsteps, hname⟩ | hfillers
  · rw [hsteps]
    exact (h.leads_of_endsWithName hdescends hsteps hname hnode).leads
  · apply h.leads_of_directory (fun hup => hdescends (mem_segments_of_mem_steps hup))
    rw [walk_fillers hfillers]
    exact h.origin path

/-- A trim path at whose place nothing is ends with a name. -/
theorem Standing.endsWithName_of_absent (h : tree.Standing) (htrim : path.IsTrim)
    (hnode : tree.node? (path.place tree.workingDirectory) = none) : path.EndsWithName := by
  rcases htrim with hname | hfillers
  · exact hname
  · rw [Path.place, walk_fillers hfillers, h.origin path] at hnode
    cases hnode

end Exemplar.FileTree
