import Exemplar.Proofs.Disk.Standing

/-!
# Making directories

Making a directory and those above it adds directories to a tree and changes nothing else, whether
it succeeds, stops halfway or is turned down.  Every directory that it adds is one of the ancestors
it was asked to go through.
-/

namespace Exemplar.FileTree

open Exemplar.Path

variable {tree grown : FileTree} {path : Path}

/-- What may have changed when directories were made: some of them came up where nothing was. -/
structure Grown (tree grown : FileTree) (made : List Position) : Prop where
  home : grown.workingDirectory = tree.workingDirectory
  standing : tree.Standing → grown.Standing
  node : ∀ position, grown.node? position = tree.node? position ∨
    tree.node? position = none ∧ grown.node? position = some .directory ∧ position ∈ made

theorem Grown.refl (tree : FileTree) (made : List Position) : Grown tree tree made :=
  ⟨rfl, id, fun _ => .inl rfl⟩

theorem Grown.trans {other : FileTree} {made : List Position} (h : Grown tree grown made)
    (hother : Grown grown other made) : Grown tree other made := by
  refine ⟨hother.home.trans h.home, fun hstanding => hother.standing (h.standing hstanding), ?_⟩
  intro position
  rcases hother.node position with hsame | ⟨hnone, hmade⟩
  · rw [hsame]
    exact h.node position
  · rcases h.node position with hsame | ⟨-, hdirectory, -⟩
    · exact .inr ⟨hsame ▸ hnone, hmade⟩
    · rw [hnone] at hdirectory
      cases hdirectory

theorem Grown.mono {made more : List Position} (h : Grown tree grown made)
    (hsub : ∀ position ∈ made, position ∈ more) : Grown tree grown more := by
  refine ⟨h.home, h.standing, fun position => (h.node position).imp_right ?_⟩
  exact fun ⟨hnone, hdirectory, hmem⟩ => ⟨hnone, hdirectory, hsub position hmem⟩

/-- What was there is still there. -/
theorem Grown.node_of_some {made : List Position} {position : Position} {node : Node}
    (h : Grown tree grown made) (hnode : tree.node? position = some node) :
    grown.node? position = some node := by
  rcases h.node position with hsame | ⟨hnone, -⟩
  · rw [hsame, hnode]
  · rw [hnone] at hnode
    cases hnode

theorem keeps_of_grown {made : List Position} (h : Grown tree grown made) : Keeps tree grown := by
  refine ⟨h.home, fun position hnode => ?_⟩
  rcases h.node position with hsame | ⟨hnone, -⟩
  · rw [kind?, kind?, hsame]
  · exact absurd hnone hnode

/-- An operation that is attempted fails, or changes a tree that differs in nothing but what is
turned down next. -/
theorem attempt_cases (operation : FileTree → Except FileFault FileTree) (tree : FileTree) :
    ∃ refusals,
      (∃ fault, attempt operation tree = (.error fault, { tree with refusals })) ∨
      ∃ changed, operation { tree with refusals } = .ok changed ∧
        attempt operation tree = (.ok (), changed) := by
  have hchange : ∀ base : FileTree,
      (∃ fault, change operation base = (.error fault, base)) ∨
        ∃ changed, operation base = .ok changed ∧ change operation base = (.ok (), changed) := by
    intro base
    unfold change
    cases operation base with
    | error fault => exact .inl ⟨fault, rfl⟩
    | ok changed => exact .inr ⟨changed, rfl, rfl⟩
  obtain ⟨workingDirectory, nodes, refusals⟩ := tree
  unfold attempt
  cases refusals with
  | nil => exact ⟨[], hchange _⟩
  | cons refusal rest =>
      cases refusal with
      | none => exact ⟨rest, hchange _⟩
      | some fault => exact ⟨rest, .inl ⟨fault, rfl⟩⟩

theorem grown_refusals (tree : FileTree) (refusals : List (Option FileFault))
    (made : List Position) : Grown tree { tree with refusals } made :=
  ⟨rfl, fun h => ⟨h.home, h.above⟩, fun _ => .inl rfl⟩

theorem grown_of_makeDirectory (h : tree.makeDirectory path = .ok grown) :
    Grown tree grown [path.place tree.workingDirectory] ∧
      grown.node? (path.place tree.workingDirectory) = some .directory := by
  obtain ⟨rfl, hnone, before, last, hends⟩ := makeDirectory_eq_ok h
  have hplace := hends.place
  have hne : path.place tree.workingDirectory ≠ [] := by simp [hplace]
  have hput := node?_put hne .directory tree
  have hparent := (leads_append.1 hends.leads).2.1
  refine ⟨⟨rfl, fun hstanding => ?_, fun position => ?_⟩, by rw [hput, if_pos rfl]⟩
  · rw [hplace] at hnone ⊢
    exact hstanding.put hparent (by simp [hnone])
  · rw [hput]
    split
    · rename_i heq
      exact .inr ⟨heq ▸ hnone, rfl, by simp [heq]⟩
    · exact .inl rfl

/-- An operation that changes a tree, or fails. -/
abbrev Action := StateM FileTree (Except FileFault Unit)

/-- How an action that is to make a directory at a place, and perhaps others, leaves a tree. -/
structure Makes (action : Action) (tree : FileTree)
    (place : Position) (made : List Position) : Prop where
  grown : Grown tree (action tree).2 made
  done : (action tree).1 = .ok () → (action tree).2.node? place = some .directory

theorem Makes.of_run {action : Action} {place : Position} {made : List Position}
    {result : Except FileFault Unit} (hrun : action tree = (result, grown))
    (hgrown : Grown tree grown made)
    (hdone : result = .ok () → grown.node? place = some .directory) :
    Makes action tree place made := by
  constructor
  · rw [hrun]
    exact hgrown
  · rw [hrun]
    exact hdone

theorem makeDirectory_makes (path : Path) (tree : FileTree) :
    Makes (Disk.makeDirectory path) tree (path.place tree.workingDirectory)
      [path.place tree.workingDirectory] := by
  change Makes (attempt (·.makeDirectory path)) _ _ _
  obtain ⟨refusals, ⟨fault, heq⟩ | ⟨changed, hchanged, heq⟩⟩ :=
    attempt_cases (·.makeDirectory path) tree
  · exact Makes.of_run heq (grown_refusals tree refusals _) fun h => nomatch h
  · obtain ⟨hgrown, hdirectory⟩ := grown_of_makeDirectory hchanged
    exact Makes.of_run heq ((grown_refusals tree refusals _).trans hgrown) fun _ => hdirectory

theorem isDirectoryAt_node? (h : tree.isDirectoryAt path = true) :
    tree.node? (path.place tree.workingDirectory) = some .directory := by
  unfold isDirectoryAt at h
  split at h
  · rename_i position hlocate
    unfold locate at hlocate
    rw [start_eq] at hlocate
    cases hempty : path.text.isEmpty with
    | true =>
        rw [hempty] at hlocate
        cases hlocate
    | false =>
        rw [hempty] at hlocate
        obtain ⟨place, hfollow, hlocate⟩ := bind_eq_ok hlocate
        obtain ⟨-, rfl⟩ := follow_eq_ok_iff.1 hfollow
        split at hlocate
        · cases hlocate
        · rename_i node hnode
          cases hlocate
          exact hnode
  · cases h

/-- A directory that cannot be made has to be there. -/
theorem makes_of_fault {action : Action} {place : Position} {made : List Position}
    {fault : FileFault}
    (hgrown : Grown tree grown made) (hplace : place = path.place tree.workingDirectory)
    (haction : action tree =
      (if grown.isDirectoryAt path then .ok () else .error fault, grown)) :
    Makes action tree place made := by
  apply Makes.of_run haction hgrown
  rw [hplace, ← hgrown.home]
  split
  · rename_i hdirectory
    exact fun _ => isDirectoryAt_node? hdirectory
  · exact fun h => nomatch h

theorem run_bind {α β : Type} (first : StateM FileTree α) (second : α → StateM FileTree β)
    (tree : FileTree) : (first >>= second) tree = second (first tree).1 (first tree).2 := rfl

theorem ensureDirectory_run (path : Path) (tree : FileTree) :
    (Disk.ensureDirectory path : Action) tree =
      match (Disk.makeDirectory path : Action) tree with
      | (.ok (), changed) => (.ok (), changed)
      | (.error fault, changed) =>
          (if changed.isDirectoryAt path then .ok () else .error fault, changed) := by
  rw [Disk.ensureDirectory, run_bind]
  rcases (Disk.makeDirectory path : Action) tree with ⟨_ | _, changed⟩ <;> rfl

theorem ensureDirectory_makes (path : Path) (tree : FileTree) :
    Makes (Disk.ensureDirectory path) tree (path.place tree.workingDirectory)
      [path.place tree.workingDirectory] := by
  have hmakes := makeDirectory_makes path tree
  have hrun := ensureDirectory_run path tree
  obtain ⟨hgrown, hdone⟩ := hmakes
  cases hmade : (Disk.makeDirectory path : Action) tree with
  | mk result changed =>
      rw [hmade] at hgrown hdone hrun
      cases result with
      | ok done => exact Makes.of_run hrun hgrown hdone
      | error fault => exact makes_of_fault hgrown rfl hrun

theorem createFirst_run (path : Path) (above : List Path) (tree : FileTree) :
    (Disk.createFirst (path :: above) : Action) tree =
      if path.text.isEmpty then (.ok (), tree)
      else match (Disk.makeDirectory path : Action) tree with
      | (.ok (), changed) => (.ok (), changed)
      | (.error .notFound, changed) =>
          match (Disk.createFirst above : Action) changed with
          | (.error fault, changed) => (.error fault, changed)
          | (.ok (), changed) => (Disk.ensureDirectory path : Action) changed
      | (.error fault, changed) =>
          (if changed.isDirectoryAt path then .ok () else .error fault, changed) := by
  rw [Disk.createFirst]
  split
  · rfl
  · rw [run_bind]
    rcases (Disk.makeDirectory path : Action) tree with ⟨fault | _, changed⟩
    · cases fault <;> try rfl
      dsimp only
      rw [run_bind]
      rcases (Disk.createFirst above : Action) changed with ⟨_ | _, changed⟩ <;> rfl
    · rfl

/-- The places of the paths that are gone through before the first empty one. -/
def placesOf (home : Position) (paths : List Path) : List Position :=
  (paths.takeWhile (!·.text.isEmpty)).map (·.place home)

theorem placesOf_cons (h : path.text.isEmpty = false) (home : Position) (above : List Path) :
    placesOf home (path :: above) = path.place home :: placesOf home above := by
  rw [placesOf, List.takeWhile_cons_of_pos (by simp [h]), List.map_cons, placesOf]

theorem createFirst_cons_makes {above : List Path} (hempty : path.text.isEmpty = false)
    (habove : ∀ tree, Grown tree ((Disk.createFirst above : Action) tree).2
      (placesOf tree.workingDirectory above)) (tree : FileTree) :
    Makes (Disk.createFirst (path :: above)) tree (path.place tree.workingDirectory)
      (placesOf tree.workingDirectory (path :: above)) := by
  rw [placesOf_cons hempty]
  have hrun := createFirst_run path above tree
  rw [hempty, if_neg Bool.false_ne_true] at hrun
  obtain ⟨hgrown, hdone⟩ := makeDirectory_makes path tree
  have hfirst : Grown tree ((Disk.makeDirectory path : Action) tree).2
      (path.place tree.workingDirectory :: placesOf tree.workingDirectory above) :=
    hgrown.mono (by simp)
  rcases hmade : (Disk.makeDirectory path : Action) tree with ⟨fault | done, changed⟩
  · rw [hmade] at hrun hfirst
    cases fault
    case notFound =>
      dsimp only at hrun hfirst
      have hnext := habove changed
      rw [hfirst.home] at hnext
      have hgrown := hfirst.trans (hnext.mono fun _ => List.mem_cons_of_mem _)
      rcases hnext : (Disk.createFirst above : Action) changed with ⟨fault | done, grown⟩
      · rw [hnext] at hrun hgrown
        exact Makes.of_run hrun hgrown fun h => nomatch h
      · rw [hnext] at hrun hgrown
        obtain ⟨hlast, hdone⟩ := ensureDirectory_makes path grown
        rw [hgrown.home] at hlast hdone
        exact Makes.of_run hrun (hgrown.trans (hlast.mono (by simp))) hdone
    all_goals exact makes_of_fault hfirst rfl hrun
  · rw [hmade] at hrun hfirst hdone
    exact Makes.of_run hrun hfirst hdone

theorem createFirst_grown (paths : List Path) (tree : FileTree) :
    Grown tree ((Disk.createFirst paths : Action) tree).2
      (placesOf tree.workingDirectory paths) := by
  induction paths generalizing tree with
  | nil => exact Grown.refl tree _
  | cons path above ih =>
      cases hempty : path.text.isEmpty with
      | true =>
          rw [createFirst_run, hempty]
          exact Grown.refl tree _
      | false => exact (createFirst_cons_makes hempty ih tree).grown

theorem exists_ancestors_eq (path : Path) : ∃ above, path.ancestors = path :: above := by
  unfold ancestors
  cases path.segments.length with
  | zero => exact ⟨[], rfl⟩
  | succ fuel =>
      rw [ancestorsFrom]
      split <;> exact ⟨_, rfl⟩

theorem createDirectories_grown (path : Path) (tree : FileTree) :
    Grown tree ((Disk.createDirectories path : Action) tree).2
      (placesOf tree.workingDirectory path.ancestors) :=
  createFirst_grown path.ancestors tree

theorem createDirectories_done (hempty : path.text.isEmpty = false)
    (h : ((Disk.createDirectories path : Action) tree).1 = .ok ()) :
    ((Disk.createDirectories path : Action) tree).2.node?
      (path.place tree.workingDirectory) = some .directory := by
  obtain ⟨above, habove⟩ := exists_ancestors_eq path
  rw [Disk.createDirectories, habove] at h ⊢
  exact (createFirst_cons_makes hempty (createFirst_grown above) tree).done h

end Exemplar.FileTree
