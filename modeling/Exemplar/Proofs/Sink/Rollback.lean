import Exemplar.Proofs.Sink.Writing

/-!
# Rolling a directory back

What a sink notes while it writes is enough to undo it: every file and every directory that a tree
has gained since it was last settled is noted, nothing noted was there before, and the directories
are noted in an order in which none comes after one that stands in it.  Removing what is noted, the
last first, therefore leaves exactly what was there.
-/

namespace Exemplar

namespace Directory

open FileTree Exemplar.Path

variable {settled tree after : FileTree} {directory noted : Directory} {path : Path}

/-! ## What is noted -/

/-- What a sink has noted of the changes that lead from a settled tree to another. -/
structure Notes (settled : FileTree) (directory : Directory) (tree : FileTree) : Prop where
  home : tree.workingDirectory = settled.workingDirectory
  settledStanding : settled.Standing
  standing : tree.Standing
  kept : ∀ position, settled.node? position ≠ none →
    tree.kind? position = settled.kind? position
  files : ∀ path ∈ directory.createdFiles, path.Descends ∧ path.EndsWithName ∧
    settled.node? (path.place settled.workingDirectory) = none
  directories : ∀ path ∈ directory.createdDirectories, path.Descends ∧ path.IsTrim ∧
    settled.node? (path.place settled.workingDirectory) = none
  /-- What came up is noted as what it is. -/
  newFile : ∀ position, settled.node? position = none → tree.kind? position = some false →
    ∃ path ∈ directory.createdFiles, path.place settled.workingDirectory = position
  newDirectory : ∀ position, settled.node? position = none → tree.kind? position = some true →
    ∃ path ∈ directory.createdDirectories, path.place settled.workingDirectory = position
  /-- No directory is noted after one that stands in it. -/
  order : directory.createdDirectories.Pairwise fun first later =>
    later.place settled.workingDirectory <+: first.place settled.workingDirectory →
      later.place settled.workingDirectory = first.place settled.workingDirectory

theorem Notes.keeps (h : Notes settled directory tree) : Keeps settled tree :=
  ⟨h.home, h.kept⟩

/-- Nothing needs to be noted of a tree that has just been settled. -/
theorem notes_of_settled (h : settled.Standing) (hfiles : directory.createdFiles = [])
    (hdirectories : directory.createdDirectories = []) : Notes settled directory settled where
  home := rfl
  settledStanding := h
  standing := h
  kept _ _ := rfl
  files := by simp [hfiles]
  directories := by simp [hdirectories]
  newFile position hnone hkind := by simp [kind?, hnone] at hkind
  newDirectory position hnone hkind := by simp [kind?, hnone] at hkind
  order := by simp [hdirectories]

/-- Notes are still complete when the missing directories of a path are added to them, and the files
that came up, provided that all noted directories were there. -/
theorem Notes.extend (h : Notes settled directory tree) (hdescends : path.Descends)
    (hmade : ∀ above ∈ directory.createdDirectories,
      tree.node? (above.place settled.workingDirectory) = some .directory)
    {files : List Path} (hcreatedFiles : noted.createdFiles = directory.createdFiles ++ files)
    (hcreatedDirectories :
      noted.createdDirectories = directory.createdDirectories ++ missingIn tree path)
    (hkeeps : Keeps tree after) (hstanding : after.Standing)
    (hfiles : ∀ file ∈ files, file.Descends ∧ file.EndsWithName ∧
      tree.node? (file.place tree.workingDirectory) = none)
    (hnewFile : ∀ position, tree.node? position = none → after.kind? position = some false →
      ∃ file ∈ files, file.place tree.workingDirectory = position)
    (hnewDirectory : ∀ position, tree.node? position = none → after.kind? position = some true →
      position ∈ missingPlaces tree path) : Notes settled noted after := by
  -- Nothing is in the settled tree where nothing is in the tree of now.
  have habsent : ∀ position, tree.node? position = none → settled.node? position = none :=
    fun position hnone => Classical.not_not.1 fun hnode => h.keeps.node?_ne_none hnode hnone
  have hmissing : ∀ above ∈ missingIn tree path, _ :=
    fun above => missingIn_absent h.standing hdescends
  rw [h.home] at hfiles hnewFile hmissing
  constructor
  case home => exact hkeeps.home.trans h.home
  case settledStanding => exact h.settledStanding
  case standing => exact hstanding
  case kept => exact (h.keeps.trans hkeeps).kind
  case files =>
    intro file hmem
    rw [hcreatedFiles] at hmem
    rcases List.mem_append.1 hmem with hmem | hmem
    · exact h.files file hmem
    · obtain ⟨hdescends, hname, hnone⟩ := hfiles file hmem
      exact ⟨hdescends, hname, habsent _ hnone⟩
  case directories =>
    intro above hmem
    rw [hcreatedDirectories] at hmem
    rcases List.mem_append.1 hmem with hmem | hmem
    · exact h.directories above hmem
    · obtain ⟨hbelow, hnone⟩ := hmissing above hmem
      exact ⟨hbelow.descends, hbelow.trim, habsent _ hnone⟩
  case newFile =>
    intro position hsettled hkind
    rw [hcreatedFiles]
    by_cases hnone : tree.node? position = none
    · obtain ⟨file, hmem, hplace⟩ := hnewFile position hnone hkind
      exact ⟨file, List.mem_append_right _ hmem, hplace⟩
    · rw [hkeeps.kind position hnone] at hkind
      obtain ⟨file, hmem, hplace⟩ := h.newFile position hsettled hkind
      exact ⟨file, List.mem_append_left _ hmem, hplace⟩
  case newDirectory =>
    intro position hsettled hkind
    rw [hcreatedDirectories]
    by_cases hnone : tree.node? position = none
    · obtain ⟨above, hmem, hplace⟩ := List.mem_map.1 (hnewDirectory position hnone hkind)
      rw [h.home] at hplace
      exact ⟨above, List.mem_append_right _ hmem, hplace⟩
    · rw [hkeeps.kind position hnone] at hkind
      obtain ⟨above, hmem, hplace⟩ := h.newDirectory position hsettled hkind
      exact ⟨above, List.mem_append_left _ hmem, hplace⟩
  case order =>
    rw [hcreatedDirectories, List.pairwise_append]
    refine ⟨h.order, ?_, ?_⟩
    · apply (missingIn_pairwise tree hdescends settled.workingDirectory).imp
      intro upper lower hupper hlower
      exact hlower.eq_of_length_le hupper.length_le
    · intro first hfirst later hlater hbelow
      have hnone := (hmissing later hlater).2
      by_cases heq : later.place settled.workingDirectory = first.place settled.workingDirectory
      · exact heq
      · rw [h.standing.directory_above hbelow heq (by simp [hmade first hfirst])] at hnone
        cases hnone

/-! ## Removing what is noted -/

/-- What an operation makes of a tree, which stays as it is if the operation fails. -/
def removed (operation : FileTree → Path → Except FileFault FileTree) (tree : FileTree)
    (path : Path) : FileTree :=
  match operation tree path with
  | .ok changed => changed
  | .error _ => tree

theorem removals_run (operation : FileTree → Path → Except FileFault FileTree) (paths : List Path)
    (tree : FileTree) :
    (paths.forM fun path => discard (change (operation · path)) : StateM FileTree PUnit) tree =
      ((), paths.foldl (removed operation) tree) := by
  induction paths generalizing tree with
  | nil => rfl
  | cons path rest ih =>
      have hchange : (discard (change (operation · path)) : StateM FileTree PUnit) tree =
          ((), removed operation tree path) := by
        have hdiscard : (discard (change (operation · path)) : StateM FileTree PUnit) tree =
            ((), (change (operation · path) tree).2) := rfl
        rw [hdiscard, change, removed]
        cases operation tree path <;> rfl
      rw [List.forM, run_bind, hchange, ih]
      rfl

theorem rollBack_run (directory : Directory) (tree : FileTree) :
    (directory.rollBack : StateM FileTree Directory) tree =
      (⟨directory.root, [], [], []⟩,
        directory.createdDirectories.reverse.foldl (removed removeDirectory)
          (directory.createdFiles.reverse.foldl (removed removeFile) tree)) := by
  have hfiles := removals_run removeFile directory.createdFiles.reverse tree
  have hdirectories := removals_run removeDirectory directory.createdDirectories.reverse
    (directory.createdFiles.reverse.foldl (removed removeFile) tree)
  rw [rollBack, run_bind]
  change (_, ((directory.createdDirectories.reverse.forM fun path =>
    discard (change (·.removeDirectory path)) : StateM FileTree PUnit)
      ((directory.createdFiles.reverse.forM fun path =>
        discard (change (·.removeFile path)) : StateM FileTree PUnit) tree).2).2) = _
  rw [hfiles, hdirectories]

/-- What is left of a tree once files were to be removed at some places. -/
structure Cleared (tree after : FileTree) (places : List Position) : Prop where
  home : after.workingDirectory = tree.workingDirectory
  standing : after.Standing
  node : ∀ position, after.node? position = tree.node? position ∨
    after.node? position = none ∧ position ∈ places
  gone : ∀ position ∈ places, after.kind? position ≠ some false

theorem removed_removeFile_cleared (hstanding : tree.Standing) (hdescends : path.Descends)
    (hname : path.EndsWithName) :
    Cleared tree (removed removeFile tree path) [path.place tree.workingDirectory] := by
  obtain ⟨before, last, hsteps, hname⟩ := hname
  by_cases hkind : tree.kind? (path.place tree.workingDirectory) = some false
  · obtain ⟨content, hnode⟩ := kind?_eq_false.1 hkind
    have hends := hstanding.leads_of_endsWithName hdescends hsteps hname (by simp [hnode])
    have hne : path.place tree.workingDirectory ≠ [] := by simp [hends.place]
    have herase := node?_erase hne tree
    rw [removed, removeFile_of_endsIn hends hsteps hnode]
    refine ⟨rfl, hstanding.erase hne ?_ fun name => ?_, fun position => ?_, ?_⟩
    · intro heq
      have hhome := hstanding.home
      rw [← heq, hnode] at hhome
      cases hhome
    · cases hchild : tree.node? (path.place tree.workingDirectory ++ [name]) with
      | none => rfl
      | some node =>
          have hparent := hstanding.above (path.place tree.workingDirectory) name (by simp [hchild])
          rw [hnode] at hparent
          cases hparent
    · rw [herase]
      split
      · rename_i heq
        exact .inr ⟨rfl, by simp [heq]⟩
      · exact .inl rfl
    · intro position hmem
      rw [List.mem_singleton.1 hmem, kind?, herase, if_pos rfl]
      simp
  · have hsame : removed removeFile tree path = tree := by
      unfold removed
      split
      · rename_i changed hchanged
        exact absurd (kind?_eq_false.2 (removeFile_eq_ok hchanged).2.1) hkind
      · rfl
    rw [hsame]
    refine ⟨rfl, hstanding, fun _ => .inl rfl, fun position hmem => ?_⟩
    rwa [List.mem_singleton.1 hmem]

theorem removeFiles_cleared {files : List Path} (hstanding : tree.Standing)
    (hfiles : ∀ path ∈ files, path.Descends ∧ path.EndsWithName) :
    Cleared tree (files.foldl (removed removeFile) tree)
      (files.map (·.place tree.workingDirectory)) := by
  induction files generalizing tree with
  | nil => exact ⟨rfl, hstanding, fun _ => .inl rfl, fun position hmem => nomatch hmem⟩
  | cons path rest ih =>
      obtain ⟨hdescends, hname⟩ := hfiles path List.mem_cons_self
      have hfirst := removed_removeFile_cleared hstanding hdescends hname
      have hrest := ih hfirst.standing fun other hother =>
        hfiles other (List.mem_cons_of_mem _ hother)
      rw [hfirst.home] at hrest
      rw [List.foldl_cons, List.map_cons]
      refine ⟨hrest.home.trans hfirst.home, hrest.standing, fun position => ?_, ?_⟩
      · rcases hrest.node position with hsame | ⟨hnone, hmem⟩
        · rw [hsame]
          refine (hfirst.node position).imp_right fun ⟨hnone, hmem⟩ => ⟨hnone, ?_⟩
          rw [List.mem_singleton.1 hmem]
          exact List.mem_cons_self
        · exact .inr ⟨hnone, List.mem_cons_of_mem _ hmem⟩
      · intro position hmem
        rcases List.mem_cons.1 hmem with rfl | hmem
        · rcases hrest.node (path.place tree.workingDirectory) with hsame | ⟨hnone, -⟩
          · rw [kind?, hsame]
            exact hfirst.gone _ List.mem_cons_self
          · simp [kind?, hnone]
        · exact hrest.gone position hmem

/-- Directories that are all that a tree has beyond a settled one, and of which none stands in a
later one. -/
structure Surplus (settled tree : FileTree) (directories : List Path) : Prop where
  home : tree.workingDirectory = settled.workingDirectory
  standing : tree.Standing
  noted : ∀ path ∈ directories, path.Descends ∧ path.IsTrim ∧
    settled.node? (path.place settled.workingDirectory) = none
  all : ∀ position, settled.node? position = none → tree.node? position ≠ none →
    tree.node? position = some .directory ∧
      ∃ path ∈ directories, path.place settled.workingDirectory = position
  order : directories.Pairwise fun later first =>
    later.place settled.workingDirectory <+: first.place settled.workingDirectory →
      later.place settled.workingDirectory = first.place settled.workingDirectory

/-- Nothing is left below the directory that comes first: it came up as well, and would have to come
before it. -/
theorem Surplus.vacant {rest : List Path} (h : Surplus settled tree (path :: rest))
    (hsettled : settled.Standing) :
    ∀ position, path.place settled.workingDirectory <+: position →
      position ≠ path.place settled.workingDirectory → tree.node? position = none := by
  intro position hbelow hne
  cases hnode : tree.node? position with
  | none => rfl
  | some node =>
      have habsent : settled.node? position = none := by
        cases hthere : settled.node? position with
        | none => rfl
        | some node =>
            have hnone := (h.noted path List.mem_cons_self).2.2
            rw [hsettled.directory_above hbelow hne.symm (by simp [hthere])] at hnone
            cases hnone
      obtain ⟨-, other, hmem, rfl⟩ := h.all position habsent (by simp [hnode])
      rcases List.mem_cons.1 hmem with rfl | hmem
      · exact absurd rfl hne
      · exact absurd ((List.pairwise_cons.1 h.order).1 other hmem hbelow).symm hne

theorem Surplus.tail {rest : List Path} (h : Surplus settled tree (path :: rest))
    (hhome : after.workingDirectory = tree.workingDirectory) (hstanding : after.Standing)
    (hnone : after.node? (path.place settled.workingDirectory) = none)
    (hsame : ∀ position, position ≠ path.place settled.workingDirectory →
      after.node? position = tree.node? position) : Surplus settled after rest where
  home := hhome.trans h.home
  standing := hstanding
  noted other hmem := h.noted other (List.mem_cons_of_mem _ hmem)
  all position hsettled hthere := by
    have hne : position ≠ path.place settled.workingDirectory := by
      rintro rfl
      exact hthere hnone
    rw [hsame position hne] at hthere ⊢
    obtain ⟨hdirectory, other, hmem, rfl⟩ := h.all position hsettled hthere
    rcases List.mem_cons.1 hmem with rfl | hmem
    · exact absurd rfl hne
    · exact ⟨hdirectory, other, hmem, rfl⟩
  order := (List.pairwise_cons.1 h.order).2

theorem Surplus.erase {rest : List Path} (h : Surplus settled tree (path :: rest))
    (hsettled : settled.Standing)
    (hnode : tree.node? (path.place settled.workingDirectory) = some .directory) :
    removed removeDirectory tree path = tree.erase (path.place settled.workingDirectory) ∧
      path.place settled.workingDirectory ≠ [] ∧
      (tree.erase (path.place settled.workingDirectory)).Standing := by
  obtain ⟨hdescends, htrim, hnone⟩ := h.noted path List.mem_cons_self
  obtain ⟨before, last, hsteps, hname⟩ := hsettled.endsWithName_of_absent htrim hnone
  have hvacant := h.vacant hsettled
  rw [← h.home] at hnone hnode hvacant ⊢
  have hends := h.standing.leads_of_endsWithName hdescends hsteps hname (by simp [hnode])
  have hne : path.place tree.workingDirectory ≠ [] := by simp [hends.place]
  refine ⟨?_, hne, h.standing.erase hne ?_ fun name => ?_⟩
  · rw [removed, removeDirectory_of_endsIn hends hsteps hnode (isVacant_iff.2 hvacant)]
  · intro heq
    have hthere := hsettled.home
    rw [← h.home, ← heq, hnone] at hthere
    cases hthere
  · exact hvacant _ (List.prefix_append _ _) (by simp)

/-- The directory that comes first can be removed, unless it never came up. -/
theorem Surplus.step {rest : List Path} (h : Surplus settled tree (path :: rest))
    (hsettled : settled.Standing) :
    Surplus settled (removed removeDirectory tree path) rest ∧
      ∀ position, settled.node? position ≠ none →
        (removed removeDirectory tree path).node? position = tree.node? position := by
  have hnone := (h.noted path List.mem_cons_self).2.2
  cases hnode : tree.node? (path.place settled.workingDirectory) with
  | none =>
      have hsame : removed removeDirectory tree path = tree := by
        unfold removed
        split
        · rename_i changed hchanged
          have hdirectory := (removeDirectory_eq_ok hchanged).2.1
          rw [h.home, hnode] at hdirectory
          cases hdirectory
        · rfl
      rw [hsame]
      exact ⟨h.tail rfl h.standing hnode fun _ _ => rfl, fun _ _ => rfl⟩
  | some node =>
      obtain ⟨hdirectory, -⟩ := h.all _ hnone (by simp [hnode])
      obtain ⟨herased, hne, hstanding⟩ := h.erase hsettled hdirectory
      have herase := node?_erase hne tree
      rw [herased]
      refine ⟨h.tail rfl hstanding ?_ fun position hother => ?_, fun position hkept => ?_⟩
      · rw [herase, if_pos rfl]
      · rw [herase, if_neg hother]
      · rw [herase, if_neg]
        rintro rfl
        exact hkept hnone

/-- What is left of a tree once everything is gone that is not in a settled one. -/
structure Restored (settled tree after : FileTree) : Prop where
  home : after.workingDirectory = settled.workingDirectory
  standing : after.Standing
  gone : ∀ position, settled.node? position = none → after.node? position = none
  kept : ∀ position, settled.node? position ≠ none → after.node? position = tree.node? position

theorem Surplus.restored {directories : List Path} (h : Surplus settled tree directories)
    (hsettled : settled.Standing) :
    Restored settled tree (directories.foldl (removed removeDirectory) tree) := by
  induction directories generalizing tree with
  | nil =>
      refine ⟨h.home, h.standing, fun position hnone => ?_, fun _ _ => rfl⟩
      cases hnode : tree.node? position with
      | none => exact hnode
      | some node =>
          obtain ⟨-, path, hmem, -⟩ := h.all position hnone (by simp [hnode])
          cases hmem
  | cons path rest ih =>
      obtain ⟨hrest, hsame⟩ := h.step hsettled
      have hrestored := ih hrest
      rw [List.foldl_cons]
      refine ⟨hrestored.home, hrestored.standing, hrestored.gone, fun position hkept => ?_⟩
      rw [hrestored.kept position hkept, hsame position hkept]

/-- Once the files that are noted are removed, the directories that are noted are all that is left
to remove. -/
theorem Notes.surplus (h : Notes settled directory tree)
    (hcleared : Cleared tree after
      (directory.createdFiles.reverse.map (·.place tree.workingDirectory))) :
    Surplus settled after directory.createdDirectories.reverse ∧
      ∀ position, settled.node? position ≠ none → after.node? position = tree.node? position := by
  rw [h.home] at hcleared
  have hmem_places : ∀ position,
      position ∈ directory.createdFiles.reverse.map (·.place settled.workingDirectory) →
        settled.node? position = none := by
    intro position hmem
    obtain ⟨path, hpath, rfl⟩ := List.mem_map.1 hmem
    exact (h.files path (List.mem_reverse.1 hpath)).2.2
  refine ⟨⟨hcleared.home.trans h.home, hcleared.standing, fun path hmem => ?_,
    fun position hnone hthere => ?_, ?_⟩, fun position hkept => ?_⟩
  · exact h.directories path (List.mem_reverse.1 hmem)
  · rcases hcleared.node position with hsame | ⟨hgone, -⟩
    · cases hnode : after.node? position with
      | none => exact absurd hnode hthere
      | some node =>
          rw [hnode] at hsame
          cases node with
          | directory =>
              obtain ⟨path, hmem, hplace⟩ := h.newDirectory position hnone
                (kind?_eq_true.2 hsame.symm)
              exact ⟨rfl, path, List.mem_reverse.2 hmem, hplace⟩
          | file content =>
              obtain ⟨path, hmem, hplace⟩ := h.newFile position hnone
                (kind?_eq_false.2 ⟨content, hsame.symm⟩)
              have hgone := hcleared.gone position
                (List.mem_map.2 ⟨path, List.mem_reverse.2 hmem, hplace⟩)
              exact absurd (kind?_eq_false.2 ⟨content, hnode⟩) hgone
    · exact absurd hgone hthere
  · rw [List.pairwise_reverse]
    exact h.order
  · rcases hcleared.node position with hsame | ⟨-, hmem⟩
    · exact hsame
    · exact absurd (hmem_places position hmem) hkept

/-- Rolling back leaves what was there when the tree was settled, with what was written to it, and
nothing else. -/
theorem rollBack_restored (h : Notes settled directory tree) :
    Restored settled tree ((directory.rollBack : StateM FileTree Directory) tree).2 := by
  have hfiles : ∀ path ∈ directory.createdFiles.reverse, path.Descends ∧ path.EndsWithName :=
    fun path hmem => (h.files path (List.mem_reverse.1 hmem)).imp_right And.left
  obtain ⟨hsurplus, hsame⟩ := h.surplus (removeFiles_cleared h.standing hfiles)
  have hrestored := hsurplus.restored h.settledStanding
  rw [rollBack_run]
  refine ⟨hrestored.home, hrestored.standing, hrestored.gone, fun position hkept => ?_⟩
  rw [hrestored.kept position hkept, hsame position hkept]

end Directory

end Exemplar
