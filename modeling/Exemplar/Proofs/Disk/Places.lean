import Exemplar.Disk.FileTree

/-!
# Where paths lead

A path leads to a place that depends on its text alone, once the working directory is known: each
name goes down, each `..` goes up.  What a tree adds is whether the path can be followed, that is
whether every step starts at a directory.  An operation on a tree therefore either fails and leaves
the tree as it is, or changes it at the place of its path and nowhere else.
-/

namespace Exemplar

namespace Path

/-- Where a path starts, if relative paths start at `home`. -/
def origin (home : Position) (path : Path) : Position :=
  if path.isAbsolute then [] else home

/-- The segments that a path follows from where it starts. -/
def steps (path : Path) : List (List Char) :=
  if path.isAbsolute then path.segments.drop 1 else path.segments

/-- Where segments lead from a position, whatever is there. -/
def walk (position : Position) (segments : List (List Char)) : Position :=
  segments.foldl FileTree.stepFrom position

/-- Where a path leads, whatever is there. -/
def place (home : Position) (path : Path) : Position :=
  walk (path.origin home) path.steps

theorem walk_cons (position : Position) (segment : List Char) (rest : List (List Char)) :
    walk position (segment :: rest) = walk (FileTree.stepFrom position segment) rest := rfl

theorem walk_append (position : Position) (first second : List (List Char)) :
    walk position (first ++ second) = walk (walk position first) second :=
  List.foldl_append

theorem walk_fillers {segments : List (List Char)}
    (h : ∀ segment ∈ segments, isFiller segment = true)
    (position : Position) : walk position segments = position := by
  induction segments with
  | nil => rfl
  | cons segment rest ih =>
      rw [walk_cons, FileTree.stepFrom, if_pos (h segment List.mem_cons_self)]
      exact ih fun other hother => h other (List.mem_cons_of_mem _ hother)

/-! ## What is cut off at the end -/

theorem exists_append_cut {α : Type} (p : α → Bool) (list : List α) :
    ∃ cut, list = (list.reverse.dropWhile p).reverse ++ cut ∧ ∀ item ∈ cut, p item = true := by
  refine ⟨(list.reverse.takeWhile p).reverse, ?_, ?_⟩
  · rw [← List.reverse_append, List.takeWhile_append_dropWhile, List.reverse_reverse]
  · intro item hmem
    exact List.all_eq_true.1 List.all_takeWhile item (List.mem_reverse.1 hmem)

theorem not_cut_of_getLast? {α : Type} {p : α → Bool} {list : List α} {last : α}
    (h : (list.reverse.dropWhile p).reverse.getLast? = some last) : p last = false := by
  have hhead := List.head?_dropWhile_not p list.reverse
  rw [List.getLast?_reverse] at h
  rw [h] at hhead
  exact hhead

end Path

namespace FileTree

open Exemplar.Path

variable {tree changed : FileTree} {path : Path} {position place : Position}

theorem start_eq (tree : FileTree) (path : Path) :
    tree.start path = (path.origin tree.workingDirectory, path.steps) := by
  unfold start origin steps
  cases path.isAbsolute <;> rfl

/-! ## What is at a position -/

@[simp]
theorem node?_nil (tree : FileTree) : tree.node? [] = some .directory := if_pos rfl

theorem node?_of_ne_nil (tree : FileTree) (h : position ≠ []) :
    tree.node? position = tree.nodes.lookup position := if_neg h

theorem lookup_filter_self (position : Position) (nodes : List (Position × Node)) :
    (nodes.filter (fun entry => entry.1 != position)).lookup position = none := by
  rw [List.lookup_eq_none_iff]
  intro entry hentry
  rw [bne_comm]
  exact (List.mem_filter.1 hentry).2

theorem lookup_filter_of_ne {other : Position} (h : other ≠ position)
    (nodes : List (Position × Node)) :
    (nodes.filter (fun entry => entry.1 != position)).lookup other = nodes.lookup other := by
  induction nodes with
  | nil => rfl
  | cons entry rest ih =>
      obtain ⟨first, node⟩ := entry
      by_cases hfirst : first = position
      · subst hfirst
        rw [List.filter_cons_of_neg (by simp), ih, List.lookup_cons, beq_false_of_ne h]
      · rw [List.filter_cons_of_pos (by simpa using hfirst), List.lookup_cons, List.lookup_cons, ih]

/-- A node that was put somewhere is there and nowhere else. -/
theorem node?_put (h : position ≠ []) (node : Node) (tree : FileTree) (other : Position) :
    (tree.put position node).node? other =
      if other = position then some node else tree.node? other := by
  by_cases hother : other = position
  · subst hother
    rw [if_pos rfl, node?_of_ne_nil _ h, put, List.lookup_append, lookup_filter_self]
    simp
  · rw [if_neg hother, node?, node?]
    split
    · rfl
    · rw [put, List.lookup_append, lookup_filter_of_ne hother, List.lookup_cons,
        beq_false_of_ne hother]
      simp

theorem node?_erase (h : position ≠ []) (tree : FileTree) (other : Position) :
    (tree.erase position).node? other =
      if other = position then none else tree.node? other := by
  by_cases hother : other = position
  · subst hother
    rw [if_pos rfl, node?_of_ne_nil _ h, erase, lookup_filter_self]
  · rw [if_neg hother, node?, node?]
    split
    · rfl
    · rw [erase, lookup_filter_of_ne hother]

/-- A position is vacant exactly if nothing is below it. -/
theorem isVacant_iff :
    tree.isVacant position = true ↔
      ∀ other, position <+: other → other ≠ position → tree.node? other = none := by
  have hne_nil : ∀ {other : Position}, position <+: other → other ≠ position → other ≠ [] := by
    rintro other hbelow hne rfl
    exact hne (List.prefix_nil.1 hbelow).symm
  have hentry : ∀ entry : Position × Node,
      (!(position.isPrefixOf entry.1 && entry.1 != position)) = true ↔
        ¬ (position <+: entry.1 ∧ entry.1 ≠ position) := by
    intro entry
    rw [Bool.not_eq_true', ← Bool.not_eq_true, Bool.and_eq_true, List.isPrefixOf_iff_prefix,
      bne_iff_ne]
  unfold isVacant
  simp only [List.all_eq_true, hentry]
  constructor
  · intro hall other hbelow hne
    rw [node?_of_ne_nil _ (hne_nil hbelow hne), List.lookup_eq_none_iff]
    intro entry hmem
    rw [bne_iff_ne]
    rintro rfl
    exact hall entry hmem ⟨hbelow, hne⟩
  · rintro hnone entry hmem ⟨hbelow, hne⟩
    have habsent := hnone entry.1 hbelow hne
    rw [node?_of_ne_nil _ (hne_nil hbelow hne), List.lookup_eq_none_iff] at habsent
    simpa using habsent entry hmem

/-! ## Following a path -/

/-- Whether every step of some segments starts at a directory. -/
def Leads (tree : FileTree) (position : Position) : List (List Char) → Prop
  | [] => True
  | segment :: rest =>
      tree.node? position = some .directory ∧ Leads tree (stepFrom position segment) rest

theorem follow_eq_ok_iff {segments : List (List Char)} :
    tree.follow position segments = .ok place ↔
      tree.Leads position segments ∧ place = walk position segments := by
  induction segments generalizing position with
  | nil =>
      rw [follow, Leads, true_and, Except.ok.injEq]
      exact eq_comm
  | cons segment rest ih =>
      rw [follow, Leads, walk_cons]
      cases hnode : tree.node? position with
      | none => simp
      | some node =>
          cases node with
          | file content => simp
          | directory => simp [ih]

theorem leads_append {first second : List (List Char)} :
    tree.Leads position (first ++ second) ↔
      tree.Leads position first ∧ tree.Leads (walk position first) second := by
  induction first generalizing position with
  | nil => simp [Leads, walk]
  | cons segment rest ih => rw [List.cons_append, Leads, Leads, ih, walk_cons, and_assoc]

/-- A path leads to something if it is not empty, can be followed, and there is something at its
place. -/
theorem existsAt_iff :
    tree.existsAt path = true ↔
      path.text.isEmpty = false ∧
      tree.Leads (path.origin tree.workingDirectory) path.steps ∧
      tree.node? (path.place tree.workingDirectory) ≠ none := by
  rw [existsAt, locate, start_eq, Path.place]
  cases hempty : path.text.isEmpty with
  | true => simp [throw, throwThe, MonadExceptOf.throw, bind, Except.bind]
  | false =>
      cases hfollow : tree.follow (path.origin tree.workingDirectory) path.steps with
      | error fault =>
          have hleads : ¬ tree.Leads (path.origin tree.workingDirectory) path.steps := by
            intro hleads
            rw [follow_eq_ok_iff.2 ⟨hleads, rfl⟩] at hfollow
            cases hfollow
          simp [hfollow, hleads, bind, Except.bind]
      | ok place =>
          obtain ⟨hleads, rfl⟩ := follow_eq_ok_iff.1 hfollow
          cases hnode : tree.node? (walk (path.origin tree.workingDirectory) path.steps) <;>
            simp [hfollow, hleads, hnode, bind, Except.bind, pure, Except.pure, throw, throwThe,
              MonadExceptOf.throw]

/-- A segment that names an entry of a directory. -/
def IsName (segment : List Char) : Prop :=
  segment ≠ [] ∧ segment ≠ ['.'] ∧ segment ≠ ['.', '.']

theorem stepFrom_name {segment : List Char} (h : IsName segment) (position : Position) :
    stepFrom position segment = position ++ [String.ofList segment] := by
  obtain ⟨hempty, hdot, hup⟩ := h
  simp [stepFrom, isFiller, hempty, hdot, hup]

theorem trimmed_of_ne_nil {last : List Char} (h : last ≠ []) (before : List (List Char)) :
    trimmed (before ++ [last]) = before ++ [last] := by
  rw [trimmed, List.reverse_append, List.reverse_singleton, List.singleton_append,
    List.dropWhile_cons_of_neg (by simpa using h), List.reverse_cons, List.reverse_reverse]

theorem exists_trimmed_append (segments : List (List Char)) :
    ∃ slashes, segments = trimmed segments ++ slashes ∧ ∀ segment ∈ slashes, segment = [] := by
  obtain ⟨slashes, hsegments, hslashes⟩ := exists_append_cut (· == []) segments
  exact ⟨slashes, hsegments, by simpa using hslashes⟩

theorem ne_nil_of_getLast?_trimmed {segments : List (List Char)} {last : List Char}
    (h : (trimmed segments).getLast? = some last) : last ≠ [] := by
  have hkept := not_cut_of_getLast? h
  simpa using hkept

/-- How a path ends whose last segment is a name in a directory: what stands before the name, and
the name. -/
structure EndsIn (tree : FileTree) (path : Path) (before : List (List Char)) (last : List Char) :
    Prop where
  name : IsName last
  leads : tree.Leads (path.origin tree.workingDirectory) (before ++ [last])
  place : path.place tree.workingDirectory =
    walk (path.origin tree.workingDirectory) before ++ [String.ofList last]

theorem endingIn_eq_name {parent : Position} {last : List Char} {slash other : Bool}
    (h : tree.endingIn parent last slash = .ok (.name place other)) :
    tree.node? parent = some .directory ∧ last ≠ ['.'] ∧ last ≠ ['.', '.'] ∧
      place = parent ++ [String.ofList last] ∧ other = slash := by
  unfold endingIn at h
  split at h
  · cases h
  · cases h
  · rename_i hnode
    split at h
    · cases h
    · rename_i hlast
      cases h
      exact ⟨hnode, fun heq => hlast (.inl heq), fun heq => hlast (.inr heq), rfl, rfl⟩

theorem locateEnding_of_ne (h : path.text.isEmpty = false) :
    tree.locateEnding path =
      match (trimmed path.steps).getLast? with
      | none => .ok (.inside [])
      | some last =>
          tree.follow (path.origin tree.workingDirectory) (trimmed path.steps).dropLast >>=
            fun parent =>
              tree.endingIn parent last (path.steps.length != (trimmed path.steps).length) := by
  rw [locateEnding, start_eq, h]
  rfl

theorem locateEnding_eq_name {slash : Bool}
    (h : tree.locateEnding path = .ok (.name place slash)) :
    ∃ before last, tree.EndsIn path before last ∧ place = path.place tree.workingDirectory ∧
      (slash = false → path.steps = before ++ [last]) := by
  have hempty : path.text.isEmpty = false := by
    cases hempty : path.text.isEmpty with
    | false => rfl
    | true =>
        rw [locateEnding, hempty] at h
        cases h
  rw [locateEnding_of_ne hempty] at h
  split at h
  · cases h
  · rename_i last hlast
    obtain ⟨parent, hparent, h⟩ := bind_eq_ok h
    obtain ⟨hleads, rfl⟩ := follow_eq_ok_iff.1 hparent
    obtain ⟨hnode, hdot, hup, rfl, rfl⟩ := endingIn_eq_name h
    have hname : IsName last := ⟨ne_nil_of_getLast?_trimmed hlast, hdot, hup⟩
    obtain ⟨before, hbefore⟩ := List.getLast?_eq_some_iff.1 hlast
    obtain ⟨slashes, hsteps, hslashes⟩ := exists_trimmed_append path.steps
    have hfillers : ∀ segment ∈ slashes, isFiller segment = true := by
      intro segment hmem
      rw [hslashes segment hmem]
      rfl
    rw [hbefore] at hsteps
    rw [hbefore, List.dropLast_concat] at hleads hnode ⊢
    have hplace : path.place tree.workingDirectory =
        walk (path.origin tree.workingDirectory) before ++ [String.ofList last] := by
      rw [Path.place, hsteps, walk_append, walk_append, walk_fillers hfillers, walk_cons,
        stepFrom_name hname]
      rfl
    refine ⟨before, last, ⟨hname, leads_append.2 ⟨hleads, hnode, trivial⟩, hplace⟩,
      hplace.symm, ?_⟩
    intro hslash
    have hlength : path.steps.length = (before ++ [last]).length := by simpa using hslash
    have hnone : slashes = [] := by
      rw [hsteps, List.length_append] at hlength
      exact List.length_eq_zero_iff.1 (by omega)
    rw [hsteps, hnone, List.append_nil]

theorem isEmpty_eq_false_of_steps {before : List (List Char)} {last : List Char}
    (hsteps : path.steps = before ++ [last]) (hname : IsName last) :
    path.text.isEmpty = false := by
  rw [← Bool.not_eq_true, String.isEmpty_iff]
  intro htext
  have hnone : path.steps = [] ++ [[]] := by
    simp [Path.steps, Path.segments, Path.isAbsolute, htext, Text.pieces]
  rw [hnone] at hsteps
  have hlast : [[]] = [last] := (List.append_inj' hsteps rfl).2
  exact hname.1 (List.singleton_inj.1 hlast).symm

/-- A path of which all but the name at its end can be followed ends with that name. -/
theorem locateEnding_of_endsIn {before : List (List Char)} {last : List Char}
    (h : tree.EndsIn path before last) (hsteps : path.steps = before ++ [last]) :
    tree.locateEnding path = .ok (.name (path.place tree.workingDirectory) false) := by
  have hempty := isEmpty_eq_false_of_steps hsteps h.name
  obtain ⟨hleads, hnode, -⟩ := leads_append.1 h.leads
  have htrimmed : trimmed path.steps = before ++ [last] := by
    rw [hsteps, trimmed_of_ne_nil h.name.1]
  rw [locateEnding_of_ne hempty, htrimmed, List.getLast?_concat, List.dropLast_concat]
  dsimp only
  rw [follow_eq_ok_iff.2 ⟨hleads, rfl⟩]
  change tree.endingIn _ _ _ = _
  rw [endingIn, hnode, hsteps, h.place]
  simp [h.name.2.1, h.name.2.2]
  rfl

/-! ## Changes -/

theorem makeDirectory_eq_ok (h : tree.makeDirectory path = .ok changed) :
    changed = tree.put (path.place tree.workingDirectory) .directory ∧
      tree.node? (path.place tree.workingDirectory) = none ∧
      ∃ before last, tree.EndsIn path before last := by
  obtain ⟨ending, hending, h⟩ := bind_eq_ok h
  cases ending with
  | inside last => cases h
  | name place slash =>
      obtain ⟨before, last, hends, rfl, -⟩ := locateEnding_eq_name hending
      dsimp only at h
      split at h
      · cases h
      · rename_i hnode
        cases h
        exact ⟨rfl, hnode, before, last, hends⟩

theorem writeBytes_eq_ok {content : ByteArray} (h : tree.writeBytes path content = .ok changed) :
    changed = tree.put (path.place tree.workingDirectory) (.file content) ∧
      tree.node? (path.place tree.workingDirectory) ≠ some .directory ∧
      ∃ before last, tree.EndsIn path before last ∧ path.steps = before ++ [last] := by
  obtain ⟨ending, hending, h⟩ := bind_eq_ok h
  cases ending with
  | inside last => cases h
  | name place slash =>
      obtain ⟨before, last, hends, rfl, hsteps⟩ := locateEnding_eq_name hending
      cases slash with
      | true => cases h
      | false =>
          dsimp only at h
          split at h
          · cases h
          · rename_i hnode
            cases h
            exact ⟨rfl, hnode, before, last, hends, hsteps rfl⟩

theorem removeFile_eq_ok (h : tree.removeFile path = .ok changed) :
    changed = tree.erase (path.place tree.workingDirectory) ∧
      (∃ content, tree.node? (path.place tree.workingDirectory) = some (.file content)) ∧
      ∃ before last, tree.EndsIn path before last := by
  obtain ⟨ending, hending, h⟩ := bind_eq_ok h
  cases ending with
  | inside last => cases h
  | name place slash =>
      obtain ⟨before, last, hends, rfl, -⟩ := locateEnding_eq_name hending
      dsimp only at h
      split at h
      · cases h
      · cases h
      · rename_i content hnode
        split at h
        · cases h
        · cases h
          exact ⟨rfl, ⟨content, hnode⟩, before, last, hends⟩

theorem removeDirectory_eq_ok (h : tree.removeDirectory path = .ok changed) :
    changed = tree.erase (path.place tree.workingDirectory) ∧
      tree.node? (path.place tree.workingDirectory) = some .directory ∧
      tree.isVacant (path.place tree.workingDirectory) = true ∧
      ∃ before last, tree.EndsIn path before last := by
  obtain ⟨ending, hending, h⟩ := bind_eq_ok h
  cases ending with
  | inside last => cases h
  | name place slash =>
      obtain ⟨before, last, hends, rfl, -⟩ := locateEnding_eq_name hending
      dsimp only at h
      split at h
      · cases h
      · cases h
      · rename_i hnode
        split at h
        · rename_i hvacant
          cases h
          exact ⟨rfl, hnode, hvacant, before, last, hends⟩
        · cases h

theorem removeFile_of_endsIn {before : List (List Char)} {last : List Char} {content : ByteArray}
    (h : tree.EndsIn path before last) (hsteps : path.steps = before ++ [last])
    (hnode : tree.node? (path.place tree.workingDirectory) = some (.file content)) :
    tree.removeFile path = .ok (tree.erase (path.place tree.workingDirectory)) := by
  simp [removeFile, locateEnding_of_endsIn h hsteps, hnode, bind, Except.bind, pure, Except.pure]

theorem removeDirectory_of_endsIn {before : List (List Char)} {last : List Char}
    (h : tree.EndsIn path before last) (hsteps : path.steps = before ++ [last])
    (hnode : tree.node? (path.place tree.workingDirectory) = some .directory)
    (hvacant : tree.isVacant (path.place tree.workingDirectory) = true) :
    tree.removeDirectory path = .ok (tree.erase (path.place tree.workingDirectory)) := by
  simp [removeDirectory, locateEnding_of_endsIn h hsteps, hnode, hvacant, bind, Except.bind, pure,
    Except.pure]

end FileTree

end Exemplar
