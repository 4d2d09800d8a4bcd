import Exemplar.Proofs.Source.GeneratorMarks

/-!
# Blocks of lines

The writer of a source counts how deep it is, and stays at the top if a block is closed that was
never opened.  In balanced lines that does not happen: each line that opens a block has one partner,
the line that closes the block, and what is between them is balanced itself.  So partners are printed
with the same indentation, and whatever is printed between them stands deeper.
-/

namespace Exemplar.Source

open Naming Text

/-! ## Depth -/

/-- The depth after a line. -/
def Line.next (depth : Nat) : Line → Nat
  | .opening _ => depth + 1
  | .closing _ => depth - 1
  | .plain _ | .blank => depth

/-- The depth after lines that are written from a depth on. -/
def depthAfter (depth : Nat) (lines : List Line) : Nat :=
  lines.foldl Line.next depth

@[simp]
theorem depthAfter_cons (depth : Nat) (line : Line) (rest : List Line) :
    depthAfter depth (line :: rest) = depthAfter (line.next depth) rest := rfl

@[simp]
theorem depthAfter_append (depth : Nat) (first second : List Line) :
    depthAfter depth (first ++ second) = depthAfter (depthAfter depth first) second :=
  List.foldl_append

theorem Line.IsFlat.next {line : Line} (h : line.IsFlat) (depth : Nat) :
    line.next depth = depth := by
  cases h <;> rfl

/-! ## Balanced lines -/

/-- Lines in which every block that is opened is closed, and no other. -/
inductive Balanced : List Line → Prop
  | nil : Balanced []
  | flat {line : Line} {rest : List Line} (hline : line.IsFlat) (hrest : Balanced rest) :
      Balanced (line :: rest)
  | block (start stop : String) {inner rest : List Line} (hinner : Balanced inner)
      (hrest : Balanced rest) : Balanced (.opening start :: (inner ++ .closing stop :: rest))

namespace Balanced

variable {lines : List Line}

theorem append {second : List Line} (h : Balanced lines) (hsecond : Balanced second) :
    Balanced (lines ++ second) := by
  induction h with
  | nil => exact hsecond
  | flat hline hrest ih => exact .flat hline ih
  | block start stop hinner hrest ihinner ihrest =>
      rw [List.cons_append, List.append_assoc, List.cons_append]
      exact .block start stop hinner ihrest

theorem depthAfter_eq (h : Balanced lines) (depth : Nat) : depthAfter depth lines = depth := by
  induction h generalizing depth with
  | nil => rfl
  | flat hline hrest ih => rw [depthAfter_cons, hline.next, ih]
  | block start stop hinner hrest ihinner ihrest =>
      rw [depthAfter_cons, depthAfter_append, ihinner, depthAfter_cons, ihrest]
      rfl

end Balanced

/-! ## Partners -/

/-- Line `i` opens the block that line `j` closes. -/
def Partners (lines : List Line) (i j : Nat) : Prop :=
  ∃ before start inner stop after,
    lines = before ++ .opening start :: (inner ++ .closing stop :: after) ∧
      Balanced inner ∧ i = before.length ∧ j = before.length + 1 + inner.length

variable {lines inner before after : List Line} {i j k l : Nat} {start stop : String}

theorem Partners.lt (h : Partners lines i j) : i < j := by
  obtain ⟨_, _, _, _, _, -, -, rfl, rfl⟩ := h
  omega

theorem Partners.opening (h : Partners lines i j) : ∃ start, lines[i]? = some (.opening start) := by
  obtain ⟨before, start, inner, stop, after, rfl, -, rfl, -⟩ := h
  exact ⟨start, by simp⟩

theorem Partners.closing (h : Partners lines i j) : ∃ stop, lines[j]? = some (.closing stop) := by
  obtain ⟨before, start, inner, stop, after, rfl, -, -, rfl⟩ := h
  refine ⟨stop, ?_⟩
  rw [List.append_cons, List.getElem?_append_right (by simp)]
  simp

/-- Partners stay partners if lines are put around. -/
theorem Partners.within {part : List Line} (h : Partners part i j) (front back : List Line) :
    Partners (front ++ part ++ back) (front.length + i) (front.length + j) := by
  obtain ⟨before, start, inner, stop, after, rfl, hinner, rfl, rfl⟩ := h
  refine ⟨front ++ before, start, inner, stop, after ++ back, by simp, hinner, ?_, ?_⟩
  · rw [List.length_append]
  · rw [List.length_append]
    omega

/-- Whether a line opens or closes a block. -/
def HasPartner (lines : List Line) (k : Nat) : Prop :=
  (∃ j, Partners lines k j) ∨ ∃ i, Partners lines i k

theorem HasPartner.within {part : List Line} (h : HasPartner part k) (front back : List Line)
    (hlines : lines = front ++ part ++ back) (hl : l = front.length + k) : HasPartner lines l := by
  rw [hlines, hl]
  rcases h with ⟨j, hj⟩ | ⟨i, hi⟩
  · exact .inl ⟨_, hj.within front back⟩
  · exact .inr ⟨_, hi.within front back⟩

/-- In balanced lines, all but flat lines have a partner. -/
theorem Balanced.hasPartner (h : Balanced lines) {line : Line} (hk : lines[k]? = some line)
    (hline : ¬ line.IsFlat) : HasPartner lines k := by
  induction h generalizing k with
  | nil => cases hk
  | @flat first rest hfirst hrest ih =>
      cases k with
      | zero =>
          cases hk
          exact absurd hfirst hline
      | succ k => exact (ih hk).within [first] [] (by simp) (Nat.add_comm k 1)
  | @block start stop inner rest hinner hrest ihinner ihrest =>
      have hown : Partners (.opening start :: (inner ++ .closing stop :: rest)) 0
          (inner.length + 1) :=
        ⟨[], start, inner, stop, rest, rfl, hinner, rfl, by simp [Nat.add_comm]⟩
      -- The line is the first of the block, within it, the last of it, or behind it.
      cases k with
      | zero => exact .inl ⟨_, hown⟩
      | succ k =>
          rw [List.getElem?_cons_succ] at hk
          rcases lt_trichotomy k inner.length with hlt | rfl | hgt
          · rw [List.getElem?_append_left hlt] at hk
            exact (ihinner hk).within [.opening start] (.closing stop :: rest) (by simp)
              (Nat.add_comm k 1)
          · exact .inr ⟨0, hown⟩
          · obtain ⟨n, rfl⟩ := Nat.exists_eq_add_of_lt hgt
            have hindex : inner.length + n + 1 - inner.length = n + 1 := by omega
            rw [List.getElem?_append_right (by omega), hindex, List.getElem?_cons_succ] at hk
            apply (ihrest hk).within (.opening start :: (inner ++ [.closing stop])) [] (by simp)
            simp
            omega

theorem Balanced.exists_closing (h : Balanced lines) (hi : lines[i]? = some (.opening start)) :
    ∃ j, Partners lines i j := by
  rcases h.hasPartner hi nofun with hj | ⟨k, hk⟩
  · exact hj
  · obtain ⟨stop, hstop⟩ := hk.closing
    rw [hi] at hstop
    cases hstop

theorem Balanced.exists_opening (h : Balanced lines) (hj : lines[j]? = some (.closing stop)) :
    ∃ i, Partners lines i j := by
  rcases h.hasPartner hj nofun with ⟨k, hk⟩ | hi
  · obtain ⟨start, hstart⟩ := hk.opening
    rw [hj] at hstart
    cases hstart
  · exact hi

/-- A block is closed only where one is open. -/
theorem Balanced.depth_pos (h : Balanced (before ++ .closing stop :: after)) :
    0 < depthAfter 0 before := by
  have hclosing : (before ++ .closing stop :: after)[before.length]? = some (.closing stop) := by
    simp
  obtain ⟨i, front, start, inner, other, back, heq, hinner, -, hlength⟩ :=
    h.exists_opening hclosing
  have hbefore : before = front ++ .opening start :: inner := by
    rw [← List.cons_append, ← List.append_assoc] at heq
    exact (List.append_inj heq (by simp; omega)).1
  rw [hbefore, depthAfter_append, depthAfter_cons, hinner.depthAfter_eq]
  exact Nat.succ_pos _

theorem Balanced.not_closing_behind (h : Balanced inner) (stop : String) (after : List Line) :
    ¬ Balanced (inner ++ .closing stop :: after) := by
  intro hmore
  have hpos := hmore.depth_pos
  rw [h.depthAfter_eq] at hpos
  exact Nat.lt_irrefl 0 hpos

theorem Balanced.not_opening_ahead (h : Balanced inner) (before : List Line) (start : String) :
    ¬ Balanced (before ++ .opening start :: inner) := by
  intro hmore
  have hdepth := hmore.depthAfter_eq 0
  rw [depthAfter_append, depthAfter_cons, h.depthAfter_eq] at hdepth
  cases hdepth

/-- Two ways to find the end of a block are the same. -/
theorem Balanced.length_eq_of_closing {other back : List Line} {last : String}
    (h : Balanced inner) (hother : Balanced other)
    (heq : inner ++ .closing stop :: after = other ++ .closing last :: back) :
    inner.length = other.length := by
  rcases List.append_eq_append_iff.1 heq with ⟨more, rfl, hmore⟩ | ⟨more, rfl, hmore⟩
  · cases more with
    | nil => simp
    | cons line more =>
        cases hmore
        exact absurd hother (h.not_closing_behind stop more)
  · cases more with
    | nil => simp
    | cons line more =>
        cases hmore
        exact absurd h (hother.not_closing_behind last more)

/-- Two ways to find the start of a block are the same. -/
theorem Balanced.length_eq_of_opening {front other : List Line} {first : String}
    (h : Balanced inner) (hother : Balanced other)
    (heq : before ++ .opening start :: inner = front ++ .opening first :: other) :
    before.length = front.length := by
  rcases List.append_eq_append_iff.1 heq with ⟨more, rfl, hmore⟩ | ⟨more, rfl, hmore⟩
  · cases more with
    | nil => simp
    | cons line more =>
        cases hmore
        exact absurd h (hother.not_opening_ahead more first)
  · cases more with
    | nil => simp
    | cons line more =>
        cases hmore
        exact absurd hother (h.not_opening_ahead more start)

theorem Partners.right_unique (hj : Partners lines i j) (hl : Partners lines i l) : j = l := by
  obtain ⟨before, start, inner, stop, after, rfl, hinner, rfl, rfl⟩ := hj
  obtain ⟨front, first, other, last, back, heq, hother, hlength, rfl⟩ := hl
  obtain ⟨rfl, hrest⟩ := List.append_inj heq hlength
  rw [hinner.length_eq_of_closing hother (List.cons.inj hrest).2]

theorem Partners.left_unique (hi : Partners lines i j) (hk : Partners lines k j) : i = k := by
  obtain ⟨before, start, inner, stop, after, rfl, hinner, rfl, rfl⟩ := hi
  obtain ⟨front, first, other, last, back, heq, hother, rfl, hlength⟩ := hk
  rw [← List.cons_append, ← List.cons_append, ← List.append_assoc, ← List.append_assoc] at heq
  exact hinner.length_eq_of_opening hother (List.append_inj heq (by simp; omega)).1

/-- A block that is opened within another is closed within it. -/
theorem Partners.nested (h : Partners lines i j) (hk : Partners lines k l) (hik : i < k)
    (hkj : k < j) : l < j := by
  obtain ⟨before, start, inner, stop, after, rfl, hinner, rfl, rfl⟩ := h
  obtain ⟨n, rfl⟩ := Nat.exists_eq_add_of_lt hik
  obtain ⟨first, hfirst⟩ := hk.opening
  have hn : inner[n]? = some (.opening first) := by
    have hindex : before.length + n + 1 - before.length = n + 1 := by omega
    rwa [List.getElem?_append_right (by omega), hindex, List.getElem?_cons_succ,
      List.getElem?_append_left (by omega)] at hfirst
  obtain ⟨m, hm⟩ := hinner.exists_closing hn
  obtain ⟨last, hlast⟩ := hm.closing
  have hend : m < inner.length := (List.getElem?_eq_some_iff.1 hlast).1
  have hinside := hm.within (before ++ [.opening start]) (.closing stop :: after)
  rw [List.append_assoc, List.append_assoc, List.singleton_append, List.length_append,
    List.length_singleton, Nat.add_right_comm before.length 1 n] at hinside
  rw [hk.right_unique hinside]
  omega

/-! ## Printed lines -/

/-- How a line is printed at a depth. -/
def Line.printed (depth : Nat) : Line → List Char
  | .plain text => (indentation depth).toList ++ text.toList
  | .blank => []
  | .opening text => (indentation depth).toList ++ text.toList
  | .closing text => (indentation (depth - 1)).toList ++ text.toList

def printedFrom (depth : Nat) : List Line → List (List Char)
  | [] => []
  | line :: rest => line.printed depth :: printedFrom (line.next depth) rest

/-- Whether a text stands on one line. -/
def OneLine (text : String) : Prop :=
  '\n' ∉ text.toList

instance (text : String) : Decidable (OneLine text) :=
  inferInstanceAs (Decidable ('\n' ∉ text.toList))

@[simp]
theorem oneLine_append {first second : String} :
    OneLine (first ++ second) ↔ OneLine first ∧ OneLine second := by
  simp [OneLine, not_or]

/-- A line that is printed on one line, and is not set off by itself if it opens or closes a
block. -/
inductive Line.IsTidy : Line → Prop
  | plain {text : String} (h : OneLine text) : IsTidy (.plain text)
  | blank : IsTidy .blank
  | opening {text : String} (h : OneLine text) (hfirst : text.toList.head? ≠ some ' ') :
      IsTidy (.opening text)
  | closing {text : String} (h : OneLine text) (hfirst : text.toList.head? ≠ some ' ') :
      IsTidy (.closing text)

theorem printedFrom_append (depth : Nat) (first second : List Line) :
    printedFrom depth (first ++ second) =
      printedFrom depth first ++ printedFrom (depthAfter depth first) second := by
  induction first generalizing depth with
  | nil => rfl
  | cons line rest ih => rw [List.cons_append, printedFrom, ih]; rfl

@[simp]
theorem length_printedFrom (depth : Nat) (lines : List Line) :
    (printedFrom depth lines).length = lines.length := by
  induction lines generalizing depth with
  | nil => rfl
  | cons line rest ih => rw [printedFrom, List.length_cons, List.length_cons, ih]

theorem renderFrom_cons (depth : Nat) (line : Line) (rest : List Line) :
    renderFrom depth (line :: rest) =
      String.ofList (line.printed depth) ++ "\n" ++ renderFrom (line.next depth) rest := by
  cases line <;> simp [renderFrom, Line.printed, Line.next]

theorem Line.IsTidy.notMem_printed {line : Line} (h : line.IsTidy) (depth : Nat) :
    '\n' ∉ line.printed depth := by
  cases h <;> simp_all [Line.printed, indentation, OneLine]

/-- Lines that are tidy are the lines of the text that they are printed to. -/
theorem textLines_renderFrom (h : ∀ line ∈ lines, line.IsTidy) (depth : Nat) :
    textLines (renderFrom depth lines) = printedFrom depth lines ++ [[]] := by
  induction lines generalizing depth with
  | nil => rfl
  | cons line rest ih =>
      obtain ⟨hline, hrest⟩ := List.forall_mem_cons.1 h
      rw [renderFrom_cons, textLines_append, ih hrest, textLines, String.toList_ofList,
        pieces_of_notMem (hline.notMem_printed depth)]
      rfl

/-- The number of blanks that a line of text begins with. -/
def indent (text : List Char) : Nat :=
  (text.takeWhile (· == ' ')).length

theorem indent_indentation (depth : Nat) (text : List Char) :
    indent ((indentation depth).toList ++ text) = 4 * depth + indent text := by
  simp [indent, indentation]

theorem indent_eq_zero {text : List Char} (h : text.head? ≠ some ' ') : indent text = 0 := by
  cases text with
  | nil => rfl
  | cons c rest =>
      have hc : c ≠ ' ' := fun heq => h (by rw [heq]; rfl)
      simp [indent, hc]

/-- Whether a line of text is empty or set off by some blanks at least. -/
def IsIndented (blanks : Nat) (text : List Char) : Prop :=
  text = [] ∨ blanks ≤ indent text

theorem isIndented_indentation (depth : Nat) (text : List Char) :
    IsIndented (4 * depth) ((indentation depth).toList ++ text) := by
  right
  rw [indent_indentation]
  exact Nat.le_add_right _ _

/-- Balanced lines are printed no less deep than where they begin. -/
theorem Balanced.isIndented (h : Balanced lines) (depth : Nat) :
    ∀ text ∈ printedFrom depth lines, IsIndented (4 * depth) text := by
  induction h generalizing depth with
  | nil => exact fun text htext => absurd htext List.not_mem_nil
  | @flat line rest hline hrest ih =>
      rw [printedFrom, hline.next]
      refine List.forall_mem_cons.2 ⟨?_, ih depth⟩
      cases hline with
      | plain text => exact isIndented_indentation depth text.toList
      | blank => exact .inl rfl
  | block start stop hinner hrest ihinner ihrest =>
      have hdeep : ∀ text, IsIndented (4 * (depth + 1)) text → IsIndented (4 * depth) text :=
        fun text => Or.imp_right fun hle => by omega
      rw [printedFrom, printedFrom_append, printedFrom, Line.next, hinner.depthAfter_eq]
      refine List.forall_mem_cons.2 ⟨isIndented_indentation depth start.toList, ?_⟩
      refine List.forall_mem_append.2 ⟨fun text htext => hdeep text (ihinner _ text htext), ?_⟩
      exact List.forall_mem_cons.2 ⟨isIndented_indentation depth stop.toList, ihrest depth⟩

/-- Whether two lines of a text are set off alike, and each line between them is empty or set off
more. -/
def Frames (text : List (List Char)) (i j : Nat) : Prop :=
  ∃ first last, text[i]? = some first ∧ text[j]? = some last ∧ indent first = indent last ∧
    ∀ k, i < k → k < j → ∃ line, text[k]? = some line ∧ IsIndented (indent first + 1) line

theorem frames_of_eq {text front body back : List (List Char)} {first last : List Char}
    (htext : text = front ++ first :: (body ++ last :: back)) (hends : indent first = indent last)
    (hbody : ∀ line ∈ body, IsIndented (indent first + 1) line) :
    Frames text front.length (front.length + 1 + body.length) := by
  subst htext
  refine ⟨first, last, by simp, ?_, hends, fun k hfirst hlast => ?_⟩
  · rw [List.append_cons, List.getElem?_append_right (by simp)]
    simp
  · obtain ⟨n, rfl⟩ := Nat.exists_eq_add_of_lt hfirst
    have hn : n < body.length := by omega
    have hindex : front.length + n + 1 - front.length = n + 1 := by omega
    refine ⟨body[n], ?_, hbody _ (List.getElem_mem hn)⟩
    rw [List.getElem?_append_right (by omega), hindex, List.getElem?_cons_succ,
      List.getElem?_append_left hn, List.getElem?_eq_getElem hn]

theorem Partners.frames (h : Partners lines i j) (htidy : ∀ line ∈ lines, line.IsTidy) :
    Frames (textLines (render lines)) i j := by
  obtain ⟨before, start, inner, stop, after, rfl, hinner, rfl, rfl⟩ := h
  have hstart : indent start.toList = 0 := by
    cases htidy (.opening start) (by simp) with
    | opening _ hfirst => exact indent_eq_zero hfirst
  have hstop : indent stop.toList = 0 := by
    cases htidy (.closing stop) (by simp) with
    | closing _ hfirst => exact indent_eq_zero hfirst
  let depth := depthAfter 0 before
  have htext : textLines (render (before ++ .opening start :: (inner ++ .closing stop :: after))) =
      printedFrom 0 before ++ (Line.opening start).printed depth ::
        (printedFrom (depth + 1) inner ++ (Line.closing stop).printed (depth + 1) ::
          (printedFrom depth after ++ [[]])) := by
    rw [render, textLines_renderFrom htidy, printedFrom_append, printedFrom, printedFrom_append,
      printedFrom, Line.next, hinner.depthAfter_eq]
    simp [Line.next, depth]
  have hfirst : indent ((Line.opening start).printed depth) = 4 * depth := by
    rw [Line.printed, indent_indentation, hstart, Nat.add_zero]
  have hlast : indent ((Line.closing stop).printed (depth + 1)) = 4 * depth := by
    rw [Line.printed, indent_indentation, hstop, Nat.add_zero, Nat.add_sub_cancel]
  have hframes := frames_of_eq htext (hfirst.trans hlast.symm) fun text htext =>
    (hinner.isIndented (depth + 1) text htext).imp_right fun hle => by omega
  simpa only [length_printedFrom] using hframes

/-- How lines form blocks, and how these stand in the source that is printed from them. -/
structure WellBlocked (lines : List Line) (source : String) : Prop where
  /-- No block is closed at the top, where the depth could not fall. -/
  openAtClosing : ∀ before stop after, lines = before ++ .closing stop :: after →
    0 < depthAfter 0 before
  endsAtTop : depthAfter 0 lines = 0
  opened : ∀ i start, lines[i]? = some (.opening start) → ∃! j, Partners lines i j
  closed : ∀ j stop, lines[j]? = some (.closing stop) → ∃! i, Partners lines i j
  later : ∀ i j, Partners lines i j → i < j
  /-- Blocks close in the opposite order. -/
  nested : ∀ i j k l, Partners lines i j → Partners lines k l → i < k → k < j → l < j
  /-- The lines of the source are those that are printed, one for each. -/
  printed : textLines source = printedFrom 0 lines ++ [[]]
  framed : ∀ i j, Partners lines i j → Frames (textLines source) i j

theorem Balanced.wellBlocked (h : Balanced lines) (htidy : ∀ line ∈ lines, line.IsTidy) :
    WellBlocked lines (render lines) where
  openAtClosing before stop after heq := (heq ▸ h).depth_pos
  endsAtTop := h.depthAfter_eq 0
  opened i start hi := by
    obtain ⟨j, hj⟩ := h.exists_closing hi
    exact ⟨j, hj, fun l hl => hl.right_unique hj⟩
  closed j stop hj := by
    obtain ⟨i, hi⟩ := h.exists_opening hj
    exact ⟨i, hi, fun k hk => hk.left_unique hi⟩
  later i j hij := hij.lt
  nested i j k l hij hkl := hij.nested hkl
  printed := textLines_renderFrom htidy 0
  framed i j hij := hij.frames htidy

/-! ## Arranged lines -/

/-- Lines that are fit to be printed as blocks. -/
structure Arranged (lines : List Line) : Prop where
  balanced : Balanced lines
  tidy : ∀ line ∈ lines, line.IsTidy

namespace Arranged

variable {lines inner : List Line} {text start : String}

theorem nil : Arranged [] :=
  ⟨.nil, fun _ h => absurd h List.not_mem_nil⟩

theorem blank (h : Arranged lines) : Arranged (.blank :: lines) :=
  ⟨.flat .blank h.balanced, List.forall_mem_cons.2 ⟨.blank, h.tidy⟩⟩

theorem plain (htext : OneLine text) (h : Arranged lines) : Arranged (.plain text :: lines) :=
  ⟨.flat (.plain text) h.balanced, List.forall_mem_cons.2 ⟨.plain htext, h.tidy⟩⟩

/-- A block between braces. -/
theorem braced (hstart : OneLine start) (hfirst : start.toList.head? ≠ some ' ')
    (hinner : Arranged inner) (h : Arranged lines) :
    Arranged (.opening start :: (inner ++ .closing "\x7d" :: lines)) := by
  refine ⟨.block start "\x7d" hinner.balanced h.balanced, ?_⟩
  refine List.forall_mem_cons.2 ⟨.opening hstart hfirst, List.forall_mem_append.2 ⟨hinner.tidy, ?_⟩⟩
  exact List.forall_mem_cons.2 ⟨.closing (by decide) (by decide), h.tidy⟩

theorem append (hfirst : Arranged inner) (h : Arranged lines) : Arranged (inner ++ lines) :=
  ⟨hfirst.balanced.append h.balanced, List.forall_mem_append.2 ⟨hfirst.tidy, h.tidy⟩⟩

theorem flatMap {Item : Type} {items : List Item} {print : Item → List Line}
    (h : ∀ item ∈ items, Arranged (print item)) : Arranged (items.flatMap print) := by
  induction items with
  | nil => exact nil
  | cons item rest ih =>
      obtain ⟨hitem, hrest⟩ := List.forall_mem_cons.1 h
      exact hitem.append (ih hrest)

/-- Arranged lines with a blank line between any two of them. -/
theorem intercalate_blank {blocks : List (List Line)} (h : ∀ block ∈ blocks, Arranged block) :
    Arranged ([Line.blank].intercalate blocks) := by
  induction blocks with
  | nil => exact nil
  | cons block rest ih =>
      obtain ⟨hblock, hrest⟩ := List.forall_mem_cons.1 h
      cases rest with
      | nil => rwa [List.intercalate_singleton]
      | cons next others =>
          rw [List.intercalate_cons_cons, List.append_assoc]
          exact hblock.append (.blank (ih hrest))

theorem map_plain {Item : Type} {items : List Item} {print : Item → String}
    (h : ∀ item ∈ items, OneLine (print item)) :
    Arranged (items.map fun item => .plain (print item)) := by
  rw [List.map_eq_flatMap]
  exact flatMap fun item hitem => plain (h item hitem) nil

theorem wellBlocked (h : Arranged lines) : WellBlocked lines (render lines) :=
  h.balanced.wellBlocked h.tidy

end Arranged

/-! ## Texts on one line -/

theorem oneLine_of_isPlain {text : String} (h : ∀ c ∈ text.toList, Unicode.IsPlain c) :
    OneLine text :=
  fun hmem => absurd (h '\n' hmem) (by decide)

theorem oneLine_className (property : String) : OneLine (className property) :=
  oneLine_of_isPlain (isPlain_className property)

theorem oneLine_uncapitalize {text : String} (h : ∀ c ∈ text.toList, Unicode.IsPlain c) :
    OneLine (uncapitalize text) := by
  apply oneLine_of_isPlain
  rw [uncapitalize, String.toList_ofList]
  cases hchars : text.toList with
  | nil => exact fun c hc => absurd hc List.not_mem_nil
  | cons first rest =>
      rw [hchars] at h
      obtain ⟨hfirst, hrest⟩ := List.forall_mem_cons.1 h
      refine List.forall_mem_append.2 ⟨fun c hc => ?_, hrest⟩
      exact (Unicode.isSmallPlain_lower hfirst c hc).isPlain

theorem isPlain_normalize (property : String) :
    ∀ c ∈ (normalize property).toList, Unicode.IsPlain c := by
  rw [Naming.normalize, String.toList_ofList]
  exact isPlain_camel property.toList

theorem oneLine_parameterName (property : String) : OneLine (parameterName property) :=
  oneLine_uncapitalize (isPlain_normalize property)

theorem oneLine_fieldName {fieldPrefix : String} (h : OneLine fieldPrefix) (property : String) :
    OneLine (fieldName fieldPrefix property) := by
  rw [fieldName]
  split
  · exact oneLine_uncapitalize (isPlain_normalize property)
  · have hstem : OneLine (capitalize (normalize property)) := oneLine_className property
    simp +decide [h, hstem]

theorem oneLine_quote {text : List Char} (h : isSealed text = true) : OneLine (quote text) := by
  have htext : '\n' ∉ text := notMem_of_isSealedFrom h
  simp [OneLine, quote, htext]

theorem oneLine_intercalate {texts : List String} (h : ∀ text ∈ texts, OneLine text) :
    OneLine (", ".intercalate texts) := by
  intro hmem
  rw [String.toList_intercalate] at hmem
  rcases mem_intercalate hmem with hseparator | ⟨part, hpart, hmem⟩
  · exact absurd hseparator (by decide)
  · obtain ⟨text, htext, rfl⟩ := List.mem_map.1 hpart
    exact h text htext hmem

/-- What is written of a class stands on one line each, its literals apart. -/
structure HasOneLineNames (cls : ClassDef) : Prop where
  name : ∀ c ∈ cls.name.toList, Unicode.IsPlain c
  name_ne : cls.name ≠ ""
  fields : ∀ field ∈ cls.fields, OneLine field.name
  types : ∀ field ∈ cls.fields, ∀ name, field.ty.referencedClass? = some name → OneLine name

end Exemplar.Source
