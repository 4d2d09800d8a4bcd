import Mathlib.Data.List.Forall2
import Exemplar.Proofs.Source.Confinement
import Exemplar.Proofs.Source.JavaLiterals

/-!
# Marks of the generator

Every source says what made it, with a text from the options.  Nothing is checked against that text,
and it stands in one place of a source only.  In Java that is a literal on a line of its own, so that
no other line depends on the text.  In Rust it is put behind the slashes of a comment as it is, and
its lines behind the first stand by themselves.
-/

namespace Exemplar

namespace Text

/-- A text without the mark in front of another adds to its first piece. -/
theorem pieces_append_of_notMem {mark : Char} {start : List Char} (h : mark ∉ start)
    (cs : List Char) :
    ∃ first, pieces mark (start ++ cs) = (start ++ first) :: (pieces mark cs).tail := by
  induction start with
  | nil =>
      obtain ⟨first, rest, hpieces⟩ := List.exists_cons_of_ne_nil (pieces_ne_nil mark cs)
      exact ⟨first, by rw [List.nil_append, hpieces]; rfl⟩
  | cons c start ih =>
      have hc : c ≠ mark := fun heq => h (heq ▸ List.mem_cons_self)
      obtain ⟨first, hfirst⟩ := ih fun hmem => h (List.mem_cons_of_mem _ hmem)
      exact ⟨first, by rw [List.cons_append, pieces, if_neg hc, hfirst]; rfl⟩

/-- No line ends in what stays between its quotes. -/
theorem notMem_of_isSealedFrom {escaped : Bool} {text : List Char}
    (h : isSealedFrom escaped text = true) : '\n' ∉ text := by
  induction text generalizing escaped with
  | nil => exact List.not_mem_nil
  | cons c rest ih =>
      have hc : c ≠ '\n' ∧ ∃ escaped, isSealedFrom escaped rest = true := by
        cases escaped with
        | true =>
            simp only [isSealedFrom, Bool.and_eq_true, bne_iff_ne] at h
            exact ⟨h.1.1, false, h.2⟩
        | false =>
            rw [isSealedFrom] at h
            split at h
            · rename_i hbackslash
              exact ⟨by rw [hbackslash]; decide, true, h⟩
            · simp only [Bool.and_eq_true, bne_iff_ne] at h
              exact ⟨h.1.1.2, false, h.2⟩
      obtain ⟨hne, _, hrest⟩ := hc
      exact List.not_mem_cons_of_ne_of_not_mem hne.symm (ih hrest)

end Text

namespace Source

open Text

/-! ## Lines of a source -/

/-- The lines of a text, without their breaks. -/
def textLines (text : String) : List (List Char) :=
  pieces '\n' text.toList

theorem textLines_append (first second : String) :
    textLines (first ++ "\n" ++ second) = textLines first ++ textLines second := by
  rw [textLines, String.toList_append, String.toList_append, List.append_assoc]
  exact pieces_append _ _ _

theorem textLines_render_plain (text : String) (lines : List Line) :
    textLines (render (.plain text :: lines)) = textLines text ++ textLines (render lines) := by
  have hindentation : indentation 0 ++ text = text := String.empty_append
  rw [render, renderFrom, hindentation, textLines_append]
  rfl

theorem textLines_render_blank (lines : List Line) :
    textLines (render (.blank :: lines)) = [] :: textLines (render lines) := by
  have hbreak : render (.blank :: lines) = "" ++ "\n" ++ render lines := by
    rw [String.empty_append]
    rfl
  rw [hbreak, textLines_append]
  rfl

/-- A line that leaves the depth as it is. -/
inductive Line.IsFlat : Line → Prop where
  | plain (text : String) : IsFlat (.plain text)
  | blank : IsFlat .blank

/-- Flat lines give the same lines of text, whatever is behind them. -/
theorem exists_textLines_flat {flat : List Line} (h : ∀ line ∈ flat, line.IsFlat) :
    ∃ before, ∀ lines, textLines (render (flat ++ lines)) = before ++ textLines (render lines) := by
  induction flat with
  | nil => exact ⟨[], fun lines => rfl⟩
  | cons line rest ih =>
      obtain ⟨hline, hrest⟩ := List.forall_mem_cons.1 h
      obtain ⟨before, hbefore⟩ := ih hrest
      cases hline with
      | plain text =>
          refine ⟨textLines text ++ before, fun lines => ?_⟩
          rw [List.cons_append, textLines_render_plain, hbefore, List.append_assoc]
      | blank =>
          refine ⟨[] :: before, fun lines => ?_⟩
          rw [List.cons_append, textLines_render_blank, hbefore, List.cons_append]

/-! ## Java -/

namespace Java

variable {model : Model} {options : Options} {package : String}

/-- The line of a class that tells what made it. -/
def generatedLine (model : Model) (mark : String) : String :=
  s!"@{qualify model generatedType}({literal mark})"

theorem notMem_literal (text : String) : '\n' ∉ (literal text).toList := by
  have hescaped : '\n' ∉ text.toList.flatMap fourDigitChar :=
    notMem_of_isSealedFrom (isSealed_flatMap isSealed_fourDigitChar text.toList)
  rw [literal_eq_quote, quote, String.toList_ofList]
  simp [hescaped]

theorem textLines_generatedLine (model : Model) (mark : String) :
    textLines (generatedLine model mark) = [(generatedLine model mark).toList] := by
  have hname : '\n' ∉ (qualify model generatedType).toList := by
    unfold qualify
    split <;> decide
  apply pieces_of_notMem
  simp [generatedLine, toString, hname, notMem_literal]

/-- The file of a class as it is written. -/
def classSource (model : Model) (options : Options) (package : String) (cls : ClassDef) :
    SourceFile :=
  ⟨cls.name, (directory package).join ⟨cls.name ++ ".java"⟩,
    render (classLines model options package cls)⟩

/-- What is checked before there are files. -/
def checks (model : Model) (options : Options) : Except Failure Unit := do
  if options.generateBuilders then
    checkBuilderNames (fun _ => builderClass) model
  model.classes.forM (checkMembers model options)

theorem mapM_fileOf_eq_map (classes : List ClassDef) :
    classes.mapM (fileOf model options package) =
      (classes.forM (checkMembers model options)).map fun _ =>
        classes.map (classSource model options package) := by
  induction classes with
  | nil => rfl
  | cons cls rest ih =>
      have hchecks : (cls :: rest).forM (checkMembers model options) =
          (do checkMembers model options cls; rest.forM (checkMembers model options)) := rfl
      rw [List.mapM_cons, hchecks, fileOf, ih]
      cases checkMembers model options cls with
      | error failure => rfl
      | ok checked => cases rest.forM (checkMembers model options) <;> rfl

/-- There are files if the checks pass. -/
theorem files_eq_map (model : Model) (options : Options) (package : String) :
    Java.files model options package =
      (checks model options).map fun _ =>
        model.classes.map (classSource model options package) := by
  rw [Java.files, checks, mapM_fileOf_eq_map]
  dsimp only
  split
  · cases checkBuilderNames (fun _ => builderClass) model <;> rfl
  · rfl

theorem isFlat_of_mem_headerLines {members : List Member} :
    ∀ line ∈ headerLines model options package members, line.IsFlat := by
  intro line hline
  rcases List.mem_append.1 hline with hline | hblank
  · rcases List.mem_append.1 hline with hclause | himport
    · split at hclause
      · cases hclause
      · rcases List.mem_cons.1 hclause with rfl | hclause
        · exact .plain _
        · rw [List.mem_singleton.1 hclause]
          exact .blank
    · obtain ⟨name, -, rfl⟩ := List.mem_map.1 himport
      exact .plain _
  · split at hblank
    · cases hblank
    · rw [List.mem_singleton.1 hblank]
      exact .blank

/-- Sources of a class under two marks differ in one line. -/
theorem textLines_classSource (cls : ClassDef) (mark : String) :
    ∃ before after,
      textLines (classSource model options package cls).source =
          before ++ (generatedLine model options.generatedBy).toList :: after ∧
        textLines (classSource model { options with generatedBy := mark } package cls).source =
          before ++ (generatedLine model mark).toList :: after := by
  obtain ⟨before, hbefore⟩ := exists_textLines_flat
    (@isFlat_of_mem_headerLines model options package (cls.fields.map (Member.ofField model)))
  have hlines : ∃ body,
      classLines model options package cls =
          headerLines model options package (cls.fields.map (Member.ofField model)) ++
            .plain (generatedLine model options.generatedBy) :: body ∧
        classLines model { options with generatedBy := mark } package cls =
          headerLines model options package (cls.fields.map (Member.ofField model)) ++
            .plain (generatedLine model mark) :: body := ⟨_, rfl, rfl⟩
  obtain ⟨body, hown, hother⟩ := hlines
  refine ⟨before, textLines (render body), ?_, ?_⟩
  · rw [classSource, hown, hbefore, textLines_render_plain, textLines_generatedLine]
    rfl
  · rw [classSource, hother, hbefore, textLines_render_plain, textLines_generatedLine]
    rfl

end Java

/-! ## Rust -/

/-- Whether nothing of a line is code. -/
def isComment (line : List Char) : Bool :=
  ['/', '/'].isPrefixOf line

/-- The lines of a text without the comments. -/
def codeLines (text : String) : List (List Char) :=
  (textLines text).filter (!isComment ·)

/-- What a mark adds to the code of a source: its lines behind the first that are no comments. -/
def strayLines (mark : String) : List (List Char) :=
  (textLines mark).tail.filter (!isComment ·)

namespace Rust

variable {model : Model} {options : Options} {modulePath : String}

/-- What is checked of classes before there are files, where `stems` are the modules declared
before. -/
def classChecks (check : ClassDef → Except Failure Unit) (modulePath : String)
    (stems : List String) : List ClassDef → Except Failure Unit
  | [] => .ok ()
  | cls :: rest =>
      let stem := moduleStem cls.name
      if stems.contains stem then
        .error (.duplicateMember (moduleFile modulePath).text stem)
      else do
        check cls
        classChecks check modulePath (stem :: stems) rest

/-- What is checked before there are files. -/
def checks (model : Model) (options : Options) (modulePath : String) : Except Failure Unit := do
  if options.generateBuilders then
    checkBuilderNames builderName model
  classChecks (checkMembers model options) modulePath ["mod"] model.classes

theorem classFiles_eq_map (stems : List String) (classes : List ClassDef) :
    classFiles model options modulePath stems classes =
      (classChecks (checkMembers model options) modulePath stems classes).map fun _ =>
        classes.map (classSource model options modulePath) := by
  induction classes generalizing stems with
  | nil => rfl
  | cons cls rest ih =>
      rw [classFiles, classChecks]
      dsimp only
      split
      · rfl
      · rw [ih]
        cases checkMembers model options cls with
        | error failure => rfl
        | ok checked =>
            cases classChecks (checkMembers model options) modulePath
              (moduleStem cls.name :: stems) rest <;> rfl

/-- There are files if the checks pass. -/
theorem files_eq_map (model : Model) (options : Options) (modulePath : String) :
    Rust.files model options modulePath =
      (checks model options modulePath).map fun _ =>
        model.classes.map (classSource model options modulePath) ++
          [moduleSource model options modulePath] := by
  have hclasses : (do
        let classes ← classFiles model options modulePath ["mod"] model.classes
        return classes ++ [moduleSource model options modulePath]) =
      (classChecks (checkMembers model options) modulePath ["mod"] model.classes).map fun _ =>
        model.classes.map (classSource model options modulePath) ++
          [moduleSource model options modulePath] := by
    rw [classFiles_eq_map]
    cases classChecks (checkMembers model options) modulePath ["mod"] model.classes <;> rfl
  rw [Rust.files, checks]
  dsimp only
  split
  · cases checkBuilderNames builderName model with
    | error failure => rfl
    | ok checked => exact hclasses
  · exact hclasses

/-- The code of a source is behind what its mark adds to it. -/
theorem codeLines_header (options : Options) (body : List Line) :
    codeLines (render (headerLines options ++ body)) =
      strayLines options.generatedBy ++ [] :: codeLines (render body) := by
  have hstart : (s!"// @generated by {options.generatedBy}").toList =
      "// @generated by ".toList ++ options.generatedBy.toList := by
    simp [toString]
  obtain ⟨first, hfirst⟩ := pieces_append_of_notMem
    (by decide : '\n' ∉ "// @generated by ".toList) options.generatedBy.toList
  rw [codeLines, headerLines, List.cons_append, List.singleton_append, textLines_render_plain,
    textLines_render_blank, textLines, hstart, hfirst, List.cons_append,
    List.filter_cons_of_neg (by simp [isComment]), List.filter_append]
  rfl

/-- What the mark adds is in the source of every class. -/
theorem mem_codeLines_classSource {line : List Char} (h : line ∈ strayLines options.generatedBy)
    (cls : ClassDef) : line ∈ codeLines (classSource model options modulePath cls).source := by
  have hcode : ∃ body, codeLines (classSource model options modulePath cls).source =
      strayLines options.generatedBy ++ body := ⟨_, codeLines_header options _⟩
  obtain ⟨body, hbody⟩ := hcode
  rw [hbody]
  exact List.mem_append_left _ h

theorem codeLines_eq_iff {options other : Options} {body : List Line} :
    codeLines (render (headerLines other ++ body)) =
        codeLines (render (headerLines options ++ body)) ↔
      strayLines other.generatedBy = strayLines options.generatedBy := by
  rw [codeLines_header, codeLines_header, List.append_left_inj]

end Rust

/-! ## Files under two marks -/

/-- What is checked before there are files. -/
def checksOf (model : Model) (options : Options) (namespaceText : String) : Except Failure Unit :=
  match options.target with
  | .java => Java.checks model options
  | .rust => Rust.checks model options namespaceText

/-- The files of a model that passes the checks. -/
def sourcesOf (model : Model) (options : Options) (namespaceText : String) : List SourceFile :=
  match options.target with
  | .java => model.classes.map (Java.classSource model options namespaceText)
  | .rust =>
      model.classes.map (Rust.classSource model options namespaceText) ++
        [Rust.moduleSource model options namespaceText]

theorem emit_eq_map (model : Model) (options : Options) (namespaceText : String) :
    model.emit options namespaceText =
      (checksOf model options namespaceText).map fun _ =>
        sourcesOf model options namespaceText := by
  unfold Model.emit checksOf sourcesOf
  cases options.target with
  | java => exact Java.files_eq_map model options namespaceText
  | rust => exact Rust.files_eq_map model options namespaceText

/-- No check sees the mark. -/
theorem checksOf_marked (model : Model) (options : Options) (namespaceText mark : String) :
    checksOf model { options with generatedBy := mark } namespaceText =
      checksOf model options namespaceText := by
  unfold checksOf
  cases options.target with
  | java => rfl
  | rust => rfl

/-- How a file and the one in its place under another mark differ. -/
structure DiffersInMark (model : Model) (target : Target) (mark other : String)
    (file twin : SourceFile) : Prop where
  className : twin.className = file.className
  path : twin.path = file.path
  /-- In Java only the line of the mark differs. -/
  java : target = .java → ∃ before after,
    textLines file.source = before ++ (Java.generatedLine model mark).toList :: after ∧
      textLines twin.source = before ++ (Java.generatedLine model other).toList :: after
  /-- In Rust the code is the same exactly if both marks add the same to it. -/
  rust : target = .rust →
    (codeLines twin.source = codeLines file.source ↔ strayLines other = strayLines mark)

theorem Java.differsInMark (cls : ClassDef) (model : Model) (options : Options)
    (package mark : String) :
    DiffersInMark model .java options.generatedBy mark (Java.classSource model options package cls)
      (Java.classSource model { options with generatedBy := mark } package cls) where
  className := rfl
  path := rfl
  java _ := Java.textLines_classSource cls mark
  rust := nofun

theorem Rust.differsInMark_classSource (cls : ClassDef) (model : Model) (options : Options)
    (modulePath mark : String) :
    DiffersInMark model .rust options.generatedBy mark
      (Rust.classSource model options modulePath cls)
      (Rust.classSource model { options with generatedBy := mark } modulePath cls) where
  className := rfl
  path := rfl
  java := nofun
  rust _ := Rust.codeLines_eq_iff

theorem Rust.differsInMark_moduleSource (model : Model) (options : Options)
    (modulePath mark : String) :
    DiffersInMark model .rust options.generatedBy mark
      (Rust.moduleSource model options modulePath)
      (Rust.moduleSource model { options with generatedBy := mark } modulePath) where
  className := rfl
  path := rfl
  java := nofun
  rust _ := Rust.codeLines_eq_iff

theorem forall₂_map {α β γ : Type} {related : β → γ → Prop} {first : α → β} {second : α → γ}
    {entries : List α} (h : ∀ entry ∈ entries, related (first entry) (second entry)) :
    List.Forall₂ related (entries.map first) (entries.map second) := by
  simpa only [List.forall₂_map_left_iff, List.forall₂_map_right_iff, List.forall₂_same] using h

theorem sourcesOf_marked (model : Model) (options : Options) (namespaceText mark : String) :
    List.Forall₂ (DiffersInMark model options.target options.generatedBy mark)
      (sourcesOf model options namespaceText)
      (sourcesOf model { options with generatedBy := mark } namespaceText) := by
  obtain ⟨fieldPrefix, builders, expose, target, maker⟩ := options
  cases target with
  | java =>
      apply forall₂_map
      exact fun cls _ => Java.differsInMark cls model _ namespaceText mark
  | rust =>
      refine List.rel_append ?_ (.cons (Rust.differsInMark_moduleSource model _ _ mark) .nil)
      apply forall₂_map
      exact fun cls _ => Rust.differsInMark_classSource cls model _ namespaceText mark

/-- Under two marks emission fails alike, or gives files that differ as their marks do. -/
theorem emit_differs_in_mark (model : Model) (options : Options) (namespaceText mark : String) :
    (∃ failure, model.emit options namespaceText = .error failure ∧
        model.emit { options with generatedBy := mark } namespaceText = .error failure) ∨
      ∃ files twins, model.emit options namespaceText = .ok files ∧
        model.emit { options with generatedBy := mark } namespaceText = .ok twins ∧
        List.Forall₂ (DiffersInMark model options.target options.generatedBy mark) files twins := by
  rw [emit_eq_map, emit_eq_map, checksOf_marked model options namespaceText mark]
  cases checksOf model options namespaceText with
  | error failure => exact .inl ⟨failure, rfl, rfl⟩
  | ok checked => exact .inr ⟨_, _, rfl, rfl, sourcesOf_marked model options namespaceText mark⟩

/-- The second line of a mark is a line of code in the Rust sources under it, which are no longer the
same. -/
theorem emit_takes_code_of_mark :
    ∃ file twin shared sharedTwin,
      loneModel.emit { target := .rust } "" = .ok [file, shared] ∧
      loneModel.emit { target := .rust, generatedBy := "x\nstruct Evil;" } "" =
        .ok [twin, sharedTwin] ∧
      "struct Evil;".toList ∈ codeLines twin.source ∧
      codeLines twin.source ≠ codeLines file.source ∧
      codeLines sharedTwin.source ≠ codeLines shared.source := by
  have hstray : "struct Evil;".toList ∈ strayLines "x\nstruct Evil;" := by decide
  have hother : strayLines "x\nstruct Evil;" ≠ strayLines "json-pojo" := by decide
  exact ⟨Rust.classSource loneModel { target := .rust } "" _,
    Rust.classSource loneModel { target := .rust, generatedBy := "x\nstruct Evil;" } "" _, _, _,
    rfl, rfl, Rust.mem_codeLines_classSource hstray _, mt Rust.codeLines_eq_iff.1 hother,
    mt Rust.codeLines_eq_iff.1 hother⟩

end Source

end Exemplar
