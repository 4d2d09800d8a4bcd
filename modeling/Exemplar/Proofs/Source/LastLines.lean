import Exemplar.Proofs.Source.JavaNames
import Exemplar.Proofs.Source.RustModules

/-!
# How sources end

A source ends with the line break of a line that is not empty: the closing brace of a class or of a
block behind it, or the last name that a module exports.
-/

namespace Exemplar.Source

/-- Whether a text ends with a line that is not empty, and its line break. -/
def EndsWithLine (text : String) : Prop :=
  ∃ body last, last ≠ '\n' ∧ text = body ++ String.ofList [last, '\n']

/-! ## Last lines -/

theorem exists_renderFrom_append (depth : Nat) (first second : List Line) :
    ∃ deep,
      renderFrom depth (first ++ second) = renderFrom depth first ++ renderFrom deep second := by
  induction first generalizing depth with
  | nil => exact ⟨depth, (String.empty_append).symm⟩
  | cons line rest ih =>
      cases line with
      | plain text =>
          obtain ⟨deep, hrest⟩ := ih depth
          exact ⟨deep, by simp only [List.cons_append, renderFrom, hrest, String.append_assoc]⟩
      | blank =>
          obtain ⟨deep, hrest⟩ := ih depth
          exact ⟨deep, by simp only [List.cons_append, renderFrom, hrest, String.append_assoc]⟩
      | opening text =>
          obtain ⟨deep, hrest⟩ := ih (depth + 1)
          exact ⟨deep, by simp only [List.cons_append, renderFrom, hrest, String.append_assoc]⟩
      | closing text =>
          obtain ⟨deep, hrest⟩ := ih (depth - 1)
          exact ⟨deep, by simp only [List.cons_append, renderFrom, hrest, String.append_assoc]⟩

/-- Whether a line ends with a mark. -/
inductive Line.EndsWith (mark : Char) : Line → Prop where
  | plain {text : String} (h : text.toList.getLast? = some mark) : EndsWith mark (.plain text)
  | closing {text : String} (h : text.toList.getLast? = some mark) : EndsWith mark (.closing text)

theorem EndsWithLine.append {text : String} (h : EndsWithLine text) (before : String) :
    EndsWithLine (before ++ text) := by
  obtain ⟨body, last, hlast, rfl⟩ := h
  exact ⟨before ++ body, last, hlast, String.append_assoc.symm⟩

theorem endsWithLine_renderFrom {line : Line} {mark : Char} (h : line.EndsWith mark)
    (hmark : mark ≠ '\n') (depth : Nat) : EndsWithLine (renderFrom depth [line]) := by
  have hlast : ∀ text : String, text.toList.getLast? = some mark → ∀ indent,
      EndsWithLine (indent ++ text ++ "\n" ++ "") := by
    intro text htext indent
    obtain ⟨body, hbody⟩ := List.getLast?_eq_some_iff.1 htext
    refine ⟨indent ++ String.ofList body, mark, hmark, String.toList_inj.1 ?_⟩
    simp [hbody]
  cases h with
  | plain h => exact hlast _ h _
  | closing h => exact hlast _ h _

theorem endsWithLine_render {lines : List Line} {line : Line} {mark : Char}
    (hlast : lines.getLast? = some line) (h : line.EndsWith mark) (hmark : mark ≠ '\n') :
    EndsWithLine (render lines) := by
  obtain ⟨before, rfl⟩ := List.getLast?_eq_some_iff.1 hlast
  obtain ⟨depth, hrender⟩ := exists_renderFrom_append 0 before [line]
  rw [render, hrender]
  exact (endsWithLine_renderFrom h hmark depth).append _

/-! ## Java -/

namespace Java

theorem endsWithLine_classLines (model : Model) (options : Options) (package : String)
    (cls : ClassDef) : EndsWithLine (render (classLines model options package cls)) := by
  have hlast : (classLines model options package cls).getLast? = some (.closing "\x7d") := by
    simp [classLines, List.getLast?_cons]
  exact endsWithLine_render hlast (.closing rfl) (by decide)

theorem endsWithLine_of_fileOf {model : Model} {options : Options} {package : String}
    {cls : ClassDef} {file : SourceFile} (h : fileOf model options package cls = .ok file) :
    EndsWithLine file.source := by
  obtain ⟨-, -, h⟩ := bind_eq_ok h
  cases h
  exact endsWithLine_classLines model options package cls

end Java

/-! ## Rust -/

namespace Rust

theorem endsWithLine_classLines (model : Model) (options : Options) (cls : ClassDef) :
    EndsWithLine (render (classLines model options cls)) := by
  have hlast : (classLines model options cls).getLast? = some (.closing "\x7d") := by
    cases hbuilders : options.generateBuilders <;>
      simp [classLines, hbuilders, implLines, builderLines, List.getLast?_cons]
  exact endsWithLine_render hlast (.closing rfl) (by decide)

theorem exportLine_endsWith (options : Options) (cls : ClassDef) :
    (exportLine options cls).EndsWith ';' := by
  have hlast : ∀ before ending : String, ending.toList.getLast? = some ';' →
      (before ++ ending).toList.getLast? = some ';' := by
    intro before ending hending
    rw [String.toList_append, List.getLast?_append, hending]
    rfl
  unfold exportLine
  split
  · exact .plain (hlast _ _ rfl)
  · exact .plain (hlast _ _ rfl)

theorem endsWithLine_moduleLines {model : Model} (hne : model.classes ≠ []) (options : Options) :
    EndsWithLine (render (moduleLines model options)) := by
  obtain ⟨before, last, hclasses⟩ := (List.eq_nil_or_concat model.classes).resolve_left hne
  have hlast : (moduleLines model options).getLast? = some (exportLine options last) := by
    simp [moduleLines, hclasses, List.getLast?_cons]
  exact endsWithLine_render hlast (exportLine_endsWith options last) (by decide)

end Rust

/-- Every source of a model ends with a line that is not empty. -/
theorem endsWithLine_of_emit {model : Model} (hne : model.classes ≠ []) {options : Options}
    {namespaceText : String} {files : List SourceFile}
    (h : model.emit options namespaceText = .ok files) :
    ∀ file ∈ files, EndsWithLine file.source := by
  intro file hfile
  rw [Model.emit] at h
  cases htarget : options.target with
  | java =>
      rw [htarget] at h
      obtain ⟨cls, -, hmade⟩ := (Java.files_eq_ok h).2 file hfile
      exact Java.endsWithLine_of_fileOf hmade
  | rust =>
      rw [htarget] at h
      obtain ⟨rfl, -, -⟩ := Rust.files_eq_ok h
      rcases List.mem_append.1 hfile with hfile | hfile
      · obtain ⟨cls, -, rfl⟩ := List.mem_map.1 hfile
        exact Rust.endsWithLine_classLines model options cls
      · rw [List.mem_singleton.1 hfile]
        exact Rust.endsWithLine_moduleLines hne options

end Exemplar.Source
