import Exemplar.Proofs.Collection
import Exemplar.Proofs.Source.JavaBlocks
import Exemplar.Proofs.Source.RustBlocks

/-!
# The blocks of generated files

Whatever the keys of a document, its files are written from arranged lines, as long as the texts
that come from the outside stand on one line each: the prefix of the fields, the namespace and the
mark of the generator.  Keys become names, which hold no line break, or literals, which escape it.
-/

namespace Exemplar

open Json Naming

namespace Source

/-- The lines that the files of a model are written from, in the order of the files. -/
def linesOf (model : Model) (options : Options) (namespaceText : String) : List (List Line) :=
  match options.target with
  | .java => model.classes.map (Java.classLines model options namespaceText)
  | .rust =>
      model.classes.map (Rust.classLines model options) ++ [Rust.moduleLines model options]

variable {model : Model} {options : Options} {namespaceText : String}

/-- The sources of a model are printed from its lines. -/
theorem sources_of_lines {files : List SourceFile}
    (h : model.emit options namespaceText = .ok files) :
    files.map (·.source) = (linesOf model options namespaceText).map render := by
  rw [emit_eq_map] at h
  cases hchecks : checksOf model options namespaceText with
  | error failure =>
      rw [hchecks] at h
      cases h
  | ok checked =>
      rw [hchecks] at h
      cases h
      rw [sourcesOf, linesOf]
      cases options.target with
      | java =>
          rw [List.map_map, List.map_map]
          rfl
      | rust =>
          rw [List.map_append, List.map_append, List.map_map, List.map_map]
          rfl

theorem arranged_linesOf (h : ∀ cls ∈ model.classes, HasOneLineNames cls)
    (hnamespace : OneLine namespaceText) (hmaker : OneLine options.generatedBy) :
    ∀ lines ∈ linesOf model options namespaceText, Arranged lines := by
  intro lines hlines
  rw [linesOf] at hlines
  split at hlines
  · obtain ⟨cls, hcls, rfl⟩ := List.mem_map.1 hlines
    exact Java.arranged_classLines (h cls hcls) hnamespace
  · rcases List.mem_append.1 hlines with hlines | hlines
    · obtain ⟨cls, hcls, rfl⟩ := List.mem_map.1 hlines
      exact Rust.arranged_classLines (h cls hcls) hmaker model
    · rw [List.mem_singleton.1 hlines]
      exact Rust.arranged_moduleLines h hmaker

end Source

open Source

theorem Resolution.hasOneLineNames_resolvedModel {root fieldPrefix : String} {value : Value}
    (hroot : isClassName root = true) (hvalue : Discovery.isRoot value = true)
    (hoption : OneLine fieldPrefix) {cls : ClassDef}
    (hcls : cls ∈ (resolvedModel fieldPrefix root value).classes) : HasOneLineNames cls where
  name := Rust.hasPlainNames_resolvedModel hroot hvalue fieldPrefix cls hcls
  name_ne := classNames_ne_empty hroot hvalue fieldPrefix cls.name (List.mem_map_of_mem hcls)
  fields field hfield := by
    rw [name_eq_fieldName hcls hfield]
    exact oneLine_fieldName hoption field.property
  types field hfield name hname := by
    obtain ⟨-, property, rfl⟩ := referencedClass?_resolvedModel hvalue hcls hfield hname
    exact oneLine_className property

namespace Source

/-- The files of a document have balanced blocks, whatever its keys, whatever the target, with and
without builders.  Written from its lines, a file never closes a block where none is open, and none
is left open at its end.  Each line that opens a block has one partner behind it that closes the
block, and each line that closes one has one before it, in the order of brackets.  In the printed
source partners have the same indentation, and all lines between them are empty or indented
deeper. -/
theorem emitted_wellBlocked {lowering options : Options} {root namespaceText : String}
    {value : Value} {watch : Watch} {model : Model} (hoption : OneLine lowering.fieldPrefix)
    (hnamespace : OneLine namespaceText) (hmaker : OneLine options.generatedBy)
    (hmodel : (Generation.model lowering root value watch).result = .ok model) :
    (∀ lines ∈ linesOf model options namespaceText, WellBlocked lines (render lines)) ∧
      ∀ files, model.emit options namespaceText = .ok files →
        files.map (·.source) = (linesOf model options namespaceText).map render := by
  obtain ⟨hroot, hmodel⟩ := Generation.of_model hmodel
  obtain ⟨hvalue, rfl⟩ := Resolution.eq_resolvedModel hmodel
  refine ⟨fun lines hlines => ?_, fun files hemit => sources_of_lines hemit⟩
  have hnames : ∀ cls ∈ (Resolution.resolvedModel lowering.fieldPrefix root value).classes,
      HasOneLineNames cls :=
    fun cls => Resolution.hasOneLineNames_resolvedModel hroot hvalue hoption
  exact (arranged_linesOf hnames hnamespace hmaker lines hlines).wellBlocked

/-- A document with line breaks, braces and blanks in its keys, and with an object that is empty. -/
def brokenKeys : Value :=
  .object [
    (" \n\x7d ", .array [.array [.object [("\x7b\n", .null)]]]),
    ("empty", .object [])]

/-- The model of it. -/
def brokenKeysModel : Model :=
  ⟨"Root",
    [⟨"Root", [⟨"empty", "mEmpty", .named "Empty", 1, 0⟩,
        ⟨" \n\x7d ", "mValue", .list (.list (.named "Value")), 1, 0⟩], 1⟩,
      ⟨"Value", [⟨"\x7b\n", "mValue", .named "Value", 1, 1⟩], 1⟩,
      ⟨"Empty", [], 1⟩], []⟩

theorem emitted_wellBlocked_brokenKeys :
    OneLine ({} : Options).fieldPrefix ∧ OneLine "api" ∧ OneLine ({} : Options).generatedBy ∧
      (Generation.model {} "Root" brokenKeys Watch.never).result = .ok brokenKeysModel ∧
      ∀ target generateBuilders,
        (∀ lines ∈ linesOf brokenKeysModel { target, generateBuilders } "api",
          WellBlocked lines (render lines)) ∧
        ∃ files, brokenKeysModel.emit { target, generateBuilders } "api" = .ok files ∧
          files.map (·.source) =
            (linesOf brokenKeysModel { target, generateBuilders } "api").map render := by
  have hoption : OneLine ({} : Options).fieldPrefix := by
    decide
  have hnamespace : OneLine "api" := by
    decide
  have hmaker : OneLine ({} : Options).generatedBy := by
    decide
  have hmodel : (Generation.model {} "Root" brokenKeys Watch.never).result =
      .ok brokenKeysModel := by
    decide +kernel
  refine ⟨hoption, hnamespace, hmaker, hmodel, fun target generateBuilders => ?_⟩
  have hmade : ∃ files,
      brokenKeysModel.emit { target, generateBuilders } "api" = .ok files := by
    cases target <;> cases generateBuilders <;> exact ⟨_, rfl⟩
  obtain ⟨files, hfiles⟩ := hmade
  let options : Options := { target, generateBuilders }
  have hmark : OneLine options.generatedBy := hmaker
  obtain ⟨hblocks, hsources⟩ := emitted_wellBlocked hoption hnamespace hmark hmodel
  exact ⟨hblocks, files, hfiles, hsources files hfiles⟩

end Source

end Exemplar
