import Exemplar.Proofs.Source.JavaIdentifiers
import Exemplar.Proofs.Source.Placement
import Exemplar.Proofs.Source.RustIdentifiers

/-!
# Generated files as their parts

The sources of a model are the prints of the units of its classes, in both languages, and of the
module file where there is one.  So names in the units are names in the files: where the keys of a
document are ASCII texts, the names of all members are legal.
-/

namespace Exemplar.Source

open Naming

/-- The parts of a file. -/
inductive FileUnit where
  | javaClass (unit : Java.CompilationUnit)
  | rustStruct (unit : Rust.StructUnit) (code : Rust.Code)
  | rustModules (maker : String) (unit : Rust.ModuleUnit)

namespace FileUnit

def lines : FileUnit → List Line
  | .javaClass unit => unit.lines
  | .rustStruct unit code => { unit with implementation := code.lines }.lines
  | .rustModules maker unit => [.plain s!"// @generated by {maker}", .blank] ++ unit.lines

/-- The names of the members and modules that a file declares are legal. -/
def HasLegalNames : FileUnit → Prop
  | .javaClass unit => unit.HasLegalNames
  | .rustStruct unit code => Rust.HasLegalNames unit code
  | .rustModules _ unit => unit.HasLegalNames

end FileUnit

/-- The units of a model, one for each file. -/
def unitsOf (model : Model) (options : Options) (namespaceText : String) : List FileUnit :=
  match options.target with
  | .java => model.classes.map fun cls => .javaClass (Java.unitOf model options namespaceText cls)
  | .rust =>
      (model.classes.map fun cls =>
          .rustStruct (Rust.structUnit model options cls) (Rust.codeOf options model cls)) ++
        [.rustModules options.generatedBy (Rust.moduleUnit model options)]

variable {model : Model} {options : Options} {namespaceText : String} {files : List SourceFile}

theorem lines_rustStruct (model : Model) (options : Options) (cls : ClassDef) :
    (FileUnit.rustStruct (Rust.structUnit model options cls)
      (Rust.codeOf options model cls)).lines = Rust.classLines model options cls := by
  rw [FileUnit.lines, Rust.lines_codeOf, ← Rust.lines_structUnit]

theorem lines_rustModules (model : Model) (options : Options) :
    (FileUnit.rustModules options.generatedBy (Rust.moduleUnit model options)).lines =
      Rust.moduleLines model options := by
  rw [FileUnit.lines, Rust.lines_moduleUnit, Rust.headerLines]

/-- The sources of a model are the prints of its units. -/
theorem sources_of_emit (h : model.emit options namespaceText = .ok files) :
    files.map (·.source) =
      (unitsOf model options namespaceText).map fun unit => render unit.lines := by
  unfold Model.emit at h
  unfold unitsOf
  cases htarget : options.target with
  | java =>
      rw [htarget] at h
      rw [List.map_map]
      exact map_of_mapM (fun _ _ hfile => (Java.source_of_fileOf hfile).2) (Java.mapM_of_files h)
  | rust =>
      rw [htarget] at h
      obtain ⟨rfl, -, -⟩ := Rust.files_eq_ok h
      simp only [List.map_append, List.map_map, Function.comp_def, List.map_cons, List.map_nil,
        lines_rustStruct, lines_rustModules, Rust.classSource, Rust.moduleSource]

/-- Where the classes of a model are named by words, the names in its files are legal. -/
theorem hasLegalNames_unitsOf (h : ∀ cls ∈ model.classes, cls.HasWords) :
    ∀ unit ∈ unitsOf model options namespaceText, unit.HasLegalNames := by
  intro unit hunit
  unfold unitsOf at hunit
  split at hunit
  · obtain ⟨cls, hcls, rfl⟩ := List.mem_map.1 hunit
    exact Java.hasLegalNames_unitOf (h cls hcls) namespaceText
  · rcases List.mem_append.1 hunit with hunit | hunit
    · obtain ⟨cls, hcls, rfl⟩ := List.mem_map.1 hunit
      exact Rust.hasLegalNames_codeOf (h cls hcls)
    · rw [List.mem_singleton.1 hunit]
      exact Rust.hasLegalNames_moduleUnit h

/-- If the keys of a document are ASCII texts and the prefix is made of letters, if of anything,
then the sources are those of units with legal names, whatever the target, with and without builders;
and the classes are named by words. -/
theorem emitted_hasLegalNames {lowering options : Options} {root namespaceText : String}
    {value : Json.Value} {watch : Watch} {model : Model} {files : List SourceFile}
    (hkeys : ∀ key ∈ value.keys, IsAscii key.toList)
    (hletters : ∀ c ∈ lowering.fieldPrefix.toList, c.isAlpha = true)
    (hmodel : (Generation.model lowering root value watch).result = .ok model)
    (hemit : model.emit options namespaceText = .ok files) :
    files.map (·.source) =
        (unitsOf model options namespaceText).map (fun unit => render unit.lines) ∧
      (∀ unit ∈ unitsOf model options namespaceText, unit.HasLegalNames) ∧
      ∀ name ∈ model.classNames, isClassName name = true := by
  obtain ⟨hroot, hmodel⟩ := Generation.of_model hmodel
  obtain ⟨hvalue, rfl⟩ := Resolution.eq_resolvedModel hmodel
  have hwords : ∀ cls ∈ (Resolution.resolvedModel lowering.fieldPrefix root value).classes,
      cls.HasWords := fun cls => Resolution.hasWords_resolvedModel hroot hvalue hkeys hletters
  refine ⟨sources_of_emit hemit, hasLegalNames_unitsOf hwords, ?_⟩
  intro name hname
  obtain ⟨cls, hcls, rfl⟩ := List.mem_map.1 hname
  rw [isClassName_eq_isWord]
  exact (hwords cls hcls).name

/-- A document whose keys, and the classes of which, are close to reserved words. -/
def reservedKeys : Json.Value :=
  .object [
    ("class", .object [("self", .bool true)]),
    ("types", .array [.object [("1", .string "x")]])]

/-- The model of it. -/
def reservedKeysModel : Model :=
  ⟨"Root",
    [⟨"Root", [⟨"class", "mClass", .named "Class", 1, 0⟩,
        ⟨"types", "mTypes", .list (.named "Type"), 1, 0⟩], 1⟩,
      ⟨"Class", [⟨"self", "mSelf", .bool, 1, 0⟩], 1⟩,
      ⟨"Type", [⟨"1", "mValue1", .string, 1, 0⟩], 1⟩], []⟩

theorem emitted_hasLegalNames_reservedKeys :
    (∀ key ∈ reservedKeys.keys, IsAscii key.toList) ∧
      (∀ c ∈ ({} : Options).fieldPrefix.toList, c.isAlpha = true) ∧
      (Generation.model {} "Root" reservedKeys Watch.never).result = .ok reservedKeysModel ∧
      (∀ target, ∃ files,
        reservedKeysModel.emit { target, generateBuilders := true } "api" = .ok files ∧
          ∀ unit ∈ unitsOf reservedKeysModel { target, generateBuilders := true } "api",
            unit.HasLegalNames) ∧
      (Rust.moduleUnit reservedKeysModel { target := .rust }).modules =
        ["root", "class", "r#type"] := by
  have hkeys : ∀ key ∈ reservedKeys.keys, IsAscii key.toList := by
    decide +kernel
  have hletters : ∀ c ∈ ({} : Options).fieldPrefix.toList, c.isAlpha = true :=
    List.all_eq_true.1 (by decide)
  have hmodel : (Generation.model {} "Root" reservedKeys Watch.never).result =
      .ok reservedKeysModel := by
    decide +kernel
  refine ⟨hkeys, hletters, hmodel, fun target => ?_, by decide +kernel⟩
  have hmade : ∃ files,
      reservedKeysModel.emit { target, generateBuilders := true } "api" = .ok files := by
    cases target <;> exact ⟨_, rfl⟩
  obtain ⟨files, hfiles⟩ := hmade
  exact ⟨files, hfiles, (emitted_hasLegalNames hkeys hletters hmodel hfiles).2.1⟩

end Exemplar.Source
