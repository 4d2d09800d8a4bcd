import Exemplar.Proofs.Naming.Initials
import Exemplar.Proofs.Source.Confinement
import Exemplar.Proofs.Source.FileUnits

/-!
# Names of generated types

A class that is named after a key never has the name of a reserved word: the name begins with an
upper case, and no ASCII letter is small in an upper case.  Structs and their builders are escaped
besides.  The name of the root class is written as it is given, and in Java, where no type is
escaped, it may be a reserved word.
-/

namespace Exemplar

namespace Source

open Naming Unicode

/-! ## Names that are not reserved -/

theorem Java.className_unreserved (property : String) : className property ∉ reservedWords := by
  have hsmall : ∀ word ∈ reservedWords,
      word.toList.headD '_' = '_' ∨ ¬ IsNoSmall (word.toList.headD '_') := by
    decide +kernel
  intro hreserved
  obtain ⟨c, rest, hchars, hnoSmall⟩ := exists_className_eq_cons property
  have hplain := isPlain_className property
  have hfirst := hsmall _ hreserved
  rw [hchars, List.headD_cons] at hfirst
  rw [hchars] at hplain
  rcases hfirst with rfl | hsmall
  · exact absurd (hplain '_' List.mem_cons_self) (by decide)
  · exact hsmall hnoSmall

theorem Rust.builderName_unreserved (name : String) :
    builderName name ∉ reservedWords ++ pathWords := by
  have hends : ∀ word ∈ reservedWords ++ pathWords,
      "Builder".toList.isSuffixOf word.toList = false := by
    decide +kernel
  intro hreserved
  have hfree := hends _ hreserved
  rw [builderName, String.toList_append, List.isSuffixOf_iff_suffix.2 (List.suffix_append _ _)]
    at hfree
  cases hfree

/-! ## Declared types -/

/-- The reserved words of a language. -/
def reservedWords : Target → List String
  | .java => Java.reservedWords
  | .rust => Rust.reservedWords ++ Rust.pathWords

/-- The types that a file declares. -/
def FileUnit.typeNames : FileUnit → List String
  | .javaClass unit => unit.classNames
  | .rustStruct unit code => unit.name :: (code.builder.map (·.name)).toList
  | .rustModules _ _ => []

variable {model : Model} {options : Options} {namespaceText : String} {files : List SourceFile}

theorem Java.classNames_unitOf (cls : ClassDef) :
    (unitOf model options namespaceText cls).classNames =
      cls.name :: if options.generateBuilders then [builderClass] else [] := by
  unfold CompilationUnit.classNames unitOf
  dsimp only
  split <;> rfl

/-- A Java file declares no type with a reserved name but its class. -/
theorem Java.reserved_of_mem_classNames {cls : ClassDef} {name : String}
    (hname : name ∈ (unitOf model options namespaceText cls).classNames)
    (hreserved : name ∈ reservedWords) : name = cls.name := by
  rw [classNames_unitOf] at hname
  rcases List.mem_cons.1 hname with heq | hname
  · exact heq
  · split at hname
    · rw [List.mem_singleton.1 hname] at hreserved
      exact absurd hreserved (by decide)
    · cases hname

/-- A Rust file declares no type with a reserved name. -/
theorem Rust.typeNames_unreserved {cls : ClassDef} {name : String}
    (hname : name ∈
      (FileUnit.rustStruct (structUnit model options cls) (codeOf options model cls)).typeNames) :
    name ∉ reservedWords ++ pathWords := by
  rcases List.mem_cons.1 hname with rfl | hname
  · exact escapeWord_unreserved cls.name
  · obtain ⟨builder, hbuilder, rfl⟩ := Option.map_eq_some_iff.1 (Option.mem_toList.1 hname)
    rw [mem_builder_codeOf hbuilder]
    exact builderName_unreserved (typeName cls.name)

/-- Only the root class may have a reserved name, and in Java only. -/
theorem reserved_of_mem_typeNames {root fieldPrefix : String} {value : Json.Value}
    (hvalue : Discovery.isRoot value = true) {unit : FileUnit}
    (hunit : unit ∈ unitsOf (Resolution.resolvedModel fieldPrefix root value) options namespaceText)
    {name : String} (hname : name ∈ unit.typeNames)
    (hreserved : name ∈ reservedWords options.target) :
    options.target = .java ∧ name = root := by
  unfold unitsOf at hunit
  cases htarget : options.target with
  | java =>
      rw [htarget] at hunit hreserved
      obtain ⟨cls, hcls, rfl⟩ := List.mem_map.1 hunit
      refine ⟨rfl, ?_⟩
      have hown := Java.reserved_of_mem_classNames hname hreserved
      rcases Rust.name_of_mem_resolvedModel hvalue hcls with hroot | ⟨property, hproperty⟩
      · rw [hown, hroot]
      · rw [hown, hproperty] at hreserved
        exact absurd hreserved (Java.className_unreserved property)
  | rust =>
      rw [htarget] at hunit hreserved
      rcases List.mem_append.1 hunit with hunit | hunit
      · obtain ⟨cls, -, rfl⟩ := List.mem_map.1 hunit
        exact absurd hreserved (Rust.typeNames_unreserved hname)
      · rw [List.mem_singleton.1 hunit] at hname
        cases hname

/-- The root class is declared under its name in Java. -/
theorem exists_root_of_java {root : String} {value : Json.Value}
    (hvalue : Discovery.isRoot value = true) (fieldPrefix : String)
    (htarget : options.target = .java) :
    ∃ unit ∈ unitsOf (Resolution.resolvedModel fieldPrefix root value) options namespaceText,
      root ∈ unit.typeNames := by
  have hroot : root ∈ (Resolution.resolvedModel fieldPrefix root value).classNames := by
    obtain ⟨members, rest, hvisited⟩ := Discovery.visited_eq_cons root hvalue
    rw [Resolution.classNames_resolvedModel, Discovery.discovered_keys hvalue, List.mem_eraseDups,
      hvisited, List.map_cons]
    exact List.mem_cons_self
  obtain ⟨cls, hcls, hname⟩ := List.mem_map.1 hroot
  unfold unitsOf
  rw [htarget]
  refine ⟨_, List.mem_map_of_mem hcls, ?_⟩
  rw [← hname]
  exact List.mem_cons_self

/-- The sources of a document declare a type whose name is a reserved word of the language exactly
if the language is Java and the root name is one; then it is the root class that has the name. -/
theorem declared_reserved_iff {lowering options : Options} {root namespaceText : String}
    {value : Json.Value} {watch : Watch} {model : Model} {files : List SourceFile}
    (hmodel : (Generation.model lowering root value watch).result = .ok model)
    (hemit : model.emit options namespaceText = .ok files) :
    files.map (·.source) =
        (unitsOf model options namespaceText).map (fun unit => render unit.lines) ∧
      (∀ unit ∈ unitsOf model options namespaceText, ∀ name ∈ unit.typeNames,
        (name ∈ reservedWords options.target ↔
          options.target = .java ∧ name = root ∧ root ∈ Java.reservedWords)) ∧
      (options.target = .java →
        ∃ unit ∈ unitsOf model options namespaceText, root ∈ unit.typeNames) := by
  obtain ⟨-, hmodel⟩ := Generation.of_model hmodel
  obtain ⟨hvalue, rfl⟩ := Resolution.eq_resolvedModel hmodel
  refine ⟨sources_of_emit hemit, fun unit hunit name hname => ⟨fun hreserved => ?_, ?_⟩,
    exists_root_of_java hvalue lowering.fieldPrefix⟩
  · obtain ⟨htarget, rfl⟩ := reserved_of_mem_typeNames hvalue hunit hname hreserved
    rw [htarget] at hreserved
    exact ⟨htarget, rfl, hreserved⟩
  · rintro ⟨htarget, rfl, hreserved⟩
    rw [htarget]
    exact hreserved

theorem declared_reserved_iff_reservedKeys :
    (Generation.model {} "Root" reservedKeys Watch.never).result = .ok reservedKeysModel ∧
      ∀ target, ∃ files,
        reservedKeysModel.emit { target, generateBuilders := true } "api" = .ok files ∧
          ∀ unit ∈ unitsOf reservedKeysModel { target, generateBuilders := true } "api",
            ∀ name ∈ unit.typeNames, name ∉ reservedWords target := by
  have hmodel : (Generation.model {} "Root" reservedKeys Watch.never).result =
      .ok reservedKeysModel := by
    decide +kernel
  refine ⟨hmodel, fun target => ?_⟩
  have hmade : ∃ files,
      reservedKeysModel.emit { target, generateBuilders := true } "api" = .ok files := by
    cases target <;> exact ⟨_, rfl⟩
  obtain ⟨files, hfiles⟩ := hmade
  refine ⟨files, hfiles, fun unit hunit name hname hreserved => ?_⟩
  obtain ⟨-, -, hroot⟩ :=
    ((declared_reserved_iff hmodel hfiles).2.1 unit hunit name hname).1 hreserved
  exact absurd hroot (by decide)

/-- The class of a document with one number, under a root name that is a reserved word. -/
def reservedRoot : ClassDef :=
  ⟨"class", [⟨"a", "mA", .integer, 1, 0⟩], 1⟩

/-- A root name that is a reserved word is accepted, and in Java the class is declared under it. -/
theorem declared_reserved_root :
    isClassName "class" = true ∧ "class" ∈ reservedWords .java ∧
      (Generation.model {} "class" lone Watch.never).result =
        .ok ⟨"class", [reservedRoot], []⟩ ∧
      ∃ file, Model.emit ⟨"class", [reservedRoot], []⟩ {} "" = .ok [file] ∧
        file.source = render (Java.classLines ⟨"class", [reservedRoot], []⟩ {} "" reservedRoot) ∧
        Line.opening "public class class \x7b" ∈
          Java.classLines ⟨"class", [reservedRoot], []⟩ {} "" reservedRoot := by
  have hmodel : (Generation.model {} "class" lone Watch.never).result =
      .ok ⟨"class", [reservedRoot], []⟩ := by
    decide +kernel
  exact ⟨by decide, by decide, hmodel, _, rfl, rfl, by decide +kernel⟩

end Source

end Exemplar
