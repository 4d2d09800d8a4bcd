import Mathlib.Data.List.Nodup
import Exemplar.Proofs.Discovery.Keys
import Exemplar.Source.Rust

/-!
# The module file

The module file declares a module for each class and exports the struct of the class and its
builder.  All of these names share one namespace.  Modules differ from each other and from builders,
and structs and builders differ from each other; but no check keeps a module from the name of a
struct, which it has where the struct is written in small letters or in a script without case.
-/

namespace Exemplar.Source.Rust

open Naming

/-! ## Names without the mark of a raw identifier -/

theorem unraw_of_notMem {text : String} (h : '#' ∉ text.toList) : unraw text = text := by
  unfold unraw
  split
  · rename_i rest hchars
    rw [hchars] at h
    exact absurd (by simp) h
  · rfl

theorem unraw_raw (text : String) : unraw ("r#" ++ text) = text := by
  rw [unraw, String.toList_append]
  exact String.ofList_toList

/-- The name that an escaped identifier stands for. -/
def plainName (identifier : String) : String :=
  if pathWords.contains identifier then identifier ++ "_" else identifier

theorem plainName_notMem_pathWords (identifier : String) : plainName identifier ∉ pathWords := by
  have hmarked : ∀ word ∈ pathWords, word ++ "_" ∉ pathWords := by decide
  unfold plainName
  split
  · rename_i hpath
    exact hmarked identifier (List.contains_iff_mem.1 hpath)
  · rename_i hpath
    exact mt List.contains_iff_mem.2 hpath

theorem hash_notMem_plainName {identifier : String} (h : '#' ∉ identifier.toList) :
    '#' ∉ (plainName identifier).toList := by
  unfold plainName
  split
  · simpa using h
  · exact h

theorem unraw_escapeWord_append {identifier suffix : String} (h : '#' ∉ identifier.toList)
    (hsuffix : '#' ∉ suffix.toList) :
    unraw (escapeWord identifier ++ suffix) = plainName identifier ++ suffix := by
  have hplain : '#' ∉ (plainName identifier ++ suffix).toList := by
    rw [String.toList_append, List.mem_append, not_or]
    exact ⟨hash_notMem_plainName h, hsuffix⟩
  unfold escapeWord
  split
  · rename_i hpath
    rw [plainName, if_pos hpath] at hplain ⊢
    exact unraw_of_notMem hplain
  · rename_i hpath
    rw [plainName, if_neg hpath] at hplain ⊢
    split
    · rw [String.append_assoc, unraw_raw]
    · exact unraw_of_notMem hplain

theorem unraw_escapeWord {identifier : String} (h : '#' ∉ identifier.toList) :
    unraw (escapeWord identifier) = plainName identifier := by
  have happend := @unraw_escapeWord_append identifier "" h (by decide)
  rwa [String.append_empty, String.append_empty] at happend

/-! ## Modules -/

/-- The stem of a module is the plain name of its class in snake case. -/
theorem moduleStem_eq_plainName (className : String) :
    moduleStem className = plainName (snake className) := rfl

theorem moduleStem_notMem_pathWords (className : String) : moduleStem className ∉ pathWords :=
  plainName_notMem_pathWords (snake className)

/-- A module name holds no capital and no hash, as far as it is ASCII. -/
theorem moduleStem_chars {className : String} (h : ∀ c ∈ className.toList, Unicode.IsPlain c) :
    ∀ c ∈ (moduleStem className).toList, c = '_' ∨ Unicode.IsSmallPlain c := by
  have hsnake : ∀ c ∈ (snake className).toList, c = '_' ∨ Unicode.IsSmallPlain c := by
    rw [snake, String.toList_ofList]
    exact isSmallPlain_snakeChars h
  unfold moduleStem
  dsimp only
  split
  · intro c hmem
    rw [String.toList_append] at hmem
    rcases List.mem_append.1 hmem with hmem | hmem
    · exact hsnake c hmem
    · exact .inl (List.mem_singleton.1 hmem)
  · exact hsnake

theorem unraw_moduleName {className : String} (h : ∀ c ∈ className.toList, Unicode.IsPlain c) :
    unraw (moduleName className) = moduleStem className := by
  have hhash : '#' ∉ (moduleStem className).toList := by
    intro hmem
    rcases moduleStem_chars h '#' hmem with heq | hsmall
    · exact absurd heq (by decide)
    · exact absurd hsmall (by decide)
  have hpath : ¬ pathWords.contains (moduleStem className) = true :=
    mt List.contains_iff_mem.1 (moduleStem_notMem_pathWords className)
  rw [moduleName, unraw_escapeWord hhash, plainName, if_neg hpath]

/-- No module has the name of a builder, which has a capital. -/
theorem moduleStem_ne_builderName {className : String}
    (h : ∀ c ∈ className.toList, Unicode.IsPlain c) (owner : String) :
    moduleStem className ≠ builderName owner := by
  intro heq
  have hcapital : 'B' ∈ (moduleStem className).toList := by
    rw [heq, builderName, String.toList_append]
    exact List.mem_append_right _ (by decide)
  rcases moduleStem_chars h 'B' hcapital with hunderscore | hsmall
  · exact absurd hunderscore (by decide)
  · exact absurd hsmall (by decide)

/-! ## Structs and builders -/

section Structs

variable {name other : String}

theorem underscore_notMem (h : ∀ c ∈ name.toList, Unicode.IsPlain c) : '_' ∉ name.toList := by
  intro hmem
  exact absurd (h '_' hmem) (by decide)

theorem hash_notMem (h : ∀ c ∈ name.toList, Unicode.IsPlain c) : '#' ∉ name.toList := by
  intro hmem
  exact absurd (h '#' hmem) (by decide)

theorem plainName_inj (hname : ∀ c ∈ name.toList, Unicode.IsPlain c)
    (hother : ∀ c ∈ other.toList, Unicode.IsPlain c) (h : plainName name = plainName other) :
    name = other := by
  unfold plainName at h
  split at h <;> split at h
  · exact (String.append_left_inj "_").1 h
  · apply absurd _ (underscore_notMem hother)
    rw [← h]
    simp
  · apply absurd _ (underscore_notMem hname)
    rw [h]
    simp
  · exact h

/-- Where no class has the name of a builder, no struct has. -/
theorem builderName_plainName_ne (hother : ∀ c ∈ other.toList, Unicode.IsPlain c)
    (h : builderName name ≠ other) : builderName (plainName name) ≠ plainName other := by
  intro heq
  unfold plainName at heq
  split at heq <;> split at heq
  · have hlast := congrArg (fun text : String => text.toList.getLast?) heq
    simp [builderName] at hlast
  · apply absurd _ (underscore_notMem hother)
    rw [← heq]
    simp [builderName]
  · have hlast := congrArg (fun text : String => text.toList.getLast?) heq
    simp [builderName] at hlast
  · exact h heq

end Structs

/-! ## The module file -/

/-- What a module file exports of a module. -/
structure Exported where
  module : String
  names : List String

def Exported.line (exported : Exported) : Line :=
  match exported.names with
  | [name] => .plain s!"pub use {exported.module}::{name};"
  | names =>
      .plain ("pub use " ++ exported.module ++ "::\x7b" ++ ", ".intercalate names ++ "\x7d;")

/-- The module file below its header. -/
structure ModuleUnit where
  modules : List String
  exports : List Exported

def ModuleUnit.lines (unit : ModuleUnit) : List Line :=
  unit.modules.map (fun name => .plain s!"mod {name};") ++
    (if unit.modules.isEmpty then [] else [.blank]) ++ unit.exports.map Exported.line

/-- The names that the module file gives to modules, structs and builders. -/
def ModuleUnit.declared (unit : ModuleUnit) : List String :=
  (unit.modules ++ unit.exports.flatMap (·.names)).map unraw

def exportedOf (options : Options) (cls : ClassDef) : Exported where
  module := moduleName cls.name
  names := typeName cls.name ::
    if options.generateBuilders then [builderName (typeName cls.name)] else []

def moduleUnit (model : Model) (options : Options) : ModuleUnit where
  modules := model.classes.map fun cls => moduleName cls.name
  exports := model.classes.map (exportedOf options)

variable {model : Model} {options : Options}

theorem line_exportedOf (cls : ClassDef) :
    (exportedOf options cls).line = exportLine options cls := by
  unfold Exported.line exportedOf exportLine
  dsimp only
  cases options.generateBuilders with
  | false => rfl
  | true =>
      have hpair : ∀ first second : String,
          ", ".intercalate [first, second] = first ++ ", " ++ second := by
        intro first second
        rw [String.intercalate_cons_cons, String.intercalate_singleton]
      simp only [if_true, toString, hpair, String.append_assoc]

/-- The module file is the print of its unit. -/
theorem lines_moduleUnit (model : Model) (options : Options) :
    moduleLines model options = headerLines options ++ (moduleUnit model options).lines := by
  have hexports : (moduleUnit model options).exports.map Exported.line =
      model.classes.map (exportLine options) := by
    rw [moduleUnit, List.map_map]
    exact List.map_congr_left fun cls _ => line_exportedOf cls
  have hempty : (moduleUnit model options).modules.isEmpty = model.classes.isEmpty :=
    List.isEmpty_map
  rw [moduleLines, ModuleUnit.lines, hexports, hempty, moduleUnit, List.map_map]
  simp only [List.append_assoc, Function.comp_def]

/-- The names under which the module file exports a class. -/
def structNames (options : Options) (cls : ClassDef) : List String :=
  plainName cls.name ::
    if options.generateBuilders then [builderName (plainName cls.name)] else []

/-- Every class of a model has a plain name. -/
def HasPlainNames (model : Model) : Prop :=
  ∀ cls ∈ model.classes, ∀ c ∈ cls.name.toList, Unicode.IsPlain c

theorem map_unraw_exportedOf {cls : ClassDef} (h : ∀ c ∈ cls.name.toList, Unicode.IsPlain c) :
    (exportedOf options cls).names.map unraw = structNames options cls := by
  have hhash := hash_notMem h
  have hbuilder : unraw (builderName (typeName cls.name)) = builderName (plainName cls.name) := by
    rw [builderName, builderName, typeName]
    exact unraw_escapeWord_append hhash (by decide)
  have hstruct : unraw (typeName cls.name) = plainName cls.name := unraw_escapeWord hhash
  rw [exportedOf, structNames, List.map_cons, hstruct]
  split
  · rw [List.map_singleton, hbuilder]
  · rw [List.map_nil]

theorem declared_moduleUnit (hplain : HasPlainNames model) :
    (moduleUnit model options).declared =
      model.classes.map (fun cls => moduleStem cls.name) ++
        model.classes.flatMap (structNames options) := by
  have hexports : ∀ cls ∈ model.classes,
      (exportedOf options cls).names.map unraw = structNames options cls :=
    fun cls hcls => map_unraw_exportedOf (hplain cls hcls)
  have hmodules : ∀ cls ∈ model.classes, unraw (moduleName cls.name) = moduleStem cls.name :=
    fun cls hcls => unraw_moduleName (hplain cls hcls)
  simp only [ModuleUnit.declared, moduleUnit, List.map_append, List.map_map, List.flatMap_map,
    List.map_flatMap, Function.comp_def]
  rw [List.map_congr_left hmodules, List.flatMap_congr hexports]

/-- Structs and builders of different classes have different names. -/
theorem structNames_nodup (hplain : HasPlainNames model) (hnames : model.classNames.Nodup)
    (hbuilders : options.generateBuilders = true → ∀ name ∈ model.classNames,
      ∀ other ∈ model.classNames, builderName name ≠ other) :
    (model.classes.flatMap (structNames options)).Nodup := by
  have hbuilder : ∀ cls ∈ model.classes, ∀ other ∈ model.classes,
      options.generateBuilders = true →
        builderName (plainName cls.name) ≠ plainName other.name := by
    intro cls hcls other hother hbuilt
    exact builderName_plainName_ne (hplain other hother)
      (hbuilders hbuilt _ (List.mem_map_of_mem hcls) _ (List.mem_map_of_mem hother))
  apply List.nodup_flatMap.2
  constructor
  · intro cls hcls
    unfold structNames
    split
    · rename_i hbuilt
      simpa using (hbuilder cls hcls cls hcls hbuilt).symm
    · exact List.nodup_singleton _
  · apply (List.pairwise_map.1 hnames).imp_of_mem
    intro cls other hcls hother hne
    have hstructs : plainName other.name ≠ plainName cls.name :=
      fun heq => hne (plainName_inj (hplain other hother) (hplain cls hcls) heq).symm
    unfold structNames
    split
    · rename_i hbuilt
      have hbuilders : builderName (plainName other.name) ≠ builderName (plainName cls.name) :=
        fun heq => hstructs ((String.append_left_inj "Builder").1 heq)
      simp [hstructs, hbuilders, hbuilder other hother cls hcls hbuilt,
        (hbuilder cls hcls other hother hbuilt).symm]
    · simpa using hstructs

/-- Where modules differ from each other, and structs and builders do, all names of the module file
differ exactly if no module has the name of a struct. -/
theorem declared_nodup_iff (hplain : HasPlainNames model)
    (hmodules : (model.classes.map fun cls => moduleStem cls.name).Nodup)
    (hstructs : (model.classes.flatMap (structNames options)).Nodup) :
    (moduleUnit model options).declared.Nodup ↔
      ∀ cls ∈ model.classes, ∀ other ∈ model.classes,
        moduleStem cls.name ≠ plainName other.name := by
  rw [declared_moduleUnit hplain, List.nodup_append]
  constructor
  · rintro ⟨-, -, hdisjoint⟩ cls hcls other hother
    exact hdisjoint _ (List.mem_map_of_mem hcls) _
      (List.mem_flatMap.2 ⟨other, hother, List.mem_cons_self⟩)
  · intro hdiffer
    refine ⟨hmodules, hstructs, ?_⟩
    intro stem hstem name hname
    obtain ⟨cls, hcls, rfl⟩ := List.mem_map.1 hstem
    obtain ⟨other, hother, hname⟩ := List.mem_flatMap.1 hname
    rcases List.mem_cons.1 hname with rfl | hname
    · exact hdiffer cls hcls other hother
    · split at hname
      · rw [List.mem_singleton.1 hname]
        exact moduleStem_ne_builderName (hplain cls hcls) _
      · cases hname

/-! ## Files -/

variable {modulePath : String}

/-- The module file as it is written. -/
def moduleSource (model : Model) (options : Options) (modulePath : String) : SourceFile :=
  ⟨"", moduleFile modulePath, render (moduleLines model options)⟩

theorem moduleSource_path : (moduleSource model options modulePath).path = moduleFile modulePath := by
  rw [moduleSource]

theorem moduleSource_source :
    (moduleSource model options modulePath).source =
      render (headerLines options ++ (moduleUnit model options).lines) := by
  rw [moduleSource, lines_moduleUnit]

/-- The file of a class as it is written. -/
def classSource (model : Model) (options : Options) (modulePath : String) (cls : ClassDef) :
    SourceFile :=
  ⟨cls.name, (directory modulePath).join ⟨moduleStem cls.name ++ ".rs"⟩,
    render (classLines model options cls)⟩

/-- If there are files of classes, each class has one, no two have one module, and none has a module
declared before. -/
theorem classFiles_eq_ok {stems : List String} {classes : List ClassDef} {files : List SourceFile}
    (h : classFiles model options modulePath stems classes = .ok files) :
    files = classes.map (classSource model options modulePath) ∧
      (classes.map fun cls => moduleStem cls.name).Nodup ∧
      ∀ cls ∈ classes, moduleStem cls.name ∉ stems := by
  induction classes generalizing stems files with
  | nil =>
      cases h
      exact ⟨rfl, List.nodup_nil, fun cls hcls => absurd hcls List.not_mem_nil⟩
  | cons cls rest ih =>
      unfold classFiles at h
      dsimp only at h
      split at h
      · cases h
      · rename_i hstem
        have hnew : moduleStem cls.name ∉ stems := mt List.contains_iff_mem.2 hstem
        obtain ⟨_, -, h⟩ := bind_eq_ok h
        obtain ⟨others, hothers, h⟩ := bind_eq_ok h
        cases h
        obtain ⟨hfiles, hnodup, hrest⟩ := ih hothers
        simp only [List.mem_cons, not_or] at hrest
        have hfirst : moduleStem cls.name ∉ rest.map fun cls => moduleStem cls.name := by
          rw [List.mem_map]
          rintro ⟨other, hother, heq⟩
          exact (hrest other hother).1 heq
        rw [List.map_cons, List.map_cons, List.nodup_cons, List.forall_mem_cons, hfiles, classSource]
        exact ⟨rfl, ⟨hfirst, hnodup⟩, hnew, fun other hother => (hrest other hother).2⟩

theorem builderName_ne_of_check {result : Unit}
    (h : checkBuilderNames builderName model = .ok result) :
    ∀ name ∈ model.classNames, ∀ other ∈ model.classNames, builderName name ≠ other := by
  unfold checkBuilderNames at h
  split at h
  · cases h
  · rename_i hnone
    intro name hname other hother heq
    apply List.find?_eq_none.1 hnone name hname
    rw [heq]
    exact List.contains_iff_mem.2 hother

/-- If there are files, there are those of the classes in front of the module file, and with builders
no class has the name of one. -/
theorem classFiles_of_files {files : List SourceFile}
    (h : Rust.files model options modulePath = .ok files) :
    ∃ classes, classFiles model options modulePath ["mod"] model.classes = .ok classes ∧
      files = classes ++ [moduleSource model options modulePath] ∧
      (options.generateBuilders = true → ∀ name ∈ model.classNames, ∀ other ∈ model.classNames,
        builderName name ≠ other) := by
  unfold Rust.files at h
  dsimp only at h
  split at h
  · obtain ⟨checked, hcheck, h⟩ := bind_eq_ok h
    obtain ⟨classes, hclasses, h⟩ := bind_eq_ok h
    cases h
    exact ⟨classes, hclasses, rfl, fun _ => builderName_ne_of_check hcheck⟩
  · rename_i hbuilders
    obtain ⟨classes, hclasses, h⟩ := bind_eq_ok h
    cases h
    exact ⟨classes, hclasses, rfl, fun hbuilt => absurd hbuilt hbuilders⟩

/-- If there are files, they are those of the classes and the module file, no two classes have one
module, and with builders no class has the name of one. -/
theorem files_eq_ok {files : List SourceFile}
    (h : Rust.files model options modulePath = .ok files) :
    files = model.classes.map (classSource model options modulePath) ++
        [moduleSource model options modulePath] ∧
      (model.classes.map fun cls => moduleStem cls.name).Nodup ∧
      (options.generateBuilders = true → ∀ name ∈ model.classNames, ∀ other ∈ model.classNames,
        builderName name ≠ other) := by
  obtain ⟨classes, hclasses, rfl, hbuilders⟩ := classFiles_of_files h
  obtain ⟨rfl, hstems, -⟩ := classFiles_eq_ok hclasses
  exact ⟨rfl, hstems, hbuilders⟩

theorem moduleStem_ne_mod {files : List SourceFile}
    (h : Rust.files model options modulePath = .ok files) :
    ∀ cls ∈ model.classes, moduleStem cls.name ≠ "mod" := by
  obtain ⟨classes, hclasses, -, -⟩ := classFiles_of_files h
  obtain ⟨-, -, hnew⟩ := classFiles_eq_ok hclasses
  intro cls hcls heq
  exact hnew cls hcls (heq ▸ List.mem_cons_self)

theorem isPlain_of_isClassName {root : String} (h : isClassName root = true) :
    ∀ c ∈ root.toList, Unicode.IsPlain c := by
  rw [isClassName_eq_isWord] at h
  exact fun c hc _ => isAlphanum_of_isWord h c hc

/-- A class of a document has the name of the root or that of a property. -/
theorem name_of_mem_resolvedModel {root fieldPrefix : String} {value : Json.Value}
    (hvalue : Discovery.isRoot value = true) {cls : ClassDef}
    (hcls : cls ∈ (Resolution.resolvedModel fieldPrefix root value).classes) :
    cls.name = root ∨ ∃ property, cls.name = className property := by
  rcases Resolution.name_of_mem_classes hvalue hcls with hname | ⟨key, -, hname | hname⟩
  · exact .inl hname
  · exact .inr ⟨key, hname⟩
  · exact .inr ⟨singular key, hname⟩

/-- The classes of a document have plain names. -/
theorem hasPlainNames_resolvedModel {root : String} (hroot : isClassName root = true)
    {value : Json.Value} (hvalue : Discovery.isRoot value = true) (fieldPrefix : String) :
    HasPlainNames (Resolution.resolvedModel fieldPrefix root value) := by
  intro cls hcls
  rcases name_of_mem_resolvedModel hvalue hcls with hname | ⟨property, hname⟩
  · rw [hname]
    exact isPlain_of_isClassName hroot
  · rw [hname]
    exact isPlain_className property

theorem classNames_nodup (fieldPrefix root : String) (value : Json.Value) :
    (Resolution.resolvedModel fieldPrefix root value).classNames.Nodup := by
  rw [Resolution.classNames_resolvedModel]
  exact Discovery.discovered_nodup fieldPrefix root value

/-- The names in the module file of a document differ from each other exactly if no module has the
name of a struct. -/
theorem module_names_nodup_iff {root fieldPrefix : String} {value : Json.Value} {model : Model}
    {files : List SourceFile} (hroot : isClassName root = true)
    (hmodel : (Generation.modelOf root value fieldPrefix Watch.never).result = .ok model)
    (hfiles : Rust.files model options modulePath = .ok files) :
    ∃ file ∈ files, file.path = moduleFile modulePath ∧
      file.source = render (headerLines options ++ (moduleUnit model options).lines) ∧
      ((moduleUnit model options).declared.Nodup ↔
        ∀ cls ∈ model.classes, ∀ other ∈ model.classes,
          moduleStem cls.name ≠ plainName other.name) := by
  obtain ⟨hvalue, hown⟩ := Resolution.eq_resolvedModel hmodel
  have hplain : HasPlainNames model := by
    rw [hown]
    exact hasPlainNames_resolvedModel hroot hvalue fieldPrefix
  have hnames : model.classNames.Nodup := by
    rw [hown]
    exact classNames_nodup fieldPrefix root value
  obtain ⟨rfl, hstems, hbuilders⟩ := files_eq_ok hfiles
  refine ⟨moduleSource model options modulePath, List.mem_append_right _ List.mem_cons_self,
    moduleSource_path, moduleSource_source, ?_⟩
  exact declared_nodup_iff hplain hstems (structNames_nodup hplain hnames hbuilders)

/-- A document with two classes, both written with a capital. -/
def owned : Json.Value :=
  .object [("owner", .object [("name", .string "x")])]

/-- The model of it. -/
def ownedModel : Model :=
  ⟨"Root",
    [⟨"Root", [⟨"owner", "mOwner", .named "Owner", 1, 0⟩], 1⟩,
      ⟨"Owner", [⟨"name", "mName", .string, 1, 0⟩], 1⟩], []⟩

def withBuilders : Options :=
  { target := .rust, generateBuilders := true }

theorem module_names_nodup_iff_owned :
    isClassName "Root" = true ∧
      (Generation.modelOf "Root" owned "m" Watch.never).result = .ok ownedModel ∧
      ∃ files, Rust.files ownedModel withBuilders "api" = .ok files ∧
        ∃ file ∈ files, file.path = moduleFile "api" ∧
          file.source =
            render (headerLines withBuilders ++ (moduleUnit ownedModel withBuilders).lines) ∧
          (moduleUnit ownedModel withBuilders).declared.Nodup := by
  have hroot : isClassName "Root" = true := by decide
  have hresolved : Resolution.resolvedModel "m" "Root" owned = ownedModel := by
    decide +kernel
  have hmodel := @Resolution.modelOf_never "Root" owned rfl "m"
  rw [hresolved] at hmodel
  have hmade : ∃ files, Rust.files ownedModel withBuilders "api" = .ok files := ⟨_, rfl⟩
  obtain ⟨files, hfiles⟩ := hmade
  obtain ⟨file, hfile, hpath, hsource, hdiffer⟩ := module_names_nodup_iff hroot hmodel hfiles
  exact ⟨hroot, hmodel, files, hfiles, file, hfile, hpath, hsource, hdiffer.2 (by decide +kernel)⟩

/-- A document whose only class is the root class. -/
def alone : Json.Value :=
  .object [("a", .number (.integer 1))]

/-- The model of it with a root name in small letters. -/
def aloneModel : Model :=
  ⟨"root", [⟨"root", [⟨"a", "mA", .integer, 1, 0⟩], 1⟩], []⟩

/-- A root name in small letters is the name of a module and of a struct in one module file. -/
theorem module_names_clash_alone :
    isClassName "root" = true ∧
      (Generation.modelOf "root" alone "m" Watch.never).result = .ok aloneModel ∧
      ∃ files, Rust.files aloneModel { target := .rust } "" = .ok files ∧
        ∃ file ∈ files, file.path = moduleFile "" ∧
          file.source = "// @generated by json-pojo\n\nmod root;\n\npub use root::root;\n" ∧
          (moduleUnit aloneModel { target := .rust }).declared = ["root", "root"] := by
  have hresolved : Resolution.resolvedModel "m" "root" alone = aloneModel := by
    decide +kernel
  have hmodel := @Resolution.modelOf_never "root" alone rfl "m"
  rw [hresolved] at hmodel
  have hmade : ∃ files, Rust.files aloneModel { target := .rust } "" = .ok files := ⟨_, rfl⟩
  obtain ⟨files, hfiles⟩ := hmade
  obtain ⟨rfl, -, -⟩ := files_eq_ok hfiles
  exact ⟨by decide, hmodel, _, hfiles, moduleSource aloneModel { target := .rust } "",
    List.mem_append_right _ List.mem_cons_self, rfl, by decide +kernel, by decide +kernel⟩

end Exemplar.Source.Rust
