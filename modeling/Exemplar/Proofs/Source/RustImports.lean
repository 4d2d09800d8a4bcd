import Mathlib.Data.List.Forall2
import Mathlib.Data.List.Pairwise
import Exemplar.Proofs.Disk.Joining
import Exemplar.Proofs.Source.RustModules
import Exemplar.Proofs.Source.RustUnits
import Exemplar.Proofs.Stages

/-!
# How Rust files fit together

A struct file imports the structs of the other classes that its fields name.  What is imported is
exported by the module file, once and from a module that is declared once, and the file of the
module stands next to the module file, once as well.  Types, modules and files are each named and
escaped in a way of their own; without the mark of a raw identifier the names of modules are those
of files.
-/

namespace Exemplar

namespace Source.Rust

open Naming

/-! ## Names in written types -/

/-- Whether a part of a written type is a name that stands alone, neither a path nor nothing. -/
def isSimple (part : List Char) : Bool :=
  part.head?.any (· != ':')

/-- A text with all angle brackets turned one way. -/
def turned (text : List Char) : List Char :=
  text.map fun c => if c = '>' then '<' else c

/-- The names in a written type that stand alone. -/
def simpleNames (type : String) : List String :=
  ((Text.pieces '<' (turned type.toList)).filter isSimple).map String.ofList

theorem simpleNames_applied {opening head : String} (hopening : opening = head ++ "<")
    (argument : String) :
    simpleNames (opening ++ argument ++ ">") = simpleNames head ++ simpleNames argument := by
  have htext : turned (opening ++ argument ++ ">").toList =
      turned head.toList ++ '<' :: (turned argument.toList ++ '<' :: []) := by
    simp [turned, hopening]
  have hnothing : (Text.pieces '<' []).filter isSimple = [] := rfl
  rw [simpleNames, htext, Text.pieces_append, Text.pieces_append, List.filter_append,
    List.filter_append, hnothing, List.append_nil, List.map_append]
  rfl

theorem simpleNames_nested {opening closing outer inner : String}
    (hopening : opening = outer ++ "<" ++ inner ++ "<") (hclosing : closing = ">" ++ ">")
    (argument : String) :
    simpleNames (opening ++ argument ++ closing) =
      simpleNames outer ++ (simpleNames inner ++ simpleNames argument) := by
  have htext : opening ++ argument ++ closing =
      outer ++ "<" ++ (inner ++ "<" ++ argument ++ ">") ++ ">" := by
    rw [hopening, hclosing]
    simp only [String.append_assoc]
  rw [htext, simpleNames_applied rfl, simpleNames_applied rfl]

theorem simpleNames_simple {name : String} (hopen : '<' ∉ name.toList)
    (hclose : '>' ∉ name.toList) (hsimple : isSimple name.toList = true) :
    simpleNames name = [name] := by
  have hturned : turned name.toList = name.toList := by
    rw [turned]
    conv_rhs => rw [← List.map_id name.toList]
    apply List.map_congr_left
    intro c hmem
    have hc : c ≠ '>' := fun heq => hclose (heq ▸ hmem)
    exact if_neg hc
  rw [simpleNames, hturned, Text.pieces_of_notMem hopen, List.filter_singleton, hsimple]
  exact congrArg (fun text => [text]) String.ofList_toList

/-- A field stores options, and boxes where the struct would hold itself. -/
theorem simpleNames_storage (member : Member) :
    simpleNames member.storage = simpleNames member.type := by
  have hoption : simpleNames "::std::option::Option" = [] := by decide +kernel
  have hbox : simpleNames "::std::boxed::Box" = [] := by decide +kernel
  have hplain : "::std::option::Option<" = "::std::option::Option" ++ "<" := by decide
  have hboxed : "::std::option::Option<::std::boxed::Box<" =
      "::std::option::Option" ++ "<" ++ "::std::boxed::Box" ++ "<" := by
    decide
  have hclosing : ">>" = ">" ++ ">" := by decide
  unfold Member.storage
  split
  · have hnames := simpleNames_nested hboxed hclosing member.type
    rwa [hoption, hbox] at hnames
  · have hnames := simpleNames_applied hplain member.type
    rwa [hoption] at hnames

theorem simpleNames_typeText {ty : Ty} {name : String} (h : ty.referencedClass? = some name) :
    simpleNames (typeText ty) = simpleNames (typeName name) := by
  induction ty with
  | named other =>
      cases h
      rfl
  | list element ih =>
      have hlist : simpleNames "::std::vec::Vec" = [] := by decide +kernel
      have hopening : "::std::vec::Vec<" = "::std::vec::Vec" ++ "<" := by decide
      have hnames := simpleNames_applied hopening (typeText element)
      rw [hlist] at hnames
      exact hnames.trans (ih h)
  | _ => cases h

section Names

variable {name other : String} (hname : ∀ c ∈ name.toList, Unicode.IsPlain c)

include hname

theorem simpleNames_typeName (hne : name.toList ≠ []) :
    simpleNames (typeName name) = [typeName name] := by
  have hnotMem : ∀ {c : Char}, ¬ Unicode.IsPlain c → c ∉ name.toList :=
    fun hc hmem => hc (hname _ hmem)
  have hopen : '<' ∉ name.toList := hnotMem (by decide)
  have hclose : '>' ∉ name.toList := hnotMem (by decide)
  have hsimple : isSimple name.toList = true := by
    obtain ⟨first, rest, hchars⟩ := List.exists_cons_of_ne_nil hne
    have hfirst : first ≠ ':' := by
      rintro rfl
      apply hnotMem (c := ':') (by decide)
      rw [hchars]
      exact List.mem_cons_self
    rw [hchars]
    simpa [isSimple] using hfirst
  unfold typeName escapeWord
  split
  · refine simpleNames_simple (by simpa using hopen) (by simpa using hclose) ?_
    obtain ⟨first, rest, hchars⟩ := List.exists_cons_of_ne_nil hne
    rw [String.toList_append, hchars]
    rw [hchars] at hsimple
    exact hsimple
  · split
    · exact simpleNames_simple (by simpa using hopen) (by simpa using hclose) (by simp [isSimple])
    · exact simpleNames_simple hopen hclose hsimple

theorem unraw_typeName : unraw (typeName name) = plainName name :=
  unraw_escapeWord (hash_notMem hname)

end Names

/-! ## Imports -/

theorem mem_importedNames {cls : ClassDef} {name : String} :
    name ∈ importedNames cls ↔
      ∃ field ∈ cls.fields, ∃ target, field.ty.referencedClass? = some target ∧
        target ≠ cls.name ∧ name = typeName target := by
  simp only [importedNames, Sorted.mem_ofList, List.mem_map, List.mem_filter, List.mem_filterMap,
    bne_iff_ne]
  constructor
  · rintro ⟨target, ⟨⟨field, hfield, hreferenced⟩, hne⟩, rfl⟩
    exact ⟨field, hfield, target, hreferenced, hne, rfl⟩
  · rintro ⟨field, hfield, target, hreferenced, hne, rfl⟩
    exact ⟨target, ⟨⟨field, hfield, hreferenced⟩, hne⟩, rfl⟩

/-! ## Models that are accepted -/

/-- What is known of a model of a document that has Rust files. -/
structure Accepted (model : Model) (options : Options) : Prop where
  plain : HasPlainNames model
  classNames : model.classNames.Nodup
  stems : (model.classes.map fun cls => moduleStem cls.name).Nodup
  notMod : ∀ cls ∈ model.classes, moduleStem cls.name ≠ "mod"
  structs : (model.classes.flatMap (structNames options)).Nodup
  /-- A class that a field names is there. -/
  closed : ∀ cls ∈ model.classes, ∀ field ∈ cls.fields, ∀ name,
    field.ty.referencedClass? = some name →
    name.toList ≠ [] ∧ ∃ target ∈ model.classes, target.name = name

variable {model : Model} {options : Options} {modulePath : String}

theorem accepted_of_files {lowering : Options} {root : String} {value : Json.Value}
    {watch : Watch} {files : List SourceFile}
    (hmodel : (Generation.model lowering root value watch).result = .ok model)
    (hfiles : Rust.files model options modulePath = .ok files) : Accepted model options := by
  obtain ⟨hroot, hmodel⟩ := Generation.of_model hmodel
  obtain ⟨hvalue, hown⟩ := Resolution.eq_resolvedModel hmodel
  have hplain : HasPlainNames model := by
    rw [hown]
    exact hasPlainNames_resolvedModel hroot hvalue lowering.fieldPrefix
  have hnames : model.classNames.Nodup := by
    rw [hown]
    exact classNames_nodup lowering.fieldPrefix root value
  obtain ⟨-, hstems, hbuilders⟩ := files_eq_ok hfiles
  refine ⟨hplain, hnames, hstems, moduleStem_ne_mod hfiles,
    structNames_nodup hplain hnames hbuilders, ?_⟩
  intro cls hcls field hfield name hname
  rw [hown] at hcls ⊢
  obtain ⟨hclass, property, hproperty⟩ :=
    Resolution.referencedClass?_resolvedModel hvalue hcls hfield hname
  refine ⟨?_, List.mem_map.1 (List.contains_iff_mem.1 hclass)⟩
  rw [hproperty]
  exact className_ne_nil property

/-! ## One export and one file for each class -/

theorem module_exportedOf (options : Options) (cls : ClassDef) :
    (exportedOf options cls).module = moduleName cls.name := by
  rw [exportedOf]

theorem plainName_mem_structNames (options : Options) (cls : ClassDef) :
    plainName cls.name ∈ structNames options cls :=
  List.mem_cons_self

/-- Where a test tells one item from all others, it finds what is made of that item. -/
theorem filter_map_eq_singleton {Item Made : Type} {items : List Item} {item : Item}
    {make : Item → Made} {test : Made → Bool} (hnodup : items.Nodup) (hmem : item ∈ items)
    (htest : ∀ other ∈ items, test (make other) = true ↔ other = item) :
    (items.map make).filter test = [make item] := by
  have hperm : (items.filter (test ∘ make)).Perm [item] := by
    apply (List.perm_ext_iff_of_nodup (hnodup.filter _) (List.nodup_singleton item)).2
    intro other
    rw [List.mem_filter, List.mem_singleton]
    constructor
    · rintro ⟨hother, hpassed⟩
      exact (htest other hother).1 hpassed
    · rintro rfl
      exact ⟨hmem, (htest _ hmem).2 rfl⟩
  rw [List.filter_map, List.perm_singleton.1 hperm, List.map_singleton]

theorem isFileName_stem {stem : String} (hslash : '/' ∉ stem.toList) :
    Path.IsFileName (stem ++ ".rs") := by
  have hlast : ".rs".toList.getLast? = some 's' := by decide
  exact Path.isFileName_append hslash (by decide) hlast (by decide)

theorem slash_notMem_moduleStem {name : String} (h : ∀ c ∈ name.toList, Unicode.IsPlain c) :
    '/' ∉ (moduleStem name).toList := by
  intro hmem
  rcases moduleStem_chars h '/' hmem with heq | hsmall
  · exact absurd heq (by decide)
  · exact absurd hsmall (by decide)

theorem same_stem_iff {stem other : String} (hslash : '/' ∉ stem.toList)
    (hotherSlash : '/' ∉ other.toList) :
    ((directory modulePath).join ⟨stem ++ ".rs"⟩).same
        ((directory modulePath).join ⟨other ++ ".rs"⟩) = true ↔ stem = other := by
  rw [Path.same_join_iff (isFileName_stem hslash) (isFileName_stem hotherSlash)]
  exact String.append_left_inj ".rs"

theorem moduleFile_eq (modulePath : String) :
    moduleFile modulePath = (directory modulePath).join ⟨"mod" ++ ".rs"⟩ := by
  have hname : "mod" ++ ".rs" = "mod.rs" := by decide
  rw [hname, moduleFile]

namespace Accepted

variable (h : Accepted model options) {cls other : ClassDef}

include h

theorem eq_of_stem (hcls : cls ∈ model.classes) (hother : other ∈ model.classes)
    (hstem : moduleStem cls.name = moduleStem other.name) : cls = other :=
  List.inj_on_of_nodup_map h.stems hcls hother hstem

/-- No two classes share the name of a struct or a builder. -/
theorem eq_of_struct (hcls : cls ∈ model.classes) (hother : other ∈ model.classes)
    {name : String} (hname : name ∈ structNames options cls)
    (hshared : name ∈ structNames options other) : cls = other := by
  have hsymm : Std.Symm (Function.onFun List.Disjoint (structNames options)) :=
    ⟨fun _ _ hdisjoint => List.disjoint_symm hdisjoint⟩
  by_contra hne
  have hdisjoint := (List.nodup_flatMap.1 h.structs).2.forall hcls hother hne
  exact hdisjoint hname hshared

theorem classes_nodup : model.classes.Nodup :=
  .of_map _ h.classNames

/-- The struct of a class is exported with its class and with no other. -/
theorem exports_filter (hcls : cls ∈ model.classes) :
    ((moduleUnit model options).exports.filter fun exported =>
      (exported.names.map unraw).contains (unraw (typeName cls.name))) =
      [exportedOf options cls] := by
  have htest : ∀ other ∈ model.classes,
      ((exportedOf options other).names.map unraw).contains (unraw (typeName cls.name)) = true ↔
        other = cls := by
    intro other hother
    rw [map_unraw_exportedOf (h.plain other hother), unraw_typeName (h.plain cls hcls),
      List.contains_iff_mem]
    constructor
    · intro hname
      exact h.eq_of_struct hother hcls hname (plainName_mem_structNames options cls)
    · rintro rfl
      exact plainName_mem_structNames options other
  rw [moduleUnit]
  exact filter_map_eq_singleton h.classes_nodup hcls htest

theorem modules_count (hcls : cls ∈ model.classes) :
    ((moduleUnit model options).modules.map unraw).count (unraw (moduleName cls.name)) = 1 := by
  have hstem : ∀ other ∈ model.classes, unraw (moduleName other.name) = moduleStem other.name :=
    fun other hother => unraw_moduleName (h.plain other hother)
  have hmodules : (moduleUnit model options).modules.map unraw =
      model.classes.map fun other => moduleStem other.name := by
    simp only [moduleUnit, List.map_map, Function.comp_def]
    exact List.map_congr_left hstem
  rw [hmodules, hstem cls hcls]
  exact List.count_eq_one_of_mem h.stems (List.mem_map_of_mem hcls)

/-- A class has one file. -/
theorem filter_class (hcls : cls ∈ model.classes) :
    ((model.classes.map (classSource model options modulePath) ++
        [moduleSource model options modulePath]).filter fun file =>
      file.path.same ((directory modulePath).join ⟨unraw (moduleName cls.name) ++ ".rs"⟩)) =
      [classSource model options modulePath cls] := by
  have hslash := slash_notMem_moduleStem (h.plain cls hcls)
  have hclasses : ∀ other ∈ model.classes,
      (classSource model options modulePath other).path.same
        ((directory modulePath).join ⟨moduleStem cls.name ++ ".rs"⟩) = true ↔ other = cls := by
    intro other hother
    rw [classSource, same_stem_iff (slash_notMem_moduleStem (h.plain other hother)) hslash]
    exact ⟨h.eq_of_stem hother hcls, fun heq => heq ▸ rfl⟩
  have hmodule : (moduleSource model options modulePath).path.same
      ((directory modulePath).join ⟨moduleStem cls.name ++ ".rs"⟩) = false := by
    rw [← Bool.not_eq_true, moduleSource_path, moduleFile_eq,
      same_stem_iff (by decide) hslash]
    exact (h.notMod cls hcls).symm
  have hfound : (model.classes.map (classSource model options modulePath)).filter
      (fun file => file.path.same ((directory modulePath).join ⟨moduleStem cls.name ++ ".rs"⟩)) =
      [classSource model options modulePath cls] :=
    filter_map_eq_singleton h.classes_nodup hcls hclasses
  rw [unraw_moduleName (h.plain cls hcls), List.filter_append, hfound, List.filter_singleton,
    hmodule]
  rfl

/-- There is one module file. -/
theorem filter_module :
    ((model.classes.map (classSource model options modulePath) ++
        [moduleSource model options modulePath]).filter fun file =>
      file.path.same (moduleFile modulePath)) = [moduleSource model options modulePath] := by
  have hclasses : ∀ other ∈ model.classes,
      ¬ (classSource model options modulePath other).path.same (moduleFile modulePath) = true := by
    intro other hother
    rw [classSource, moduleFile_eq,
      same_stem_iff (slash_notMem_moduleStem (h.plain other hother)) (by decide)]
    exact h.notMod other hother
  have hnone : (model.classes.map (classSource model options modulePath)).filter
      (fun file => file.path.same (moduleFile modulePath)) = [] := by
    rw [List.filter_map, List.map_eq_nil_iff, List.filter_eq_nil_iff]
    exact hclasses
  have hsame : (moduleFile modulePath).same (moduleFile modulePath) = true := beq_self_eq_true _
  rw [List.filter_append, hnone, List.nil_append, List.filter_singleton, moduleSource_path, hsame]
  rfl

end Accepted

/-! ## Files that fit together -/

/-- A name is exported once, from a module that is declared once, and the file of the module stands
next to the module file, once as well, with the struct of the name. -/
structure Provides (model : Model) (options : Options) (modulePath : String)
    (files : List SourceFile) (name : String) (exported : Exported) (target : ClassDef)
    (file : SourceFile) : Prop where
  named : name ∈ exported.names
  exportedOnce : ((moduleUnit model options).exports.filter fun other =>
    (other.names.map unraw).contains (unraw name)) = [exported]
  declared : exported.module ∈ (moduleUnit model options).modules
  declaredOnce :
    ((moduleUnit model options).modules.map unraw).count (unraw exported.module) = 1
  emittedOnce : (files.filter fun other =>
    other.path.same ((directory modulePath).join ⟨unraw exported.module ++ ".rs"⟩)) = [file]
  className : file.className = target.name
  source : file.source = render (structUnit model options target).lines
  struct : (structUnit model options target).name = name

/-- The struct file of a class fits with the module file and the other files. -/
structure Fits (model : Model) (options : Options) (modulePath : String)
    (files : List SourceFile) (cls : ClassDef) (unit : StructUnit) : Prop where
  /-- A class in the type of a field, at whatever list depth, is the own one or is imported. -/
  named : List.Forall₂ (fun field declaration =>
    ∀ target, field.ty.referencedClass? = some target →
      simpleNames declaration.type = [typeName target] ∧
        (target = cls.name ∧ typeName target = unit.name ∨
          target ≠ cls.name ∧ typeName target ∈ unit.imports)) cls.fields unit.fields
  sorted : unit.imports.Pairwise (· < ·)
  foreign : unit.name ∉ unit.imports
  builder : options.generateBuilders = true →
    .opening s!"pub struct {builderName unit.name} \x7b" ∈ unit.implementation
  /-- The struct, its builder and the imported names. -/
  distinct : ((unit.name ::
    (if options.generateBuilders then [builderName unit.name] else []) ++ unit.imports).map
      unraw).Nodup
  provided : ∀ name ∈ unit.imports, ∃ exported, ∃ target ∈ model.classes, ∃ file ∈ files,
    Provides model options modulePath files name exported target file

namespace Accepted

variable (h : Accepted model options) {cls : ClassDef}

include h

/-- What is imported is the struct of another class. -/
theorem exists_of_mem_importedNames (hcls : cls ∈ model.classes) {name : String}
    (hname : name ∈ importedNames cls) :
    ∃ target ∈ model.classes, target ≠ cls ∧ name = typeName target.name := by
  obtain ⟨field, hfield, _, hreferenced, hne, rfl⟩ := mem_importedNames.1 hname
  obtain ⟨-, target, htarget, rfl⟩ := h.closed cls hcls field hfield _ hreferenced
  exact ⟨target, htarget, fun heq => hne (heq ▸ rfl), rfl⟩

theorem named_structUnit (hcls : cls ∈ model.classes) :
    List.Forall₂ (fun field declaration =>
      ∀ target, field.ty.referencedClass? = some target →
        simpleNames declaration.type = [typeName target] ∧
          (target = cls.name ∧ typeName target = typeName cls.name ∨
            target ≠ cls.name ∧ typeName target ∈ importedNames cls))
      cls.fields (structUnit model options cls).fields := by
  have hfields : (structUnit model options cls).fields =
      cls.fields.map fun field => (Member.ofField model cls.name field).declaration := by
    rw [structUnit]
    exact List.map_map
  rw [hfields, List.forall₂_map_right_iff, List.forall₂_same]
  intro field hfield name hreferenced
  obtain ⟨hne, target, htarget, rfl⟩ := h.closed cls hcls field hfield name hreferenced
  constructor
  · calc
      simpleNames (Member.ofField model cls.name field).storage =
          simpleNames (typeText field.ty) := simpleNames_storage _
      _ = simpleNames (typeName target.name) := simpleNames_typeText hreferenced
      _ = [typeName target.name] := simpleNames_typeName (h.plain target htarget) hne
  · by_cases hown : target.name = cls.name
    · exact .inl ⟨hown, hown ▸ rfl⟩
    · exact .inr ⟨hown, mem_importedNames.2 ⟨field, hfield, _, hreferenced, hown, rfl⟩⟩

theorem distinct_structUnit (hcls : cls ∈ model.classes) :
    (structNames options cls ++ (importedNames cls).map unraw).Nodup := by
  have hplain : ∀ target ∈ model.classes, unraw (typeName target.name) = plainName target.name :=
    fun target htarget => unraw_typeName (h.plain target htarget)
  apply List.nodup_append.2
  refine ⟨(List.nodup_flatMap.1 h.structs).1 cls hcls, ?_, ?_⟩
  · apply List.Nodup.map_on _ (Sorted.nodup_of_pairwise (Sorted.pairwise_ofList _))
    intro name hname other hother heq
    obtain ⟨target, htarget, -, rfl⟩ := h.exists_of_mem_importedNames hcls hname
    obtain ⟨otherTarget, hotherTarget, -, rfl⟩ := h.exists_of_mem_importedNames hcls hother
    rw [hplain target htarget, hplain otherTarget hotherTarget] at heq
    rw [plainName_inj (h.plain target htarget) (h.plain otherTarget hotherTarget) heq]
  · rintro own hown _ himported rfl
    obtain ⟨name, hname, rfl⟩ := List.mem_map.1 himported
    obtain ⟨target, htarget, hne, rfl⟩ := h.exists_of_mem_importedNames hcls hname
    rw [hplain target htarget] at hown
    exact hne (h.eq_of_struct htarget hcls (plainName_mem_structNames options target) hown)

theorem provides_import (hcls : cls ∈ model.classes) {name : String}
    (hname : name ∈ importedNames cls) :
    ∃ exported, ∃ target ∈ model.classes,
      ∃ file ∈ model.classes.map (classSource model options modulePath) ++
          [moduleSource model options modulePath],
        Provides model options modulePath
          (model.classes.map (classSource model options modulePath) ++
            [moduleSource model options modulePath]) name exported target file := by
  obtain ⟨target, htarget, -, rfl⟩ := h.exists_of_mem_importedNames hcls hname
  refine ⟨exportedOf options target, target, htarget,
    classSource model options modulePath target,
    List.mem_append_left _ (List.mem_map_of_mem htarget), ?_⟩
  constructor
  case named => exact List.mem_cons_self
  case exportedOnce => exact h.exports_filter htarget
  case declared =>
    rw [module_exportedOf]
    exact List.mem_map_of_mem htarget
  case declaredOnce =>
    rw [module_exportedOf]
    exact h.modules_count htarget
  case emittedOnce =>
    rw [module_exportedOf]
    exact h.filter_class htarget
  case className => rfl
  case source => rw [classSource, lines_structUnit]
  case struct => rfl

theorem fits (hcls : cls ∈ model.classes) :
    Fits model options modulePath
      (model.classes.map (classSource model options modulePath) ++
        [moduleSource model options modulePath]) cls (structUnit model options cls) := by
  have hdistinct := h.distinct_structUnit hcls
  have hown : plainName cls.name ∉ (importedNames cls).map unraw := by
    intro himported
    exact (List.nodup_append.1 hdistinct).2.2 _ (plainName_mem_structNames options cls) _
      himported rfl
  constructor
  case named => exact h.named_structUnit hcls
  case sorted => exact Sorted.pairwise_ofList _
  case foreign =>
    intro himported
    rw [← unraw_typeName (h.plain cls hcls)] at hown
    exact hown (List.mem_map_of_mem himported)
  case builder =>
    intro hbuilt
    simp [structUnit, hbuilt, builderLines]
  case distinct =>
    have hstructs := @map_unraw_exportedOf options cls (h.plain cls hcls)
    rw [← hstructs, ← List.map_append] at hdistinct
    exact hdistinct
  case provided => exact fun name hname => h.provides_import hcls hname

end Accepted

/-- The Rust files of a document fit together.  In the file of a class every class that a field
names is the own struct or is imported; the imports are sorted, without repeats and without the own
struct; the struct, its builder and what is imported differ; and each imported name is exported
once, from a module that is declared once and whose file stands next to the module file, once as
well. -/
theorem files_fit {lowering options : Options} {root modulePath : String} {value : Json.Value}
    {watch : Watch} {model : Model} {files : List SourceFile}
    (hmodel : (Generation.model lowering root value watch).result = .ok model)
    (hfiles : Rust.files model options modulePath = .ok files) :
    (∃ file, files.filter (·.path.same (moduleFile modulePath)) = [file] ∧
      file.className = "" ∧
      file.source = render (headerLines options ++ (moduleUnit model options).lines)) ∧
    ∀ file ∈ files, file.className ≠ "" →
      ∃ cls ∈ model.classes, file.className = cls.name ∧
        file.source = render (structUnit model options cls).lines ∧
        Fits model options modulePath files cls (structUnit model options cls) := by
  have haccepted := accepted_of_files hmodel hfiles
  obtain ⟨rfl, -, -⟩ := files_eq_ok hfiles
  refine ⟨⟨moduleSource model options modulePath, haccepted.filter_module, rfl,
    moduleSource_source⟩, ?_⟩
  intro file hfile hclass
  rcases List.mem_append.1 hfile with hfile | hfile
  · obtain ⟨cls, hcls, rfl⟩ := List.mem_map.1 hfile
    exact ⟨cls, hcls, rfl, by rw [classSource, lines_structUnit], haccepted.fits hcls⟩
  · rw [List.mem_singleton.1 hfile] at hclass
    exact absurd rfl hclass

/-- Three classes of which two name each other, one by a list of lists and one by a null.  One has
the name of a path word, one has a reserved word for its module. -/
def tangled : Json.Value :=
  .object [("self", .object [("types", .array [.array [.object [("self", .null)]]])])]

/-- The model of it. -/
def tangledModel : Model :=
  ⟨"Root",
    [⟨"Root", [⟨"self", "mSelf", .named "Self", 1, 0⟩], 1⟩,
      ⟨"Self", [⟨"types", "mTypes", .list (.list (.named "Type")), 1, 0⟩], 1⟩,
      ⟨"Type", [⟨"self", "mSelf", .named "Self", 1, 1⟩], 1⟩], []⟩

theorem files_fit_tangled :
    (Generation.model {} "Root" tangled Watch.never).result = .ok tangledModel ∧
      tangledModel.classes.map importedNames = [["Self_"], ["Type"], ["Self_"]] ∧
      ∃ files, Rust.files tangledModel withBuilders "api" = .ok files ∧
        ∀ file ∈ files, file.className ≠ "" →
          ∃ cls ∈ tangledModel.classes, file.className = cls.name ∧
            file.source = render (structUnit tangledModel withBuilders cls).lines ∧
            Fits tangledModel withBuilders "api" files cls
              (structUnit tangledModel withBuilders cls) := by
  have hresolved : Resolution.resolvedModel "m" "Root" tangled = tangledModel := by
    decide +kernel
  have hmodel : (Generation.model {} "Root" tangled Watch.never).result = .ok tangledModel := by
    rw [Generation.model_result_of_isClassName _ (by decide), ← hresolved]
    apply Resolution.modelOf_never
    rfl
  have hmade : (Rust.files tangledModel withBuilders "api").isOk = true := by decide +kernel
  cases hfiles : Rust.files tangledModel withBuilders "api" with
  | error failure =>
      rw [hfiles] at hmade
      cases hmade
  | ok files => exact ⟨hmodel, by decide +kernel, files, rfl, (files_fit hmodel hfiles).2⟩

end Source.Rust

end Exemplar
