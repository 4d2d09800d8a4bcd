import Exemplar.Proofs.Source.JavaLiterals
import Exemplar.Proofs.Source.JavaMembers
import Exemplar.Proofs.Source.RustModules
import Exemplar.Proofs.Source.RustUnits

/-!
# Wire names

The key under which generated code writes a field is the name that the field is given by a literal,
or else its own identifier.  Whatever a property is named, and however its identifier was made of
it, the key is the property again: a literal stands wherever the identifier differs, and is read as
the property.
-/

namespace Exemplar.Source

open Text

/-! ## Keys in Java -/

namespace Java

/-- The key of a field for Gson: the name that it is given, or its identifier. -/
def FieldDeclaration.key? (scope : Scope) (field : FieldDeclaration) : Option String :=
  match field.annotations.find? fun tag =>
      scope.resolve tag.name = .library "com.google.gson.annotations.SerializedName" with
  | some tag => tag.argument.bind literalText?
  | none => some field.identifier

def FieldDeclaration.literals (field : FieldDeclaration) : List String :=
  field.annotations.filterMap (·.argument)

variable {model : Model} {options : Options} {cls : ClassDef} {member : Member}

theorem key?_declaration (hmem : member ∈ membersOf model cls) :
    (member.declaration model options).key? (fileScope model options (membersOf model cls)) =
      some member.field.property := by
  unfold FieldDeclaration.key? Member.declaration Member.annotations
  dsimp only
  cases hrenamed : member.isRenamed with
  | true =>
      have hname : (fileScope model options (membersOf model cls)).resolve
          (qualify model serializedNameType) =
            .library "com.google.gson.annotations.SerializedName" :=
        resolve_qualify (.inl (mem_neededTypes.2
          (.inr (.inr (.inl ⟨rfl, member, hmem, hrenamed⟩)))))
      rw [if_pos rfl, List.find?_cons_of_pos (by simpa using hname)]
      exact literalText?_literal _
  | false =>
      have hname : (fileScope model options (membersOf model cls)).resolve
          (qualify model exposeType) ≠
            .library "com.google.gson.annotations.SerializedName" := by
        rw [resolve_qualify (.inl (mem_neededTypes.2
          (.inr (.inr (.inr ⟨rfl, member, hmem, .inl hrenamed⟩)))))]
        decide
      have hidentifier : member.identifier = member.field.property := by
        simpa [Member.isRenamed] using hrenamed
      rw [if_neg Bool.false_ne_true, List.find?_cons_of_neg (by simpa using hname),
        List.find?_nil, hidentifier]

theorem isSealedLiteral_declaration {text : String}
    (h : text ∈ (member.declaration model options).literals) : IsSealedLiteral text := by
  obtain ⟨tag, htag, hargument⟩ := List.mem_filterMap.1 h
  unfold Member.declaration Member.annotations at htag
  dsimp only at htag
  split at htag
  · rcases List.mem_cons.1 htag with rfl | htag
    · cases hargument
      exact isSealedLiteral_literal _
    · split at htag
      · rw [List.mem_singleton.1 htag] at hargument
        cases hargument
      · cases htag
  · rw [List.mem_singleton.1 htag] at hargument
    cases hargument

end Java

/-! ## Keys in Rust -/

namespace Rust

/-- The key of a field for serde: the name that it is given, or its identifier without mark. -/
def FieldDeclaration.key? (field : FieldDeclaration) : Option String :=
  match field.rename with
  | some literal => literalText? literal
  | none => some (unraw field.identifier)

def FieldDeclaration.literals (field : FieldDeclaration) : List String :=
  field.rename.toList

theorem key?_declaration (member : Member) : member.declaration.key? = some member.property := by
  unfold FieldDeclaration.key? Member.declaration Member.rename
  dsimp only
  by_cases hkey : member.defaultKey = member.property
  · rw [if_pos hkey]
    exact congrArg some hkey
  · rw [if_neg hkey]
    exact literalText?_literal _

theorem isSealedLiteral_declaration {member : Member} {text : String}
    (h : text ∈ member.declaration.literals) : IsSealedLiteral text := by
  unfold FieldDeclaration.literals Member.declaration Member.rename at h
  dsimp only at h
  split at h
  · cases h
  · rw [List.mem_singleton.1 h]
    exact isSealedLiteral_literal _

end Rust

/-! ## Both languages -/

/-- What is printed for a class. -/
inductive ClassUnit where
  | java (unit : Java.CompilationUnit)
  | rust (unit : Rust.StructUnit)

namespace ClassUnit

def lines : ClassUnit → List Line
  | .java unit => unit.lines
  | .rust unit => unit.lines

/-- The keys of the fields, where `classes` are the generated classes. -/
def keys (classes : List String) : ClassUnit → List (Option String)
  | .java unit => unit.fields.map (Java.FieldDeclaration.key? (unit.scope classes))
  | .rust unit => unit.fields.map Rust.FieldDeclaration.key?

/-- The literals at the fields. -/
def literals : ClassUnit → List String
  | .java unit => unit.fields.flatMap Java.FieldDeclaration.literals
  | .rust unit => unit.fields.flatMap Rust.FieldDeclaration.literals

/-- The unit of a class in the target language. -/
def ofClass (model : Model) (options : Options) (namespaceText : String) (cls : ClassDef) :
    ClassUnit :=
  match options.target with
  | .java => .java (Java.unitOf model options namespaceText cls)
  | .rust => .rust (Rust.structUnit model options cls)

end ClassUnit

variable {model : Model} {options : Options} {namespaceText : String} {cls : ClassDef}

/-- Every field is written under its property. -/
theorem keys_ofClass (model : Model) (options : Options) (namespaceText : String)
    (cls : ClassDef) :
    (ClassUnit.ofClass model options namespaceText cls).keys model.classNames =
      cls.fields.map (some ·.property) := by
  unfold ClassUnit.ofClass
  cases options.target with
  | java =>
      have hkeys : ∀ field ∈ cls.fields,
          ((Java.Member.ofField model field).declaration model options).key?
            (Java.fileScope model options (Java.membersOf model cls)) = some field.property :=
        fun field hfield => Java.key?_declaration (List.mem_map_of_mem hfield)
      dsimp only [ClassUnit.keys]
      rw [Java.scope_unitOf, Java.unitOf, List.map_map, List.map_map]
      exact List.map_congr_left hkeys
  | rust =>
      simp only [ClassUnit.keys, Rust.structUnit, Rust.membersOf, List.map_map,
        Function.comp_def, Rust.key?_declaration, Rust.Member.ofField]

/-- Every literal at a field stands on one line between its quotes. -/
theorem isSealedLiteral_ofClass {text : String}
    (h : text ∈ (ClassUnit.ofClass model options namespaceText cls).literals) :
    IsSealedLiteral text := by
  unfold ClassUnit.ofClass at h
  cases htarget : options.target with
  | java =>
      simp only [htarget, ClassUnit.literals, Java.unitOf, List.mem_flatMap, List.mem_map] at h
      obtain ⟨field, ⟨member, -, rfl⟩, htext⟩ := h
      exact Java.isSealedLiteral_declaration htext
  | rust =>
      simp only [htarget, ClassUnit.literals, Rust.structUnit, List.mem_flatMap, List.mem_map] at h
      obtain ⟨field, ⟨member, -, rfl⟩, htext⟩ := h
      exact Rust.isSealedLiteral_declaration htext

/-- Every class of a model that is emitted has its file, the print of its unit. -/
theorem exists_file_of_emit {files : List SourceFile}
    (h : model.emit options namespaceText = .ok files) (hcls : cls ∈ model.classes) :
    ∃ file ∈ files, file.className = cls.name ∧
      file.source = render (ClassUnit.ofClass model options namespaceText cls).lines := by
  unfold Model.emit at h
  unfold ClassUnit.ofClass
  cases htarget : options.target with
  | java =>
      rw [htarget] at h
      by_cases htaken : Java.TakesBuilderName options model
      · dsimp only at h
        rw [Java.files_of_takesBuilderName htaken] at h
        cases h
      · dsimp only at h
        rw [Java.files_of_not_takesBuilderName htaken] at h
        obtain ⟨file, hfile, hmade⟩ := exists_mem_of_mapM h hcls
        exact ⟨file, hfile, Java.source_of_fileOf hmade⟩
  | rust =>
      rw [htarget] at h
      obtain ⟨rfl, -, -⟩ := Rust.files_eq_ok h
      refine ⟨Rust.classSource model options namespaceText cls,
        List.mem_append_left _ (List.mem_map_of_mem hcls), rfl, ?_⟩
      rw [Rust.classSource, ← Rust.lines_structUnit]
      rfl

/-- In what is emitted for a model, every field of every class is written under its property, and
every literal that says so stands on one line between its quotes.  In the model of a document, the
keys of a class differ from each other. -/
theorem emit_keepsKeys {files : List SourceFile}
    (hfiles : model.emit options namespaceText = .ok files) :
    (∀ cls ∈ model.classes, ∃ file ∈ files, file.className = cls.name ∧
      file.source = render (ClassUnit.ofClass model options namespaceText cls).lines ∧
      (ClassUnit.ofClass model options namespaceText cls).keys model.classNames =
        cls.fields.map (some ·.property) ∧
      ∀ text ∈ (ClassUnit.ofClass model options namespaceText cls).literals,
        IsSealedLiteral text) ∧
      ∀ root fieldPrefix value,
        (Generation.modelOf root value fieldPrefix Watch.never).result = .ok model →
        ∀ cls ∈ model.classes,
          ((ClassUnit.ofClass model options namespaceText cls).keys model.classNames).Nodup := by
  constructor
  · intro cls hcls
    obtain ⟨file, hfile, hname, hsource⟩ := exists_file_of_emit hfiles hcls
    exact ⟨file, hfile, hname, hsource, keys_ofClass model options namespaceText cls,
      fun text htext => isSealedLiteral_ofClass htext⟩
  · intro root fieldPrefix value hmodel cls hcls
    obtain ⟨-, hown⟩ := Resolution.eq_resolvedModel hmodel
    rw [hown] at hcls
    have hproperties : (cls.fields.map (·.property)).Nodup :=
      (Resolution.wellFormed_resolvedModel hcls).distinctProperties
    have hkeys : cls.fields.map (some ·.property) = (cls.fields.map (·.property)).map some := by
      rw [List.map_map]
      rfl
    rw [keys_ofClass, hkeys]
    exact hproperties.map fun _ _ => Option.some.inj

/-- A document whose properties hold quotes and backslashes or are reserved words. -/
def awkward : Json.Value :=
  .object [
    ("class", .bool true), ("type", .bool true), ("a\"b", .bool true), ("\\u0041", .bool true),
    ("x\x7f\n", .bool true)]

def awkwardClass : ClassDef :=
  ⟨"Root",
    [⟨"a\"b", "aB", .bool, 1, 0⟩, ⟨"class", "class", .bool, 1, 0⟩, ⟨"type", "type", .bool, 1, 0⟩,
      ⟨"\\u0041", "u0041", .bool, 1, 0⟩, ⟨"x\x7f\n", "x", .bool, 1, 0⟩], 1⟩

/-- The model of it. -/
def awkwardModel : Model :=
  ⟨"Root", [awkwardClass], []⟩

def toRust : Options :=
  { target := .rust }

theorem emit_keepsKeys_awkward :
    (Generation.modelOf "Root" awkward "" Watch.never).result = .ok awkwardModel ∧
      (∃ files, awkwardModel.emit {} "com.example" = .ok files ∧
        (∃ file ∈ files,
          file.source = render (ClassUnit.ofClass awkwardModel {} "com.example" awkwardClass).lines) ∧
        ((ClassUnit.ofClass awkwardModel {} "com.example" awkwardClass).keys ["Root"]).Nodup ∧
        (ClassUnit.ofClass awkwardModel {} "com.example" awkwardClass).literals =
          ["\"a\\\"b\"", "\"class\"", "\"\\\\u0041\"", "\"x\\u007f\\n\""]) ∧
      ∃ files, awkwardModel.emit toRust "api" = .ok files ∧
        (∃ file ∈ files,
          file.source = render (ClassUnit.ofClass awkwardModel toRust "api" awkwardClass).lines) ∧
        ((ClassUnit.ofClass awkwardModel toRust "api" awkwardClass).keys ["Root"]).Nodup ∧
        (ClassUnit.ofClass awkwardModel toRust "api" awkwardClass).literals =
          ["\"a\\\"b\"", "\"\\\\u0041\"", "\"x\\u\x7b7f\x7d\\n\""] := by
  have hresolved : Resolution.resolvedModel "" "Root" awkward = awkwardModel := by
    decide +kernel
  have hmodel := @Resolution.modelOf_never "Root" awkward rfl ""
  rw [hresolved] at hmodel
  have hroot : awkwardClass ∈ awkwardModel.classes := List.mem_cons_self
  have hjava : ∃ files, awkwardModel.emit {} "com.example" = .ok files := ⟨_, rfl⟩
  have hrust : ∃ files, awkwardModel.emit toRust "api" = .ok files := ⟨_, rfl⟩
  refine ⟨hmodel, ?_, ?_⟩
  · obtain ⟨files, hfiles⟩ := hjava
    obtain ⟨hown, hdistinct⟩ := emit_keepsKeys hfiles
    obtain ⟨file, hfile, -, hsource, -⟩ := hown awkwardClass hroot
    exact ⟨files, hfiles, ⟨file, hfile, hsource⟩, hdistinct "Root" "" awkward hmodel _ hroot,
      by decide +kernel⟩
  · obtain ⟨files, hfiles⟩ := hrust
    obtain ⟨hown, hdistinct⟩ := emit_keepsKeys hfiles
    obtain ⟨file, hfile, -, hsource, -⟩ := hown awkwardClass hroot
    exact ⟨files, hfiles, ⟨file, hfile, hsource⟩, hdistinct "Root" "" awkward hmodel _ hroot,
      by decide +kernel⟩

end Exemplar.Source
