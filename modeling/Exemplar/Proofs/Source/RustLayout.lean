import Exemplar.Proofs.Source.RustContainment
import Exemplar.Proofs.Source.RustMethods
import Exemplar.Proofs.Source.RustModules
import Exemplar.Proofs.Stages

/-!
# Structs of finite size

A struct that stored itself inline, at whatever remove, would have no finite size.  A field is
therefore boxed if its class leads back to the class of the struct, and only then.  The search for
the way back goes along the classes of the model, while structs are known by the names that are
written.  A class that the model lacks may be written like a struct that the files declare: a class
`Self_` like the struct of the class `Self`, which is escaped, or a class `NodeBuilder` like the
builder of `Node`.  Such a class can be mistaken, and the search does not see it.  Every other cycle
is broken: the structs and builders, each with what it stores without a box, form a graph all of
whose cycles go through a class that can be mistaken.
-/

namespace Exemplar.Source.Rust

open Relation (ReflTransGen TransGen)

/-! ## How a field is stored -/

def storedInline (type : String) : String :=
  "::std::option::Option<" ++ type ++ ">"

def storedBoxed (type : String) : String :=
  "::std::option::Option<::std::boxed::Box<" ++ type ++ ">>"

theorem storage_eq (member : Member) :
    member.storage =
      if member.boxed = true then storedBoxed member.type else storedInline member.type := by
  unfold Member.storage storedBoxed storedInline
  rfl

theorem append_ne_of_length_lt {opening other closing ending : String} (type : String)
    (hopening : opening.length < other.length) (hclosing : closing.length ≤ ending.length) :
    opening ++ type ++ closing ≠ other ++ type ++ ending := by
  intro heq
  have hlength := congrArg String.length heq
  simp only [String.length_append] at hlength
  omega

theorem storedInline_ne_storedBoxed (type : String) : storedInline type ≠ storedBoxed type :=
  append_ne_of_length_lt type (by decide) (by decide)

/-- The class of a field leads back to the class of the field. -/
def LeadsBack (model : Model) (owner : String) (field : Field) : Prop :=
  ∃ held, field.ty = .named held ∧ ReflTransGen (Holds model) held owner

theorem isBoxed_iff {model : Model} {owner : String} {field : Field} :
    isBoxed model owner field = true ↔ LeadsBack model owner field := by
  unfold isBoxed LeadsBack
  cases hclass : inlineClass? field with
  | none =>
      refine iff_of_false Bool.false_ne_true ?_
      rintro ⟨held, hty, -⟩
      rw [inlineClass?_eq_some_iff.2 hty] at hclass
      cases hclass
  | some held =>
      have hty := inlineClass?_eq_some_iff.1 hclass
      dsimp only
      rw [isRecursive_iff]
      constructor
      · exact fun hback => ⟨held, hty, hback⟩
      · rintro ⟨other, hother, hback⟩
        rw [hty] at hother
        cases hother
        exact hback

/-- A declaration boxes its field if the field leads back, and does not otherwise. -/
inductive Stored (model : Model) (owner : String) (field : Field)
    (declaration : FieldDeclaration) : Prop where
  | boxed (hback : LeadsBack model owner field)
      (htype : declaration.type = storedBoxed (typeText field.ty))
  | inline (hback : ¬ LeadsBack model owner field)
      (htype : declaration.type = storedInline (typeText field.ty))

variable {model : Model} {options : Options} {cls : ClassDef}

theorem stored_of_type {field : Field} {declaration : FieldDeclaration}
    (htype : declaration.type = (Member.ofField model cls.name field).storage) :
    Stored model cls.name field declaration := by
  rw [storage_eq] at htype
  by_cases hboxed : isBoxed model cls.name field = true
  · exact .boxed (isBoxed_iff.1 hboxed) (htype.trans (if_pos hboxed))
  · exact .inline (mt isBoxed_iff.2 hboxed) (htype.trans (if_neg hboxed))

/-- A class that is stored inline does not lead back. -/
theorem Stored.not_leadsBack {owner held : String} {field : Field}
    {declaration : FieldDeclaration} (h : Stored model owner field declaration)
    (hty : field.ty = .named held) (htype : declaration.type = storedInline (typeName held)) :
    ¬ ReflTransGen (Holds model) held owner := by
  intro hback
  cases h with
  | boxed hleads hboxed =>
      have htext : typeText field.ty = typeName held := by
        rw [hty]
        rfl
      rw [htype, htext] at hboxed
      exact storedInline_ne_storedBoxed _ hboxed
  | inline hleads => exact hleads ⟨held, hty, hback⟩

/-! ## The declared structs -/

/-- The structs that the file of a class declares, with the declarations of their fields: the struct
of the class, and its builder if there is one. -/
inductive Declares (model : Model) (options : Options) (cls : ClassDef) :
    String → List FieldDeclaration → Prop
  | struct : Declares model options cls (structUnit model options cls).name
      (structUnit model options cls).fields
  | builder {builder : BuilderUnit} (hbuilder : builder ∈ (codeOf options model cls).builder) :
      Declares model options cls builder.name builder.fields

/-- A builder has the fields of its struct, stored alike. -/
theorem stored_of_declares {struct : String} {fields : List FieldDeclaration}
    (h : Declares model options cls struct fields) :
    List.Forall₂ (Stored model cls.name) cls.fields fields := by
  cases h with
  | struct =>
      rw [structUnit, membersOf, List.map_map, List.forall₂_map_right_iff]
      exact List.forall₂_same.2 fun field _ => stored_of_type rfl
  | builder hbuilder =>
      rw [codeOf] at hbuilder
      dsimp only at hbuilder
      split at hbuilder
      · cases hbuilder
        rw [builderOf, membersOf, List.map_map, List.forall₂_map_right_iff]
        exact List.forall₂_same.2 fun field _ => stored_of_type rfl
      · cases hbuilder

/-- A struct of the name is declared for the class.  Names count without the mark of a raw
identifier. -/
def DeclaredFor (model : Model) (options : Options) (name owner : String) : Prop :=
  ∃ cls ∈ model.classes, cls.name = owner ∧
    ∃ struct fields, Declares model options cls struct fields ∧ unraw struct = name

/-- A declared struct of the name has a field of the class that is stored without a box. -/
def StoresClass (model : Model) (options : Options) (name held : String) : Prop :=
  ∃ cls ∈ model.classes, ∃ struct fields, Declares model options cls struct fields ∧
    unraw struct = name ∧ ∃ declared ∈ cls.fields.zip fields,
      declared.1.ty = .named held ∧ declared.2.type = storedInline (typeName held)

/-- A declared struct of the first name has a field of class type that is stored without a box, and
the class is written with the second. -/
def StoresInline (model : Model) (options : Options) (name other : String) : Prop :=
  ∃ held, StoresClass model options name held ∧ unraw (typeName held) = other

/-- A class is written like a declared struct that is not its own. -/
inductive IsMistakable (model : Model) (options : Options) (held : String) : Prop
  | struct {cls : ClassDef} (hcls : cls ∈ model.classes) (hne : cls.name ≠ held)
      (hname : unraw (structUnit model options cls).name = unraw (typeName held))
  | builder {cls : ClassDef} {builder : BuilderUnit} (hcls : cls ∈ model.classes)
      (hbuilder : builder ∈ (codeOf options model cls).builder)
      (hname : unraw builder.name = unraw (typeName held))

/-- The first struct stores the second inline, for a class that cannot be mistaken. -/
def StoresSurely (model : Model) (options : Options) (name other : String) : Prop :=
  ∃ held, StoresClass model options name held ∧ ¬ IsMistakable model options held ∧
    unraw (typeName held) = other

/-! ## No cycle of structs -/

/-- The first class holds the second, which does not lead back to it. -/
def HoldsInline (model : Model) (owner held : String) : Prop :=
  Holds model owner held ∧ ¬ ReflTransGen (Holds model) held owner

theorem not_holdsInline_self (name : String) : ¬ TransGen (HoldsInline model) name name := by
  intro hcycle
  -- Of a cycle the first edge is stored inline, while the rest leads back.
  obtain ⟨held, hfirst, hrest⟩ := TransGen.head'_iff.1 hcycle
  exact hfirst.2 (ReflTransGen.mono (fun _ _ hstored => hstored.1) _ _ hrest)

theorem StoresClass.exists_owner (hnames : model.classNames.Nodup) {name held : String}
    (h : StoresClass model options name held) :
    ∃ owner, DeclaredFor model options name owner ∧ HoldsInline model owner held := by
  obtain ⟨cls, hcls, struct, fields, hdeclares, hname, ⟨field, declaration⟩, hdeclared, hty,
    htype⟩ := h
  have hclass : model.class? cls.name = some cls :=
    (Roster.find?_key_eq_some_iff hnames cls.name cls).2 ⟨hcls, rfl⟩
  have hstored : Stored model cls.name field declaration :=
    (List.forall₂_iff_zip.1 (stored_of_declares hdeclares)).2 hdeclared
  exact ⟨cls.name, ⟨cls, hcls, rfl, struct, fields, hdeclares, hname⟩,
    ⟨cls, hclass, field, (List.of_mem_zip hdeclared).1, hty⟩, hstored.not_leadsBack hty htype⟩

/-- What is declared under the name of a class that cannot be mistaken is declared for the class. -/
theorem DeclaredFor.eq_of_not_isMistakable {owner held : String}
    (h : DeclaredFor model options (unraw (typeName held)) owner)
    (hheld : ¬ IsMistakable model options held) : owner = held := by
  obtain ⟨cls, hcls, rfl, struct, fields, hdeclares, hname⟩ := h
  by_contra hne
  cases hdeclares with
  | struct => exact hheld (.struct hcls hne hname)
  | builder hbuilder => exact hheld (.builder hcls hbuilder hname)

/-- A way through the structs is one through their classes. -/
theorem exists_of_transGen (hnames : model.classNames.Nodup) {name other : String}
    (h : TransGen (StoresSurely model options) name other) :
    ∃ owner held, DeclaredFor model options name owner ∧ ¬ IsMistakable model options held ∧
      unraw (typeName held) = other ∧ TransGen (HoldsInline model) owner held := by
  induction h with
  | single hedge =>
      obtain ⟨held, hstores, hheld, hother⟩ := hedge
      obtain ⟨owner, howner, hinline⟩ := hstores.exists_owner hnames
      exact ⟨owner, held, howner, hheld, hother, .single hinline⟩
  | tail _ hedge ih =>
      obtain ⟨owner, middle, howner, hmiddle, rfl, hway⟩ := ih
      obtain ⟨held, hstores, hheld, hother⟩ := hedge
      obtain ⟨next, hnext, hinline⟩ := hstores.exists_owner hnames
      rw [hnext.eq_of_not_isMistakable hmiddle] at hinline
      exact ⟨owner, held, howner, hheld, hother, hway.tail hinline⟩

theorem not_storesSurely_self (hnames : model.classNames.Nodup) (name : String) :
    ¬ TransGen (StoresSurely model options) name name := by
  intro hcycle
  obtain ⟨owner, held, howner, hheld, rfl, hway⟩ := exists_of_transGen hnames hcycle
  rw [howner.eq_of_not_isMistakable hheld] at hway
  exact not_holdsInline_self held hway

/-! ## Names that cannot be mistaken -/

/-- Among plain names, only classes that the model lacks can be mistaken. -/
theorem IsMistakable.notMem (hplain : HasPlainNames model)
    (hbuilders : options.generateBuilders = true → ∀ name ∈ model.classNames,
      ∀ other ∈ model.classNames, builderName name ≠ other) {held : String}
    (h : IsMistakable model options held) : held ∉ model.classNames := by
  intro hmem
  obtain ⟨target, htarget, rfl⟩ := List.mem_map.1 hmem
  have hwritten : unraw (typeName target.name) = plainName target.name :=
    unraw_escapeWord (hash_notMem (hplain target htarget))
  cases h with
  | @struct cls hcls hne hname =>
      have hstruct : unraw (typeName cls.name) = plainName cls.name :=
        unraw_escapeWord (hash_notMem (hplain cls hcls))
      apply hne (plainName_inj (hplain cls hcls) (hplain target htarget) _)
      rw [← hstruct, ← hwritten]
      exact hname
  | @builder cls builder hcls hbuilder hname =>
      rw [codeOf] at hbuilder
      dsimp only at hbuilder
      split at hbuilder
      · rename_i hbuilt
        cases hbuilder
        have hstruct : unraw (builderName (typeName cls.name)) = builderName (plainName cls.name) :=
          unraw_escapeWord_append (hash_notMem (hplain cls hcls)) (by decide)
        apply builderName_plainName_ne (hplain target htarget)
          (hbuilders hbuilt _ (List.mem_map_of_mem hcls) _ hmem)
        rw [← hstruct, ← hwritten]
        exact hname
      · cases hbuilder

/-- No field of class type names a class that the model lacks. -/
def IsClosed (model : Model) : Prop :=
  ∀ cls ∈ model.classes, ∀ field ∈ cls.fields, ∀ held ∈ inlineClass? field,
    held ∈ model.classNames

instance (model : Model) : Decidable (IsClosed model) :=
  inferInstanceAs (Decidable (∀ cls ∈ model.classes, ∀ field ∈ cls.fields,
    ∀ held ∈ inlineClass? field, held ∈ model.classNames))

/-- The model of a document is closed. -/
theorem isClosed_resolvedModel {value : Json.Value} (hvalue : Discovery.isRoot value = true)
    (fieldPrefix root : String) : IsClosed (Resolution.resolvedModel fieldPrefix root value) := by
  intro cls hcls field hfield held hheld
  have hreferenced : field.ty.referencedClass? = some held := by
    rw [inlineClass?_eq_some_iff.1 hheld]
    rfl
  obtain ⟨hclass, -⟩ := Resolution.referencedClass?_resolvedModel hvalue hcls hfield hreferenced
  exact List.contains_iff_mem.1 hclass

theorem StoresClass.mem_of_isClosed {name held : String} (h : StoresClass model options name held)
    (hclosed : IsClosed model) : held ∈ model.classNames := by
  obtain ⟨cls, hcls, _, _, -, -, ⟨field, _⟩, hdeclared, hty, -⟩ := h
  exact hclosed cls hcls field (List.of_mem_zip hdeclared).1 held (inlineClass?_eq_some_iff.2 hty)

/-- A model with two classes of one name has no files, since their modules would have one name. -/
theorem classNames_nodup_of_files {modulePath : String} {files : List SourceFile}
    (hfiles : Rust.files model options modulePath = .ok files) : model.classNames.Nodup := by
  obtain ⟨-, hstems, -⟩ := files_eq_ok hfiles
  apply List.Nodup.of_map moduleStem
  rwa [Model.classNames, List.map_map, Function.comp_def]

/-- How the structs of a model are laid out. -/
structure HasFiniteStructs (model : Model) (options : Options) : Prop where
  /-- Every cycle of structs goes through a class that can be mistaken. -/
  acyclic : ∀ name, ¬ TransGen (StoresSurely model options) name name
  /-- Among plain names, only classes that the model lacks can be mistaken. -/
  lacking : HasPlainNames model → ∀ held, IsMistakable model options held →
    held ∉ model.classNames
  /-- So there is no cycle at all in a closed model with plain names. -/
  closed : HasPlainNames model → IsClosed model →
    ∀ name, ¬ TransGen (StoresInline model options) name name
  stored : ∀ cls ∈ model.classes, ∀ struct fields, Declares model options cls struct fields →
    List.Forall₂ (Stored model cls.name) cls.fields fields

theorem hasFiniteStructs (hnames : model.classNames.Nodup)
    (hbuilders : options.generateBuilders = true → ∀ name ∈ model.classNames,
      ∀ other ∈ model.classNames, builderName name ≠ other) : HasFiniteStructs model options := by
  constructor
  case acyclic => exact not_storesSurely_self hnames
  case lacking => exact fun hplain held hheld => hheld.notMem hplain hbuilders
  case closed =>
    intro hplain hclosed name hcycle
    have hsure : ∀ first second, StoresInline model options first second →
        StoresSurely model options first second := by
      rintro first second ⟨held, hstores, hsecond⟩
      have hmem : held ∈ model.classNames := hstores.mem_of_isClosed hclosed
      exact ⟨held, hstores, fun hheld => hheld.notMem hplain hbuilders hmem, hsecond⟩
    exact not_storesSurely_self hnames name (TransGen.mono hsure _ _ hcycle)
  case stored => exact fun cls _ struct fields hdeclares => stored_of_declares hdeclares

/-- Structs have finite size.  In every model the search for an owner comes to an end in whatever
order it goes on, with the answer of the bounded search, which is whether the owner can be reached
along fields of class type.  In the structs and builders that are emitted, a field is boxed exactly
if its class leads back to the class of the struct, and no struct stores itself inline, at whatever
remove, but through a class that is written like a struct that is not its own.  In the model of a
document there is no such class. -/
theorem structs_finite (model : Model) :
    (∀ owner, WellFounded fun next search => Search.Step model owner search next) ∧
    (∀ owner target search,
      ReflTransGen (Search.Step model owner) (.start target) search →
        (∃ next, Search.Step model owner search next) ∨
          Search.Ends owner search (isRecursive model owner target)) ∧
    (∀ owner target, isRecursive model owner target = true ↔
      ReflTransGen (Holds model) target owner) ∧
    ∀ options modulePath files, Rust.files model options modulePath = .ok files →
      HasFiniteStructs model options ∧
      (∀ lowering root value watch,
        (Generation.model lowering root value watch).result = .ok model →
          ∀ name, ¬ TransGen (StoresInline model options) name name) ∧
      ∀ cls ∈ model.classes, ∃ file ∈ files, file.className = cls.name ∧
        file.source = render (structUnit model options cls).lines ∧
        (structUnit model options cls).implementation = (codeOf options model cls).lines := by
  refine ⟨Search.wellFounded_step model, ?_, fun _ _ => isRecursive_iff, ?_⟩
  · intro owner target search hrun
    rcases Search.ends_or_step model owner search with ⟨answer, hends⟩ | hstep
    · have hanswer : answer = isRecursive model owner target := by
        rw [Bool.eq_iff_iff, Search.answer_eq_true_iff hrun hends, isRecursive_iff]
      exact .inr (hanswer ▸ hends)
    · exact .inl hstep
  · intro options modulePath files hfiles
    obtain ⟨hsources, -, hbuilders⟩ := files_eq_ok hfiles
    have hfinite : HasFiniteStructs model options :=
      hasFiniteStructs (classNames_nodup_of_files hfiles) hbuilders
    refine ⟨hfinite, ?_, fun cls hcls => ⟨classSource model options modulePath cls, ?_, rfl, ?_,
      (lines_codeOf ..).symm⟩⟩
    · intro lowering root value watch hmodel
      obtain ⟨hroot, hmodel⟩ := Generation.of_model hmodel
      obtain ⟨hvalue, rfl⟩ := Resolution.eq_resolvedModel hmodel
      exact hfinite.closed (hasPlainNames_resolvedModel hroot hvalue _)
        (isClosed_resolvedModel hvalue _ _)
    · rw [hsources]
      exact List.mem_append_left _ (List.mem_map_of_mem hcls)
    · rw [classSource, lines_structUnit]

/-- A document with a class that holds itself and the class that holds it. -/
def knotted : Json.Value :=
  .object [("tree", .object [
    ("node", .object [("node", .object [("node", .null), ("tree", .null)]), ("tree", .null)]),
    ("roots", .array [.object [("tree", .null)]])])]

/-- The model of it. -/
def knottedModel : Model :=
  ⟨"Root",
    [⟨"Root", [⟨"tree", "mTree", .named "Tree", 2, 1⟩], 2⟩,
      ⟨"Tree", [⟨"node", "mNode", .named "Node", 1, 0⟩,
        ⟨"roots", "mRoots", .list (.named "Root"), 1, 0⟩], 1⟩,
      ⟨"Node", [⟨"node", "mNode", .named "Node", 2, 1⟩,
        ⟨"tree", "mTree", .named "Tree", 2, 2⟩], 2⟩],
    []⟩

theorem structs_finite_knotted :
    (Generation.model {} "Root" knotted Watch.never).result = .ok knottedModel ∧
      HasPlainNames knottedModel ∧ IsClosed knottedModel ∧
      ∃ files, Rust.files knottedModel withBuilders "api" = .ok files ∧
        (∀ name, ¬ TransGen (StoresInline knottedModel withBuilders) name name) ∧
        ¬ IsMistakable knottedModel withBuilders "Tree" ∧
        (structUnit knottedModel withBuilders knottedModel.classes[2]).fields.map (·.type) =
          [storedBoxed "Node", storedBoxed "Tree"] ∧
        StoresInline knottedModel withBuilders "RootBuilder" "Tree" := by
  have hmodel : (Generation.model {} "Root" knotted Watch.never).result = .ok knottedModel := by
    decide +kernel
  have hwords : ∀ cls ∈ knottedModel.classes, Naming.isClassName cls.name = true := by
    decide +kernel
  have hplain : HasPlainNames knottedModel :=
    fun cls hcls => isPlain_of_isClassName (hwords cls hcls)
  have hclosed : IsClosed knottedModel := by
    decide +kernel
  have hmade : ∃ files, Rust.files knottedModel withBuilders "api" = .ok files := ⟨_, rfl⟩
  obtain ⟨files, hfiles⟩ := hmade
  obtain ⟨hfinite, hdocument, -⟩ := (structs_finite knottedModel).2.2.2 _ _ _ hfiles
  refine ⟨hmodel, hplain, hclosed, files, hfiles, hdocument {} "Root" knotted Watch.never hmodel,
    ?_, by decide +kernel, ?_⟩
  · exact fun htree => hfinite.lacking hplain "Tree" htree (by decide)
  · exact ⟨"Tree", ⟨_, List.mem_cons_self, _, _, .builder rfl, rfl, _, List.mem_cons_self, rfl,
      by decide +kernel⟩, by decide +kernel⟩

/-- A class that holds a class written like its own struct, and one that holds a class written like
its own builder.  The model lacks both of them. -/
def mistaken : Model :=
  ⟨"Self",
    [⟨"Self", [⟨"x", "mX", .named "Self_", 1, 0⟩], 1⟩,
      ⟨"Node", [⟨"y", "mY", .named "NodeBuilder", 1, 0⟩], 1⟩],
    []⟩

/-- A struct and a builder that store themselves without a box, since the search knows the classes
of the model only. -/
theorem structs_store_themselves_mistaken :
    (∃ files, Rust.files mistaken { target := .rust } "" = .ok files ∧
      isRecursive mistaken "Self" "Self_" = false ∧
      TransGen (StoresInline mistaken { target := .rust }) "Self_" "Self_") ∧
    ∃ files, Rust.files mistaken withBuilders "" = .ok files ∧
      isRecursive mistaken "Node" "NodeBuilder" = false ∧
      TransGen (StoresInline mistaken withBuilders) "NodeBuilder" "NodeBuilder" := by
  have hself : StoresInline mistaken { target := .rust } "Self_" "Self_" :=
    ⟨"Self_", ⟨_, List.mem_cons_self, _, _, .struct, by decide +kernel, _, List.mem_cons_self, rfl,
      by decide +kernel⟩, by decide +kernel⟩
  have hbuilder : StoresInline mistaken withBuilders "NodeBuilder" "NodeBuilder" :=
    ⟨"NodeBuilder", ⟨_, List.mem_cons_of_mem _ List.mem_cons_self, _, _, .builder rfl,
      by decide +kernel, _, List.mem_cons_self, rfl, by decide +kernel⟩, by decide +kernel⟩
  exact ⟨⟨_, rfl, by decide +kernel, .single hself⟩, _, rfl, by decide +kernel, .single hbuilder⟩

end Exemplar.Source.Rust
