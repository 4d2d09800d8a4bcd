import Exemplar.Proofs.Naming.PlainNames
import Exemplar.Proofs.References
import Exemplar.Proofs.Source.JavaReading

/-!
# Names in Java files

Whatever names of library types the generated classes have, every type that a file writes denotes
what the type of its field means, and every annotation what it is to.  Imports are decided on all
fields of a class at once and names are written one by one; both look at the same class names, so
that a file imports just those library types that it writes by their simple names.
-/

namespace Exemplar.Source.Java

/-! ## Library types -/

/-- The library types that a file may import. -/
def importable : List LibraryType :=
  [generatedType, listType, serializedNameType, exposeType]

/-- The library types that need no import. -/
def langTypes : List LibraryType :=
  ["Boolean", "Long", "Double", "String", "Object", "SuppressWarnings"].map langType

theorem wellKnown_names : ∀ library ∈ importable ++ langTypes,
    isDotted library.name = false ∧ isDotted library.fullName = true ∧
      library.name ≠ builderClass ∧ '<' ∉ library.name.toList ∧ '<' ∉ library.fullName.toList := by
  decide

theorem simpleName_importable :
    ∀ library ∈ importable, simpleName library.fullName = library.name := by
  decide

theorem importable_inj :
    ∀ first ∈ importable, ∀ second ∈ importable, first.name = second.name → first = second := by
  decide

theorem langTypes_not_importable :
    ∀ library ∈ langTypes, ∀ other ∈ importable, other.name ≠ library.name := by
  decide

variable {model : Model} {options : Options} {members : List Member}

theorem mem_neededTypes {library : LibraryType} :
    library ∈ neededTypes options members ↔
      library = generatedType ∨
      library = listType ∧ (∃ member ∈ members, member.field.ty.isList = true) ∨
      library = serializedNameType ∧ (∃ member ∈ members, member.isRenamed = true) ∨
      library = exposeType ∧ (∃ member ∈ members,
        member.isRenamed = false ∨ options.alwaysAnnotateExpose = true) := by
  have hexpose : (members.any (!·.isRenamed) ||
      (members.any Member.isRenamed && options.alwaysAnnotateExpose)) = true ↔
        ∃ member ∈ members, member.isRenamed = false ∨ options.alwaysAnnotateExpose = true := by
    simp only [Bool.or_eq_true, Bool.and_eq_true, List.any_eq_true, Bool.not_eq_true']
    constructor
    · rintro (⟨member, hmem, hkept⟩ | ⟨⟨member, hmem, -⟩, halways⟩)
      · exact ⟨member, hmem, .inl hkept⟩
      · exact ⟨member, hmem, .inr halways⟩
    · rintro ⟨member, hmem, hkept | halways⟩
      · exact .inl ⟨member, hmem, hkept⟩
      · cases hrenamed : member.isRenamed with
        | true => exact .inr ⟨⟨member, hmem, hrenamed⟩, halways⟩
        | false => exact .inl ⟨member, hmem, hrenamed⟩
  have hpart : ∀ (condition : Bool) (type : LibraryType),
      library ∈ (if condition then [type] else []) ↔ library = type ∧ condition = true := by
    intro condition type
    cases condition <;> simp
  unfold neededTypes
  dsimp only
  rw [List.mem_append, List.mem_append, List.mem_append, hpart, hpart, hpart, hexpose,
    List.mem_singleton, List.any_eq_true, List.any_eq_true, or_assoc, or_assoc]

theorem mem_importable_of_needed {library : LibraryType}
    (h : library ∈ neededTypes options members) : library ∈ importable := by
  rcases mem_neededTypes.1 h with rfl | ⟨rfl, -⟩ | ⟨rfl, -⟩ | ⟨rfl, -⟩ <;> decide

theorem mem_importedNames {imported : String} :
    imported ∈ importedNames model options members ↔
      ∃ library ∈ neededTypes options members,
        model.hasClass library.name = false ∧ library.fullName = imported := by
  rw [importedNames, Sorted.mem_ofList]
  simp only [List.mem_map, List.mem_filter, Bool.not_eq_true', and_assoc]

/-! ## Resolution -/

/-- The scope of the names in the file of a class. -/
def fileScope (model : Model) (options : Options) (members : List Member) : Scope :=
  ⟨importedNames model options members, model.classNames, options.generateBuilders⟩

/-- Under a simple name at most the one library type is imported that has it. -/
theorem find?_importedNames {name imported : String}
    (h : (importedNames model options members).find? (simpleName · == name) = some imported) :
    ∃ library ∈ neededTypes options members, model.hasClass library.name = false ∧
      library.fullName = imported ∧ library.name = name := by
  obtain ⟨library, hneeded, hclass, rfl⟩ :=
    mem_importedNames.1 (List.mem_of_find?_eq_some h)
  have hname := List.find?_some h
  rw [simpleName_importable library (mem_importable_of_needed hneeded), beq_iff_eq] at hname
  exact ⟨library, hneeded, hclass, rfl, hname⟩

theorem find?_importedNames_of_needed {library : LibraryType}
    (hneeded : library ∈ neededTypes options members)
    (hclass : model.hasClass library.name = false) :
    (importedNames model options members).find? (simpleName · == library.name) =
      some library.fullName := by
  have hmem : library.fullName ∈ importedNames model options members :=
    mem_importedNames.2 ⟨library, hneeded, hclass, rfl⟩
  have himportable := mem_importable_of_needed hneeded
  cases hfound : (importedNames model options members).find? (simpleName · == library.name) with
  | none =>
      have hnone := List.find?_eq_none.1 hfound library.fullName hmem
      rw [simpleName_importable library himportable, beq_self_eq_true] at hnone
      exact absurd rfl hnone
  | some imported =>
      obtain ⟨other, hother, -, rfl, hname⟩ := find?_importedNames hfound
      rw [importable_inj other (mem_importable_of_needed hother) library himportable hname]

theorem find?_importedNames_eq_none {name : String}
    (h : ∀ library ∈ importable, model.hasClass library.name = false → library.name ≠ name) :
    (importedNames model options members).find? (simpleName · == name) = none := by
  cases hfound : (importedNames model options members).find? (simpleName · == name) with
  | none => rfl
  | some imported =>
      obtain ⟨library, hneeded, hclass, -, hname⟩ := find?_importedNames hfound
      exact absurd hname (h library (mem_importable_of_needed hneeded) hclass)

/-- A library type is read as itself, if it is imported where it has to be. -/
theorem resolve_qualify {library : LibraryType}
    (h : library ∈ neededTypes options members ∨ library ∈ langTypes) :
    (fileScope model options members).resolve (qualify model library) =
      .library library.fullName := by
  have hknown : library ∈ importable ++ langTypes := by
    rcases h with h | h
    · exact List.mem_append_left _ (mem_importable_of_needed h)
    · exact List.mem_append_right _ h
  obtain ⟨hname, hfull, hbuilder, -, -⟩ := wellKnown_names library hknown
  unfold Scope.resolve
  cases hclass : model.hasClass library.name with
  | true =>
      rw [qualify, hclass, if_pos rfl, hfull]
      rfl
  | false =>
      rw [qualify, hclass, if_neg Bool.false_ne_true, hname, if_neg Bool.false_ne_true, if_neg]
      · rcases h with hneeded | hlang
        · rw [fileScope, find?_importedNames_of_needed hneeded hclass]
        · have hpackage : langType library.name = library := by
            obtain ⟨name, -, rfl⟩ := List.mem_map.1 hlang
            rfl
          rw [fileScope, find?_importedNames_eq_none
            fun other hother _ => langTypes_not_importable library hlang other hother]
          dsimp only
          rw [if_neg, hpackage]
          exact Bool.eq_false_iff.1 hclass
      · rw [Bool.and_eq_true, beq_iff_eq]
        exact fun hboth => hbuilder hboth.2

/-- A generated class is read as itself, unless a builder hides it. -/
theorem resolve_class {name : String} (hclass : model.hasClass name = true)
    (hdotted : isDotted name = false)
    (hbuilder : options.generateBuilders = true → name ≠ builderClass) :
    (fileScope model options members).resolve name = .generated name := by
  unfold Scope.resolve
  rw [hdotted, if_neg Bool.false_ne_true, if_neg]
  · rw [fileScope, find?_importedNames_eq_none]
    · exact if_pos hclass
    · rintro library - hnone rfl
      rw [hclass] at hnone
      cases hnone
  · rw [Bool.and_eq_true, beq_iff_eq]
    exact fun hboth => hbuilder hboth.1 hboth.2

/-! ## Types -/

/-- The type of a field as it is written, with the names apart. -/
def expression (model : Model) : Ty → TypeExpression
  | .bool => .simple (qualify model (langType "Boolean"))
  | .integer => .simple (qualify model (langType "Long"))
  | .float => .simple (qualify model (langType "Double"))
  | .string => .simple (qualify model (langType "String"))
  | .any => .simple (qualify model (langType "Object"))
  | .named name => .simple name
  | .list element => .applied (qualify model listType) (expression model element)

/-- Whether a type names a class only if it can be written, and read, by its name. -/
def Nameable (model : Model) (options : Options) (ty : Ty) : Prop :=
  ∀ name, ty.referencedClass? = some name →
    model.hasClass name = true ∧ (∀ c ∈ name.toList, Unicode.IsPlain c) ∧
      (options.generateBuilders = true → name ≠ builderClass)

theorem notMem_qualify {library : LibraryType} (h : library ∈ importable ++ langTypes) :
    '<' ∉ (qualify model library).toList := by
  obtain ⟨-, -, -, hname, hfull⟩ := wellKnown_names library h
  unfold qualify
  split
  · exact hfull
  · exact hname

theorem readType?_typeText {ty : Ty} (h : Nameable model options ty) :
    readType? (typeText model ty).toList = some (expression model ty) := by
  induction ty with
  | named name =>
      apply readType?_simple
      intro hmem
      exact absurd ((h name rfl).2.1 '<' hmem) (by decide)
  | list element ih => exact readType?_applied (notMem_qualify (by decide)) (ih h)
  | _ => exact readType?_simple (notMem_qualify (by decide))

theorem denotes_expression {ty : Ty} (h : Nameable model options ty)
    (hlist : ty.isList = true → listType ∈ neededTypes options members) :
    (fileScope model options members).denotes (expression model ty) = meaning ty := by
  induction ty with
  | named name =>
      obtain ⟨hclass, hplain, hbuilder⟩ := h name rfl
      apply resolve_class hclass _ hbuilder
      rw [isDotted, ← Bool.not_eq_true, List.contains_iff_mem]
      exact fun hmem => absurd (hplain '.' hmem) (by decide)
  | list element ih =>
      have hneeded := hlist rfl
      rw [expression, Scope.denotes, resolve_qualify (.inl hneeded), ih h fun _ => hneeded]
      rfl
  | _ => exact resolve_qualify (.inr (by decide))

/-- The type of a field is read as what it means. -/
theorem read?_typeText {ty : Ty} (h : Nameable model options ty)
    (hlist : ty.isList = true → listType ∈ neededTypes options members) :
    (fileScope model options members).read? (typeText model ty) = some (meaning ty) := by
  rw [Scope.read?, readType?_typeText h, Option.map_some, denotes_expression h hlist]

theorem mem_names_expression {ty : Ty} {name : String} (h : name ∈ (expression model ty).names) :
    (∃ library ∈ langTypes, name = qualify model library) ∨
      ty.isList = true ∧ name = qualify model listType ∨ ty.referencedClass? = some name := by
  induction ty with
  | named other => exact .inr (.inr (congrArg some (List.mem_singleton.1 h).symm))
  | list element ih =>
      rcases List.mem_cons.1 h with rfl | h
      · exact .inr (.inl ⟨rfl, rfl⟩)
      · rcases ih h with hlang | ⟨-, hlist⟩ | hclass
        · exact .inl hlang
        · exact .inr (.inl ⟨rfl, hlist⟩)
        · exact .inr (.inr hclass)
  | _ => exact .inl ⟨_, by decide, List.mem_singleton.1 h⟩

/-- A library type that is written by a simple name has that name. -/
theorem name_eq_of_qualify {library : LibraryType} {name : String}
    (hlibrary : library ∈ importable ++ langTypes) (hname : isDotted name = false)
    (h : name = qualify model library) : name = library.name := by
  unfold qualify at h
  split at h
  · rw [h, (wellKnown_names library hlibrary).2.1] at hname
    cases hname
  · exact h

/-! ## The unit of a class -/

variable {package : String} {cls : ClassDef}

/-- The members of a class. -/
abbrev membersOf (model : Model) (cls : ClassDef) : List Member :=
  cls.fields.map (Member.ofField model)

theorem fieldTypes_unitOf :
    (unitOf model options package cls).fieldTypes = (membersOf model cls).map (·.type) := by
  rw [CompilationUnit.fieldTypes, unitOf, List.map_map]
  rfl

theorem getterTypes_unitOf :
    (unitOf model options package cls).getterTypes = (membersOf model cls).map (·.type) := by
  rw [CompilationUnit.getterTypes, unitOf, List.map_map]
  rfl

theorem setterTypes_unitOf :
    (unitOf model options package cls).setterTypes =
      if options.generateBuilders then [] else (membersOf model cls).map (·.type) := by
  rw [CompilationUnit.setterTypes, unitOf, List.filterMap_map]
  cases hbuilders : options.generateBuilders with
  | true =>
      have hnone : (·.setter) ∘ Member.accessors options = fun _ => none := by
        funext member
        simp [Member.accessors, hbuilders]
      rw [hnone, List.filterMap_eq_nil_iff.2 fun _ _ => rfl]
      rfl
  | false =>
      have hsome : (·.setter) ∘ Member.accessors options = some ∘ Member.setterMethod := by
        funext member
        simp [Member.accessors, hbuilders]
      rw [hsome, List.filterMap_eq_map, List.filterMap_map]
      exact congrFun (List.filterMap_eq_map (f := Member.type)) _

theorem builderFieldTypes_unitOf :
    (unitOf model options package cls).builderFieldTypes =
      if options.generateBuilders then (membersOf model cls).map (·.type) else [] := by
  unfold CompilationUnit.builderFieldTypes unitOf
  dsimp only
  split
  · rw [Option.toList_some, List.flatMap_singleton, builderOf, List.map_map]
    rfl
  · rfl

theorem withMethodTypes_unitOf :
    (unitOf model options package cls).withMethodTypes =
      if options.generateBuilders then (membersOf model cls).map (·.type) else [] := by
  unfold CompilationUnit.withMethodTypes unitOf
  dsimp only
  split
  · rw [Option.toList_some, List.flatMap_singleton, builderOf, List.filterMap_map]
    exact congrFun (List.filterMap_eq_map (f := Member.type)) _
  · rfl

/-- Every type that a unit writes is that of a member, and none is left out. -/
theorem mem_types_unitOf {type : String} :
    type ∈ (unitOf model options package cls).types ↔
      ∃ member ∈ membersOf model cls, member.type = type := by
  rw [← List.mem_map]
  unfold CompilationUnit.types
  rw [fieldTypes_unitOf, getterTypes_unitOf, setterTypes_unitOf, builderFieldTypes_unitOf,
    withMethodTypes_unitOf]
  simp only [List.mem_append]
  constructor
  · rintro ((((h | h) | h) | h) | h)
    · exact h
    · exact h
    all_goals
      split at h
      · first | exact h | cases h
      · first | exact h | cases h
  · exact fun h => .inl (.inl (.inl (.inl h)))

/-- The annotations of a unit, apart from its marks, are those of its members. -/
theorem annotations_unitOf :
    (unitOf model options package cls).annotations =
      marks model options ++ (membersOf model cls).flatMap (·.annotations model options) := by
  rw [CompilationUnit.annotations, unitOf, List.flatMap_map]
  rfl

theorem mem_annotations {member : Member} {tag : Annotation}
    (h : tag ∈ member.annotations model options) :
    tag.name = qualify model serializedNameType ∧ tag.argument.isSome = true ∧
        member.isRenamed = true ∨
      tag.name = qualify model exposeType ∧ tag.argument.isSome = false ∧
        (member.isRenamed = false ∨ options.alwaysAnnotateExpose = true) := by
  unfold Member.annotations at h
  split at h
  · rename_i hrenamed
    rcases List.mem_cons.1 h with rfl | h
    · exact .inl ⟨rfl, rfl, hrenamed⟩
    · split at h
      · rename_i halways
        rw [List.mem_singleton.1 h]
        exact .inr ⟨rfl, rfl, .inr halways⟩
      · cases h
  · rename_i hkept
    rw [List.mem_singleton.1 h]
    exact .inr ⟨rfl, rfl, .inl (Bool.eq_false_iff.2 hkept)⟩

/-- How the names of a unit are read in the package of a model. -/
structure NamesResolve (model : Model) (options : Options) (cls : ClassDef)
    (unit : CompilationUnit) : Prop where
  fields : unit.fieldTypes.map (unit.scope model.classNames).read? =
    cls.fields.map (some <| meaning ·.ty)
  getters : unit.getterTypes.map (unit.scope model.classNames).read? =
    cls.fields.map (some <| meaning ·.ty)
  setters : unit.setterTypes.map (unit.scope model.classNames).read? =
    if options.generateBuilders then [] else cls.fields.map (some <| meaning ·.ty)
  builderFields : unit.builderFieldTypes.map (unit.scope model.classNames).read? =
    if options.generateBuilders then cls.fields.map (some <| meaning ·.ty) else []
  withMethods : unit.withMethodTypes.map (unit.scope model.classNames).read? =
    if options.generateBuilders then cls.fields.map (some <| meaning ·.ty) else []
  marks : unit.marks.map ((unit.scope model.classNames).resolve ·.name) =
    [.library "javax.annotation.Generated", .library "java.lang.SuppressWarnings"]
  annotations : ∀ field ∈ unit.fields, ∀ tag ∈ field.annotations,
    (unit.scope model.classNames).resolve tag.name =
      .library (if tag.argument.isSome then "com.google.gson.annotations.SerializedName"
        else "com.google.gson.annotations.Expose")
  /-- No import hides a generated class. -/
  free : ∀ imported ∈ unit.imports, simpleName imported ∉ model.classNames
  /-- Imported are the library types that are written by their simple names. -/
  imports : ∀ imported, imported ∈ unit.imports ↔
    ∃ library ∈ importable, library.fullName = imported ∧ library.name ∈ unit.names ∧
      library.name ∉ model.classNames

theorem scope_unitOf :
    (unitOf model options package cls).scope model.classNames =
      fileScope model options (membersOf model cls) := by
  unfold CompilationUnit.scope unitOf fileScope
  dsimp only
  cases options.generateBuilders <;> rfl

theorem listType_needed {member : Member} (hmem : member ∈ membersOf model cls)
    (hlist : member.field.ty.isList = true) :
    listType ∈ neededTypes options (membersOf model cls) :=
  mem_neededTypes.2 (.inr (.inl ⟨rfl, member, hmem, hlist⟩))

/-- The types of all members are read as what they mean. -/
theorem read?_types (h : ∀ field ∈ cls.fields, Nameable model options field.ty) :
    ((membersOf model cls).map (·.type)).map (fileScope model options (membersOf model cls)).read? =
      cls.fields.map (some <| meaning ·.ty) := by
  rw [List.map_map, List.map_map]
  apply List.map_congr_left
  intro field hfield
  exact read?_typeText (h field hfield) fun hlist =>
    listType_needed (List.mem_map_of_mem hfield) hlist

/-- The names that a unit writes are those of its annotations and those in the types of its
members. -/
theorem mem_names_unitOf {name : String}
    (h : ∀ field ∈ cls.fields, Nameable model options field.ty) :
    name ∈ (unitOf model options package cls).names ↔
      (∃ tag ∈ marks model options, tag.name = name) ∨
      (∃ member ∈ membersOf model cls, ∃ tag ∈ member.annotations model options,
        tag.name = name) ∨
      ∃ member ∈ membersOf model cls, name ∈ (expression model member.field.ty).names := by
  have hread : ∀ member ∈ membersOf model cls,
      readType? member.type.toList = some (expression model member.field.ty) := by
    intro member hmem
    obtain ⟨field, hfield, rfl⟩ := List.mem_map.1 hmem
    exact readType?_typeText (h field hfield)
  rw [CompilationUnit.names, annotations_unitOf, List.mem_append, List.mem_map, List.mem_flatMap]
  constructor
  · rintro (⟨tag, hmem, rfl⟩ | ⟨type, htype, hname⟩)
    · rcases List.mem_append.1 hmem with hmem | hmem
      · exact .inl ⟨tag, hmem, rfl⟩
      · obtain ⟨member, hmember, hmem⟩ := List.mem_flatMap.1 hmem
        exact .inr (.inl ⟨member, hmember, tag, hmem, rfl⟩)
    · obtain ⟨member, hmember, rfl⟩ := mem_types_unitOf.1 htype
      rw [hread member hmember] at hname
      exact .inr (.inr ⟨member, hmember, hname⟩)
  · rintro (⟨tag, hmem, rfl⟩ | ⟨member, hmember, tag, hmem, rfl⟩ |
      ⟨member, hmember, hname⟩)
    · exact .inl ⟨tag, List.mem_append_left _ hmem, rfl⟩
    · exact .inl ⟨tag,
        List.mem_append_right _ (List.mem_flatMap.2 ⟨member, hmember, hmem⟩), rfl⟩
    · refine .inr ⟨member.type, mem_types_unitOf.2 ⟨member, hmember, rfl⟩, ?_⟩
      rw [hread member hmember]
      exact hname

theorem qualify_of_not_class {library : LibraryType} (h : model.hasClass library.name = false) :
    qualify model library = library.name := by
  rw [qualify, h, if_neg Bool.false_ne_true]

/-- What has to be imported is written. -/
theorem written_of_needed (h : ∀ field ∈ cls.fields, Nameable model options field.ty)
    {library : LibraryType} (hclass : model.hasClass library.name = false)
    (hneeded : library ∈ neededTypes options (membersOf model cls)) :
    library.name ∈ (unitOf model options package cls).names := by
  rw [mem_names_unitOf h]
  have hname := qualify_of_not_class hclass
  rcases mem_neededTypes.1 hneeded with rfl | ⟨rfl, member, hmem, hlist⟩ |
    ⟨rfl, member, hmem, hrenamed⟩ | ⟨rfl, member, hmem, hcase⟩
  · exact .inl ⟨_, List.mem_cons_self, hname⟩
  · refine .inr (.inr ⟨member, hmem, ?_⟩)
    cases hty : member.field.ty with
    | list element =>
        rw [← hname]
        exact List.mem_cons_self
    | _ =>
        rw [hty] at hlist
        cases hlist
  · refine .inr (.inl ⟨member, hmem, ⟨qualify model serializedNameType,
      some (literal member.field.property)⟩, ?_, hname⟩)
    rw [Member.annotations, if_pos hrenamed]
    exact List.mem_cons_self
  · refine .inr (.inl ⟨member, hmem, ⟨qualify model exposeType, none⟩, ?_, hname⟩)
    unfold Member.annotations
    split
    · rename_i hrenamed
      rw [hrenamed] at hcase
      dsimp only
      rw [if_pos (hcase.resolve_left Bool.false_ne_true.symm)]
      exact List.mem_cons_of_mem _ List.mem_cons_self
    · exact List.mem_cons_self

/-- What is written by a simple name, and is no generated class, has to be imported. -/
theorem needed_of_written (h : ∀ field ∈ cls.fields, Nameable model options field.ty)
    {library : LibraryType} (hlibrary : library ∈ importable)
    (hclass : model.hasClass library.name = false)
    (hwritten : library.name ∈ (unitOf model options package cls).names) :
    library ∈ neededTypes options (membersOf model cls) := by
  have hdotted := (wellKnown_names library (List.mem_append_left _ hlibrary)).1
  have hsame : ∀ other ∈ importable, library.name = qualify model other → library = other := by
    intro other hother hname
    exact importable_inj library hlibrary other hother
      (name_eq_of_qualify (List.mem_append_left _ hother) hdotted hname)
  have hlang : ∀ other ∈ langTypes, library.name ≠ qualify model other := by
    intro other hother hname
    exact langTypes_not_importable other hother library hlibrary
      (name_eq_of_qualify (List.mem_append_right _ hother) hdotted hname)
  rcases (mem_names_unitOf h).1 hwritten with ⟨tag, hmem, hname⟩ |
    ⟨member, hmem, tag, hannotation, hname⟩ | ⟨member, hmem, hname⟩
  · rcases List.mem_cons.1 hmem with rfl | hmem
    · exact mem_neededTypes.2 (.inl (hsame generatedType (by decide) hname.symm))
    · rw [List.mem_singleton.1 hmem] at hname
      exact absurd hname.symm (hlang _ (by decide))
  · rcases mem_annotations hannotation with ⟨heq, -, hrenamed⟩ | ⟨heq, -, hcase⟩
    · have hlibrary := hsame serializedNameType (by decide) (hname.symm.trans heq)
      exact mem_neededTypes.2 (.inr (.inr (.inl ⟨hlibrary, member, hmem, hrenamed⟩)))
    · have hlibrary := hsame exposeType (by decide) (hname.symm.trans heq)
      exact mem_neededTypes.2 (.inr (.inr (.inr ⟨hlibrary, member, hmem, hcase⟩)))
  · rcases mem_names_expression hname with ⟨other, hother, hname⟩ | ⟨hlist, hname⟩ | hnamed
    · exact absurd hname (hlang other hother)
    · rw [hsame listType (by decide) hname]
      exact listType_needed hmem hlist
    · obtain ⟨field, hfield, rfl⟩ := List.mem_map.1 hmem
      rw [(h field hfield _ hnamed).1] at hclass
      cases hclass

theorem namesResolve_unitOf (h : ∀ field ∈ cls.fields, Nameable model options field.ty) :
    NamesResolve model options cls (unitOf model options package cls) := by
  have htypes := read?_types h
  have hclasses : ∀ name, name ∉ model.classNames ↔ model.hasClass name = false := by
    intro name
    rw [Model.hasClass, ← Bool.not_eq_true, List.contains_iff_mem]
  have hneeded : ∀ library, library ∈ langTypes ∨ library = generatedType →
      (fileScope model options (membersOf model cls)).resolve (qualify model library) =
        .library library.fullName := by
    rintro library (hlang | rfl)
    · exact resolve_qualify (.inr hlang)
    · exact resolve_qualify (.inl (mem_neededTypes.2 (.inl rfl)))
  constructor
  case fields => rw [scope_unitOf, fieldTypes_unitOf, htypes]
  case getters => rw [scope_unitOf, getterTypes_unitOf, htypes]
  case setters =>
    rw [scope_unitOf, setterTypes_unitOf]
    split
    · rfl
    · exact htypes
  case builderFields =>
    rw [scope_unitOf, builderFieldTypes_unitOf]
    split
    · exact htypes
    · rfl
  case withMethods =>
    rw [scope_unitOf, withMethodTypes_unitOf]
    split
    · exact htypes
    · rfl
  case marks =>
    have hsuppress := hneeded (langType "SuppressWarnings") (.inl (by decide))
    rw [scope_unitOf, unitOf, Java.marks, List.map_cons, List.map_singleton,
      hneeded generatedType (.inr rfl), hsuppress]
    rfl
  case annotations =>
    intro field hfield tag hannotation
    rw [scope_unitOf]
    obtain ⟨member, hmem, rfl⟩ := List.mem_map.1 hfield
    rcases mem_annotations hannotation with ⟨hname, hargument, hrenamed⟩ | ⟨hname, hargument, hcase⟩
    · rw [hname, hargument, resolve_qualify (.inl (mem_neededTypes.2
        (.inr (.inr (.inl ⟨rfl, member, hmem, hrenamed⟩)))))]
      rfl
    · rw [hname, hargument, resolve_qualify (.inl (mem_neededTypes.2
        (.inr (.inr (.inr ⟨rfl, member, hmem, hcase⟩)))))]
      rfl
  case free =>
    intro imported hmem
    obtain ⟨library, hlibrary, hclass, rfl⟩ := mem_importedNames.1 hmem
    rw [simpleName_importable library (mem_importable_of_needed hlibrary), hclasses]
    exact hclass
  case imports =>
    intro imported
    have himports : imported ∈ (unitOf model options package cls).imports ↔ _ := mem_importedNames
    rw [himports]
    constructor
    · rintro ⟨library, hlibrary, hclass, rfl⟩
      exact ⟨library, mem_importable_of_needed hlibrary, rfl, written_of_needed h hclass hlibrary,
        (hclasses _).2 hclass⟩
    · rintro ⟨library, hlibrary, rfl, hwritten, hclass⟩
      have hclass := (hclasses _).1 hclass
      exact ⟨library, needed_of_written h hlibrary hclass hwritten, hclass, rfl⟩

/-! ## The files of a model -/

theorem source_of_fileOf {file : SourceFile} (h : fileOf model options package cls = .ok file) :
    file.className = cls.name ∧
      file.source = render (unitOf model options package cls).lines := by
  obtain ⟨-, -, h⟩ := bind_eq_ok h
  cases h
  exact ⟨rfl, by rw [lines_unitOf]⟩

theorem not_builderClass_of_check {result : Unit}
    (h : checkBuilderNames (fun _ => builderClass) model = .ok result) :
    model.hasClass builderClass = false := by
  rw [← Bool.not_eq_true]
  intro hclass
  unfold checkBuilderNames at h
  split at h
  · cases h
  · rename_i hfound
    exact List.find?_eq_none.1 hfound builderClass (List.contains_iff_mem.1 hclass) hclass

/-- If there are files, each is that of a class, and with builders no class has the name of one. -/
theorem files_eq_ok {files : List SourceFile}
    (h : Java.files model options package = .ok files) :
    (options.generateBuilders = true → model.hasClass builderClass = false) ∧
      ∀ file ∈ files, ∃ cls ∈ model.classes, fileOf model options package cls = .ok file := by
  unfold Java.files at h
  dsimp only at h
  split at h
  · obtain ⟨checked, hcheck, h⟩ := bind_eq_ok h
    exact ⟨fun _ => not_builderClass_of_check hcheck, fun file => exists_of_mem_mapM h⟩
  · rename_i hbuilders
    exact ⟨fun hbuilt => absurd hbuilt hbuilders, fun file => exists_of_mem_mapM h⟩

/-- In every file that is made of a document, each type of a field, getter, setter, or method or
field of the builder denotes what the type of its field means; each annotation denotes the library
type that it is to; no import hides a generated class; and imported are exactly the library types
that are written by their simple names. -/
theorem files_namesResolve {root fieldPrefix package : String} {value : Json.Value}
    {options : Options} {model : Model} {files : List SourceFile}
    (hmodel : (Generation.modelOf root value fieldPrefix Watch.never).result = .ok model)
    (hfiles : Java.files model options package = .ok files) :
    ∀ file ∈ files, ∃ cls ∈ model.classes, file.className = cls.name ∧
      file.source = render (unitOf model options package cls).lines ∧
      NamesResolve model options cls (unitOf model options package cls) := by
  have hvalue : Discovery.isRoot value = true := by
    cases hvalue : Discovery.isRoot value with
    | true => rfl
    | false =>
        rw [Generation.modelOf, Discovery.observe_turned_down hvalue] at hmodel
        cases hmodel
  rw [Resolution.modelOf_never hvalue] at hmodel
  cases hmodel
  intro file hfile
  obtain ⟨hbuilder, hmade⟩ := files_eq_ok hfiles
  obtain ⟨cls, hcls, hmade⟩ := hmade file hfile
  obtain ⟨hname, hsource⟩ := source_of_fileOf hmade
  refine ⟨cls, hcls, hname, hsource, namesResolve_unitOf fun field hfield name hreferenced => ?_⟩
  obtain ⟨hclass, property, rfl⟩ :=
    Resolution.referencedClass?_resolvedModel hvalue hcls hfield hreferenced
  refine ⟨hclass, Naming.isPlain_className property, fun hbuilders heq => ?_⟩
  rw [heq, hbuilder hbuilders] at hclass
  cases hclass

/-- A document with a class of the name of a library type that a field needs as well. -/
def shadowing : Json.Value :=
  .object [
    ("list", .object [("Name", .string "x")]),
    ("rows", .array [.array [.bool true]])]

/-- The model of it. -/
def shadowed : Model :=
  ⟨"Root",
    [⟨"Root", [⟨"list", "list", .named "List", 1, 0⟩,
        ⟨"rows", "rows", .list (.list .bool), 1, 0⟩], 1⟩,
      ⟨"List", [⟨"Name", "name", .string, 1, 0⟩], 1⟩], []⟩

def building : Options :=
  { generateBuilders := true }

theorem files_namesResolve_shadowing :
    ∃ files,
      (Generation.modelOf "Root" shadowing "" Watch.never).result = .ok shadowed ∧
      Java.files shadowed building "com.example" = .ok files ∧
      (∀ file ∈ files, ∃ cls ∈ shadowed.classes, file.className = cls.name ∧
        file.source = render (unitOf shadowed building "com.example" cls).lines ∧
        NamesResolve shadowed building cls (unitOf shadowed building "com.example" cls)) ∧
      ∃ cls ∈ shadowed.classes,
        (unitOf shadowed building "com.example" cls).fieldTypes =
          ["List", "java.util.List<java.util.List<Boolean>>"] ∧
        (unitOf shadowed building "com.example" cls).imports =
          ["com.google.gson.annotations.Expose", "javax.annotation.Generated"] := by
  have hresolved : Resolution.resolvedModel "" "Root" shadowing = shadowed := by
    decide +kernel
  have hmodel := @Resolution.modelOf_never "Root" shadowing rfl ""
  rw [hresolved] at hmodel
  have hmade : ∃ files, Java.files shadowed building "com.example" = .ok files := ⟨_, rfl⟩
  obtain ⟨files, hfiles⟩ := hmade
  exact ⟨files, hmodel, hfiles, files_namesResolve hmodel hfiles, _, List.mem_cons_self,
    by decide +kernel, by decide +kernel⟩

end Exemplar.Source.Java
