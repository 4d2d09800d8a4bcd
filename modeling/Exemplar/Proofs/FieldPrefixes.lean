import Exemplar.Proofs.References
import Exemplar.Proofs.Stages
import Exemplar.Source.Rust

/-!
# Field prefixes

During the walk a field is kept under its identifier, which begins with the field prefix, so that the
prefix takes part in the order of the fields and in which keys collide.  All prefixes but the empty
one have the same say, since the rest of an identifier is made from the key alone.  The models of a
document under two prefixes differ in the identifiers of their fields only, and Rust sources, which
name fields after their properties, do not differ at all.
-/

namespace Exemplar

open Discovery Json Naming Resolution

/-- The field with its identifier under another prefix. -/
def Field.under (fieldPrefix : String) (field : Field) : Field :=
  { field with name := fieldName fieldPrefix field.property }

/-- The class with the identifiers of its fields under another prefix. -/
def ClassDef.under (fieldPrefix : String) (cls : ClassDef) : ClassDef :=
  { cls with fields := cls.fields.map (Field.under fieldPrefix) }

namespace Naming

theorem fieldName_eq_append {fieldPrefix : String} (h : fieldPrefix ≠ "") (property : String) :
    fieldName fieldPrefix property = fieldPrefix ++ className property := by
  have hempty : ¬ fieldPrefix.isEmpty = true := mt String.isEmpty_iff.1 h
  rw [fieldName, if_neg hempty, className]

theorem append_lt_append_iff {text first second : String} :
    text ++ first < text ++ second ↔ first < second := by
  simp only [String.lt_iff, String.toList_append]
  induction text.toList with
  | nil => rfl
  | cons c rest ih => rw [List.cons_append, List.cons_append, List.cons_lt_cons_self, ih]

variable {first second : String} (hfirst : first ≠ "") (hsecond : second ≠ "")

include hfirst hsecond

/-- Prefixes do not decide which keys have one identifier. -/
theorem fieldName_eq_iff (property other : String) :
    fieldName first property = fieldName first other ↔
      fieldName second property = fieldName second other := by
  simp only [fieldName_eq_append hfirst, fieldName_eq_append hsecond, String.append_right_inj]

/-- Prefixes do not decide how identifiers are ordered. -/
theorem fieldName_lt_iff (property other : String) :
    fieldName first property < fieldName first other ↔
      fieldName second property < fieldName second other := by
  simp only [fieldName_eq_append hfirst, fieldName_eq_append hsecond, append_lt_append_iff]

end Naming

namespace Resolution

/-! ## Models under two prefixes -/

variable {first second root : String} {value : Value}

theorem knows_under (hvalue : isRoot value = true) (first second root : String) :
    (discovered second root value).knows = (discovered first root value).knows := by
  funext name
  apply Bool.eq_iff_iff.2
  rw [knows_discovered hvalue, knows_discovered hvalue]

theorem classNames_under (hvalue : isRoot value = true) (first second root : String) :
    (resolvedModel second root value).classNames = (resolvedModel first root value).classNames := by
  rw [classNames_resolvedModel, classNames_resolvedModel, discovered_keys hvalue,
    discovered_keys hvalue]

/-- The records of a field are those of keys with its identifier, whatever the prefix. -/
theorem fieldRecords_under (hfirst : first ≠ "") (hsecond : second ≠ "")
    (root : String) (value : Value) (name property : String) :
    fieldRecords second root value name (fieldName second property) =
      fieldRecords first root value name (fieldName first property) := by
  apply List.filter_congr
  intro record _
  apply Bool.eq_iff_iff.2
  rw [isRecordOf_iff, isRecordOf_iff, Occurrence.field, Occurrence.field,
    fieldName_eq_iff hsecond hfirst]

/-- A field of a class has a counterpart in the class under another prefix. -/
theorem under_mem_fields (hfirst : first ≠ "") (hsecond : second ≠ "")
    (hvalue : isRoot value = true) {cls twin : ClassDef}
    (hcls : cls ∈ (resolvedModel first root value).classes)
    (htwin : twin ∈ (resolvedModel second root value).classes) (hname : twin.name = cls.name)
    {field : Field} (hfield : field ∈ cls.fields) : field.under second ∈ twin.fields := by
  obtain ⟨record, rest, hrecords, hslot⟩ := exists_slotAfter hcls hfield
  have hidentifier : field.name = fieldName first field.property := name_eq_fieldName hcls hfield
  obtain ⟨⟨name, draft⟩, hdraft, rfl⟩ := List.mem_map.1 htwin
  have hnames : name = cls.name := hname
  have htwins : fieldRecords second root value name (fieldName second field.property) =
      record :: rest := by
    rw [fieldRecords_under hfirst hsecond, ← hidentifier, hnames, hrecords]
  have hmem : (fieldName second field.property, slotAfter (firstSlot record) rest) ∈ draft.slots :=
    (mem_slots_iff hdraft).2 ⟨record, rest, htwins, rfl⟩
  have hunder : field.under second =
      resolveField (discovered second root value).knows
        (fieldName second field.property, slotAfter (firstSlot record) rest) := by
    rw [knows_under hvalue first second, Field.under, hslot]
    rfl
  rw [hunder]
  exact List.mem_map_of_mem hmem

/-- The fields of a class under another prefix are the same but for their identifiers. -/
theorem fields_under (hfirst : first ≠ "") (hsecond : second ≠ "") (hvalue : isRoot value = true)
    {cls twin : ClassDef} (hcls : cls ∈ (resolvedModel first root value).classes)
    (htwin : twin ∈ (resolvedModel second root value).classes) (hname : twin.name = cls.name) :
    twin.fields = cls.fields.map (Field.under second) := by
  have hidentifier : ∀ field ∈ cls.fields, field.name = fieldName first field.property :=
    fun _ hfield => name_eq_fieldName hcls hfield
  have hsorted : twin.fields.Pairwise (·.name < ·.name) := List.pairwise_map.1 (fields_sorted htwin)
  have hsortedUnder : (cls.fields.map (Field.under second)).Pairwise (·.name < ·.name) := by
    apply List.pairwise_map.2
    apply (List.pairwise_map.1 (fields_sorted hcls)).imp_of_mem
    intro field other hfield hother hlt
    rw [hidentifier field hfield, hidentifier other hother] at hlt
    exact (fieldName_lt_iff hfirst hsecond _ _).1 hlt
  have hirrefl : ∀ field other : Field, field.name < other.name → field ≠ other := by
    rintro field _ hlt rfl
    exact String.lt_irrefl _ hlt
  have hmem : ∀ field, field ∈ twin.fields ↔ field ∈ cls.fields.map (Field.under second) := by
    intro field
    constructor
    · intro hfield
      have hback : field.under first ∈ cls.fields :=
        under_mem_fields hsecond hfirst hvalue htwin hcls hname.symm hfield
      have hsame : (field.under first).under second = field := by
        rw [Field.under, Field.under, ← name_eq_fieldName htwin hfield]
      rw [← hsame]
      exact List.mem_map_of_mem hback
    · intro hfield
      obtain ⟨own, hown, rfl⟩ := List.mem_map.1 hfield
      exact under_mem_fields hfirst hsecond hvalue hcls htwin hname hown
  -- The order decides between lists with the same members, and both are sorted by identifiers.
  have hperm : twin.fields.Perm (cls.fields.map (Field.under second)) :=
    (List.perm_ext_iff_of_nodup (hsorted.imp (hirrefl _ _))
      (hsortedUnder.imp (hirrefl _ _))).2 hmem
  exact hperm.eq_of_pairwise (fun _ _ _ _ hlt hgt => absurd hgt (String.lt_asymm hlt)) hsorted
    hsortedUnder

/-- A class under another prefix is the class of the same name. -/
theorem class_under (hfirst : first ≠ "") (hsecond : second ≠ "") (hvalue : isRoot value = true)
    {cls twin : ClassDef} (hcls : cls ∈ (resolvedModel first root value).classes)
    (htwin : twin ∈ (resolvedModel second root value).classes) (hname : twin.name = cls.name) :
    twin = cls.under second := by
  have hseen : twin.seenObjects = cls.seenObjects := by
    obtain ⟨⟨_, draft⟩, hdraft, rfl⟩ := List.mem_map.1 hcls
    obtain ⟨⟨_, draftTwin⟩, hdraftTwin, rfl⟩ := List.mem_map.1 htwin
    cases hname
    exact (seenObjects_discovered hdraftTwin).trans (seenObjects_discovered hdraft).symm
  have hfields := fields_under hfirst hsecond hvalue hcls htwin hname
  cases twin
  cases hname
  cases hseen
  cases hfields
  rfl

/-- The classes of a document under two prefixes are the same, in the same order, but for the
identifiers of their fields. -/
theorem classes_under (hfirst : first ≠ "") (hsecond : second ≠ "") (hvalue : isRoot value = true)
    (root : String) :
    (resolvedModel second root value).classes =
      (resolvedModel first root value).classes.map (ClassDef.under second) :=
  Roster.eq_map_of_map_eq (classNames_under hvalue first second root) fun _ hcls _ htwin hname =>
    class_under hfirst hsecond hvalue hcls htwin hname

end Resolution

/-! ## Rust sources of both models -/

namespace Source.Rust

variable {fieldPrefix : String} {model twin : Model} {options : Options}
  (h : twin.classes = model.classes.map (ClassDef.under fieldPrefix))

include h

theorem classNames_under : twin.classNames = model.classNames := by
  rw [Model.classNames, h, List.map_map]
  rfl

theorem inlineClasses_under (className : String) :
    inlineClasses twin className = inlineClasses model className := by
  have hclass : twin.class? className =
      (model.class? className).map (ClassDef.under fieldPrefix) := by
    rw [Model.class?, h, List.find?_map]
    rfl
  rw [inlineClasses, inlineClasses, hclass]
  cases model.class? className with
  | none => rfl
  | some cls => exact List.filterMap_map

theorem searchOwner_under (owner : String) (fuel : Nat) (seen stack : List String) :
    searchOwner twin owner fuel seen stack = searchOwner model owner fuel seen stack := by
  induction fuel generalizing seen stack with
  | zero => rfl
  | succ fuel ih =>
      cases stack with
      | nil => rfl
      | cons className stack => simp only [searchOwner, inlineClasses_under h, ih]

theorem searchBound_under : searchBound twin = searchBound model := by
  rw [searchBound, h, List.foldr_map, searchBound]
  simp only [ClassDef.under, List.length_map]

theorem isBoxed_under (owner : String) (field : Field) :
    isBoxed twin owner (field.under fieldPrefix) = isBoxed model owner field := by
  have hrecursive : isRecursive twin owner = isRecursive model owner := by
    funext className
    rw [isRecursive, isRecursive, searchBound_under h, searchOwner_under h]
  rw [isBoxed, isBoxed, hrecursive]
  rfl

/-- The members of a class are named after properties. -/
theorem membersOf_under (cls : ClassDef) :
    membersOf twin (cls.under fieldPrefix) = membersOf model cls := by
  have hmember : ∀ field : Field,
      Member.ofField twin cls.name (field.under fieldPrefix) =
        Member.ofField model cls.name field := by
    intro field
    rw [Member.ofField, Member.ofField, isBoxed_under h]
    rfl
  rw [membersOf, ClassDef.under, List.map_map]
  exact List.map_congr_left fun field _ => hmember field

theorem classLines_under (cls : ClassDef) :
    classLines twin { options with fieldPrefix } (cls.under fieldPrefix) =
      classLines model options cls := by
  have himports : importLines (cls.under fieldPrefix) = importLines cls := by
    rw [importLines, importLines, importedNames, ClassDef.under, List.filterMap_map]
    rfl
  rw [classLines, classLines, membersOf_under h, himports]
  rfl

theorem checkMembers_under (cls : ClassDef) :
    checkMembers twin { options with fieldPrefix } (cls.under fieldPrefix) =
      checkMembers model options cls := by
  rw [checkMembers, checkMembers, membersOf_under h]
  rfl

theorem classFiles_under (modulePath : String) (stems : List String) (classes : List ClassDef) :
    classFiles twin { options with fieldPrefix } modulePath stems
        (classes.map (ClassDef.under fieldPrefix)) =
      classFiles model options modulePath stems classes := by
  induction classes generalizing stems with
  | nil => rfl
  | cons cls rest ih =>
      rw [List.map_cons, classFiles, classFiles, checkMembers_under h, classLines_under h, ih]
      rfl

theorem moduleLines_under :
    moduleLines twin { options with fieldPrefix } = moduleLines model options := by
  rw [moduleLines, moduleLines, h, List.map_map, List.map_map, List.isEmpty_map]
  rfl

/-- Rust sources do not tell the identifiers of fields apart. -/
theorem files_under (options : Options) (modulePath : String) :
    Rust.files twin { options with fieldPrefix } modulePath =
      Rust.files model options modulePath := by
  have hbuilders : checkBuilderNames builderName twin = checkBuilderNames builderName model := by
    unfold checkBuilderNames Model.hasClass
    rw [classNames_under h]
  rw [Rust.files, Rust.files, hbuilders, moduleLines_under h, h, classFiles_under h]

end Source.Rust

/-! ## Runs under two prefixes -/

namespace Generation

/-- What a sink is given and what is reported of the classes depends on the classes and the files. -/
theorem deliver_classes {m : Type → Type} [Monad m] [LawfulMonad m] (root : String)
    {outcome other : Outcome (Model × List SourceFile)}
    (h : outcome.result.map (fun made => (made.1.classNames, made.2)) =
      other.result.map fun made => (made.1.classNames, made.2)) (sink : Sink m) :
    (fun report => report.result.map (·.classes)) <$> deliver root outcome sink =
      (fun report => report.result.map (·.classes)) <$> deliver root other sink := by
  rw [deliver, deliver]
  cases hresult : outcome.result with
  | error failure =>
      cases hother : other.result with
      | error otherFailure =>
          rw [hresult, hother] at h
          cases h
          simp only [map_pure]
      | ok made =>
          rw [hresult, hother] at h
          cases h
  | ok made =>
      cases hother : other.result with
      | error failure =>
          rw [hresult, hother] at h
          cases h
      | ok otherMade =>
          rw [hresult, hother] at h
          obtain ⟨hnames, hfiles⟩ := Prod.mk.inj (Except.ok.inj h)
          obtain ⟨model, files⟩ := made
          obtain ⟨otherModel, otherFiles⟩ := otherMade
          cases hfiles
          simp only [map_bind]
          apply bind_congr
          rintro (failure | _)
          · simp only [map_pure]
          · simp only [map_pure, Except.map, hnames]

variable {first second : String}

/-- Under two prefixes a document gives models with the same class names and the same files. -/
theorem sources_under (hfirst : first ≠ "") (hsecond : second ≠ "") (options : Options)
    (root : String) (value : Value) (namespaceText : String) (watch : Watch) :
    (sources { options with target := .rust, fieldPrefix := second } root value namespaceText
        watch).result.map (fun made => (made.1.classNames, made.2)) =
      (sources { options with target := .rust, fieldPrefix := first } root value namespaceText
        watch).result.map fun made => (made.1.classNames, made.2) := by
  rw [sources_result, sources_result, modelOf_result, modelOf_result]
  cases checkRootName root with
  | error failure => rfl
  | ok _ =>
      cases hvalue : isRoot value with
      | false => rfl
      | true =>
          have hnames := classNames_under hvalue first second root
          have hcount : (discovered second root value).classes.length =
              (discovered first root value).classes.length := by
            rw [classNames_resolvedModel, classNames_resolvedModel] at hnames
            simpa using congrArg List.length hnames
          have hfiles :
              (resolvedModel second root value).emit
                  { options with target := .rust, fieldPrefix := second } namespaceText =
                (resolvedModel first root value).emit
                  { options with target := .rust, fieldPrefix := first } namespaceText :=
            Source.Rust.files_under (classes_under hfirst hsecond hvalue root)
              { options with target := .rust, fieldPrefix := first } namespaceText
          rw [if_pos rfl, if_pos rfl, hcount]
          split
          · rfl
          · simp only [bind, Except.bind, hfiles]
            split
            · rfl
            · exact congrArg (fun names => Except.ok (names, _)) hnames

/-- Two prefixes, neither of them empty, give the same Rust files of every document and every text,
or the same failure; and whatever becomes of the files in a sink, becomes of both. -/
theorem rust_sources_of_prefixes (hfirst : first ≠ "") (hsecond : second ≠ "")
    (options : Options) (root namespaceText : String) (watch : Watch) :
    (∀ value,
      (sources { options with target := .rust, fieldPrefix := first } root value namespaceText
          watch).result.map (·.2) =
        (sources { options with target := .rust, fieldPrefix := second } root value namespaceText
          watch).result.map (·.2)) ∧
    ∀ text,
      (sourcesOfText { options with target := .rust, fieldPrefix := first } root text namespaceText
          watch).result.map (·.2) =
        (sourcesOfText { options with target := .rust, fieldPrefix := second } root text
          namespaceText watch).result.map (·.2) ∧
      ∀ {m : Type → Type} [Monad m] [LawfulMonad m] (sink : Sink m),
        (fun outcome => outcome.result.map (·.classes)) <$>
            runText { options with target := .rust, fieldPrefix := first } root text namespaceText
              watch sink =
          (fun outcome => outcome.result.map (·.classes)) <$>
            runText { options with target := .rust, fieldPrefix := second } root text
              namespaceText watch sink := by
  have hsources := sources_under hsecond hfirst options root
  have htexts : ∀ text,
      (sourcesOfText { options with target := .rust, fieldPrefix := first } root text namespaceText
          watch).result.map (fun made => (made.1.classNames, made.2)) =
        (sourcesOfText { options with target := .rust, fieldPrefix := second } root text
          namespaceText watch).result.map fun made => (made.1.classNames, made.2) := by
    intro text
    rw [sourcesOfText_result, sourcesOfText_result]
    cases checkRootName root with
    | error failure => rfl
    | ok _ =>
        cases readDocument text with
        | error failure => rfl
        | ok value => exact hsources value namespaceText watch
  have hforget : ∀ made : Except Failure (Model × List SourceFile),
      (made.map fun made => (made.1.classNames, made.2)).map Prod.snd = made.map (·.2) := by
    intro made
    cases made <;> rfl
  have hfiles : ∀ {made other : Except Failure (Model × List SourceFile)},
      made.map (fun made => (made.1.classNames, made.2)) =
        other.map (fun made => (made.1.classNames, made.2)) →
      made.map (·.2) = other.map (·.2) := by
    intro made other h
    rw [← hforget made, h, hforget]
  refine ⟨fun value => hfiles (hsources value namespaceText watch), fun text => ?_⟩
  exact ⟨hfiles (htexts text), fun sink => deliver_classes root (htexts text) sink⟩

/-- Keys that collide under every prefix, in an order that no prefix keeps, and a class that comes
up late. -/
def colliding : Value :=
  .object [
    ("user-name", .number (.integer 1)), ("owner", .null), ("user_name", .string "x"),
    ("a", .array [.object [("owner", .object [("type", .bool true)])]])]

theorem rust_sources_of_prefixes_colliding :
    "m" ≠ "" ∧ "_Z" ≠ "" ∧
      (sources { target := .rust, fieldPrefix := "m" } "Root" colliding "api"
          Watch.never).result.isOk = true ∧
      (sources { target := .rust, fieldPrefix := "m" } "Root" colliding "api"
          Watch.never).result.map (·.2) =
        (sources { target := .rust, fieldPrefix := "_Z" } "Root" colliding "api"
          Watch.never).result.map (·.2) := by
  have hfirst : "m" ≠ "" := by decide
  have hsecond : "_Z" ≠ "" := by decide
  exact ⟨hfirst, hsecond, by decide +kernel,
    (rust_sources_of_prefixes hfirst hsecond {} "Root" "api" Watch.never).1 colliding⟩

end Generation

end Exemplar
