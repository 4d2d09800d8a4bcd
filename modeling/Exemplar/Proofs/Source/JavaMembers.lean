import Mathlib.Data.List.Nodup
import Exemplar.Proofs.Naming.PlainNames
import Exemplar.Proofs.References
import Exemplar.Proofs.Source.JavaNames

/-!
# Names of members

The fields and methods of a generated class have names of their own, except where two properties
have one class name: then their getters clash.  No other names can clash, since identifiers end in
plain characters, getters and setters start with different letters, and `getClass_` is the getter of
no other suffix.
-/

namespace Exemplar.Source.Java

open Naming

/-! ## Names that tell members apart -/

/-- Escaping keeps identifiers apart that do not end in an underscore. -/
theorem escapeWord_inj {name other : String} (hname : name.toList.getLast? ≠ some '_')
    (hother : other.toList.getLast? ≠ some '_') (h : escapeWord name = escapeWord other) :
    name = other := by
  have hmarked : ∀ {text : String}, (text ++ "_").toList.getLast? = some '_' := by
    intro text
    simp
  unfold escapeWord at h
  split at h <;> split at h
  · exact (String.append_left_inj "_").1 h
  · exact absurd (h ▸ hmarked) hother
  · exact absurd (h ▸ hmarked) hname
  · exact h

variable {member other : Member}

theorem getter_eq (member : Member) :
    member.getter = "get" ++ (if member.suffix = "Class" then "Class_" else member.suffix) := by
  unfold Member.getter
  dsimp only
  by_cases hsuffix : member.suffix = "Class"
  · rw [hsuffix]
    rfl
  · have hgetter : "get" ++ member.suffix ≠ "getClass" :=
      fun h => hsuffix ((String.append_right_inj "get").1 h)
    rw [if_neg hgetter, if_neg hsuffix]

theorem getter_ne_setter : member.getter ≠ other.setter := by
  intro h
  have hfirst := congrArg (fun name : String => name.toList.head?) h
  rw [getter_eq, Member.setter] at hfirst
  simp at hfirst

theorem withMethod_ne_build : member.withMethod ≠ "build" := by
  intro h
  have hfirst := congrArg (fun name : String => name.toList.head?) h
  rw [Member.withMethod] at hfirst
  simp at hfirst

theorem getter_eq_of_setter_eq (h : member.setter = other.setter) :
    member.getter = other.getter := by
  have hsuffix : member.suffix = other.suffix := (String.append_right_inj "set").1 h
  rw [getter_eq, getter_eq, hsuffix]

/-- Getters tell suffixes apart that hold no underscore. -/
theorem suffix_eq_of_getter_eq (hmember : '_' ∉ member.suffix.toList)
    (hother : '_' ∉ other.suffix.toList) (h : member.getter = other.getter) :
    member.suffix = other.suffix := by
  rw [getter_eq, getter_eq, String.append_right_inj] at h
  split at h <;> split at h
  · rename_i hclass hotherClass
    rw [hclass, hotherClass]
  · rw [← h] at hother
    exact absurd (by decide) hother
  · rw [h] at hmember
    exact absurd (by decide) hmember
  · exact h

/-! ## Methods that are declared twice -/

/-- Of the names seen, the getters are those listed, and a setter stands for a getter listed. -/
structure Covers (getters seen : List String) : Prop where
  getter : ∀ member : Member, member.getter ∈ seen ↔ member.getter ∈ getters
  setter : ∀ member : Member, member.setter ∈ seen → member.getter ∈ getters

theorem Covers.nil : Covers [] [] :=
  ⟨fun _ => Iff.rfl, fun _ h => absurd h List.not_mem_nil⟩

theorem Covers.cons_getter {getters seen : List String} (h : Covers getters seen)
    (member : Member) : Covers (member.getter :: getters) (member.getter :: seen) where
  getter other := by rw [List.mem_cons, List.mem_cons, h.getter]
  setter other hother := by
    rcases List.mem_cons.1 hother with heq | hother
    · exact absurd heq.symm getter_ne_setter
    · exact List.mem_cons_of_mem _ (h.setter other hother)

theorem Covers.cons_setter {getters seen : List String} (h : Covers getters seen)
    {member : Member} (hmember : member.getter ∈ getters) :
    Covers getters (member.setter :: seen) where
  getter other := by
    rw [List.mem_cons, h.getter]
    exact or_iff_right getter_ne_setter
  setter other hother := by
    rcases List.mem_cons.1 hother with heq | hother
    · rw [getter_eq_of_setter_eq heq]
      exact hmember
    · exact h.setter other hother

/-- The first method that is declared twice is the first getter that is. -/
theorem firstRepeat?_methodNames (options : Options) {getters seen : List String}
    (h : Covers getters seen) (members : List Member) :
    firstRepeat? seen (methodNames options members) =
      firstRepeat? getters (members.map Member.getter) := by
  induction members generalizing getters seen with
  | nil => rfl
  | cons member rest ih =>
      have hcons : methodNames options (member :: rest) =
          member.getter :: ((if options.generateBuilders then [] else [member.setter]) ++
            methodNames options rest) := rfl
      rw [hcons, List.map_cons, firstRepeat?, firstRepeat?]
      by_cases hgetter : member.getter ∈ getters
      · have hseen := (h.getter member).2 hgetter
        rw [if_pos (List.contains_iff_mem.2 hseen), if_pos (List.contains_iff_mem.2 hgetter)]
      · have hseen : ¬ member.getter ∈ seen := fun hmem => hgetter ((h.getter member).1 hmem)
        have hnext := h.cons_getter member
        rw [if_neg (mt List.contains_iff_mem.1 hseen), if_neg (mt List.contains_iff_mem.1 hgetter)]
        split
        · exact ih hnext
        · have hsetter : ¬ member.setter ∈ member.getter :: seen := by
            rintro hmem
            rcases List.mem_cons.1 hmem with heq | hmem
            · exact getter_ne_setter heq.symm
            · exact hgetter (h.setter member hmem)
          rw [List.singleton_append, firstRepeat?, if_neg (mt List.contains_iff_mem.1 hsetter)]
          exact ih (hnext.cons_setter List.mem_cons_self)

theorem declare_methodNames (options : Options) (owner : String) (members : List Member) :
    declare owner (methodNames options members) = declare owner (members.map Member.getter) := by
  rw [declare, declare, firstRepeat?_methodNames options .nil]

/-! ## The check of a class -/

/-- Two fields of a class share their accessors: their properties have one class name. -/
structure Shares (cls : ClassDef) (field other : Field) : Prop where
  field_mem : field ∈ cls.fields
  other_mem : other ∈ cls.fields
  ne : field ≠ other
  className_eq : className field.property = className other.property

variable {model : Model} {options : Options} {cls : ClassDef} {fieldPrefix : String}

theorem underscore_notMem_suffix (model : Model) (field : Field) :
    '_' ∉ (Member.ofField model field).suffix.toList := by
  intro hmem
  have hunderscore : ¬ Unicode.IsPlain '_' := by decide
  exact hunderscore (isPlain_className field.property '_' hmem)

theorem getter_ofField_eq_iff {field other : Field} :
    (Member.ofField model field).getter = (Member.ofField model other).getter ↔
      className field.property = className other.property := by
  constructor
  · exact suffix_eq_of_getter_eq (underscore_notMem_suffix model field)
      (underscore_notMem_suffix model other)
  · intro h
    have hsuffix : (Member.ofField model field).suffix = (Member.ofField model other).suffix := h
    rw [getter_eq, getter_eq, hsuffix]

theorem getters_membersOf (model : Model) (cls : ClassDef) :
    (membersOf model cls).map Member.getter =
      cls.fields.map fun field => (Member.ofField model field).getter := by
  simp only [membersOf, List.map_map, Function.comp_def]

theorem identifiers_nodup (h : cls.WellFormed fieldPrefix) :
    ((membersOf model cls).map (·.identifier)).Nodup := by
  have hidentifiers : (membersOf model cls).map (·.identifier) =
      (cls.fields.map (·.name)).map escapeWord := by
    rw [membersOf, List.map_map, List.map_map]
    rfl
  have hlast : ∀ name ∈ cls.fields.map (·.name), name.toList.getLast? ≠ some '_' := by
    intro name hname
    obtain ⟨field, hfield, rfl⟩ := List.mem_map.1 hname
    rw [h.identifier field hfield]
    exact getLast?_fieldName fieldPrefix field.property
  rw [hidentifiers]
  exact h.distinctNames.map_on fun name hname other hother =>
    escapeWord_inj (hlast name hname) (hlast other hother)

/-- Where the getters differ, the methods of the builder do. -/
theorem builderMethods_nodup {members : List Member}
    (h : (members.map Member.getter).Nodup) :
    (members.map Member.withMethod ++ ["build"]).Nodup := by
  have hmethods : (members.map Member.withMethod).Nodup := by
    apply List.pairwise_map.2
    apply (List.pairwise_map.1 h).imp
    intro member other hne heq
    have hsuffix : member.suffix = other.suffix := (String.append_right_inj "with").1 heq
    apply hne
    rw [getter_eq, getter_eq, hsuffix]
  apply hmethods.append (List.nodup_singleton _)
  apply List.disjoint_singleton.2
  intro hbuild
  obtain ⟨member, -, heq⟩ := List.mem_map.1 hbuild
  exact withMethod_ne_build heq

/-- Of all checks of a class, only that of its getters can fail. -/
theorem checkMembers_eq (h : cls.WellFormed fieldPrefix) :
    checkMembers model options cls =
      declare cls.name ((membersOf model cls).map Member.getter) := by
  have hidentifiers : declare cls.name ((membersOf model cls).map (·.identifier)) = .ok () :=
    declare_eq_ok_iff.2 (identifiers_nodup h)
  unfold checkMembers
  dsimp only
  rw [hidentifiers, declare_methodNames]
  cases hgetters : declare cls.name ((membersOf model cls).map Member.getter) with
  | error failure => rfl
  | ok result =>
      have hbuilder := builderMethods_nodup (declare_eq_ok_iff.1 hgetters)
      change (if options.generateBuilders then _ else _) = _
      split
      · exact declare_eq_ok_iff.2 hbuilder
      · rfl

/-- A class fails the check by a getter that two of its fields share. -/
theorem exists_shares_of_error (h : cls.WellFormed fieldPrefix) {failure : Failure}
    (herror : checkMembers model options cls = .error failure) :
    ∃ field other, Shares cls field other ∧
      failure = .duplicateMember cls.name (Member.ofField model field).getter := by
  rw [checkMembers_eq h, declare] at herror
  split at herror
  · rename_i name hname
    cases herror
    obtain ⟨before, after, hsplit, hrepeated⟩ := firstRepeat?_eq_some hname
    rw [getters_membersOf] at hsplit
    obtain ⟨early, late, hfields, hbefore, hlate⟩ := List.map_eq_append_iff.1 hsplit
    obtain ⟨field, tail, rfl, hgetter, -⟩ := List.map_eq_cons_iff.1 hlate
    obtain ⟨other, hother, hsame⟩ : ∃ other ∈ early, (Member.ofField model other).getter = name := by
      rcases hrepeated with hnone | hearly
      · exact absurd hnone List.not_mem_nil
      · rw [← hbefore] at hearly
        exact List.mem_map.1 hearly
    have hnodup : cls.fields.Nodup := List.Nodup.of_map _ h.distinctNames
    have hsuffix : className field.property = className other.property :=
      getter_ofField_eq_iff.1 (hgetter.trans hsame.symm)
    refine ⟨field, other, ⟨?_, ?_, ?_, hsuffix⟩, by rw [hgetter]⟩
    · rw [hfields]
      exact List.mem_append_right _ List.mem_cons_self
    · rw [hfields]
      exact List.mem_append_left _ hother
    · rintro rfl
      rw [hfields] at hnodup
      exact List.disjoint_of_nodup_append hnodup hother List.mem_cons_self
  · cases herror

theorem checkMembers_eq_ok_iff (h : cls.WellFormed fieldPrefix) :
    checkMembers model options cls = .ok () ↔ ∀ field other, ¬ Shares cls field other := by
  constructor
  · intro hok field other hshares
    rw [checkMembers_eq h, declare_eq_ok_iff, getters_membersOf] at hok
    exact hshares.ne (List.inj_on_of_nodup_map hok hshares.field_mem hshares.other_mem
      (getter_ofField_eq_iff.2 hshares.className_eq))
  · intro hnone
    cases hcheck : checkMembers model options cls with
    | ok result => rfl
    | error failure =>
        obtain ⟨field, other, hshares, -⟩ := exists_shares_of_error h hcheck
        exact absurd hshares (hnone field other)

/-- Under a prefix, fields of different names have different accessors. -/
theorem not_shares_of_prefix (h : cls.WellFormed fieldPrefix) (hgiven : fieldPrefix ≠ "")
    (field other : Field) : ¬ Shares cls field other := by
  intro hshares
  have hname : ∀ property,
      fieldName fieldPrefix property = fieldPrefix ++ className property := by
    intro property
    have hempty : ¬ fieldPrefix.isEmpty = true := by simpa using hgiven
    rw [fieldName, if_neg hempty]
    rfl
  apply hshares.ne
  apply List.inj_on_of_nodup_map h.distinctNames hshares.field_mem hshares.other_mem
  rw [h.identifier field hshares.field_mem, h.identifier other hshares.other_mem, hname, hname,
    hshares.className_eq]

/-! ## The files of a model -/

/-- With builders, a class takes the name of the nested builder. -/
def TakesBuilderName (options : Options) (model : Model) : Prop :=
  options.generateBuilders = true ∧ model.hasClass builderClass = true

/-- In some class two fields share their accessors. -/
def HasShared (model : Model) : Prop :=
  ∃ cls ∈ model.classes, ∃ field other, Shares cls field other

variable {package : String}

theorem files_of_takesBuilderName (h : TakesBuilderName options model) :
    Java.files model options package = .error (.builderNameClash builderClass) := by
  unfold Java.files
  dsimp only
  rw [if_pos h.1, checkBuilderNames_const, h.2]
  rfl

theorem files_of_not_takesBuilderName (h : ¬ TakesBuilderName options model) :
    Java.files model options package = model.classes.mapM (fileOf model options package) := by
  unfold Java.files
  dsimp only
  split
  · rename_i hbuilders
    have hclass : ¬ model.hasClass builderClass = true := fun hclass => h ⟨hbuilders, hclass⟩
    rw [checkBuilderNames_const, if_neg hclass]
    rfl
  · rfl

theorem checkMembers_of_fileOf_error {failure : Failure}
    (h : fileOf model options package cls = .error failure) :
    checkMembers model options cls = .error failure := by
  unfold fileOf at h
  cases hcheck : checkMembers model options cls with
  | error own =>
      rw [hcheck] at h
      cases h
      rfl
  | ok result =>
      rw [hcheck] at h
      cases h

/-- Without a class of the name of the builder, there are files exactly if no two fields of a class
share their accessors; otherwise the getter of such a field is reported. -/
theorem mapM_fileOf (h : ∀ cls ∈ model.classes, cls.WellFormed fieldPrefix) :
    (∃ files, model.classes.mapM (fileOf model options package) = .ok files) ∧
        ¬ HasShared model ∨
      ∃ cls ∈ model.classes, ∃ field other, Shares cls field other ∧
        model.classes.mapM (fileOf model options package) =
          .error (.duplicateMember cls.name (Member.ofField model field).getter) := by
  cases hfiles : model.classes.mapM (fileOf model options package) with
  | ok files =>
      left
      refine ⟨⟨files, rfl⟩, ?_⟩
      rintro ⟨cls, hcls, field, other, hshares⟩
      obtain ⟨file, -, hfile⟩ := exists_mem_of_mapM hfiles hcls
      obtain ⟨_, hcheck, -⟩ := bind_eq_ok hfile
      exact (checkMembers_eq_ok_iff (h cls hcls)).1 hcheck field other hshares
  | error failure =>
      right
      obtain ⟨cls, hcls, herror⟩ := exists_of_mapM_error hfiles
      obtain ⟨field, other, hshares, rfl⟩ :=
        exists_shares_of_error (h cls hcls) (checkMembers_of_fileOf_error herror)
      exact ⟨cls, hcls, field, other, hshares, rfl⟩

/-- The files of a document are refused for the name of the builder exactly if builders are made and
a class has the name; otherwise for a duplicate member exactly if two properties of a class have one
class name, and then for a getter of such a class; otherwise there are files.  Under a prefix no
member is a duplicate. -/
theorem files_outcome (root fieldPrefix package : String) {value : Json.Value}
    (hvalue : Discovery.isRoot value = true) (options : Options) :
    ∃ model, (Generation.modelOf root value fieldPrefix Watch.never).result = .ok model ∧
      ((∃ name, Java.files model options package = .error (.builderNameClash name)) ↔
        TakesBuilderName options model) ∧
      ((∃ owner member,
          Java.files model options package = .error (.duplicateMember owner member)) ↔
        ¬ TakesBuilderName options model ∧ HasShared model) ∧
      ((∃ files, Java.files model options package = .ok files) ↔
        ¬ TakesBuilderName options model ∧ ¬ HasShared model) ∧
      (∀ owner member,
        Java.files model options package = .error (.duplicateMember owner member) →
        ∃ cls ∈ model.classes, owner = cls.name ∧ ∃ field other, Shares cls field other ∧
          member = (Member.ofField model field).getter) ∧
      (fieldPrefix ≠ "" → ¬ HasShared model) := by
  refine ⟨_, Resolution.modelOf_never hvalue fieldPrefix, ?_⟩
  generalize hmodel : Resolution.resolvedModel fieldPrefix root value = model
  have hformed : ∀ cls ∈ model.classes, cls.WellFormed fieldPrefix := by
    intro cls hcls
    rw [← hmodel] at hcls
    exact Resolution.wellFormed_resolvedModel hcls
  have hprefixed : fieldPrefix ≠ "" → ¬ HasShared model := by
    rintro hgiven ⟨cls, hcls, field, other, hshares⟩
    exact not_shares_of_prefix (hformed cls hcls) hgiven field other hshares
  by_cases htaken : TakesBuilderName options model
  · rw [files_of_takesBuilderName htaken]
    simpa [htaken] using hprefixed
  · rw [files_of_not_takesBuilderName htaken]
    rcases @mapM_fileOf model options fieldPrefix package hformed with
      ⟨⟨files, hfiles⟩, hnone⟩ | ⟨cls, hcls, field, other, hshares, herror⟩
    · rw [hfiles]
      simp [htaken, hnone]
    · have hshared : HasShared model := ⟨cls, hcls, field, other, hshares⟩
      rw [herror]
      refine ⟨by simp [htaken], by simp [htaken, hshared], by simp [hshared], ?_, hprefixed⟩
      intro owner member heq
      cases heq
      exact ⟨cls, hcls, rfl, field, other, hshares, rfl⟩

/-- Two properties whose capitals are the same. -/
def sharpened : Json.Value :=
  .object [("ßa", .number (.integer 1)), ("SSa", .number (.integer 2))]

/-- The class of it. -/
def sharpenedClass : ClassDef :=
  ⟨"Root", [⟨"SSa", "sSa", .integer, 1, 0⟩, ⟨"ßa", "ßa", .integer, 1, 0⟩], 1⟩

theorem files_outcome_sharpened :
    Discovery.isRoot sharpened = true ∧
      ∃ model, (Generation.modelOf "Root" sharpened "" Watch.never).result = .ok model ∧
        Java.files model {} "com.example" = .error (.duplicateMember "Root" "getSSa") := by
  have hroot : Discovery.isRoot sharpened = true := rfl
  obtain ⟨model, hmodel, -, hduplicate, -, hmember, -⟩ :=
    files_outcome "Root" "" "com.example" hroot {}
  have hresolved : Resolution.resolvedModel "" "Root" sharpened = ⟨"Root", [sharpenedClass], []⟩ := by
    decide +kernel
  have hsame : Resolution.resolvedModel "" "Root" sharpened = model :=
    Except.ok.inj ((Resolution.modelOf_never hroot "").symm.trans hmodel)
  rw [hresolved] at hsame
  subst hsame
  have hshares : Shares sharpenedClass ⟨"SSa", "sSa", .integer, 1, 0⟩
      ⟨"ßa", "ßa", .integer, 1, 0⟩ :=
    ⟨by simp [sharpenedClass], by simp [sharpenedClass], by simp, by decide +kernel⟩
  obtain ⟨owner, member, herror⟩ :=
    hduplicate.2 ⟨by simp [TakesBuilderName], _, List.mem_singleton.2 rfl, _, _, hshares⟩
  obtain ⟨cls, hcls, howner, field, other, hfound, hname⟩ := hmember owner member herror
  rw [List.mem_singleton.1 hcls] at howner hfound
  have hgetter : ∀ field ∈ sharpenedClass.fields,
      (Member.ofField ⟨"Root", [sharpenedClass], []⟩ field).getter = "getSSa" := by
    decide +kernel
  rw [howner, hname, hgetter field hfound.field_mem] at herror
  exact ⟨hroot, _, hmodel, herror⟩

end Exemplar.Source.Java
