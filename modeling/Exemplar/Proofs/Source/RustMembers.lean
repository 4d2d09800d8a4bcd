import Mathlib.Data.List.Nodup
import Exemplar.Proofs.Source.RustModules

/-!
# Names that a model declares twice

The names of modules, fields and methods all come from the stems of classes and fields.  Methods
differ from each other where the stems of the fields do, since the kind of a method stands in front
of the stem.  So a model is refused for the name of a builder, or for a stem that it has twice, and
for nothing else.  None of this depends on how stems are made.
-/

namespace Exemplar.Source

/-- A name that is declared twice is refused. -/
theorem exists_repeat_of_declare_error {owner : String} {names : List String} {failure : Failure}
    (h : declare owner names = .error failure) :
    ∃ name, 2 ≤ names.count name ∧ failure = .duplicateMember owner name := by
  unfold declare at h
  split at h
  · rename_i name hrepeat
    cases h
    obtain ⟨before, after, rfl, hseen⟩ := firstRepeat?_eq_some hrepeat
    have hbefore : name ∈ before := hseen.resolve_left List.not_mem_nil
    have hcount : 0 < before.count name := List.count_pos_iff.2 hbefore
    refine ⟨name, ?_, rfl⟩
    rw [List.count_append, List.count_cons_self]
    omega
  · cases h

namespace Rust

/-! ## Methods -/

section

variable {member other : Member}

theorem getter_ne_setter : member.getter ≠ other.setter := by
  intro h
  have hfirst := congrArg (fun name : String => name.toList.head?) h
  simp [Member.getter, Member.setter] at hfirst

theorem builder_ne_getter : "builder" ≠ member.getter := by
  intro h
  have hfirst := congrArg (fun name : String => name.toList.head?) h
  simp [Member.getter] at hfirst

theorem withMethod_ne_build : member.withMethod ≠ "build" := by
  intro h
  have hfirst := congrArg (fun name : String => name.toList.head?) h
  simp [Member.withMethod] at hfirst

/-- Methods of one kind differ where the stems do. -/
theorem prefixed_nodup {members : List Member} (h : (members.map (·.stem)).Nodup)
    (kind : String) : (members.map fun member => kind ++ member.stem).Nodup := by
  have hkinds := h.map fun _ _ => (String.append_right_inj kind).1
  rwa [List.map_map] at hkinds

theorem methodNames_nodup (options : Options) {members : List Member}
    (h : (members.map (·.stem)).Nodup) : (methodNames options members).Nodup := by
  unfold methodNames
  split
  · refine List.nodup_cons.2 ⟨fun hmem => ?_, prefixed_nodup h "get_"⟩
    obtain ⟨member, -, heq⟩ := List.mem_map.1 hmem
    exact builder_ne_getter heq.symm
  · rw [List.nodup_flatMap]
    constructor
    · intro member _
      simp [getter_ne_setter]
    · apply (List.pairwise_map.1 h).imp
      intro member other hne
      have hgetter : member.getter ≠ other.getter :=
        fun heq => hne ((String.append_right_inj "get_").1 heq)
      have hsetter : member.setter ≠ other.setter :=
        fun heq => hne ((String.append_right_inj "set_").1 heq)
      simp [Function.onFun, hgetter.symm, hsetter.symm, getter_ne_setter, getter_ne_setter.symm]

theorem builderMethods_nodup {members : List Member} (h : (members.map (·.stem)).Nodup) :
    (members.map Member.withMethod ++ ["build"]).Nodup := by
  apply (prefixed_nodup h "with_").append (List.nodup_singleton _)
  apply List.disjoint_singleton.2
  intro hbuild
  obtain ⟨member, -, heq⟩ := List.mem_map.1 hbuild
  exact withMethod_ne_build heq

end

variable {model : Model} {options : Options} {modulePath : String} {failure : Failure}

/-- Of all checks of a class, only that of the stems of its fields can fail. -/
theorem checkMembers_eq (model : Model) (options : Options) (cls : ClassDef) :
    checkMembers model options cls = declare cls.name (cls.fields.map fieldStem) := by
  have hstems : (membersOf model cls).map (·.stem) = cls.fields.map fieldStem := by
    rw [membersOf, List.map_map]
    rfl
  unfold checkMembers
  dsimp only
  rw [← hstems]
  cases hdeclared : declare cls.name ((membersOf model cls).map (·.stem)) with
  | error failure => rfl
  | ok result =>
      have hnodup := declare_eq_ok_iff.1 hdeclared
      have hmethods : declare cls.name (methodNames options (membersOf model cls)) = .ok () :=
        declare_eq_ok_iff.2 (methodNames_nodup options hnodup)
      rw [hmethods]
      change (if options.generateBuilders then _ else _) = _
      split
      · exact declare_eq_ok_iff.2 (builderMethods_nodup hnodup)
      · rfl

/-! ## What a model repeats -/

/-- With builders, a class has the name of the builder of a class. -/
def HasBuilderClash (options : Options) (model : Model) : Prop :=
  options.generateBuilders = true ∧
    ∃ name ∈ model.classNames, builderName name ∈ model.classNames

/-- The modules of the classes are different, and none is that of the module file. -/
structure ModulesDiffer (model : Model) : Prop where
  distinct : (model.classes.map fun cls => moduleStem cls.name).Nodup
  besideModuleFile : ∀ cls ∈ model.classes, moduleStem cls.name ≠ "mod"

/-- The fields of each class have different stems. -/
def FieldsDiffer (model : Model) : Prop :=
  ∀ cls ∈ model.classes, (cls.fields.map fieldStem).Nodup

/-- A stem that a model has twice, under what it is declared in. -/
inductive Repeats (model : Model) (modulePath : String) : String → String → Prop where
  /-- A class has the module of the module file. -/
  | moduleFile {cls : ClassDef} :
      cls ∈ model.classes → moduleStem cls.name = "mod" →
      Repeats model modulePath (moduleFile modulePath).text "mod"
  | module {stem : String} :
      2 ≤ (model.classes.map fun cls => moduleStem cls.name).count stem →
      Repeats model modulePath (Rust.moduleFile modulePath).text stem
  | field {cls : ClassDef} {stem : String} :
      cls ∈ model.classes → 2 ≤ (cls.fields.map fieldStem).count stem →
      Repeats model modulePath cls.name stem

theorem Repeats.not_differ {owner stem : String} (h : Repeats model modulePath owner stem) :
    ¬ (ModulesDiffer model ∧ FieldsDiffer model) := by
  rintro ⟨hmodules, hfields⟩
  cases h with
  | moduleFile hcls hstem => exact hmodules.besideModuleFile _ hcls hstem
  | module hcount =>
      have hone := List.nodup_iff_count_le_one.1 hmodules.distinct stem
      omega
  | field hcls hcount =>
      have hone := List.nodup_iff_count_le_one.1 (hfields _ hcls) stem
      omega

/-! ## The files of a model -/

/-- If there are files of classes, the fields of each have different stems. -/
theorem fields_nodup_of_classFiles {stems : List String} {classes : List ClassDef}
    {files : List SourceFile}
    (h : classFiles model options modulePath stems classes = .ok files) :
    ∀ cls ∈ classes, (cls.fields.map fieldStem).Nodup := by
  induction classes generalizing stems files with
  | nil => exact fun cls hcls => absurd hcls List.not_mem_nil
  | cons cls rest ih =>
      unfold classFiles at h
      dsimp only at h
      split at h
      · cases h
      · obtain ⟨result, hcheck, h⟩ := bind_eq_ok h
        obtain ⟨others, hothers, h⟩ := bind_eq_ok h
        rw [checkMembers_eq] at hcheck
        exact List.forall_mem_cons.2 ⟨declare_eq_ok_iff.1 hcheck, ih hothers⟩

/-- Files of classes are refused at a class whose module was declared before, or two fields of which
have one stem. -/
theorem refused_of_classFiles {stems : List String} {classes : List ClassDef}
    (h : classFiles model options modulePath stems classes = .error failure) :
    ∃ before cls after, classes = before ++ cls :: after ∧
      ((moduleStem cls.name ∈ stems ∨
            moduleStem cls.name ∈ before.map fun cls => moduleStem cls.name) ∧
          failure = .duplicateMember (moduleFile modulePath).text (moduleStem cls.name) ∨
        declare cls.name (cls.fields.map fieldStem) = .error failure) := by
  induction classes generalizing stems with
  | nil => cases h
  | cons cls rest ih =>
      unfold classFiles at h
      dsimp only at h
      split at h
      · rename_i hstem
        cases h
        exact ⟨[], cls, rest, rfl, .inl ⟨.inl (List.contains_iff_mem.1 hstem), rfl⟩⟩
      · rw [checkMembers_eq] at h
        rcases bind_eq_error h with hcheck | ⟨_, -, h⟩
        · exact ⟨[], cls, rest, rfl, .inr hcheck⟩
        · obtain ⟨before, other, after, rfl, hother⟩ := ih (eq_error_of_bind_pure h)
          refine ⟨cls :: before, other, after, rfl, hother.imp_left (And.imp_left ?_)⟩
          -- The module of the class is among those declared before the rest.
          rw [List.mem_cons, List.map_cons, List.mem_cons]
          rintro ((heq | hstem) | hbefore)
          · exact .inr (.inl heq)
          · exact .inl hstem
          · exact .inr (.inr hbefore)

/-- Without a clash of builders, what is refused is a stem that the model has twice. -/
theorem repeats_of_classFiles
    (h : classFiles model options modulePath ["mod"] model.classes = .error failure) :
    ∃ owner stem, Repeats model modulePath owner stem ∧
      failure = .duplicateMember owner stem := by
  obtain ⟨before, cls, after, hclasses, ⟨hstem, rfl⟩ | hfields⟩ := refused_of_classFiles h
  all_goals
    have hcls : cls ∈ model.classes := by
      rw [hclasses]
      exact List.mem_append_right _ List.mem_cons_self
  · refine ⟨_, _, ?_, rfl⟩
    rcases hstem with hmod | hbefore
    · have hmod := List.mem_singleton.1 hmod
      rw [hmod]
      exact .moduleFile hcls hmod
    · have hcount := List.count_pos_iff.2 hbefore
      apply Repeats.module
      rw [hclasses, List.map_append, List.map_cons, List.count_append, List.count_cons_self]
      omega
  · obtain ⟨stem, hcount, rfl⟩ := exists_repeat_of_declare_error hfields
    exact ⟨_, _, .field hcls hcount, rfl⟩

theorem differ_of_files {files : List SourceFile}
    (h : Rust.files model options modulePath = .ok files) :
    ¬ HasBuilderClash options model ∧ ModulesDiffer model ∧ FieldsDiffer model := by
  obtain ⟨classes, hclasses, -, hbuilders⟩ := classFiles_of_files h
  obtain ⟨-, hstems, -⟩ := classFiles_eq_ok hclasses
  refine ⟨?_, ⟨hstems, moduleStem_ne_mod h⟩, fields_nodup_of_classFiles hclasses⟩
  rintro ⟨hbuilt, name, hname, hother⟩
  exact hbuilders hbuilt name hname _ hother rfl

theorem builderNameClash_of_check
    (h : checkBuilderNames builderName model = .error failure) :
    ∃ name ∈ model.classNames, builderName name ∈ model.classNames ∧
      failure = .builderNameClash (builderName name) := by
  unfold checkBuilderNames at h
  split at h
  · rename_i name hfound
    cases h
    have hclass := List.find?_some hfound
    exact ⟨name, List.mem_of_find?_eq_some hfound, List.contains_iff_mem.1 hclass, rfl⟩
  · cases h

/-- A model is refused for the name of a builder, or else for a stem that it has twice. -/
theorem refused_of_files (h : Rust.files model options modulePath = .error failure) :
    (options.generateBuilders = true ∧ ∃ name ∈ model.classNames,
        builderName name ∈ model.classNames ∧ failure = .builderNameClash (builderName name)) ∨
      ¬ HasBuilderClash options model ∧ ∃ owner stem, Repeats model modulePath owner stem ∧
        failure = .duplicateMember owner stem := by
  unfold Rust.files at h
  dsimp only at h
  split at h
  · rename_i hbuilt
    rcases bind_eq_error h with hcheck | ⟨_, hcheck, h⟩
    · exact .inl ⟨hbuilt, builderNameClash_of_check hcheck⟩
    · refine .inr ⟨?_, repeats_of_classFiles (eq_error_of_bind_pure h)⟩
      rintro ⟨-, name, hname, hother⟩
      exact builderName_ne_of_check hcheck name hname _ hother rfl
  · rename_i hbuilt
    exact .inr ⟨fun hclash => hbuilt hclash.1,
      repeats_of_classFiles (eq_error_of_bind_pure h)⟩

/-- Of any model, one of a document or not, there are files exactly if builders are not made or no
class has the name of one, the modules of the classes are different and none is that of the module
file, and the fields of each class have different stems.  If a class has the name of a builder, that
is what is refused; otherwise it is a stem that the model has twice. -/
theorem files_made_iff (model : Model) (options : Options) (modulePath : String) :
    ((∃ files, Rust.files model options modulePath = .ok files) ↔
      ¬ HasBuilderClash options model ∧ ModulesDiffer model ∧ FieldsDiffer model) ∧
    (HasBuilderClash options model →
      ∃ name ∈ model.classNames, builderName name ∈ model.classNames ∧
        Rust.files model options modulePath = .error (.builderNameClash (builderName name))) ∧
    (¬ HasBuilderClash options model → ¬ (ModulesDiffer model ∧ FieldsDiffer model) →
      ∃ owner stem, Repeats model modulePath owner stem ∧
        Rust.files model options modulePath = .error (.duplicateMember owner stem)) := by
  cases hfiles : Rust.files model options modulePath with
  | ok files =>
      obtain ⟨hclash, hdiffer⟩ := differ_of_files hfiles
      exact ⟨⟨fun _ => ⟨hclash, hdiffer⟩, fun _ => ⟨files, rfl⟩⟩, fun h => absurd h hclash,
        fun _ h => absurd hdiffer h⟩
  | error failure =>
      rcases refused_of_files hfiles with ⟨hbuilt, name, hname, hother, rfl⟩ |
        ⟨hclash, owner, stem, hrepeats, rfl⟩
      · have hclash : HasBuilderClash options model := ⟨hbuilt, name, hname, hother⟩
        exact ⟨by simp [hclash], fun _ => ⟨name, hname, hother, rfl⟩, fun h => absurd hclash h⟩
      · exact ⟨by simp [hrepeats.not_differ], fun h => absurd h hclash,
          fun _ _ => ⟨owner, stem, hrepeats, rfl⟩⟩

end Rust

end Exemplar.Source
