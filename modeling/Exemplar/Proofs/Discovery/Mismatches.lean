import Mathlib.Data.Finset.Dedup
import Exemplar.Proofs.Discovery.Growth
import Exemplar.Proofs.Discovery.Known
import Exemplar.Proofs.Discovery.Shapes

/-!
# Objects of another shape

The shape of an object is the set of its field identifiers.  The first object of a class whose shape
differs from that of the very first one is reported, and no other object of the class is.  The
report is made when the object is counted, before any of its members is recorded, so that it stands
ahead of all that is reported for its own keys, whatever the objects inside it add in between.
-/

namespace Exemplar.Discovery

open Json Naming Reporting

/-! ## Shapes as sets -/

/-- The field identifiers of an object, as a set. -/
def identifiersOf (fieldPrefix : String) (members : Members) : Finset String :=
  (members.map fun entry => fieldName fieldPrefix entry.1).toFinset

/-- The names of a set in the order of code points, none of them twice. -/
structure Lists (names : List String) (set : Finset String) : Prop where
  ordered : names.Pairwise (· < ·)
  listed : names.toFinset = set

theorem lists_shapeOf (fieldPrefix : String) (members : Members) :
    Lists (shapeOf fieldPrefix members) (identifiersOf fieldPrefix members) where
  ordered := Sorted.pairwise_ofList _
  listed := by
    ext name
    rw [identifiersOf, List.mem_toFinset, List.mem_toFinset, shapeOf, Sorted.mem_ofList]

/-- Shapes are told apart by the identifiers in them. -/
theorem shapeOf_eq_iff {fieldPrefix : String} {members others : Members} :
    shapeOf fieldPrefix members = shapeOf fieldPrefix others ↔
      identifiersOf fieldPrefix members = identifiersOf fieldPrefix others := by
  have hmembers := lists_shapeOf fieldPrefix members
  have hothers := lists_shapeOf fieldPrefix others
  constructor
  · intro h
    rw [← hmembers.listed, ← hothers.listed, h]
  · intro h
    apply Sorted.eq_of_mem_iff hmembers.ordered hothers.ordered
    intro name
    rw [← List.mem_toFinset, ← List.mem_toFinset, hmembers.listed, hothers.listed, h]

/-! ## Which shape is reported -/

theorem isIdle_compareShape_self (name : String) (expected : List String) :
    IsIdle (compareShape name) (some expected, false) expected :=
  isIdle_compareShape_iff.2 ⟨expected, rfl, .inl rfl⟩

/-- After the first shape, the first other one is reported and none after it. -/
theorem run_compareShape (name : String) (expected : List String) (shapes : List (List String)) :
    (run (compareShape name) (some expected, false) shapes).2 =
      ((shapes.find? (· ≠ expected)).map (.shapeMismatch name expected)).toList := by
  induction shapes with
  | nil => rfl
  | cons shape rest ih =>
      by_cases hsame : shape = expected
      · subst hsame
        have hidle : compareShape name (some shape, false) shape = ((some shape, false), none) :=
          isIdle_compareShape_self name shape
        rw [run_cons, hidle, List.find?_cons_of_neg (by simp)]
        exact ih
      · have hother : compareShape name (some expected, false) shape =
            ((some expected, true), some (.shapeMismatch name expected shape)) := by
          simp [compareShape, Ne.symm hsame]
        have hreported : run (compareShape name) (some expected, true) rest =
            ((some expected, true), []) :=
          run_of_isIdle fun _ _ => isIdle_compareShape_iff.2 ⟨expected, rfl, .inr rfl⟩
        rw [run_cons, hother, hreported, List.find?_cons_of_pos (by simpa using hsame)]
        rfl

/-- The object of a class that a step counts. -/
def Step.objectOf? (name : String) (step : Step) : Option Members :=
  (step.object?.filter (·.1 == name)).map (·.2)

theorem Step.of_objectOf? {name : String} {step : Step} {members : Members}
    (h : step.objectOf? name = some members) : step = .object name members := by
  obtain ⟨object, hobject, rfl⟩ := Option.map_eq_some_iff.1 h
  obtain ⟨hobject, hname⟩ := Option.filter_eq_some_iff.1 hobject
  cases step with
  | object other found =>
      cases hobject
      rw [← beq_iff_eq.1 hname]
  | _ => cases hobject

/-- The steps of a document count the objects of a class in the order of the document. -/
theorem objectOf?_rootSteps (root : String) (value : Value) (name : String) :
    (rootSteps root value).filterMap (Step.objectOf? name) = objectsOf root value name := by
  rw [objectsOf, ← object?_rootSteps, List.filter_filterMap, List.map_filterMap]
  rfl

theorem shapeShown_eq (fieldPrefix name : String) :
    shapeShown fieldPrefix name =
      fun step => (step.objectOf? name).map (shapeOf fieldPrefix) := by
  funext step
  rw [Step.objectOf?, Option.map_map]
  rfl

/-- The shapes that a class has seen after some steps, and the reports on them. -/
theorem shapes_run (fieldPrefix root name : String) (steps : List Step) :
    let after := run (stepDrafts fieldPrefix) [(root, {})] steps
    (shapesIn name after.1, after.2.filter (isMismatchOf name)) =
      run (compareShape name) (none, false)
        ((steps.filterMap (Step.objectOf? name)).map (shapeOf fieldPrefix)) := by
  have hfresh : shapesIn name [(root, {})] = (none, false) := by
    rw [shapesIn, draftIn_fresh]
  intro after
  rw [(stepDrafts_actsOn_shapes fieldPrefix name).run_eq, hfresh, shapeShown_eq,
    List.map_filterMap]

variable {fieldPrefix root name : String} {value : Value} {first : Members}
  {rest : List Members}

theorem mismatches_discovered (hobjects : objectsOf root value name = first :: rest) :
    (discovered fieldPrefix root value).diagnostics.filter (isMismatchOf name) =
      (((rest.map (shapeOf fieldPrefix)).find? (· ≠ shapeOf fieldPrefix first)).map
        (.shapeMismatch name (shapeOf fieldPrefix first))).toList := by
  have hrun := congrArg Prod.snd (shapes_run fieldPrefix root name (rootSteps root value))
  rw [objectOf?_rootSteps, hobjects] at hrun
  rw [discovered_diagnostics, ← run_compareShape]
  exact hrun

/-- A class has a report on shapes exactly if an object of it differs from its first one. -/
theorem exists_mismatch_iff (hobjects : objectsOf root value name = first :: rest) :
    (∃ diagnostic ∈ (discovered fieldPrefix root value).diagnostics,
        isMismatchOf name diagnostic = true) ↔
      ∃ members ∈ rest, identifiersOf fieldPrefix members ≠ identifiersOf fieldPrefix first := by
  have hreports : (∃ diagnostic ∈ (discovered fieldPrefix root value).diagnostics,
      isMismatchOf name diagnostic = true) ↔
        (discovered fieldPrefix root value).diagnostics.filter (isMismatchOf name) ≠ [] := by
    rw [Ne, List.filter_eq_nil_iff]
    push Not
    rfl
  have hshapes : ((rest.map (shapeOf fieldPrefix)).find? (· ≠ shapeOf fieldPrefix first)) ≠ none ↔
      ∃ members ∈ rest, shapeOf fieldPrefix members ≠ shapeOf fieldPrefix first := by
    rw [← Option.isSome_iff_ne_none, List.find?_isSome]
    simp
  rw [hreports, mismatches_discovered hobjects, Ne, Option.toList_eq_nil_iff,
    Option.map_eq_none_iff]
  simp only [ne_eq, ← shapeOf_eq_iff]
  exact hshapes

/-- The report on shapes is about the first object that differs. -/
theorem mismatches_of_split {same later : List Members} {other : Members}
    (hobjects : objectsOf root value name = first :: (same ++ other :: later))
    (hsame : ∀ members ∈ same, shapeOf fieldPrefix members = shapeOf fieldPrefix first)
    (hother : shapeOf fieldPrefix other ≠ shapeOf fieldPrefix first) :
    (discovered fieldPrefix root value).diagnostics.filter (isMismatchOf name) =
      [.shapeMismatch name (shapeOf fieldPrefix first) (shapeOf fieldPrefix other)] := by
  have hnone : (same.map (shapeOf fieldPrefix)).find? (· ≠ shapeOf fieldPrefix first) = none := by
    apply List.find?_eq_none.2
    intro shape hshape
    obtain ⟨members, hmembers, rfl⟩ := List.mem_map.1 hshape
    simpa using hsame members hmembers
  rw [mismatches_discovered hobjects, List.map_append, List.find?_append, hnone, List.map_cons,
    List.find?_cons_of_pos (by simpa using hother)]
  rfl

/-! ## When an object is counted -/

/-- Whether the steps for the members of an object follow wherever the object is counted. -/
def FollowedUp (steps : List Step) : Prop :=
  ∀ before name members after, steps = before ++ .object name members :: after →
    membersSteps name members <+: after

theorem followedUp_nil : FollowedUp [] := by
  intro before name members after h
  cases before <;> cases h

theorem FollowedUp.append {first second : List Step} (hfirst : FollowedUp first)
    (hsecond : FollowedUp second) : FollowedUp (first ++ second) := by
  intro before name members after h
  rcases List.append_eq_append_iff.1 h with ⟨middle, rfl, hmiddle⟩ | ⟨middle, rfl, hmiddle⟩
  · exact hsecond middle name members after hmiddle
  · cases middle with
    | nil => exact hsecond [] name members after hmiddle.symm
    | cons step middle =>
        obtain ⟨rfl, rfl⟩ := List.cons.inj hmiddle
        exact (hfirst before name members middle rfl).trans (List.prefix_append _ _)

theorem FollowedUp.cons {step : Step} {steps : List Step} (h : FollowedUp steps)
    (hstep : ∀ name members, step = .object name members → membersSteps name members <+: steps) :
    FollowedUp (step :: steps) := by
  intro before name members after hsplit
  cases before with
  | nil =>
      obtain ⟨rfl, rfl⟩ := List.cons.inj hsplit
      exact hstep name members rfl
  | cons other before =>
      obtain ⟨-, hsplit⟩ := List.cons.inj hsplit
      exact h before name members after hsplit

mutual

theorem followedUp_valueSteps (own element : String) : ∀ value : Value,
    FollowedUp (valueSteps own element value)
  | .null => followedUp_nil
  | .bool _ => followedUp_nil
  | .number _ => followedUp_nil
  | .string _ => followedUp_nil
  | .array elements => by
      rw [valueSteps]
      exact followedUp_elementsSteps element elements
  | .object members => by
      rw [valueSteps]
      refine ((followedUp_membersSteps own members).cons ?_).cons ?_
      · rintro name others ⟨⟩
        exact List.prefix_rfl
      · rintro name others ⟨⟩

theorem followedUp_membersSteps (owner : String) : ∀ members : List (String × Value),
    FollowedUp (membersSteps owner members)
  | [] => followedUp_nil
  | entry :: rest => by
      rw [membersSteps]
      exact (followedUp_memberSteps owner entry).append (followedUp_membersSteps owner rest)

theorem followedUp_memberSteps (owner : String) : ∀ entry : String × Value,
    FollowedUp (memberSteps owner entry)
  | (property, value) => by
      rw [memberSteps]
      refine (followedUp_valueSteps _ _ value).append (followedUp_nil.cons ?_)
      rintro name others ⟨⟩

theorem followedUp_elementsSteps (element : String) : ∀ elements : List Value,
    FollowedUp (elementsSteps element elements)
  | [] => followedUp_nil
  | value :: rest => by
      rw [elementsSteps]
      exact (followedUp_valueSteps element element value).append
        (followedUp_elementsSteps element rest)

end

theorem followedUp_rootSteps (root : String) (value : Value) :
    FollowedUp (rootSteps root value) := by
  rw [rootSteps]
  induction rootObjects value with
  | nil => exact followedUp_nil
  | cons members rest ih =>
      rw [List.flatMap_cons, rootObjectSteps]
      refine ((followedUp_membersSteps root members).cons ?_).append ih
      rintro name others ⟨⟩
      exact List.prefix_rfl

theorem exists_split_of_filterMap {Item Found : Type} {find : Item → Option Found}
    {items : List Item} {front back : List Found} {found : Found}
    (h : items.filterMap find = front ++ found :: back) :
    ∃ early item late, items = early ++ item :: late ∧ early.filterMap find = front ∧
      find item = some found := by
  obtain ⟨left, right, rfl, rfl, hright⟩ := List.filterMap_eq_append_iff.1 h
  obtain ⟨skipped, item, late, rfl, hskipped, hitem, -⟩ := List.filterMap_eq_cons_iff.1 hright
  have hnone : skipped.filterMap find = [] := List.filterMap_eq_nil_iff.2 hskipped
  exact ⟨left ++ skipped, item, late, by rw [List.append_assoc], by
    rw [List.filterMap_append, hnone, List.append_nil], hitem⟩

/-- An object of a class is counted by a step of its own, after the earlier objects of the class and
right before the steps for its members. -/
theorem exists_steps_of_objectsOf {earlier later : List Members} {members : Members}
    (h : objectsOf root value name = earlier ++ members :: later) :
    ∃ steps late,
      rootSteps root value =
        steps ++ .object name members :: (membersSteps name members ++ late) ∧
      steps.filterMap (Step.objectOf? name) = earlier := by
  rw [← objectOf?_rootSteps] at h
  obtain ⟨steps, step, after, hsplit, hearlier, hstep⟩ := exists_split_of_filterMap h
  obtain rfl := Step.of_objectOf? hstep
  obtain ⟨late, rfl⟩ := followedUp_rootSteps root value steps name members after hsplit
  exact ⟨steps, late, hsplit, hearlier⟩

/-! ## What is reported afterwards -/

/-- What is discovered of a document by some of its steps, once its root class has come up. -/
def discoveredBy (fieldPrefix root : String) (steps : List Step) : Discovery :=
  (openRoot root { fieldPrefix }).applyAll steps

theorem discoveredBy_append (fieldPrefix root : String) (steps more : List Step) :
    discoveredBy fieldPrefix root (steps ++ more) =
      (discoveredBy fieldPrefix root steps).applyAll more :=
  applyAll_append _ _ _

theorem diagnostics_discoveredBy_prefix (fieldPrefix root : String) (steps more : List Step) :
    (discoveredBy fieldPrefix root steps).diagnostics <+:
      (discoveredBy fieldPrefix root (steps ++ more)).diagnostics := by
  rw [discoveredBy_append]
  exact (growsTo_applyAll _ more).diagnostics

/-- That an object is reported when it is counted, after `steps`, and that what is reported as its
own members are recorded comes later among all diagnostics. -/
structure ReportedAhead (fieldPrefix root : String) (value : Value) (name : String)
    (members : Members) (report : Diagnostic) (steps : List Step) : Prop where
  walked : steps ++ .object name members :: membersSteps name members <+: rootSteps root value
  counted : observeShape name members (discoveredBy fieldPrefix root steps) =
    (.ok (), discoveredBy fieldPrefix root (steps ++ [.object name members]))
  reported : (discoveredBy fieldPrefix root (steps ++ [.object name members])).diagnostics =
    (discoveredBy fieldPrefix root steps).diagnostics ++ [report]
  /-- The record of a member is made after those before it and after the steps for its value; what
  it causes comes behind the report. -/
  ahead : ∀ done property child left, members = done ++ (property, child) :: left →
    let made := steps ++ .object name members ::
      (membersSteps name done ++ valueSteps (className property) (elementClassName property) child)
    let record := Step.member ⟨name, property, child⟩
    recordMember name property child (discoveredBy fieldPrefix root made) =
        (.ok (), discoveredBy fieldPrefix root (made ++ [record])) ∧
      ∃ between caused after,
        (discoveredBy fieldPrefix root (made ++ [record])).diagnostics =
          (discoveredBy fieldPrefix root made).diagnostics ++ caused ∧
        (discoveredBy fieldPrefix root made).diagnostics =
          (discoveredBy fieldPrefix root steps).diagnostics ++ report :: between ∧
        (discovered fieldPrefix root value).diagnostics =
          (discoveredBy fieldPrefix root steps).diagnostics ++
            report :: (between ++ caused ++ after)

theorem membersSteps_append (owner : String) (done left : List (String × Value)) :
    membersSteps owner (done ++ left) = membersSteps owner done ++ membersSteps owner left := by
  induction done with
  | nil => rfl
  | cons entry rest ih =>
      rw [List.cons_append, membersSteps, membersSteps, ih, List.append_assoc]

/-- As long as only the first shape has come, it is what the class has seen. -/
theorem shapesIn_discoveredBy {same : List Members} {steps : List Step}
    (hsteps : steps.filterMap (Step.objectOf? name) = first :: same)
    (hsame : ∀ members ∈ same, shapeOf fieldPrefix members = shapeOf fieldPrefix first) :
    shapesIn name (discoveredBy fieldPrefix root steps).classes =
      (some (shapeOf fieldPrefix first), false) := by
  have hclasses : (discoveredBy fieldPrefix root steps).classes =
      (run (stepDrafts fieldPrefix) [(root, {})] steps).1 := (applyAll_eq_run _ _).1
  have hrun := congrArg Prod.fst (shapes_run fieldPrefix root name steps)
  have hidle : run (compareShape name) (some (shapeOf fieldPrefix first), false)
      (same.map (shapeOf fieldPrefix)) = ((some (shapeOf fieldPrefix first), false), []) := by
    apply run_of_isIdle
    intro shape hshape
    obtain ⟨members, hmembers, rfl⟩ := List.mem_map.1 hshape
    rw [hsame members hmembers]
    exact isIdle_compareShape_self name _
  rw [hsteps] at hrun
  rw [hclasses]
  exact hrun.trans (congrArg Prod.fst hidle)

/-- Where the first object of another shape is counted, it is reported. -/
theorem diagnostics_counted (root : String) {same : List Members} {other : Members}
    {steps : List Step}
    (hsteps : steps.filterMap (Step.objectOf? name) = first :: same)
    (hsame : ∀ members ∈ same, shapeOf fieldPrefix members = shapeOf fieldPrefix first)
    (hother : shapeOf fieldPrefix other ≠ shapeOf fieldPrefix first) :
    (discoveredBy fieldPrefix root (steps ++ [.object name other])).diagnostics =
      (discoveredBy fieldPrefix root steps).diagnostics ++
        [.shapeMismatch name (shapeOf fieldPrefix first) (shapeOf fieldPrefix other)] := by
  have hfieldPrefix : (discoveredBy fieldPrefix root steps).fieldPrefix = fieldPrefix :=
    applyAll_fieldPrefix _ _
  have hseen : ((draftIn name (discoveredBy fieldPrefix root steps).classes).shape,
      (draftIn name (discoveredBy fieldPrefix root steps).classes).mismatchReported) =
        (some (shapeOf fieldPrefix first), false) := shapesIn_discoveredBy hsteps hsame
  have hreport := congrArg Prod.snd (observeShape_shapes name (shapeOf fieldPrefix other)
    (draftIn name (discoveredBy fieldPrefix root steps).classes))
  have hcompared : (compareShape name (some (shapeOf fieldPrefix first), false)
      (shapeOf fieldPrefix other)).2 =
        some (.shapeMismatch name (shapeOf fieldPrefix first) (shapeOf fieldPrefix other)) := by
    simp [compareShape, Ne.symm hother]
  rw [hseen, hcompared] at hreport
  have hstep : (stepDrafts fieldPrefix (discoveredBy fieldPrefix root steps).classes
      (.object name other)).2 =
        some (.shapeMismatch name (shapeOf fieldPrefix first) (shapeOf fieldPrefix other)) :=
    hreport
  rw [discoveredBy_append, applyAll_cons, applyAll_nil, apply_diagnostics, hfieldPrefix, hstep]
  rfl

theorem recordMember_discoveredBy {owner property : String} {child : Value} {made : List Step}
    (howner : (discoveredBy fieldPrefix root made).knows owner = true)
    (hvalue : ∀ step ∈ valueSteps (className property) (elementClassName property) child,
      step ∈ made) :
    recordMember owner property child (discoveredBy fieldPrefix root made) =
      (.ok (), discoveredBy fieldPrefix root (made ++ [.member ⟨owner, property, child⟩])) := by
  have hknown : ∀ step ∈ valueSteps (className property) (elementClassName property) child,
      (discoveredBy fieldPrefix root made).knows step.className = true :=
    fun step hstep => knows_applyAll.2 (.inr ⟨step, hvalue step hstep, rfl⟩)
  rw [discoveredBy_append]
  exact recordMember_run howner hknown

/-- The first object of another shape is reported ahead of all that its own keys cause. -/
theorem reportedAhead {same : List Members} {other : Members} {steps late : List Step}
    (hsplit : rootSteps root value =
      steps ++ .object name other :: (membersSteps name other ++ late))
    (hsteps : steps.filterMap (Step.objectOf? name) = first :: same)
    (hsame : ∀ members ∈ same, shapeOf fieldPrefix members = shapeOf fieldPrefix first)
    (hother : shapeOf fieldPrefix other ≠ shapeOf fieldPrefix first) :
    ReportedAhead fieldPrefix root value name other
      (.shapeMismatch name (shapeOf fieldPrefix first) (shapeOf fieldPrefix other)) steps := by
  have hfirst : first ∈ steps.filterMap (Step.objectOf? name) := by
    rw [hsteps]
    exact List.mem_cons_self
  obtain ⟨step, hstep, hobject⟩ := List.mem_filterMap.1 hfirst
  have hname : step.className = name := by
    rw [Step.of_objectOf? hobject]
    rfl
  have hknows : ∀ more, (discoveredBy fieldPrefix root (steps ++ more)).knows name = true :=
    fun more => knows_applyAll.2 (.inr ⟨step, List.mem_append_left more hstep, hname⟩)
  have hreported := diagnostics_counted root hsteps hsame hother
  constructor
  case walked =>
    refine ⟨late, ?_⟩
    rw [hsplit, List.append_assoc, List.cons_append]
  case counted =>
    have hknown : (discoveredBy fieldPrefix root steps).knows name = true := by
      simpa using hknows []
    rw [discoveredBy_append]
    exact observeShape_run hknown
  case reported => exact hreported
  case ahead =>
    intro done property child left hmembers made record
    have hmade : made = steps ++ [.object name other] ++ (membersSteps name done ++
        valueSteps (className property) (elementClassName property) child) := by
      rw [List.append_assoc, List.singleton_append]
    have hwhole : rootSteps root value =
        made ++ [record] ++ (membersSteps name left ++ late) := by
      rw [hsplit, hmembers, membersSteps_append, membersSteps, memberSteps]
      simp [made, record, hmembers]
    refine ⟨recordMember_discoveredBy (hknows _) ?_, ?_⟩
    · intro step hvalue
      rw [hmade]
      exact List.mem_append_right _ (List.mem_append_right _ hvalue)
    · obtain ⟨between, hbetween⟩ := diagnostics_discoveredBy_prefix fieldPrefix root
        (steps ++ [.object name other]) (membersSteps name done ++
          valueSteps (className property) (elementClassName property) child)
      obtain ⟨caused, hcaused⟩ := diagnostics_discoveredBy_prefix fieldPrefix root made [record]
      obtain ⟨after, hafter⟩ := diagnostics_discoveredBy_prefix fieldPrefix root
        (made ++ [record]) (membersSteps name left ++ late)
      rw [← hmade, hreported, List.append_assoc, List.singleton_append] at hbetween
      rw [← hwhole, ← hcaused, ← hbetween] at hafter
      refine ⟨between, caused, after, hcaused.symm, hbetween.symm, hafter.symm.trans ?_⟩
      simp

/-! ## The report on a class -/

/-- In a document that is accepted, every class with an object of another shape than that of its
first one has one report on shapes, and no other class has any.  It lists the identifiers of the
first object and those of the first one that differs, sorted and without repeats.  It stands in the
diagnostics ahead of all that is reported for the own keys of the latter. -/
theorem observe_reports_mismatches (root : String) {value : Value} (hvalue : isRoot value = true)
    (fieldPrefix : String) :
    ∃ discovery, observe root value { fieldPrefix } = (.ok (), discovery) ∧
      ∀ name draft, (name, draft) ∈ discovery.classes →
        ∃ first rest, objectsOf root value name = first :: rest ∧
          ((∃ diagnostic ∈ discovery.diagnostics, isMismatchOf name diagnostic = true) ↔
            ∃ members ∈ rest,
              identifiersOf fieldPrefix members ≠ identifiersOf fieldPrefix first) ∧
          ∀ same other later, rest = same ++ other :: later →
            (∀ members ∈ same,
              identifiersOf fieldPrefix members = identifiersOf fieldPrefix first) →
            identifiersOf fieldPrefix other ≠ identifiersOf fieldPrefix first →
            ∃ expected found steps,
              Lists expected (identifiersOf fieldPrefix first) ∧
              Lists found (identifiersOf fieldPrefix other) ∧
              discovery.diagnostics.filter (isMismatchOf name) =
                [.shapeMismatch name expected found] ∧
              steps.filterMap (Step.objectOf? name) = first :: same ∧
              ReportedAhead fieldPrefix root value name other
                (.shapeMismatch name expected found) steps := by
  refine ⟨_, observe_fresh hvalue fieldPrefix, ?_⟩
  intro name draft hdraft
  have hknown : (discovered fieldPrefix root value).knows name = true :=
    Roster.contains_iff_mem.2 (List.mem_map_of_mem hdraft)
  obtain ⟨object, hvisited, hname⟩ :=
    List.mem_map.1 ((knows_discovered hvalue fieldPrefix name).1 hknown)
  have hobject : object.2 ∈ objectsOf root value name := mem_objectsOf.2 (hname ▸ hvisited)
  obtain ⟨first, rest, hobjects⟩ := List.exists_cons_of_ne_nil (List.ne_nil_of_mem hobject)
  refine ⟨first, rest, hobjects, exists_mismatch_iff hobjects, ?_⟩
  rintro same other later rfl hsame hother
  have hshapes := fun members hmembers => shapeOf_eq_iff.2 (hsame members hmembers)
  have hdiffers := fun h => hother (shapeOf_eq_iff.1 h)
  have hearlier : objectsOf root value name = (first :: same) ++ other :: later := hobjects
  obtain ⟨steps, late, hsplit, hsteps⟩ := exists_steps_of_objectsOf hearlier
  exact ⟨_, _, steps, lists_shapeOf fieldPrefix first, lists_shapeOf fieldPrefix other,
    mismatches_of_split hobjects hshapes hdiffers, hsteps,
    reportedAhead hsplit hsteps hshapes hdiffers⟩

/-- An object with another object of its class inside it, both with a conflict under one key. -/
def nestedItem : Members :=
  [("item", .object [("a", .bool true)]), ("a", .string "x")]

def nestedItems : Value :=
  .object [("items", .array [.object [("a", .number (.integer 1))], .object nestedItem])]

theorem observe_reports_mismatches_nestedItems :
    isRoot nestedItems = true ∧
      ∃ discovery, observe "Root" nestedItems { fieldPrefix := "m" } = (.ok (), discovery) ∧
        discovery.diagnostics =
          [.shapeMismatch "Item" ["mA"] ["mA", "mItem"],
            .typeConflict "Item" "mA" "integer" "bool",
            .typeConflict "Item" "mA" "integer" "string"] ∧
        ∃ steps, ReportedAhead "m" "Root" nestedItems "Item" nestedItem
          (.shapeMismatch "Item" ["mA"] ["mA", "mItem"]) steps := by
  have hroot : isRoot nestedItems = true := rfl
  obtain ⟨discovery, hobserve, hclasses⟩ := observe_reports_mismatches "Root" hroot "m"
  have hdiscovery : discovered "m" "Root" nestedItems = discovery :=
    (Prod.mk.inj ((observe_fresh hroot "m").symm.trans hobserve)).2
  have hdiagnostics : (discovered "m" "Root" nestedItems).diagnostics =
      [.shapeMismatch "Item" ["mA"] ["mA", "mItem"],
        .typeConflict "Item" "mA" "integer" "bool",
        .typeConflict "Item" "mA" "integer" "string"] := by
    decide +kernel
  have hitem : "Item" ∈ (discovered "m" "Root" nestedItems).classes.map (·.1) := by
    decide +kernel
  have hname : className (singular "items") = "Item" ∧ className "item" = "Item" := by
    decide +kernel
  rw [hdiscovery] at hdiagnostics hitem
  obtain ⟨⟨_, draft⟩, hdraft, rfl⟩ := List.mem_map.1 hitem
  obtain ⟨first, rest, hobjects, -, hreported⟩ := hclasses _ draft hdraft
  have hitems : objectsOf "Root" nestedItems "Item" =
      [[("a", .number (.integer 1))], nestedItem, [("a", .bool true)]] := by
    simp [objectsOf, visited, rootObjects, nestedItems, nestedItem, objectsIn, objectsInElements,
      objectsInMembers, objectsInMember, hname]
  obtain ⟨rfl, rfl⟩ := List.cons.inj (hobjects.symm.trans hitems)
  obtain ⟨expected, found, steps, -, -, hmismatch, -, hahead⟩ :=
    hreported [] nestedItem [[("a", .bool true)]] rfl (by simp) (by decide +kernel)
  rw [hdiagnostics] at hmismatch
  obtain ⟨-, rfl, rfl⟩ := Diagnostic.shapeMismatch.inj (List.cons.inj hmismatch).1
  exact ⟨hroot, discovery, hobserve, hdiagnostics, steps, hahead⟩

end Exemplar.Discovery
