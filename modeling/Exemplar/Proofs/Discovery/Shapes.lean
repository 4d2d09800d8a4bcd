import Exemplar.Proofs.Discovery.Slots

/-!
# What a class sees of the shapes of its objects

A class keeps the shape of its first object and reports the first object of another shape, no
further one.  A walk seen from there is a run over the shapes of the objects of the class.  A shape
that has come once is never reported again: it is the expected one, or the report was made.
-/

namespace Exemplar.Discovery

open Json Naming Reporting

/-- What a class has seen of shapes: the expected one, and whether another was reported. -/
abbrev ShapesSeen := Option (List String) × Bool

/-- What one more object makes of the shapes that a class has seen. -/
def compareShape (name : String) (seen : ShapesSeen) (shape : List String) :
    ShapesSeen × Option Diagnostic :=
  match seen.1 with
  | none => ((some shape, seen.2), none)
  | some expected =>
      if expected = shape ∨ seen.2 then (seen, none)
      else ((some expected, true), some (.shapeMismatch name expected shape))

theorem isIdle_compareShape_iff {name : String} {seen : ShapesSeen} {shape : List String} :
    IsIdle (compareShape name) seen shape ↔
      ∃ expected, seen.1 = some expected ∧ (expected = shape ∨ seen.2 = true) := by
  obtain ⟨_ | expected, reported⟩ := seen
  · simp [IsIdle, compareShape]
  · by_cases hknown : expected = shape ∨ reported = true
    · simp [IsIdle, compareShape, hknown]
    · simp [IsIdle, compareShape, hknown]

/-- A shape that has come is not reported when it comes again. -/
theorem isIdle_of_compareShape (name : String) (seen : ShapesSeen) (shape : List String) :
    IsIdle (compareShape name) (compareShape name seen shape).1 shape := by
  apply isIdle_compareShape_iff.2
  obtain ⟨_ | expected, reported⟩ := seen
  · exact ⟨shape, rfl, .inl rfl⟩
  · by_cases hknown : expected = shape ∨ reported = true
    · exact ⟨expected, by simp [compareShape, hknown], by simp [compareShape, hknown]⟩
    · exact ⟨expected, by simp [compareShape, hknown], .inr (by simp [compareShape, hknown])⟩

/-- Nor does it come to be reported by other shapes in between. -/
theorem isIdle_compareShape_stays (name : String) (seen : ShapesSeen)
    (shape other : List String) (h : IsIdle (compareShape name) seen shape) :
    IsIdle (compareShape name) (compareShape name seen other).1 shape := by
  obtain ⟨expected, hexpected, hknown⟩ := isIdle_compareShape_iff.1 h
  apply isIdle_compareShape_iff.2
  by_cases hother : expected = other ∨ seen.2 = true
  · refine ⟨expected, ?_, ?_⟩
    · simp [compareShape, hexpected, hother]
    · simpa [compareShape, hexpected, hother] using hknown
  · refine ⟨expected, ?_, .inr ?_⟩
    · simp [compareShape, hexpected, hother]
    · simp [compareShape, hexpected, hother]

/-! ## The shapes in a walk -/

/-- What the draft of a class has seen of shapes. -/
def shapesIn (name : String) (classes : List (String × Draft)) : ShapesSeen :=
  ((draftIn name classes).shape, (draftIn name classes).mismatchReported)

/-- Whether a diagnostic reports an object of a class for its shape. -/
def isMismatchOf (name : String) : Diagnostic → Bool
  | .shapeMismatch other _ _ => other == name
  | _ => false

/-- The shape that a step shows to a class. -/
def shapeShown (fieldPrefix name : String) (step : Step) : Option (List String) :=
  (step.object?.filter (·.1 == name)).map fun object => shapeOf fieldPrefix object.2

theorem observeShape_shapes (name : String) (shape : List String) (draft : Draft) :
    (((draft.observeShape name shape).1.shape, (draft.observeShape name shape).1.mismatchReported),
        (draft.observeShape name shape).2) =
      compareShape name (draft.shape, draft.mismatchReported) shape := by
  unfold Draft.observeShape compareShape
  cases hshape : draft.shape with
  | none => rfl
  | some expected =>
      by_cases hknown : expected = shape ∨ draft.mismatchReported = true
      · simp [hknown]
      · simp [hknown]

theorem record_shapes (draft : Draft) (name field property : String) (evidence : Evidence)
    (isNull : Bool) :
    (draft.record name field property evidence isNull).1.shape = draft.shape ∧
      (draft.record name field property evidence isNull).1.mismatchReported =
        draft.mismatchReported := by
  unfold Draft.record
  split
  · exact ⟨rfl, rfl⟩
  · split <;> exact ⟨rfl, rfl⟩

theorem compareShape_isMismatchOf {name other : String} {seen : ShapesSeen} {shape : List String} :
    (compareShape name seen shape).2.filter (isMismatchOf other) =
      if name = other then (compareShape name seen shape).2 else none := by
  unfold compareShape
  split
  · exact (ite_self _).symm
  · split
    · exact (ite_self _).symm
    · simp [Option.filter, isMismatchOf]

theorem record_isMismatchOf (draft : Draft) (name field : String) (record : Occurrence)
    (other : String) :
    (draft.record name field record.property record.evidence record.value.isNull).2.filter
      (isMismatchOf other) = none := by
  apply Option.filter_eq_none_iff.2
  intro diagnostic hdiagnostic
  have habout := recordSlot_isAbout ((record_report draft name field record).symm.trans hdiagnostic)
  cases diagnostic with
  | shapeMismatch => cases habout
  | _ => exact Bool.false_ne_true

/-- A step acts on the shapes of a class as an object of the class. -/
theorem stepDrafts_actsOn_shapes (fieldPrefix name : String) :
    ActsOn (stepDrafts fieldPrefix) (shapesIn name) (isMismatchOf name)
      (shapeShown fieldPrefix name) (compareShape name) where
  picked := by
    intro classes step shape hshown
    cases step with
    | enter other => cases hshown
    | member record => cases hshown
    | object other members =>
        obtain ⟨object, hobject, rfl⟩ := Option.map_eq_some_iff.1 hshown
        obtain ⟨hobject, hname⟩ := Option.filter_eq_some_iff.1 hobject
        cases hobject
        obtain rfl : other = name := beq_iff_eq.1 hname
        have hshapes := observeShape_shapes other (shapeOf fieldPrefix members)
          (draftIn other classes)
        constructor
        · have hclass : (Step.object other members).className = other := rfl
          rw [shapesIn, draftIn_stepDrafts, if_pos hclass]
          exact congrArg Prod.fst hshapes
        · have hreport : (stepDrafts fieldPrefix classes (.object other members)).2 =
              (compareShape other (shapesIn other classes) (shapeOf fieldPrefix members)).2 :=
            congrArg Prod.snd hshapes
          rw [hreport, compareShape_isMismatchOf, if_pos rfl]
  other := by
    intro classes step hshown
    cases step with
    | enter other =>
        refine ⟨?_, rfl⟩
        rw [shapesIn, draftIn_stepDrafts]
        split <;> rfl
    | member record =>
        refine ⟨?_, record_isMismatchOf _ _ _ _ _⟩
        rw [shapesIn, draftIn_stepDrafts]
        split
        · obtain ⟨hshape, hreported⟩ := record_shapes (draftIn name classes) record.owner
            (record.field fieldPrefix) record.property record.evidence record.value.isNull
          exact Prod.ext hshape hreported
        · rfl
    | object other members =>
        have hne : other ≠ name := by
          rintro rfl
          simp [shapeShown, Step.object?] at hshown
        have hclass : (Step.object other members).className ≠ name := hne
        constructor
        · rw [shapesIn, draftIn_stepDrafts, if_neg hclass]
          rfl
        · have hshapes := observeShape_shapes other (shapeOf fieldPrefix members)
            (draftIn other classes)
          have hreport : (stepDrafts fieldPrefix classes (.object other members)).2 =
              (compareShape other (shapesIn other classes) (shapeOf fieldPrefix members)).2 :=
            congrArg Prod.snd hshapes
          rw [hreport, compareShape_isMismatchOf, if_neg hne]

/-- The same steps once more change nothing in the shapes of a class and report none of them. -/
theorem shapes_again (fieldPrefix name : String) (classes : List (String × Draft))
    (steps : List Step) :
    let once := (run (stepDrafts fieldPrefix) classes steps).1
    shapesIn name (run (stepDrafts fieldPrefix) once steps).1 = shapesIn name once ∧
      (run (stepDrafts fieldPrefix) once steps).2.filter (isMismatchOf name) = [] := by
  intro once
  have hacts := stepDrafts_actsOn_shapes fieldPrefix name
  have honce : shapesIn name once =
      (run (compareShape name) (shapesIn name classes)
        (steps.filterMap (shapeShown fieldPrefix name))).1 :=
    congrArg Prod.fst (hacts.run_eq classes steps)
  have hidle : ∀ shape ∈ steps.filterMap (shapeShown fieldPrefix name),
      IsIdle (compareShape name) (shapesIn name once) shape := by
    intro shape hshape
    rw [honce]
    exact isIdle_run (isIdle_of_compareShape name) (isIdle_compareShape_stays name) _ (.inl hshape)
  have hagain := (hacts.run_eq once steps).trans (run_of_isIdle hidle)
  exact ⟨congrArg Prod.fst hagain, congrArg Prod.snd hagain⟩

end Exemplar.Discovery
