/-!
# Steps that report

A step takes a state and an input to the next state, and may report something on the way.  A run
makes the steps for a list of inputs and collects the reports in order.  Where a part of the state
is touched by some of the inputs only, the run seen through that part is a run of its own: over
those inputs, with the reports that concern the part.
-/

namespace Exemplar.Reporting

variable {State Part Input PartInput Report : Type}

/-- The state after all inputs, and what was reported on the way. -/
def run (step : State → Input → State × Option Report) (state : State) :
    List Input → State × List Report
  | [] => (state, [])
  | input :: rest =>
      let next := step state input
      let later := run step next.1 rest
      (later.1, next.2.toList ++ later.2)

@[simp]
theorem run_nil (step : State → Input → State × Option Report) (state : State) :
    run step state [] = (state, []) := rfl

theorem run_cons (step : State → Input → State × Option Report) (state : State)
    (input : Input) (rest : List Input) :
    run step state (input :: rest) =
      ((run step (step state input).1 rest).1,
        (step state input).2.toList ++ (run step (step state input).1 rest).2) := rfl

theorem run_append (step : State → Input → State × Option Report) (state : State)
    (first second : List Input) :
    run step state (first ++ second) =
      ((run step (run step state first).1 second).1,
        (run step state first).2 ++ (run step (run step state first).1 second).2) := by
  induction first generalizing state with
  | nil => rfl
  | cons input rest ih => rw [List.cons_append, run_cons, run_cons, ih, List.append_assoc]

/-- What a run reports is reported by one of its steps. -/
theorem exists_step_of_report {step : State → Input → State × Option Report} {state : State}
    {inputs : List Input} {report : Report} (h : report ∈ (run step state inputs).2) :
    ∃ reached, ∃ input ∈ inputs, (step reached input).2 = some report := by
  induction inputs generalizing state with
  | nil => exact absurd h List.not_mem_nil
  | cons input rest ih =>
      rw [run_cons] at h
      rcases List.mem_append.1 h with hfirst | hlater
      · exact ⟨state, input, List.mem_cons_self, Option.mem_toList.1 hfirst⟩
      · obtain ⟨reached, later, hmem, hreport⟩ := ih hlater
        exact ⟨reached, later, List.mem_cons_of_mem _ hmem, hreport⟩

/-! ## A second run over the same inputs -/

/-- An input that changes nothing in a state and of which nothing is reported there. -/
def IsIdle (step : State → Input → State × Option Report) (state : State) (input : Input) : Prop :=
  step state input = (state, none)

theorem run_of_isIdle {step : State → Input → State × Option Report} {state : State}
    {inputs : List Input} (h : ∀ input ∈ inputs, IsIdle step state input) :
    run step state inputs = (state, []) := by
  induction inputs with
  | nil => rfl
  | cons input rest ih =>
      have hfirst : step state input = (state, none) := h input List.mem_cons_self
      rw [run_cons, hfirst, ih fun later hlater => h later (List.mem_cons_of_mem _ hlater)]
      rfl

/-- Where an input is idle once its step was made, and stays so, all inputs are idle after a run
over them. -/
theorem isIdle_run {step : State → Input → State × Option Report}
    (hmade : ∀ state input, IsIdle step (step state input).1 input)
    (hstays : ∀ state input other, IsIdle step state input → IsIdle step (step state other).1 input)
    {inputs : List Input} {input : Input} (state : State)
    (hinput : input ∈ inputs ∨ IsIdle step state input) :
    IsIdle step (run step state inputs).1 input := by
  induction inputs generalizing state with
  | nil => exact hinput.resolve_left List.not_mem_nil
  | cons first rest ih =>
      apply ih
      rcases hinput with hmem | hidle
      · rcases List.mem_cons.1 hmem with rfl | hmem
        · exact .inr (hmade state input)
        · exact .inl hmem
      · exact .inr (hstays state input first hidle)

/-! ## A run seen through a part of the state -/

/-- How a step acts on a part of the state: as a step of the part where the input is picked for it,
not at all otherwise.  The reports that concern the part are those of its own steps. -/
structure ActsOn (step : State → Input → State × Option Report) (view : State → Part)
    (concerns : Report → Bool) (pick : Input → Option PartInput)
    (partStep : Part → PartInput → Part × Option Report) : Prop where
  picked : ∀ state input own, pick input = some own →
    view (step state input).1 = (partStep (view state) own).1 ∧
      (step state input).2.filter concerns = (partStep (view state) own).2
  other : ∀ state input, pick input = none →
    view (step state input).1 = view state ∧ (step state input).2.filter concerns = none

/-- A run seen through a part of the state is the run of the part over the inputs picked for it. -/
theorem ActsOn.run_eq {step : State → Input → State × Option Report} {view : State → Part}
    {concerns : Report → Bool} {pick : Input → Option PartInput}
    {partStep : Part → PartInput → Part × Option Report}
    (hacts : ActsOn step view concerns pick partStep) (state : State) (inputs : List Input) :
    (view (run step state inputs).1, (run step state inputs).2.filter concerns) =
      run partStep (view state) (inputs.filterMap pick) := by
  induction inputs generalizing state with
  | nil => rfl
  | cons input rest ih =>
      have hreports : ((step state input).2.toList).filter concerns =
          ((step state input).2.filter concerns).toList := by
        cases (step state input).2 with
        | none => rfl
        | some report => by_cases h : concerns report <;> simp [Option.filter, h]
      rw [run_cons, List.filter_append, hreports]
      cases hpick : pick input with
      | none =>
          obtain ⟨hview, hreport⟩ := hacts.other state input hpick
          rw [List.filterMap_cons_none hpick, hreport, ← hview, ← ih]
          rfl
      | some own =>
          obtain ⟨hview, hreport⟩ := hacts.picked state input own hpick
          rw [List.filterMap_cons_some hpick, run_cons, hreport, ← hview, ← ih]

end Exemplar.Reporting
