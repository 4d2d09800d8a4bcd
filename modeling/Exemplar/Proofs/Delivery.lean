import Exemplar.Proofs.References
import Exemplar.Proofs.Stages

/-!
# What a run does to its sink

A sink may fail at any call.  Seen through a record of the calls on it, with its answers, a run makes
no call unless all sources are made; then it writes them in order up to the first write that fails,
and finishes once if none does.  There is a report exactly if the sink has finished.
-/

namespace Exemplar

open Discovery Json Resolution

/-! ## Refused emissions -/

/-- A result fails with failures of one kind only. -/
def FailsWith {α : Type} (kind : Failure.Kind) (result : Except Failure α) : Prop :=
  ∀ failure, result = .error failure → failure.kind = kind

section FailsWith

variable {α β : Type} {kind : Failure.Kind}

theorem FailsWith.ok (value : α) : FailsWith kind (.ok value) :=
  fun _ h => by cases h

theorem FailsWith.bind {first : Except Failure α} {second : α → Except Failure β}
    (hfirst : FailsWith kind first) (hsecond : ∀ value, FailsWith kind (second value)) :
    FailsWith kind (first >>= second) := by
  cases first with
  | error failure =>
      intro _ h
      cases h
      exact hfirst failure rfl
  | ok value => exact hsecond value

theorem FailsWith.mapM {step : α → Except Failure β} (hstep : ∀ entry, FailsWith kind (step entry))
    (entries : List α) : FailsWith kind (entries.mapM step) := by
  intro failure h
  obtain ⟨entry, -, hentry⟩ := exists_of_mapM_error h
  exact hstep entry failure hentry

end FailsWith

namespace Source

theorem failsWith_declare (owner : String) (names : List String) :
    FailsWith .emission (declare owner names) := by
  unfold declare
  split
  · rintro _ ⟨⟩
    rfl
  · exact .ok ()

theorem failsWith_checkBuilderNames (builderName : String → String) (model : Model) :
    FailsWith .emission (checkBuilderNames builderName model) := by
  unfold checkBuilderNames
  split
  · rintro _ ⟨⟩
    rfl
  · exact .ok ()

/-- The names of a class and those of its builder. -/
theorem failsWith_declarations (owner builder : String) (fields methods withMethods : List String)
    (hasBuilder : Bool) :
    FailsWith .emission (do
      declare owner fields
      declare owner methods
      if hasBuilder then
        declare builder withMethods) := by
  refine (failsWith_declare _ _).bind fun _ => (failsWith_declare _ _).bind fun _ => ?_
  split
  · exact failsWith_declare _ _
  · exact .ok ()

variable (model : Model) (options : Options)

theorem Java.failsWith_checkMembers (cls : ClassDef) :
    FailsWith .emission (Java.checkMembers model options cls) :=
  failsWith_declarations _ _ _ _ _ options.generateBuilders

theorem Java.failsWith_files (package : String) :
    FailsWith .emission (Java.files model options package) := by
  have hclasses : FailsWith .emission (model.classes.mapM (Java.fileOf model options package)) :=
    .mapM (fun cls => (failsWith_checkMembers model options cls).bind fun _ => .ok _) _
  unfold Java.files
  split
  · exact (failsWith_checkBuilderNames _ _).bind fun _ => hclasses
  · exact hclasses

theorem Rust.failsWith_checkMembers (cls : ClassDef) :
    FailsWith .emission (Rust.checkMembers model options cls) :=
  failsWith_declarations _ _ _ _ _ options.generateBuilders

theorem Rust.failsWith_classFiles (modulePath : String) (stems : List String)
    (classes : List ClassDef) :
    FailsWith .emission (Rust.classFiles model options modulePath stems classes) := by
  induction classes generalizing stems with
  | nil => exact .ok _
  | cons cls rest ih =>
      unfold Rust.classFiles
      dsimp only
      split
      · rintro _ ⟨⟩
        rfl
      · exact (failsWith_checkMembers model options cls).bind fun _ =>
          (ih _).bind fun _ => .ok _

theorem Rust.failsWith_files (modulePath : String) :
    FailsWith .emission (Rust.files model options modulePath) := by
  have hclasses : FailsWith .emission (do
      let classes ← Rust.classFiles model options modulePath ["mod"] model.classes
      return classes ++ [⟨"", moduleFile modulePath, render (moduleLines model options)⟩]) :=
    (failsWith_classFiles model options modulePath _ _).bind fun _ => .ok _
  unfold Rust.files
  split
  · exact (failsWith_checkBuilderNames _ _).bind fun _ => hclasses
  · exact hclasses

end Source

/-- A model is refused for a duplicate member or for the name of a builder. -/
theorem Model.failsWith_emit (model : Model) (options : Options) (namespaceText : String) :
    FailsWith .emission (model.emit options namespaceText) := by
  unfold Model.emit
  split
  · exact Source.Java.failsWith_files model options namespaceText
  · exact Source.Rust.failsWith_files model options namespaceText

namespace Generation

/-! ## What keeps a run from its sources -/

/-- What keeps a run from the sources of a document, under a root name that is accepted. -/
inductive DocumentObstacle (options : Options) (root : String) (value : Value)
    (namespaceText : String) (watch : Watch) : Failure → Prop where
  | unsupported :
      isRoot value = false →
      DocumentObstacle options root value namespaceText watch
        (.unsupportedRoot (describeRoot value))
  | cancelled :
      isRoot value = true →
      watch.callsOff 0 (discovered options.fieldPrefix root value).classes.length = true →
      DocumentObstacle options root value namespaceText watch .cancelled
  /-- A class is refused, whatever became of the classes before it. -/
  | refused {failure : Failure} :
      isRoot value = true →
      watch.callsOff 0 (discovered options.fieldPrefix root value).classes.length = false →
      (resolvedModel options.fieldPrefix root value).emit options namespaceText =
        .error failure →
      failure.kind = .emission →
      DocumentObstacle options root value namespaceText watch failure

/-- What keeps a run from the sources of a text. -/
inductive Obstacle (options : Options) (root text namespaceText : String) (watch : Watch) :
    Failure → Prop where
  | rootName :
      Naming.isClassName root = false →
      Obstacle options root text namespaceText watch (.invalidRootName root)
  | blank :
      Naming.isClassName root = true →
      text.toList.all Unicode.isWhiteSpace = true →
      Obstacle options root text namespaceText watch .emptyInput
  | malformed {fault : Fault} :
      Naming.isClassName root = true →
      text.toList.all Unicode.isWhiteSpace = false →
      parse text = .error fault →
      Obstacle options root text namespaceText watch (jsonFailure text fault)
  | document {value : Value} {failure : Failure} :
      Naming.isClassName root = true →
      readDocument text = .ok value →
      DocumentObstacle options root value namespaceText watch failure →
      Obstacle options root text namespaceText watch failure

variable {options : Options} {root text namespaceText : String} {watch : Watch}

theorem sources_error_iff (hroot : Naming.isClassName root = true) {value : Value}
    {failure : Failure} :
    (sources options root value namespaceText watch).result = .error failure ↔
      DocumentObstacle options root value namespaceText watch failure := by
  rw [sources_result, checkRootName_of_isClassName hroot, modelOf_result]
  constructor
  · intro h
    cases hvalue : isRoot value with
    | false =>
        rw [hvalue] at h
        cases h
        exact .unsupported hvalue
    | true =>
        rw [hvalue, if_pos rfl] at h
        cases hpolls : watch.callsOff 0
            (discovered options.fieldPrefix root value).classes.length with
        | true =>
            rw [hpolls, if_pos rfl] at h
            cases h
            exact .cancelled hvalue hpolls
        | false =>
            rw [hpolls, if_neg Bool.false_ne_true] at h
            cases hemit : (resolvedModel options.fieldPrefix root value).emit options
                namespaceText with
            | error other =>
                simp only [bind, Except.bind, hemit] at h
                cases h
                exact .refused hvalue hpolls hemit (Model.failsWith_emit _ _ _ _ hemit)
            | ok files =>
                simp only [bind, Except.bind, hemit] at h
                cases h
  · intro h
    cases h with
    | unsupported hvalue =>
        rw [hvalue]
        rfl
    | cancelled hvalue hpolls =>
        rw [hvalue, if_pos rfl, hpolls]
        rfl
    | refused hvalue hpolls hemit _ =>
        rw [hvalue, if_pos rfl, hpolls, if_neg Bool.false_ne_true]
        simp only [bind, Except.bind, hemit]

theorem sourcesOfText_error_iff {failure : Failure} :
    (sourcesOfText options root text namespaceText watch).result = .error failure ↔
      Obstacle options root text namespaceText watch failure := by
  rw [sourcesOfText_result]
  constructor
  · intro h
    cases hroot : Naming.isClassName root with
    | false =>
        rw [checkRootName, hroot] at h
        cases h
        exact .rootName hroot
    | true =>
        rw [checkRootName_of_isClassName hroot] at h
        cases hread : readDocument text with
        | ok value =>
            rw [hread] at h
            exact .document hroot hread ((sources_error_iff hroot).1 h)
        | error other =>
            rw [hread] at h
            cases h
            rw [readDocument] at hread
            split at hread
            · rename_i hblank
              cases hread
              exact .blank hroot hblank
            · rename_i hblank
              cases hparse : parse text with
              | ok value =>
                  rw [hparse] at hread
                  cases hread
              | error fault =>
                  rw [hparse] at hread
                  cases hread
                  exact .malformed hroot (Bool.eq_false_iff.2 hblank) hparse
  · intro h
    cases h with
    | rootName hroot =>
        rw [checkRootName, hroot]
        rfl
    | blank hroot hblank =>
        rw [checkRootName_of_isClassName hroot, readDocument, hblank]
        rfl
    | malformed hroot hblank hparse =>
        rw [checkRootName_of_isClassName hroot, readDocument, hblank, hparse]
        rfl
    | document hroot hread hobstacle =>
        rw [checkRootName_of_isClassName hroot, hread]
        exact (sources_error_iff hroot).2 hobstacle

end Generation

/-! ## Recorded calls -/

namespace Sink

/-- A call on a sink, with the answer of the sink. -/
inductive Answered where
  | write (file : SourceFile) (answer : Except Failure Unit)
  | finish (answer : Except Failure Unit)

/-- A write that succeeds. -/
def accepted (file : SourceFile) : Answered :=
  .write file (.ok ())

variable {State : Type}

/-- A call that leaves a note of its answer behind. -/
def recording (note : Except Failure Unit → Answered)
    (call : StateM State (Except Failure Unit)) :
    StateM (State × List Answered) (Except Failure Unit) :=
  fun (state, calls) =>
    let (answer, after) := call state
    (answer, after, calls ++ [note answer])

/-- The sink that also keeps a record of the calls on it. -/
def recorded (sink : Sink (StateM State)) : Sink (StateM (State × List Answered)) where
  write file := recording (.write file) (sink.write file)
  finish := recording .finish sink.finish

/-- The calls that write files: of all of them, or up to a write that fails. -/
inductive Written : List SourceFile → List Answered → Except Failure Unit → Prop where
  | all (files : List SourceFile) : Written files (files.map accepted) (.ok ())
  | stopped (before : List SourceFile) (file : SourceFile) (after : List SourceFile)
      (failure : Failure) :
      Written (before ++ file :: after)
        (before.map accepted ++ [.write file (.error failure)]) (.error failure)

theorem Written.cons {files : List SourceFile} {calls : List Answered}
    {answer : Except Failure Unit} (h : Written files calls answer) (file : SourceFile) :
    Written (file :: files) (accepted file :: calls) answer := by
  cases h with
  | all => exact .all (file :: files)
  | stopped before other after failure => exact .stopped (file :: before) other after failure

section

variable {sink : Sink (StateM State)} {file : SourceFile} {state after : State} {failure : Failure}

theorem writeAll_of_error (h : sink.write file state = (.error failure, after))
    (rest : List SourceFile) : sink.writeAll (file :: rest) state = (.error failure, after) := by
  rw [writeAll]
  simp only [bind, StateT.bind, h]
  rfl

theorem writeAll_of_ok (h : sink.write file state = (.ok (), after)) (rest : List SourceFile) :
    sink.writeAll (file :: rest) state = sink.writeAll rest after := by
  rw [writeAll]
  simp only [bind, StateT.bind, h]

theorem deliver_of_error {files : List SourceFile}
    (h : sink.writeAll files state = (.error failure, after)) :
    sink.deliver files state = (.error failure, after) := by
  rw [deliver]
  simp only [bind, StateT.bind, h]
  rfl

theorem deliver_of_ok {files : List SourceFile} (h : sink.writeAll files state = (.ok (), after)) :
    sink.deliver files state = sink.finish after := by
  rw [deliver]
  simp only [bind, StateT.bind, h]

end

/-- A record does not change what becomes of the writes. -/
theorem writeAll_recorded (sink : Sink (StateM State)) (files : List SourceFile) (state : State)
    (calls : List Answered) :
    ∃ answer after made,
      sink.writeAll files state = (answer, after) ∧
      sink.recorded.writeAll files (state, calls) = (answer, after, calls ++ made) ∧
      Written files made answer := by
  -- The record so far is left free, since it grows with each write.
  induction files generalizing state calls with
  | nil => exact ⟨.ok (), state, [], rfl, by rw [List.append_nil]; rfl, .all []⟩
  | cons file rest ih =>
      cases hwrite : sink.write file state with
      | mk answer after =>
          have hrecorded : sink.recorded.write file (state, calls) =
              (answer, after, calls ++ [.write file answer]) := by
            simp only [recorded, recording, hwrite]
          cases answer with
          | error failure =>
              exact ⟨.error failure, after, [.write file (.error failure)],
                writeAll_of_error hwrite rest, writeAll_of_error hrecorded rest,
                .stopped [] file rest failure⟩
          | ok _ =>
              obtain ⟨answer, final, made, hplain, hrest, hwritten⟩ :=
                ih after (calls ++ [accepted file])
              refine ⟨answer, final, accepted file :: made, ?_, ?_, hwritten.cons file⟩
              · rw [writeAll_of_ok hwrite, hplain]
              · rw [writeAll_of_ok hrecorded, List.append_cons calls (accepted file) made]
                exact hrest

end Sink

namespace Generation

/-! ## Whole runs -/

open Sink

/-- The calls of a run on its sink and the result of the run, from what was made for the sink. -/
inductive Dealings :
    Except Failure (Model × List SourceFile) → List Answered → Except Failure Report → Prop where
  /-- Nothing was made, and nothing is called. -/
  | untouched (failure : Failure) : Dealings (.error failure) [] (.error failure)
  /-- A write failed, which was the last call. -/
  | stopped (model : Model) (before : List SourceFile) (file : SourceFile)
      (after : List SourceFile) (failure : Failure) :
      Dealings (.ok (model, before ++ file :: after))
        (before.map accepted ++ [.write file (.error failure)]) (.error failure)
  | unfinished (model : Model) (files : List SourceFile) (failure : Failure) :
      Dealings (.ok (model, files)) (files.map accepted ++ [.finish (.error failure)])
        (.error failure)
  | finished (model : Model) (files : List SourceFile) :
      Dealings (.ok (model, files)) (files.map accepted ++ [.finish (.ok ())])
        (.ok ⟨model.classNames, model.diagnostics⟩)

section Dealings

variable {made : Except Failure (Model × List SourceFile)} {calls : List Answered}
  {result : Except Failure Report}

theorem finish_notMem (files : List SourceFile) (answer : Except Failure Unit) :
    .finish answer ∉ files.map accepted := by
  rw [List.mem_map]
  rintro ⟨_, -, h⟩
  cases h

/-- There is a report exactly if the sink has finished. -/
theorem Dealings.report_iff (h : Dealings made calls result) :
    (∃ report, result = .ok report) ↔ .finish (.ok ()) ∈ calls := by
  cases h <;> simp [finish_notMem]

theorem Dealings.calls_eq_nil_iff (h : Dealings made calls result) :
    calls = [] ↔ ∃ failure, made = .error failure := by
  cases h <;> simp

theorem Dealings.result_of_error {failure : Failure}
    (h : Dealings (.error failure) calls result) : result = .error failure := by
  cases h
  rfl

theorem Dealings.exists_made {report : Report} (h : Dealings made calls (.ok report)) :
    ∃ model files, made = .ok (model, files) ∧
      calls = files.map accepted ++ [.finish (.ok ())] ∧
      report = ⟨model.classNames, model.diagnostics⟩ := by
  cases h with
  | finished model files => exact ⟨model, files, rfl, rfl, rfl⟩

end Dealings

variable {State : Type}

/-- The outcome of a run whose sources were delivered with an answer. -/
def delivered (root : String) (outcome : Outcome (Model × List SourceFile)) (model : Model)
    (files : List SourceFile) : Except Failure Unit → Outcome Report
  | .error failure => { outcome with result := .error failure }
  | .ok () =>
      { outcome with
        result := .ok ⟨model.classNames, model.diagnostics⟩
        events := outcome.events ++
          [.finished root model.classes.length files.length model.diagnostics.length] }

theorem deliver_of_error {root : String} {outcome : Outcome (Model × List SourceFile)}
    {failure : Failure} (hresult : outcome.result = .error failure) (sink : Sink (StateM State))
    (state : State) :
    deliver root outcome sink state = ({ outcome with result := .error failure }, state) := by
  rw [deliver, hresult]
  rfl

theorem deliver_of_ok {root : String} {outcome : Outcome (Model × List SourceFile)}
    {model : Model} {files : List SourceFile} (hresult : outcome.result = .ok (model, files))
    {sink : Sink (StateM State)} {state after : State} {answer : Except Failure Unit}
    (h : sink.deliver files state = (answer, after)) :
    deliver root outcome sink state = (delivered root outcome model files answer, after) := by
  rw [deliver, hresult]
  simp only [bind, StateT.bind, h]
  cases answer <;> rfl

/-- Whatever a run hands over, a record shows one of four dealings with the sink, and changes
nothing. -/
theorem deliver_dealings (root : String) (outcome : Outcome (Model × List SourceFile))
    (sink : Sink (StateM State)) (state : State) :
    ∃ report after calls,
      deliver root outcome sink state = (report, after) ∧
      deliver root outcome sink.recorded (state, []) = (report, after, calls) ∧
      Dealings outcome.result calls report.result := by
  cases hresult : outcome.result with
  | error failure =>
      exact ⟨_, state, [], deliver_of_error hresult sink state,
        deliver_of_error hresult sink.recorded (state, []), .untouched failure⟩
  | ok made =>
      obtain ⟨model, files⟩ := made
      obtain ⟨answer, after, calls, hplain, hrecorded, hwritten⟩ :=
        writeAll_recorded sink files state []
      cases hwritten with
      | stopped before file rest failure =>
          exact ⟨_, after, _, deliver_of_ok hresult (Sink.deliver_of_error hplain),
            deliver_of_ok hresult (Sink.deliver_of_error hrecorded),
            .stopped model before file rest failure⟩
      | all =>
          cases hfinish : sink.finish after with
          | mk answer final =>
              have hfinished : sink.recorded.finish (after, files.map accepted) =
                  (answer, final, files.map accepted ++ [.finish answer]) := by
                simp only [Sink.recorded, recording, hfinish]
              have hdelivered : sink.deliver files state = (answer, final) := by
                rw [Sink.deliver_of_ok hplain, hfinish]
              have hdeliveredToo : sink.recorded.deliver files (state, []) =
                  (answer, final, files.map accepted ++ [.finish answer]) := by
                rw [Sink.deliver_of_ok hrecorded]
                exact hfinished
              refine ⟨_, final, _, deliver_of_ok hresult hdelivered,
                deliver_of_ok hresult hdeliveredToo, ?_⟩
              cases answer with
              | error failure => exact .unfinished model files failure
              | ok _ => exact .finished model files

/-- The sources of a text are those of the model of its document, which has the classes in the order
of their discovery. -/
theorem of_sourcesOfText {options : Options} {root text namespaceText : String} {watch : Watch}
    {model : Model} {files : List SourceFile}
    (h : (sourcesOfText options root text namespaceText watch).result = .ok (model, files)) :
    ∃ value discovery, readDocument text = .ok value ∧
      observe root value { fieldPrefix := options.fieldPrefix } = (.ok (), discovery) ∧
      (modelOf root value options.fieldPrefix watch).result = .ok model ∧
      model.emit options namespaceText = .ok files ∧
      model.classNames = discovery.classes.map (·.1) := by
  rw [sourcesOfText_result] at h
  obtain ⟨_, -, h⟩ := bind_eq_ok h
  obtain ⟨value, hread, h⟩ := bind_eq_ok h
  rw [sources_result] at h
  obtain ⟨_, -, h⟩ := bind_eq_ok h
  obtain ⟨made, hmodel, h⟩ := bind_eq_ok h
  obtain ⟨emitted, hemit, h⟩ := bind_eq_ok h
  cases h
  obtain ⟨hvalue, rfl⟩ := eq_resolvedModel hmodel
  exact ⟨value, _, hread, observe_fresh hvalue options.fieldPrefix, hmodel, hemit,
    classNames_resolvedModel options.fieldPrefix root value⟩

/-- All or nothing towards the sink.  A run whose sources cannot all be made leaves its sink alone,
and fails for one of the known obstacles.  Otherwise it writes the sources in order, up to the first
write that fails, and if none does it finishes once.  There is a report exactly if the sink has
finished, and it lists the classes in the order of their discovery and the diagnostics of the
model. -/
theorem runText_all_or_nothing (options : Options) (root text namespaceText : String)
    (watch : Watch) (sink : Sink (StateM State)) (state : State) :
    ∃ outcome after calls,
      runText options root text namespaceText watch sink state = (outcome, after) ∧
      runText options root text namespaceText watch sink.recorded (state, []) =
        (outcome, after, calls) ∧
      Dealings (sourcesOfText options root text namespaceText watch).result calls
        outcome.result ∧
      (calls = [] ↔ ∃ failure, Obstacle options root text namespaceText watch failure) ∧
      (∀ failure, Obstacle options root text namespaceText watch failure →
        outcome.result = .error failure) ∧
      ((∃ report, outcome.result = .ok report) ↔ .finish (.ok ()) ∈ calls) ∧
      ∀ report, outcome.result = .ok report →
        ∃ value discovery model files, readDocument text = .ok value ∧
          observe root value { fieldPrefix := options.fieldPrefix } = (.ok (), discovery) ∧
          (modelOf root value options.fieldPrefix watch).result = .ok model ∧
          model.emit options namespaceText = .ok files ∧
          calls = files.map accepted ++ [.finish (.ok ())] ∧
          report.classes = discovery.classes.map (·.1) ∧
          report.diagnostics = model.diagnostics := by
  obtain ⟨outcome, after, calls, hplain, hrecorded, hdealings⟩ :=
    deliver_dealings root (sourcesOfText options root text namespaceText watch) sink state
  refine ⟨outcome, after, calls, hplain, hrecorded, hdealings, ?_, ?_, hdealings.report_iff, ?_⟩
  · simp only [hdealings.calls_eq_nil_iff, sourcesOfText_error_iff]
  · intro failure hobstacle
    rw [sourcesOfText_error_iff.2 hobstacle] at hdealings
    exact hdealings.result_of_error
  · intro report hreport
    rw [hreport] at hdealings
    obtain ⟨model, files, hmade, hcalls, rfl⟩ := hdealings.exists_made
    obtain ⟨value, discovery, hread, hobserve, hmodel, hemit, hnames⟩ := of_sourcesOfText hmade
    exact ⟨value, discovery, model, files, hread, hobserve, hmodel, hemit, hcalls, hnames, rfl⟩

end Generation

end Exemplar
