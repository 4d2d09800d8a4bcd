import Exemplar.Proofs.Collection
import Exemplar.Proofs.Sink.Output

/-!
# Runs on documents and on texts

The sources of a document are of a model with classes of plain and distinct names.  A run keeps them
in memory, or hands them to the sink of a directory.  A run on a text does, with whatever sink, what
the run on its document does.
-/

namespace Exemplar

open Json

namespace Generation

variable {options : Options} {root text namespaceText : String} {watch : Watch} {value : Value}
  {model : Model} {files : List SourceFile} {outcome : Resolution.Outcome (Model × List SourceFile)}

/-! ## The sources of a document -/

/-- What is known of the sources of a document. -/
structure Made (options : Options) (namespaceText : String) (model : Model)
    (files : List SourceFile) : Prop where
  emitted : model.emit options namespaceText = .ok files
  plain : Source.Rust.HasPlainNames model
  distinct : model.classNames.Nodup
  named : ∀ name ∈ model.classNames, name ≠ ""
  inhabited : model.classes ≠ []

theorem made_of_sources
    (h : (sources options root value namespaceText watch).result = .ok (model, files)) :
    Made options namespaceText model files := by
  rw [sources, emit_result] at h
  obtain ⟨lowered, hmodel, h⟩ := bind_eq_ok h
  obtain ⟨emitted, hemit, h⟩ := bind_eq_ok h
  cases h
  obtain ⟨hroot, hlowered⟩ := of_model hmodel
  obtain ⟨hvalue, rfl⟩ := Resolution.eq_resolvedModel hlowered
  constructor
  case emitted => exact hemit
  case plain => exact Source.Rust.hasPlainNames_resolvedModel hroot hvalue _
  case distinct => exact Source.Rust.classNames_nodup _ _ _
  case named => exact Resolution.classNames_ne_empty hroot hvalue _
  case inhabited =>
    intro hnone
    have hnames := Resolution.classNames_resolvedModel options.fieldPrefix root value
    obtain ⟨members, rest, hvisited⟩ := Discovery.visited_eq_cons root hvalue
    rw [Discovery.discovered_keys hvalue, hvisited, Model.classNames, hnone, List.map_cons,
      List.eraseDups_cons] at hnames
    cases hnames

theorem Made.files_ne_nil (h : Made options namespaceText model files) : files ≠ [] := by
  rintro rfl
  have howners := Source.owners_of_emit h.emitted
  rw [List.map_nil, eq_comm, List.append_eq_nil_iff, Model.classNames, List.map_eq_nil_iff]
    at howners
  exact h.inhabited howners.1

/-- A run on a document keeps its sources in memory. -/
theorem run_memory
    (h : (sources options root value namespaceText watch).result = .ok (model, files)) :
    (run options root value namespaceText watch Sink.memory {}).1.result =
        .ok ⟨model.classNames, model.diagnostics⟩ ∧
      (run options root value namespaceText watch Sink.memory {}).2.files = files := by
  have hmade := made_of_sources h
  have hrun : run options root value namespaceText watch Sink.memory {} =
      (delivered root (sources options root value namespaceText watch) model files (.ok ()),
        (files.foldl Memory.write {}).finish) :=
    deliver_of_ok h (Sink.deliver_memory files {})
  rw [hrun]
  exact ⟨rfl, (keepsAll_of_emit hmade.plain hmade.distinct hmade.named hmade.emitted).kept⟩

/-! ## Runs into a directory -/

theorem deliver_onTree_of_error {failure : Failure} (h : outcome.result = .error failure)
    (directory : Directory) (tree : FileTree) :
    deliver root outcome Sink.onTree directory tree =
      (({ outcome with result := .error failure }, directory), tree) := by
  rw [deliver, h]
  rfl

theorem deliver_onTree_of_ok (h : outcome.result = .ok (model, files)) (directory : Directory)
    (tree : FileTree) :
    deliver root outcome Sink.onTree directory tree =
      ((delivered root outcome model files (Sink.onTree.deliver files directory tree).1.1,
        (Sink.onTree.deliver files directory tree).1.2),
        (Sink.onTree.deliver files directory tree).2) := by
  rw [deliver, h]
  simp only [bind, StateT.bind]
  rcases Sink.onTree.deliver files directory tree with ⟨⟨failure | done, noted⟩, after⟩ <;> rfl

theorem delivered_result (root : String) (outcome : Resolution.Outcome (Model × List SourceFile))
    (model : Model) (files : List SourceFile) (answer : Except Failure Unit) :
    (delivered root outcome model files answer).result =
      answer.map fun _ => ⟨model.classNames, model.diagnostics⟩ := by
  cases answer <;> rfl

/-! ## Runs on texts -/

/-- A text that is read has the sources of its document. -/
theorem sourcesOfText_result_of_read (hread : readDocument text = .ok value) :
    (sourcesOfText options root text namespaceText watch).result =
      (sources options root value namespaceText watch).result := by
  have hsources := sources_result options root value namespaceText watch
  rw [sourcesOfText_result, hread]
  cases hcheck : checkRootName root with
  | error failure =>
      rw [hsources, hcheck]
      rfl
  | ok _ => rfl

section

variable {m : Type → Type} [Monad m] [LawfulMonad m]

/-- What comes of a delivery, and what it does, is settled by what is delivered. -/
theorem deliver_congr {other : Resolution.Outcome (Model × List SourceFile)}
    (h : outcome.result = other.result) (root : String) (sink : Sink m) :
    (·.result) <$> deliver root outcome sink = (·.result) <$> deliver root other sink := by
  rw [deliver, deliver, h]
  cases other.result with
  | error failure => rw [map_pure, map_pure]
  | ok made =>
      simp only [map_bind]
      refine bind_congr fun answer => ?_
      cases answer <;> rw [map_pure, map_pure]

variable (options root namespaceText watch)

/-- A run on a text that is read does what the run on its document does. -/
theorem runText_of_read (hread : readDocument text = .ok value) (sink : Sink m) :
    (·.result) <$> runText options root text namespaceText watch sink =
      (·.result) <$> run options root value namespaceText watch sink :=
  deliver_congr (sourcesOfText_result_of_read hread) root sink

end

variable (options root namespaceText watch)

theorem runText_memory_of_read (hread : readDocument text = .ok value) (memory : Memory) :
    (runText options root text namespaceText watch Sink.memory memory).1.result =
        (run options root value namespaceText watch Sink.memory memory).1.result ∧
      (runText options root text namespaceText watch Sink.memory memory).2 =
        (run options root value namespaceText watch Sink.memory memory).2 :=
  Prod.mk.inj (congrFun (runText_of_read options root namespaceText watch hread Sink.memory) memory)

theorem runText_onTree_of_read (hread : readDocument text = .ok value) (directory : Directory)
    (tree : FileTree) :
    (runText options root text namespaceText watch Sink.onTree directory tree).1.1.result =
        (run options root value namespaceText watch Sink.onTree directory tree).1.1.result ∧
      (runText options root text namespaceText watch Sink.onTree directory tree).2 =
        (run options root value namespaceText watch Sink.onTree directory tree).2 := by
  have hruns := congrFun
    (congrFun (runText_of_read options root namespaceText watch hread Sink.onTree) directory) tree
  obtain ⟨hmade, htree⟩ := Prod.mk.inj hruns
  exact ⟨(Prod.mk.inj hmade).1, htree⟩

theorem sourcesOfText_fails {failure : Failure} (hread : readDocument text = .error failure) :
    ∃ other, (sourcesOfText options root text namespaceText watch).result = .error other := by
  rw [sourcesOfText_result, hread]
  cases checkRootName root with
  | error other => exact ⟨other, rfl⟩
  | ok _ => exact ⟨failure, rfl⟩

end Generation

end Exemplar
