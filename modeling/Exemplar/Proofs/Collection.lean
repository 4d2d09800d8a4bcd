import Exemplar.Proofs.Delivery
import Exemplar.Proofs.Source.Placement
import Exemplar.Sink.Memory

/-!
# What a run leaves in memory

The sink in memory puts a file in the place of one that has the same path.  The files of a run have
paths of their own, so each of them stays: after a run the memory holds what was emitted, in the
order of emission, and its classes are those of the report.
-/

namespace Exemplar

open Discovery Json

/-- Whether all files have paths of their own, compared by components. -/
def PathsDiffer (files : List SourceFile) : Prop :=
  files.Pairwise fun file other => file.path.same other.path = false

namespace Memory

variable {file : SourceFile} {files : List SourceFile}

/-- A file with a path of its own comes last. -/
theorem put_of_new (h : ∀ other ∈ files, other.path.same file.path = false) :
    put file files = files ++ [file] := by
  induction files with
  | nil => rfl
  | cons other rest ih =>
      obtain ⟨hother, hrest⟩ := List.forall_mem_cons.1 h
      rw [put, hother, if_neg Bool.false_ne_true, ih hrest]
      rfl

theorem write_of_new {memory : Memory} (h : PathsDiffer (memory.files ++ [file])) :
    memory.write file = { memory with files := memory.files ++ [file] } := by
  obtain ⟨-, -, hnew⟩ := List.pairwise_append.1 h
  rw [write, put_of_new fun other hother => hnew other hother file (List.mem_singleton_self file)]

/-- Files with paths of their own come behind those that are there. -/
theorem foldl_write {memory : Memory} (h : PathsDiffer (memory.files ++ files)) :
    files.foldl write memory = { memory with files := memory.files ++ files } := by
  -- What is there is left free, since it grows with each file.
  induction files generalizing memory with
  | nil => rw [List.append_nil]; rfl
  | cons file rest ih =>
      rw [List.append_cons] at h ⊢
      have hfirst : memory.write file = { memory with files := memory.files ++ [file] } :=
        write_of_new (List.pairwise_append.1 h).1
      rw [List.foldl_cons, hfirst]
      exact ih h

end Memory

namespace Sink

/-- Writing to the memory does not fail. -/
theorem writeAll_memory (files : List SourceFile) (memory : Memory) :
    Sink.memory.writeAll files memory = (.ok (), files.foldl Memory.write memory) := by
  induction files generalizing memory with
  | nil => rfl
  | cons file rest ih =>
      have hwrite : Sink.memory.write file memory = (.ok (), memory.write file) := rfl
      rw [writeAll_of_ok hwrite, ih, List.foldl_cons]

theorem deliver_memory (files : List SourceFile) (memory : Memory) :
    Sink.memory.deliver files memory = (.ok (), (files.foldl Memory.write memory).finish) := by
  rw [deliver_of_ok (writeAll_memory files memory)]
  rfl

end Sink

/-! ## Class names -/

theorem Naming.ne_empty_of_isClassName {name : String} (h : isClassName name = true) :
    name ≠ "" := by
  rintro rfl
  cases h

/-- No class of a document has an empty name. -/
theorem Resolution.classNames_ne_empty {root : String} (hroot : Naming.isClassName root = true)
    {value : Value} (hvalue : isRoot value = true) (fieldPrefix : String) :
    ∀ name ∈ (resolvedModel fieldPrefix root value).classNames, name ≠ "" := by
  intro name hname
  obtain ⟨cls, hcls, rfl⟩ := List.mem_map.1 hname
  rcases Source.Rust.name_of_mem_resolvedModel hvalue hcls with heq | ⟨property, heq⟩
  · rw [heq]
    exact Naming.ne_empty_of_isClassName hroot
  · rw [heq]
    exact fun hempty => Naming.className_ne_nil property (String.toList_eq_nil_iff.2 hempty)

namespace Generation

/-! ## Runs into an empty memory -/

/-- How the memory stands after a run that has emitted some files for some classes. -/
structure KeepsAll (target : Target) (namespaceText : String) (classes : List String)
    (files : List SourceFile) (memory : Memory) : Prop where
  kept : memory.files = files
  finished : memory.finished = true
  distinct : PathsDiffer files
  /-- One file for each class, and those of no class behind them. -/
  owners : files.map (·.className) =
    classes ++ (Source.sharedFileNames target).map fun _ => ""
  moduleLast : target = .rust → ∃ file, files.getLast? = some file ∧
    file.className = "" ∧ file.path = Source.Rust.moduleFile namespaceText
  classNames : memory.classNames = classes

variable {options : Options} {root text namespaceText : String} {watch : Watch}

theorem isClassName_of_sourcesOfText {made : Model × List SourceFile}
    (h : (sourcesOfText options root text namespaceText watch).result = .ok made) :
    Naming.isClassName root = true := by
  by_contra hroot
  rw [sourcesOfText_error_iff.2 (.rootName (Bool.eq_false_iff.2 hroot))] at h
  cases h

/-- The sources of a text are delivered to the memory without fail. -/
theorem runText_memory {model : Model} {files : List SourceFile}
    (h : (sourcesOfText options root text namespaceText watch).result = .ok (model, files))
    (memory : Memory) :
    runText options root text namespaceText watch Sink.memory memory =
      (delivered root (sourcesOfText options root text namespaceText watch) model files (.ok ()),
        (files.foldl Memory.write memory).finish) :=
  deliver_of_ok h (Sink.deliver_memory files memory)

theorem exists_made_of_report {memory after : Memory} {outcome : Resolution.Outcome Report}
    {report : Report}
    (hrun : runText options root text namespaceText watch Sink.memory memory = (outcome, after))
    (hreport : outcome.result = .ok report) :
    ∃ model files,
      (sourcesOfText options root text namespaceText watch).result = .ok (model, files) ∧
      report = ⟨model.classNames, model.diagnostics⟩ ∧
      after = (files.foldl Memory.write memory).finish := by
  cases hmade : (sourcesOfText options root text namespaceText watch).result with
  | error failure =>
      rw [runText, deliver_of_error hmade] at hrun
      cases hrun
      cases hreport
  | ok made =>
      obtain ⟨model, files⟩ := made
      rw [runText_memory hmade] at hrun
      cases hrun
      cases hreport
      exact ⟨model, files, rfl, rfl, rfl⟩

theorem keepsAll_of_emit {model : Model} {files : List SourceFile}
    (hplain : Source.Rust.HasPlainNames model) (hnames : model.classNames.Nodup)
    (hnonempty : ∀ name ∈ model.classNames, name ≠ "")
    (h : model.emit options namespaceText = .ok files) :
    KeepsAll options.target namespaceText model.classNames files
      (files.foldl Memory.write {}).finish := by
  have hdistinct : PathsDiffer files := Source.paths_differ hplain hnames h
  have hwritten : files.foldl Memory.write {} = { files := files } := Memory.foldl_write hdistinct
  have howners := Source.owners_of_emit h
  rw [hwritten]
  constructor
  case kept => rfl
  case finished => rfl
  case distinct => exact hdistinct
  case owners => exact howners
  case moduleLast =>
    intro htarget
    rw [Model.emit, htarget] at h
    obtain ⟨rfl, -, -⟩ := Source.Rust.files_eq_ok h
    exact ⟨_, List.getLast?_concat, rfl, Source.Rust.moduleSource_path⟩
  case classNames =>
    change (files.map (·.className)).filter (!·.isEmpty) = model.classNames
    have hkept : model.classNames.filter (!·.isEmpty) = model.classNames :=
      List.filter_eq_self.2 fun name hname => by simpa using hnonempty name hname
    have hdropped : ((Source.sharedFileNames options.target).map fun _ => "").filter
        (!·.isEmpty) = [] := by
      simp
    rw [howners, List.filter_append, hkept, hdropped, List.append_nil]

/-- No file is lost.  After a run on an empty memory that ends with a report, the memory is
finished and holds exactly what was emitted: a file for each class in the order of discovery, and
for Rust the module file last, all with paths of their own.  The classes of the memory are those of
the report. -/
theorem runText_keeps_all {outcome : Resolution.Outcome Report} {memory : Memory} {report : Report}
    (hrun : runText options root text namespaceText watch Sink.memory {} = (outcome, memory))
    (hreport : outcome.result = .ok report) :
    ∃ value discovery model files, readDocument text = .ok value ∧
      observe root value { fieldPrefix := options.fieldPrefix } = (.ok (), discovery) ∧
      (modelOf root value options.fieldPrefix watch).result = .ok model ∧
      model.emit options namespaceText = .ok files ∧
      report.classes = discovery.classes.map (·.1) ∧
      KeepsAll options.target namespaceText report.classes files memory := by
  obtain ⟨model, files, hmade, rfl, rfl⟩ := exists_made_of_report hrun hreport
  have hroot := isClassName_of_sourcesOfText hmade
  obtain ⟨value, discovery, hread, hobserve, hmodel, hemit, hnames⟩ := of_sourcesOfText hmade
  refine ⟨value, discovery, model, files, hread, hobserve, hmodel, hemit, hnames, ?_⟩
  obtain ⟨hvalue, rfl⟩ := Resolution.eq_resolvedModel hmodel
  exact keepsAll_of_emit (Source.Rust.hasPlainNames_resolvedModel hroot hvalue _)
    (Source.Rust.classNames_nodup _ _ _) (Resolution.classNames_ne_empty hroot hvalue _) hemit

/-- A document of three classes, two of which are named like reserved words. -/
def nestedText : String :=
  "\x7b\"self\": [\x7b\"types\": [[\x7b\"self\": null\x7d]]\x7d]\x7d"

theorem runText_keeps_all_nested :
    ∃ outcome memory report,
      runText { target := .rust } "Root" nestedText "crate::api" Watch.never Sink.memory {} =
        (outcome, memory) ∧
      outcome.result = .ok report ∧
      KeepsAll .rust "crate::api" ["Root", "Self", "Type"] memory.files memory ∧
      memory.files.map (·.path.text) =
        ["api/root.rs", "api/self_.rs", "api/type.rs", "api/mod.rs"] := by
  have hclasses : (runText { target := .rust } "Root" nestedText "crate::api" Watch.never
      Sink.memory {}).1.result.map (·.classes) = .ok ["Root", "Self", "Type"] := by
    decide +kernel
  have hpaths : (runText { target := .rust } "Root" nestedText "crate::api" Watch.never
      Sink.memory {}).2.files.map (·.path.text) =
        ["api/root.rs", "api/self_.rs", "api/type.rs", "api/mod.rs"] := by
    decide +kernel
  cases hrun : runText { target := .rust } "Root" nestedText "crate::api" Watch.never
      Sink.memory {} with
  | mk outcome memory =>
      rw [hrun] at hclasses hpaths
      cases hresult : outcome.result with
      | error failure =>
          rw [hresult] at hclasses
          cases hclasses
      | ok report =>
          rw [hresult] at hclasses
          have hreport : report.classes = ["Root", "Self", "Type"] := Except.ok.inj hclasses
          obtain ⟨_, _, _, files, -, -, -, -, -, hkeeps⟩ := runText_keeps_all hrun hresult
          obtain rfl := hkeeps.kept
          rw [hreport] at hkeeps
          exact ⟨outcome, memory, report, rfl, hresult, hkeeps, hpaths⟩

end Generation

end Exemplar
