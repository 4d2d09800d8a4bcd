import Exemplar.Proofs.CommandLine.Scenes
import Exemplar.Proofs.Runs

/-!
# How commands end

A command reads its options and its document and then makes everything that it is to print or write.
It fails on the way there without having changed anything.  After that it prints all in one go, or
writes it, which is where a file operation may fail.
-/

namespace Exemplar

open Json

namespace CommandLine

open Generation

variable {jq : Jq} {command : Command} {input : InputChoice} {emit : EmitChoice} {options : Options}
  {namespaceText : String} {value : Value} {transcript : Transcript} {tree : FileTree}
  {result : Except Complaint Unit} {output : String} {after : FileTree} {complaint : Complaint}

/-! ## Complaints about writing -/

/-- The complaints about file operations that were to write what was made. -/
inductive Complaint.IsWriteFault : Complaint → Prop where
  | sources {failure : Failure} (h : failure.kind = .file) : IsWriteFault (.failure none failure)
  | directory (path : Path) (fault : FileFault) :
      IsWriteFault (.file ("failed to create " ++ path.text) fault)
  | file (path : Path) (fault : FileFault) :
      IsWriteFault (.file ("failed to write " ++ path.text) fault)

/-- What a failure may have changed: nothing of the output, and of the files only what was written
before a file operation failed. -/
def LeaksNothing (transcript : Transcript) (tree : FileTree) (result : Except Complaint Unit)
    (output : String) (after : FileTree) : Prop :=
  ∀ complaint, result = .error complaint →
    output = transcript.output ∧ (after = tree ∨ complaint.IsWriteFault)

/-- Whether an action leaks nothing wherever it is run. -/
def Leakless (action : Scene (Except Complaint Unit)) : Prop :=
  ∀ transcript tree, ∃ result output after, Ends action transcript tree result output after ∧
    LeaksNothing transcript tree result output after

/-- Whether an action goes to the files alone and fails only in writing. -/
def WritesOnly (action : Scene (Except Complaint Unit)) : Prop :=
  ∀ transcript tree, ∃ result after, Ends action transcript tree result transcript.output after ∧
    ∀ complaint, result = .error complaint → complaint.IsWriteFault

theorem WritesOnly.leakless {action : Scene (Except Complaint Unit)} (h : WritesOnly action) :
    Leakless action := by
  intro transcript tree
  obtain ⟨result, after, hends, hfault⟩ := h transcript tree
  exact ⟨result, _, after, hends, fun complaint hresult =>
    ⟨rfl, .inr (hfault complaint hresult)⟩⟩

theorem leakless_pure (result : Except Complaint Unit) : Leakless (pure result) :=
  fun transcript tree =>
    ⟨result, _, _, ends_pure result transcript tree, fun _ _ => ⟨rfl, .inl rfl⟩⟩

/-- What is printed last is not leaked. -/
theorem leakless_print (text : String) : Leakless (do Console.print text; return .ok ()) := by
  intro transcript tree
  refine ⟨.ok (), transcript.output ++ text, tree, ?_, fun complaint h => nomatch h⟩
  exact (ends_print text transcript tree).bind fun told htold => htold ▸ ends_pure _ _ _

/-- Nothing is leaked behind an action that adds nothing to the output and leaves the files. -/
theorem Leakless.bind {α : Type} {first : Scene α} {second : α → Scene (Except Complaint Unit)}
    (hfirst : ∀ transcript tree, ∃ value, Ends first transcript tree value transcript.output tree)
    (hsecond : ∀ value, Leakless (second value)) : Leakless (first >>= second) := by
  intro transcript tree
  obtain ⟨value, told, hrun, htold⟩ := hfirst transcript tree
  obtain ⟨result, output, after, ⟨last, hlast, houtput⟩, hleaks⟩ := hsecond value told tree
  refine ⟨result, output, after, ⟨last, ?_, houtput⟩, ?_⟩
  · rw [run_bind, hrun]
    exact hlast
  · rw [LeaksNothing, ← htold]
    exact hleaks

theorem OnlyReads.leakless_bind {α : Type} {first : Scene α}
    {second : α → Scene (Except Complaint Unit)} (hfirst : OnlyReads first)
    (hsecond : ∀ value, Leakless (second value)) : Leakless (first >>= second) :=
  Leakless.bind (fun transcript tree => ⟨_, transcript, hfirst transcript tree, rfl⟩) hsecond

/-! ## Printing -/

/-- A file as it is printed: its source under its path. -/
def fileText (file : SourceFile) : String :=
  "// " ++ file.path.text ++ "\n" ++ file.source

theorem printed_eq (files : List SourceFile) :
    printed files = "\n".intercalate (files.map fileText) := by
  induction files with
  | nil => rfl
  | cons file rest ih =>
      cases rest with
      | nil => rfl
      | cons next others =>
          rw [List.map_cons, List.map_cons, String.intercalate_cons_cons, ← List.map_cons, ← ih]
          rfl

theorem plainly_eq_ok_iff {α : Type} {made : Except Failure α} :
    plainly (made.map fun _ => ()) = .ok () ↔ ∃ report, made = .ok report := by
  cases made with
  | error failure => exact ⟨nofun, nofun⟩
  | ok report => exact ⟨fun _ => ⟨report, rfl⟩, fun _ => rfl⟩

/-- The sources of a document are printed as those that a run keeps in memory, if it ends with a
report. -/
theorem generatePrinted_ends (options : Options) (input : InputChoice) (value : Value)
    (namespaceText : String) (transcript : Transcript) (tree : FileTree) :
    let run := Generation.run options input.rootName value namespaceText Watch.never Sink.memory {}
    Ends (generatePrinted options input value namespaceText) transcript tree
      (plainly (run.1.result.map fun _ => ()))
      (match run.1.result with
        | .error _ => transcript.output
        | .ok _ => transcript.output ++ printed run.2.files)
      tree := by
  intro run
  have hrun : (generatePrinted options input value namespaceText : Scene _) =
      (do Console.log run.1.events
          match run.1.result with
          | .error failure => return plainly (.error failure)
          | .ok report =>
              Console.print (printed run.2.files)
              warn report.diagnostics
              return .ok ()) := rfl
  rw [hrun]
  refine (ends_log _ _ _).bind fun told htold => ?_
  rw [← htold]
  cases run.1.result with
  | error failure => exact ends_pure _ _ _
  | ok report =>
      refine (ends_print _ _ _).bind fun told htold => ?_
      rw [← htold]
      exact (ends_warn _ _ _).bind fun told htold => htold ▸ ends_pure _ _ _

/-- The sources of a document are written as by a run into the directory. -/
theorem generateInto_ends (out : String) (options : Options) (input : InputChoice) (value : Value)
    (namespaceText : String) (transcript : Transcript) (tree : FileTree) :
    let run := Generation.run options input.rootName value namespaceText Watch.never Sink.onTree
      { root := ⟨out⟩ } tree
    Ends (generateInto out options input value namespaceText) transcript tree
      (plainly (run.1.1.result.map fun _ => ())) transcript.output run.2 := by
  intro run
  refine ((lifts_run _ _ _).ends transcript tree).bind fun told htold => ?_
  rw [← htold]
  change Ends (do
    Console.log run.1.1.events
    match run.1.1.result with
    | .error failure => return plainly (.error failure)
    | .ok report =>
        Console.note ("generated " ++ toString report.classes.length ++ " classes into " ++ out
          ++ "\n")
        warn report.diagnostics
        return .ok ()) _ _ _ _ _
  refine (ends_log _ _ _).bind fun told htold => ?_
  rw [← htold]
  cases run.1.1.result with
  | error failure => exact ends_pure _ _ _
  | ok report =>
      refine (ends_note _ _ _).bind fun told htold => ?_
      rw [← htold]
      exact (ends_warn _ _ _).bind fun told htold => htold ▸ ends_pure _ _ _

/-! ## No leaks -/

theorem leakless_generatePrinted (options : Options) (input : InputChoice) (value : Value)
    (namespaceText : String) : Leakless (generatePrinted options input value namespaceText) := by
  intro transcript tree
  refine ⟨_, _, _, generatePrinted_ends options input value namespaceText transcript tree, ?_⟩
  cases (Generation.run options input.rootName value namespaceText Watch.never
    Sink.memory {}).1.result with
  | error failure => exact fun _ _ => ⟨rfl, .inl rfl⟩
  | ok report => exact fun _ h => nomatch h

theorem leakless_generateInto (out : String) (options : Options) (input : InputChoice)
    (value : Value) (namespaceText : String) :
    Leakless (generateInto out options input value namespaceText) := by
  intro transcript tree
  refine ⟨_, _, _, generateInto_ends out options input value namespaceText transcript tree, ?_⟩
  rintro complaint h
  refine ⟨rfl, ?_⟩
  rw [Generation.run] at h ⊢
  cases hmade : (sources options input.rootName value namespaceText Watch.never).result with
  | error failure =>
      rw [deliver_onTree_of_error hmade]
      exact .inl rfl
  | ok made =>
      have hfails := Sink.failsWith_deliver made.2 { root := ⟨out⟩ } tree
      rw [deliver_onTree_of_ok hmade, delivered_result] at h
      cases hanswer : (Sink.onTree.deliver made.2 { root := ⟨out⟩ } tree).1.1 with
      | error failure =>
          rw [hanswer] at h
          cases h
          exact .inr (.sources (hfails failure hanswer))
      | ok done =>
          rw [hanswer] at h
          cases h

theorem writesOnly_pure (h : ∀ complaint, result = .error complaint → complaint.IsWriteFault) :
    WritesOnly (pure result) :=
  fun transcript tree => ⟨_, _, ends_pure result transcript tree, h⟩

theorem Lifts.writesOnly_bind {α : Type} {first : Scene α} {plain : StateM FileTree α}
    {second : α → Scene (Except Complaint Unit)} (hfirst : Lifts first plain)
    (hsecond : ∀ value, WritesOnly (second value)) : WritesOnly (first >>= second) := by
  intro transcript tree
  obtain ⟨result, after, hends, hfault⟩ := hsecond (plain tree).1 transcript (plain tree).2
  refine ⟨result, after, ?_, hfault⟩
  obtain ⟨told, hrun, htold⟩ := hends
  refine ⟨told, ?_, htold⟩
  rw [run_bind, hfirst]
  exact hrun

theorem writesOnly_writeFile (path : Path) (text : String) : WritesOnly (writeFile path text) := by
  have hwrite : Lifts (Disk.writeText path text) (Disk.writeText path text) := fun _ _ => rfl
  have hlast : WritesOnly (do
      return (← Disk.writeText path text).mapError (.file ("failed to write " ++ path.text))) := by
    refine hwrite.writesOnly_bind fun wrote => writesOnly_pure fun complaint h => ?_
    cases wrote <;> cases h
    exact .file path _
  unfold writeFile
  cases path.parent? with
  | none => exact hlast
  | some parent =>
      refine (lifts_createDirectories parent).writesOnly_bind fun created => ?_
      cases created with
      | error fault => exact writesOnly_pure fun _ h => by cases h; exact .directory parent fault
      | ok _ => exact hlast

theorem leakless_showModel (jq : Jq) (options : Options) (input : InputChoice)
    (out : Option String) : Leakless (showModel jq options input out) := by
  refine (onlyReads_load jq input).leakless_bind fun loaded => ?_
  cases loaded with
  | error complaint => exact leakless_pure _
  | ok value =>
      refine Leakless.bind (fun _ _ => ⟨_, ends_log _ _ _⟩) fun _ => ?_
      cases (Generation.model options input.rootName value Watch.never).result with
      | error failure => exact leakless_pure _
      | ok model =>
          cases out with
          | some path => exact (writesOnly_writeFile _ _).leakless
          | none => exact leakless_print _

theorem leakless_generate (jq : Jq) (emit : EmitChoice) (options : Options) (input : InputChoice)
    (namespaceText : String) : Leakless (emit.generate jq options input namespaceText) := by
  refine (onlyReads_load jq input).leakless_bind fun loaded => ?_
  cases loaded with
  | error complaint => exact leakless_pure _
  | ok value =>
      cases emit.out with
      | none => exact leakless_generatePrinted options input value namespaceText
      | some out => exact leakless_generateInto out options input value namespaceText

theorem leakless_perform (jq : Jq) (command : Command) : Leakless (command.perform jq) := by
  refine (onlyReads_options command).leakless_bind fun resolved => ?_
  cases resolved with
  | error complaint => exact leakless_pure _
  | ok options =>
      cases command with
      | model input _ out _ => exact leakless_showModel jq options input out
      | java input emit packageName _ => exact leakless_generate jq emit options input packageName
      | rust input emit modulePath => exact leakless_generate jq emit options input modulePath

/-! ## Commands that make sources -/

/-- The commands that make sources: of which document, what becomes of them, and in which
namespace. -/
inductive Command.Makes : Command → InputChoice → EmitChoice → String → Prop where
  | java (input : InputChoice) (emit : EmitChoice) (packageName : String) (alwaysExpose : Bool) :
      Makes (.java input emit packageName alwaysExpose) input emit packageName
  | rust (input : InputChoice) (emit : EmitChoice) (modulePath : String) :
      Makes (.rust input emit modulePath) input emit modulePath

/-- The same command, told to write into a directory. -/
def Command.into (directory : String) : Command → Command
  | .model input options _ noOp => .model input options (some directory) noOp
  | .java input emit packageName alwaysExpose =>
      .java input { emit with out := some directory } packageName alwaysExpose
  | .rust input emit modulePath => .rust input { emit with out := some directory } modulePath

def Invocation.into (directory : String) (invocation : Invocation) : Invocation :=
  { invocation with command := invocation.command.into directory }

theorem Command.isNoOp_into (command : Command) (directory : String) :
    (command.into directory).isNoOp = command.isNoOp := by
  cases command <;> rfl

theorem Command.Makes.into (h : command.Makes input emit namespaceText) (directory : String) :
    (command.into directory).Makes input { emit with out := some directory } namespaceText := by
  cases h <;> constructor

theorem Command.Makes.options_into (h : command.Makes input emit namespaceText)
    (directory : String) : ((command.into directory).options : Scene _) = command.options := by
  cases h <;> rfl

theorem Command.Makes.perform_eq (h : command.Makes input emit namespaceText) (jq : Jq) :
    (command.perform jq : Scene _) = (do
      match ← command.options with
      | .error complaint => return .error complaint
      | .ok options => emit.generate jq options input namespaceText) := by
  cases h <;> rfl

section Ends

variable {complaint : Complaint} (h : command.Makes input emit namespaceText)

include h

theorem perform_ends_without_options
    (hoptions : seen command.options transcript tree = .error complaint) :
    Ends (command.perform jq) transcript tree (.error complaint) transcript.output tree := by
  rw [h.perform_eq]
  refine (onlyReads_options command).ends_bind ?_
  rw [hoptions]
  exact ends_pure _ _ _

/-- With its options, a command ends as the making of its sources does. -/
theorem perform_ends_generate (hoptions : seen command.options transcript tree = .ok options)
    (hgenerate : Ends (emit.generate jq options input namespaceText) transcript tree result output
      after) :
    Ends (command.perform jq) transcript tree result output after := by
  rw [h.perform_eq]
  refine (onlyReads_options command).ends_bind ?_
  rw [hoptions]
  exact hgenerate

theorem perform_ends_without_document
    (hoptions : seen command.options transcript tree = .ok options)
    (hload : seen (input.load jq) transcript tree = .error complaint) :
    Ends (command.perform jq) transcript tree (.error complaint) transcript.output tree := by
  refine perform_ends_generate h hoptions ((onlyReads_load jq input).ends_bind ?_)
  rw [hload]
  exact ends_pure _ _ _

/-- What a command prints is what a run on its document keeps in memory. -/
theorem perform_ends_printed (hout : emit.out = none)
    (hoptions : seen command.options transcript tree = .ok options)
    (hload : seen (input.load jq) transcript tree = .ok value) :
    let run := run options input.rootName value namespaceText Watch.never Sink.memory {}
    Ends (command.perform jq) transcript tree (plainly (run.1.result.map fun _ => ()))
      (match run.1.result with
        | .error _ => transcript.output
        | .ok _ => transcript.output ++ printed run.2.files)
      tree := by
  intro run
  refine perform_ends_generate h hoptions ((onlyReads_load jq input).ends_bind ?_)
  rw [hload, hout]
  exact generatePrinted_ends options input value namespaceText transcript tree

/-- What a command writes is what a run on its document writes below the directory. -/
theorem perform_ends_into {out : String} (hout : emit.out = some out)
    (hoptions : seen command.options transcript tree = .ok options)
    (hload : seen (input.load jq) transcript tree = .ok value) :
    let run := run options input.rootName value namespaceText Watch.never Sink.onTree
      { root := ⟨out⟩ } tree
    Ends (command.perform jq) transcript tree (plainly (run.1.1.result.map fun _ => ()))
      transcript.output run.2 := by
  intro run
  refine perform_ends_generate h hoptions ((onlyReads_load jq input).ends_bind ?_)
  rw [hload, hout]
  exact generateInto_ends out options input value namespaceText transcript tree

/-- A command that ends well has its options and its document. -/
theorem exists_of_perform_ok
    (hends : Ends (command.perform jq) transcript tree (.ok ()) output after) :
    ∃ options value, seen command.options transcript tree = .ok options ∧
      seen (input.load jq) transcript tree = .ok value := by
  cases hoptions : seen command.options transcript tree with
  | error complaint => cases (hends.unique (perform_ends_without_options h hoptions)).1
  | ok options =>
      cases hload : seen (input.load jq) transcript tree with
      | error complaint =>
          cases (hends.unique (perform_ends_without_document h hoptions hload)).1
      | ok value => exact ⟨options, value, rfl, rfl⟩

end Ends

end CommandLine

end Exemplar
