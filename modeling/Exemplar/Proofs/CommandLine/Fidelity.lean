import Exemplar.CommandLine.Reader
import Exemplar.Proofs.CommandLine.Endings
import Exemplar.Proofs.Source.LastLines

/-!
# What commands print and write

A command that fails leaves no trace, unless it fails in writing what it has made.  One that makes
sources and prints them prints those of a run on its document, each under its path and with an empty
line between two, and told to write them it writes the same ones.  Where nothing selects a part of
the document, it ends as the run on the text does.  Only a command that is merely shown does none of
this.
-/

namespace Exemplar

open Json

namespace CommandLine

open Generation

variable {jq : Jq} {invocation : Invocation} {command : Command} {input : InputChoice}
  {emit : EmitChoice} {options : Options} {namespaceText : String} {value : Value}
  {transcript : Transcript} {tree : FileTree} {result : Except Complaint Unit} {output : String}
  {after : FileTree} {files : List SourceFile}

/-! ## What is printed would be written -/

/-- How a command that makes sources ends if it prints some files.  They are those of a run on its
document; and wherever their paths go down and all writes succeed, the command writes them if it is
told to write into a directory. -/
structure Prints (jq : Jq) (invocation : Invocation) (input : InputChoice) (namespaceText : String)
    (transcript : Transcript) (tree : FileTree) (output : String) (after : FileTree)
    (files : List SourceFile) : Prop where
  kept : after = tree
  printed : output = transcript.output ++ "\n".intercalate (files.map fileText)
  /-- So there is one empty line between two files. -/
  lines : ∀ file ∈ files, Source.EndsWithLine file.source
  made : ∃ options value model,
    seen invocation.command.options transcript tree = .ok options ∧
    seen (input.load jq) transcript tree = .ok value ∧
    (sources options input.rootName value namespaceText Watch.never).result = .ok (model, files)
  written : (∀ file ∈ files, Path.GoesDown file.path.text) → ∀ directory noted grown,
    Sink.onTree.writeAll files { root := ⟨directory⟩ } tree = ((.ok (), noted), grown) →
      Ends ((invocation.into directory).run jq) transcript tree (.ok ()) transcript.output grown ∧
      WritesExactly ⟨directory⟩ files tree grown ∧
      ∀ file ∈ files, ∃ below, below ≠ [] ∧
        ((⟨directory⟩ : Exemplar.Path).join file.path).place tree.workingDirectory =
          (⟨directory⟩ : Exemplar.Path).place tree.workingDirectory ++ below

theorem run_eq_perform (hshown : invocation.command.isNoOp = false) :
    (invocation.run jq : Scene _) = invocation.command.perform jq := by
  rw [Invocation.run, if_neg (by rw [hshown]; exact Bool.false_ne_true)]

/-- A command that is told to write into a directory succeeds if all writes do. -/
theorem perform_into_ends {model : Model} {directory : String} {noted : Directory}
    (h : command.Makes input emit namespaceText)
    (hoptions : seen command.options transcript tree = .ok options)
    (hload : seen (input.load jq) transcript tree = .ok value)
    (hsources : (sources options input.rootName value namespaceText Watch.never).result =
      .ok (model, files))
    (hwrites : Sink.onTree.writeAll files { root := ⟨directory⟩ } tree = ((.ok (), noted), after)) :
    Ends ((command.into directory).perform jq) transcript tree (.ok ()) transcript.output
      after := by
  rw [← h.options_into directory] at hoptions
  have hends := perform_ends_into (h.into directory) rfl hoptions hload
  rw [run, deliver_onTree_of_ok hsources, Sink.deliver_run, hwrites] at hends
  exact hends

theorem prints_of_run_ok (hmakes : invocation.command.Makes input emit namespaceText)
    (hshown : invocation.command.isNoOp = false) (hout : emit.out = none)
    (h : Ends (invocation.run jq) transcript tree (.ok ()) output after) :
    ∃ files, Prints jq invocation input namespaceText transcript tree output after files := by
  rw [run_eq_perform hshown] at h
  obtain ⟨options, value, hoptions, hload⟩ := exists_of_perform_ok hmakes h
  obtain ⟨hresult, hprinted, hafter⟩ :=
    h.unique (perform_ends_printed hmakes hout hoptions hload)
  cases hsources :
      (sources options input.rootName value namespaceText Watch.never).result with
  | error failure =>
      rw [run, deliver_of_error hsources] at hresult
      cases hresult
  | ok pair =>
      obtain ⟨model, files⟩ := pair
      have hmade := made_of_sources hsources
      obtain ⟨hreport, hfiles⟩ := run_memory hsources
      rw [hreport, hfiles, printed_eq] at hprinted
      refine ⟨files, ?_⟩
      constructor
      case kept => exact hafter
      case printed => exact hprinted
      case lines => exact Source.endsWithLine_of_emit hmade.inhabited hmade.emitted
      case made => exact ⟨options, value, model, hoptions, hload, hsources⟩
      case written =>
        intro hbelow directory noted grown hwrites
        have hshownInto : (invocation.into directory).command.isNoOp = false :=
          (Command.isNoOp_into invocation.command directory).trans hshown
        have hplaces := Source.places_differ hmade.plain hmade.distinct hmade.emitted hbelow
          ⟨directory⟩ tree.workingDirectory
        refine ⟨?_, ?_, fun file hfile =>
          Source.below_root hmade.plain hmade.emitted hfile (hbelow file hfile) _ _⟩
        · rw [run_eq_perform hshownInto]
          exact perform_into_ends hmakes hoptions hload hsources hwrites
        · refine Sink.writesExactly_writeAll ?_ hwrites
          exact hplaces

/-! ## A command on a whole text -/

/-- A text is parsed to the document that a run reads in it. -/
theorem parse_eq_ok_iff {text : String} :
    input.parse text = .ok value ↔ readDocument text = .ok value := by
  rw [InputChoice.parse, readDocument]
  split
  · constructor <;> intro h <;> cases h
  · cases parse text with
    | error fault => constructor <;> intro h <;> cases h
    | ok document =>
        change Except.ok document = .ok value ↔ Except.ok document = .ok value
        rw [Except.ok.injEq, Except.ok.injEq]

theorem select_of_whole (hpointer : input.jsonPointer = none) (hquery : input.jqExpr = none)
    (jq : Jq) (text : String) : input.select jq text = input.parse text := by
  rw [InputChoice.select]
  cases input.parse text with
  | error complaint => rfl
  | ok document =>
      change (do input.filter jq (← input.point document)) = .ok document
      rw [InputChoice.point, hpointer]
      change input.filter jq document = .ok document
      rw [InputChoice.filter, hquery]

/-- How a command that makes sources of a whole text stands to the runs on that text. -/
structure Agrees (command : Command) (input : InputChoice) (emit : EmitChoice)
    (namespaceText : String) (transcript : Transcript) (tree : FileTree)
    (result : Except Complaint Unit) (output : String) (after : FileTree) : Prop where
  reads : result = .ok () → ∃ options text,
    seen command.options transcript tree = .ok options ∧
    seen input.readText transcript tree = .ok text
  printed : emit.out = none → ∀ options text,
    seen command.options transcript tree = .ok options →
    seen input.readText transcript tree = .ok text →
      let run := runText options input.rootName text namespaceText Watch.never Sink.memory {}
      (result = .ok () ↔ ∃ report, run.1.result = .ok report) ∧
      (result = .ok () →
        output = transcript.output ++ "\n".intercalate (run.2.files.map fileText))
  written : ∀ out, emit.out = some out → ∀ options text,
    seen command.options transcript tree = .ok options →
    seen input.readText transcript tree = .ok text →
      let run := runText options input.rootName text namespaceText Watch.never Sink.onTree
        { root := ⟨out⟩ } tree
      (result = .ok () ↔ ∃ report, run.1.1.result = .ok report) ∧ after = run.2

theorem seen_load_of_whole {text : String} (hpointer : input.jsonPointer = none)
    (hquery : input.jqExpr = none) (htext : seen input.readText transcript tree = .ok text)
    (jq : Jq) : seen (input.load jq) transcript tree = input.parse text := by
  rw [seen_load, htext, ← select_of_whole hpointer hquery jq]
  rfl

section Text

variable {text : String} (hmakes : command.Makes input emit namespaceText)
  (hpointer : input.jsonPointer = none) (hquery : input.jqExpr = none)
  (hoptions : seen command.options transcript tree = .ok options)
  (htext : seen input.readText transcript tree = .ok text)

include hmakes hpointer hquery hoptions htext

/-- Where the text is no document, the command fails and changes nothing. -/
theorem perform_ends_without_read {failure : Failure}
    (hread : readDocument text = .error failure) :
    ∃ complaint,
      Ends (command.perform jq) transcript tree (.error complaint) transcript.output tree := by
  have hload := seen_load_of_whole hpointer hquery htext jq
  cases hparse : input.parse text with
  | error complaint =>
      exact ⟨complaint, perform_ends_without_document hmakes hoptions (hload.trans hparse)⟩
  | ok value =>
      rw [parse_eq_ok_iff, hread] at hparse
      cases hparse

/-- What a command prints of a text is what the run on the text keeps in memory. -/
theorem perform_text_printed (hout : emit.out = none)
    (h : Ends (command.perform jq) transcript tree result output after) :
    let run := runText options input.rootName text namespaceText Watch.never Sink.memory {}
    (result = .ok () ↔ ∃ report, run.1.result = .ok report) ∧
      (result = .ok () →
        output = transcript.output ++ "\n".intercalate (run.2.files.map fileText)) := by
  have hload := seen_load_of_whole hpointer hquery htext jq
  cases hread : readDocument text with
  | error failure =>
      obtain ⟨complaint, hfails⟩ :=
        perform_ends_without_read hmakes hpointer hquery hoptions htext hread
      obtain ⟨rfl, -, -⟩ := h.unique hfails
      obtain ⟨other, hsources⟩ :=
        sourcesOfText_fails options input.rootName namespaceText Watch.never hread
      rw [runText, deliver_of_error hsources]
      simp
  | ok value =>
      rw [parse_eq_ok_iff.2 hread] at hload
      obtain ⟨hresult, hprinted, -⟩ := h.unique (perform_ends_printed hmakes hout hoptions hload)
      obtain ⟨hsame, hfiles⟩ := runText_memory_of_read options input.rootName namespaceText
        Watch.never hread {}
      rw [← hsame] at hresult hprinted
      rw [← hfiles] at hprinted
      refine ⟨hresult ▸ plainly_eq_ok_iff, fun hok => ?_⟩
      obtain ⟨report, hreport⟩ := plainly_eq_ok_iff.1 (hresult.symm.trans hok)
      rw [hreport] at hprinted
      rw [hprinted, printed_eq]

/-- What a command writes of a text is what the run on the text writes below the directory. -/
theorem perform_text_into {out : String} (hout : emit.out = some out)
    (h : Ends (command.perform jq) transcript tree result output after) :
    let run := runText options input.rootName text namespaceText Watch.never Sink.onTree
      { root := ⟨out⟩ } tree
    (result = .ok () ↔ ∃ report, run.1.1.result = .ok report) ∧ after = run.2 := by
  have hload := seen_load_of_whole hpointer hquery htext jq
  cases hread : readDocument text with
  | error failure =>
      obtain ⟨complaint, hfails⟩ :=
        perform_ends_without_read hmakes hpointer hquery hoptions htext hread
      obtain ⟨rfl, -, rfl⟩ := h.unique hfails
      obtain ⟨other, hsources⟩ :=
        sourcesOfText_fails options input.rootName namespaceText Watch.never hread
      rw [runText, deliver_onTree_of_error hsources]
      simp
  | ok value =>
      rw [parse_eq_ok_iff.2 hread] at hload
      obtain ⟨hresult, -, rfl⟩ := h.unique (perform_ends_into hmakes hout hoptions hload)
      obtain ⟨hsame, htree⟩ := runText_onTree_of_read options input.rootName namespaceText
        Watch.never hread { root := ⟨out⟩ } tree
      rw [← hsame] at hresult
      exact ⟨hresult ▸ plainly_eq_ok_iff, htree.symm⟩

end Text

theorem agrees_of_perform (hmakes : command.Makes input emit namespaceText)
    (hpointer : input.jsonPointer = none) (hquery : input.jqExpr = none)
    (h : Ends (command.perform jq) transcript tree result output after) :
    Agrees command input emit namespaceText transcript tree result output after := by
  constructor
  case reads =>
    rintro rfl
    obtain ⟨options, value, hoptions, hload⟩ := exists_of_perform_ok hmakes h
    rw [seen_load] at hload
    obtain ⟨text, htext, -⟩ := bind_eq_ok hload
    exact ⟨options, text, hoptions, htext⟩
  case printed =>
    intro hout options text hoptions htext
    exact perform_text_printed hmakes hpointer hquery hoptions htext hout h
  case written =>
    intro out hout options text hoptions htext
    exact perform_text_into hmakes hpointer hquery hoptions htext hout h

/-! ## Runs of commands -/

theorem leakless_run (jq : Jq) (invocation : Invocation) : Leakless (invocation.run jq) := by
  cases hshown : invocation.command.isNoOp with
  | false =>
      rw [run_eq_perform hshown]
      exact leakless_perform jq invocation.command
  | true =>
      rw [Invocation.run, if_pos hshown]
      exact Leakless.bind (fun _ _ => ⟨_, ends_note _ _ _⟩) fun _ => leakless_pure _

/-- A command neither leaks parts of what it makes nor departs from a run.  Whatever it is, a
failure leaves the output alone, and the files too unless it is one in writing them.  A command that
is only shown succeeds and leaves both.  Any other that makes sources prints those of its document,
with an empty line between two, and would write the same ones; and without a pointer and a query it
succeeds exactly if the run on its text does, with the same files. -/
theorem run_faithful (jq : Jq) (invocation : Invocation) (transcript : Transcript)
    (tree : FileTree) :
    ∃ result output after,
      Ends (invocation.run jq) transcript tree result output after ∧
      LeaksNothing transcript tree result output after ∧
      (invocation.command.isNoOp = true →
        result = .ok () ∧ output = transcript.output ∧ after = tree) ∧
      (invocation.command.isNoOp = false → ∀ input emit namespaceText,
        invocation.command.Makes input emit namespaceText →
          (emit.out = none → result = .ok () →
            ∃ files, Prints jq invocation input namespaceText transcript tree output after files) ∧
          (input.jsonPointer = none → input.jqExpr = none →
            Agrees invocation.command input emit namespaceText transcript tree result output
              after)) := by
  obtain ⟨result, output, after, hends, hleaks⟩ := leakless_run jq invocation transcript tree
  refine ⟨result, output, after, hends, hleaks, ?_, ?_⟩
  · intro hshown
    have hnoted : Ends (invocation.run jq) transcript tree (.ok ()) transcript.output tree := by
      rw [Invocation.run, if_pos hshown]
      exact (ends_note _ _ _).bind fun told htold => htold ▸ ends_pure _ _ _
    exact hends.unique hnoted
  · intro hshown input emit namespaceText hmakes
    constructor
    · rintro hout rfl
      exact prints_of_run_ok hmakes hshown hout hends
    · intro hpointer hquery
      rw [run_eq_perform hshown] at hends
      exact agrees_of_perform hmakes hpointer hquery hends

/-- A document of one member. -/
def shortText : String :=
  "\x7b\"a\": 1\x7d"

def shortInput : Transcript where
  input := shortText.toUTF8

def shortTree : FileTree where
  workingDirectory := ["home"]
  nodes := [(["home"], .directory)]

theorem readText_shortInput :
    seen (InputChoice.readText ⟨"-", none, none, "Root"⟩) shortInput shortTree = .ok shortText := by
  have htext : textOf shortInput.input = .ok shortText := textOf_toUTF8 shortText
  change (textOf shortInput.input).mapError (.file "failed to read stdin") = .ok shortText
  rw [htext]
  rfl

def shortInvocation : Invocation :=
  ⟨false, .rust ⟨"-", none, none, "Root"⟩ ⟨⟨none, none⟩, false, none, false⟩ ""⟩

/-- Queries that give back the document. -/
def identity : Jq := fun _ value => .ok value

theorem run_faithful_short :
    Invocation.ofArguments ["rust", "-i", "-"] = .ok shortInvocation ∧
      ∃ input emit output after files,
        shortInvocation.command.Makes input emit "" ∧
        Ends (shortInvocation.run identity) shortInput shortTree (.ok ()) output after ∧
        Prints identity shortInvocation input "" shortInput shortTree output after files ∧
        Agrees shortInvocation.command input emit "" shortInput shortTree (.ok ()) output after ∧
        files.map (·.path.text) = ["root.rs", "mod.rs"] ∧
        ∃ grown,
          Ends ((shortInvocation.into "out").run identity) shortInput shortTree (.ok ()) "" grown ∧
          WritesExactly ⟨"out"⟩ files shortTree grown := by
  have hoptions : seen shortInvocation.command.options shortInput shortTree =
      .ok { target := .rust } := rfl
  have hreport : (runText { target := .rust } "Root" shortText "" Watch.never
      Sink.memory {}).1.result = .ok ⟨["Root"], []⟩ := by
    decide +kernel
  have hpaths : (sourcesOfText { target := .rust } "Root" shortText "" Watch.never).result.map
      (fun made => made.2.map (·.path.text)) = .ok ["root.rs", "mod.rs"] := by
    decide +kernel
  have hwrites : (sourcesOfText { target := .rust } "Root" shortText "" Watch.never).result.map
      (fun made => (Sink.onTree.writeAll made.2 { root := ⟨"out"⟩ } shortTree).1.1) =
        .ok (.ok ()) := by
    decide +kernel
  refine ⟨by decide +kernel, ?_⟩
  obtain ⟨result, output, after, hends, -, -, hmakes⟩ :=
    run_faithful identity shortInvocation shortInput shortTree
  obtain ⟨hprints, hagrees⟩ := hmakes rfl _ _ _ (.rust _ _ _)
  have hagreed := hagrees rfl rfl
  obtain ⟨hiff, -⟩ := hagreed.printed rfl _ _ hoptions readText_shortInput
  -- The name of the root is put in place before its run is compared with the one above.
  dsimp only at hiff
  obtain rfl : result = .ok () := hiff.2 ⟨_, hreport⟩
  obtain ⟨files, hprinted⟩ := hprints rfl rfl
  obtain ⟨options, value, model, hresolved, hload, hsources⟩ := hprinted.made
  cases hoptions.symm.trans hresolved
  rw [seen_load_of_whole rfl rfl readText_shortInput, parse_eq_ok_iff] at hload
  rw [← sourcesOfText_result_of_read hload] at hsources
  dsimp only at hsources
  rw [hsources] at hpaths hwrites
  have hpaths : files.map (·.path.text) = ["root.rs", "mod.rs"] := Except.ok.inj hpaths
  have hbelow : ∀ file ∈ files, Path.GoesDown file.path.text := by
    have hnames : ∀ text ∈ files.map (·.path.text), Path.GoesDown text := by
      rw [hpaths]
      decide
    exact fun file hfile => hnames _ (List.mem_map_of_mem hfile)
  rcases hwritten : Sink.onTree.writeAll files { root := ⟨"out"⟩ } shortTree with
    ⟨⟨answer, noted⟩, grown⟩
  rw [Except.map, hwritten] at hwrites
  cases hwrites
  obtain ⟨hinto, hexactly, -⟩ := hprinted.written hbelow _ _ _ hwritten
  exact ⟨_, _, output, after, files, .rust _ _ _, hends, hprinted, hagreed, hpaths, grown, hinto,
    hexactly⟩

theorem printed_ne_empty (h : files ≠ []) : printed files ≠ "" := by
  match files with
  | [] => exact absurd rfl h
  | [file] => simp [printed]
  | file :: next :: rest => simp [printed]

/-- A command that prints sources prints something. -/
theorem Prints.output_ne
    (h : Prints jq invocation input namespaceText transcript tree output after files) :
    output ≠ transcript.output := by
  obtain ⟨options, value, model, -, -, hsources⟩ := h.made
  intro hsame
  have hnothing : transcript.output ++ CommandLine.printed files = transcript.output ++ "" := by
    rw [printed_eq, ← h.printed, hsame, String.append_empty]
  exact printed_ne_empty (made_of_sources hsources).files_ne_nil
    ((String.append_right_inj _).1 hnothing)

/-- A command that is only shown ends well and prints none of its sources. -/
theorem shown_prints_nothing :
    ∃ invocation input emit,
      Invocation.ofArguments ["java", "-i", "-", "--no-op"] = .ok invocation ∧
      invocation.command.Makes input emit "" ∧ emit.out = none ∧
      Ends (invocation.run identity) shortInput shortTree (.ok ()) "" shortTree ∧
      ∀ files, ¬ Prints identity invocation input "" shortInput shortTree "" shortTree files :=
  ⟨⟨false, .java ⟨"-", none, none, "Root"⟩ ⟨⟨none, none⟩, false, none, true⟩ "" false⟩, _, _,
    by decide +kernel, .java _ _ _ _, rfl, ⟨_, rfl, rfl⟩, fun _ h => h.output_ne rfl⟩

end CommandLine

end Exemplar
