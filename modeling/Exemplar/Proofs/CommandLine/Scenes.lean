import Exemplar.CommandLine.Run
import Exemplar.Disk.FileTree

/-!
# Commands with streams and files as values

A command that is run on a transcript and a file tree leaves both behind.  Of what it is made of,
some actions only read and leave both as they are; others do to the files what they do without any
streams; and notes and events add nothing to the output.
-/

namespace Exemplar.CommandLine

open Json

/-- Commands whose streams and files are values. -/
abbrev Scene := StateT Transcript (StateM FileTree)

section

variable {α β : Type} {transcript : Transcript} {tree : FileTree}

theorem run_bind (first : Scene α) (second : α → Scene β) (transcript : Transcript)
    (tree : FileTree) :
    (first >>= second) transcript tree =
      second (first transcript tree).1.1 (first transcript tree).1.2 (first transcript tree).2 :=
  rfl

/-! ## Actions that only read -/

/-- What an action gives. -/
def seen (action : Scene α) (transcript : Transcript) (tree : FileTree) : α :=
  (action transcript tree).1.1

/-- Whether an action leaves streams and files as they are. -/
def OnlyReads (action : Scene α) : Prop :=
  ∀ transcript tree, action transcript tree = ((seen action transcript tree, transcript), tree)

theorem onlyReads_pure (value : α) : OnlyReads (pure value) := fun _ _ => rfl

theorem OnlyReads.run_bind {first : Scene α} (h : OnlyReads first) (second : α → Scene β)
    (transcript : Transcript) (tree : FileTree) :
    (first >>= second) transcript tree = second (seen first transcript tree) transcript tree := by
  rw [CommandLine.run_bind, h]

theorem OnlyReads.map {action : Scene α} (h : OnlyReads action) (view : α → β) :
    OnlyReads (do return view (← action)) := by
  intro transcript tree
  rw [seen, h.run_bind]
  rfl

/-! ## Actions on files alone -/

/-- Whether an action does to the files what another one does, and nothing to the streams. -/
def Lifts (action : Scene α) (plain : StateM FileTree α) : Prop :=
  ∀ transcript tree, action transcript tree = (((plain tree).1, transcript), (plain tree).2)

theorem lifts_pure (value : α) : Lifts (pure value) (pure value) := fun _ _ => rfl

theorem Lifts.bind {first : Scene α} {plain : StateM FileTree α} {second : α → Scene β}
    {plainSecond : α → StateM FileTree β} (hfirst : Lifts first plain)
    (hsecond : ∀ value, Lifts (second value) (plainSecond value)) :
    Lifts (first >>= second) (plain >>= plainSecond) := by
  intro transcript tree
  rw [run_bind, hfirst, hsecond]
  rfl

/-- The same with a sink that writes below a directory in between. -/
theorem Lifts.bind_directory {first : StateT Directory Scene α}
    {plain : StateT Directory (StateM FileTree) α} {second : α → StateT Directory Scene β}
    {plainSecond : α → StateT Directory (StateM FileTree) β} {directory : Directory}
    (hfirst : Lifts (first directory) (plain directory))
    (hsecond : ∀ value noted, Lifts (second value noted) (plainSecond value noted)) :
    Lifts ((first >>= second) directory) ((plain >>= plainSecond) directory) :=
  hfirst.bind fun made => hsecond made.1 made.2

theorem Lifts.ite {condition : Prop} [Decidable condition] {first second : Scene α}
    {plainFirst plainSecond : StateM FileTree α} (hfirst : Lifts first plainFirst)
    (hsecond : Lifts second plainSecond) :
    Lifts (if condition then first else second)
      (if condition then plainFirst else plainSecond) := by
  split
  · exact hfirst
  · exact hsecond

/-! ## What an action ends with -/

/-- An action ends with a value, with an output so far, and with a tree. -/
def Ends (action : Scene α) (transcript : Transcript) (tree : FileTree) (value : α)
    (output : String) (after : FileTree) : Prop :=
  ∃ told, action transcript tree = ((value, told), after) ∧ told.output = output

theorem ends_pure (value : α) (transcript : Transcript) (tree : FileTree) :
    Ends (pure value) transcript tree value transcript.output tree :=
  ⟨transcript, rfl, rfl⟩

theorem Ends.unique {action : Scene α} {value other : α} {output otherOutput : String}
    {after otherAfter : FileTree} (h : Ends action transcript tree value output after)
    (hother : Ends action transcript tree other otherOutput otherAfter) :
    value = other ∧ output = otherOutput ∧ after = otherAfter := by
  obtain ⟨told, hrun, rfl⟩ := h
  obtain ⟨otherTold, hotherRun, rfl⟩ := hother
  cases hrun.symm.trans hotherRun
  exact ⟨rfl, rfl, rfl⟩

theorem Ends.bind {first : Scene α} {second : α → Scene β} {value : α} {result : β}
    {output final : String} {middle after : FileTree}
    (hfirst : Ends first transcript tree value output middle)
    (hsecond : ∀ told : Transcript, told.output = output →
      Ends (second value) told middle result final after) :
    Ends (first >>= second) transcript tree result final after := by
  obtain ⟨told, hrun, htold⟩ := hfirst
  obtain ⟨last, hlast, hfinal⟩ := hsecond told htold
  refine ⟨last, ?_, hfinal⟩
  rw [run_bind, hrun]
  exact hlast

theorem OnlyReads.ends_bind {first : Scene α} (h : OnlyReads first) {second : α → Scene β}
    {result : β} {output : String} {after : FileTree}
    (hsecond : Ends (second (seen first transcript tree)) transcript tree result output after) :
    Ends (first >>= second) transcript tree result output after := by
  obtain ⟨told, hrun, htold⟩ := hsecond
  exact ⟨told, (h.run_bind second transcript tree).trans hrun, htold⟩

theorem Lifts.ends {action : Scene α} {plain : StateM FileTree α} (h : Lifts action plain)
    (transcript : Transcript) (tree : FileTree) :
    Ends action transcript tree (plain tree).1 transcript.output (plain tree).2 :=
  ⟨transcript, h transcript tree, rfl⟩

theorem ends_log (events : List Event) (transcript : Transcript) (tree : FileTree) :
    Ends (Console.log events) transcript tree () transcript.output tree :=
  ⟨_, rfl, rfl⟩

theorem ends_note (text : String) (transcript : Transcript) (tree : FileTree) :
    Ends (Console.note text) transcript tree () transcript.output tree :=
  ⟨_, rfl, rfl⟩

theorem ends_print (text : String) (transcript : Transcript) (tree : FileTree) :
    Ends (Console.print text) transcript tree () (transcript.output ++ text) tree :=
  ⟨_, rfl, rfl⟩

theorem ends_warn (diagnostics : List Diagnostic) (transcript : Transcript) (tree : FileTree) :
    Ends (warn diagnostics) transcript tree () transcript.output tree := by
  unfold warn
  split
  · exact ends_pure _ _ _
  · exact ends_note _ _ _

end

/-! ## What a command reads -/

theorem textOf_toUTF8 (text : String) : textOf text.toUTF8 = .ok text := by
  have hvalid : text.toUTF8.IsValidUTF8 := text.isValidUTF8
  rw [textOf, String.fromUTF8?, dif_pos hvalid]
  rfl

theorem onlyReads_readText (input : InputChoice) : OnlyReads input.readText := by
  have hconsole : OnlyReads Console.readInput := fun _ _ => rfl
  have hdisk : OnlyReads (Disk.readText ⟨input.file⟩) := fun _ _ => rfl
  unfold InputChoice.readText
  split
  · exact hconsole.map _
  · exact hdisk.map _

theorem onlyReads_load (jq : Jq) (input : InputChoice) : OnlyReads (input.load jq) :=
  (onlyReads_readText input).map _

theorem seen_load (jq : Jq) (input : InputChoice) (transcript : Transcript) (tree : FileTree) :
    seen (input.load jq) transcript tree =
      (seen input.readText transcript tree).bind (input.select jq) :=
  rfl

theorem onlyReads_resolve (choice : OptionChoice) (target : Target) :
    OnlyReads (choice.resolve target) := by
  unfold OptionChoice.resolve
  cases choice.config with
  | none => exact (onlyReads_pure _).map _
  | some path =>
      have hdisk : OnlyReads (Disk.readText ⟨path⟩) := fun _ _ => rfl
      exact (hdisk.map _).map _

theorem onlyReads_options (command : Command) : OnlyReads command.options := by
  cases command with
  | model input options out noOp => exact onlyReads_resolve options .java
  | java input emit packageName alwaysExpose =>
      exact ((onlyReads_resolve emit.options .java).map _).map _
  | rust input emit modulePath => exact (onlyReads_resolve emit.options .rust).map _

/-! ## What goes to the files -/

theorem lifts_createFirst : ∀ paths : List Path,
    Lifts (Disk.createFirst paths) (Disk.createFirst paths)
  | [] => lifts_pure _
  | path :: above => by
      have hmake : Lifts (Disk.makeDirectory path) (Disk.makeDirectory path) := fun _ _ => rfl
      have hcheck : Lifts (Disk.isDirectory path) (Disk.isDirectory path) := fun _ _ => rfl
      have hensure : Lifts (Disk.ensureDirectory path) (Disk.ensureDirectory path) := by
        refine hmake.bind fun made => ?_
        cases made with
        | ok _ => exact lifts_pure _
        | error fault => exact hcheck.bind fun _ => lifts_pure _
      unfold Disk.createFirst
      refine Lifts.ite (lifts_pure _) (hmake.bind fun made => ?_)
      cases made with
      | ok _ => exact lifts_pure _
      | error fault =>
          cases fault
          case notFound =>
            refine (lifts_createFirst above).bind fun created => ?_
            cases created with
            | error fault => exact lifts_pure _
            | ok _ => exact hensure
          all_goals exact hcheck.bind fun _ => lifts_pure _

theorem lifts_createDirectories (path : Path) :
    Lifts (Disk.createDirectories path) (Disk.createDirectories path) :=
  lifts_createFirst path.ancestors

theorem lifts_missing : ∀ paths : List Path,
    Lifts (Directory.missing paths) (Directory.missing paths)
  | [] => lifts_pure _
  | path :: above => by
      have hexists : Lifts (Disk.pathExists path) (Disk.pathExists path) := fun _ _ => rfl
      unfold Directory.missing
      refine Lifts.ite (lifts_pure _) (hexists.bind fun found => ?_)
      exact Lifts.ite (lifts_pure _) ((lifts_missing above).bind fun _ => lifts_pure _)

theorem lifts_missingDirectories (path : Path) :
    Lifts (Directory.missingDirectories path) (Directory.missingDirectories path) := by
  unfold Directory.missingDirectories
  cases path.parent? with
  | none => exact lifts_pure _
  | some parent => exact (lifts_missing parent.ancestors).bind fun _ => lifts_pure _

theorem lifts_writeFile (path : Path) (source : String) :
    Lifts (Directory.writeFile path source) (Directory.writeFile path source) := by
  have hwrite : Lifts (Disk.writeText path source) (Disk.writeText path source) := fun _ _ => rfl
  have hparent : Lifts (Directory.createParent path) (Directory.createParent path) := by
    unfold Directory.createParent
    cases path.parent? with
    | none => exact lifts_pure _
    | some parent => exact (lifts_createDirectories parent).bind fun _ => lifts_pure _
  refine hparent.bind fun created => ?_
  cases created with
  | error failure => exact lifts_pure _
  | ok _ => exact hwrite.bind fun _ => lifts_pure _

theorem lifts_forM {Item : Type} {action : Item → Scene PUnit}
    {plain : Item → StateM FileTree PUnit} (h : ∀ item, Lifts (action item) (plain item)) :
    ∀ items : List Item, Lifts (items.forM action) (items.forM plain)
  | [] => lifts_pure _
  | item :: rest => (h item).bind fun _ => lifts_forM h rest

theorem lifts_rollBack (directory : Directory) :
    Lifts directory.rollBack directory.rollBack := by
  have hfile : ∀ path, Lifts (discard (Disk.removeFile path)) (discard (Disk.removeFile path)) :=
    fun _ _ _ => rfl
  have hdirectory : ∀ path,
      Lifts (discard (Disk.removeDirectory path)) (discard (Disk.removeDirectory path)) :=
    fun _ _ _ => rfl
  exact (lifts_forM hfile _).bind fun _ => (lifts_forM hdirectory _).bind fun _ => lifts_pure _

theorem lifts_write (directory : Directory) (file : SourceFile) :
    Lifts (directory.write file) (directory.write file) := by
  have hexists : Lifts (Disk.pathExists (directory.root.join file.path))
    (Disk.pathExists (directory.root.join file.path)) := fun _ _ => rfl
  refine hexists.bind fun existed => (lifts_missingDirectories _).bind fun directories =>
    (lifts_writeFile _ _).bind fun wrote => ?_
  cases wrote with
  | ok _ => exact lifts_pure _
  | error failure => exact (lifts_rollBack _).bind fun _ => lifts_pure _

theorem lifts_writeAll : ∀ (files : List SourceFile) (directory : Directory),
    Lifts (Sink.directory.writeAll files directory) (Sink.directory.writeAll files directory)
  | [], _ => lifts_pure _
  | file :: rest, directory => by
      refine Lifts.bind_directory (lifts_write directory file) fun answer noted => ?_
      cases answer with
      | error failure => exact lifts_pure _
      | ok _ => exact lifts_writeAll rest noted

theorem lifts_deliver (files : List SourceFile) (directory : Directory) :
    Lifts (Sink.directory.deliver files directory) (Sink.directory.deliver files directory) := by
  refine Lifts.bind_directory (lifts_writeAll files directory) fun answer noted => ?_
  cases answer with
  | error failure => exact lifts_pure _
  | ok _ => exact lifts_pure _

/-- A run that writes to a directory does so whatever the streams. -/
theorem lifts_run (root : String) (outcome : Resolution.Outcome (Model × List SourceFile))
    (directory : Directory) :
    Lifts (Generation.deliver root outcome Sink.directory directory)
      (Generation.deliver root outcome Sink.directory directory) := by
  unfold Generation.deliver
  cases outcome.result with
  | error failure => exact lifts_pure _
  | ok made =>
      refine Lifts.bind_directory (lifts_deliver made.2 directory) fun answer noted => ?_
      cases answer with
      | error failure => exact lifts_pure _
      | ok _ => exact lifts_pure _

end Exemplar.CommandLine
