import Exemplar.CommandLine.Console
import Exemplar.CommandLine.Dump
import Exemplar.Generation
import Exemplar.Json.Pointer
import Exemplar.Json.Printer
import Exemplar.Model.Document
import Exemplar.Options.Reader
import Exemplar.Sink.Directory
import Exemplar.Sink.Memory

/-!
# Commands

A command reads its options, then its document, and then prints or writes what comes of it. Nothing
is written before all of it is there.
-/

namespace Exemplar.CommandLine

open Json

/-- Queries on documents: the single result of a query, or why there is none. -/
abbrev Jq := String → Value → Except String Value

/-- A failure of a command, with what it was about to do. -/
inductive Complaint where
  | failure (context : Option String) (failure : Failure)
  | file (context : String) (fault : FileFault)
  deriving DecidableEq

/-- Contexts, the failure and its cause, from the outside in. -/
def Complaint.parts : Complaint → List String
  | .failure context reason => context.toList ++ [reason.message] ++ reason.cause?.toList
  | .file context fault => [context, fault.message]

def Complaint.message (complaint : Complaint) : String :=
  ": ".intercalate complaint.parts

/-- A failure without any context. -/
def plainly {α : Type} (result : Except Failure α) : Except Complaint α :=
  result.mapError (.failure none)

/-- A failure with a context. -/
def inContext {α : Type} (context : String) (result : Except Failure α) : Except Complaint α :=
  result.mapError (.failure (some context))

namespace InputChoice

/-- The document in a text. -/
def parse (input : InputChoice) (text : String) : Except Complaint Value :=
  if text.toList.all Unicode.isWhiteSpace then
    inContext ("nothing to read in " ++ input.label) (.error .emptyInput)
  else
    inContext ("failed to parse JSON source (" ++ input.label ++ ")")
      ((Json.parse text).mapError (Generation.jsonFailure text))

/-- The part of a document that a pointer selects. -/
def point (input : InputChoice) (value : Value) : Except Complaint Value :=
  match input.jsonPointer with
  | none => .ok value
  | some pointer =>
      match (Pointer.ofText? pointer).bind (Pointer.resolve? · value) with
      | some value => .ok value
      | none => plainly (.error (.filter ("JSON pointer `" ++ pointer ++ "` matched nothing")))

/-- The result of the query on a document. -/
def filter (jq : Jq) (input : InputChoice) (value : Value) : Except Complaint Value :=
  match input.jqExpr with
  | none => .ok value
  | some query =>
      inContext ("failed to apply jq expression to " ++ input.label)
        ((jq query value).mapError .filter)

/-- The document to be looked at in a text: first the pointer selects, then the query. -/
def select (jq : Jq) (input : InputChoice) (text : String) : Except Complaint Value := do
  input.filter jq (← input.point (← input.parse text))

end InputChoice

variable {m : Type → Type} [Monad m] [Disk m] [Console m]

namespace InputChoice

def readText (input : InputChoice) : m (Except Complaint String) := do
  if input.file = "-" then
    return (← Console.readInput).mapError (.file "failed to read stdin")
  else
    return (← Disk.readText ⟨input.file⟩).mapError
      (.file ("failed to read source file (" ++ input.file ++ ")"))

/-- Reads the document to be looked at. -/
def load (jq : Jq) (input : InputChoice) : m (Except Complaint Value) := do
  return (← input.readText).bind (input.select jq)

end InputChoice

/-- The options in a file. -/
def readOptions (path : String) : m (Except Complaint Options) := do
  let text ← Disk.readText ⟨path⟩
  return inContext ("failed to load options (" ++ path ++ ")")
    ((text.mapError (Failure.file ⟨path⟩)).bind Options.ofJson)

/-- The options of a command: those of the file, under what the command line says. -/
def OptionChoice.resolve (choice : OptionChoice) (target : Target) :
    m (Except Complaint Options) := do
  let options ←
    match choice.config with
    | none => pure (.ok {})
    | some path => readOptions path
  return options.map fun options =>
    { options with target, fieldPrefix := choice.fieldPrefix.getD options.fieldPrefix }

def EmitChoice.resolve (choice : EmitChoice) (target : Target) :
    m (Except Complaint Options) := do
  return (← choice.options.resolve target).map fun options =>
    { options with generateBuilders := options.generateBuilders || choice.builders }

/-- Writes a file and the directories above it. -/
def writeFile (path : Path) (text : String) : m (Except Complaint Unit) := do
  let created ←
    match path.parent? with
    | none => pure (.ok ())
    | some parent =>
        let created ← Disk.createDirectories parent
        pure (created.mapError (.file ("failed to create " ++ parent.text)))
  match created with
  | .error complaint => return .error complaint
  | .ok () =>
      return (← Disk.writeText path text).mapError (.file ("failed to write " ++ path.text))

/-- The sources as they are printed: each under its path, with a blank line between two. -/
def printed : List SourceFile → String
  | [] => ""
  | [file] => "// " ++ file.path.text ++ "\n" ++ file.source
  | file :: rest => "// " ++ file.path.text ++ "\n" ++ file.source ++ "\n" ++ printed rest

/-- Tells how many diagnostics there are, if any. -/
def warn (diagnostics : List Diagnostic) : m Unit :=
  if diagnostics.isEmpty then pure ()
  else
    Console.note ("warning: " ++ toString diagnostics.length
      ++ " inference diagnostics (run with -v for details)\n")

/-- Writes the sources of a document to a directory. -/
def generateInto (out : String) (options : Options) (input : InputChoice) (value : Value)
    (namespaceText : String) : m (Except Complaint Unit) := do
  let (outcome, _) ← (Generation.run options input.rootName value namespaceText Watch.never
    Sink.directory).run { root := ⟨out⟩ }
  Console.log outcome.events
  match outcome.result with
  | .error failure => return plainly (.error failure)
  | .ok report =>
      Console.note ("generated " ++ toString report.classes.length ++ " classes into " ++ out
        ++ "\n")
      warn report.diagnostics
      return .ok ()

/-- Prints the sources of a document. -/
def generatePrinted (options : Options) (input : InputChoice) (value : Value)
    (namespaceText : String) : m (Except Complaint Unit) := do
  let (outcome, memory) := (Generation.run options input.rootName value namespaceText Watch.never
    Sink.memory).run {}
  Console.log outcome.events
  match outcome.result with
  | .error failure => return plainly (.error failure)
  | .ok report =>
      Console.print (printed memory.files)
      warn report.diagnostics
      return .ok ()

/-- Makes the sources with options that are there already. -/
def EmitChoice.generate (jq : Jq) (choice : EmitChoice) (options : Options) (input : InputChoice)
    (namespaceText : String) : m (Except Complaint Unit) := do
  match ← input.load jq with
  | .error complaint => return .error complaint
  | .ok value =>
      match choice.out with
      | some out => generateInto out options input value namespaceText
      | none => generatePrinted options input value namespaceText

/-- Prints the model of a document, or writes it to a file. -/
def showModel (jq : Jq) (options : Options) (input : InputChoice) (out : Option String) :
    m (Except Complaint Unit) := do
  match ← input.load jq with
  | .error complaint => return .error complaint
  | .ok value =>
      let outcome := Generation.model options input.rootName value Watch.never
      Console.log outcome.events
      match outcome.result with
      | .error failure => return plainly (.error failure)
      | .ok model =>
          let text := indented 0 model.toJson
          match out with
          | some path => writeFile ⟨path⟩ text
          | none =>
              Console.print (text ++ "\n")
              return .ok ()

/-- The options of a command, with what it says itself. -/
def Command.options : Command → m (Except Complaint Options)
  | .model _ options _ _ => options.resolve .java
  | .java _ emit _ alwaysExpose => do
      return (← emit.resolve .java).map fun options =>
        { options with alwaysAnnotateExpose := options.alwaysAnnotateExpose || alwaysExpose }
  | .rust _ emit _ => emit.resolve .rust

/-- Does what a command asks for. -/
def Command.perform (jq : Jq) (command : Command) : m (Except Complaint Unit) := do
  match ← command.options with
  | .error complaint => return .error complaint
  | .ok options =>
      match command with
      | .model input _ out _ => showModel jq options input out
      | .java input emit packageName _ => emit.generate jq options input packageName
      | .rust input emit modulePath => emit.generate jq options input modulePath

def Command.isNoOp : Command → Bool
  | .model _ _ _ noOp => noOp
  | .java _ emit _ _ | .rust _ emit _ => emit.noOp

/-- Runs an invocation, or only shows it. -/
def Invocation.run (jq : Jq) (invocation : Invocation) : m (Except Complaint Unit) := do
  if invocation.command.isNoOp then
    Console.note (invocation.shown.text 0 ++ "\n")
    return .ok ()
  else invocation.command.perform jq

end Exemplar.CommandLine
