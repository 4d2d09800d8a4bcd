import Exemplar.CommandLine.Reader
import Exemplar.CommandLine.Run
import Exemplar.Query.Run

/-!
# The program

The command line with the files and standard streams of the system.
-/

namespace Exemplar.Main

open CommandLine

/-- The number of an error of the system, and its text. -/
def errorCode : IO.Error → Option (UInt32 × String)
  | .alreadyExists _ code details | .noFileOrDirectory _ code details
  | .inappropriateType _ code details | .permissionDenied _ code details
  | .invalidArgument _ code details | .resourceExhausted _ code details => some (code, details)
  | .resourceBusy code details | .resourceVanished code details | .hardwareFault code details
  | .unsatisfiedConstraints code details | .illegalOperation code details
  | .protocolError code details | .otherError code details | .unsupportedOperation code details =>
      some (code, details)
  | _ => none

def faultOf (error : IO.Error) : FileFault :=
  match errorCode error with
  | some (2, _) => .notFound
  | some (17, _) => .alreadyExists
  | some (20, _) => .notDirectory
  | some (21, _) => .isDirectory
  | some (39, _) => .notEmpty
  | some (code, details) => .other (details ++ " (os error " ++ toString code ++ ")")
  | none => .other (toString error)

/-- An action with its error as a fault. -/
def guarded {α : Type} (action : IO α) : IO (Except FileFault α) := do
  try
    return .ok (← action)
  catch error =>
    return .error (faultOf error)

instance : Disk IO where
  pathExists path := do
    if path.text.isEmpty then return false else ((← IO.currentDir) / path.text).pathExists
  isDirectory path := do
    if path.text.isEmpty then return false else ((← IO.currentDir) / path.text).isDir
  makeDirectory path := guarded (IO.FS.createDir path.text)
  writeText path text := guarded (IO.FS.writeFile path.text text)
  readText path := return (← guarded (IO.FS.readBinFile path.text)).bind textOf
  removeFile path := guarded (IO.FS.removeFile path.text)
  removeDirectory path := guarded (IO.FS.removeDir path.text)

def levelName : Event.Level → String
  | .info => "INFO"
  | .debug => "DEBUG"
  | .warn => "WARN"

/-- An event as a line of the log. -/
def logLine (event : Event) : String :=
  let fields := event.fields.map fun field => field.1 ++ "=" ++ field.2
  " ".intercalate ([levelName event.level, event.message] ++ fields) ++ "\n"

/-- The system, and whether its log is to tell everything. -/
abbrev Terminal := ReaderT Bool IO

instance : Disk Terminal where
  pathExists path := (Disk.pathExists path : IO _)
  isDirectory path := (Disk.isDirectory path : IO _)
  makeDirectory path := (Disk.makeDirectory path : IO _)
  writeText path text := (Disk.writeText path text : IO _)
  readText path := (Disk.readText path : IO _)
  removeFile path := (Disk.removeFile path : IO _)
  removeDirectory path := (Disk.removeDirectory path : IO _)

instance : Console Terminal where
  readInput := return (← guarded (do (← IO.getStdin).readBinToEnd)).bind textOf
  print text := (IO.print text : IO _)
  note text := (IO.eprint text : IO _)
  log events := do
    let all ← read
    for event in events do
      if all || event.level = .warn then IO.eprint (logLine event)

def usage : String :=
  "usage: [-v] model|java|rust --input FILE [--json-pointer POINTER] [--jq-expr QUERY]
    [--root-name NAME] [--config FILE] [--prefix PREFIX] [--out PATH] [--no-op]
    java: [--builders] [--package NAME] [--always-expose]
    rust: [--builders] [--module PATH]
"

/-- Says why nothing is run. -/
def explain (refusal : Refusal) : IO UInt32 := do
  if refusal.exitCode = 0 then IO.print usage else IO.eprint usage
  return refusal.exitCode

/-- Runs what the arguments ask for, and gives the exit code. -/
def start (arguments : List String) : IO UInt32 := do
  match Invocation.ofArguments arguments with
  | .error refusal => explain refusal
  | .ok invocation =>
      match ← (invocation.run Query.answer : Terminal _).run invocation.verbose with
      | .ok () => return 0
      | .error complaint =>
          IO.eprintln ("error: " ++ complaint.message)
          return 1

end Exemplar.Main

def main (arguments : List String) : IO UInt32 :=
  Exemplar.Main.start arguments
