import Exemplar.Disk.Basic
import Exemplar.Event

/-!
# Standard streams

What a command reads and writes beside files: the standard input, its output, its notes, and the
log. A transcript is the streams as a value.
-/

namespace Exemplar.CommandLine

class Console (m : Type → Type) where
  /-- The whole standard input. -/
  readInput : m (Except FileFault String)
  /-- Writes to the output. -/
  print : String → m Unit
  /-- Writes beside the output. -/
  note : String → m Unit
  /-- Takes notice of what goes on in a run. -/
  log : List Event → m Unit

/-- Bytes as the text that they encode. -/
def textOf (bytes : ByteArray) : Except FileFault String :=
  match String.fromUTF8? bytes with
  | some text => .ok text
  | none => .error .notText

structure Transcript where
  input : ByteArray := .empty
  output : String := ""
  notes : String := ""
  journal : List Event := []

variable {m : Type → Type} [Monad m]

instance : Console (StateT Transcript m) where
  readInput := return textOf (← get).input
  print text := modify fun transcript => { transcript with output := transcript.output ++ text }
  note text := modify fun transcript => { transcript with notes := transcript.notes ++ text }
  log events :=
    modify fun transcript => { transcript with journal := transcript.journal ++ events }

instance [Disk m] : Disk (StateT Transcript m) where
  pathExists path := liftM (Disk.pathExists path : m _)
  isDirectory path := liftM (Disk.isDirectory path : m _)
  makeDirectory path := liftM (Disk.makeDirectory path : m _)
  writeText path text := liftM (Disk.writeText path text : m _)
  readText path := liftM (Disk.readText path : m _)
  removeFile path := liftM (Disk.removeFile path : m _)
  removeDirectory path := liftM (Disk.removeDirectory path : m _)

end Exemplar.CommandLine
