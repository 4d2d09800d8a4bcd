import Exemplar.Source.Basic

/-!
# Sinks

A sink takes the files of a run, one after the other, and is told once when all are written. Either
may fail; the first failure ends the run.
-/

namespace Exemplar

structure Sink (m : Type → Type) where
  write : SourceFile → m (Except Failure Unit)
  finish : m (Except Failure Unit)

namespace Sink

variable {m : Type → Type} [Monad m]

/-- Writes the files in order, up to the first failure. -/
def writeAll (sink : Sink m) : List SourceFile → m (Except Failure Unit)
  | [] => pure (.ok ())
  | file :: rest => do
      match ← sink.write file with
      | .error failure => pure (.error failure)
      | .ok () => writeAll sink rest

/-- Writes the files and finishes. -/
def deliver (sink : Sink m) (files : List SourceFile) : m (Except Failure Unit) := do
  match ← sink.writeAll files with
  | .error failure => pure (.error failure)
  | .ok () => sink.finish

end Sink

end Exemplar
