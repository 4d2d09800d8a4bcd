import Exemplar.Sink.Basic

/-!
# The sink in memory

Files are kept in the order in which their paths were first written. A file for a path that is there
already takes the place of the old one, with its class and its own spelling of the path.
-/

namespace Exemplar

structure Memory where
  files : List SourceFile := []
  finished : Bool := false
  deriving DecidableEq

namespace Memory

def put (file : SourceFile) : List SourceFile → List SourceFile
  | [] => [file]
  | other :: rest => if other.path.same file.path then file :: rest else other :: put file rest

def write (memory : Memory) (file : SourceFile) : Memory :=
  { memory with files := put file memory.files }

def finish (memory : Memory) : Memory :=
  { memory with finished := true }

/-- The source kept under a path. -/
def file? (memory : Memory) (path : Path) : Option String :=
  (memory.files.find? (·.path.same path)).map (·.source)

/-- The source of the first file of a class. -/
def source? (memory : Memory) (className : String) : Option String :=
  (memory.files.find? fun file => !file.className.isEmpty && file.className == className).map
    (·.source)

/-- The classes of the files, those of no class left out. -/
def classNames (memory : Memory) : List String :=
  (memory.files.map (·.className)).filter (!·.isEmpty)

def isEmpty (memory : Memory) : Bool :=
  memory.files.isEmpty

end Memory

/-- The sink that keeps files in memory. It never fails. -/
def Sink.memory : Sink (StateM Memory) where
  write file := do
    modify (·.write file)
    pure (.ok ())
  finish := do
    modify Memory.finish
    pure (.ok ())

end Exemplar
