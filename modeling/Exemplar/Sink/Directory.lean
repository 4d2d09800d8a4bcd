import Exemplar.Disk.Basic
import Exemplar.Sink.Basic

/-!
# The sink in a directory

Files are written below a root, and directories are made as needed. When a write fails, the files
and directories that the sink made since it was last finished are removed again; files that were
there before are overwritten and stay.
-/

namespace Exemplar

structure Directory where
  root : Path
  /-- The files made, in order. -/
  createdFiles : List Path := []
  /-- The directories made, in order, so that each comes after those above it. -/
  createdDirectories : List Path := []
  written : List Path := []
  deriving DecidableEq

namespace Directory

variable {m : Type → Type} [Monad m] [Disk m]

/-- The first paths of a list, deepest first, up to one that exists. -/
def missing : List Path → m (List Path)
  | [] => pure []
  | path :: above => do
      if path.text.isEmpty then pure []
      else if ← Disk.pathExists path then pure []
      else return path :: (← missing above)

/-- The directories above a file that do not exist yet, the topmost first. -/
def missingDirectories (path : Path) : m (List Path) := do
  match path.parent? with
  | none => pure []
  | some parent => return (← missing parent.ancestors).reverse

/-- A fault as a failure at a path. -/
def failAt (path : Path) (result : Except FileFault Unit) : Except Failure Unit :=
  result.mapError (.file path)

def createParent (path : Path) : m (Except Failure Unit) := do
  match path.parent? with
  | none => return .ok ()
  | some parent => return failAt parent (← Disk.createDirectories parent)

/-- Writes a file and the directories above it. -/
def writeFile (path : Path) (source : String) : m (Except Failure Unit) := do
  match ← createParent path with
  | .error failure => return .error failure
  | .ok () => return failAt path (← Disk.writeText path source)

/-- Removes what can be removed of the files and directories made, the last first. -/
def rollBack (directory : Directory) : m Directory := do
  directory.createdFiles.reverse.forM fun path => discard (Disk.removeFile path)
  directory.createdDirectories.reverse.forM fun path => discard (Disk.removeDirectory path)
  return ⟨directory.root, [], [], []⟩

def write (directory : Directory) (file : SourceFile) :
    m (Except Failure Unit × Directory) := do
  let path := directory.root.join file.path
  let existed ← Disk.pathExists path
  let directories ← missingDirectories path
  let noted :=
    { directory with createdDirectories := directory.createdDirectories ++ directories }
  match ← writeFile path file.source with
  | .ok () =>
      return (.ok (), { noted with
        createdFiles := noted.createdFiles ++ (if existed then [] else [path])
        written := noted.written ++ [path] })
  | .error failure => return (.error failure, ← rollBack noted)

/-- What was made so far stays. -/
def finish (directory : Directory) : Directory :=
  { directory with createdFiles := [], createdDirectories := [] }

end Directory

/-- The sink that writes below a directory. -/
def Sink.directory {m : Type → Type} [Monad m] [Disk m] : Sink (StateT Directory m) where
  write file := fun directory => directory.write file
  finish := fun directory => pure (.ok (), directory.finish)

end Exemplar
