import Exemplar.Failure

/-!
# File operations

The operations on files and directories that a run needs, in whatever monad carries their effects.
Only `createDirectories` is made of others.
-/

namespace Exemplar

class Disk (m : Type → Type) where
  /-- Whether a path leads to a file or a directory. -/
  pathExists : Path → m Bool
  isDirectory : Path → m Bool
  /-- Makes one directory. -/
  makeDirectory : Path → m (Except FileFault Unit)
  /-- Writes a text as the whole content of a file, which is made if need be. -/
  writeText : Path → String → m (Except FileFault Unit)
  readText : Path → m (Except FileFault String)
  removeFile : Path → m (Except FileFault Unit)
  /-- Removes a directory, which has to be empty. -/
  removeDirectory : Path → m (Except FileFault Unit)

namespace Disk

variable {m : Type → Type} [Monad m] [Disk m]

/-- Makes a directory; one that is there already will do. -/
def ensureDirectory (path : Path) : m (Except FileFault Unit) := do
  match ← makeDirectory path with
  | .ok () => pure (.ok ())
  | .error fault => return if ← isDirectory path then .ok () else .error fault

/-- Makes the first directory of a list of ancestors, deepest first, and those above it where they
are missing. -/
def createFirst : List Path → m (Except FileFault Unit)
  | [] => pure (.ok ())
  | path :: above =>
      if path.text.isEmpty then pure (.ok ())
      else do
        match ← makeDirectory path with
        | .ok () => pure (.ok ())
        | .error .notFound =>
            match ← createFirst above with
            | .error fault => pure (.error fault)
            | .ok () => ensureDirectory path
        | .error fault => return if ← isDirectory path then .ok () else .error fault

/-- Makes a directory and all above it that are missing. -/
def createDirectories (path : Path) : m (Except FileFault Unit) :=
  createFirst path.ancestors

end Disk

end Exemplar
