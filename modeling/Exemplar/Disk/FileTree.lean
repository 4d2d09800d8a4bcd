import Exemplar.Disk.Basic

/-!
# File trees

Files and directories as a value: a table from positions, which are the names from the root down,
to what is there. A path is followed segment by segment, from the root or from the working
directory; `..` leads back up from a directory that exists. There are no links. A tree may turn down
what is to be made in it for reasons that it does not show, such as missing room or permission; what
is there can always be removed.
-/

namespace Exemplar

inductive Node where
  | directory
  | file (content : ByteArray)

abbrev Position := List String

structure FileTree where
  workingDirectory : Position
  nodes : List (Position × Node)
  /-- What the next operations that make something are turned down with, if at all. -/
  refusals : List (Option FileFault) := []

namespace FileTree

/-- The node at a position. The root is always there. -/
def node? (tree : FileTree) (position : Position) : Option Node :=
  if position = [] then some .directory else tree.nodes.lookup position

/-- Puts a node at a position. -/
def put (position : Position) (node : Node) (tree : FileTree) : FileTree :=
  { tree with
    nodes := tree.nodes.filter (fun entry => entry.1 != position) ++ [(position, node)] }

/-- Takes away the node at a position. -/
def erase (position : Position) (tree : FileTree) : FileTree :=
  { tree with nodes := tree.nodes.filter fun entry => entry.1 != position }

/-- Where one segment leads from a directory. -/
def stepFrom (position : Position) (segment : List Char) : Position :=
  if Path.isFiller segment then position
  else if segment = ['.', '.'] then position.dropLast
  else position ++ [String.ofList segment]

/-- Follows segments from a position. Every step starts at a directory; what the last one leads to
need not be there. -/
def follow (tree : FileTree) (position : Position) :
    List (List Char) → Except FileFault Position
  | [] => .ok position
  | segment :: rest =>
      match tree.node? position with
      | none => .error .notFound
      | some (.file _) => .error .notDirectory
      | some .directory => tree.follow (stepFrom position segment) rest

/-- Where a path starts, and the segments that it follows from there. -/
def start (tree : FileTree) (path : Path) : Position × List (List Char) :=
  if path.isAbsolute then ([], path.segments.drop 1) else (tree.workingDirectory, path.segments)

/-- What a path leads to, and where. -/
def locate (tree : FileTree) (path : Path) : Except FileFault (Position × Node) := do
  if path.text.isEmpty then throw .notFound
  let (position, segments) := tree.start path
  let position ← tree.follow position segments
  match tree.node? position with
  | none => throw .notFound
  | some node => pure (position, node)

/-- How a path ends: with a name in a directory, or with a segment that names no new entry. -/
inductive Ending where
  | name (position : Position) (slash : Bool)
  | inside (last : List Char)

/-- Segments without those of the slashes at the end. -/
def trimmed (segments : List (List Char)) : List (List Char) :=
  (segments.reverse.dropWhile (· == [])).reverse

/-- How a path ends whose last segment is looked for in what is at a position. -/
def endingIn (tree : FileTree) (parent : Position) (last : List Char) (slash : Bool) :
    Except FileFault Ending :=
  match tree.node? parent with
  | none => throw .notFound
  | some (.file _) => throw .notDirectory
  | some .directory =>
      if last = ['.'] ∨ last = ['.', '.'] then pure (.inside last)
      else pure (.name (parent ++ [String.ofList last]) slash)

/-- Follows a path but for its last segment, from which slashes at the end are taken. -/
def locateEnding (tree : FileTree) (path : Path) : Except FileFault Ending := do
  if path.text.isEmpty then throw .notFound
  let (position, segments) := tree.start path
  match (trimmed segments).getLast? with
  | none => pure (.inside [])
  | some last =>
      let parent ← tree.follow position (trimmed segments).dropLast
      tree.endingIn parent last (segments.length != (trimmed segments).length)

def isDirectoryAt (tree : FileTree) (path : Path) : Bool :=
  match tree.locate path with
  | .ok (_, .directory) => true
  | _ => false

def existsAt (tree : FileTree) (path : Path) : Bool :=
  match tree.locate path with
  | .ok _ => true
  | .error _ => false

def makeDirectory (tree : FileTree) (path : Path) : Except FileFault FileTree := do
  match ← tree.locateEnding path with
  | .inside _ => throw .alreadyExists
  | .name position _ =>
      match tree.node? position with
      | some _ => throw .alreadyExists
      | none => pure (tree.put position .directory)

def writeBytes (tree : FileTree) (path : Path) (content : ByteArray) :
    Except FileFault FileTree := do
  match ← tree.locateEnding path with
  | .inside _ | .name _ true => throw .isDirectory
  | .name position false =>
      match tree.node? position with
      | some .directory => throw .isDirectory
      | _ => pure (tree.put position (.file content))

def readText (tree : FileTree) (path : Path) : Except FileFault String := do
  match ← tree.locate path with
  | (_, .directory) => throw .isDirectory
  | (_, .file content) =>
      match String.fromUTF8? content with
      | some text => pure text
      | none => throw .notText

def removeFile (tree : FileTree) (path : Path) : Except FileFault FileTree := do
  match ← tree.locateEnding path with
  | .inside _ => throw .isDirectory
  | .name position slash =>
      match tree.node? position with
      | none => throw .notFound
      | some .directory => throw .isDirectory
      | some (.file _) => if slash then throw .notDirectory else pure (tree.erase position)

/-- Whether a directory holds nothing. -/
def isVacant (tree : FileTree) (position : Position) : Bool :=
  tree.nodes.all fun entry => !(position.isPrefixOf entry.1 && entry.1 != position)

def removeDirectory (tree : FileTree) (path : Path) : Except FileFault FileTree := do
  match ← tree.locateEnding path with
  | .inside _ => throw .notEmpty
  | .name position _ =>
      match tree.node? position with
      | none => throw .notFound
      | some (.file _) => throw .notDirectory
      | some .directory =>
          if tree.isVacant position then pure (tree.erase position) else throw .notEmpty

/-- An operation on the tree that leaves it as it is when it fails. -/
def change (operation : FileTree → Except FileFault FileTree) :
    StateM FileTree (Except FileFault Unit) := fun tree =>
  match operation tree with
  | .ok changed => (.ok (), changed)
  | .error fault => (.error fault, tree)

/-- An operation that makes something, unless it is turned down. -/
def attempt (operation : FileTree → Except FileFault FileTree) :
    StateM FileTree (Except FileFault Unit) := fun tree =>
  match tree.refusals with
  | [] => change operation tree
  | some fault :: rest => (.error fault, { tree with refusals := rest })
  | none :: rest => change operation { tree with refusals := rest }

instance : Disk (StateM FileTree) where
  pathExists path tree := (tree.existsAt path, tree)
  isDirectory path tree := (tree.isDirectoryAt path, tree)
  makeDirectory path := attempt (·.makeDirectory path)
  writeText path text := attempt (·.writeBytes path text.toUTF8)
  readText path tree := (tree.readText path, tree)
  removeFile path := change (·.removeFile path)
  removeDirectory path := change (·.removeDirectory path)

end FileTree

end Exemplar
