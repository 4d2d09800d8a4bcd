import Exemplar.Text.Pieces
import Exemplar.Text.Quoted

/-!
# File paths

A path is kept as it was written. It names the same place as another if both have the same
components: repeated slashes, a slash at the end and inner `.` segments do not count, `..` is not
resolved, and a leading `.` does count.
-/

namespace Exemplar

structure Path where
  text : String
  deriving DecidableEq

namespace Path

inductive Component where
  | root
  | here
  | up
  | name (name : List Char)
  deriving DecidableEq

/-- The texts between the slashes. -/
def segments (path : Path) : List (List Char) :=
  Text.pieces '/' path.text.toList

def ofSegments (segments : List (List Char)) : Path :=
  ⟨String.ofList (['/'].intercalate segments)⟩

def isAbsolute (path : Path) : Bool :=
  path.text.toList.head? = some '/'

/-- Whether a segment that is not the first counts for nothing. -/
def isFiller (segment : List Char) : Bool :=
  segment == [] || segment == ['.']

def component? (segment : List Char) : Option Component :=
  if isFiller segment then none
  else if segment = ['.', '.'] then some .up
  else some (.name segment)

def components (path : Path) : List Component :=
  match path.segments with
  | [] => []
  | first :: rest =>
      let start :=
        if path.isAbsolute then [.root]
        else if first = ['.'] then [.here]
        else (component? first).toList
      start ++ rest.filterMap component?

/-- The path in quotes, for messages. A single quote is escaped as well. -/
def shown (path : Path) : String :=
  String.ofList ('"' :: path.text.toList.flatMap
    (fun c => if c = '\'' then ['\\', c] else Text.shownChar c) ++ ['"'])

/-- Whether two paths name the same place by their components. -/
def same (path other : Path) : Bool :=
  path.components == other.components

def dropFillers (segments : List (List Char)) : List (List Char) :=
  (segments.reverse.dropWhile isFiller).reverse

/-- The path of the segments `first` and `rest`, where an empty `first` is the root. -/
def ofRooted (first : List Char) (rest : List (List Char)) : Path :=
  if first = [] ∧ rest = [] then ⟨"/"⟩ else ofSegments (first :: rest)

/-- The path without its last component; the root and the empty path have none. -/
def parent? (path : Path) : Option Path :=
  match path.segments with
  | [] => none
  | first :: rest =>
      match dropFillers rest with
      | [] => if first = [] then none else some ⟨""⟩
      | segment :: segments => some (ofRooted first (dropFillers (segment :: segments).dropLast))

def ancestorsFrom : Nat → Path → List Path
  | 0, path => [path]
  | fuel + 1, path =>
      match path.parent? with
      | none => [path]
      | some parent => path :: ancestorsFrom fuel parent

/-- The path, its parent, the parent of that and so on. -/
def ancestors (path : Path) : List Path :=
  ancestorsFrom path.segments.length path

/-- The path taken from a directory: an absolute path stays, another is put behind a slash. -/
def join (directory path : Path) : Path :=
  if path.isAbsolute then path
  else if directory.text.isEmpty || directory.text.toList.getLast? = some '/' then
    ⟨directory.text ++ path.text⟩
  else ⟨directory.text ++ "/" ++ path.text⟩

/-- The path of a list of parts, each taken from those before it. -/
def ofParts (parts : List String) : Path :=
  parts.foldl (fun path part => path.join ⟨part⟩) ⟨""⟩

end Path

end Exemplar
