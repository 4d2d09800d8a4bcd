import Exemplar.Json.Value
import Exemplar.Text.Pieces

/-!
# Pointers into JSON documents

A pointer leads from the root of a document to one value in it. Each of its steps stands behind a
slash and names a member of an object or the index of an element of a list. A pointer without steps
is the empty text and leads to the root.
-/

namespace Exemplar.Json

abbrev Pointer := List (List Char)

namespace Pointer

/-- A step with its escapes undone: `~1` is a slash, `~0` a tilde, and any other tilde is one. -/
def unescape : List Char → List Char
  | '~' :: '1' :: rest => '/' :: unescape rest
  | '~' :: '0' :: rest => '~' :: unescape rest
  | c :: rest => c :: unescape rest
  | [] => []

/-- The pointer that a text spells. -/
def ofText? (text : String) : Option Pointer :=
  match text.toList with
  | [] => some []
  | '/' :: rest => some ((Text.pieces '/' rest).map unescape)
  | _ => none

/-- The index that a step spells: decimal digits without a sign or a needless zero in front. -/
def index? (step : List Char) : Option Nat :=
  match step with
  | [] => none
  | c :: rest =>
      if (c = '0' ∧ rest ≠ []) ∨ !step.all Char.isDigit then none
      else (String.ofList step).toNat?

/-- Where one step leads. -/
def step? (step : List Char) : Value → Option Value
  | .object members => member? (String.ofList step) members
  | .array elements => (index? step).bind (elements[·]?)
  | _ => none

/-- The value that a pointer leads to. -/
def resolve? : Pointer → Value → Option Value
  | [], value => some value
  | step :: rest, value => (step? step value).bind (resolve? rest)

end Pointer

end Exemplar.Json
