import Exemplar.Query.Evaluation

/-!
# Queries on documents

A query is a text. It is read, checked for names that stand for nothing, and evaluated on a
document. Its results are documents again.
-/

namespace Exemplar.Query

inductive Failure where
  /-- The text is no filter, or a name in it stands for nothing. -/
  | unreadable
  | failed (fault : Fault)
  /-- A result is no document. -/
  | notJson (text : String)
  /-- There is not exactly one result. -/
  | wrongCount (query : String) (found : Nat)

def Fault.message : Fault → String
  | .raised value => value.plainText
  | .broken _ => "break"
  | .exhausted => "nested too deep"

def Failure.message : Failure → String
  | .unreadable => "unreadable filter"
  | .failed fault => fault.message
  | .notJson text => "jq produced non-JSON output: " ++ text
  | .wrongCount query found =>
      "jq expression `" ++ query ++ "` produced " ++ toString found
        ++ " values, expected exactly one"

/-- The document that a value is. -/
def document (value : Value) : Except Failure Json.Value :=
  (Json.parse value.text).mapError fun _ => .notJson value.text

/-- The documents that results are, up to the first failure. -/
def documents : Results Value → Except Failure (List Json.Value)
  | .done => .ok []
  | .next (.error fault) _ => .error (.failed fault)
  | .next (.ok value) rest => do
      let first ← document value
      let others ← documents (rest ())
      return first :: others

/-- The filter that a text spells, with all its names known. -/
def read (text : String) : Except Failure Filter :=
  match Filter.ofText? text with
  | some filter => if filter.isClosed .initial then .ok filter else .error .unreadable
  | none => .error .unreadable

/-- The results of a query on a document. -/
def run (text : String) (input : Json.Value) : Except Failure (List Json.Value) := do
  documents ((← read text).values (Value.ofJson input))

/-- The result of a query that has exactly one. -/
def runSingle (text : String) (input : Json.Value) : Except Failure Json.Value := do
  match ← run text input with
  | [value] => return value
  | values => throw (.wrongCount text values.length)

/-- The result of a query that has exactly one, or the text of why there is none. -/
def answer (text : String) (input : Json.Value) : Except String Json.Value :=
  (runSingle text input).mapError Failure.message

end Exemplar.Query
