/-!
# Options of a run
-/

namespace Exemplar

/-- The language of the generated sources. -/
inductive Target where
  | java
  | rust
  deriving DecidableEq

def Target.name : Target → String
  | .java => "Java"
  | .rust => "Rust"

structure Options where
  /-- Put before field identifiers; empty for lower camel case. -/
  fieldPrefix : String := "m"
  /-- A builder for each class, in place of setters. -/
  generateBuilders : Bool := false
  /-- Mark renamed fields as exposed too (Java). -/
  alwaysAnnotateExpose : Bool := false
  target : Target := .java
  /-- What the generated sources are marked as made by. -/
  generatedBy : String := "json-pojo"
  deriving DecidableEq

end Exemplar
