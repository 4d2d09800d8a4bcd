import Exemplar.Model.Basic
import Exemplar.Options.Basic
import Exemplar.Text.Quoted

/-!
# Events of a run

What a run tells about itself while it goes on, in order. An event has a level, a message and named
fields.
-/

namespace Exemplar

inductive Event where
  | started (root : String) (target : Target)
  | newClass (name : String)
  | mergedClass (name : String)
  | reported (diagnostic : Diagnostic)
  /-- A field was left untyped for want of evidence. -/
  | untyped (className field : String)
  | emitted (files : Nat) (target : Target)
  | finished (root : String) (classes files diagnostics : Nat)
  deriving DecidableEq

namespace Event

inductive Level where
  | info
  | debug
  | warn
  deriving DecidableEq

def level : Event → Level
  | .started _ _ | .finished _ _ _ _ => .info
  | .newClass _ | .mergedClass _ | .untyped _ _ | .emitted _ _ => .debug
  | .reported (.unresolved _ _) => .debug
  | .reported _ => .warn

def message : Event → String
  | .started _ _ => "generation started"
  | .newClass _ => "new class"
  | .mergedClass _ => "merging into existing class"
  | .reported (.shapeMismatch _ _ _) => "merging differently shaped objects"
  | .reported (.fieldCollision _ _ _ _) => "field identifier collision"
  | .reported (.typeConflict _ _ _ _) => "conflicting field types"
  | .reported (.unresolved _ _) => "unresolved field type"
  | .untyped _ _ => "no concrete evidence, falling back to untyped"
  | .emitted _ _ => "emitted sources"
  | .finished _ _ _ _ => "generation finished"

def fields : Event → List (String × String)
  | .started root target => [("root", root), ("target", target.name)]
  | .newClass name | .mergedClass name => [("class", name)]
  | .reported (.shapeMismatch className expected found) =>
      [("class", className), ("expected", Text.shownList expected),
        ("found", Text.shownList found)]
  | .reported (.fieldCollision className field kept dropped)
  | .reported (.typeConflict className field kept dropped) =>
      [("class", className), ("field", field), ("kept", kept), ("dropped", dropped)]
  | .reported (.unresolved className field) | .untyped className field =>
      [("class", className), ("field", field)]
  | .emitted files target => [("files", toString files), ("target", target.name)]
  | .finished root classes files diagnostics =>
      [("root", root), ("classes", toString classes), ("files", toString files),
        ("diagnostics", toString diagnostics)]

end Event

end Exemplar
