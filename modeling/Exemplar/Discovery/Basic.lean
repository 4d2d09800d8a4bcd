import Exemplar.Discovery.Draft
import Exemplar.Event
import Exemplar.Naming.Singular

/-!
# Discovery

A document is walked depth first, members in order. Every object is taken into the draft of its
class: an object under a property belongs to the class named after the property, an object at any
depth of a list to the class named after the property in the singular. Classes are told apart by
name alone.
-/

namespace Exemplar

open Json Naming

/-- What was discovered so far. -/
structure Discovery where
  fieldPrefix : String
  root : Option String := none
  /-- The drafts in the order in which their classes came up. -/
  classes : List (String × Draft) := []
  diagnostics : List Diagnostic := []
  journal : List Event := []

namespace Discovery

/-- A step of the walk, which may fail; what was discovered before it stays. -/
abbrev Walk := ExceptT Failure (StateM Discovery)

def knows (discovery : Discovery) (className : String) : Bool :=
  Roster.contains className discovery.classes

/-- Notes a diagnostic, if there is one. -/
def report (diagnostic : Option Diagnostic) (discovery : Discovery) : Discovery :=
  match diagnostic with
  | none => discovery
  | some diagnostic =>
      { discovery with
        diagnostics := discovery.diagnostics ++ [diagnostic]
        journal := discovery.journal ++ [.reported diagnostic] }

/-- The discovery in which the class has a draft. -/
def withClass (className : String) (discovery : Discovery) : Discovery :=
  if discovery.knows className then
    { discovery with journal := discovery.journal ++ [.mergedClass className] }
  else
    { discovery with
      classes := Roster.set className {} discovery.classes
      journal := discovery.journal ++ [.newClass className] }

/-- Changes the draft of a class. -/
def updateDraft (className : String) (change : Draft → Draft × Option Diagnostic) :
    Walk Unit := do
  let discovery ← get
  match discovery.classes.lookup className with
  | none => throw (.unknownClass className)
  | some draft =>
      let changed := change draft
      set (report changed.2
        { discovery with classes := Roster.set className changed.1 discovery.classes })

/-- The field identifiers of an object. -/
def shapeOf (fieldPrefix : String) (members : Members) : List String :=
  Sorted.ofList (members.map fun entry => fieldName fieldPrefix entry.1)

/-- Counts an object of a class. -/
def observeShape (className : String) (members : Members) : Walk Unit := do
  let discovery ← get
  updateDraft className (Draft.observeShape className (shapeOf discovery.fieldPrefix members))

/-- Records one member of an object of a class. -/
def recordMember (owner property : String) (value : Value) : Walk Unit := do
  let discovery ← get
  let evidence ← liftExcept (evidenceOf discovery.knows singular property value)
  updateDraft owner
    (Draft.record owner (fieldName discovery.fieldPrefix property) property evidence value.isNull)
where
  liftExcept {α : Type} : Except Failure α → Walk α
    | .ok value => pure value
    | .error failure => throw failure

/-- The class of the objects in a list under a property. -/
def elementClassName (property : String) : String :=
  className (singular property)

mutual

/-- Walks a value. As an object it belongs to `own`; objects in it as a list belong to
`element`. -/
def walkValue (own element : String) : Value → Walk Unit
  | .object members => do
      modify (withClass own)
      observeShape own members
      walkMembers own members
  | .array elements => walkElements element elements
  | _ => pure ()

/-- Walks the members of an object of a class. -/
def walkMembers (owner : String) : List (String × Value) → Walk Unit
  | [] => pure ()
  | entry :: rest => do
      walkMember owner entry
      walkMembers owner rest

/-- Walks what is under a property, then records the member. -/
def walkMember (owner : String) : String × Value → Walk Unit
  | (property, value) => do
      walkValue (className property) (elementClassName property) value
      recordMember owner property value

/-- Walks the elements of a list, whose objects belong to `element` at any depth. -/
def walkElements (element : String) : List Value → Walk Unit
  | [] => pure ()
  | value :: rest => do
      walkValue element element value
      walkElements element rest

end

/-- Takes in one object of the root class. -/
def takeRoot (root : String) (members : Members) : Walk Unit := do
  observeShape root members
  walkMembers root members

/-- Takes in the objects among the elements of a list at the root. -/
def takeRoots (root : String) : List Value → Walk Unit
  | [] => pure ()
  | .object members :: rest => do
      takeRoot root members
      takeRoots root rest
  | _ :: rest => takeRoots root rest

def openRoot (root : String) (discovery : Discovery) : Discovery :=
  { discovery.withClass root with root := some root }

/-- What a value is called in messages about the root. -/
def describeRoot : Value → String
  | .null => "null"
  | .bool _ => "a boolean"
  | .number _ => "a number"
  | .string _ => "a string"
  | .array _ => "an array without objects"
  | .object _ => "an object"

/-- Takes in a document, whose root is an object or a list with objects. -/
def observe (root : String) (value : Value) : Walk Unit :=
  match value with
  | .object members => do
      modify (openRoot root)
      takeRoot root members
  | .array elements =>
      if elements.any Value.isObject then do
        modify (openRoot root)
        takeRoots root elements
      else throw (.unsupportedRoot (describeRoot value))
  | value => throw (.unsupportedRoot (describeRoot value))

end Discovery

end Exemplar
