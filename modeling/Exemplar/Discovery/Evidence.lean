import Exemplar.Failure
import Exemplar.Json.Value
import Exemplar.Naming.Identifier

/-!
# Evidence of a type

What one occurrence of a field says about its type. A null says nothing yet, an empty list (or one
that starts with null) says no more than that there is a list. The first element speaks for a list.
-/

namespace Exemplar

inductive Scalar where
  | bool
  | integer
  | float
  | string
  deriving DecidableEq

inductive Evidence where
  | scalar (kind : Scalar)
  | object (className : String)
  | list (element : Evidence)
  /-- The value was null. -/
  | deferred
  /-- The list was empty or started with null. -/
  | deferredList
  deriving DecidableEq

def Scalar.describe : Scalar → String
  | .bool => "bool"
  | .integer => "integer"
  | .float => "float"
  | .string => "string"

namespace Evidence

/-- Whether the evidence leaves the type open, at whatever list depth. -/
def isDeferred : Evidence → Bool
  | .deferred | .deferredList => true
  | .list element => element.isDeferred
  | _ => false

def isList : Evidence → Bool
  | .list _ | .deferredList => true
  | _ => false

/-- Whether deferred evidence gives way to other evidence: to any that is concrete, but that of a
list only to that of a list. -/
def isRefinedBy (evidence other : Evidence) : Bool :=
  match evidence with
  | .deferred => !other.isDeferred
  | _ => evidence.isDeferred && !other.isDeferred && other.isList

def describe : Evidence → String
  | .scalar kind => kind.describe
  | .object className => className
  | .list element => "list<" ++ element.describe ++ ">"
  | .deferred => "deferred"
  | .deferredList => "list<deferred>"

end Evidence

namespace Discovery

open Json Naming

/-- The classes that came up so far. -/
abbrev Known := String → Bool

/-- The evidence of an object that belongs to a class. -/
def objectEvidence (known : Known) (className : String) : Except Failure Evidence :=
  if known className then .ok (.object className) else .error (.unknownClass className)

def numberScalar : Number → Scalar
  | .integer _ => .integer
  | .float _ => .float

/-- The evidence of a value as the first element of a list, where objects belong to `className`;
none for null. -/
def elementEvidence (known : Known) (className : String) : Value → Except Failure (Option Evidence)
  | .null => .ok none
  | .bool _ => .ok (some (.scalar .bool))
  | .number number => .ok (some (.scalar (numberScalar number)))
  | .string _ => .ok (some (.scalar .string))
  | .object _ => (objectEvidence known className).map some
  | .array [] => .ok (some .deferredList)
  | .array (first :: _) =>
      (elementEvidence known className first).map fun
        | none => some .deferredList
        | some element => some (.list element)

/-- The evidence of the value of a property. The class of objects in a list is named after the
property in the singular. -/
def evidenceOf (known : Known) (singular : String → String) (property : String) (value : Value) :
    Except Failure Evidence :=
  match value with
  | .object _ => objectEvidence known (className property)
  | value =>
      (elementEvidence known (className (singular property)) value).map (·.getD .deferred)

end Discovery

end Exemplar
