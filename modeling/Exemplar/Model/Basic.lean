import Exemplar.Roster

/-!
# Class models

What is inferred from a document: classes with typed fields, in the order in which they came up,
and the remarks that were made on the way. Every deferred type is resolved here.
-/

namespace Exemplar

/-- The type of a field. A field without any concrete evidence is `any`. -/
inductive Ty where
  | bool
  | integer
  | float
  | string
  | any
  | named (name : String)
  | list (element : Ty)
  deriving DecidableEq

namespace Ty

/-- The class that a type names, at whatever list depth. -/
def referencedClass? : Ty → Option String
  | .named name => some name
  | .list element => element.referencedClass?
  | _ => none

/-- Whether a type is `any` at some list depth. -/
def isUntyped : Ty → Bool
  | .any => true
  | .list element => element.isUntyped
  | _ => false

def isList : Ty → Bool
  | .list _ => true
  | _ => false

end Ty

structure Field where
  /-- The property as the document spells it. -/
  property : String
  /-- The identifier, by which fields are sorted. -/
  name : String
  ty : Ty
  /-- In how many objects the property was present. -/
  presentIn : Nat
  /-- In how many objects it was null. -/
  nullIn : Nat
  deriving DecidableEq

structure ClassDef where
  name : String
  fields : List Field
  seenObjects : Nat
  deriving DecidableEq

/-- Something odd that was accepted all the same. -/
inductive Diagnostic where
  /-- Objects with different fields were merged under one class. -/
  | shapeMismatch (className : String) (expected found : List String)
  /-- Two properties have one field identifier. -/
  | fieldCollision (className field kept dropped : String)
  /-- One field was seen with different concrete types. -/
  | typeConflict (className field kept dropped : String)
  /-- A field never met concrete evidence. -/
  | unresolved (className field : String)
  deriving DecidableEq

structure Model where
  root : String
  classes : List ClassDef
  diagnostics : List Diagnostic
  deriving DecidableEq

def ClassDef.field? (cls : ClassDef) (property : String) : Option Field :=
  cls.fields.find? (·.property == property)

namespace Model

def classNames (model : Model) : List String :=
  model.classes.map (·.name)

def class? (model : Model) (name : String) : Option ClassDef :=
  model.classes.find? (·.name == name)

def hasClass (model : Model) (name : String) : Bool :=
  model.classNames.contains name

/-- The model of a list of classes, where a later class of a name takes the place of the first. -/
def ofClasses (root : String) (classes : List ClassDef) : Model :=
  let roster := classes.foldl (fun roster cls => Roster.set cls.name cls roster) []
  ⟨root, roster.map (·.2), []⟩

end Model

end Exemplar
