import Exemplar.Discovery.Basic

/-!
# Resolution

After a document has been walked, every deferred type is looked up among the classes: null under the
class of its property, an empty list under the class of its elements. What is in neither is untyped,
and reported. The classes are resolved one by one; before each the caller may call the run off.
-/

namespace Exemplar

open Naming

/-- How much is done: `done` classes of `total`. -/
structure Progress where
  done : Nat
  total : Nat
  deriving DecidableEq

/-- Whether the run is called off once a number of progress reports has come in. -/
abbrev Watch := Nat → Bool

/-- Never calls off. -/
def Watch.never : Watch := fun _ => false

/-- Calls off after a number of reports. -/
def Watch.after (count : Nat) : Watch := fun received => count ≤ received

namespace Resolution

def Scalar.toTy : Scalar → Ty
  | .bool => .bool
  | .integer => .integer
  | .float => .float
  | .string => .string

/-- The type that a class name gives: the class, if there is one. -/
def lookUp (known : Discovery.Known) (className : String) : Ty :=
  if known className then .named className else .any

/-- The type of a field from its evidence. -/
def resolve (known : Discovery.Known) (property : String) : Evidence → Ty
  | .scalar kind => Scalar.toTy kind
  | .object className => .named className
  | .list element => .list (resolve known property element)
  | .deferred => lookUp known (className property)
  | .deferredList => .list (lookUp known (Discovery.elementClassName property))

/-- Whether the class that the type of a field is looked up under is missing. -/
def looksUpInVain (known : Discovery.Known) (property : String) : Evidence → Bool
  | .scalar _ | .object _ => false
  | .list element => looksUpInVain known property element
  | .deferred => !known (className property)
  | .deferredList => !known (Discovery.elementClassName property)

def resolveField (known : Discovery.Known) (entry : String × Slot) : Field :=
  let slot := entry.2
  ⟨slot.property, entry.1, resolve known slot.property slot.evidence, slot.presentIn, slot.nullIn⟩

def resolveClass (known : Discovery.Known) (entry : String × Draft) : ClassDef :=
  ⟨entry.1, entry.2.slots.map (resolveField known), entry.2.seenObjects⟩

/-- The identifiers of the fields of a class that are looked up in vain. -/
def untypedFields (known : Discovery.Known) (draft : Draft) : List String :=
  (draft.slots.filter fun entry => looksUpInVain known entry.2.property entry.2.evidence).map (·.1)

/-- What has come of a resolution: its result, the progress reports and the events. -/
structure Outcome (α : Type) where
  result : Except Failure α
  reports : List Progress
  events : List Event

/-- Resolves the classes that are left after `done`. -/
def resolveClasses (known : Discovery.Known) (watch : Watch) (total : Nat) :
    Nat → List (String × Draft) → Outcome (List ClassDef)
  | _, [] => ⟨.ok [], [], []⟩
  | done, entry :: rest =>
      if watch done then ⟨.error .cancelled, [], []⟩
      else
        let outcome := resolveClasses known watch total (done + 1) rest
        ⟨outcome.result.map (resolveClass known entry :: ·),
          ⟨done + 1, total⟩ :: outcome.reports,
          (untypedFields known entry.2).map (.untyped entry.1) ++ outcome.events⟩

/-- What is reported of the fields that are looked up in vain. -/
def unresolved (known : Discovery.Known) (classes : List (String × Draft)) : List Diagnostic :=
  classes.flatMap fun entry => (untypedFields known entry.2).map (.unresolved entry.1)

end Resolution

/-- The class model of what was discovered. -/
def Discovery.resolve (discovery : Discovery) (watch : Watch) : Resolution.Outcome Model :=
  let outcome :=
    Resolution.resolveClasses discovery.knows watch discovery.classes.length 0 discovery.classes
  { outcome with
    result := outcome.result.map fun classes =>
      ⟨discovery.root.getD "", classes,
        discovery.diagnostics ++ Resolution.unresolved discovery.knows discovery.classes⟩ }

end Exemplar
