import Exemplar.Discovery.Evidence
import Exemplar.Model.Basic
import Exemplar.Sorted

/-!
# Classes under construction

A draft takes in every object of its class: it counts them, compares their fields with those of the
first one, and keeps for each field the first property and the first concrete evidence.
-/

namespace Exemplar

/-- What is known of a field so far. -/
structure Slot where
  property : String
  evidence : Evidence
  presentIn : Nat
  nullIn : Nat
  deriving DecidableEq

structure Draft where
  /-- The fields under their identifiers, sorted. -/
  slots : List (String × Slot) := []
  seenObjects : Nat := 0
  /-- The field identifiers of the first object. -/
  shape : Option (List String) := none
  mismatchReported : Bool := false
  deriving DecidableEq

namespace Draft

/-- Counts one more object. The first that differs from the first object of the class is
reported. -/
def observeShape (className : String) (shape : List String) (draft : Draft) :
    Draft × Option Diagnostic :=
  let counted := { draft with seenObjects := draft.seenObjects + 1 }
  match draft.shape with
  | none => ({ counted with shape := some shape }, none)
  | some expected =>
      if expected = shape ∨ draft.mismatchReported then (counted, none)
      else ({ counted with mismatchReported := true },
        some (.shapeMismatch className expected shape))

/-- The slot after one more occurrence of its property, and what is odd about it. -/
def mergeEvidence (className field : String) (evidence : Evidence) (isNull : Bool) (slot : Slot) :
    Slot × Option Diagnostic :=
  let counted :=
    { slot with presentIn := slot.presentIn + 1, nullIn := slot.nullIn + isNull.toNat }
  if slot.evidence.isRefinedBy evidence then ({ counted with evidence }, none)
  else if slot.evidence.isDeferred ∨ evidence.isDeferred ∨ slot.evidence = evidence then
    (counted, none)
  else (counted,
    some (.typeConflict className field slot.evidence.describe evidence.describe))

/-- Records one occurrence of a field. The first property of an identifier keeps it. -/
def record (className field property : String) (evidence : Evidence) (isNull : Bool)
    (draft : Draft) : Draft × Option Diagnostic :=
  match draft.slots.lookup field with
  | none =>
      ({ draft with slots := Sorted.set field ⟨property, evidence, 1, isNull.toNat⟩ draft.slots },
        none)
  | some slot =>
      if slot.property = property then
        let merged := mergeEvidence className field evidence isNull slot
        ({ draft with slots := Sorted.set field merged.1 draft.slots }, merged.2)
      else (draft, some (.fieldCollision className field slot.property property))

end Draft

end Exemplar
