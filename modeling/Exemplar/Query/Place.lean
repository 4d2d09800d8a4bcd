import Exemplar.Query.Operation

/-!
# Places in values

A place is a part of a value, or all of its parts. It may be looked at or changed. While a filter is
asked for places and not for values, each value comes with the way to it.
-/

namespace Exemplar.Query

/-- Which part of a value is meant. -/
inductive Place where
  | under (key : Value)
  | slice (start stop : Option Value)
  | all

/-- A value, with the keys that lead to it if they are asked for. -/
structure Focus where
  value : Value
  way : Option (List Value) := none

namespace Focus

/-- Results that are no places in the input. -/
def plain (focus : Focus) (results : Results Value) : Results Focus :=
  match focus.way with
  | none => results.map fun value => { value }
  | some _ => .fail (.noPlace focus.value)

/-- The focus on a part, one key further on. -/
def further (focus : Focus) (key value : Value) : Focus :=
  { value, way := focus.way.map (· ++ [key]) }

end Focus

namespace Place

/-- A slice as a key. -/
def sliceKey (start stop : Option Value) : Value :=
  .object [("start", start.getD .null), ("end", stop.getD .null)]

/-- What is at a place. -/
def look (place : Place) (focus : Focus) : Results Focus :=
  match place with
  | .under key => .ofExcept ((focus.value.index key).map (focus.further key))
  | .slice start stop =>
      .ofExcept ((focus.value.slice start stop).map (focus.further (sliceKey start stop)))
  | .all =>
      match focus.value.keys, focus.value.children with
      | .ok keys, .ok values =>
          .ofList ((keys.zip values).map fun entry => focus.further entry.1 entry.2)
      | .error fault, _ | _, .error fault => .fail fault

/-- Why there is no such place in a value that could be changed. -/
def misfit? (place : Place) (value : Value) : Option Fault :=
  match place, value with
  | .under (.string _), .object _ => none
  | .under (.number (.integer index)), .array elements =>
      if (Value.element? index.toInt elements).isSome then none
      else some (.ofText ("index " ++ toString index ++ " out of bounds"))
  | .under key, .array _ => some (.mistyped key "integer")
  | .under key, .object _ => some (.unfitIndex value key)
  | .slice start stop, .array elements =>
      match Value.span elements.length start stop with
      | .ok _ => none
      | .error fault => some fault
  | .slice _ _, value => some (.mistyped value "array")
  | .all, .array _ | .all, .object _ => none
  | _, value => some (.mistyped value "iterable (array or object)")

variable (change : Value → Results Value)

/-- The members with one of them changed, or left out if nothing comes of it. -/
def changeMember (key : String) (members : Members) : Except Fault Value := do
  match ← (change ((members.lookup key).getD .null)).first? with
  | some value => return .object (Value.setMember key value members)
  | none => return .object (members.filter (·.1 != key))

/-- The elements with the one at a place changed, or left out if nothing comes of it. -/
def changeElement (place : Nat) (elements : List Value) : Except Fault Value := do
  match ← (change ((elements[place]?).getD .null)).first? with
  | some value => return .array (elements.set place value)
  | none => return .array (elements.eraseIdx place)

/-- The elements with all that comes of each. -/
def changeElements : List Value → Except Fault (List Value)
  | [] => .ok []
  | value :: rest => do return (← (change value).collect) ++ (← changeElements rest)

/-- The members with the first that comes of each. -/
def changeMembers : Members → Except Fault Members
  | [] => .ok []
  | (key, value) :: rest => do
      let changed ← (change value).first?
      let others ← changeMembers rest
      return (changed.map (key, ·)).toList ++ others

/-- The elements with a slice of them changed. -/
def changeSlice (start stop : Option Value) (elements : List Value) : Except Fault Value := do
  let (skipped, size) ← Value.span elements.length start stop
  let changed ← (change (.array ((elements.drop skipped).take size))).first?
  match changed.getD (.array []) with
  | .array middle =>
      return .array (elements.take skipped ++ middle ++ elements.drop (skipped + size))
  | value => throw (.mistyped value "array")

/-- The value with its place changed. -/
def alter (place : Place) (value : Value) : Except Fault Value :=
  match place, value with
  | .under (.string key), .object members => changeMember change key members
  | .under (.number (.integer index)), .array elements =>
      changeElement change (Value.place index.toInt elements.length).toNat elements
  | .slice start stop, .array elements => changeSlice change start stop elements
  | .all, .array elements => (changeElements change elements).map .array
  | .all, .object members => (changeMembers change members).map .object
  | _, value => .ok value

/-- The value with its place changed. Where there is no such place it stays if `optional` says
so. -/
def update (place : Place) (optional : Bool) (value : Value) : Results Value :=
  match place.misfit? value with
  | none => .ofExcept (place.alter change value)
  | some fault => if optional then .one value else .fail fault

end Place

end Exemplar.Query
