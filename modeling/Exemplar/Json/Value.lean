/-!
# JSON values

A document as a tree. Objects keep the order of their members; a number is an integer of the range
that signed and unsigned 64-bit words cover together, or else a binary64.
-/

namespace Exemplar.Json

inductive Number where
  | integer (value : Int)
  | float (value : Float)

inductive Value where
  | null
  | bool (value : Bool)
  | number (value : Number)
  | string (value : String)
  | array (elements : List Value)
  | object (members : List (String × Value))

instance : Inhabited Value := ⟨.null⟩

abbrev Members := List (String × Value)

/-- The members with a key set to a value: a key keeps its first place and takes the last value. -/
def insertMember (key : String) (value : Value) : Members → Members
  | [] => [(key, value)]
  | (other, old) :: rest =>
      if other = key then (key, value) :: rest else (other, old) :: insertMember key value rest

/-- The value under a key. -/
def member? (key : String) (members : Members) : Option Value :=
  members.lookup key

namespace Value

def isObject : Value → Bool
  | .object _ => true
  | _ => false

def isNull : Value → Bool
  | .null => true
  | _ => false

mutual

/-- No object of the value repeats a key. -/
def DistinctKeys : Value → Prop
  | .array elements => DistinctKeysList elements
  | .object members => (members.map (·.1)).Nodup ∧ DistinctKeysMembers members
  | _ => True

def DistinctKeysList : List Value → Prop
  | [] => True
  | value :: rest => DistinctKeys value ∧ DistinctKeysList rest

def DistinctKeysMembers : List (String × Value) → Prop
  | [] => True
  | entry :: rest => DistinctKeysMember entry ∧ DistinctKeysMembers rest

def DistinctKeysMember : String × Value → Prop
  | (_, value) => DistinctKeys value

end

end Value

end Exemplar.Json
