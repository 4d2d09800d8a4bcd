import Exemplar.Query.Value

/-!
# Filters

The syntax of queries. A filter takes a value and gives out any number of values.
-/

namespace Exemplar.Query

inductive Arithmetic where
  | add
  | subtract
  | multiply
  | divide
  | remainder
  deriving DecidableEq

def Arithmetic.text : Arithmetic → String
  | .add => "+"
  | .subtract => "-"
  | .multiply => "*"
  | .divide => "/"
  | .remainder => "%"

inductive Comparison where
  | equal
  | unequal
  | less
  | lessOrEqual
  | greater
  | greaterOrEqual
  deriving DecidableEq

/-- Whether a comparison holds between values of an order. -/
def Comparison.holds : Comparison → Ordering → Bool
  | .equal, order => order == .eq
  | .unequal, order => order != .eq
  | .less, order => order == .lt
  | .lessOrEqual, order => order != .gt
  | .greater, order => order == .gt
  | .greaterOrEqual, order => order != .lt

/-- The operators that take two filters. -/
inductive Operator where
  | comma
  | alternative
  | or
  | and
  | compare (comparison : Comparison)
  | calculate (operation : Arithmetic)
  /-- Sets the places of the left side to each value of the right one. -/
  | assign
  /-- Changes the places of the left side by the right one. -/
  | update
  | updateBy (operation : Arithmetic)
  | updateAlternative
  deriving DecidableEq

mutual

inductive Filter where
  | identity
  /-- The value and all that is in it. -/
  | descend
  | numeral (digits : String)
  /-- A text with filters in it, whose values are written in a format. -/
  | quoted (format : Option String) (pieces : List Piece)
  | array (body : Option Filter)
  | object (entries : List Entry)
  | negate (body : Filter)
  | pipe (first second : Filter)
  | bind (source : Filter) (pattern : Pattern) (body : Filter)
  | binary (operator : Operator) (left right : Filter)
  | label (name : String) (body : Filter)
  | breakTo (name : String)
  | reduce (source : Filter) (pattern : Pattern) (start step : Filter)
  | foreach (source : Filter) (pattern : Pattern) (start step : Filter) (shown : Option Filter)
  | attempt (body : Filter) (handler : Option Filter)
  | branch (condition yes : Filter) (no : Option Filter)
  | define (definition : Definition) (body : Filter)
  | call (name : String) (arguments : List Filter)
  | variable (name : String)
  /-- One part of a value. A part that fails may be left out. -/
  | take (body : Filter) (part : Part) (optional : Bool)

inductive Piece where
  | plain (text : String)
  | filter (body : Filter)

/-- A member of an object to be made. Without a value its key is looked up in the input. -/
inductive Entry where
  | keyed (key : Filter) (value : Option Filter)
  | variable (name : String)

inductive Part where
  | index (index : Filter)
  | slice (start stop : Option Filter)
  | all

/-- What a value is taken apart by. -/
inductive Pattern where
  | variable (name : String)
  | array (elements : List Pattern)
  | object (entries : List PatternEntry)

inductive PatternEntry where
  | keyed (key : Filter) (pattern : Pattern)
  | variable (name : String) (pattern : Option Pattern)

inductive Definition where
  | mk (name : String) (parameters : List String) (body : Filter)

end

instance : Inhabited Filter := ⟨.identity⟩

namespace Definition

def name : Definition → String
  | .mk name _ _ => name

/-- The names of the parameters; that of a value starts with a dollar sign. -/
def parameters : Definition → List String
  | .mk _ parameters _ => parameters

def body : Definition → Filter
  | .mk _ _ body => body

end Definition

end Exemplar.Query
