import Exemplar.Query.Builtin
import Exemplar.Query.Prelude

/-!
# Scopes

What the names in a filter stand for: variables their values, labels their numbers, calls a
definition, an argument or an operation. The innermost of a name counts. A definition sees itself
and what was there before it; an argument sees what is there where the call is written.
-/

namespace Exemplar.Query

inductive Scope where
  | empty
  | variable (name : String) (value : Value) (outer : Scope)
  | label (name : String) (number : Nat) (outer : Scope)
  | definition (definition : Definition) (outer : Scope)
  | argument (name : String) (body : Filter) (home outer : Scope)

namespace Scope

def valueOf? (name : String) : Scope → Option Value
  | .empty => none
  | .variable other value outer => if other = name then some value else outer.valueOf? name
  | .label _ _ outer | .definition _ outer | .argument _ _ _ outer => outer.valueOf? name

def label? (name : String) : Scope → Option Nat
  | .empty => none
  | .label other number outer => if other = name then some number else outer.label? name
  | .variable _ _ outer | .definition _ outer | .argument _ _ _ outer => outer.label? name

/-- What a call leads to. -/
inductive Callee where
  /-- A definition with the scope that it sees. -/
  | definition (definition : Definition) (scope : Scope)
  | argument (body : Filter) (home : Scope)

def callee? (name : String) (arity : Nat) : Scope → Option Callee
  | .empty => none
  | .definition found outer =>
      if found.name = name ∧ found.parameters.length = arity then
        some (.definition found (.definition found outer))
      else outer.callee? name arity
  | .argument other body home outer =>
      if other = name ∧ arity = 0 then some (.argument body home)
      else outer.callee? name arity
  | .variable _ _ outer | .label _ _ outer => outer.callee? name arity

/-- The scope of the definitions from the start. -/
def initial : Scope :=
  prelude.foldl (fun scope definition => .definition definition scope) .empty

end Scope

/-! ## Names that stand for nothing -/

/-- The names that a filter may use. -/
structure Names where
  values : List String := []
  labels : List String := []
  calls : List (String × Nat) := []

namespace Names

/-- The filters that take filters and are no definitions. -/
def specialCalls : List (String × Nat) :=
  [("empty", 0), ("path", 1), ("range", 3)]

def knowsCall (names : Names) (name : String) (arity : Nat) : Bool :=
  names.calls.contains (name, arity) || specialCalls.contains (name, arity)
    || (Builtin.find? name arity).isSome

def withValues (names : Names) (bound : List String) : Names :=
  { names with values := bound ++ names.values }

def withDefinition (names : Names) (definition : Definition) : Names :=
  { names with calls := (definition.name, definition.parameters.length) :: names.calls }

/-- The name of the variable that a parameter also is. -/
def variableOf? (parameter : String) : Option String :=
  match parameter.toList with
  | '$' :: name => some (String.ofList name)
  | _ => none

def withParameter (names : Names) (parameter : String) : Names :=
  match variableOf? parameter with
  | some name =>
      { names with values := name :: names.values, calls := (name, 0) :: names.calls }
  | none => { names with calls := (parameter, 0) :: names.calls }

end Names

mutual

/-- The variables that a pattern binds. -/
def Pattern.names : Pattern → List String
  | .variable name => [name]
  | .array elements => patternNames elements
  | .object entries => entryNames entries

def patternNames : List Pattern → List String
  | [] => []
  | pattern :: rest => pattern.names ++ patternNames rest

def entryNames : List PatternEntry → List String
  | [] => []
  | entry :: rest => entry.names ++ entryNames rest

def PatternEntry.names : PatternEntry → List String
  | .keyed _ pattern => pattern.names
  | .variable name none => [name]
  | .variable name (some pattern) => name :: pattern.names

end

mutual

/-- Whether every name in a filter stands for something. -/
def Filter.isClosed (names : Names) : Filter → Bool
  | .identity | .descend | .numeral _ => true
  | .quoted _ pieces => piecesClosed names pieces
  | .array none => true
  | .array (some body) => body.isClosed names
  | .object entries => entriesClosed names entries
  | .negate body => body.isClosed names
  | .pipe first second => first.isClosed names && second.isClosed names
  | .bind source pattern body =>
      source.isClosed names && pattern.isClosed names
        && body.isClosed (names.withValues pattern.names)
  | .binary _ left right => left.isClosed names && right.isClosed names
  | .label name body => body.isClosed { names with labels := name :: names.labels }
  | .breakTo name => names.labels.contains name
  | .reduce source pattern start step =>
      source.isClosed names && pattern.isClosed names && start.isClosed names
        && step.isClosed (names.withValues pattern.names)
  | .foreach source pattern start step none =>
      source.isClosed names && pattern.isClosed names && start.isClosed names
        && step.isClosed (names.withValues pattern.names)
  | .foreach source pattern start step (some shown) =>
      source.isClosed names && pattern.isClosed names && start.isClosed names
        && step.isClosed (names.withValues pattern.names)
        && shown.isClosed (names.withValues pattern.names)
  | .attempt body none => body.isClosed names
  | .attempt body (some handler) => body.isClosed names && handler.isClosed names
  | .branch condition yes none => condition.isClosed names && yes.isClosed names
  | .branch condition yes (some no) =>
      condition.isClosed names && yes.isClosed names && no.isClosed names
  | .define definition body =>
      definition.isClosed names && body.isClosed (names.withDefinition definition)
  | .call name arguments =>
      names.knowsCall name arguments.length && filtersClosed names arguments
  | .variable name => names.values.contains name
  | .take body part _ => body.isClosed names && part.isClosed names

def Definition.isClosed (names : Names) : Definition → Bool
  | .mk name parameters body =>
      body.isClosed (parameters.foldl Names.withParameter
        { names with calls := (name, parameters.length) :: names.calls })

def filtersClosed (names : Names) : List Filter → Bool
  | [] => true
  | filter :: rest => filter.isClosed names && filtersClosed names rest

def piecesClosed (names : Names) : List Piece → Bool
  | [] => true
  | piece :: rest => piece.isClosed names && piecesClosed names rest

def Piece.isClosed (names : Names) : Piece → Bool
  | .plain _ => true
  | .filter body => body.isClosed names

def entriesClosed (names : Names) : List Entry → Bool
  | [] => true
  | entry :: rest => entry.isClosed names && entriesClosed names rest

def Entry.isClosed (names : Names) : Entry → Bool
  | .keyed key none => key.isClosed names
  | .keyed key (some value) => key.isClosed names && value.isClosed names
  | .variable name => names.values.contains name

def Part.isClosed (names : Names) : Part → Bool
  | .index index => index.isClosed names
  | .slice none none | .all => true
  | .slice (some start) none => start.isClosed names
  | .slice none (some stop) => stop.isClosed names
  | .slice (some start) (some stop) => start.isClosed names && stop.isClosed names

def Pattern.isClosed (names : Names) : Pattern → Bool
  | .variable _ => true
  | .array elements => patternsClosed names elements
  | .object entries => patternEntriesClosed names entries

def patternsClosed (names : Names) : List Pattern → Bool
  | [] => true
  | pattern :: rest => pattern.isClosed names && patternsClosed names rest

def patternEntriesClosed (names : Names) : List PatternEntry → Bool
  | [] => true
  | entry :: rest => entry.isClosed names && patternEntriesClosed names rest

def PatternEntry.isClosed (names : Names) : PatternEntry → Bool
  | .keyed key pattern => key.isClosed names && pattern.isClosed names
  | .variable _ none => true
  | .variable _ (some pattern) => pattern.isClosed names

end

/-- The names that are there from the start. -/
def Names.initial : Names :=
  prelude.foldl Names.withDefinition {}

end Exemplar.Query
