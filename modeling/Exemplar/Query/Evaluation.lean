import Exemplar.Query.Place
import Exemplar.Query.Scope

/-!
# Evaluation

What a filter gives out for a value, and what becomes of a value when a filter leads to the places
to be changed. Where an operator takes several values on both sides, the left ones come first.
Both go down the filter with one unit of fuel less for each step.
-/

namespace Exemplar.Query

/-- Evaluation with less fuel. -/
structure Engine where
  results : Scope → Filter → Focus → Results Focus
  changed : Scope → Filter → (Value → Results Value) → Value → Results Value

namespace Engine

variable (engine : Engine)

def values (scope : Scope) (filter : Filter) (input : Value) : Results Value :=
  (engine.results scope filter { value := input }).map (·.value)

/-! ## Parts of filters -/

/-- The values of a filter that may be missing. -/
def optionalValues (scope : Scope) (input : Value) : Option Filter → Results (Option Value)
  | none => .one none
  | some filter => (engine.values scope filter input).map some

/-- The places that a part means. -/
def places (scope : Scope) (input : Value) : Part → Results Place
  | .all => .one .all
  | .index index => (engine.values scope index input).map .under
  | .slice start stop =>
      (engine.optionalValues scope input start).bind fun start =>
        (engine.optionalValues scope input stop).map fun stop => .slice start stop

/-- The texts that pieces make. -/
def texts (scope : Scope) (format : Option String) (input : Value) : List Piece → Results String
  | [] => .one ""
  | .plain text :: rest => (texts scope format input rest).map (text ++ ·)
  | .filter body :: rest =>
      (engine.values scope body input).bind fun value =>
        (Results.ofExcept (Format.write (format.getD "text") value)).bind fun written =>
          (texts scope format input rest).map (written.plainText ++ ·)

/-- A key with its value, if the key is a text. -/
def member (key value : Value) : Results (String × Value) :=
  match key with
  | .string key => .one (key, value)
  | key => .fail (.mistyped key "string")

/-- The members that an entry makes. -/
def entryMembers (scope : Scope) (input : Value) : Entry → Results (String × Value)
  | .variable name =>
      match scope.valueOf? name with
      | some value => .one (name, value)
      | none => .done
  | .keyed key (some value) =>
      (engine.values scope key input).bind fun key =>
        (engine.values scope value input).bind (member key)
  | .keyed key none =>
      (engine.values scope key input).bind fun key =>
        (Results.ofExcept (input.index key)).bind (member key)

/-- The objects that entries make, added to the members made before. -/
def objects (scope : Scope) (input : Value) (members : Members) : List Entry → Results Value
  | [] => .one (.object members)
  | entry :: rest =>
      (engine.entryMembers scope input entry).bind fun entry =>
        objects scope input (Value.setMember entry.1 entry.2 members) rest

mutual

/-- The scopes in which a pattern has taken a value apart. -/
def bound (input : Value) (scope : Scope) (value : Value) : Pattern → Results Scope
  | .variable name => .one (.variable name value scope)
  | .array elements => boundElements input scope value 0 elements
  | .object entries => boundEntries input scope value entries

def boundElements (input : Value) (scope : Scope) (value : Value) (place : Nat) :
    List Pattern → Results Scope
  | [] => .one scope
  | pattern :: rest =>
      (Results.ofExcept (value.index (.ofNat place))).bind fun element =>
        (bound input scope element pattern).bind fun scope =>
          boundElements input scope value (place + 1) rest

def boundEntries (input : Value) (scope : Scope) (value : Value) :
    List PatternEntry → Results Scope
  | [] => .one scope
  | entry :: rest =>
      (boundEntry input scope value entry).bind fun scope => boundEntries input scope value rest

def boundEntry (input : Value) (scope : Scope) (value : Value) : PatternEntry → Results Scope
  | .keyed key pattern =>
      (engine.values scope key input).bind fun key =>
        (Results.ofExcept (value.index key)).bind fun part => bound input scope part pattern
  | .variable name none =>
      (Results.ofExcept (value.index (.string name))).map fun part => .variable name part scope
  | .variable name (some pattern) =>
      (Results.ofExcept (value.index (.string name))).bind fun part =>
        bound input (.variable name part scope) part pattern

end

/-- The scopes in which a pattern has taken apart the values of a filter. -/
def scopes (scope : Scope) (source : Filter) (pattern : Pattern) (input : Value) :
    Results Scope :=
  (engine.values scope source input).bind fun value => engine.bound input scope value pattern

/-- The scopes that a definition sees in a call: its own with the arguments. A parameter that is a
value is both a variable and a filter. -/
def callScopes (caller : Scope) (input : Value) (scope : Scope) :
    List String → List Filter → Results Scope
  | parameter :: parameters, argument :: arguments =>
      match Names.variableOf? parameter with
      | none =>
          callScopes caller input (.argument parameter argument caller scope) parameters arguments
      | some name =>
          (engine.values caller argument input).bind fun value =>
            let scope := Scope.variable name value scope
            callScopes caller input (.argument name (.variable name) scope scope) parameters
              arguments
  | _, _ => .one scope

/-- The lists of values of the arguments of an operation. -/
def argumentValues (scope : Scope) (input : Value) : List Filter → Results (List Value)
  | [] => .one []
  | argument :: rest =>
      (engine.values scope argument input).bind fun value =>
        (argumentValues scope input rest).map (value :: ·)

/-! ## Calls of filters that are no definitions -/

/-- The values from one on, a step apart. -/
def stepping (goesOn : Value → Bool) (step : Value) : Nat → Value → Results Value
  | 0, _ => .fail .exhausted
  | fuel + 1, value =>
      if goesOn value then
        .next (.ok value) fun _ =>
          match value.add step with
          | .ok value => stepping goesOn step fuel value
          | .error fault => .fail fault
      else .done

/-- More values than a range ever has in practice. -/
def rangeLimit : Nat := 0x10000000000

def range : List Value → Results Value
  | [start, stop, step] =>
      let zero := Value.ofNat 0
      if zero.precedes step then stepping (·.precedes stop) step rangeLimit start
      else if step.precedes zero then stepping stop.precedes step rangeLimit start
      else stepping (!·.alike stop) step rangeLimit start
  | _ => .done

/-- The ways to the places that a filter leads to. -/
def ways (scope : Scope) (filter : Filter) (input : Value) : Results Value :=
  (engine.results scope filter { value := input, way := some [] }).map fun focus =>
    .array (focus.way.getD [])

/-- The results of a call that leads to no definition. -/
def builtinResults (scope : Scope) (name : String) (arguments : List Filter) (focus : Focus) :
    Results Focus :=
  match name, arguments with
  | "empty", [] => .done
  | "path", [filter] => focus.plain (engine.ways scope filter focus.value)
  | "range", [_, _, _] =>
      focus.plain ((engine.argumentValues scope focus.value arguments).bind range)
  | name, arguments =>
      match Builtin.find? name arguments.length with
      | some builtin =>
          focus.plain ((engine.argumentValues scope focus.value arguments).bind fun values =>
            .ofExcept (builtin focus.value values))
      | none => .done

/-! ## Operators -/

/-- The values of an operator that gives out one value for two. -/
def pairwise (scope : Scope) (left right : Filter) (input : Value)
    (operation : Value → Value → Except Fault Value) : Results Value :=
  (engine.values scope left input).bind fun a =>
    (engine.values scope right input).bind fun b => .ofExcept (operation a b)

/-- The values of `left` as conditions; where one decides, `right` is not looked at. -/
def condition (scope : Scope) (left right : Filter) (input : Value) (decisive : Bool) :
    Results Value :=
  (engine.values scope left input).bind fun a =>
    if a.isTrue = decisive then .one (.bool decisive)
    else (engine.values scope right input).map fun b => .bool b.isTrue

/-- The value with its places changed by each value of a filter in turn. -/
def changedBy (scope : Scope) (places source : Filter) (input : Value)
    (change : Value → Value → Except Fault Value) : Results Value :=
  (engine.values scope source input).bind fun value =>
    engine.changed scope places (fun old => .ofExcept (change old value)) input

def operatorResults (scope : Scope) (operator : Operator) (left right : Filter) (focus : Focus) :
    Results Focus :=
  let input := focus.value
  match operator with
  | .comma =>
      (engine.results scope left focus).append fun _ => engine.results scope right focus
  | .alternative =>
      ((engine.results scope left focus).filter (·.value.isTrue)).orElse fun _ =>
        engine.results scope right focus
  | .or => focus.plain (engine.condition scope left right input true)
  | .and => focus.plain (engine.condition scope left right input false)
  | .compare comparison =>
      focus.plain (engine.pairwise scope left right input fun a b =>
        .ok (.bool (comparison.holds (a.compare b))))
  | .calculate operation =>
      focus.plain (engine.pairwise scope left right input (Value.calculate operation))
  | .assign => focus.plain (engine.changedBy scope left right input fun _ value => .ok value)
  | .update => focus.plain (engine.changed scope left (engine.values scope right) input)
  | .updateBy operation =>
      focus.plain (engine.changedBy scope left right input (Value.calculate operation))
  | .updateAlternative =>
      focus.plain (engine.changedBy scope left right input fun old value =>
        .ok (if old.isTrue then old else value))

/-! ## One step -/

/-- Parts that are looked at, or left out where they are not there. -/
def looked (place : Place) (optional : Bool) (focus : Focus) : Results Focus :=
  if optional then (place.look focus).handle fun _ => .done else place.look focus

/-- The results of a filter. The number of a label is `fuel`, which is less in all that is evaluated
within it. -/
def stepResults (fuel : Nat) (scope : Scope) (filter : Filter) (focus : Focus) : Results Focus :=
  let input := focus.value
  match filter with
  | .identity => .one focus
  | .descend =>
      (Results.one focus).append fun _ =>
        (looked .all true focus).bind (engine.results scope .descend)
  | .numeral digits => focus.plain (.one (.number (Number.ofText digits)))
  | .quoted format pieces =>
      focus.plain ((engine.texts scope format input pieces).map .string)
  | .array none => focus.plain (.one (.array []))
  | .array (some body) =>
      focus.plain (.ofExcept ((engine.values scope body input).collect.map .array))
  | .object entries => focus.plain (engine.objects scope input [] entries)
  | .negate body =>
      focus.plain ((engine.values scope body input).bind fun value => .ofExcept value.negate)
  | .pipe first second =>
      (engine.results scope first focus).bind (engine.results scope second)
  | .bind source pattern body =>
      (engine.scopes scope source pattern input).bind fun scope =>
        engine.results scope body focus
  | .binary operator left right => engine.operatorResults scope operator left right focus
  | .label name body => (engine.results (.label name fuel scope) body focus).upTo fuel
  | .breakTo name => .fail ((scope.label? name).elim .exhausted .broken)
  | .reduce source pattern start step =>
      (engine.results scope start focus).bind fun state =>
        (engine.scopes scope source pattern input).fold
          (fun scope state => engine.results scope step state) state
  | .foreach source pattern start step shown =>
      (engine.results scope start focus).bind fun state =>
        (engine.scopes scope source pattern input).foldShown
          (fun scope state => engine.results scope step state)
          (fun scope state => engine.results scope (shown.getD .identity) state) state
  | .attempt body handler =>
      (engine.results scope body focus).handle fun value =>
        handler.elim .done fun handler => focus.plain (engine.values scope handler value)
  | .branch condition yes no =>
      (engine.values scope condition input).bind fun value =>
        engine.results scope (if value.isTrue then yes else no.getD .identity) focus
  | .define definition body => engine.results (.definition definition scope) body focus
  | .call name arguments =>
      match scope.callee? name arguments.length with
      | some (.definition definition home) =>
          (engine.callScopes scope input home definition.parameters arguments).bind fun inner =>
            engine.results inner definition.body focus
      | some (.argument body home) => engine.results home body focus
      | none => engine.builtinResults scope name arguments focus
  | .variable name => focus.plain (.one ((scope.valueOf? name).getD .null))
  | .take body part optional =>
      (engine.results scope body focus).bind fun found =>
        (engine.places scope input part).bind fun place => looked place optional found

/-- The value with the places changed to which a filter leads. -/
def stepChanged (scope : Scope) (filter : Filter) (change : Value → Results Value)
    (input : Value) : Results Value :=
  match filter with
  | .identity => change input
  | .descend =>
      (change input).bind (Place.update (engine.changed scope .descend change) .all true)
  | .pipe first second => engine.changed scope first (engine.changed scope second change) input
  | .bind source pattern body =>
      (engine.scopes scope source pattern input).fold
        (fun scope value => engine.changed scope body change value) input
  | .binary .comma left right =>
      (engine.changed scope left change input).bind (engine.changed scope right change)
  | .binary .alternative left right =>
      match ((engine.values scope left input).filter Value.isTrue).first? with
      | .ok none => engine.changed scope right change input
      | _ => engine.changed scope left change input
  | .attempt body _ => (engine.changed scope body change input).handle fun _ => .one input
  | .branch condition yes no =>
      (engine.values scope condition input).fold
        (fun value => engine.changed scope (if value.isTrue then yes else no.getD .identity)
          change) input
  | .define definition body => engine.changed (.definition definition scope) body change input
  | .call name arguments =>
      match scope.callee? name arguments.length with
      | some (.definition definition home) =>
          (engine.callScopes scope input home definition.parameters arguments).fold
            (fun inner => engine.changed inner definition.body change) input
      | some (.argument body home) => engine.changed home body change input
      | none =>
          match name with
          | "empty" => .one input
          | "error" => .fail (.raised input)
          | _ => .fail (.noPlace input)
  | .take body part optional =>
      engine.changed scope body
        (fun found =>
          (engine.places scope input part).fold
            (fun place => place.update change optional) found)
        input
  | _ => .fail (.noPlace input)

end Engine

/-- The engine with an amount of fuel. -/
def engine : Nat → Engine
  | 0 => ⟨fun _ _ _ => .fail .exhausted, fun _ _ _ _ => .fail .exhausted⟩
  | fuel + 1 =>
      ⟨fun scope filter focus => (engine fuel).stepResults fuel scope filter focus,
        fun scope filter change value => (engine fuel).stepChanged scope filter change value⟩

/-- How deep the evaluation of a query may go. -/
def depthLimit : Nat := 20000

/-- The values that a filter gives out. -/
def Filter.values (filter : Filter) (input : Value) : Results Value :=
  (engine depthLimit).values Scope.initial filter input

end Exemplar.Query
