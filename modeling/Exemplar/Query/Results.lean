import Exemplar.Query.Value

/-!
# Results of filters

What a filter gives out, one after the other, each made when it is asked for. A fault takes the
place of one result; others may follow it.
-/

namespace Exemplar.Query

/-- Why there is no result. -/
inductive Fault where
  /-- Raised on purpose or by an operation; a handler is given the value. -/
  | raised (value : Value)
  /-- On the way to the label of that number. -/
  | broken (label : Nat)
  /-- The query is nested too deep. -/
  | exhausted

namespace Fault

def ofText (text : String) : Fault :=
  .raised (.string text)

def mistyped (value : Value) (expected : String) : Fault :=
  ofText ("cannot use " ++ value.text ++ " as " ++ expected)

def unfitIndex (value index : Value) : Fault :=
  ofText ("cannot index " ++ value.text ++ " with " ++ index.text)

def unfitOperands (left : Value) (operation : String) (right : Value) : Fault :=
  ofText ("cannot calculate " ++ left.text ++ " " ++ operation ++ " " ++ right.text)

/-- The fault of a filter that leads to no place in its input. -/
def noPlace (value : Value) : Fault :=
  ofText ("invalid path expression with input " ++ value.text)

end Fault

inductive Results (α : Type) where
  | done
  | next (result : Except Fault α) (rest : Unit → Results α)

namespace Results

variable {α β : Type}

def ofExcept (result : Except Fault α) : Results α :=
  .next result fun _ => .done

def one (value : α) : Results α :=
  ofExcept (.ok value)

def fail (fault : Fault) : Results α :=
  ofExcept (.error fault)

def append (results : Results α) (more : Unit → Results α) : Results α :=
  match results with
  | .done => more ()
  | .next result rest => .next result fun _ => (rest ()).append more

def bind (results : Results α) (next : α → Results β) : Results β :=
  match results with
  | .done => .done
  | .next (.ok value) rest => (next value).append fun _ => (rest ()).bind next
  | .next (.error fault) rest => .next (.error fault) fun _ => (rest ()).bind next

def map (f : α → β) (results : Results α) : Results β :=
  match results with
  | .done => .done
  | .next result rest => .next (result.map f) fun _ => (rest ()).map f

def ofList : List α → Results α
  | [] => .done
  | value :: rest => .next (.ok value) fun _ => ofList rest

/-- All results, or the first fault. -/
def collect : Results α → Except Fault (List α)
  | .done => .ok []
  | .next (.error fault) _ => .error fault
  | .next (.ok value) rest => (rest ()).collect.map (value :: ·)

/-- The first result, if there is any. -/
def first? : Results α → Except Fault (Option α)
  | .done => .ok none
  | .next result _ => result.map some

/-- The results with a handler in place of each raised fault. -/
def handle (handler : Value → Results α) (results : Results α) : Results α :=
  match results with
  | .done => .done
  | .next (.error (.raised value)) rest =>
      (handler value).append fun _ => (rest ()).handle handler
  | .next result rest => .next result fun _ => (rest ()).handle handler

/-- The results up to the first fault that is on its way to a label. -/
def upTo (label : Nat) (results : Results α) : Results α :=
  match results with
  | .done => .done
  | .next (.error (.broken other)) rest =>
      if other = label then .done
      else .next (.error (.broken other)) fun _ => (rest ()).upTo label
  | .next result rest => .next result fun _ => (rest ()).upTo label

/-- The results that meet a condition, and all faults. -/
def filter (condition : α → Bool) (results : Results α) : Results α :=
  match results with
  | .done => .done
  | .next (.ok value) rest =>
      if condition value then .next (.ok value) fun _ => (rest ()).filter condition
      else (rest ()).filter condition
  | .next (.error fault) rest => .next (.error fault) fun _ => (rest ()).filter condition

/-- The results, or others where there are none. -/
def orElse (results : Results α) (others : Unit → Results α) : Results α :=
  match results with
  | .done => others ()
  | .next result rest => .next result rest

/-- What becomes of a state when each result takes a step, in turn. -/
def fold (step : α → β → Results β) (state : β) : Results α → Results β
  | .done => .one state
  | .next (.error fault) _ => .fail fault
  | .next (.ok value) rest => (step value state).bind fun state => fold step state (rest ())

/-- What is shown of a state after each step. -/
def foldShown {γ : Type} (step : α → β → Results β) (shown : α → β → Results γ) (state : β) :
    Results α → Results γ
  | .done => .done
  | .next (.error fault) _ => .fail fault
  | .next (.ok value) rest =>
      (step value state).bind fun state =>
        (shown value state).append fun _ => foldShown step shown state (rest ())

end Results

end Exemplar.Query
