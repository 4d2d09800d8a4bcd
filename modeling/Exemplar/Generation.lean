import Exemplar.Json.Reader
import Exemplar.Resolution
import Exemplar.Sink.Basic
import Exemplar.Source.Emission

/-!
# Runs

From a document to its model, and on to the sources. All sources are made before a sink is given the
first of them, so a run that fails while they are made leaves the sink alone.
-/

namespace Exemplar

open Json

/-- What came of a successful run. -/
structure Report where
  /-- The classes, in the order in which they came up. -/
  classes : List String
  diagnostics : List Diagnostic
  deriving DecidableEq

namespace Generation

def checkRootName (root : String) : Except Failure Unit :=
  if Naming.isClassName root then .ok () else .error (.invalidRootName root)

/-- The failure of a text that is no JSON. -/
def jsonFailure (text : String) (fault : Fault) : Failure :=
  .invalidJson (fault.describe text.toList)

/-- Reads a document. A text of white space only is no document. -/
def readDocument (text : String) : Except Failure Value :=
  if text.toList.all Unicode.isWhiteSpace then .error .emptyInput
  else (parse text).mapError (jsonFailure text)

/-- The model of a document, for any root name. -/
def modelOf (root : String) (value : Value) (fieldPrefix : String) (watch : Watch) :
    Resolution.Outcome Model :=
  match Discovery.observe root value { fieldPrefix } with
  | (.error failure, discovery) => ⟨.error failure, [], discovery.journal⟩
  | (.ok (), discovery) =>
      let outcome := discovery.resolve watch
      { outcome with events := discovery.journal ++ outcome.events }

/-- The model of a document under a valid root name. -/
def model (options : Options) (root : String) (value : Value) (watch : Watch) :
    Resolution.Outcome Model :=
  match checkRootName root with
  | .error failure => ⟨.error failure, [], []⟩
  | .ok () =>
      let outcome := modelOf root value options.fieldPrefix watch
      { outcome with events := .started root options.target :: outcome.events }

/-- The model of a text. The root name is checked before the text. -/
def modelOfText (options : Options) (root text : String) (watch : Watch) :
    Resolution.Outcome Model :=
  match checkRootName root, readDocument text with
  | .error failure, _ | .ok (), .error failure => ⟨.error failure, [], []⟩
  | .ok (), .ok value => model options root value watch

/-- The model and its sources. -/
def emit (options : Options) (namespaceText : String) (outcome : Resolution.Outcome Model) :
    Resolution.Outcome (Model × List SourceFile) :=
  match outcome.result with
  | .error failure => { outcome with result := .error failure }
  | .ok model =>
      match model.emit options namespaceText with
      | .error failure => { outcome with result := .error failure }
      | .ok files =>
          { outcome with
            result := .ok (model, files)
            events := outcome.events ++ [.emitted files.length options.target] }

def sources (options : Options) (root : String) (value : Value) (namespaceText : String)
    (watch : Watch) : Resolution.Outcome (Model × List SourceFile) :=
  emit options namespaceText (model options root value watch)

def sourcesOfText (options : Options) (root text namespaceText : String) (watch : Watch) :
    Resolution.Outcome (Model × List SourceFile) :=
  emit options namespaceText (modelOfText options root text watch)

variable {m : Type → Type} [Monad m]

/-- Hands the sources to a sink. -/
def deliver (root : String) (outcome : Resolution.Outcome (Model × List SourceFile))
    (sink : Sink m) : m (Resolution.Outcome Report) := do
  match outcome.result with
  | .error failure => pure { outcome with result := .error failure }
  | .ok (model, files) =>
      match ← sink.deliver files with
      | .error failure => pure { outcome with result := .error failure }
      | .ok () =>
          pure { outcome with
            result := .ok ⟨model.classNames, model.diagnostics⟩
            events := outcome.events ++
              [.finished root model.classes.length files.length model.diagnostics.length] }

/-- A whole run on a document. -/
def run (options : Options) (root : String) (value : Value) (namespaceText : String)
    (watch : Watch) (sink : Sink m) : m (Resolution.Outcome Report) :=
  deliver root (sources options root value namespaceText watch) sink

/-- A whole run on a text. -/
def runText (options : Options) (root text namespaceText : String) (watch : Watch)
    (sink : Sink m) : m (Resolution.Outcome Report) :=
  deliver root (sourcesOfText options root text namespaceText watch) sink

end Generation

/-- A run with the usual options, but for the builders. -/
def generate {m : Type → Type} [Monad m] (root text namespaceText : String)
    (generateBuilders : Bool) (sink : Sink m) : m (Except Failure Unit) := do
  let outcome ←
    Generation.runText { generateBuilders } root text namespaceText Watch.never sink
  return outcome.result.map fun _ => ()

end Exemplar
