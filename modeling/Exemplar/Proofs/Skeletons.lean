import Exemplar.Generation
import Exemplar.Proofs.Discovery.Steps

/-!
# Documents without their data

The skeleton of a document keeps the keys in their order, the lengths of lists and the kind of each
scalar; the data are gone.  Every step of a walk does the same for a value and for its skeleton, and
after the walk nothing looks at the document again.  So documents with the same skeleton give the
same model and the same sources, or the same failure.
-/

namespace Exemplar

open Discovery Json Naming

namespace Json.Value

mutual

/-- The value with a fixed scalar of its kind in place of each scalar. -/
def skeleton : Value → Value
  | .null => .null
  | .bool _ => .bool false
  | .number (.integer _) => .number (.integer 0)
  | .number (.float _) => .number (.float 0)
  | .string _ => .string ""
  | .array elements => .array (skeletons elements)
  | .object members => .object (memberSkeletons members)

def skeletons : List Value → List Value
  | [] => []
  | value :: rest => skeleton value :: skeletons rest

def memberSkeletons : List (String × Value) → List (String × Value)
  | [] => []
  | entry :: rest => memberSkeleton entry :: memberSkeletons rest

/-- Keys are no data. -/
def memberSkeleton : String × Value → String × Value
  | (key, value) => (key, skeleton value)

end

@[simp]
theorem isObject_skeleton (value : Value) : value.skeleton.isObject = value.isObject := by
  cases value with
  | number number => cases number <;> rfl
  | _ => rfl

@[simp]
theorem isNull_skeleton (value : Value) : value.skeleton.isNull = value.isNull := by
  cases value with
  | number number => cases number <;> rfl
  | _ => rfl

@[simp]
theorem any_isObject_skeletons (elements : List Value) :
    (skeletons elements).any isObject = elements.any isObject := by
  induction elements with
  | nil => rfl
  | cons value rest ih => rw [skeletons, List.any_cons, List.any_cons, isObject_skeleton, ih]

@[simp]
theorem keys_memberSkeletons (members : Members) :
    (memberSkeletons members).map (·.1) = members.map (·.1) := by
  induction members with
  | nil => rfl
  | cons entry rest ih =>
      obtain ⟨key, value⟩ := entry
      rw [memberSkeletons, memberSkeleton, List.map_cons, List.map_cons, ih]

end Json.Value

namespace Discovery

open Json.Value

/-! ## What a step takes of a value -/

theorem elementEvidence_skeleton (known : Known) (name : String) : ∀ value : Value,
    elementEvidence known name value.skeleton = elementEvidence known name value
  | .null => rfl
  | .bool _ => rfl
  | .number (.integer _) => rfl
  | .number (.float _) => rfl
  | .string _ => rfl
  | .object _ => rfl
  | .array [] => rfl
  | .array (first :: rest) => by
      rw [skeleton, skeletons, elementEvidence, elementEvidence,
        elementEvidence_skeleton known name first]

theorem evidenceOf_skeleton (known : Known) (property : String) (value : Value) :
    evidenceOf known singular property value.skeleton =
      evidenceOf known singular property value := by
  rw [evidenceOf_eq, evidenceOf_eq, isObject_skeleton, elementEvidence_skeleton]

theorem shapeOf_skeleton (fieldPrefix : String) (members : Members) :
    shapeOf fieldPrefix (memberSkeletons members) = shapeOf fieldPrefix members := by
  have hkeys : ∀ entries : Members, entries.map (fun entry => fieldName fieldPrefix entry.1) =
      (entries.map (·.1)).map (fieldName fieldPrefix) := by
    intro entries
    rw [List.map_map]
    rfl
  rw [shapeOf, shapeOf, hkeys, hkeys, keys_memberSkeletons]

theorem observeShape_skeleton (owner : String) (members : Members) :
    observeShape owner (memberSkeletons members) = observeShape owner members := by
  simp only [observeShape, shapeOf_skeleton]

theorem recordMember_skeleton (owner property : String) (value : Value) :
    recordMember owner property value.skeleton = recordMember owner property value := by
  simp only [recordMember, evidenceOf_skeleton, isNull_skeleton]

/-! ## Walks -/

mutual

theorem walkValue_skeleton (own element : String) : ∀ value : Value,
    walkValue own element value.skeleton = walkValue own element value
  | .null => rfl
  | .bool _ => rfl
  | .number (.integer _) => rfl
  | .number (.float _) => rfl
  | .string _ => rfl
  | .array elements => by
      rw [skeleton, walkValue, walkValue, walkElements_skeleton element elements]
  | .object members => by
      rw [skeleton, walkValue, walkValue, observeShape_skeleton, walkMembers_skeleton own members]

theorem walkMembers_skeleton (owner : String) : ∀ members : List (String × Value),
    walkMembers owner (memberSkeletons members) = walkMembers owner members
  | [] => rfl
  | entry :: rest => by
      rw [memberSkeletons, walkMembers, walkMembers, walkMember_skeleton owner entry,
        walkMembers_skeleton owner rest]

theorem walkMember_skeleton (owner : String) : ∀ entry : String × Value,
    walkMember owner (memberSkeleton entry) = walkMember owner entry
  | (property, value) => by
      rw [memberSkeleton, walkMember, walkMember, recordMember_skeleton,
        walkValue_skeleton _ _ value]

theorem walkElements_skeleton (element : String) : ∀ elements : List Value,
    walkElements element (skeletons elements) = walkElements element elements
  | [] => rfl
  | value :: rest => by
      rw [skeletons, walkElements, walkElements, walkValue_skeleton element element value,
        walkElements_skeleton element rest]

end

theorem takeRoot_skeleton (root : String) (members : Members) :
    takeRoot root (memberSkeletons members) = takeRoot root members := by
  rw [takeRoot, takeRoot, observeShape_skeleton, walkMembers_skeleton]

theorem takeRoots_skeleton (root : String) (elements : List Value) :
    takeRoots root (skeletons elements) = takeRoots root elements := by
  induction elements with
  | nil => rfl
  | cons value rest ih =>
      cases value with
      | object members =>
          rw [skeletons, skeleton, takeRoots, takeRoots, takeRoot_skeleton, ih]
      | number number => cases number <;> exact ih
      | _ => exact ih

/-- The walk through a document is the walk through its skeleton. -/
theorem observe_skeleton (root : String) (value : Value) :
    observe root value.skeleton = observe root value := by
  cases value with
  | object members =>
      rw [skeleton]
      simp only [observe, takeRoot_skeleton]
  | array elements =>
      rw [skeleton]
      simp only [observe, any_isObject_skeletons, takeRoots_skeleton, describeRoot]
  | number number => cases number <;> rfl
  | _ => rfl

end Discovery

namespace Generation

theorem model_skeleton (options : Options) (root : String) (value : Value) (watch : Watch) :
    model options root value.skeleton watch = model options root value watch := by
  simp only [model, modelOf, observe_skeleton]

/-- Documents with the same skeleton leave every discovery in the same state, and a run gives the
same model, diagnostics, sources and failures for both, whatever the options and the sink. -/
theorem run_eq_of_skeleton_eq {value other : Value} (h : value.skeleton = other.skeleton)
    (options : Options) (root namespaceText : String) (watch : Watch) :
    (∀ discovery, observe root value discovery = observe root other discovery) ∧
    model options root value watch = model options root other watch ∧
    sources options root value namespaceText watch =
      sources options root other namespaceText watch ∧
    (∀ {m : Type → Type} [Monad m] (sink : Sink m),
      run options root value namespaceText watch sink =
        run options root other namespaceText watch sink) ∧
    ∀ text otherText, readDocument text = .ok value → readDocument otherText = .ok other →
      sourcesOfText options root text namespaceText watch =
        sourcesOfText options root otherText namespaceText watch := by
  have hmodel : model options root value watch = model options root other watch :=
    calc
      model options root value watch = model options root value.skeleton watch :=
        (model_skeleton options root value watch).symm
      _ = model options root other.skeleton watch := by rw [h]
      _ = model options root other watch := model_skeleton options root other watch
  have hsources : sources options root value namespaceText watch =
      sources options root other namespaceText watch := by
    rw [sources, sources, hmodel]
  refine ⟨?_, hmodel, hsources, ?_, ?_⟩
  · intro discovery
    rw [← observe_skeleton root value, h, observe_skeleton]
  · intro m _ sink
    rw [run, run, hsources]
  · intro text otherText htext hother
    rw [sourcesOfText, sourcesOfText, modelOfText, modelOfText, htext, hother]
    cases checkRootName root with
    | error failure => rfl
    | ok _ => exact congrArg (emit options namespaceText) hmodel

/-- A document with scalars of all kinds, at several depths. -/
def invoice : Value :=
  .object [
    ("id", .number (.integer 7)), ("total", .number (.float 12.5)), ("paid", .bool true),
    ("lines", .array [.object [("text", .string "nails"), ("note", .null)]])]

/-- The same with other data. -/
def otherInvoice : Value :=
  .object [
    ("id", .number (.integer (-1))), ("total", .number (.float 0.25)), ("paid", .bool false),
    ("lines", .array [.object [("text", .string ""), ("note", .null)]])]

theorem run_eq_of_skeleton_eq_invoice :
    invoice.skeleton = otherInvoice.skeleton ∧
      sources {} "Root" invoice "com.example" Watch.never =
        sources {} "Root" otherInvoice "com.example" Watch.never := by
  have hskeleton : invoice.skeleton = otherInvoice.skeleton := by
    simp only [invoice, otherInvoice, Value.skeleton, Value.skeletons, Value.memberSkeletons,
      Value.memberSkeleton]
  obtain ⟨-, -, hsources, -⟩ :=
    run_eq_of_skeleton_eq hskeleton {} "Root" "com.example" Watch.never
  exact ⟨hskeleton, hsources⟩

end Generation

end Exemplar
