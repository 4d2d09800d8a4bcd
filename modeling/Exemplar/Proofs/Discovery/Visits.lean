import Exemplar.Proofs.Discovery.Walk

/-!
# The objects of a document

Every object of a document is taken into one class, once.  The class goes by the place of the object
in the document, so that the objects can be listed with their classes without any walk.  The classes
that a walk brings up are the listed ones in the order of their first objects, and each has seen as
many objects as are listed for it.
-/

namespace Exemplar.Discovery

open Json Naming Reporting

mutual

/-- The objects in a value, each before those inside it.  The value itself as an object belongs to
the class `own`, objects in it as a list to `element`, at any depth of lists. -/
def objectsIn (own element : String) : Value → List (String × Members)
  | .object members => (own, members) :: objectsInMembers members
  | .array elements => objectsInElements element elements
  | _ => []

def objectsInMembers : List (String × Value) → List (String × Members)
  | [] => []
  | entry :: rest => objectsInMember entry ++ objectsInMembers rest

/-- An object under a property belongs to the class of the property, objects in a list under it to
the class of the property in the singular. -/
def objectsInMember : String × Value → List (String × Members)
  | (property, value) => objectsIn (className property) (className (singular property)) value

def objectsInElements (element : String) : List Value → List (String × Members)
  | [] => []
  | value :: rest => objectsIn element element value ++ objectsInElements element rest

end

/-- The objects of a document in order: those of the root class, each with the objects inside it. -/
def visited (root : String) (value : Value) : List (String × Members) :=
  (rootObjects value).flatMap fun members => (root, members) :: objectsInMembers members

/-! ## The steps count the objects -/

mutual

theorem object?_valueSteps (own element : String) : ∀ value : Value,
    (valueSteps own element value).filterMap Step.object? = objectsIn own element value
  | .null => rfl
  | .bool _ => rfl
  | .number _ => rfl
  | .string _ => rfl
  | .array elements => by
      rw [valueSteps, objectsIn]
      exact object?_elementsSteps element elements
  | .object members => by
      rw [valueSteps, objectsIn, ← object?_membersSteps own members]
      rfl

theorem object?_membersSteps (owner : String) : ∀ members : List (String × Value),
    (membersSteps owner members).filterMap Step.object? = objectsInMembers members
  | [] => rfl
  | entry :: rest => by
      rw [membersSteps, objectsInMembers, List.filterMap_append, object?_memberSteps owner entry,
        object?_membersSteps owner rest]

theorem object?_memberSteps (owner : String) : ∀ entry : String × Value,
    (memberSteps owner entry).filterMap Step.object? = objectsInMember entry
  | (property, value) => by
      rw [memberSteps, objectsInMember, List.filterMap_append, object?_valueSteps]
      exact List.append_nil _

theorem object?_elementsSteps (element : String) : ∀ elements : List Value,
    (elementsSteps element elements).filterMap Step.object? = objectsInElements element elements
  | [] => rfl
  | value :: rest => by
      rw [elementsSteps, objectsInElements, List.filterMap_append, object?_valueSteps,
        object?_elementsSteps element rest]

end

theorem object?_rootSteps (root : String) (value : Value) :
    (rootSteps root value).filterMap Step.object? = visited root value := by
  unfold rootSteps visited
  induction rootObjects value with
  | nil => rfl
  | cons members rest ih =>
      rw [List.flatMap_cons, List.flatMap_cons, List.filterMap_append, ih,
        ← object?_membersSteps root members]
      rfl

/-- A step counts one more object if it is the step of an object. -/
theorem seenObjects_change (fieldPrefix : String) (step : Step) (draft : Draft) :
    (step.change fieldPrefix draft).1.seenObjects =
      draft.seenObjects + step.object?.toList.length := by
  cases step with
  | enter name => rfl
  | object name members =>
      simp only [Step.change, Draft.observeShape]
      split
      · rfl
      · split <;> rfl
  | member occurrence =>
      simp only [Step.change, Draft.record]
      split
      · rfl
      · split <;> rfl

theorem seenObjects_run (fieldPrefix : String) (classes : List (String × Draft))
    (steps : List Step) (name : String) :
    (draftIn name (run (stepDrafts fieldPrefix) classes steps).1).seenObjects =
      (draftIn name classes).seenObjects +
        ((steps.filterMap Step.object?).map (·.1)).count name := by
  induction steps generalizing classes with
  | nil => rfl
  | cons step rest ih =>
      have hcount : (((step :: rest).filterMap Step.object?).map (·.1)).count name =
          (if step.className = name then step.object?.toList.length else 0) +
            ((rest.filterMap Step.object?).map (·.1)).count name := by
        cases step with
        | enter other => simp [List.filterMap_cons, Step.object?]
        | object other members =>
            simp [Step.object?, Step.className, List.count_cons, Nat.add_comm]
        | member occurrence => simp [List.filterMap_cons, Step.object?]
      rw [run_cons, ih, draftIn_stepDrafts, hcount]
      by_cases hname : step.className = name
      · rw [if_pos hname, if_pos hname, seenObjects_change, Nat.add_assoc]
      · rw [if_neg hname, if_neg hname, Nat.zero_add]

/-! ## The order in which classes come up -/

/-- The names known after more names have come up, in the order in which they did. -/
def comeUp (known names : List String) : List String :=
  names.foldl (fun known name => if name ∈ known then known else known ++ [name]) known

theorem comeUp_cons (known : List String) (name : String) (rest : List String) :
    comeUp known (name :: rest) =
      comeUp (if name ∈ known then known else known ++ [name]) rest := rfl

theorem comeUp_cons_of_mem {known : List String} {name : String} (hmem : name ∈ known)
    (rest : List String) : comeUp known (name :: rest) = comeUp known rest := by
  rw [comeUp_cons, if_pos hmem]

theorem comeUp_append (known first second : List String) :
    comeUp known (first ++ second) = comeUp (comeUp known first) second :=
  List.foldl_append

theorem mem_comeUp_of_mem {known : List String} {name : String} (hmem : name ∈ known)
    (names : List String) : name ∈ comeUp known names := by
  induction names generalizing known with
  | nil => exact hmem
  | cons other rest ih =>
      rw [comeUp_cons]
      apply ih
      split
      · exact hmem
      · exact List.mem_append_left _ hmem

theorem comeUp_eq (known names : List String) :
    comeUp known names = known ++ (names.filter (!known.contains ·)).eraseDups := by
  induction names generalizing known with
  | nil => exact (List.append_nil _).symm
  | cons name rest ih =>
      rw [comeUp_cons, ih]
      by_cases hmem : name ∈ known
      · rw [if_pos hmem, List.filter_cons_of_neg (by simpa using hmem)]
      · rw [if_neg hmem, List.filter_cons_of_pos (by simpa using hmem), List.eraseDups_cons,
          List.filter_filter, List.append_assoc]
        have hfilter : ∀ other ∈ rest,
            (!(known ++ [name]).contains other) = (!other == name && !known.contains other) := by
          intro other _
          by_cases hother : other = name <;> simp [hother]
        rw [List.filter_congr hfilter]
        rfl

theorem comeUp_nil (names : List String) : comeUp [] names = names.eraseDups := by
  have hfilter : ∀ name ∈ names, (!([] : List String).contains name) = true := fun _ _ => rfl
  rw [comeUp_eq, List.filter_eq_self.2 hfilter, List.nil_append]

theorem keys_run (fieldPrefix : String) (classes : List (String × Draft)) (steps : List Step) :
    (run (stepDrafts fieldPrefix) classes steps).1.map (·.1) =
      comeUp (classes.map (·.1)) (steps.map Step.className) := by
  induction steps generalizing classes with
  | nil => rfl
  | cons step rest ih => rw [run_cons, ih, List.map_cons, comeUp_cons, stepDrafts, Roster.keys_set]

mutual

/-- Only the objects of a value bring up classes that are not known. -/
theorem comeUp_valueSteps (own element : String) : ∀ (value : Value) (known : List String),
    comeUp known ((valueSteps own element value).map Step.className) =
      comeUp known ((objectsIn own element value).map (·.1))
  | .null, _ => rfl
  | .bool _, _ => rfl
  | .number _, _ => rfl
  | .string _, _ => rfl
  | .array elements, known => by
      rw [valueSteps, objectsIn]
      exact comeUp_elementsSteps element elements known
  | .object members, known => by
      have hopened : own ∈ comeUp known [own] := by
        by_cases hmem : own ∈ known <;> simp [comeUp, hmem]
      have hmembers := comeUp_membersSteps own members (comeUp known [own]) hopened
      calc
        comeUp known ((valueSteps own element (.object members)).map Step.className) =
            comeUp (comeUp known [own])
              (own :: (membersSteps own members).map Step.className) := rfl
        _ = comeUp (comeUp known [own]) ((membersSteps own members).map Step.className) :=
            comeUp_cons_of_mem hopened _
        _ = comeUp (comeUp known [own]) ((objectsInMembers members).map (·.1)) := hmembers
        _ = comeUp known ((objectsIn own element (.object members)).map (·.1)) := rfl

theorem comeUp_membersSteps (owner : String) :
    ∀ (members : List (String × Value)) (known : List String), owner ∈ known →
      comeUp known ((membersSteps owner members).map Step.className) =
        comeUp known ((objectsInMembers members).map (·.1))
  | [], _, _ => rfl
  | entry :: rest, known, howner => by
      rw [membersSteps, objectsInMembers, List.map_append, List.map_append, comeUp_append,
        comeUp_append, comeUp_memberSteps owner entry known howner,
        comeUp_membersSteps owner rest _ (mem_comeUp_of_mem howner _)]

theorem comeUp_memberSteps (owner : String) :
    ∀ (entry : String × Value) (known : List String), owner ∈ known →
      comeUp known ((memberSteps owner entry).map Step.className) =
        comeUp known ((objectsInMember entry).map (·.1))
  | (property, value), known, howner => by
      rw [memberSteps, objectsInMember, List.map_append, comeUp_append, comeUp_valueSteps]
      exact comeUp_cons_of_mem (mem_comeUp_of_mem howner _) []

theorem comeUp_elementsSteps (element : String) :
    ∀ (elements : List Value) (known : List String),
      comeUp known ((elementsSteps element elements).map Step.className) =
        comeUp known ((objectsInElements element elements).map (·.1))
  | [], _ => rfl
  | value :: rest, known => by
      rw [elementsSteps, objectsInElements, List.map_append, List.map_append, comeUp_append,
        comeUp_append, comeUp_valueSteps, comeUp_elementsSteps element rest]

end

theorem comeUp_rootSteps {root : String} {known : List String} (hroot : root ∈ known)
    (value : Value) :
    comeUp known ((rootSteps root value).map Step.className) =
      comeUp known ((visited root value).map (·.1)) := by
  unfold rootSteps visited
  induction rootObjects value generalizing known with
  | nil => rfl
  | cons members rest ih =>
      have hobject : comeUp known ((rootObjectSteps root members).map Step.className) =
          comeUp known (((root, members) :: objectsInMembers members).map (·.1)) := by
        rw [List.map_cons, comeUp_cons_of_mem hroot, ← comeUp_membersSteps root members _ hroot]
        exact comeUp_cons_of_mem hroot _
      rw [List.flatMap_cons, List.flatMap_cons, List.map_append, List.map_append, comeUp_append,
        comeUp_append, hobject, ih (mem_comeUp_of_mem hroot _)]

/-! ## The classes of a document -/

/-- The root class comes up first. -/
theorem visited_eq_cons (root : String) {value : Value} (hvalue : isRoot value = true) :
    ∃ members rest, visited root value = (root, members) :: rest := by
  obtain ⟨members, rest, hobjects⟩ := List.exists_cons_of_ne_nil (rootObjects_ne_nil hvalue)
  exact ⟨members, _, by rw [visited, hobjects, List.flatMap_cons, List.cons_append]⟩

theorem discovered_keys {root : String} {value : Value} (hvalue : isRoot value = true)
    (fieldPrefix : String) :
    (discovered fieldPrefix root value).classes.map (·.1) =
      ((visited root value).map (·.1)).eraseDups := by
  obtain ⟨members, rest, hvisited⟩ := visited_eq_cons root hvalue
  have hroot : root ∈ [root] := List.mem_singleton_self root
  calc
    (discovered fieldPrefix root value).classes.map (·.1) =
        comeUp [root] ((rootSteps root value).map Step.className) := by
      rw [discovered_classes, keys_run]
      rfl
    _ = comeUp [root] ((visited root value).map (·.1)) := comeUp_rootSteps hroot value
    _ = comeUp [] ((visited root value).map (·.1)) := by
      rw [hvisited, List.map_cons, comeUp_cons_of_mem hroot]
      rfl
    _ = ((visited root value).map (·.1)).eraseDups := comeUp_nil _

theorem seenObjects_discovered {fieldPrefix root name : String} {value : Value} {draft : Draft}
    (hdraft : (name, draft) ∈ (discovered fieldPrefix root value).classes) :
    draft.seenObjects = ((visited root value).map (·.1)).count name := by
  have hseen := seenObjects_run fieldPrefix [(root, {})] (rootSteps root value) name
  rw [← discovered_classes, draftIn_discovered hdraft, draftIn_fresh, object?_rootSteps] at hseen
  exact hseen.trans (Nat.zero_add _)

/-- Every object of a document is taken in once, into the class of its place.  The classes stand in
the order of their first objects, the root class first, and each counts its objects. -/
theorem observe_counts_objects (root : String) {value : Value} (hvalue : isRoot value = true)
    (fieldPrefix : String) :
    ∃ discovery, observe root value { fieldPrefix } = (.ok (), discovery) ∧
      discovery.classes.map (·.1) = ((visited root value).map (·.1)).eraseDups ∧
      (discovery.classes.map (·.1)).head? = some root ∧
      ∀ name draft, (name, draft) ∈ discovery.classes →
        draft.seenObjects = ((visited root value).map (·.1)).count name := by
  refine ⟨_, observe_fresh hvalue fieldPrefix, discovered_keys hvalue fieldPrefix, ?_,
    fun name draft hdraft => seenObjects_discovered hdraft⟩
  obtain ⟨members, rest, hvisited⟩ := visited_eq_cons root hvalue
  rw [discovered_keys hvalue, hvisited, List.map_cons, List.eraseDups_cons]
  rfl

/-- A class nested in itself that comes up in a list of lists as well. -/
def selfNested : Value :=
  .object [
    ("a", .object [("a", .object [])]),
    ("as", .array [.array [.object [("b", .null)]], .null])]

theorem observe_counts_objects_selfNested :
    isRoot selfNested = true ∧
      ∃ discovery, observe "Root" selfNested { fieldPrefix := "m" } = (.ok (), discovery) ∧
        discovery.classes.map (·.1) = ["Root", "A"] ∧
        ∀ draft, ("A", draft) ∈ discovery.classes → draft.seenObjects = 3 := by
  have hroot : isRoot selfNested = true := rfl
  obtain ⟨discovery, hobserve, hkeys, -, hseen⟩ := observe_counts_objects "Root" hroot "m"
  have hnames : (visited "Root" selfNested).map (·.1) = ["Root", "A", "A", "A"] := by
    decide +kernel
  refine ⟨hroot, discovery, hobserve, ?_, ?_⟩
  · rw [hkeys, hnames]
    rfl
  · intro draft hdraft
    rw [hseen "A" draft hdraft, hnames]
    rfl

end Exemplar.Discovery
