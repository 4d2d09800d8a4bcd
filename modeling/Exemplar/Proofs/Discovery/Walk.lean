import Exemplar.Proofs.Discovery.Steps

/-!
# A walk makes the steps of its document

Two recursions have to agree for a walk to succeed.  The walk brings up the classes of all objects
that it meets, and the evidence of a member looks one of them up by following first elements only.
The class that is looked up is that of a step made just before, and no step removes a class.  So
every walk succeeds and does exactly the steps that its document gives.
-/

namespace Exemplar.Discovery

open Json Naming Reporting

/-! ## Walks one after the other -/

theorem pure_run {α : Type} (value : α) (discovery : Discovery) :
    (pure value : Walk α) discovery = (.ok value, discovery) := rfl

theorem get_run (discovery : Discovery) :
    (get : Walk Discovery) discovery = (.ok discovery, discovery) := rfl

theorem modify_run (change : Discovery → Discovery) (discovery : Discovery) :
    (modify change : Walk Unit) discovery = (.ok (), change discovery) := rfl

theorem bind_run {α β : Type} {first : Walk α} {second : α → Walk β}
    {before after : Discovery} {value : α} (hfirst : first before = (.ok value, after)) :
    (first >>= second) before = second value after := by
  have hbind : (first >>= second) before =
      match first before with
      | (.ok value, after) => second value after
      | (.error failure, after) => (.error failure, after) := by
    change ExceptT.bind first second before = _
    simp only [ExceptT.bind, ExceptT.mk, bind, StateT.bind]
    rcases first before with ⟨_ | _, _⟩ <;> rfl
  rw [hbind, hfirst]

/-! ## The evidence of a member -/

/-- Along first elements the evidence looks up no class but that of a step for the value. -/
theorem elementEvidence_eq_settled {known : Known} {name : String} :
    ∀ value : Value, (∀ step ∈ valueSteps name name value, known step.className = true) →
      ∃ evidence, elementEvidence known name value = .ok evidence ∧
        elementEvidence (fun _ => true) name value = .ok evidence
  | .null, _ => ⟨_, rfl, rfl⟩
  | .bool _, _ => ⟨_, rfl, rfl⟩
  | .number _, _ => ⟨_, rfl, rfl⟩
  | .string _, _ => ⟨_, rfl, rfl⟩
  | .object members, hknown => by
      have hname : known name = true := hknown (.enter name) (by simp [valueSteps])
      refine ⟨some (.object name), ?_, rfl⟩
      simp only [elementEvidence, objectEvidence, hname]
      rfl
  | .array [], _ => ⟨_, rfl, rfl⟩
  | .array (first :: rest), hknown => by
      have hfirst : ∀ step ∈ valueSteps name name first, known step.className = true := by
        intro step hstep
        apply hknown
        rw [valueSteps, elementsSteps]
        exact List.mem_append_left _ hstep
      obtain ⟨evidence, hevidence, hsettled⟩ := elementEvidence_eq_settled first hfirst
      simp only [elementEvidence, hevidence, hsettled]
      exact ⟨_, rfl, rfl⟩

/-- Once the classes of its steps are known, the evidence of a value is settled. -/
theorem evidenceOf_eq_settled {known : Known} {property : String} {value : Value}
    (hknown : ∀ step ∈ valueSteps (className property) (elementClassName property) value,
      known step.className = true) :
    evidenceOf known singular property value = .ok (settledEvidence property value) := by
  cases value with
  | null => rfl
  | bool value => rfl
  | number value => rfl
  | string value => rfl
  | object members =>
      have hname : known (className property) = true :=
        hknown (.enter (className property)) (by simp [valueSteps])
      simp only [settledEvidence, evidenceOf, objectEvidence, hname]
      rfl
  | array elements =>
      have helement : ∀ step ∈ valueSteps (elementClassName property)
          (elementClassName property) (.array elements), known step.className = true := by
        simpa only [valueSteps] using hknown
      obtain ⟨evidence, hevidence, hsettled⟩ := elementEvidence_eq_settled _ helement
      rw [elementClassName] at hevidence hsettled
      simp only [settledEvidence, evidenceOf, hevidence, hsettled]
      rfl

/-! ## The walk through a value -/

theorem updateDraft_run {name : String} {change : Draft → Draft × Option Diagnostic}
    {discovery : Discovery} (hknown : discovery.knows name = true) :
    updateDraft name change discovery =
      (.ok (), report (change (draftIn name discovery.classes)).2
        { discovery with
          classes := Roster.set name (change (draftIn name discovery.classes)).1
            discovery.classes }) := by
  obtain ⟨draft, hdraft⟩ := Option.isSome_iff_exists.1 hknown
  rw [updateDraft, bind_run (get_run discovery), draftIn, hdraft]
  rfl

theorem observeShape_run {name : String} {members : Members} {discovery : Discovery}
    (hknown : discovery.knows name = true) :
    observeShape name members discovery = (.ok (), discovery.apply (.object name members)) := by
  rw [observeShape, bind_run (get_run discovery), updateDraft_run hknown]
  rfl

/-- A member is recorded with its settled evidence, if its owner and the classes of its value have
come up. -/
theorem recordMember_run {owner property : String} {value : Value} {discovery : Discovery}
    (howner : discovery.knows owner = true)
    (hvalue : ∀ step ∈ valueSteps (className property) (elementClassName property) value,
      discovery.knows step.className = true) :
    recordMember owner property value discovery =
      (.ok (), discovery.apply (.member ⟨owner, property, value⟩)) := by
  rw [recordMember, bind_run (get_run discovery), evidenceOf_eq_settled hvalue,
    recordMember.liftExcept, bind_run (pure_run _ discovery), updateDraft_run howner]
  rfl

mutual

/-- The walk through a value succeeds and makes its steps. -/
theorem walkValue_run (own element : String) : ∀ (value : Value) (discovery : Discovery),
    walkValue own element value discovery =
      (.ok (), discovery.applyAll (valueSteps own element value))
  | .null, _ => rfl
  | .bool _, _ => rfl
  | .number _, _ => rfl
  | .string _, _ => rfl
  | .array elements, discovery => by
      rw [walkValue, valueSteps]
      exact walkElements_run element elements discovery
  | .object members, discovery => by
      have hopened : (discovery.apply (.enter own)).knows own = true := by
        rw [knows_apply]
        simp [Step.className]
      have hcounted :
          ((discovery.apply (.enter own)).apply (.object own members)).knows own = true := by
        rw [knows_apply]
        simp [Step.className]
      rw [walkValue, bind_run (modify_run _ discovery), ← apply,
        bind_run (observeShape_run hopened), walkMembers_run own members _ hcounted]
      rfl

theorem walkMembers_run (owner : String) :
    ∀ (members : List (String × Value)) (discovery : Discovery),
      discovery.knows owner = true →
      walkMembers owner members discovery =
        (.ok (), discovery.applyAll (membersSteps owner members))
  | [], _, _ => rfl
  | entry :: rest, discovery, howner => by
      have hentry := walkMember_run owner entry discovery howner
      rw [walkMembers, bind_run hentry,
        walkMembers_run owner rest _ (knows_applyAll_of_knows _ howner), membersSteps,
        applyAll_append]

theorem walkMember_run (owner : String) :
    ∀ (entry : String × Value) (discovery : Discovery),
      discovery.knows owner = true →
      walkMember owner entry discovery =
        (.ok (), discovery.applyAll (memberSteps owner entry))
  | (property, value), discovery, howner => by
      have hvalue := walkValue_run (className property) (elementClassName property) value discovery
      have hsteps : ∀ step ∈ valueSteps (className property) (elementClassName property) value,
          (discovery.applyAll (valueSteps (className property) (elementClassName property)
            value)).knows step.className = true :=
        fun step hstep => knows_applyAll.2 (.inr ⟨step, hstep, rfl⟩)
      rw [walkMember, bind_run hvalue,
        recordMember_run (knows_applyAll_of_knows _ howner) hsteps, memberSteps, applyAll_append]
      rfl

theorem walkElements_run (element : String) : ∀ (elements : List Value) (discovery : Discovery),
    walkElements element elements discovery =
      (.ok (), discovery.applyAll (elementsSteps element elements))
  | [], _ => rfl
  | value :: rest, discovery => by
      rw [walkElements, bind_run (walkValue_run element element value discovery),
        walkElements_run element rest, elementsSteps, applyAll_append]

end

/-! ## The walk through a document -/

/-- Whether a value can be the root of a document: an object, or a list with an object among its
elements. -/
def isRoot : Value → Bool
  | .object _ => true
  | .array elements => elements.any Value.isObject
  | _ => false

theorem openRoot_knows (root : String) (discovery : Discovery) :
    (openRoot root discovery).knows root = true := by
  rw [knows, openRoot, withClass_classes, Roster.contains_set]
  simp

theorem takeRoot_run {root : String} {members : Members} {discovery : Discovery}
    (hroot : discovery.knows root = true) :
    takeRoot root members discovery =
      (.ok (), discovery.applyAll (rootObjectSteps root members)) := by
  have hcounted : (discovery.apply (.object root members)).knows root = true := by
    rw [knows_apply, hroot, Bool.or_true]
  rw [takeRoot, bind_run (observeShape_run hroot), walkMembers_run root members _ hcounted]
  rfl

theorem takeRoots_run {root : String} {elements : List Value} {discovery : Discovery}
    (hroot : discovery.knows root = true) :
    takeRoots root elements discovery =
      (.ok (), discovery.applyAll (rootSteps root (.array elements))) := by
  induction elements generalizing discovery with
  | nil => rfl
  | cons value rest ih =>
      cases value with
      | object members =>
          have hnext := knows_applyAll_of_knows (rootObjectSteps root members) hroot
          have hsteps : rootSteps root (.array (.object members :: rest)) =
              rootObjectSteps root members ++ rootSteps root (.array rest) := rfl
          rw [takeRoots, bind_run (takeRoot_run hroot), ih hnext, hsteps, applyAll_append]
      | _ => exact ih hroot

/-- The walk through a document brings up the root class and makes the steps of the document. -/
theorem observe_run {root : String} {value : Value} (hvalue : isRoot value = true)
    (discovery : Discovery) :
    observe root value discovery =
      (.ok (), (openRoot root discovery).applyAll (rootSteps root value)) := by
  have hroot := openRoot_knows root discovery
  cases value with
  | object members =>
      have hsteps : rootSteps root (.object members) = rootObjectSteps root members :=
        List.append_nil _
      rw [observe, bind_run (modify_run _ discovery), takeRoot_run hroot, hsteps]
  | array elements =>
      have hany : elements.any Value.isObject = true := hvalue
      simp only [observe, hany, if_true]
      rw [bind_run (modify_run _ discovery), takeRoots_run hroot]
  | _ => exact absurd hvalue Bool.false_ne_true

/-- Any other value is turned down before anything is done. -/
theorem observe_turned_down {root : String} {value : Value} (hvalue : isRoot value = false)
    (discovery : Discovery) :
    observe root value discovery =
      (.error (.unsupportedRoot (describeRoot value)), discovery) := by
  cases value with
  | object members => exact absurd hvalue.symm Bool.false_ne_true
  | array elements =>
      have hany : elements.any Value.isObject = false := hvalue
      simp only [observe, hany, Bool.false_eq_true, if_false]
      rfl
  | _ => rfl

/-- A document that is accepted has an object of the root class. -/
theorem rootObjects_ne_nil {value : Value} (hvalue : isRoot value = true) :
    rootObjects value ≠ [] := by
  cases value with
  | object members => exact List.cons_ne_nil _ _
  | array elements =>
      obtain ⟨element, hmem, hobject⟩ := List.any_eq_true.1 hvalue
      cases element with
      | object members =>
          exact List.ne_nil_of_mem (List.mem_filterMap.2 ⟨.object members, hmem, rfl⟩)
      | _ => exact absurd hobject Bool.false_ne_true
  | _ => exact absurd hvalue Bool.false_ne_true

/-- From whatever was discovered before, a document is taken in exactly if its root is an object or
a list with an object among its elements; any other value is turned down and leaves everything as it
was.  No class is ever looked up in vain: once the value of a property has been walked, the class
that the evidence of the property looks up has come up. -/
theorem observe_fails_only_on_roots (root : String) (value : Value) (discovery : Discovery) :
    (isRoot value = true ∧ (observe root value discovery).1 = .ok () ∨
      isRoot value = false ∧ observe root value discovery =
        (.error (.unsupportedRoot (describeRoot value)), discovery)) ∧
    (∀ name, (observe root value discovery).1 ≠ .error (.unknownClass name)) ∧
    ∀ property child, ∃ evidence,
      evidenceOf
        (walkValue (className property) (elementClassName property) child discovery).2.knows
        singular property child = .ok evidence := by
  refine ⟨?_, ?_, ?_⟩
  · cases hvalue : isRoot value with
    | true => exact .inl ⟨rfl, by rw [observe_run hvalue]⟩
    | false => exact .inr ⟨rfl, observe_turned_down hvalue discovery⟩
  · intro name
    cases hvalue : isRoot value with
    | true =>
        rw [observe_run hvalue]
        simp
    | false =>
        rw [observe_turned_down hvalue]
        simp
  · intro property child
    rw [walkValue_run]
    exact ⟨_, evidenceOf_eq_settled fun step hstep =>
      knows_applyAll.2 (.inr ⟨step, hstep, rfl⟩)⟩

/-! ## A fresh walk -/

/-- What the walk through a document discovers from nothing. -/
def discovered (fieldPrefix root : String) (value : Value) : Discovery :=
  (openRoot root { fieldPrefix }).applyAll (rootSteps root value)

theorem observe_fresh {root : String} {value : Value} (hvalue : isRoot value = true)
    (fieldPrefix : String) :
    observe root value { fieldPrefix } = (.ok (), discovered fieldPrefix root value) :=
  observe_run hvalue _

theorem discovered_root (fieldPrefix root : String) (value : Value) :
    (discovered fieldPrefix root value).root = some root := by
  rw [discovered, applyAll_root]
  rfl

theorem discovered_classes (fieldPrefix root : String) (value : Value) :
    (discovered fieldPrefix root value).classes =
      (run (stepDrafts fieldPrefix) [(root, {})] (rootSteps root value)).1 :=
  (applyAll_eq_run _ _).1

theorem discovered_diagnostics (fieldPrefix root : String) (value : Value) :
    (discovered fieldPrefix root value).diagnostics =
      (run (stepDrafts fieldPrefix) [(root, {})] (rootSteps root value)).2 :=
  (applyAll_eq_run _ _).2.trans (List.nil_append _)

theorem discovered_nodup (fieldPrefix root : String) (value : Value) :
    ((discovered fieldPrefix root value).classes.map (·.1)).Nodup := by
  rw [discovered_classes]
  exact run_stepDrafts_nodup (by simp) _

theorem draftIn_fresh (root name : String) : draftIn name [(root, {})] = {} := by
  rw [draftIn, List.lookup_cons]
  cases name == root <;> rfl

theorem draftIn_discovered {fieldPrefix root name : String} {value : Value} {draft : Draft}
    (hdraft : (name, draft) ∈ (discovered fieldPrefix root value).classes) :
    draftIn name (discovered fieldPrefix root value).classes = draft :=
  draftIn_of_mem (discovered_nodup _ _ _) hdraft

end Exemplar.Discovery
