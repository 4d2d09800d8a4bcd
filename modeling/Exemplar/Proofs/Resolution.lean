import Exemplar.Generation
import Exemplar.Proofs.Discovery.Walk

/-!
# Resolved models

A run that is not called off resolves every class that was discovered.  Its model has these classes
in the order of discovery, under the diagnostics of the walk and those of the resolution.
-/

namespace Exemplar

/-- Whether the run is called off at one of the next polls, one for each of `count` classes. -/
def Watch.callsOff (watch : Watch) (done count : Nat) : Bool :=
  (List.range' done count).any watch

/-- The model of what was discovered, if nothing calls its resolution off. -/
def Discovery.resolved (discovery : Discovery) : Model :=
  ⟨discovery.root.getD "", discovery.classes.map (Resolution.resolveClass discovery.knows),
    discovery.diagnostics ++ Resolution.unresolved discovery.knows discovery.classes⟩

namespace Resolution

open Discovery Json

/-- A run resolves every class, unless the watch calls it off before one of them. -/
theorem resolveClasses_result (known : Known) (watch : Watch) (total done : Nat)
    (entries : List (String × Draft)) :
    (resolveClasses known watch total done entries).result =
      if watch.callsOff done entries.length then .error .cancelled
      else .ok (entries.map (resolveClass known)) := by
  induction entries generalizing done with
  | nil => rfl
  | cons entry rest ih =>
      have hpolls : watch.callsOff done (entry :: rest).length =
          (watch done || watch.callsOff (done + 1) rest.length) := rfl
      rw [hpolls, resolveClasses]
      cases watch done with
      | true => rfl
      | false =>
          simp only [Bool.false_eq_true, if_false, Bool.false_or, ih]
          split <;> rfl

theorem resolve_result (discovery : Discovery) (watch : Watch) :
    (discovery.resolve watch).result =
      if watch.callsOff 0 discovery.classes.length then .error .cancelled
      else .ok discovery.resolved := by
  simp only [Discovery.resolve, resolveClasses_result]
  split <;> rfl

/-- A run that is not called off while there are classes left gives the model. -/
theorem resolve_of_quiet {discovery : Discovery} {watch : Watch}
    (h : ∀ received < discovery.classes.length, watch received = false) :
    (discovery.resolve watch).result = .ok discovery.resolved := by
  have hpolls : watch.callsOff 0 discovery.classes.length = false := by
    rw [Watch.callsOff, ← List.range_eq_range']
    apply List.any_eq_false.2
    intro received hreceived
    rw [h received (List.mem_range.1 hreceived)]
    exact Bool.false_ne_true
  rw [resolve_result, hpolls, if_neg Bool.false_ne_true]

/-- The classes of the model of a document. -/
def resolvedClasses (fieldPrefix root : String) (value : Value) : List ClassDef :=
  let discovery := discovered fieldPrefix root value
  discovery.classes.map (resolveClass discovery.knows)

/-- The model of a document in a run that is not called off. -/
def resolvedModel (fieldPrefix root : String) (value : Value) : Model :=
  let discovery := discovered fieldPrefix root value
  ⟨root, resolvedClasses fieldPrefix root value,
    discovery.diagnostics ++ unresolved discovery.knows discovery.classes⟩

theorem resolved_discovered (fieldPrefix root : String) (value : Value) :
    (discovered fieldPrefix root value).resolved = resolvedModel fieldPrefix root value := by
  rw [Discovery.resolved, discovered_root]
  rfl

/-- What becomes of a document: it is turned down for its root, or called off, or else resolved. -/
theorem modelOf_result (root : String) (value : Value) (fieldPrefix : String) (watch : Watch) :
    (Generation.modelOf root value fieldPrefix watch).result =
      if isRoot value then
        if watch.callsOff 0 (discovered fieldPrefix root value).classes.length then
          .error .cancelled
        else .ok (resolvedModel fieldPrefix root value)
      else .error (.unsupportedRoot (describeRoot value)) := by
  cases hvalue : isRoot value with
  | false =>
      rw [Generation.modelOf, observe_turned_down hvalue]
      rfl
  | true =>
      rw [Generation.modelOf, observe_fresh hvalue, if_pos rfl]
      simp only [resolve_result, resolved_discovered]

theorem modelOf_never {root : String} {value : Value} (hvalue : isRoot value = true)
    (fieldPrefix : String) :
    (Generation.modelOf root value fieldPrefix Watch.never).result =
      .ok (resolvedModel fieldPrefix root value) := by
  have hpolls : Watch.never.callsOff 0 (discovered fieldPrefix root value).classes.length = false :=
    List.any_eq_false.2 fun _ _ => Bool.false_ne_true
  rw [modelOf_result, if_pos hvalue, hpolls, if_neg Bool.false_ne_true]

/-- If there is a model, the document has a root and the model is the resolved one. -/
theorem eq_resolvedModel {fieldPrefix root : String} {value : Value} {watch : Watch}
    {model : Model} (h : (Generation.modelOf root value fieldPrefix watch).result = .ok model) :
    isRoot value = true ∧ model = resolvedModel fieldPrefix root value := by
  rw [modelOf_result] at h
  split at h
  · rename_i hvalue
    split at h
    · cases h
    · cases h
      exact ⟨hvalue, rfl⟩
  · cases h

/-- The model has the classes that were discovered. -/
theorem hasClass_resolvedModel (fieldPrefix root : String) (value : Value) :
    (resolvedModel fieldPrefix root value).hasClass =
      (discovered fieldPrefix root value).knows := by
  funext name
  apply Bool.eq_iff_iff.2
  rw [knows, Roster.contains_iff_mem, Model.hasClass, List.contains_iff_mem, Model.classNames,
    resolvedModel, resolvedClasses, List.map_map]
  rfl

end Resolution

end Exemplar
