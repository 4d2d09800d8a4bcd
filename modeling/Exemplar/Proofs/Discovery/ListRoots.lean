import Exemplar.Proofs.Discovery.Walk

/-!
# Lists at the root

A list at the root is taken in as its objects are when each is a document of its own.  The root
class comes up once in the one case and once more for every object in the other, but only the
journal tells of the difference.  Elements that are no objects are passed over wherever they stand.
-/

namespace Exemplar.Discovery

open Json

/-! ## Findings -/

/-- What was discovered, without the journal of how it came about. -/
def findings (discovery : Discovery) : Discovery :=
  { discovery with journal := [] }

theorem findings_eq_iff {first second : Discovery} :
    first.findings = second.findings ↔
      first.fieldPrefix = second.fieldPrefix ∧ first.root = second.root ∧
        first.classes = second.classes ∧ first.diagnostics = second.diagnostics := by
  simp [findings]

/-- What a step finds does not depend on the journal. -/
theorem findings_apply {first second : Discovery} (h : first.findings = second.findings)
    (step : Step) : (first.apply step).findings = (second.apply step).findings := by
  obtain ⟨hfieldPrefix, hroot, hclasses, hdiagnostics⟩ := findings_eq_iff.1 h
  apply findings_eq_iff.2
  rw [apply_fieldPrefix, apply_fieldPrefix, apply_root, apply_root, apply_classes, apply_classes,
    apply_diagnostics, apply_diagnostics, hfieldPrefix, hclasses, hdiagnostics]
  exact ⟨rfl, hroot, rfl, rfl⟩

theorem findings_applyAll {first second : Discovery} (h : first.findings = second.findings)
    (steps : List Step) : (first.applyAll steps).findings = (second.applyAll steps).findings := by
  induction steps generalizing first second with
  | nil => exact h
  | cons step rest ih => exact ih (findings_apply h step)

/-- A root class that is there already comes up in the journal only. -/
theorem findings_openRoot {root : String} {discovery : Discovery}
    (hknows : discovery.knows root = true) (hroot : discovery.root = some root) :
    (openRoot root discovery).findings = discovery.findings := by
  rw [openRoot, withClass_of_knows hknows]
  exact findings_eq_iff.2 ⟨rfl, hroot.symm, rfl, rfl⟩

/-! ## One object after the other -/

/-- An object as a document of its own is walked as one of the root class. -/
theorem observe_object_run (root : String) (members : Members) (discovery : Discovery) :
    observe root (.object members) discovery =
      (.ok (), (openRoot root discovery).applyAll (rootObjectSteps root members)) := by
  have hsteps : rootSteps root (.object members) = rootObjectSteps root members := by
    rw [rootSteps, rootObjects, List.flatMap_singleton]
  rw [← hsteps]
  exact observe_run rfl discovery

/-- Further objects of the root class, each taken in on its own, add the steps of them all. -/
theorem observe_forM_run {root : String} {discovery opened : Discovery} (objects : List Members)
    (hknows : opened.knows root = true) (hroot : opened.root = some root)
    (h : discovery.findings = opened.findings) :
    ∃ last, forM (objects.map Value.object) (observe root) discovery = (.ok (), last) ∧
      last.findings =
        (opened.applyAll (objects.flatMap (rootObjectSteps root))).findings := by
  induction objects generalizing discovery opened with
  | nil => exact ⟨discovery, rfl, h⟩
  | cons members rest ih =>
      obtain ⟨-, hsameRoot, hclasses, -⟩ := findings_eq_iff.1 h
      have hknown : discovery.knows root = true := by rwa [knows, hclasses]
      have hnext : ((openRoot root discovery).applyAll (rootObjectSteps root members)).findings =
          (opened.applyAll (rootObjectSteps root members)).findings :=
        findings_applyAll ((findings_openRoot hknown (hsameRoot.trans hroot)).trans h) _
      obtain ⟨last, hlast, hfindings⟩ :=
        ih (knows_applyAll_of_knows _ hknows) ((applyAll_root opened _).trans hroot) hnext
      refine ⟨last, ?_, ?_⟩
      · rw [List.map_cons, List.forM_cons, bind_run (observe_object_run root members discovery)]
        exact hlast
      · rw [hfindings, List.flatMap_cons, applyAll_append]

/-- The objects among the elements of a list, as values again. -/
theorem map_rootObjects (elements : List Value) :
    (rootObjects (.array elements)).map Value.object = elements.filter Value.isObject := by
  induction elements with
  | nil => rfl
  | cons value rest ih =>
      cases value with
      | object members => exact congrArg (Value.object members :: ·) ih
      | _ => exact ih

/-- A list with the same objects in the same order is walked by the same steps. -/
theorem rootSteps_eq_of_filter_eq {elements others : List Value}
    (h : others.filter Value.isObject = elements.filter Value.isObject) (root : String) :
    rootSteps root (.array others) = rootSteps root (.array elements) := by
  have hobjects : rootObjects (.array others) = rootObjects (.array elements) := by
    rw [← map_rootObjects, ← map_rootObjects] at h
    exact (List.map_inj_right fun _ _ => Value.object.inj).1 h
  rw [rootSteps, rootSteps, hobjects]

theorem isRoot_eq_of_filter_eq {elements others : List Value}
    (h : others.filter Value.isObject = elements.filter Value.isObject) :
    isRoot (.array others) = isRoot (.array elements) := by
  have hany : ∀ values : List Value,
      isRoot (.array values) = (values.filter Value.isObject).any Value.isObject := by
    intro values
    simp only [isRoot, List.any_filter, Bool.and_self]
  rw [hany, hany, h]

/-- From whatever was discovered before, a list with an object among its elements leads to the
classes, the diagnostics and the root that its objects lead to when they are taken in as documents,
one after the other, under the same root name.  Elements that are no objects may stand anywhere. -/
theorem observe_array_eq_forM (root : String) {elements : List Value}
    (h : elements.any Value.isObject = true) (discovery : Discovery) :
    ∃ whole last,
      observe root (.array elements) discovery = (.ok (), whole) ∧
      forM (elements.filter Value.isObject) (observe root) discovery = (.ok (), last) ∧
      whole.classes = last.classes ∧ whole.diagnostics = last.diagnostics ∧
      whole.root = last.root ∧
      ∀ others, others.filter Value.isObject = elements.filter Value.isObject →
        observe root (.array others) discovery = (.ok (), whole) := by
  have hroot : isRoot (.array elements) = true := h
  obtain ⟨first, rest, hobjects⟩ := List.exists_cons_of_ne_nil (rootObjects_ne_nil hroot)
  -- The first object brings the root class up just as the list does.
  have hfirst := observe_object_run root first discovery
  have hknows :=
    knows_applyAll_of_knows (rootObjectSteps root first) (openRoot_knows root discovery)
  obtain ⟨last, hlast, hfindings⟩ := observe_forM_run rest hknows (applyAll_root _ _) rfl
  have hsame : last.findings =
      ((openRoot root discovery).applyAll (rootSteps root (.array elements))).findings := by
    rw [hfindings, rootSteps, hobjects, List.flatMap_cons, applyAll_append]
  obtain ⟨-, hsameRoot, hclasses, hdiagnostics⟩ := findings_eq_iff.1 hsame
  refine ⟨_, last, observe_run hroot discovery, ?_, hclasses.symm, hdiagnostics.symm,
    hsameRoot.symm, ?_⟩
  · rw [← map_rootObjects, hobjects, List.map_cons, List.forM_cons, bind_run hfirst]
    exact hlast
  · intro others hothers
    rw [← rootSteps_eq_of_filter_eq hothers root]
    exact observe_run ((isRoot_eq_of_filter_eq hothers).trans hroot) discovery

/-- A list with other values between its objects, one of which holds an object of the root class. -/
def mixedRoots : List Value :=
  [.null, .object [("root", .object [("a", .null)])], .array [.object []], .string "x",
    .object [("a", .bool true)]]

/-- An earlier document under another root name, in which the class of the next one is nested. -/
def earlierRoot : Discovery :=
  discovered "m" "Other" (.object [("root", .object [("b", .null)])])

theorem observe_array_eq_forM_mixedRoots :
    mixedRoots.any Value.isObject = true ∧
      ∃ whole last,
        observe "Root" (.array mixedRoots) earlierRoot = (.ok (), whole) ∧
        forM [.object [("root", .object [("a", .null)])], .object [("a", .bool true)]]
          (observe "Root") earlierRoot = (.ok (), last) ∧
        observe "Root" (.array (mixedRoots.filter Value.isObject)) earlierRoot = (.ok (), whole) ∧
        whole.classes = last.classes ∧ whole.diagnostics = last.diagnostics ∧
        last.root = some "Root" ∧ last.classes.map (·.1) = ["Other", "Root"] ∧
        last.diagnostics = [.shapeMismatch "Root" ["mB"] ["mRoot"]] := by
  have hany : mixedRoots.any Value.isObject = true := rfl
  obtain ⟨whole, last, hwhole, hlast, hclasses, hdiagnostics, hroot, hothers⟩ :=
    observe_array_eq_forM "Root" hany earlierRoot
  have hisRoot : isRoot (.array mixedRoots) = true := hany
  have hrun : (openRoot "Root" earlierRoot).applyAll (rootSteps "Root" (.array mixedRoots)) =
      whole :=
    (Prod.mk.inj ((observe_run hisRoot earlierRoot).symm.trans hwhole)).2
  refine ⟨hany, whole, last, hwhole, hlast, hothers _ rfl, hclasses, hdiagnostics, ?_, ?_, ?_⟩
  · rw [← hroot, ← hrun, applyAll_root]
    rfl
  · rw [← hclasses, ← hrun]
    decide +kernel
  · rw [← hdiagnostics, ← hrun]
    decide +kernel

end Exemplar.Discovery
