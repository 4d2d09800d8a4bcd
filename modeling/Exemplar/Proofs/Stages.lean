import Exemplar.Generation

/-!
# The stages of a run

A run checks the root name, reads the text, resolves the document and makes the sources of its model.
Its result is that of these stages one after the other: the first that fails decides.
-/

namespace Exemplar.Generation

open Json

variable (options : Options) (root : String)

theorem checkRootName_of_isClassName {root : String} (hroot : Naming.isClassName root = true) :
    checkRootName root = .ok () := by
  rw [checkRootName, if_pos hroot]

theorem model_result (value : Value) (watch : Watch) :
    (model options root value watch).result =
      (do checkRootName root
          (modelOf root value options.fieldPrefix watch).result) := by
  rw [model]
  cases checkRootName root <;> rfl

theorem model_result_of_isClassName {root : String} (hroot : Naming.isClassName root = true)
    (value : Value) (watch : Watch) :
    (model options root value watch).result =
      (modelOf root value options.fieldPrefix watch).result := by
  rw [model_result, checkRootName_of_isClassName hroot]
  rfl

/-- A model is made under a root name that is accepted. -/
theorem of_model {options : Options} {root : String} {value : Value} {watch : Watch}
    {made : Model} (h : (model options root value watch).result = .ok made) :
    Naming.isClassName root = true ∧
      (modelOf root value options.fieldPrefix watch).result = .ok made := by
  rw [model_result] at h
  obtain ⟨_, hcheck, hmodel⟩ := bind_eq_ok h
  rw [checkRootName] at hcheck
  split at hcheck
  · exact ⟨by assumption, hmodel⟩
  · cases hcheck

theorem modelOfText_result (text : String) (watch : Watch) :
    (modelOfText options root text watch).result =
      (do checkRootName root
          let value ← readDocument text
          (model options root value watch).result) := by
  rw [modelOfText]
  cases checkRootName root with
  | error failure => rfl
  | ok _ => cases readDocument text <;> rfl

theorem emit_result (namespaceText : String) (outcome : Resolution.Outcome Model) :
    (emit options namespaceText outcome).result =
      (do let model ← outcome.result
          let files ← model.emit options namespaceText
          return (model, files)) := by
  rw [emit]
  cases outcome.result with
  | error failure => rfl
  | ok model =>
      simp only [bind, Except.bind]
      cases model.emit options namespaceText <;> rfl

theorem sources_result (value : Value) (namespaceText : String) (watch : Watch) :
    (sources options root value namespaceText watch).result =
      (do checkRootName root
          let model ← (modelOf root value options.fieldPrefix watch).result
          let files ← model.emit options namespaceText
          return (model, files)) := by
  rw [sources, emit_result, model_result]
  cases checkRootName root <;> rfl

theorem sourcesOfText_result (text namespaceText : String) (watch : Watch) :
    (sourcesOfText options root text namespaceText watch).result =
      (do checkRootName root
          let value ← readDocument text
          (sources options root value namespaceText watch).result) := by
  rw [sourcesOfText, emit_result, modelOfText_result]
  cases checkRootName root with
  | error failure => rfl
  | ok _ =>
      cases readDocument text with
      | error failure => rfl
      | ok value => exact (emit_result options namespaceText _).symm

end Exemplar.Generation
