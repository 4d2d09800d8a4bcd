import Exemplar.Path

/-!
# Failures

Everything that ends a run without a result. Each failure is a cause; its text is made in one place,
and so is its kind.
-/

namespace Exemplar

/-- Why a file operation failed. -/
inductive FileFault where
  | notFound
  | alreadyExists
  | notDirectory
  | isDirectory
  /-- A directory that is not empty was to be removed. -/
  | notEmpty
  /-- The content is no text. -/
  | notText
  | other (message : String)
  deriving DecidableEq

def FileFault.message : FileFault → String
  | .notFound => "No such file or directory (os error 2)"
  | .alreadyExists => "File exists (os error 17)"
  | .notDirectory => "Not a directory (os error 20)"
  | .isDirectory => "Is a directory (os error 21)"
  | .notEmpty => "Directory not empty (os error 39)"
  | .notText => "stream did not contain valid UTF-8"
  | .other message => message

inductive Failure where
  | invalidRootName (name : String)
  | emptyInput
  | invalidJson (message : String)
  /-- The root is neither an object nor a list with objects. -/
  | unsupportedRoot (found : String)
  | config (path message : String)
  | filter (message : String)
  | duplicateMember (owner member : String)
  | builderNameClash (className : String)
  | file (path : Path) (fault : FileFault)
  | cancelled
  /-- A value was typed before its class came up. -/
  | unknownClass (name : String)
  deriving DecidableEq

namespace Failure

inductive Kind where
  | invalidInput
  | emission
  | file
  | cancelled
  | internal
  deriving DecidableEq

def kind : Failure → Kind
  | .invalidRootName _ | .emptyInput | .invalidJson _ | .unsupportedRoot _ | .config _ _
  | .filter _ => .invalidInput
  | .duplicateMember _ _ | .builderNameClash _ => .emission
  | .file _ _ => .file
  | .cancelled => .cancelled
  | .unknownClass _ => .internal

def message : Failure → String
  | .invalidRootName name =>
      "invalid root class name `" ++ name ++ "`: expected a letter followed by letters or digits"
  | .emptyInput => "JSON input is empty"
  | .invalidJson message => "invalid JSON: " ++ message
  | .unsupportedRoot found => "unsupported JSON root: expected an object, found " ++ found
  | .config path message => "invalid configuration at " ++ path ++ ": " ++ message
  | .filter message => "input filter failed: " ++ message
  | .duplicateMember owner member =>
      "duplicate member `" ++ member ++ "` in `" ++ owner ++ "`"
  | .builderNameClash className =>
      "generated class `" ++ className ++ "` clashes with the builder type name"
  | .file path fault => "I/O error at " ++ path.shown ++ ": " ++ fault.message
  | .cancelled => "generation cancelled"
  | .unknownClass name =>
      "internal error: class `" ++ name ++ "` referenced before it was defined"

/-- The text of the cause beneath a failure, for those that have one. -/
def cause? : Failure → Option String
  | .invalidJson message => some message
  | .file _ fault => some fault.message
  | _ => none

end Failure

/-- What two steps give together is what the second makes of the result of the first. -/
theorem bind_eq_ok {ε α β : Type} {first : Except ε α} {second : α → Except ε β} {result : β}
    (h : (first >>= second) = .ok result) :
    ∃ value, first = .ok value ∧ second value = .ok result := by
  cases first with
  | error failure => cases h
  | ok value => exact ⟨value, rfl, h⟩

/-- Two steps fail as the first does, or as the second does on the result of the first. -/
theorem bind_eq_error {ε α β : Type} {first : Except ε α} {second : α → Except ε β} {failure : ε}
    (h : (first >>= second) = .error failure) :
    first = .error failure ∨ ∃ value, first = .ok value ∧ second value = .error failure := by
  cases first with
  | error own =>
      cases h
      exact .inl rfl
  | ok value => exact .inr ⟨value, rfl, h⟩

/-- A step whose result is taken on fails by itself. -/
theorem eq_error_of_bind_pure {ε α β : Type} {first : Except ε α} {view : α → β} {failure : ε}
    (h : (do return view (← first)) = Except.error failure) : first = .error failure := by
  rcases bind_eq_error h with hfirst | ⟨_, _, hview⟩
  · exact hfirst
  · cases hview

/-- Each result of a list of steps is that of a step. -/
theorem exists_of_mem_mapM {ε α β : Type} {step : α → Except ε β} {entries : List α}
    {results : List β} (h : entries.mapM step = .ok results) {result : β}
    (hmem : result ∈ results) : ∃ entry ∈ entries, step entry = .ok result := by
  induction entries generalizing results with
  | nil =>
      cases h
      cases hmem
  | cons entry rest ih =>
      rw [List.mapM_cons] at h
      obtain ⟨first, hfirst, h⟩ := bind_eq_ok h
      obtain ⟨others, hothers, h⟩ := bind_eq_ok h
      cases h
      rcases List.mem_cons.1 hmem with rfl | hmem
      · exact ⟨entry, List.mem_cons_self, hfirst⟩
      · obtain ⟨other, hother, hstep⟩ := ih hothers hmem
        exact ⟨other, List.mem_cons_of_mem _ hother, hstep⟩

/-- Each step of a list of steps has its result. -/
theorem exists_mem_of_mapM {ε α β : Type} {step : α → Except ε β} {entries : List α}
    {results : List β} (h : entries.mapM step = .ok results) {entry : α}
    (hmem : entry ∈ entries) : ∃ result ∈ results, step entry = .ok result := by
  induction entries generalizing results with
  | nil => cases hmem
  | cons head rest ih =>
      rw [List.mapM_cons] at h
      obtain ⟨first, hfirst, h⟩ := bind_eq_ok h
      obtain ⟨others, hothers, h⟩ := bind_eq_ok h
      cases h
      rcases List.mem_cons.1 hmem with rfl | hmem
      · exact ⟨first, List.mem_cons_self, hfirst⟩
      · obtain ⟨other, hother, hstep⟩ := ih hothers hmem
        exact ⟨other, List.mem_cons_of_mem _ hother, hstep⟩

/-- What the steps agree to show of their results is shown by the list of them. -/
theorem map_of_mapM {ε α β γ : Type} {step : α → Except ε β} {view : β → γ} {expected : α → γ}
    (hview : ∀ entry result, step entry = .ok result → view result = expected entry)
    {entries : List α} {results : List β} (h : entries.mapM step = .ok results) :
    results.map view = entries.map expected := by
  induction entries generalizing results with
  | nil =>
      cases h
      rfl
  | cons entry rest ih =>
      rw [List.mapM_cons] at h
      obtain ⟨first, hfirst, h⟩ := bind_eq_ok h
      obtain ⟨others, hothers, h⟩ := bind_eq_ok h
      cases h
      rw [List.map_cons, List.map_cons, hview entry first hfirst, ih hothers]

/-- A list of steps fails as one of them does. -/
theorem exists_of_mapM_error {ε α β : Type} {step : α → Except ε β} {entries : List α}
    {failure : ε} (h : entries.mapM step = .error failure) :
    ∃ entry ∈ entries, step entry = .error failure := by
  induction entries with
  | nil => cases h
  | cons entry rest ih =>
      rw [List.mapM_cons] at h
      cases hentry : step entry with
      | error own =>
          rw [hentry] at h
          cases h
          exact ⟨entry, List.mem_cons_self, hentry⟩
      | ok first =>
          cases hrest : rest.mapM step with
          | error later =>
              rw [hentry, hrest] at h
              cases h
              obtain ⟨other, hother, hstep⟩ := ih hrest
              exact ⟨other, List.mem_cons_of_mem _ hother, hstep⟩
          | ok others =>
              rw [hentry, hrest] at h
              cases h

end Exemplar
