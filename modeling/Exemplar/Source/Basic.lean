import Exemplar.Failure
import Exemplar.Model.Basic

/-!
# Generated sources

A source is a list of lines that knows where blocks open and close; the indentation follows from
that. The names declared in one body must differ from each other and from the reserved ones.
-/

namespace Exemplar

structure SourceFile where
  /-- The class that the file is for; empty for a file that is for no class. -/
  className : String
  /-- Where the file belongs, below the root of the output. -/
  path : Path
  source : String
  deriving DecidableEq

namespace Source

inductive Line where
  | plain (text : String)
  | blank
  /-- What follows is a step deeper. -/
  | opening (text : String)
  /-- This line and what follows is a step less deep. -/
  | closing (text : String)
  deriving DecidableEq

/-- The indentation of all generated sources. -/
def indentation (depth : Nat) : String :=
  String.ofList (List.replicate (4 * depth) ' ')

/-- The lines as text, from a depth on. -/
def renderFrom (depth : Nat) : List Line → String
  | [] => ""
  | .plain text :: rest => indentation depth ++ text ++ "\n" ++ renderFrom depth rest
  | .blank :: rest => "\n" ++ renderFrom depth rest
  | .opening text :: rest => indentation depth ++ text ++ "\n" ++ renderFrom (depth + 1) rest
  | .closing text :: rest =>
      indentation (depth - 1) ++ text ++ "\n" ++ renderFrom (depth - 1) rest

def render (lines : List Line) : String :=
  renderFrom 0 lines

/-- The first name of the list that is among those seen or repeats one before it. -/
def firstRepeat? (seen : List String) : List String → Option String
  | [] => none
  | name :: rest =>
      if seen.contains name then some name else firstRepeat? (name :: seen) rest

/-- Declares names in the body of a type. -/
def declare (owner : String) (names : List String) : Except Failure Unit :=
  match firstRepeat? [] names with
  | some name => .error (.duplicateMember owner name)
  | none => .ok ()

theorem firstRepeat?_eq_none_iff {seen names : List String} :
    firstRepeat? seen names = none ↔ names.Nodup ∧ ∀ name ∈ names, name ∉ seen := by
  induction names generalizing seen with
  | nil => simp [firstRepeat?]
  | cons name rest ih =>
      rw [firstRepeat?, List.nodup_cons]
      by_cases h : name ∈ seen
      · simp [h]
      · have hbeyond : (∀ other ∈ rest, other ∉ name :: seen) ↔
            name ∉ rest ∧ ∀ other ∈ rest, other ∉ seen := by
          simp only [List.mem_cons, not_or]
          constructor
          · intro hrest
            exact ⟨fun hmem => (hrest name hmem).1 rfl, fun other hmem => (hrest other hmem).2⟩
          · rintro ⟨hname, hrest⟩ other hmem
            exact ⟨fun heq => hname (heq ▸ hmem), hrest other hmem⟩
        have hcontains : seen.contains name = false := by simpa using h
        rw [hcontains, if_neg Bool.false_ne_true, ih, hbeyond]
        simp only [List.forall_mem_cons, h, not_false_eq_true, true_and]
        constructor
        · rintro ⟨hnodup, hname, hrest⟩
          exact ⟨⟨hname, hnodup⟩, hrest⟩
        · rintro ⟨⟨hname, hnodup⟩, hrest⟩
          exact ⟨hnodup, hname, hrest⟩

/-- The name that is found stands behind one like it. -/
theorem firstRepeat?_eq_some {seen names : List String} {name : String}
    (h : firstRepeat? seen names = some name) :
    ∃ before after, names = before ++ name :: after ∧ (name ∈ seen ∨ name ∈ before) := by
  induction names generalizing seen with
  | nil => cases h
  | cons first rest ih =>
      rw [firstRepeat?] at h
      split at h
      · rename_i hseen
        cases h
        exact ⟨[], rest, rfl, .inl (List.contains_iff_mem.1 hseen)⟩
      · obtain ⟨before, after, hrest, hname⟩ := ih h
        refine ⟨first :: before, after, by rw [hrest, List.cons_append], ?_⟩
        rcases hname with hname | hname
        · rcases List.mem_cons.1 hname with rfl | hname
          · exact .inr List.mem_cons_self
          · exact .inl hname
        · exact .inr (List.mem_cons_of_mem _ hname)

theorem declare_eq_ok_iff {owner : String} {names : List String} :
    declare owner names = .ok () ↔ names.Nodup := by
  have hnone : firstRepeat? [] names = none ↔ names.Nodup := by
    simp [firstRepeat?_eq_none_iff]
  rw [← hnone, declare]
  cases firstRepeat? [] names <;> simp

/-- Refuses a model in which a class has the name of a builder. -/
def checkBuilderNames (builderName : String → String) (model : Model) : Except Failure Unit :=
  match model.classNames.find? (fun name => model.hasClass (builderName name)) with
  | some name => .error (.builderNameClash (builderName name))
  | none => .ok ()

/-- Where all builders have one name, a model is refused exactly if it has a class of it. -/
theorem checkBuilderNames_const (builder : String) (model : Model) :
    checkBuilderNames (fun _ => builder) model =
      if model.hasClass builder then .error (.builderNameClash builder) else .ok () := by
  simp only [checkBuilderNames]
  cases hclass : model.hasClass builder with
  | false =>
      have hnone : model.classNames.find? (fun _ => false) = none :=
        List.find?_eq_none.2 fun _ _ => Bool.false_ne_true
      rw [hnone]
      rfl
  | true =>
      rw [Model.hasClass, List.contains_iff_mem] at hclass
      cases hnames : model.classNames with
      | nil =>
          rw [hnames] at hclass
          cases hclass
      | cons name rest => simp

end Source

end Exemplar
