import Mathlib.Logic.Relation
import Mathlib.Order.WellFounded
import Exemplar.Proofs.Resolution
import Exemplar.Source.Rust

/-!
# The search for recursive structs

A struct holds the structs that its fields name, those in lists apart, and with them whatever these
hold.  Whether a class leads back to the struct is found by a search with a stack and a set of
classes seen before, over a graph that may have cycles and may name classes that there are none of.
Every run of the search comes to an end, since a step takes a class off the stack and classes are
opened once only; and at the end of every run the answer is whether there is a way through the
graph.  The bounded search is one of these runs, and its bound is never reached.
-/

namespace Exemplar.Source.Rust

open Relation (ReflTransGen TransGen)

/-- A field of the first class has the second for its type. -/
def Holds (model : Model) (owner held : String) : Prop :=
  ∃ cls, model.class? owner = some cls ∧ ∃ field ∈ cls.fields, field.ty = .named held

theorem inlineClass?_eq_some_iff {field : Field} {held : String} :
    inlineClass? field = some held ↔ field.ty = .named held := by
  unfold inlineClass?
  split
  · rename_i name hty
    rw [hty, Option.some_inj, Ty.named.injEq]
  · rename_i hty
    constructor
    · intro h
      cases h
    · intro h
      exact absurd h (hty held)

theorem mem_inlineClasses {model : Model} {owner held : String} :
    held ∈ inlineClasses model owner ↔ Holds model owner held := by
  unfold inlineClasses Holds
  cases hclass : model.class? owner with
  | none => simp
  | some cls => simp [List.mem_filterMap, inlineClass?_eq_some_iff]

/-! ## The search step by step -/

/-- Where a search stands: the classes that were opened, and those still to be looked at, the next
one first. -/
structure Search where
  seen : List String
  stack : List String

namespace Search

def start (target : String) : Search := ⟨[], [target]⟩

/-- One step of the search for an owner.  In which order the classes that a class holds come on the
stack is left open. -/
inductive Step (model : Model) (owner : String) : Search → Search → Prop where
  | skipped {name : String} {seen stack : List String} (hname : name ≠ owner)
      (hseen : name ∈ seen) : Step model owner ⟨seen, name :: stack⟩ ⟨seen, stack⟩
  | opened {name : String} {seen stack held : List String} (hname : name ≠ owner)
      (hseen : name ∉ seen) (hheld : held.Perm (inlineClasses model name)) :
      Step model owner ⟨seen, name :: stack⟩ ⟨name :: seen, held ++ stack⟩

/-- A search ends with the owner next, or with nothing left. -/
inductive Ends (owner : String) : Search → Bool → Prop where
  | found (seen stack : List String) : Ends owner ⟨seen, owner :: stack⟩ true
  | exhausted (seen : List String) : Ends owner ⟨seen, []⟩ false

variable {model : Model} {owner target : String}

theorem ends_or_step (model : Model) (owner : String) (search : Search) :
    (∃ answer, Ends owner search answer) ∨ ∃ next, Step model owner search next := by
  obtain ⟨seen, stack⟩ := search
  cases stack with
  | nil => exact .inl ⟨false, .exhausted seen⟩
  | cons name stack =>
      by_cases hname : name = owner
      · subst hname
        exact .inl ⟨true, .found seen stack⟩
      · by_cases hseen : name ∈ seen
        · exact .inr ⟨_, .skipped hname hseen⟩
        · exact .inr ⟨_, .opened hname hseen (.refl _)⟩

/-! ## Every run comes to an end -/

/-- How many fields the classes have that were not opened. -/
def unopened (seen : List String) : List ClassDef → Nat
  | [] => 0
  | cls :: rest => (if seen.contains cls.name then 0 else cls.fields.length) + unopened seen rest

/-- What is left to do at most: the stack, and the fields that may still come on it. -/
def weight (model : Model) (search : Search) : Nat :=
  search.stack.length + unopened search.seen model.classes

theorem unopened_append (seen : List String) (first second : List ClassDef) :
    unopened seen (first ++ second) = unopened seen first + unopened seen second := by
  induction first with
  | nil => exact (Nat.zero_add _).symm
  | cons cls rest ih => rw [List.cons_append, unopened, unopened, ih, Nat.add_assoc]

theorem unopened_cons_le (name : String) (seen : List String) (classes : List ClassDef) :
    unopened (name :: seen) classes ≤ unopened seen classes := by
  induction classes with
  | nil => exact le_rfl
  | cons cls rest ih =>
      rw [unopened, unopened]
      apply Nat.add_le_add _ ih
      by_cases hseen : seen.contains cls.name = true
      · have hlater : (name :: seen).contains cls.name = true :=
          List.contains_iff_mem.2 (List.mem_cons_of_mem _ (List.contains_iff_mem.1 hseen))
        rw [if_pos hlater, if_pos hseen]
      · rw [if_neg hseen]
        split
        · exact Nat.zero_le _
        · exact le_rfl

theorem length_inlineClasses_le {seen : List String} {name : String} (hseen : name ∉ seen) :
    (inlineClasses model name).length + unopened (name :: seen) model.classes ≤
      unopened seen model.classes := by
  unfold inlineClasses
  cases hclass : model.class? name with
  | none => simpa using unopened_cons_le name seen model.classes
  | some cls =>
      have hname : cls.name = name := by simpa using List.find?_some hclass
      obtain ⟨before, after, hclasses⟩ := List.append_of_mem (List.mem_of_find?_eq_some hclass)
      have hbefore := unopened_cons_le name seen before
      have hafter := unopened_cons_le name seen after
      have hlength : (cls.fields.filterMap inlineClass?).length ≤ cls.fields.length :=
        List.length_filterMap_le _ _
      have hcls : ∀ rest, unopened seen (cls :: rest) = cls.fields.length + unopened seen rest := by
        intro rest
        simp [unopened, hname, hseen]
      have hopened : ∀ rest,
          unopened (name :: seen) (cls :: rest) = unopened (name :: seen) rest := by
        intro rest
        simp [unopened, hname]
      rw [hclasses, unopened_append, unopened_append, hcls, hopened]
      dsimp only
      omega

theorem weight_lt_of_step {search next : Search} (h : Step model owner search next) :
    next.weight model < search.weight model := by
  cases h with
  | skipped hname hseen =>
      simp only [weight, List.length_cons]
      omega
  | @opened name seen stack held hname hseen hheld =>
      have hlength : (inlineClasses model name).length + unopened (name :: seen) model.classes ≤
          unopened seen model.classes := length_inlineClasses_le hseen
      simp only [weight, List.length_append, List.length_cons, hheld.length_eq]
      omega

theorem wellFounded_step (model : Model) (owner : String) :
    WellFounded fun next search => Step model owner search next :=
  (InvImage.wf (weight model) wellFounded_lt).mono fun _ _ h => weight_lt_of_step h

/-- The bounded search is a run that ends, unless its bound is too small. -/
theorem searchOwner_ends (search : Search) {bound : Nat} (hbound : search.weight model ≤ bound) :
    ∃ final, ReflTransGen (Step model owner) search final ∧
      Ends owner final (searchOwner model owner bound search.seen search.stack) := by
  induction bound generalizing search with
  | zero =>
      obtain ⟨seen, stack⟩ := search
      have hempty : stack.length = 0 :=
        Nat.le_zero.1 ((Nat.le_add_right _ _).trans hbound)
      rw [List.length_eq_zero_iff.1 hempty]
      exact ⟨_, .refl, .exhausted seen⟩
  | succ bound ih =>
      obtain ⟨seen, stack⟩ := search
      cases stack with
      | nil => exact ⟨_, .refl, .exhausted seen⟩
      | cons name stack =>
          by_cases hname : name = owner
          · subst hname
            rw [searchOwner, if_pos rfl]
            exact ⟨_, .refl, .found seen stack⟩
          · by_cases hseen : name ∈ seen
            · have hstep : Step model owner ⟨seen, name :: stack⟩ ⟨seen, stack⟩ :=
                .skipped hname hseen
              obtain ⟨final, hrun, hends⟩ :=
                ih _ (Nat.le_of_lt_succ ((weight_lt_of_step hstep).trans_le hbound))
              rw [searchOwner, if_neg hname, if_pos (List.contains_iff_mem.2 hseen)]
              exact ⟨final, .head hstep hrun, hends⟩
            · have hstep : Step model owner ⟨seen, name :: stack⟩
                  ⟨name :: seen, inlineClasses model name ++ stack⟩ :=
                .opened hname hseen (.refl _)
              obtain ⟨final, hrun, hends⟩ :=
                ih _ (Nat.le_of_lt_succ ((weight_lt_of_step hstep).trans_le hbound))
              rw [searchOwner, if_neg hname, if_neg (mt List.contains_iff_mem.1 hseen)]
              exact ⟨final, .head hstep hrun, hends⟩

/-! ## The answer of a run -/

/-- What every state of a search knows of the way from the target to the owner. -/
structure Explores (model : Model) (owner target : String) (search : Search) : Prop where
  reached : ∀ name ∈ search.stack, ReflTransGen (Holds model) target name
  started : target ∈ search.seen ∨ target ∈ search.stack
  closed : ∀ name ∈ search.seen, ∀ held, Holds model name held →
    held ∈ search.seen ∨ held ∈ search.stack
  ownerUnseen : owner ∉ search.seen

theorem explores_start (model : Model) (owner target : String) :
    Explores model owner target (start target) where
  reached name hname := by
    rw [List.mem_singleton.1 hname]
  started := .inr List.mem_cons_self
  closed _ hname := absurd hname List.not_mem_nil
  ownerUnseen := List.not_mem_nil

/-- What was seen or is on the stack stays so when the name on top is seen. -/
theorem seen_or_stack_of_top {name other : String} {seen stack : List String}
    (hname : name ∈ seen) (h : other ∈ seen ∨ other ∈ name :: stack) :
    other ∈ seen ∨ other ∈ stack := by
  rcases h with h | h
  · exact .inl h
  · rcases List.mem_cons.1 h with rfl | h
    · exact .inl hname
    · exact .inr h

theorem explores_step {search next : Search} (h : Explores model owner target search)
    (hstep : Step model owner search next) : Explores model owner target next := by
  cases hstep with
  | @skipped name seen stack hname hseen =>
      exact ⟨fun other hother => h.reached other (List.mem_cons_of_mem _ hother),
        seen_or_stack_of_top hseen h.started,
        fun other hother held hheld =>
          seen_or_stack_of_top hseen (h.closed other hother held hheld),
        h.ownerUnseen⟩
  | @opened name seen stack held hname hseen hperm =>
      have htop := h.reached name List.mem_cons_self
      -- A name is known in the new state as soon as it was in the old one.
      have hknown : ∀ {other}, other ∈ seen ∨ other ∈ name :: stack →
          other ∈ name :: seen ∨ other ∈ held ++ stack := by
        intro other hother
        rcases seen_or_stack_of_top List.mem_cons_self
          (hother.imp_left (List.mem_cons_of_mem name)) with hother | hother
        · exact .inl hother
        · exact .inr (List.mem_append_right _ hother)
      constructor
      case reached =>
        intro other hother
        rcases List.mem_append.1 hother with hother | hother
        · exact htop.tail (mem_inlineClasses.1 (hperm.mem_iff.1 hother))
        · exact h.reached other (List.mem_cons_of_mem _ hother)
      case started => exact hknown h.started
      case closed =>
        intro other hother next hnext
        rcases List.mem_cons.1 hother with rfl | hother
        · exact .inr (List.mem_append_left _ (hperm.mem_iff.2 (mem_inlineClasses.2 hnext)))
        · exact hknown (h.closed other hother next hnext)
      case ownerUnseen =>
        rintro howner
        rcases List.mem_cons.1 howner with heq | howner
        · exact hname heq.symm
        · exact h.ownerUnseen howner

theorem explores_run {search : Search}
    (hrun : ReflTransGen (Step model owner) (start target) search) :
    Explores model owner target search := by
  induction hrun with
  | refl => exact explores_start model owner target
  | tail _ hstep ih => exact explores_step ih hstep

/-- Where nothing is left on the stack, all that the target leads to was seen. -/
theorem mem_seen_of_exhausted {seen : List String} (h : Explores model owner target ⟨seen, []⟩)
    {name : String} (hreached : ReflTransGen (Holds model) target name) : name ∈ seen := by
  induction hreached with
  | refl => exact h.started.resolve_right List.not_mem_nil
  | tail _ hheld ih => exact (h.closed _ ih _ hheld).resolve_right List.not_mem_nil

theorem answer_eq_true_iff {final : Search} {answer : Bool}
    (hrun : ReflTransGen (Step model owner) (start target) final)
    (hends : Ends owner final answer) :
    answer = true ↔ ReflTransGen (Holds model) target owner := by
  have hexplores := explores_run hrun
  cases hends with
  | found seen stack => exact iff_of_true rfl (hexplores.reached owner List.mem_cons_self)
  | exhausted seen =>
      exact iff_of_false Bool.false_ne_true
        fun hreached => hexplores.ownerUnseen (mem_seen_of_exhausted hexplores hreached)

theorem weight_start (model : Model) (target : String) :
    (start target).weight model = searchBound model := by
  have hsum : ∀ classes : List ClassDef, 1 + unopened [] classes =
      classes.foldr (fun cls count => cls.fields.length + count) 1 := by
    intro classes
    induction classes with
    | nil => rfl
    | cons cls rest ih =>
        have hcls : unopened [] (cls :: rest) = cls.fields.length + unopened [] rest := rfl
        rw [List.foldr_cons, ← ih, hcls]
        omega
  exact hsum model.classes

theorem isRecursive_ends (model : Model) (owner target : String) :
    ∃ final, ReflTransGen (Step model owner) (start target) final ∧
      Ends owner final (isRecursive model owner target) :=
  searchOwner_ends (start target) (weight_start model target).le

end Search

/-- A class leads back to an owner exactly if there is a way to it along fields of class type. -/
theorem isRecursive_iff {model : Model} {owner target : String} :
    isRecursive model owner target = true ↔ ReflTransGen (Holds model) target owner := by
  obtain ⟨final, hrun, hends⟩ := Search.isRecursive_ends model owner target
  exact Search.answer_eq_true_iff hrun hends

end Exemplar.Source.Rust
