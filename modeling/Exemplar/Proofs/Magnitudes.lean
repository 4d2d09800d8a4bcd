import Exemplar.Proofs.Discovery.Parts
import Exemplar.Proofs.Discovery.Records
import Exemplar.Proofs.Json.Integers
import Exemplar.Proofs.Resolution
import Exemplar.Source.Java
import Exemplar.Source.Rust

/-!
# Magnitudes of integers

The type of integers is written as that of signed words in both languages.  An unsigned word counts
as an integer too, so that the integers of a document lie in the range of both together: those from
`2⁶³` on are beyond the type that is written for them.
-/

namespace Exemplar

open Discovery Generation Json Naming

/-- The type of integers under so many lists. -/
def Ty.integersUnder : Nat → Ty
  | 0 => .integer
  | depth + 1 => .list (integersUnder depth)

/-- The numbers that stand under so many lists. -/
def Json.Value.numbersUnder : Nat → Value → List Number
  | 0, .number found => [found]
  | depth + 1, .array elements => elements.flatMap (numbersUnder depth)
  | _, _ => []

theorem isPartOf_of_mem_numbersUnder {depth : Nat} {value : Value} {number : Number}
    (h : number ∈ value.numbersUnder depth) : (Value.number number).IsPartOf value := by
  induction depth generalizing value with
  | zero =>
      cases value with
      | number other =>
          rw [List.mem_singleton.1 h]
          exact .itself
      | _ => cases h
  | succ depth ih =>
      cases value with
      | array elements =>
          obtain ⟨element, hmem, hnumber⟩ := List.mem_flatMap.1 h
          exact .element hmem (ih hnumber)
      | _ => cases h

theorem parse_of_readDocument {text : String} {value : Value}
    (h : readDocument text = .ok value) : parse text = .ok value := by
  rw [readDocument] at h
  split at h
  · cases h
  · cases hparse : parse text with
    | error fault =>
        rw [hparse] at h
        cases h
    | ok found =>
        rw [hparse] at h
        cases h
        rfl

/-- Every number of a document that counts as an integer at the place of an integer, under however
many lists, is in the range of the type that is written for it, or else an unsigned word beyond. -/
theorem integers_fit_words {text : String} {value : Value} (hread : readDocument text = .ok value)
    (root fieldPrefix : String) (watch : Watch) :
    ∀ model, (modelOf root value fieldPrefix watch).result = .ok model →
      ∀ cls ∈ model.classes, ∀ field ∈ cls.fields, ∀ depth, field.ty = .integersUnder depth →
        ∀ members ∈ objectsOf root value cls.name, ∀ child, (field.property, child) ∈ members →
          ∀ number ∈ child.numbersUnder depth, numberScalar number = .integer →
            ∃ n, number = .integer n ∧
              (-2 ^ 63 ≤ n ∧ n ≤ 2 ^ 63 - 1 ∨ 2 ^ 63 ≤ n ∧ n ≤ 2 ^ 64 - 1) := by
  intro model _ cls _ field _ depth _ members hmembers child hchild number hnumber hinteger
  have hobject : (Value.object members).IsPartOf value :=
    isPartOf_visited (mem_objectsOf.1 hmembers)
  have hpart : (Value.number number).IsPartOf value :=
    (Value.IsPartOf.member hchild (isPartOf_of_mem_numbersUnder hnumber)).trans hobject
  cases number with
  | integer n =>
      obtain ⟨hleast, hgreatest⟩ := fitsWords_of_parse (parse_of_readDocument hread) hpart
      exact ⟨n, rfl, by omega⟩
  | float _ => cases hinteger

/-- Whether what was read is a list of two integers under one key. -/
def isPair (key : String) (first last : Int) : Except Failure Value → Bool
  | .ok (.object [(other, .array [.number (.integer m), .number (.integer n)])]) =>
      decide (other = key ∧ m = first ∧ n = last)
  | _ => false

theorem eq_of_isPair {key : String} {first last : Int} {result : Except Failure Value}
    (h : isPair key first last result = true) :
    result = .ok (.object [(key, .array [.number (.integer first), .number (.integer last)])]) := by
  unfold isPair at h
  split at h
  · obtain ⟨rfl, rfl, rfl⟩ := of_decide_eq_true h
    rfl
  · cases h

/-- A list of the greatest and the least integer. -/
def extremes : String :=
  "\x7b\"a\":[18446744073709551615,-9223372036854775808]\x7d"

def extremesMembers : Members :=
  [("a", .array [.number (.integer (2 ^ 64 - 1)), .number (.integer (-2 ^ 63))])]

theorem readDocument_extremes : readDocument extremes = .ok (.object extremesMembers) :=
  eq_of_isPair (by decide +kernel)

theorem modelOf_extremes :
    (modelOf "Root" (.object extremesMembers) "m" Watch.never).result =
      .ok ⟨"Root", [⟨"Root", [⟨"a", "mA", .list .integer, 1, 0⟩], 1⟩], []⟩ := by
  have hresolved : Resolution.resolvedModel "m" "Root" (.object extremesMembers) =
      ⟨"Root", [⟨"Root", [⟨"a", "mA", .list .integer, 1, 0⟩], 1⟩], []⟩ := by
    decide +kernel
  rw [Resolution.modelOf_never rfl, hresolved]

theorem mem_objectsOf_extremes :
    extremesMembers ∈ objectsOf "Root" (.object extremesMembers) "Root" :=
  mem_objectsOf.2 (List.mem_flatMap.2 ⟨_, List.mem_singleton_self _, List.mem_cons_self⟩)

theorem integers_fit_words_least :
    readDocument extremes = .ok (.object extremesMembers) ∧
      (modelOf "Root" (.object extremesMembers) "m" Watch.never).result =
        .ok ⟨"Root", [⟨"Root", [⟨"a", "mA", .list .integer, 1, 0⟩], 1⟩], []⟩ ∧
      ∃ n, Number.integer (-2 ^ 63) = .integer n ∧
        (-2 ^ 63 ≤ n ∧ n ≤ 2 ^ 63 - 1 ∨ 2 ^ 63 ≤ n ∧ n ≤ 2 ^ 64 - 1) :=
  ⟨readDocument_extremes, modelOf_extremes,
    integers_fit_words readDocument_extremes "Root" "m" Watch.never _ modelOf_extremes _
      List.mem_cons_self _ List.mem_cons_self 1 rfl _ mem_objectsOf_extremes _ List.mem_cons_self _
      (List.mem_cons_of_mem _ List.mem_cons_self) rfl⟩

/-- The greatest integer is beyond the type that both languages write for its field. -/
theorem integers_exceed_type_greatest :
    ∃ value model, readDocument extremes = .ok value ∧
      (modelOf "Root" value "m" Watch.never).result = .ok model ∧
      ∃ cls ∈ model.classes, ∃ field ∈ cls.fields, field.ty = .integersUnder 1 ∧
        Source.Rust.typeText .integer = "i64" ∧ Source.Java.typeText model .integer = "Long" ∧
        ∃ members ∈ objectsOf "Root" value cls.name, ∃ child, (field.property, child) ∈ members ∧
          ∃ n, .integer n ∈ child.numbersUnder 1 ∧ numberScalar (.integer n) = .integer ∧
            ¬ n ≤ 2 ^ 63 - 1 := by
  refine ⟨_, _, readDocument_extremes, modelOf_extremes, _, List.mem_cons_self, _,
    List.mem_cons_self, rfl, rfl, by decide +kernel, _, mem_objectsOf_extremes, _,
    List.mem_cons_self, 2 ^ 64 - 1, List.mem_cons_self, rfl, by decide⟩

end Exemplar
