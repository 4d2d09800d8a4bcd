/-!
# Sorted names

Sets of names and tables under names, both in the order of code points and without repeats.
-/

namespace Exemplar.Sorted

/-- The set with one more name. -/
def insert (name : String) : List String → List String
  | [] => [name]
  | other :: rest =>
      if name = other then other :: rest
      else if name < other then name :: other :: rest
      else other :: insert name rest

/-- The set of the names in a list. -/
def ofList (names : List String) : List String :=
  names.foldl (fun set name => insert name set) []

/-- The table with an entry set: in place of the one of the same name, or where it belongs. -/
def set {α : Type} (name : String) (value : α) : List (String × α) → List (String × α)
  | [] => [(name, value)]
  | (other, old) :: rest =>
      if name = other then (name, value) :: rest
      else if name < other then (name, value) :: (other, old) :: rest
      else (other, old) :: set name value rest

theorem mem_insert {name other : String} {names : List String} :
    other ∈ insert name names ↔ other = name ∨ other ∈ names := by
  induction names with
  | nil => simp [insert]
  | cons first rest ih =>
      by_cases heq : name = first
      · simp [insert, heq]
      · by_cases hlt : name < first
        · simp [insert, heq, hlt]
        · simp only [insert, heq, hlt, if_false, List.mem_cons, ih]
          exact or_left_comm

theorem mem_ofList {name : String} {names : List String} : name ∈ ofList names ↔ name ∈ names := by
  have hfold : ∀ set : List String,
      name ∈ names.foldl (fun set name => insert name set) set ↔ name ∈ names ∨ name ∈ set := by
    induction names with
    | nil => simp
    | cons first rest ih =>
        intro set
        rw [List.foldl_cons, ih, mem_insert, List.mem_cons]
        exact or_left_comm.trans or_assoc.symm
  rw [ofList, hfold]
  simp

/-- Putting a name into a sorted set keeps it sorted. -/
theorem pairwise_insert {name : String} {names : List String} (h : names.Pairwise (· < ·)) :
    (insert name names).Pairwise (· < ·) := by
  induction names with
  | nil => simp [insert]
  | cons first rest ih =>
      obtain ⟨hfirst, hrest⟩ := List.pairwise_cons.1 h
      by_cases heq : name = first
      · rw [insert, if_pos heq]
        exact h
      · rw [insert, if_neg heq]
        by_cases hlt : name < first
        · rw [if_pos hlt]
          refine List.pairwise_cons.2 ⟨?_, h⟩
          intro other hother
          rcases List.mem_cons.1 hother with rfl | hother
          · exact hlt
          · exact String.lt_trans hlt (hfirst other hother)
        · rw [if_neg hlt]
          have hgt : first < name :=
            Std.lt_of_le_of_ne (String.not_lt.1 hlt) (Ne.symm heq)
          refine List.pairwise_cons.2 ⟨?_, ih hrest⟩
          intro other hother
          rcases mem_insert.1 hother with rfl | hother
          · exact hgt
          · exact hfirst other hother

theorem pairwise_ofList (names : List String) : (ofList names).Pairwise (· < ·) := by
  have hfold : ∀ set : List String, set.Pairwise (· < ·) →
      (names.foldl (fun set name => insert name set) set).Pairwise (· < ·) := by
    induction names with
    | nil => exact fun _ hset => hset
    | cons first rest ih => exact fun set hset => ih _ (pairwise_insert hset)
  exact hfold [] List.Pairwise.nil

theorem lookup_set_self {α : Type} (name : String) (value : α) (table : List (String × α)) :
    (set name value table).lookup name = some value := by
  induction table with
  | nil => simp [set]
  | cons entry rest ih =>
      obtain ⟨other, old⟩ := entry
      by_cases heq : name = other
      · simp [set, heq]
      · have hbeq : (name == other) = false := beq_false_of_ne heq
        by_cases hlt : name < other <;> simp [set, heq, hlt, List.lookup_cons, hbeq, ih]

theorem lookup_set_of_ne {α : Type} {name other : String} (hne : other ≠ name) (value : α)
    (table : List (String × α)) : (set name value table).lookup other = table.lookup other := by
  have hbeq : (other == name) = false := beq_false_of_ne hne
  induction table with
  | nil => simp [set, hne]
  | cons entry rest ih =>
      obtain ⟨first, old⟩ := entry
      by_cases heq : name = first
      · subst heq
        simp [set, List.lookup_cons, hbeq]
      · by_cases hlt : name < first <;> simp [set, heq, hlt, List.lookup_cons, hbeq, ih]

/-- The names in a table with an entry set are a set with one more name. -/
theorem keys_set {α : Type} (name : String) (value : α) (table : List (String × α)) :
    (set name value table).map (·.1) = insert name (table.map (·.1)) := by
  induction table with
  | nil => rfl
  | cons entry rest ih =>
      obtain ⟨first, old⟩ := entry
      by_cases heq : name = first
      · simp [set, insert, heq]
      · by_cases hlt : name < first
        · simp [set, insert, heq, hlt]
        · simp only [set, insert, heq, hlt, if_false, List.map_cons, ih]

/-- Setting an entry keeps a table sorted. -/
theorem pairwise_keys_set {α : Type} {name : String} {value : α} {table : List (String × α)}
    (h : (table.map (·.1)).Pairwise (· < ·)) :
    ((set name value table).map (·.1)).Pairwise (· < ·) := by
  rw [keys_set]
  exact pairwise_insert h

theorem nodup_of_pairwise {names : List String} (h : names.Pairwise (· < ·)) : names.Nodup :=
  h.imp String.ne_of_lt

/-- Sorted names without repeats are told by their members. -/
theorem eq_of_mem_iff {names others : List String} (hnames : names.Pairwise (· < ·))
    (hothers : others.Pairwise (· < ·)) (h : ∀ name, name ∈ names ↔ name ∈ others) :
    names = others := by
  have hperm : names.Perm others :=
    (List.perm_ext_iff_of_nodup (nodup_of_pairwise hnames) (nodup_of_pairwise hothers)).2 h
  exact hperm.eq_of_pairwise (fun _ _ _ _ hlt hgt => absurd hgt (String.lt_asymm hlt)) hnames
    hothers

end Exemplar.Sorted
