/-!
# Rosters

Tables in the order in which their names came up. Setting an entry keeps its place.
-/

namespace Exemplar.Roster

variable {α : Type}

def contains (name : String) (roster : List (String × α)) : Bool :=
  (roster.lookup name).isSome

/-- The roster with an entry set: in its old place, or at the end. -/
def set (name : String) (value : α) : List (String × α) → List (String × α)
  | [] => [(name, value)]
  | (other, old) :: rest =>
      if other = name then (name, value) :: rest else (other, old) :: set name value rest

theorem lookup_set_self (name : String) (value : α) (roster : List (String × α)) :
    (set name value roster).lookup name = some value := by
  induction roster with
  | nil => simp [set]
  | cons entry rest ih =>
      obtain ⟨other, old⟩ := entry
      by_cases h : other = name
      · simp [set, h]
      · have hbeq : (name == other) = false := beq_false_of_ne (Ne.symm h)
        simp [set, h, List.lookup_cons, hbeq, ih]

theorem lookup_set_of_ne {name other : String} (hne : other ≠ name) (value : α)
    (roster : List (String × α)) : (set name value roster).lookup other = roster.lookup other := by
  have hbeq : (other == name) = false := beq_false_of_ne hne
  induction roster with
  | nil => simp [set, hne]
  | cons entry rest ih =>
      obtain ⟨first, old⟩ := entry
      by_cases h : first = name
      · subst h
        simp [set, List.lookup_cons, hbeq]
      · simp [set, h, List.lookup_cons, ih]

/-- Setting an entry to what it is changes nothing. -/
theorem set_eq_self {name : String} {value : α} {roster : List (String × α)}
    (h : roster.lookup name = some value) : set name value roster = roster := by
  induction roster with
  | nil => simp at h
  | cons entry rest ih =>
      obtain ⟨other, old⟩ := entry
      by_cases hname : other = name
      · subst hname
        have hvalue : old = value := by simpa using h
        simp [set, hvalue]
      · have hbeq : (name == other) = false := beq_false_of_ne (Ne.symm hname)
        rw [List.lookup_cons, hbeq] at h
        simp [set, hname, ih h]

theorem contains_set (name other : String) (value : α) (roster : List (String × α)) :
    contains other (set name value roster) = (name == other || contains other roster) := by
  by_cases h : other = name
  · subst h
    simp [contains, lookup_set_self]
  · have hbeq : (name == other) = false := beq_false_of_ne (Ne.symm h)
    simp [contains, lookup_set_of_ne h, hbeq]

theorem contains_iff_mem {name : String} {roster : List (String × α)} :
    contains name roster = true ↔ name ∈ roster.map (·.1) := by
  induction roster with
  | nil => simp [contains]
  | cons entry rest ih =>
      obtain ⟨other, old⟩ := entry
      by_cases h : name = other
      · simp [contains, h]
      · have hbeq : (name == other) = false := beq_false_of_ne h
        rw [contains, List.lookup_cons, hbeq, List.map_cons, List.mem_cons, or_iff_right h]
        exact ih

/-- Setting an entry adds its name at the end unless it is there. -/
theorem keys_set (name : String) (value : α) (roster : List (String × α)) :
    (set name value roster).map (·.1) =
      if name ∈ roster.map (·.1) then roster.map (·.1) else roster.map (·.1) ++ [name] := by
  induction roster with
  | nil => simp [set]
  | cons entry rest ih =>
      obtain ⟨other, old⟩ := entry
      by_cases h : other = name
      · simp [set, h]
      · by_cases hmem : name ∈ rest.map (·.1) <;>
          simp_all [set, Ne.symm h]

theorem nodup_keys_set {name : String} {value : α} {roster : List (String × α)}
    (h : (roster.map (·.1)).Nodup) : ((set name value roster).map (·.1)).Nodup := by
  rw [keys_set]
  by_cases hmem : name ∈ roster.map (·.1)
  · rwa [if_pos hmem]
  · rw [if_neg hmem, List.nodup_append]
    refine ⟨h, by simp, ?_⟩
    rintro other hother _ hname rfl
    exact hmem (List.mem_singleton.1 hname ▸ hother)

/-- Where no name repeats, what is listed under a name is what a look-up finds. -/
theorem lookup_eq_some_iff_mem {name : String} {value : α} {roster : List (String × α)}
    (h : (roster.map (·.1)).Nodup) : roster.lookup name = some value ↔ (name, value) ∈ roster := by
  induction roster with
  | nil => simp
  | cons entry rest ih =>
      obtain ⟨other, old⟩ := entry
      obtain ⟨hother, hrest⟩ := List.nodup_cons.1 h
      by_cases hname : name = other
      · subst hname
        have hmem : (name, value) ∉ rest := fun hmem => hother (List.mem_map.2 ⟨_, hmem, rfl⟩)
        simp [hmem, eq_comm]
      · have hbeq : (name == other) = false := beq_false_of_ne hname
        rw [List.lookup_cons, hbeq]
        simp [ih hrest, hname]

/-- Where no key repeats, an item is what a search for its key finds. -/
theorem find?_key_eq_some_iff {key : α → String} {items : List α} (h : (items.map key).Nodup)
    (name : String) (item : α) :
    items.find? (key · == name) = some item ↔ item ∈ items ∧ key item = name := by
  induction items with
  | nil => simp
  | cons first rest ih =>
      obtain ⟨hfirst, hrest⟩ := List.nodup_cons.1 h
      by_cases hname : key first = name
      · have hnone : item ∈ rest → key item ≠ name := by
          intro hmem hitem
          apply hfirst
          rw [hname, ← hitem]
          exact List.mem_map_of_mem hmem
        rw [List.find?_cons_of_pos (by simpa using hname), Option.some_inj]
        constructor
        · rintro rfl
          exact ⟨List.mem_cons_self, hname⟩
        · rintro ⟨hmem, hitem⟩
          rcases List.mem_cons.1 hmem with rfl | hmem
          · rfl
          · exact absurd hitem (hnone hmem)
      · rw [List.find?_cons_of_neg (by simpa using hname), ih hrest, List.mem_cons]
        constructor
        · rintro ⟨hmem, hitem⟩
          exact ⟨.inr hmem, hitem⟩
        · rintro ⟨rfl | hmem, hitem⟩
          · exact absurd hitem hname
          · exact ⟨hmem, hitem⟩

/-- A list is made item by item from another where the items at one place belong together. -/
theorem eq_map_of_map_eq {Item Twin Key : Type} {key : Item → Key} {twinKey : Twin → Key}
    {make : Item → Twin} {items : List Item} {twins : List Twin}
    (hkeys : twins.map twinKey = items.map key)
    (hmake : ∀ item ∈ items, ∀ twin ∈ twins, twinKey twin = key item → twin = make item) :
    twins = items.map make := by
  induction items generalizing twins with
  | nil => exact List.map_eq_nil_iff.1 hkeys
  | cons item rest ih =>
      obtain ⟨twin, others, rfl, htwin, hothers⟩ := List.map_eq_cons_iff.1 hkeys
      have hfirst : twin = make item :=
        hmake item List.mem_cons_self twin List.mem_cons_self htwin
      have hrest : others = rest.map make := ih hothers fun item hitem twin htwin =>
        hmake item (List.mem_cons_of_mem _ hitem) twin (List.mem_cons_of_mem _ htwin)
      rw [List.map_cons, ← hfirst, ← hrest]

end Exemplar.Roster
