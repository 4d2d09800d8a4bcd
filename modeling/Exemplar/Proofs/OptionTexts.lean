import Exemplar.Options.Reader
import Exemplar.Proofs.Json.Extents

/-!
# Texts of options

Options are read off the front of a text.  What is taken there is a whole JSON value, and the options
follow from it alone: nothing behind it is looked at, be it blanks, a second value or no JSON at all.
-/

namespace Exemplar

open Json

namespace OptionsReader

/-- A reader that takes values of JSON, each with a depth that is bounded. -/
def ReadsValues {ε α : Type} (levels : ℕ) (reader : List Char → Except ε (α × List Char)) : Prop :=
  ∀ ⦃text result rest⦄, reader text = .ok (result, rest) →
    ∃ front, text = front ++ rest ∧ Takes reader front result ∧ ∃ value, Spells levels front value

variable {text rest : List Char} {levels : ℕ}

@[simp]
theorem atRoot_eq_ok_iff {α : Type} {outcome : Except Fault α} {result : α} :
    atRoot outcome = .ok result ↔ outcome = .ok result := by
  cases outcome <;> simp [atRoot, Except.mapError]

@[simp]
theorem under_eq_ok_iff {α : Type} {segment : Segment} {outcome : Except ConfigFault α}
    {result : α} : under segment outcome = .ok result ↔ outcome = .ok result := by
  cases outcome <;> simp [under, Except.mapError]

/-! ## Values of options -/

theorem readStringOf_eq_ok_iff {expected result : String} :
    readStringOf expected text = .ok (result, rest) ↔
      ∃ behind, skipBlanks text = '"' :: behind ∧ readString behind = .ok (result, rest) := by
  unfold readStringOf
  split
  · rename_i hskip
    simp [hskip]
  · rename_i hother
    simpa using fun behind hskip => absurd hskip (hother behind)

/-- What starts with a character that is no blank, and from there on is both taken by the reader and
a value. -/
theorem exists_front_of_lead {ε α : Type} {reader : List Char → Except ε (α × List Char)} {c : Char}
    {result : α} (front : List Char) (value : Value)
    (hskip : skipBlanks text = c :: (front ++ rest))
    (hread : ∀ {text behind}, skipBlanks text = c :: (front ++ behind) →
      reader text = .ok (result, behind))
    (hvalue : ∀ {fuel depth text behind}, front.length ≤ fuel → levels ≤ depth →
      skipBlanks text = c :: (front ++ behind) →
      readValue (fuel + 1) depth text = .ok (value, behind)) :
    ∃ front, text = front ++ rest ∧ Takes reader front result ∧
      ∃ value, Spells levels front value := by
  obtain ⟨blanks, rfl, hblanks⟩ := skipBlanks_eq_cons hskip
  refine ⟨blanks ++ c :: front, by simp, ⟨by simp, fun behind => hread ?_⟩, value,
    spells_of_lead hblanks hvalue⟩
  rw [List.append_assoc, List.cons_append, hblanks]

theorem readsValues_readStringOf (expected : String) :
    ReadsValues levels (readStringOf expected) := by
  intro text result rest h
  obtain ⟨behind, hskip, hstring⟩ := readStringOf_eq_ok_iff.1 h
  obtain ⟨front, rfl, hfront⟩ := selfDelimiting_readString hstring
  refine exists_front_of_lead front (.string result) hskip
    (fun htext => readStringOf_eq_ok_iff.2 ⟨_, htext, hfront.read _⟩) fun _ _ htext => ?_
  rw [readValue_string htext, hfront.read]
  rfl

theorem readsValues_readBool : ReadsValues levels readBool := by
  intro text result rest h
  unfold readBool at h
  split at h
  · rename_i hskip
    obtain ⟨unread, hword, h⟩ := bind_eq_ok h
    cases h
    rw [readWord_eq_ok_iff] at hword
    subst hword
    refine exists_front_of_lead ['r', 'u', 'e'] (.bool true) hskip (fun htext => ?_)
      fun _ _ htext => ?_
    · rw [readBool, htext]
      rfl
    · rw [readValue_true htext, readWord_eq_ok_iff.2 rfl]
      rfl
  · rename_i hskip
    obtain ⟨unread, hword, h⟩ := bind_eq_ok h
    cases h
    rw [readWord_eq_ok_iff] at hword
    subst hword
    refine exists_front_of_lead ['a', 'l', 's', 'e'] (.bool false) hskip (fun htext => ?_)
      fun _ _ htext => ?_
    · rw [readBool, htext]
      rfl
    · rw [readValue_false htext, readWord_eq_ok_iff.2 rfl]
      rfl
  · cases h

theorem readNull_eq_ok_iff :
    readNull text = .ok rest ↔ skipBlanks text = 'n' :: 'u' :: 'l' :: 'l' :: rest := by
  unfold readNull
  split
  · rename_i hskip
    simp [hskip, readWord_eq_ok_iff]
  · rename_i hother
    simpa using fun hskip => hother _ hskip

/-- The name of a target is read as a string, and the string decides on it. -/
theorem readTargetName_eq_ok_iff {result : String × Target} :
    readTargetName text = .ok (result, rest) ↔
      readStringOf "variant identifier" text = .ok (result.1, rest) ∧
        targetNames.lookup result.1 = some result.2 := by
  obtain ⟨name, target⟩ := result
  constructor
  · intro h
    obtain ⟨⟨read, unread⟩, hname, h⟩ := bind_eq_ok h
    dsimp only at h
    split at h
    · rename_i hlookup
      cases h
      exact ⟨hname, hlookup⟩
    · cases h
  · rintro ⟨hname, hlookup⟩
    simp [readTargetName, hname, bind, Except.bind, hlookup, pure, Except.pure]

theorem readTarget_of_name {name : String} {target : Target}
    (hlookup : targetNames.lookup name = some target) {behind : List Char}
    (hskip : skipBlanks text = '"' :: behind) (hstring : readString behind = .ok (name, rest)) :
    readTarget text = .ok (target, rest) := by
  have hname : readTargetName ('"' :: behind) = .ok ((name, target), rest) :=
    readTargetName_eq_ok_iff.2 ⟨readStringOf_eq_ok_iff.2 ⟨behind, rfl, hstring⟩, hlookup⟩
  simp [readTarget, hskip, hname, bind, Except.bind, pure, Except.pure]

/-! A target is also an object with its name as the only key. -/

section KeyedTarget

variable {name : String} {key behindKey behindName behindColon behindNull : List Char}

theorem readTarget_of_key {target : Target} (hlookup : targetNames.lookup name = some target)
    (hopen : skipBlanks text = '\x7b' :: key) (hquote : skipBlanks key = '"' :: behindKey)
    (hname : readString behindKey = .ok (name, behindName))
    (hcolon : skipBlanks behindName = ':' :: behindColon)
    (hnull : skipBlanks behindColon = 'n' :: 'u' :: 'l' :: 'l' :: behindNull)
    (hclose : skipBlanks behindNull = '\x7d' :: rest) : readTarget text = .ok (target, rest) := by
  have hname : readTargetName key = .ok ((name, target), behindName) :=
    readTargetName_eq_ok_iff.2 ⟨readStringOf_eq_ok_iff.2 ⟨behindKey, hquote, hname⟩, hlookup⟩
  have hcolon : readColon behindName = .ok behindColon := readColon_eq_ok_iff.2 hcolon
  have hnull : readNull behindColon = .ok behindNull := readNull_eq_ok_iff.2 hnull
  rw [readTarget, hopen]
  simp only [hname, hcolon, hnull, atRoot, under, Except.mapError, bind, Except.bind, hclose]
  rfl

theorem readValue_of_key {fuel depth : ℕ} (hopen : skipBlanks text = '\x7b' :: key)
    (hquote : skipBlanks key = '"' :: behindKey)
    (hname : readString behindKey = .ok (name, behindName))
    (hcolon : skipBlanks behindName = ':' :: behindColon)
    (hnull : skipBlanks behindColon = 'n' :: 'u' :: 'l' :: 'l' :: behindNull)
    (hclose : skipBlanks behindNull = '\x7d' :: rest) :
    readValue (fuel + 3) (depth + 1) text = .ok (.object [(name, .null)], rest) := by
  have hseparator : readObjectSeparator true key = .ok (some behindKey) := by
    rw [readObjectSeparator, hquote]
    rfl
  have hvalue : readValue (fuel + 1) depth behindColon = .ok (.null, behindNull) := by
    rw [readValue_null hnull]
    rfl
  have hcolon : Json.readColon behindName = .ok behindColon := readColon_eq_ok_iff.2 hcolon
  rw [readValue_object hopen, Json.readMembers, hseparator]
  simp only [bind, Except.bind, hname, hcolon, hvalue, Json.readMembers,
    readObjectSeparator_of_end hclose, hclose]
  rfl

end KeyedTarget

theorem readsValues_readTarget (hlevels : 1 ≤ levels) : ReadsValues levels readTarget := by
  intro text target rest h
  unfold readTarget at h
  split at h
  · cases h
  · rename_i hskip
    rw [atRoot_eq_ok_iff] at h
    obtain ⟨⟨⟨name, found⟩, unread⟩, hname, h⟩ := bind_eq_ok h
    cases h
    obtain ⟨hstring, hlookup⟩ := readTargetName_eq_ok_iff.1 hname
    obtain ⟨behind, hquote, hstring⟩ := readStringOf_eq_ok_iff.1 hstring
    cases hquote
    obtain ⟨front, rfl, hfront⟩ := selfDelimiting_readString hstring
    refine exists_front_of_lead front (.string name) hskip
      (fun htext => readTarget_of_name hlookup htext (hfront.read _)) fun _ _ htext => ?_
    rw [readValue_string htext, hfront.read]
    rfl
  · rename_i hskip
    obtain ⟨⟨⟨name, found⟩, unread⟩, hname, h⟩ := bind_eq_ok h
    rw [atRoot_eq_ok_iff] at hname
    obtain ⟨hkey, hlookup⟩ := readTargetName_eq_ok_iff.1 hname
    obtain ⟨behindKey, hquote, hstring⟩ := readStringOf_eq_ok_iff.1 hkey
    obtain ⟨behindColon, hcolon, h⟩ := bind_eq_ok h
    rw [atRoot_eq_ok_iff, readColon_eq_ok_iff] at hcolon
    obtain ⟨behindNull, hnull, h⟩ := bind_eq_ok h
    rw [under_eq_ok_iff, atRoot_eq_ok_iff, readNull_eq_ok_iff] at hnull
    split at h
    · rename_i hclose
      cases h
      obtain ⟨beforeKey, rfl, hkeys⟩ := skipBlanks_eq_cons hquote
      obtain ⟨front, rfl, hfront⟩ := selfDelimiting_readString hstring
      obtain ⟨beforeColon, rfl, hcolons⟩ := skipBlanks_eq_cons hcolon
      obtain ⟨beforeNull, rfl, hnulls⟩ := skipBlanks_eq_cons hnull
      obtain ⟨beforeEnd, rfl, hends⟩ := skipBlanks_eq_cons hclose
      refine exists_front_of_lead
        (beforeKey ++ '"' :: (front ++ (beforeColon ++ ':' ::
          (beforeNull ++ 'n' :: 'u' :: 'l' :: 'l' :: (beforeEnd ++ ['\x7d'])))))
        (.object [(name, .null)]) (by simpa using hskip) (fun htext => ?_)
        fun {fuel _ _ _} hfuel hdepth htext => ?_
      · simp only [List.append_assoc, List.cons_append, List.nil_append] at htext
        exact readTarget_of_key hlookup htext (hkeys _) (hfront.read _) (hcolons _) (hnulls _)
          (hends _)
      · simp only [List.append_assoc, List.cons_append, List.nil_append] at htext
        simp only [List.length_append, List.length_cons] at hfuel
        obtain ⟨fuel, rfl⟩ := Nat.exists_eq_add_of_le' (by omega : 2 ≤ fuel)
        obtain ⟨depth, rfl⟩ := Nat.exists_eq_add_of_le' (hlevels.trans hdepth)
        exact readValue_of_key htext (hkeys _) (hfront.read _) (hcolons _) (hnulls _) (hends _)
    · cases h
    · cases h
  · cases h

/-- What is made of the value that a reader takes is taken likewise. -/
theorem ReadsValues.map {ε α β : Type} {reader : List Char → Except ε (α × List Char)}
    (h : ReadsValues levels reader) (view : α → β) :
    ReadsValues levels fun text => do
      let (value, rest) ← reader text
      return (view value, rest) := by
  intro text result rest hread
  obtain ⟨⟨value, unread⟩, hvalue, hread⟩ := bind_eq_ok hread
  cases hread
  obtain ⟨front, rfl, hfront, hspells⟩ := h hvalue
  exact ⟨front, rfl, ⟨hfront.ne_nil, fun behind => by rw [hfront.read]; rfl⟩, hspells⟩

theorem ReadsValues.atRoot {α : Type} {reader : List Char → Except Fault (α × List Char)}
    (h : ReadsValues levels reader) :
    ReadsValues levels fun text => OptionsReader.atRoot (reader text) := by
  intro text result rest hread
  obtain ⟨front, rfl, hfront, hspells⟩ := h (atRoot_eq_ok_iff.1 hread)
  exact ⟨front, rfl, ⟨hfront.ne_nil, fun behind => atRoot_eq_ok_iff.2 (hfront.read behind)⟩,
    hspells⟩

theorem readsValues_readField (hlevels : 1 ≤ levels) (field : OptionField) (options : Options) :
    ReadsValues levels (readField field options) := by
  cases field with
  | fieldPrefix =>
      exact (readsValues_readStringOf _).atRoot.map fun value =>
        { options with fieldPrefix := value }
  | generateBuilders =>
      exact readsValues_readBool.atRoot.map fun value => { options with generateBuilders := value }
  | alwaysAnnotateExpose =>
      exact readsValues_readBool.atRoot.map fun value =>
        { options with alwaysAnnotateExpose := value }
  | target =>
      exact (readsValues_readTarget hlevels).map fun value => { options with target := value }
  | generatedBy =>
      exact (readsValues_readStringOf _).atRoot.map fun value =>
        { options with generatedBy := value }

/-! ## Options in an object -/

/-- The members of an object of options up to its end, which are those of an object of JSON. -/
structure TakesMembers (seen : List OptionField) (options : Options) (front : List Char)
    (result : Options) : Prop where
  read : ∀ {fuel} behind, front.length ≤ fuel →
    readMembers fuel seen options (front ++ behind) = .ok (result, behind)
  json : ∀ before, ∃ members, ∀ {fuel depth} behind, front.length ≤ fuel → 1 ≤ depth →
    Json.readMembers fuel depth before seen.isEmpty (front ++ behind) = .ok (members, behind)

theorem takesMembers_end {seen : List OptionField} {options : Options} {blanks : List Char}
    (hblanks : ∀ behind, skipBlanks (blanks ++ '\x7d' :: behind) = '\x7d' :: behind) :
    TakesMembers seen options (blanks ++ ['\x7d']) options where
  read := by
    intro fuel behind hfuel
    rw [List.length_append, List.length_singleton] at hfuel
    obtain ⟨fuel, rfl⟩ := Nat.exists_eq_add_of_le' (by omega : 1 ≤ fuel)
    rw [List.append_assoc, List.singleton_append, readMembers,
      readObjectSeparator_of_end (hblanks behind), hblanks]
    rfl
  json before := by
    refine ⟨before, fun {fuel _} behind hfuel _ => ?_⟩
    rw [List.length_append, List.length_singleton] at hfuel
    obtain ⟨fuel, rfl⟩ := Nat.exists_eq_add_of_le' (by omega : 1 ≤ fuel)
    rw [List.append_assoc, List.singleton_append, Json.readMembers,
      readObjectSeparator_of_end (hblanks behind), hblanks]
    rfl

theorem TakesMembers.cons {seen : List OptionField} {options changed result : Options}
    {lead key blanks spelling others : List Char} {name : String} {field : OptionField}
    {value : Value}
    (hlead : ∀ behind, readObjectSeparator seen.isEmpty (lead ++ behind) = .ok (some behind))
    (hkey : Takes readString key name) (hfield : OptionField.ofName? name = some field)
    (hfresh : seen.contains field ≠ true)
    (hblanks : ∀ behind, skipBlanks (blanks ++ ':' :: behind) = ':' :: behind)
    (hvalue : Takes (readField field options) spelling changed) (hspells : Spells 1 spelling value)
    (hothers : TakesMembers (field :: seen) changed others result) :
    TakesMembers seen options (lead ++ (key ++ (blanks ++ ':' :: (spelling ++ others)))) result where
  read := by
    intro fuel behind hfuel
    simp only [List.length_append, List.length_cons] at hfuel
    obtain ⟨fuel, rfl⟩ := Nat.exists_eq_add_of_le' (by omega : 1 ≤ fuel)
    have hcolon : readColon (blanks ++ ':' :: (spelling ++ (others ++ behind))) =
        .ok (spelling ++ (others ++ behind)) := readColon_eq_ok_iff.2 (hblanks _)
    simp only [List.append_assoc, List.cons_append]
    rw [readMembers, hlead]
    simp only [under, atRoot, Except.mapError, bind, Except.bind, hkey.read, hfield, hfresh, hcolon,
      hvalue.read, Bool.false_eq_true, if_false]
    exact hothers.read behind (by omega)
  json before := by
    obtain ⟨members, hmembers⟩ := hothers.json (insertMember name value before)
    refine ⟨members, fun {fuel depth} behind hfuel hdepth => ?_⟩
    simp only [List.length_append, List.length_cons] at hfuel
    obtain ⟨fuel, rfl⟩ := Nat.exists_eq_add_of_le' (by omega : 1 ≤ fuel)
    have hcolon : Json.readColon (blanks ++ ':' :: (spelling ++ (others ++ behind))) =
        .ok (spelling ++ (others ++ behind)) := readColon_eq_ok_iff.2 (hblanks _)
    simp only [List.append_assoc, List.cons_append]
    rw [Json.readMembers, hlead]
    have hread : readValue fuel depth (spelling ++ (others ++ behind)) =
        .ok (value, others ++ behind) := hspells.read _ (by omega) hdepth
    simp only [bind, Except.bind, hkey.read, hcolon, hread]
    exact hmembers behind (by omega) hdepth

/-- The members of an object of options are members of an object of JSON. -/
theorem readMembers_eq_ok {fuel : ℕ} {seen : List OptionField} {options result : Options}
    (h : readMembers fuel seen options text = .ok (result, rest)) :
    ∃ front, text = front ++ rest ∧ TakesMembers seen options front result := by
  induction fuel generalizing seen options text with
  | zero => cases h
  | succ fuel ih =>
      rw [readMembers] at h
      obtain ⟨separator, hseparator, h⟩ := bind_eq_ok h
      rw [under_eq_ok_iff, atRoot_eq_ok_iff] at hseparator
      cases separator with
      | none =>
          obtain ⟨unread, hskip⟩ := readObjectSeparator_eq_none hseparator
          rw [hskip] at h
          cases h
          obtain ⟨blanks, rfl, hblanks⟩ := skipBlanks_eq_cons hskip
          exact ⟨blanks ++ ['\x7d'], by simp, takesMembers_end hblanks⟩
      | some behindQuote =>
          obtain ⟨⟨name, behindKey⟩, hkey, h⟩ := bind_eq_ok h
          rw [under_eq_ok_iff, atRoot_eq_ok_iff] at hkey
          dsimp only at h
          split at h
          · cases h
          · rename_i field hfield
            split at h
            · cases h
            · rename_i hfresh
              obtain ⟨behindColon, hcolon, h⟩ := bind_eq_ok h
              rw [atRoot_eq_ok_iff, readColon_eq_ok_iff] at hcolon
              obtain ⟨⟨changed, behindValue⟩, hvalue, hrest⟩ := bind_eq_ok h
              rw [under_eq_ok_iff] at hvalue
              obtain ⟨lead, rfl, hlead⟩ := readObjectSeparator_eq_some hseparator
              obtain ⟨key, rfl, hname⟩ := selfDelimiting_readString hkey
              obtain ⟨blanks, rfl, hblanks⟩ := skipBlanks_eq_cons hcolon
              obtain ⟨spelling, rfl, htakes, value, hspells⟩ :=
                readsValues_readField le_rfl field options hvalue
              obtain ⟨others, rfl, hothers⟩ := ih hrest
              exact ⟨lead ++ (key ++ (blanks ++ ':' :: (spelling ++ others))), by simp,
                .cons hlead hname hfield hfresh hblanks htakes hspells hothers⟩

/-! ## Options in a list -/

/-- The options that a list gives, read up to its end. -/
def readListed (index : ℕ) (options : Options) (fields : List OptionField) (text : List Char) :
    Except ConfigFault (Options × List Char) := do
  let (options, rest) ← readElements index options text fields
  let rest ← atRoot (readListEnd rest)
  return (options, rest)

/-- The elements of a list of options up to its end, which are those of a list of JSON. -/
structure TakesElements (index : ℕ) (options : Options) (fields : List OptionField)
    (front : List Char) (result : Options) : Prop extends
    Takes (readListed index options fields) front result where
  json : ∃ elements, ∀ {fuel depth} behind, front.length ≤ fuel → 1 ≤ depth →
    Json.readElements fuel depth (index == 0) (front ++ behind) = .ok (elements, behind)

theorem takesElements_end {index : ℕ} {options : Options} {fields : List OptionField}
    {blanks : List Char}
    (hblanks : ∀ behind, skipBlanks (blanks ++ ']' :: behind) = ']' :: behind) :
    TakesElements index options fields (blanks ++ [']']) options where
  ne_nil := by simp
  read behind := by
    have hend : readListEnd (blanks ++ ']' :: behind) = .ok behind :=
      readListEnd_eq_ok_iff.2 (hblanks behind)
    rw [List.append_assoc, List.singleton_append, readListed]
    cases fields with
    | nil =>
        simp [readElements, hend, atRoot, Except.mapError, bind, Except.bind, pure, Except.pure]
    | cons field fields =>
        simp [readElements, readListSeparator_of_end (hblanks behind), hend, atRoot,
          Except.mapError, bind, Except.bind, pure, Except.pure]
  json := by
    refine ⟨[], fun {fuel _} behind hfuel _ => ?_⟩
    rw [List.length_append, List.length_singleton] at hfuel
    obtain ⟨fuel, rfl⟩ := Nat.exists_eq_add_of_le' (by omega : 1 ≤ fuel)
    rw [List.append_assoc, List.singleton_append, Json.readElements,
      readListSeparator_of_end (hblanks behind), hblanks]
    rfl

theorem takesElements_of_readListEnd {index : ℕ} {options : Options} {fields : List OptionField}
    (h : readListEnd text = .ok rest) :
    ∃ front, text = front ++ rest ∧ TakesElements index options fields front options := by
  obtain ⟨blanks, rfl, hblanks⟩ := skipBlanks_eq_cons (readListEnd_eq_ok_iff.1 h)
  exact ⟨blanks ++ [']'], by simp, takesElements_end hblanks⟩

theorem TakesElements.cons {index : ℕ} {options changed result : Options} {field : OptionField}
    {fields : List OptionField} {lead spelling others : List Char} {c : Char} {value : Value}
    (hlead : ∀ behind,
      readListSeparator (index == 0) (lead ++ c :: behind) = .ok (some (c :: behind)))
    (hvalue : Takes (readField field options) (c :: spelling) changed)
    (hspells : Spells 1 (c :: spelling) value)
    (hothers : TakesElements (index + 1) changed fields others result) :
    TakesElements index options (field :: fields) (lead ++ c :: (spelling ++ others)) result where
  ne_nil := by simp
  read behind := by
    have hread := hothers.read behind
    have hfirst := hvalue.read (others ++ behind)
    simp only [List.append_assoc, List.cons_append] at hfirst ⊢
    rw [readListed, readElements, hlead]
    simp only [under, atRoot, Except.mapError, bind, Except.bind, hfirst]
    exact hread
  json := by
    obtain ⟨values, hvalues⟩ := hothers.json
    refine ⟨value :: values, fun {fuel depth} behind hfuel hdepth => ?_⟩
    simp only [List.length_append, List.length_cons] at hfuel
    have hne : 1 ≤ others.length := List.length_pos_iff.2 hothers.ne_nil
    obtain ⟨fuel, rfl⟩ := Nat.exists_eq_add_of_le' (by omega : 1 ≤ fuel)
    have hread : readValue fuel depth (c :: spelling ++ (others ++ behind)) =
        .ok (value, others ++ behind) :=
      hspells.read _ (by rw [List.length_cons]; omega) hdepth
    have hrest : Json.readElements fuel depth false (others ++ behind) = .ok (values, behind) :=
      hvalues behind (by omega) hdepth
    simp only [List.append_assoc, List.cons_append] at hread ⊢
    rw [Json.readElements, hlead]
    simp only [bind, Except.bind, hread, hrest]

theorem readListed_eq_ok {index : ℕ} {options result : Options} {fields : List OptionField}
    (h : readListed index options fields text = .ok (result, rest)) :
    ∃ front, text = front ++ rest ∧ TakesElements index options fields front result := by
  induction fields generalizing index options text with
  | nil =>
      obtain ⟨behind, hend, h⟩ := bind_eq_ok h
      cases hend
      obtain ⟨unread, hend, h⟩ := bind_eq_ok h
      cases h
      exact takesElements_of_readListEnd (atRoot_eq_ok_iff.1 hend)
  | cons field fields ih =>
      obtain ⟨⟨found, unread⟩, hfound, h⟩ := bind_eq_ok h
      rw [readElements] at hfound
      obtain ⟨separator, hseparator, hfound⟩ := bind_eq_ok hfound
      rw [atRoot_eq_ok_iff] at hseparator
      cases separator with
      | none =>
          cases hfound
          obtain ⟨behind, hend, h⟩ := bind_eq_ok h
          cases h
          exact takesElements_of_readListEnd (atRoot_eq_ok_iff.1 hend)
      | some element =>
          obtain ⟨⟨changed, behindValue⟩, hvalue, hothers⟩ := bind_eq_ok hfound
          rw [under_eq_ok_iff] at hvalue
          dsimp only at hothers
          have hlisted : readListed (index + 1) changed fields behindValue = .ok (result, rest) := by
            rw [readListed, hothers]
            exact h
          obtain ⟨lead, c, behindLead, rfl, rfl, hlead⟩ := readListSeparator_eq_some hseparator
          obtain ⟨spelling, hspelling, htakes, value, hspells⟩ :=
            readsValues_readField le_rfl field options hvalue
          obtain ⟨others, rfl, helements⟩ := ih hlisted
          obtain ⟨d, spelling, rfl⟩ := List.exists_cons_of_ne_nil htakes.ne_nil
          obtain ⟨rfl, rfl⟩ := List.cons.inj hspelling
          exact ⟨lead ++ c :: (spelling ++ others), by simp, .cons hlead htakes hspells helements⟩

/-! ## Whole texts -/

/-- Options are taken off a text as one value, which is an object or a list of scalars and objects
of one key. -/
theorem readsValues_read : ReadsValues 2 read := by
  intro text options rest h
  unfold read at h
  split at h
  · cases h
  · rename_i hskip
    obtain ⟨front, rfl, hfront⟩ := readMembers_eq_ok h
    obtain ⟨members, hmembers⟩ := hfront.json []
    refine exists_front_of_lead front (.object members) hskip (fun htext => ?_)
      fun {fuel depth _ behind} hfuel hdepth htext => ?_
    · rw [read, htext]
      exact hfront.read _ (by rw [List.length_append]; omega)
    · obtain ⟨depth, rfl⟩ := Nat.exists_eq_add_of_le' (by omega : 1 ≤ depth)
      have hread : Json.readMembers fuel depth [] true (front ++ behind) = .ok (members, behind) :=
        hmembers behind hfuel (by omega)
      rw [readValue_object htext, hread]
      rfl
  · rename_i hskip
    obtain ⟨front, rfl, hfront⟩ := readListed_eq_ok h
    obtain ⟨elements, helements⟩ := hfront.json
    refine exists_front_of_lead front (.array elements) hskip (fun htext => ?_)
      fun {fuel depth _ behind} hfuel hdepth htext => ?_
    · rw [read, htext]
      exact hfront.read _
    · obtain ⟨depth, rfl⟩ := Nat.exists_eq_add_of_le' (by omega : 1 ≤ depth)
      have hread : Json.readElements fuel depth true (front ++ behind) = .ok (elements, behind) :=
        helements behind hfuel (by omega)
      rw [readValue_array htext, hread]
      rfl
  · cases h

end OptionsReader

namespace Options

open OptionsReader

theorem ofJson_eq_ok_iff_read {text : String} {options : Options} :
    ofJson text = .ok options ↔ ∃ rest, read text.toList = .ok (options, rest) := by
  unfold ofJson
  split
  · rename_i found rest hread
    simp [hread, eq_comm]
  · rename_i fault hread
    simp [hread]

/-- A text whose front is one JSON value with options, whatever is behind it. -/
structure IsOptionsFront (front : String) (options : Options) : Prop where
  /-- The front is one value. -/
  json : ∃ value, parse front = .ok value
  /-- The options follow from the front alone. -/
  read : ∀ behind, ofJson (front ++ behind) = .ok options
  /-- The whole text is one value only if nothing but blanks are behind the front. -/
  whole : ∀ behind, (∃ value, parse (front ++ behind) = .ok value) ↔
    ∀ c ∈ behind.toList, isBlank c = true

/-- Options are read from a text exactly if a value with them stands in front. -/
theorem ofJson_eq_ok_iff (text : String) (options : Options) :
    ofJson text = .ok options ↔
      ∃ front behind, text = front ++ behind ∧ IsOptionsFront front options := by
  constructor
  · intro h
    obtain ⟨rest, hread⟩ := ofJson_eq_ok_iff_read.1 h
    obtain ⟨front, htext, hfront, value, hspells⟩ := readsValues_read hread
    have hwhole : ∀ behind, (∃ value, parse (String.ofList front ++ behind) = .ok value) ↔
        ∀ c ∈ behind.toList, isBlank c = true := by
      intro behind
      rw [parse, String.toList_append, String.toList_ofList]
      exact hspells.parseChars_iff (by decide) behind.toList
    refine ⟨String.ofList front, String.ofList rest, ?_, ?_, fun behind => ?_, hwhole⟩
    · rw [← String.ofList_append, ← htext, String.ofList_toList]
    · simpa using (hwhole "").2 (by simp)
    · rw [ofJson_eq_ok_iff_read]
      exact ⟨behind.toList, by rw [String.toList_append, String.toList_ofList, hfront.read]⟩
  · rintro ⟨front, behind, rfl, hfront⟩
    exact hfront.read behind

/-- Behind an object without options, what is no JSON is overlooked. -/
theorem ofJson_overlooks_rest :
    ofJson "\x7b\x7d x" = .ok {} ∧ ¬∃ value, parse "\x7b\x7d x" = .ok value := by
  constructor
  · decide +kernel
  · rintro ⟨value, hvalue⟩
    have hfails : (parse "\x7b\x7d x").toBool = false := by decide +kernel
    rw [hvalue] at hfails
    cases hfails

end Options

end Exemplar
