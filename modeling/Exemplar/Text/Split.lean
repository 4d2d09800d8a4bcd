/-!
# Texts within texts

Finding a text in another, and cutting one where another occurs. Occurrences are found from the left
and do not overlap.
-/

namespace Exemplar.Text

/-- What follows a text at the front of another. -/
def after? : List Char → List Char → Option (List Char)
  | [], text => some text
  | _ :: _, [] => none
  | c :: mark, d :: text => if c = d then after? mark text else none

/-- The pieces between the occurrences of a mark that is not empty. Each step takes a character, so
the length of the text is `fuel` enough. -/
def splitFrom (mark : List Char) (piece : List Char) : Nat → List Char → List (List Char)
  | 0, text => [piece ++ text]
  | _, [] => [piece]
  | fuel + 1, c :: rest =>
      match after? mark (c :: rest) with
      | some behind => piece :: splitFrom mark [] fuel behind
      | none => splitFrom mark (piece ++ [c]) fuel rest

/-- The pieces of a text between the occurrences of a mark: its characters if the mark is empty, and
none if the text is. -/
def split (mark text : String) : List String :=
  if text.isEmpty then []
  else if mark.isEmpty then text.toList.map fun c => String.ofList [c]
  else (splitFrom mark.toList [] text.length text.toList).map String.ofList

/-- The places of the occurrences of a mark, which may overlap, counted from `place` on. -/
def placesFrom (mark : List Char) (place : Nat) : List Char → List Nat
  | [] => []
  | c :: rest =>
      if (after? mark (c :: rest)).isSome then place :: placesFrom mark (place + 1) rest
      else placesFrom mark (place + 1) rest

/-- The places where a mark that is not empty occurs. -/
def places (mark text : String) : List Nat :=
  if mark.isEmpty then [] else placesFrom mark.toList 0 text.toList

def occurs (mark text : String) : Bool :=
  mark.isEmpty || !(places mark text).isEmpty

end Exemplar.Text
