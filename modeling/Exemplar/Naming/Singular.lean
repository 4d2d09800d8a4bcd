import Exemplar.Unicode.Casing

/-!
# Singular forms

The English singular of the last word of a name, by a table of endings. Words without a plural stay
as they are; otherwise the first rule of the table that fits the name decides. A rule looks at
letters without regard to case, keeps the stem as it was written and replaces the ending after it.
-/

namespace Exemplar.Naming

/-- What one place of a stem admits. -/
inductive Letter where
  | one (letter : Char)
  | oneOf (letters : List Char)
  | noneOf (letters : List Char)
  deriving DecidableEq

/-- The lower case by which rules compare letters. The long s and the Kelvin sign are the only
characters beyond ASCII that fold to an ASCII letter. -/
def foldLetter (c : Char) : Char :=
  if c = 'ſ' then 's' else if c = '\u212A' then 'k' else c.toLower

def Letter.admits (letter : Letter) (c : Char) : Bool :=
  match letter with
  | .one a => foldLetter c == a
  | .oneOf letters => letters.contains (foldLetter c)
  | .noneOf letters => !letters.contains (foldLetter c)

/-- Whether the letters describe the text place by place. -/
def describes : List Letter → List Char → Bool
  | [], [] => true
  | letter :: letters, c :: cs => letter.admits c && describes letters cs
  | _, _ => false

/-- Where in the name a rule looks. -/
inductive Place where
  /-- At its end. -/
  | ending
  /-- At the name as a whole. -/
  | whole
  /-- At its beginning; what follows stays. -/
  | beginning
  deriving DecidableEq

/-- A rule: one of the stems followed by one of the endings, and what replaces the ending. -/
structure Rule where
  place : Place
  stems : List (List Letter)
  endings : List (List Letter)
  replacement : List Char
  deriving DecidableEq

def spelled (word : String) : List Letter :=
  word.toList.map .one

/-- The name with its last `count` characters cut off, if the pattern describes exactly its end and
the part cut off is the pattern's ending. -/
def cutEnding? (stem ending : List Letter) (word : List Char) : Option (List Char) :=
  let size := stem.length + ending.length
  if size ≤ word.length ∧ describes (stem ++ ending) (word.drop (word.length - size)) then
    some (word.take (word.length - ending.length))
  else none

/-- The new name where stem and ending fit at the place. -/
def Rule.fit? (rule : Rule) (word : List Char) (stem ending : List Letter) :
    Option (List Char) :=
  match rule.place with
  | .ending => (cutEnding? stem ending word).map (· ++ rule.replacement)
  | .whole =>
      if word.length = stem.length + ending.length then
        (cutEnding? stem ending word).map (· ++ rule.replacement)
      else none
  | .beginning =>
      let size := stem.length + ending.length
      if describes (stem ++ ending) (word.take size) then
        some (word.take stem.length ++ rule.replacement ++ word.drop size)
      else none

def Rule.singular? (rule : Rule) (word : List Char) : Option (List Char) :=
  rule.stems.findSome? fun stem => rule.endings.findSome? fun ending => rule.fit? word stem ending

/-- A rule for the end of a name, all of whose letters are given. -/
def Rule.ofSpelling (stems endings : List String) (replacement : String) : Rule :=
  ⟨.ending, stems.map spelled, endings.map spelled, replacement.toList⟩

/-- The vowels that keep `ies` from being the plural of `y`. -/
def vowels : List Char := ['a', 'e', 'i', 'o', 'u', 'y']

/-- The rules, the more particular first: irregular words, then endings. -/
def singularRules : List Rule := [
  .ofSpelling ["p"] ["eople"] "erson",
  .ofSpelling ["m"] ["en"] "an",
  .ofSpelling ["c"] ["hildren"] "hild",
  .ofSpelling ["s"] ["exes"] "ex",
  .ofSpelling ["m"] ["oves"] "ove",
  .ofSpelling ["g"] ["eese"] "oose",
  .ofSpelling ["quiz"] ["zes"] "",
  .ofSpelling ["matr"] ["ices"] "ix",
  .ofSpelling ["vert", "ind"] ["ices"] "ex",
  ⟨.beginning, [spelled "ox"], [spelled "en"], []⟩,
  .ofSpelling ["alias", "status"] ["es", ""] "",
  .ofSpelling ["octop", "vir"] ["us", "i"] "us",
  ⟨.whole, [spelled "a"], [spelled "xis", spelled "xes"], ['x', 'i', 's']⟩,
  .ofSpelling ["cris", "test"] ["is", "es"] "is",
  .ofSpelling ["shoe"] ["s"] "",
  .ofSpelling ["o"] ["es"] "",
  .ofSpelling ["bus"] ["es", ""] "",
  .ofSpelling ["m", "l"] ["ice"] "ouse",
  .ofSpelling ["x", "ch", "ss", "sh"] ["es"] "",
  .ofSpelling ["m"] ["ovies"] "ovie",
  .ofSpelling ["s"] ["eries"] "eries",
  ⟨.ending, [[.noneOf vowels], spelled "qu"], [spelled "ies"], ['y']⟩,
  ⟨.ending, [[.oneOf ['l', 'r']]], [spelled "ves"], ['f']⟩,
  .ofSpelling ["tive"] ["s"] "",
  .ofSpelling ["hive"] ["s"] "",
  ⟨.ending, [[.noneOf ['f']]], [spelled "ves"], ['f', 'e']⟩,
  .ofSpelling ["analy", "ba", "diagno", "parenthe", "progno", "synop", "the"] ["sis", "ses"]
    "sis",
  ⟨.ending, [[.oneOf ['t', 'i']]], [spelled "a"], ['u', 'm']⟩,
  .ofSpelling ["n"] ["ews"] "ews",
  .ofSpelling ["ss"] [""] "",
  .ofSpelling [""] ["s"] ""]

/-- The words that are their own plural, in lower case. -/
def uncountableWords : List String :=
  ["equipment", "information", "rice", "money", "species", "series", "fish", "sheep", "jeans",
    "police", "metadata"]

def isUncountable (word : List Char) : Bool :=
  uncountableWords.any fun uncountable => uncountable.toList == Unicode.lowercase word

def singularChars (word : List Char) : List Char :=
  if isUncountable word then word
  else (singularRules.findSome? (·.singular? word)).getD word

/-- The singular of a name. -/
def singular (word : String) : String :=
  String.ofList (singularChars word.toList)

end Exemplar.Naming
