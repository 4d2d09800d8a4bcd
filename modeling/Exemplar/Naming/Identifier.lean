import Exemplar.Unicode.Alphabetic
import Exemplar.Unicode.CaseMapping

/-!
# Identifiers from property names

A property name may be any text. Its identifier keeps the letters (of any script) and, from the
first letter on, the ASCII digits; every other character is dropped and puts the next letter in
upper case. A name without letters becomes the stem `value` with its digits.
-/

namespace Exemplar.Naming

open Unicode

/-- The characters kept of a name. `started` says that a letter stands before, `boundary` that the
last character was dropped. -/
def camelFrom (started boundary : Bool) : List Char → List Char
  | [] => []
  | c :: rest =>
      if isAlphabetic c then
        (if boundary then upper c else [c]) ++ camelFrom true false rest
      else if c.isDigit then
        (if started then [c] else []) ++ camelFrom started false rest
      else camelFrom started true rest

/-- The stem of names without a letter. -/
def letterlessStem : List Char := ['v', 'a', 'l', 'u', 'e']

def camel (raw : List Char) : List Char :=
  match camelFrom false false raw with
  | [] => letterlessStem ++ raw.filter Char.isDigit
  | c :: rest => c :: rest

/-- The identifier of a property name. -/
def normalize (raw : String) : String :=
  String.ofList (camel raw.toList)

def capitalizeChars : List Char → List Char
  | [] => []
  | c :: rest => upper c ++ rest

def uncapitalizeChars : List Char → List Char
  | [] => []
  | c :: rest => lower c ++ rest

/-- The text with its first character in upper case. -/
def capitalize (text : String) : String :=
  String.ofList (capitalizeChars text.toList)

/-- The text with its first character in lower case. -/
def uncapitalize (text : String) : String :=
  String.ofList (uncapitalizeChars text.toList)

/-- The class of the object under a property. -/
def className (property : String) : String :=
  capitalize (normalize property)

/-- The field of a property: the prefix and the capitalized identifier, or lower camel case where
there is no prefix. -/
def fieldName (fieldPrefix property : String) : String :=
  if fieldPrefix.isEmpty then uncapitalize (normalize property)
  else fieldPrefix ++ capitalize (normalize property)

/-- What follows `get`, `set` and `with` in a method name. -/
def accessorSuffix (property : String) : String :=
  className property

def parameterName (property : String) : String :=
  uncapitalize (normalize property)

/-- A class name that a caller may give: an ASCII letter, then ASCII letters and digits. -/
def isClassName (name : String) : Bool :=
  match name.toList with
  | [] => false
  | c :: rest => c.isAlpha && rest.all Char.isAlphanum

end Exemplar.Naming
