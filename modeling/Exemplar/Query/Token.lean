import Exemplar.Json.Token
import Exemplar.Unicode.Ranges

/-!
# Tokens of a query

Words, variables, formats, numbers, texts and symbols. A symbol made of operator characters is as
long as it can be. A text holds the tokens of the filters in it. Blanks and comments, which go from
a number sign to the end of the line, separate tokens.
-/

namespace Exemplar.Query

mutual

inductive Token where
  | word (name : String)
  | variable (name : String)
  | format (name : String)
  | numeral (digits : String)
  | quoted (pieces : List TokenPiece)
  /-- A field that follows a point at once. -/
  | field (name : String)
  | symbol (text : String)

inductive TokenPiece where
  | plain (text : String)
  | filter (tokens : List Token)

end

namespace Token

def isLetter (c : Char) : Bool :=
  c.isAlpha || c = '_'

def isWordChar (c : Char) : Bool :=
  c.isAlphanum || c = '_'

def operatorChars : List Char :=
  ['|', '=', '!', '<', '>', '+', '-', '*', '/', '%']

def isOperator (c : Char) : Bool :=
  operatorChars.contains c

/-- The text behind blanks and comments. Each step takes a character, so its length is `fuel`
enough. -/
def skip : Nat → List Char → List Char
  | 0, text => text
  | _, [] => []
  | fuel + 1, c :: rest =>
      if Unicode.isWhiteSpace c then skip fuel rest
      else if c = '#' then skip fuel (rest.dropWhile (· ≠ '\n'))
      else c :: rest

def nameOf (text : List Char) : String × List Char :=
  (String.ofList (text.takeWhile isWordChar), text.dropWhile isWordChar)

/-- A name that starts with a letter. -/
def nameOf? : List Char → Option (String × List Char)
  | c :: rest => if isLetter c then some (nameOf (c :: rest)) else none
  | [] => none

/-- Digits, of which there is at least one. -/
def digitsOf? (text : List Char) : Option (List Char × List Char) :=
  match text.takeWhile Char.isDigit with
  | [] => none
  | digits => some (digits, text.dropWhile Char.isDigit)

/-- What may follow the digits of a number behind a mark. -/
def fractionOf? : List Char → Option (List Char × List Char)
  | '.' :: rest => do
      let (digits, rest) ← digitsOf? rest
      return ('.' :: digits, rest)
  | text => some ([], text)

def exponentOf? : List Char → Option (List Char × List Char)
  | mark :: rest =>
      if mark = 'e' ∨ mark = 'E' then do
        let (sign, rest) :=
          match rest with
          | '+' :: rest => (['+'], rest)
          | '-' :: rest => (['-'], rest)
          | rest => ([], rest)
        let (digits, rest) ← digitsOf? rest
        return (mark :: sign ++ digits, rest)
      else some ([], mark :: rest)
  | [] => some ([], [])

def numberOf? (text : List Char) : Option (String × List Char) := do
  let (whole, text) ← digitsOf? text
  let (fraction, text) ← fractionOf? text
  let (exponent, text) ← exponentOf? text
  return (String.ofList (whole ++ fraction ++ exponent), text)

/-- The character of a `\u` escape, behind the letter. -/
def unicodeEscape? : List Char → Option (Char × List Char)
  | a :: b :: c :: d :: rest => do
      let a ← Json.hexDigit? a
      let b ← Json.hexDigit? b
      let c ← Json.hexDigit? c
      let d ← Json.hexDigit? d
      let code := ((a * 16 + b) * 16 + c) * 16 + d
      if code.isValidChar then return (Char.ofNat code, rest) else none
  | _ => none

/-- The character of an escape, behind its backslash. -/
def escape? : List Char → Option (Char × List Char)
  | 'u' :: rest => unicodeEscape? rest
  | c :: rest => (Json.simpleEscape? c).map (·, rest)
  | [] => none

/-- A character put in front of the pieces of a text. -/
def consPlain (c : Char) : List TokenPiece → List TokenPiece
  | .plain text :: rest => .plain (String.ofList (c :: text.toList)) :: rest
  | pieces => .plain (String.ofList [c]) :: pieces

/-- What a character that opens or separates is as a symbol. -/
def isSingle (c : Char) : Bool :=
  [':', ';', ',', '?', '(', ')', '[', ']', '\x7b', '\x7d'].contains c

/-- The token at the front of a text that is neither a text nor blank. -/
def simple? (text : List Char) : Option (Token × List Char) :=
  match text with
  | [] => none
  | c :: rest =>
      if isLetter c then
        let (name, rest) := nameOf text
        some (.word name, rest)
      else if c = '$' then (nameOf? rest).map fun (name, rest) => (.variable name, rest)
      else if c = '@' then (nameOf? rest).map fun (name, rest) => (.format name, rest)
      else if c.isDigit then (numberOf? text).map fun (number, rest) => (.numeral number, rest)
      else if isOperator c then
        some (.symbol (String.ofList (text.takeWhile isOperator)), text.dropWhile isOperator)
      else if c = '.' then
        match rest with
        | '.' :: rest => some (.symbol "..", rest)
        | _ =>
            match nameOf? rest with
            | some (name, rest) => some (.field name, rest)
            | none => some (.symbol ".", rest)
      else if isSingle c then some (.symbol (String.ofList [c]), rest)
      else none

mutual

/-- The tokens of a text up to its end, or up to the parenthesis that closes a filter in a text,
where `depth` counts those open. Every call takes a character off the text or is the first of a
text within, so twice its length is `fuel` enough. -/
def read? (fuel : Nat) (depth : Option Nat) (text : List Char) :
    Option (List Token × List Char) :=
  match fuel with
  | 0 => none
  | fuel + 1 =>
      match skip text.length text, depth with
      | [], none => some ([], [])
      | [], some _ => none
      | ')' :: rest, some 0 => some ([], rest)
      | '"' :: rest, depth => do
          let (pieces, rest) ← readPieces? fuel rest
          let (tokens, rest) ← read? fuel depth rest
          return (.quoted pieces :: tokens, rest)
      | c :: text, depth => do
          let (token, rest) ← simple? (c :: text)
          let depth := depth.map fun depth =>
            if c = '(' then depth + 1 else if c = ')' then depth - 1 else depth
          let (tokens, rest) ← read? fuel depth rest
          return (token :: tokens, rest)

/-- The pieces of a text behind its opening quote. -/
def readPieces? (fuel : Nat) (text : List Char) : Option (List TokenPiece × List Char) :=
  match fuel with
  | 0 => none
  | fuel + 1 =>
      match text with
      | [] => none
      | '"' :: rest => some ([], rest)
      | '\\' :: '(' :: rest => do
          let (tokens, rest) ← read? fuel (some 0) rest
          let (pieces, rest) ← readPieces? fuel rest
          return (.filter tokens :: pieces, rest)
      | '\\' :: rest => do
          let (c, rest) ← escape? rest
          let (pieces, rest) ← readPieces? fuel rest
          return (consPlain c pieces, rest)
      | c :: rest => do
          let (pieces, rest) ← readPieces? fuel rest
          return (consPlain c pieces, rest)

end

/-- The tokens of a query. -/
def ofText? (text : String) : Option (List Token) :=
  (read? (2 * text.length + 2) none text.toList).map (·.1)

end Token

end Exemplar.Query
