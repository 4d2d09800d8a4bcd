import Exemplar.Json.Token

/-!
# Reading JSON

The reader of whole values. Of two faults the one found first, going through the text, counts.
Values are nested at most `nestingLimit` deep.
-/

namespace Exemplar.Json

/-- How many lists and objects may be open at once. -/
def nestingLimit : Nat := 127

/-- What follows an element of a list: nothing, or the text of the next element. -/
def readListSeparator (first : Bool) (text : List Char) : Except Fault (Option (List Char)) :=
  match skipBlanks text with
  | [] => .error (faultPast .endInList [])
  | ']' :: _ => .ok none
  | text@(c :: rest) =>
      if first then .ok (some text)
      else if c = ',' then
        match skipBlanks rest with
        | [] => .error (faultPast .endInValue [])
        | text@(']' :: _) => .error (faultPast .trailingComma text)
        | text => .ok (some text)
      else .error (faultPast .expectedListSeparator text)

/-- What follows a member of an object: nothing, or the text behind the quote of the next key. -/
def readObjectSeparator (first : Bool) (text : List Char) : Except Fault (Option (List Char)) :=
  match skipBlanks text with
  | [] => .error (faultPast .endInObject [])
  | '\x7d' :: _ => .ok none
  | text@(c :: rest) =>
      if first then
        if c = '"' then .ok (some rest) else .error (faultPast .keyNotString text)
      else if c = ',' then
        match skipBlanks rest with
        | [] => .error (faultPast .endInValue [])
        | '"' :: rest => .ok (some rest)
        | text@('\x7d' :: _) => .error (faultPast .trailingComma text)
        | text => .error (faultPast .keyNotString text)
      else .error (faultPast .expectedObjectSeparator text)

/-- Reads the colon behind a key. -/
def readColon (text : List Char) : Except Fault (List Char) :=
  match skipBlanks text with
  | [] => .error (faultPast .endInObject [])
  | ':' :: rest => .ok rest
  | text => .error (faultPast .expectedColon text)

/-- Reads the closing bracket that ends a list. -/
def readListEnd (text : List Char) : Except Fault (List Char) :=
  match skipBlanks text with
  | [] => .error (faultPast .endInList [])
  | ']' :: rest => .ok rest
  | ',' :: rest =>
      match skipBlanks rest with
      | text@(']' :: _) => .error (faultPast .trailingComma text)
      | text => .error (faultPast .trailingCharacters text)
  | text => .error (faultPast .trailingCharacters text)

mutual

/-- Reads one value. `depth` counts the lists and objects that may still be opened; every call takes
a character off the text or is the first of a list or object, so twice the length of the text is
`fuel` enough. -/
def readValue (fuel depth : Nat) (text : List Char) : Except Fault (Value × List Char) :=
  match fuel with
  | 0 => .error (faultPast .tooDeep text)
  | fuel + 1 =>
      match skipBlanks text with
      | [] => .error (faultPast .endInValue [])
      | text@(c :: rest) =>
          if c = 'n' then do
            .ok (.null, ← readWord ['u', 'l', 'l'] rest)
          else if c = 't' then do
            .ok (.bool true, ← readWord ['r', 'u', 'e'] rest)
          else if c = 'f' then do
            .ok (.bool false, ← readWord ['a', 'l', 's', 'e'] rest)
          else if c = '"' then do
            let (value, rest) ← readString rest
            .ok (.string value, rest)
          else if c = '-' then do
            let (value, rest) ← readNumber true rest
            .ok (.number value, rest)
          else if c.isDigit then do
            let (value, rest) ← readNumber false text
            .ok (.number value, rest)
          else if c = '[' then
            match depth with
            | 0 => .error (faultPast .tooDeep text)
            | depth + 1 => do
                let (elements, rest) ← readElements fuel depth true rest
                .ok (.array elements, rest)
          else if c = '\x7b' then
            match depth with
            | 0 => .error (faultPast .tooDeep text)
            | depth + 1 => do
                let (members, rest) ← readMembers fuel depth [] true rest
                .ok (.object members, rest)
          else .error (faultPast .expectedValue text)

/-- Reads the elements of a list up to and with its end. -/
def readElements (fuel depth : Nat) (first : Bool) (text : List Char) :
    Except Fault (List Value × List Char) :=
  match fuel with
  | 0 => .error (faultPast .tooDeep text)
  | fuel + 1 => do
      match ← readListSeparator first text with
      | none => .ok ([], (skipBlanks text).drop 1)
      | some text =>
          let (value, text) ← readValue fuel depth text
          let (values, text) ← readElements fuel depth false text
          .ok (value :: values, text)

/-- Reads the members of an object up to and with its end, and adds them to those before. -/
def readMembers (fuel depth : Nat) (before : Members) (first : Bool) (text : List Char) :
    Except Fault (Members × List Char) :=
  match fuel with
  | 0 => .error (faultPast .tooDeep text)
  | fuel + 1 => do
      match ← readObjectSeparator first text with
      | none => .ok (before, (skipBlanks text).drop 1)
      | some text =>
          let (key, text) ← readString text
          let text ← readColon text
          let (value, text) ← readValue fuel depth text
          readMembers fuel depth (insertMember key value before) false text

end

/-- The value that a text holds, with nothing but blanks around it. -/
def parseChars (text : List Char) : Except Fault Value := do
  let (value, rest) ← readValue (2 * text.length + 2) nestingLimit text
  match skipBlanks rest with
  | [] => .ok value
  | rest => .error (faultPast .trailingCharacters rest)

def parse (text : String) : Except Fault Value :=
  parseChars text.toList

end Exemplar.Json
