import Exemplar.Query.Filter
import Exemplar.Query.Token

/-!
# Reading filters

Operands are read one by one with the operators between them, and then joined: operators of higher
precedence first, those of one precedence from the left or from the right. A pipe, with or without
variables bound on the way, joins last.
-/

namespace Exemplar.Query

/-- What stands between two operands. -/
inductive Joint where
  | pipe
  | bind (pattern : Pattern)
  | binary (operator : Operator)

namespace Joint

def precedence : Joint → Nat
  | .pipe | .bind _ => 0
  | .binary .comma => 1
  | .binary .assign | .binary .update | .binary (.updateBy _)
  | .binary .updateAlternative => 2
  | .binary .alternative => 3
  | .binary .or => 4
  | .binary .and => 5
  | .binary (.compare .equal) | .binary (.compare .unequal) => 6
  | .binary (.compare _) => 7
  | .binary (.calculate .add) | .binary (.calculate .subtract) => 8
  | .binary (.calculate .remainder) => 10
  | .binary (.calculate _) => 9

def joinsRight : Joint → Bool
  | .pipe | .bind _ | .binary .assign | .binary .update | .binary (.updateBy _)
  | .binary .updateAlternative => true
  | _ => false

def join (joint : Joint) (left right : Filter) : Filter :=
  match joint with
  | .pipe => .pipe left right
  | .bind pattern => .bind left pattern right
  | .binary operator => .binary operator left right

/-- Joins operands as long as the operators between them have a precedence of at least `least`.
The number of operators bounds `fuel`. -/
def joinAll : Nat → Nat → Filter → List (Joint × Filter) → Filter × List (Joint × Filter)
  | fuel + 1, least, left, (joint, operand) :: rest =>
      if joint.precedence < least then (left, (joint, operand) :: rest)
      else
        let bound := joint.precedence + if joint.joinsRight then 0 else 1
        let (right, rest) := joinAll fuel bound operand rest
        joinAll fuel least (joint.join left right) rest
  | _, _, left, rest => (left, rest)

end Joint

namespace Filter

def ofPlain (text : String) : Filter :=
  .quoted none [.plain text]

/-- The words that name no filter. -/
def reservedWords : List String :=
  ["and", "as", "break", "catch", "def", "elif", "else", "end", "foreach", "if", "import",
    "include", "label", "module", "or", "reduce", "then", "try"]

def operatorOf? : String → Option Operator
  | "//" => some .alternative
  | "==" => some (.compare .equal)
  | "!=" => some (.compare .unequal)
  | "<" => some (.compare .less)
  | "<=" => some (.compare .lessOrEqual)
  | ">" => some (.compare .greater)
  | ">=" => some (.compare .greaterOrEqual)
  | "+" => some (.calculate .add)
  | "-" => some (.calculate .subtract)
  | "*" => some (.calculate .multiply)
  | "/" => some (.calculate .divide)
  | "%" => some (.calculate .remainder)
  | "=" => some .assign
  | "|=" => some .update
  | "+=" => some (.updateBy .add)
  | "-=" => some (.updateBy .subtract)
  | "*=" => some (.updateBy .multiply)
  | "/=" => some (.updateBy .divide)
  | "%=" => some (.updateBy .remainder)
  | "//=" => some .updateAlternative
  | _ => none

/-- Reads one symbol. -/
def readSymbol? (expected : String) : List Token → Option (List Token)
  | .symbol text :: rest => if text = expected then some rest else none
  | _ => none

/-- Reads one word. -/
def readWord? (expected : String) : List Token → Option (List Token)
  | .word name :: rest => if name = expected then some rest else none
  | _ => none

/-- Question marks at the front: whether there are any, and what follows them. -/
def readMarks : List Token → Bool × List Token
  | .symbol "?" :: rest => (true, (readMarks rest).2)
  | tokens => (false, tokens)

/-- The parameters of a definition, up to the closing parenthesis. -/
def readParameters? : List Token → Option (List String × List Token)
  | .word name :: .symbol ")" :: rest => some ([name], rest)
  | .variable name :: .symbol ")" :: rest => some (["$" ++ name], rest)
  | .word name :: .symbol ";" :: rest => do
      let (names, rest) ← readParameters? rest
      return (name :: names, rest)
  | .variable name :: .symbol ";" :: rest => do
      let (names, rest) ← readParameters? rest
      return (("$" ++ name) :: names, rest)
  | _ => none

def readHeading? : List Token → Option (List String × List Token)
  | .symbol "(" :: rest => readParameters? rest
  | tokens => some ([], tokens)

mutual

/-- Reads a filter, in which commas count as operators if `commas` says so. Here and below, every
call takes a token or comes from one that did, so a multiple of their number is `fuel` enough. -/
def read? (fuel : Nat) (commas : Bool) (tokens : List Token) : Option (Filter × List Token) :=
  match fuel with
  | 0 => none
  | fuel + 1 => do
      let (head, tokens) ← readOperand? fuel tokens
      let (tail, tokens) ← readTail? fuel commas tokens
      return ((Joint.joinAll (tail.length + 1) 0 head tail).1, tokens)

/-- Reads operators with the operands behind them. -/
def readTail? (fuel : Nat) (commas : Bool) (tokens : List Token) :
    Option (List (Joint × Filter) × List Token) :=
  match fuel with
  | 0 => none
  | fuel + 1 => do
      match ← readJoint? fuel commas tokens with
      | none => return ([], tokens)
      | some (joint, tokens) =>
          let (operand, tokens) ← readOperand? fuel tokens
          let (tail, tokens) ← readTail? fuel commas tokens
          return ((joint, operand) :: tail, tokens)

/-- Reads what stands between two operands, if there is anything of the kind. -/
def readJoint? (fuel : Nat) (commas : Bool) (tokens : List Token) :
    Option (Option (Joint × List Token)) :=
  match fuel with
  | 0 => none
  | fuel + 1 =>
      match tokens with
      | .symbol "|" :: rest => some (some (.pipe, rest))
      | .symbol "," :: rest => some (if commas then some (.binary .comma, rest) else none)
      | .word "or" :: rest => some (some (.binary .or, rest))
      | .word "and" :: rest => some (some (.binary .and, rest))
      | .word "as" :: rest => do
          let (pattern, rest) ← readPattern? fuel rest
          let rest ← readSymbol? "|" rest
          return some (.bind pattern, rest)
      | .symbol text :: rest =>
          some ((operatorOf? text).map fun operator => (.binary operator, rest))
      | _ => some none

/-- Reads an operand and the parts behind it. -/
def readOperand? (fuel : Nat) (tokens : List Token) : Option (Filter × List Token) :=
  match fuel with
  | 0 => none
  | fuel + 1 => do
      let (body, tokens) ← readHead? fuel tokens
      readParts? fuel body tokens

def readHead? (fuel : Nat) (tokens : List Token) : Option (Filter × List Token) :=
  match fuel with
  | 0 => none
  | fuel + 1 =>
      match tokens with
      | .symbol "-" :: rest => do
          let (body, rest) ← readOperand? fuel rest
          return (.negate body, rest)
      | .word "def" :: rest => do
          let (definition, rest) ← readDefinition? fuel rest
          let (body, rest) ← read? fuel true rest
          return (.define definition body, rest)
      | .word "if" :: rest => readBranch? fuel rest
      | .word "try" :: rest => do
          let (body, rest) ← readOperand? fuel rest
          match rest with
          | .word "catch" :: rest =>
              let (handler, rest) ← readOperand? fuel rest
              return (.attempt body (some handler), rest)
          | rest => return (.attempt body none, rest)
      | .word "label" :: .variable name :: .symbol "|" :: rest => do
          let (body, rest) ← read? fuel true rest
          return (.label name body, rest)
      | .word "break" :: .variable name :: rest => some (.breakTo name, rest)
      | .word "reduce" :: rest => do
          let ((source, pattern, arguments), rest) ← readFold? fuel rest
          match arguments with
          | [start, step] => return (.reduce source pattern start step, rest)
          | _ => none
      | .word "foreach" :: rest => do
          let ((source, pattern, arguments), rest) ← readFold? fuel rest
          match arguments with
          | [start, step] => return (.foreach source pattern start step none, rest)
          | [start, step, shown] => return (.foreach source pattern start step (some shown), rest)
          | _ => none
      | .word name :: rest =>
          if reservedWords.contains name then none
          else do
            let (arguments, rest) ← readArguments? fuel rest
            return (.call name arguments, rest)
      | .variable name :: rest => some (.variable name, rest)
      | .numeral digits :: rest => some (.numeral digits, rest)
      | .format name :: .quoted pieces :: rest => do
          return (.quoted (some name) (← readPieces? fuel pieces), rest)
      | .format name :: rest => some (.call ("@" ++ name) [], rest)
      | .quoted pieces :: rest => do
          return (.quoted none (← readPieces? fuel pieces), rest)
      | .symbol "[" :: .symbol "]" :: rest => some (.array none, rest)
      | .symbol "[" :: rest => do
          let (body, rest) ← read? fuel true rest
          return (.array (some body), ← readSymbol? "]" rest)
      | .symbol "\x7b" :: .symbol "\x7d" :: rest => some (.object [], rest)
      | .symbol "\x7b" :: rest => do
          let (entries, rest) ← readEntries? fuel rest
          return (.object entries, rest)
      | .symbol "(" :: rest => do
          let (body, rest) ← read? fuel true rest
          return (body, ← readSymbol? ")" rest)
      | .symbol ".." :: rest => some (.descend, rest)
      | .symbol "." :: .quoted pieces :: rest => do
          let index : Filter := .quoted none (← readPieces? fuel pieces)
          let (optional, rest) := readMarks rest
          return (.take .identity (.index index) optional, rest)
      | .symbol "." :: rest => some (.identity, rest)
      | .field name :: rest =>
          let (optional, rest) := readMarks rest
          some (.take .identity (.index (ofPlain name)) optional, rest)
      | _ => none

/-- Reads the parts that are taken of a body. -/
def readParts? (fuel : Nat) (body : Filter) (tokens : List Token) :
    Option (Filter × List Token) :=
  match fuel with
  | 0 => none
  | fuel + 1 =>
      match tokens with
      | .symbol "?" :: rest => readParts? fuel (.attempt body none) (readMarks rest).2
      | .field name :: rest =>
          let (optional, rest) := readMarks rest
          readParts? fuel (.take body (.index (ofPlain name)) optional) rest
      | .symbol "." :: .quoted pieces :: rest => do
          let index : Filter := .quoted none (← readPieces? fuel pieces)
          let (optional, rest) := readMarks rest
          readParts? fuel (.take body (.index index) optional) rest
      | .symbol "." :: .symbol "[" :: rest | .symbol "[" :: rest => do
          let (part, rest) ← readPart? fuel rest
          let (optional, rest) := readMarks rest
          readParts? fuel (.take body part optional) rest
      | tokens => some (body, tokens)

/-- Reads what stands in brackets, behind the first. -/
def readPart? (fuel : Nat) (tokens : List Token) : Option (Part × List Token) :=
  match fuel with
  | 0 => none
  | fuel + 1 =>
      match tokens with
      | .symbol "]" :: rest => some (.all, rest)
      | .symbol ":" :: rest => do
          let (stop, rest) ← read? fuel true rest
          return (.slice none (some stop), ← readSymbol? "]" rest)
      | tokens => do
          let (start, rest) ← read? fuel true tokens
          match rest with
          | .symbol ":" :: .symbol "]" :: rest => return (.slice (some start) none, rest)
          | .symbol ":" :: rest =>
              let (stop, rest) ← read? fuel true rest
              return (.slice (some start) (some stop), ← readSymbol? "]" rest)
          | rest => return (.index start, ← readSymbol? "]" rest)

/-- Reads a branch behind its first word or behind `elif`. -/
def readBranch? (fuel : Nat) (tokens : List Token) : Option (Filter × List Token) :=
  match fuel with
  | 0 => none
  | fuel + 1 => do
      let (condition, rest) ← read? fuel true tokens
      let rest ← readWord? "then" rest
      let (yes, rest) ← read? fuel true rest
      match rest with
      | .word "elif" :: rest =>
          let (no, rest) ← readBranch? fuel rest
          return (.branch condition yes (some no), rest)
      | .word "else" :: rest =>
          let (no, rest) ← read? fuel true rest
          return (.branch condition yes (some no), ← readWord? "end" rest)
      | rest => return (.branch condition yes none, ← readWord? "end" rest)

/-- Reads what a fold runs over, the pattern and the arguments. -/
def readFold? (fuel : Nat) (tokens : List Token) :
    Option ((Filter × Pattern × List Filter) × List Token) :=
  match fuel with
  | 0 => none
  | fuel + 1 => do
      let (source, rest) ← readOperand? fuel tokens
      let rest ← readWord? "as" rest
      let (pattern, rest) ← readPattern? fuel rest
      let (arguments, rest) ← readArguments? fuel rest
      return ((source, pattern, arguments), rest)

/-- Reads the arguments of a call, if there are any. -/
def readArguments? (fuel : Nat) (tokens : List Token) : Option (List Filter × List Token) :=
  match fuel with
  | 0 => none
  | fuel + 1 =>
      match tokens with
      | .symbol "(" :: rest => readMoreArguments? fuel rest
      | tokens => some ([], tokens)

def readMoreArguments? (fuel : Nat) (tokens : List Token) : Option (List Filter × List Token) :=
  match fuel with
  | 0 => none
  | fuel + 1 => do
      let (argument, rest) ← read? fuel true tokens
      match rest with
      | .symbol ";" :: rest =>
          let (arguments, rest) ← readMoreArguments? fuel rest
          return (argument :: arguments, rest)
      | rest => return ([argument], ← readSymbol? ")" rest)

/-- Reads a definition behind its first word. -/
def readDefinition? (fuel : Nat) (tokens : List Token) : Option (Definition × List Token) :=
  match fuel with
  | 0 => none
  | fuel + 1 =>
      match tokens with
      | .word name :: rest => do
          let (parameters, rest) ← readHeading? rest
          let rest ← readSymbol? ":" rest
          let (body, rest) ← read? fuel true rest
          return (.mk name parameters body, ← readSymbol? ";" rest)
      | _ => none

def readPieces? (fuel : Nat) (pieces : List TokenPiece) : Option (List Piece) :=
  match fuel with
  | 0 => none
  | fuel + 1 =>
      match pieces with
      | [] => some []
      | .plain text :: rest => do
          return .plain text :: (← readPieces? fuel rest)
      | .filter tokens :: rest => do
          match ← read? fuel true tokens with
          | (body, []) => return .filter body :: (← readPieces? fuel rest)
          | _ => none

/-- Reads the members of an object to be made, up to and with its end. -/
def readEntries? (fuel : Nat) (tokens : List Token) : Option (List Entry × List Token) :=
  match fuel with
  | 0 => none
  | fuel + 1 => do
      let (entry, rest) ← readEntry? fuel tokens
      match rest with
      | .symbol "," :: rest =>
          let (entries, rest) ← readEntries? fuel rest
          return (entry :: entries, rest)
      | rest => return ([entry], ← readSymbol? "\x7d" rest)

def readEntry? (fuel : Nat) (tokens : List Token) : Option (Entry × List Token) :=
  match fuel with
  | 0 => none
  | fuel + 1 =>
      match tokens with
      | .variable name :: .symbol ":" :: rest => do
          let (value, rest) ← read? fuel false rest
          return (.keyed (.variable name) (some value), rest)
      | .variable name :: rest => some (.variable name, rest)
      | .symbol "(" :: rest => do
          let (key, rest) ← read? fuel true rest
          let rest ← readSymbol? ")" rest
          let rest ← readSymbol? ":" rest
          let (value, rest) ← read? fuel false rest
          return (.keyed key (some value), rest)
      | tokens => do
          let (key, rest) ← readKey? fuel tokens
          match rest with
          | .symbol ":" :: rest =>
              let (value, rest) ← read? fuel false rest
              return (.keyed key (some value), rest)
          | rest => return (.keyed key none, rest)

/-- Reads a key: a word or a text. -/
def readKey? (fuel : Nat) (tokens : List Token) : Option (Filter × List Token) :=
  match fuel with
  | 0 => none
  | fuel + 1 =>
      match tokens with
      | .word name :: rest => some (ofPlain name, rest)
      | .quoted pieces :: rest => do
          return (.quoted none (← readPieces? fuel pieces), rest)
      | .format name :: .quoted pieces :: rest => do
          return (.quoted (some name) (← readPieces? fuel pieces), rest)
      | _ => none

def readPattern? (fuel : Nat) (tokens : List Token) : Option (Pattern × List Token) :=
  match fuel with
  | 0 => none
  | fuel + 1 =>
      match tokens with
      | .variable name :: rest => some (.variable name, rest)
      | .symbol "[" :: rest => do
          let (elements, rest) ← readPatterns? fuel rest
          return (.array elements, rest)
      | .symbol "\x7b" :: rest => do
          let (entries, rest) ← readPatternEntries? fuel rest
          return (.object entries, rest)
      | _ => none

def readPatterns? (fuel : Nat) (tokens : List Token) : Option (List Pattern × List Token) :=
  match fuel with
  | 0 => none
  | fuel + 1 => do
      let (element, rest) ← readPattern? fuel tokens
      match rest with
      | .symbol "," :: rest =>
          let (elements, rest) ← readPatterns? fuel rest
          return (element :: elements, rest)
      | rest => return ([element], ← readSymbol? "]" rest)

def readPatternEntries? (fuel : Nat) (tokens : List Token) :
    Option (List PatternEntry × List Token) :=
  match fuel with
  | 0 => none
  | fuel + 1 => do
      let (entry, rest) ← readPatternEntry? fuel tokens
      match rest with
      | .symbol "," :: rest =>
          let (entries, rest) ← readPatternEntries? fuel rest
          return (entry :: entries, rest)
      | rest => return ([entry], ← readSymbol? "\x7d" rest)

def readPatternEntry? (fuel : Nat) (tokens : List Token) :
    Option (PatternEntry × List Token) :=
  match fuel with
  | 0 => none
  | fuel + 1 =>
      match tokens with
      | .variable name :: .symbol ":" :: rest => do
          let (pattern, rest) ← readPattern? fuel rest
          return (.variable name (some pattern), rest)
      | .variable name :: rest => some (.variable name none, rest)
      | .symbol "(" :: rest => do
          let (key, rest) ← read? fuel true rest
          let rest ← readSymbol? ")" rest
          let rest ← readSymbol? ":" rest
          let (pattern, rest) ← readPattern? fuel rest
          return (.keyed key pattern, rest)
      | tokens => do
          let (key, rest) ← readKey? fuel tokens
          let rest ← readSymbol? ":" rest
          let (pattern, rest) ← readPattern? fuel rest
          return (.keyed key pattern, rest)

end

/-- Calls between two tokens, at most. -/
def callsPerToken : Nat := 16

/-- The filter that a text spells. -/
def ofText? (text : String) : Option Filter := do
  let tokens ← Token.ofText? text
  match ← read? (callsPerToken * (text.length + 1)) true tokens with
  | (filter, []) => some filter
  | _ => none

/-- Reads definitions up to the end. The number of tokens bounds `count`. -/
def readDefinitions? (fuel : Nat) : Nat → List Token → Option (List Definition)
  | _, [] => some []
  | 0, _ => none
  | count + 1, tokens => do
      let rest ← readWord? "def" tokens
      let (definition, rest) ← readDefinition? fuel rest
      return definition :: (← readDefinitions? fuel count rest)

end Filter

/-- The definitions that a text spells. -/
def Definition.listOfText? (text : String) : Option (List Definition) := do
  let tokens ← Token.ofText? text
  Filter.readDefinitions? (Filter.callsPerToken * (text.length + 1)) tokens.length tokens

end Exemplar.Query
