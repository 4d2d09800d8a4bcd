import Exemplar.Json.Reader
import Exemplar.Query.Format
import Exemplar.Query.Token

/-!
# Operations with names

The filters that are there from the start and work on values alone: each takes its input and the
values of its arguments.
-/

namespace Exemplar.Query

abbrev Builtin := Value → List Value → Except Fault Value

namespace Builtin

def text (value : Value) : Except Fault String :=
  match value with
  | .string text => .ok text
  | value => .error (.mistyped value "string")

def elements (value : Value) : Except Fault (List Value) :=
  match value with
  | .array elements => .ok elements
  | value => .error (.mistyped value "array")

def number (value : Value) : Except Fault Number :=
  match value with
  | .number number => .ok number
  | value => .error (.mistyped value "number")

/-! ## Numbers -/

/-- The integer that a rounding makes of a number. -/
def rounded (round : Float → Float) (value : Value) : Except Fault Value := do
  match ← number value with
  | .integer value => return .number (.integer value)
  | other => return .number (.integer (round other.toFloat).toInt64)

def truncated (value : Float) : Float :=
  if value < 0.0 then value.ceil else value.floor

def floatFunctions : List (String × (Float → Float)) := [
  ("sqrt", Float.sqrt), ("cbrt", Float.cbrt), ("fabs", Float.abs),
  ("exp", Float.exp), ("exp2", Float.exp2), ("exp10", fun x => Float.pow 10.0 x),
  ("log", Float.log), ("log2", Float.log2), ("log10", Float.log10),
  ("sin", Float.sin), ("cos", Float.cos), ("tan", Float.tan),
  ("asin", Float.asin), ("acos", Float.acos), ("atan", Float.atan),
  ("sinh", Float.sinh), ("cosh", Float.cosh), ("tanh", Float.tanh),
  ("asinh", Float.asinh), ("acosh", Float.acosh), ("atanh", Float.atanh),
  ("trunc", truncated)]

/-- The number that a text spells, with nothing around it. -/
def numberOfText (spelled : String) : Except Fault Value :=
  let (sign, digits) :=
    match spelled.toList with
    | '-' :: rest => ("-", rest)
    | cs => ("", cs)
  match Token.numberOf? digits with
  | some (spelled, []) => .ok (.number (Number.ofText (sign ++ spelled)))
  | _ => .error (.mistyped (.string spelled) "number")

def toNumber (value : Value) : Except Fault Value :=
  match value with
  | .string text => numberOfText text
  | .number number => .ok (.number number)
  | value => .error (.mistyped value "number")

/-! ## Texts -/

def mapText (change : String → String) (value : Value) : Except Fault Value := do
  return .string (change (← text value))

def asciiCase (change : Char → Char) (text : String) : String :=
  String.ofList (text.toList.map change)

def trimStart (text : String) : String :=
  String.ofList (text.toList.dropWhile Unicode.isWhiteSpace)

def trimEnd (text : String) : String :=
  String.ofList (text.toList.reverse.dropWhile Unicode.isWhiteSpace).reverse

def explode (value : Value) : Except Fault Value := do
  return .array ((← text value).toList.map fun c => Value.ofNat c.toNat)

def character (value : Value) : Except Fault Char := do
  let code := (← value.integer).toNat
  if code.isValidChar ∧ 0 ≤ (← value.integer) then return Char.ofNat code
  else throw (.mistyped value "character")

def implode (value : Value) : Except Fault Value := do
  return .string (String.ofList (← (← elements value).mapM character))

def fromJson (value : Value) : Except Fault Value := do
  let text ← text value
  match Json.parse text with
  | .ok value => return Value.ofJson value
  | .error fault => throw (.ofText (fault.describe text.toList))

def startsWith (value mark : Value) : Except Fault Value := do
  return .bool ((Text.after? (← text mark).toList (← text value).toList).isSome)

def endsWith (value mark : Value) : Except Fault Value := do
  return .bool
    ((Text.after? (← text mark).toList.reverse (← text value).toList.reverse).isSome)

def withoutStart (value mark : Value) : Value :=
  match value, mark with
  | .string text, .string mark =>
      .string (((Text.after? mark.toList text.toList).map String.ofList).getD text)
  | value, _ => value

def withoutEnd (value mark : Value) : Value :=
  match value, mark with
  | .string text, .string mark =>
      .string (((Text.after? mark.toList.reverse text.toList.reverse).map
        fun rest => String.ofList rest.reverse).getD text)
  | value, _ => value

def split (value mark : Value) : Except Fault Value := do
  return .array ((Text.split (← text mark) (← text value)).map .string)

/-! ## Lists -/

/-- The places where a list starts with another. -/
def listPlaces (mark : List Value) (place : Nat) : List Value → List Nat
  | [] => []
  | value :: rest =>
      let front := (value :: rest).take mark.length
      let here := front.length = mark.length ∧ Value.alike (.array front) (.array mark)
      (if here then [place] else []) ++ listPlaces mark (place + 1) rest

/-- Where a value occurs: a text in a text, a list in a list, an element in a list. -/
def indices (value mark : Value) : Except Fault Value :=
  match value, mark with
  | .null, _ => .ok .null
  | .string text, .string mark => .ok (.array ((Text.places mark text).map Value.ofNat))
  | .array _, .array [] => .ok .null
  | .array elements, .array marks =>
      .ok (.array ((listPlaces marks 0 elements).map Value.ofNat))
  | .array elements, mark => .ok (.array ((listPlaces [mark] 0 elements).map Value.ofNat))
  | value, mark => .error (.unfitIndex value mark)

/-- Each element with its key. -/
def keyed (value keys : Value) : Except Fault (List (Value × Value)) := do
  return (← elements keys).zip (← elements value)

/-- The elements in the order of their keys; elements of one key stay in their order. -/
def sortKeyed (entries : List (Value × Value)) : List (Value × Value) :=
  entries.mergeSort fun a b => !b.1.precedes a.1

def sorted (value keys : Value) : Except Fault Value := do
  return .array ((sortKeyed (← keyed value keys)).map (·.2))

/-- The rows of neighbours with one key. -/
def groups (entries : List (Value × Value)) : List (List (Value × Value)) :=
  entries.splitBy fun a b => a.1.alike b.1

def grouped (value keys : Value) : Except Fault Value := do
  return .array ((groups (sortKeyed (← keyed value keys))).map
    fun group => .array (group.map (·.2)))

def distinct (value keys : Value) : Except Fault Value := do
  return .array ((groups (sortKeyed (← keyed value keys))).filterMap
    fun group => group.head?.map (·.2))

/-- The first element with the least key. -/
def least (value keys : Value) : Except Fault Value := do
  match ← keyed value keys with
  | [] => return .null
  | entry :: rest =>
      return (rest.foldl (fun best entry => if entry.1.precedes best.1 then entry else best)
        entry).2

/-- The last element with the greatest key. -/
def greatest (value keys : Value) : Except Fault Value := do
  match ← keyed value keys with
  | [] => return .null
  | entry :: rest =>
      return (rest.foldl (fun best entry => if entry.1.precedes best.1 then best else entry)
        entry).2

/-! ## Places -/

/-- The value with the part of one key changed. Null is an empty list or object. -/
def changePart (change : Value → Except Fault Value) (value key : Value) :
    Except Fault Value :=
  match value, key with
  | .null, .string key => do return .object [(key, ← change .null)]
  | .object members, .string key => do
      let changed ← change ((members.lookup key).getD .null)
      return .object (Value.setMember key changed members)
  | .null, .number (.integer index) => changeElement index.toInt []
  | .array elements, .number (.integer index) => changeElement index.toInt elements
  | value, key => .error (.unfitIndex value key)
where
  changeElement (index : Int) (elements : List Value) : Except Fault Value := do
    let place := Value.place index elements.length
    if place < 0 then throw (.ofText "out of bounds")
    let old := (elements[place.toNat]?).getD .null
    let padded := elements ++ List.replicate (place.toNat + 1 - elements.length) .null
    return .array (padded.set place.toNat (← change old))

def setPath (new : Value) : List Value → Value → Except Fault Value
  | [], _ => .ok new
  | key :: rest, value => changePart (setPath new rest) value key

/-! ## The table -/

def unary (f : Value → Except Fault Value) : Builtin :=
  fun value _ => f value

def binary (f : Value → Value → Except Fault Value) : Builtin :=
  fun value arguments => f value (arguments.headD .null)

/-- The operations under their names and numbers of arguments. -/
def table : List ((String × Nat) × Builtin) := [
  (("error", 0), unary fun value => .error (.raised value)),
  (("keys_unsorted", 0), unary fun value => return .array (← value.keys)),
  (("length", 0), unary Value.length),
  (("utf8bytelength", 0), unary fun value => return Value.ofNat (← text value).utf8ByteSize),
  (("type", 0), unary fun value => .ok (.string value.kindName)),
  (("tostring", 0), unary fun value => .ok (.string value.plainText)),
  (("tojson", 0), unary fun value => .ok (.string value.text)),
  (("fromjson", 0), unary fromJson),
  (("tonumber", 0), unary toNumber),
  (("floor", 0), unary (rounded Float.floor)),
  (("ceil", 0), unary (rounded Float.ceil)),
  (("round", 0), unary (rounded Float.round)),
  (("explode", 0), unary explode),
  (("implode", 0), unary implode),
  (("ascii_downcase", 0), unary (mapText (asciiCase Char.toLower))),
  (("ascii_upcase", 0), unary (mapText (asciiCase Char.toUpper))),
  (("trim", 0), unary (mapText (trimStart ∘ trimEnd))),
  (("ltrim", 0), unary (mapText trimStart)),
  (("rtrim", 0), unary (mapText trimEnd)),
  (("has", 1), binary fun value key => return .bool (← value.has key)),
  (("contains", 1), binary fun value other => .ok (.bool (value.contains other))),
  (("startswith", 1), binary startsWith),
  (("endswith", 1), binary endsWith),
  (("ltrimstr", 1), binary fun value mark => .ok (withoutStart value mark)),
  (("rtrimstr", 1), binary fun value mark => .ok (withoutEnd value mark)),
  (("split", 1), binary split),
  (("indices", 1), binary indices),
  (("sorted_under", 1), binary sorted),
  (("grouped_under", 1), binary grouped),
  (("distinct_under", 1), binary distinct),
  (("least_under", 1), binary least),
  (("greatest_under", 1), binary greatest),
  (("pow", 2), fun _ arguments => do
    match arguments with
    | [a, b] => return Value.ofFloat (Float.pow (← number a).toFloat (← number b).toFloat)
    | _ => return .null),
  (("setpath", 2), fun value arguments => do
    match arguments with
    | [path, new] => setPath new (← elements path) value
    | _ => return .null)]
  ++ floatFunctions.map (fun entry =>
    ((entry.1, 0), unary fun value => return Value.ofFloat (entry.2 (← number value).toFloat)))
  ++ Format.names.map (fun name => (("@" ++ name, 0), unary (Format.write name)))

def find? (name : String) (arity : Nat) : Option Builtin :=
  table.lookup (name, arity)

end Builtin

end Exemplar.Query
