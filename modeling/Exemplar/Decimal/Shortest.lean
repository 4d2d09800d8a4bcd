/-!
# The shortest decimal of a binary64

A positive binary64 stands for all the reals that round to it. Among the decimals in that interval
the one with the fewest digits is written, and of several with as few the nearest. For a number of
digits only the two neighbours of the value on the decimal grid need be tried.
-/

namespace Exemplar.Decimal

/-- A positive binary64 as `mantissa · 2 ^ exponent`. -/
structure Binary where
  mantissa : Nat
  exponent : Int
  /-- The gap below is half the gap above: the mantissa is a power of two. -/
  narrowBelow : Bool

/-- A decimal as `digits · 10 ^ exponent`. -/
structure Scaled where
  digits : Nat
  exponent : Int

/-- The leading bit of a mantissa, which is not stored. -/
def hiddenBit : Nat := 0x10000000000000

/-- The sign bit. -/
def signBit : Nat := 0x8000000000000000

def Binary.ofBits (bits : Nat) : Binary :=
  let fraction : Nat := bits % hiddenBit
  let biased : Nat := bits / hiddenBit % 0x800
  if biased = 0 then ⟨fraction, -1074, false⟩
  else ⟨hiddenBit + fraction, (biased : Int) - 1075, fraction == 0 && decide (1 < biased)⟩

/-- Compares `decimal.digits · 10 ^ decimal.exponent` with `quarters · 2 ^ (exponent - 2)`. -/
def compareWith (decimal : Scaled) (quarters : Nat) (exponent : Int) : Ordering :=
  let shift := exponent - 2
  compare
    (decimal.digits * Nat.pow 10 decimal.exponent.toNat * Nat.pow 2 (-shift).toNat)
    (quarters * Nat.pow 2 shift.toNat * Nat.pow 10 (-decimal.exponent).toNat)

/-- Whether a decimal rounds to the binary64: it lies between the midpoints to the neighbours, which
themselves belong to it if its mantissa is even. -/
def Binary.admits (binary : Binary) (decimal : Scaled) : Bool :=
  let middle := 4 * binary.mantissa
  let low := compareWith decimal (middle - if binary.narrowBelow then 1 else 2) binary.exponent
  let high := compareWith decimal (middle + 2) binary.exponent
  if binary.mantissa % 2 = 0 then low != .lt && high != .gt else low == .gt && high == .lt

/-- The greatest grid point of an exponent that is not above the value. -/
def Binary.floorAt (binary : Binary) (exponent : Int) : Nat :=
  binary.mantissa * Nat.pow 2 binary.exponent.toNat * Nat.pow 10 (-exponent).toNat
    / (Nat.pow 2 (-binary.exponent).toNat * Nat.pow 10 exponent.toNat)

/-- Of two neighbours on a grid, whether the value is at least as near to the lower one; a tie goes
to the even one. -/
def Binary.nearerBelow (binary : Binary) (lower : Scaled) : Bool :=
  match compareWith ⟨10 * lower.digits + 5, lower.exponent - 1⟩ (4 * binary.mantissa)
      binary.exponent with
  | .gt => true
  | .lt => false
  | .eq => lower.digits % 2 == 0

/-- The decimal on one grid that rounds to the value and is nearest to it, if there is one. -/
def Binary.onGrid? (binary : Binary) (exponent : Int) : Option Scaled :=
  let digits := binary.floorAt exponent
  let lower : Scaled := ⟨digits, exponent⟩
  let upper : Scaled := ⟨digits + 1, exponent⟩
  match digits != 0 && binary.admits lower, binary.admits upper with
  | true, true => some (if binary.nearerBelow lower then lower else upper)
  | true, false => some lower
  | false, true => some upper
  | false, false => none

/-- The exponent of the first decimal digit of the value, found from the binary one: the estimate by
the logarithm is right or one too small. -/
def Binary.leadingExponent (binary : Binary) : Int :=
  let estimate := ((Nat.log2 binary.mantissa : Int) + binary.exponent) * 30103 / 100000
  if binary.floorAt (estimate + 1) ≠ 0 then estimate + 1 else estimate

/-- Tries grids from coarse to fine. -/
def Binary.searchGrids (binary : Binary) : Nat → Int → Scaled
  | 0, exponent => ⟨binary.floorAt exponent, exponent⟩
  | fuel + 1, exponent =>
      match binary.onGrid? exponent with
      | some decimal => decimal
      | none => binary.searchGrids fuel (exponent - 1)

/-- A decimal without zeros at its end. -/
def Scaled.trim : Nat → Scaled → Scaled
  | 0, decimal => decimal
  | fuel + 1, decimal =>
      if decimal.digits ≠ 0 ∧ decimal.digits % 10 = 0 then
        trim fuel ⟨decimal.digits / 10, decimal.exponent + 1⟩
      else decimal

/-- The shortest decimal of a positive binary64. Seventeen digits always do. -/
def Binary.shortest (binary : Binary) : Scaled :=
  Scaled.trim 20 (binary.searchGrids 18 (binary.leadingExponent + 1))

/-! ## Text -/

/-- How a decimal is written. -/
structure Format where
  /-- The least and the greatest exponent of the first digit that need no exponent part. -/
  positionalFrom : Int
  positionalTo : Int
  /-- Whether an exponent that is not negative has a plus sign. -/
  plusSign : Bool
  /-- The least number of digits of an exponent. -/
  exponentDigits : Nat

def digitChars (n : Nat) : List Char :=
  Nat.toDigits 10 n

def padLeft (width : Nat) (digits : List Char) : List Char :=
  List.replicate (width - digits.length) '0' ++ digits

/-- A decimal with a point, where its first digit has the exponent `leading`. -/
def positional (digits : List Char) (leading : Int) : List Char :=
  if leading < 0 then
    ['0', '.'] ++ List.replicate (leading.natAbs - 1) '0' ++ digits
  else
    let whole := leading.toNat + 1
    if digits.length ≤ whole then
      digits ++ List.replicate (whole - digits.length) '0' ++ ['.', '0']
    else digits.take whole ++ ['.'] ++ digits.drop whole

def exponential (format : Format) (digits : List Char) (leading : Int) : List Char :=
  let sign := if leading < 0 then ['-'] else if format.plusSign then ['+'] else []
  let power := sign ++ padLeft format.exponentDigits (digitChars leading.natAbs)
  match digits with
  | [digit] => [digit, 'e'] ++ power
  | digits => digits.take 1 ++ ['.'] ++ digits.drop 1 ++ ['e'] ++ power

def Format.writePositive (format : Format) (bits : Nat) : List Char :=
  let decimal := (Binary.ofBits bits).shortest
  let digits := digitChars decimal.digits
  let leading := decimal.exponent + digits.length - 1
  if format.positionalFrom ≤ leading ∧ leading ≤ format.positionalTo then
    positional digits leading
  else exponential format digits leading

/-- A finite binary64 as text. -/
def Format.write (format : Format) (value : Float) : String :=
  let bits := value.toBits.toNat
  let magnitude := bits % signBit
  let sign := if bits / signBit = 1 then ['-'] else []
  String.ofList
    (sign ++ if magnitude = 0 then ['0', '.', '0'] else format.writePositive magnitude)

end Exemplar.Decimal
