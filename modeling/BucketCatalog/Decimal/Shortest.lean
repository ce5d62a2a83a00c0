import BucketCatalog.Text

/-!
# Shortest decimals of double-precision numbers

A finite double is `mantissa * 2 ^ exponent`.  The reals that round to it form an interval, whose
ends belong to it exactly when the mantissa is even.  `shortest` finds the fewest digits of a
decimal inside that interval, the nearest such decimal to the number.  All comparisons are between
natural numbers, so nothing is rounded on the way.
-/

namespace BucketCatalog
namespace Decimal

/-- A double without its sign, as an exact product `mantissa * 2 ^ exponent`. -/
structure Binary where
  /-- The integer factor. -/
  mantissa : Nat
  /-- The power of two. -/
  exponent : Int
  /-- Whether the next smaller double is half as far away as the next larger one. -/
  narrowBelow : Bool
  deriving DecidableEq

/-- The value of the leading bit of a mantissa, which is not written: two to the 52. -/
def hiddenBit : Nat := 4503599627370496

/-- The exact value of the magnitude of a finite double. -/
def Binary.ofBits (bits : UInt64) : Binary :=
  let fraction : Nat := bits.toNat % hiddenBit
  let biased : Nat := bits.toNat / hiddenBit % 2048
  if biased = 0 then
    { mantissa := fraction, exponent := -1074, narrowBelow := false }
  else
    { mantissa := fraction + hiddenBit
      exponent := (biased : Int) - 1075
      narrowBelow := fraction = 0 && biased > 1 }

/-- Whether the sign bit of a double is set. -/
def isNegative (bits : UInt64) : Bool :=
  bits.toNat / (hiddenBit * 2048) = 1

/-- An exact decimal `digits * 10 ^ exponent`. -/
structure Scientific where
  /-- The significant digits. -/
  digits : Nat
  /-- The power of ten. -/
  exponent : Int
  deriving DecidableEq

/-- The number of decimal places before the point: `p` with `10 ^ (p - 1) ≤ n / d < 10 ^ p`. -/
def magnitude (numerator denominator : Nat) : Int :=
  if denominator ≤ numerator then
    (Nat.toDigits 10 (numerator / denominator)).length
  else
    match (List.range 400).find? fun places => denominator ≤ numerator * Nat.pow 10 places with
    | some places => 1 - (places : Int)
    | none => 0

/-- Remove the zeros at the end of the digits, at most `bound` of them. -/
def Scientific.strip : Nat → Scientific → Scientific
  | 0, number => number
  | bound + 1, number =>
      if number.digits ≠ 0 ∧ number.digits % 10 = 0 then
        Scientific.strip bound ⟨number.digits / 10, number.exponent + 1⟩
      else number

/-- The number's neighbour on the grid of `count` digits, if it rounds to the number. -/
def onGrid (number : Binary) (count : Nat) : Option Scientific :=
  let scale := Nat.pow 2 (number.exponent - 2).toNat
  let denominator := Nat.pow 2 (2 - number.exponent).toNat
  let value := 4 * number.mantissa * scale
  let upper := (4 * number.mantissa + 2) * scale
  let lower := (4 * number.mantissa - if number.narrowBelow then 1 else 2) * scale
  let power := magnitude value denominator - count
  let unit := denominator * Nat.pow 10 power.toNat
  let factor := Nat.pow 10 (-power).toNat
  let inside := fun digits : Nat =>
    if number.mantissa % 2 = 0 then
      decide (lower * factor ≤ digits * unit) && decide (digits * unit ≤ upper * factor)
    else
      decide (lower * factor < digits * unit) && decide (digits * unit < upper * factor)
  let below := value * factor / unit
  let above := below + 1
  let belowGap := value * factor - below * unit
  let aboveGap := above * unit - value * factor
  match inside below, inside above with
  | true, true =>
      if belowGap < aboveGap ∨ (belowGap = aboveGap ∧ below % 2 = 0) then some ⟨below, power⟩
      else some ⟨above, power⟩
  | true, false => some ⟨below, power⟩
  | false, true => some ⟨above, power⟩
  | false, false => none

/-- The nearest of the decimals with the fewest digits that round to a finite number. -/
def shortest (number : Binary) : Scientific :=
  if number.mantissa = 0 then ⟨0, 0⟩
  else
    match (List.range 17).findSome? fun count => onGrid number (count + 1) with
    | some found => found.strip 20
    | none => ⟨0, 0⟩

/--
The text of a finite double: its shortest decimal, written positionally when the power of ten of its
first digit is from -5 to 15 and with a signed exponent otherwise.
-/
def text (bits : UInt64) : String :=
  let number := shortest (Binary.ofBits bits)
  let digits := Nat.toDigits 10 number.digits
  let leading : Int := if number.digits = 0 then 0 else number.exponent + digits.length - 1
  let sign := if isNegative bits then ['-'] else []
  let body :=
    if leading < -5 ∨ 15 < leading then
      let fraction := if digits.tail.isEmpty then [] else '.' :: digits.tail
      let mark := if leading < 0 then ['e', '-'] else ['e', '+']
      digits.take 1 ++ fraction ++ mark ++ Nat.toDigits 10 leading.natAbs
    else if leading < 0 then
      ['0', '.'] ++ List.replicate (leading.natAbs - 1) '0' ++ digits
    else
      let whole := leading.toNat + 1
      let shown := digits ++ List.replicate (whole - digits.length) '0'
      let fraction := if (shown.drop whole).isEmpty then ['0'] else shown.drop whole
      shown.take whole ++ '.' :: fraction
  String.ofList (sign ++ body)

end Decimal
end BucketCatalog
