/-!
# The shortest decimal of a double

A double stands for every real number that rounds to it, an interval around its exact value. Of
the decimals in that interval the shortest is the one on the coarsest grid of powers of ten that
meets the interval at all, and on that grid the one nearest to the exact value. Grids are tried
from the coarsest on; on each of them only the two neighbours of the exact value can be nearest.

All comparisons are between natural numbers: a decimal `d * 10^g` and a binary fraction `x * 2^e`
are brought to a common factor first.
-/

namespace Forwarder

/-- A decimal fraction `digits * 10^exponent` with a sign. -/
structure Decimal where
  /-- Whether the sign is negative. -/
  negative : Bool
  /-- The significant digits, read as one number. -/
  digits : Nat
  /-- The power of ten of the last digit. -/
  exponent : Int
  deriving DecidableEq, Repr

namespace Decimal

/-- The exact value `significand * 2^exponent` of a positive double. -/
structure Binary where
  /-- The significand. -/
  significand : Nat
  /-- The power of two of its last bit. -/
  exponent : Int
  /-- Whether the next double below is only half as far away as the next one above. -/
  lowerGapHalved : Bool
  deriving DecidableEq, Repr

/-- The magnitude that the lower 63 bits of a double give it. -/
def Binary.ofBits (bits : UInt64) : Binary :=
  let stored : Nat := bits.toNat % Nat.pow 2 52
  let biased : Nat := bits.toNat / Nat.pow 2 52 % Nat.pow 2 11
  if biased = 0 then ⟨stored, -1074, false⟩
  else ⟨stored + Nat.pow 2 52, (biased : Int) - 1075, stored = 0 && biased > 1⟩

/-- Factors `(a, b)` such that `d * 10^g` compares to `x * 2^e` as `d * a` does to `x * b`. -/
def commonFactors (g e : Int) : Nat × Nat :=
  (Nat.pow 10 g.toNat * Nat.pow 2 (-e).toNat, Nat.pow 2 e.toNat * Nat.pow 10 (-g).toNat)

/-- The multiple of `10^g` that lies in the rounding interval of a double and is nearest to it, a
tie going to the even digit. Quarters of the last bit make the ends of the interval integers. -/
def nearestOnGrid? (value : Binary) (g : Int) : Option Nat :=
  let (a, b) := commonFactors g (value.exponent - 2)
  let exact := 4 * value.significand * b
  let lower := (4 * value.significand - (if value.lowerGapHalved then 1 else 2)) * b
  let upper := (4 * value.significand + 2) * b
  let closed := value.significand % 2 = 0
  let meets (d : Nat) : Bool :=
    if closed then lower ≤ d * a && d * a ≤ upper else lower < d * a && d * a < upper
  let below := exact / a
  let above := below + 1
  if meets below && below != 0 then
    if meets above then
      let toBelow := exact - below * a
      let toAbove := above * a - exact
      if toBelow < toAbove || (toBelow = toAbove && below % 2 = 0) then some below else some above
    else some below
  else if meets above then some above
  else none

/-- Tries the grids from `10^g` on, each one finer than the one before. -/
def searchGrids (value : Binary) (g : Int) : Nat → Nat × Int
  | 0 => (0, 0)
  | grids + 1 =>
    match nearestOnGrid? value g with
    | some d => (d, g)
    | none => searchGrids value (g - 1) grids

/-- The shortest decimal that reads back as a finite double. Every double below `10^309` is met
by the grid `10^-324` at the latest. -/
def shortest (bits : UInt64) : Decimal :=
  let negative := bits.toNat / Nat.pow 2 63 = 1
  let value := Binary.ofBits bits
  if value.significand = 0 then ⟨negative, 0, 0⟩
  else
    let (digits, exponent) := searchGrids value 309 (309 + 400)
    ⟨negative, digits, exponent⟩

/-- Zeros to pad a number with. -/
def zeros (count : Nat) : List Char := List.replicate count '0'

/-- The magnitude of a decimal in positional notation where its first digit stands at a place from
the sixteenth before the point to the fifth after it, and in scientific notation otherwise. A
whole number keeps one zero after its point. -/
def magnitude (decimal : Decimal) : List Char :=
  let digits := Nat.toDigits 10 decimal.digits
  let count : Int := digits.length
  let lead := count + decimal.exponent
  if 0 ≤ decimal.exponent && lead ≤ 16 then
    digits ++ zeros decimal.exponent.toNat ++ ['.', '0']
  else if 0 < lead && lead ≤ 16 then
    digits.take lead.toNat ++ '.' :: digits.drop lead.toNat
  else if -5 < lead && lead ≤ 0 then
    '0' :: '.' :: (zeros (-lead).toNat ++ digits)
  else
    let power := 'e' :: (toString (lead - 1)).toList
    match digits with
    | [] => power
    | [digit] => digit :: power
    | digit :: rest => digit :: '.' :: (rest ++ power)

/-- The text of a decimal. -/
def text (decimal : Decimal) : List Char :=
  if decimal.negative then '-' :: decimal.magnitude else decimal.magnitude

end Decimal

end Forwarder
