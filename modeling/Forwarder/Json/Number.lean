import Forwarder.Decimal.Shortest
import Forwarder.Json.Basic

/-!
# Numbers in JSON texts

A number literal is an integer as long as it has neither a fraction nor an exponent and fits 64
bits; `-0` and everything else is a double. The double is found from the digits that fit an
unsigned 64-bit significand, by one multiplication or division with a power of ten; digits beyond
those only move the decimal point. A literal beyond the range of doubles denotes nothing.
-/

namespace Forwarder.Json

/-- A number literal, taken apart. -/
structure NumberLiteral where
  /-- Whether it begins with a minus sign. -/
  negative : Bool
  /-- The digits before the point. -/
  whole : List Nat
  /-- The digits after the point, if there is one. -/
  fraction : List Nat
  /-- The sign and the digits of the exponent, if there is one. -/
  exponent : Option (Bool × List Nat)
  deriving DecidableEq, Repr

/-- Adds digits to a significand for as long as it stays below `2^64`, and counts the digits that
it takes in and those that it leaves. -/
def takeDigits (significand : Nat) : List Nat → Nat × Nat × Nat
  | [] => (significand, 0, 0)
  | digit :: rest =>
    if significand * 10 + digit < UInt64.size then
      let (total, taken, left) := takeDigits (significand * 10 + digit) rest
      (total, taken + 1, left)
    else (significand, 0, rest.length + 1)

/-- The number that a list of digits spells. -/
def ofDigits (digits : List Nat) : Nat := digits.foldl (fun n digit => n * 10 + digit) 0

/-- A power of ten as a double. -/
def powerOfTen (exponent : Nat) : Float := Float.ofScientific 1 false exponent

/-- Multiplies a magnitude by a power of ten; a negative power below `10^-308` is divided out in
steps. A magnitude below `2^64` has become zero after two of them, so four steps are enough. -/
def scaleByTen (magnitude : Float) (exponent : Int) (steps : Nat) : Option Float :=
  match steps with
  | 0 => some magnitude
  | steps + 1 =>
    if exponent.natAbs ≤ 308 then
      if 0 ≤ exponent then
        let scaled := magnitude * powerOfTen exponent.toNat
        if scaled.isInf then none else some scaled
      else some (magnitude / powerOfTen exponent.natAbs)
    else if magnitude == 0 then some magnitude
    else if 0 ≤ exponent then none
    else scaleByTen (magnitude / powerOfTen 308) (exponent + 308) steps

/-- The greatest exponent that is taken at its value. -/
def exponentLimit : Nat := Nat.pow 2 31 - 1

/-- The double that a literal with a fraction, an exponent or too many digits denotes. -/
def NumberLiteral.double? (literal : NumberLiteral) : Option Float := do
  let (whole, _, dropped) := takeDigits 0 literal.whole
  let (significand, taken, _) := takeDigits whole literal.fraction
  let point : Int := (dropped : Int) - taken
  let magnitude ← match literal.exponent with
    | none => scaleByTen significand.toUInt64.toFloat point 4
    | some (negative, digits) =>
      let stated := ofDigits digits
      if exponentLimit < stated then
        if significand ≠ 0 && !negative then none else some 0.0
      else
        let exponent := if negative then point - stated else point + stated
        let bounded := max (-(exponentLimit : Int) - 1) (min exponent exponentLimit)
        scaleByTen significand.toUInt64.toFloat bounded 4
  return if literal.negative then -magnitude else magnitude

/-- The number that a literal denotes, unless it is out of range. -/
def NumberLiteral.number? (literal : NumberLiteral) : Option Number :=
  let magnitude := ofDigits literal.whole
  if literal.fraction.isEmpty && literal.exponent.isNone && !literal.negative
      && magnitude < UInt64.size then
    some (.integer magnitude)
  else if literal.fraction.isEmpty && literal.exponent.isNone && literal.negative
      && magnitude ≠ 0 && magnitude ≤ Nat.pow 2 63 then
    some (.integer (-magnitude))
  else literal.double?.map fun value => .double value.toBits

/-- The text of an integer. -/
def integerText : Int → List Char
  | .ofNat n => Nat.toDigits 10 n
  | .negSucc n => '-' :: Nat.toDigits 10 (n + 1)

/-- The text of a number. -/
def Number.text : Number → List Char
  | .integer value => integerText value
  | .double bits => (Decimal.shortest bits).text

end Forwarder.Json
