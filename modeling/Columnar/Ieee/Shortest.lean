import Columnar.Ieee.Format

/-!
The decimal with the fewest digits that reads back as a given binary number: of the decimals that
lie in the interval of reals rounding to the number, one with the fewest digits, and of those the
nearest, a tie going up.
-/

set_option autoImplicit false

namespace Columnar.Ieee

structure Decimal where
  digits : Nat
  exponent : Int
deriving DecidableEq, Repr

def digitCount (number : Nat) : Nat :=
  if number < 10 then 1 else digitCount (number / 10) + 1

def leadingExponent (numerator denominator : Nat) : Int :=
  if denominator ≤ numerator then (digitCount (numerator / denominator) : Int) - 1
  else
    let places := digitCount denominator - digitCount numerator
    if denominator ≤ numerator * Nat.pow 10 places then -(places : Int) else -(places : Int) - 1

structure Interval where
  low : Nat
  middle : Nat
  high : Nat
  closed : Bool

def Format.interval (format : Format) (magnitude : Nat) : Interval :=
  let middle := format.units magnitude
  { low := format.units (magnitude - 1) + middle
    middle := 2 * middle
    high := middle + format.units (magnitude + 1)
    closed := magnitude % 2 = 0 }

def Interval.holds (interval : Interval) (halfUnits : Nat) (factor : Nat) : Bool :=
  if interval.closed then
    interval.low * factor ≤ halfUnits && halfUnits ≤ interval.high * factor
  else interval.low * factor < halfUnits && halfUnits < interval.high * factor

-- The multiple of ten to the `exponent` next to the middle that lies in the interval, if one of
-- the two neighbours does.
def Interval.onGrid? (interval : Interval) (scale : Nat) (exponent : Int) : Option Nat :=
  let step := 2 * scale * Nat.pow 10 exponent.toNat
  let factor := Nat.pow 10 (-exponent).toNat
  let below := interval.middle * factor / step
  let lowerIn := interval.holds (below * step) factor
  let upperIn := interval.holds ((below + 1) * step) factor
  let nearUpper := (2 * below + 1) * step ≤ 2 * (interval.middle * factor)
  if upperIn && (!lowerIn || nearUpper) then some (below + 1)
  else if lowerIn then some below
  else none

def Decimal.normalize (fuel : Nat) (decimal : Decimal) : Decimal :=
  match fuel with
  | 0 => decimal
  | fuel + 1 =>
    if decimal.digits % 10 = 0 then
      Decimal.normalize fuel ⟨decimal.digits / 10, decimal.exponent + 1⟩
    else decimal

def Interval.search (interval : Interval) (scale : Nat) : Nat → Int → Decimal
  | 0, exponent =>
    ⟨interval.middle * Nat.pow 10 (-exponent).toNat / (2 * scale * Nat.pow 10 exponent.toNat),
      exponent⟩
  | more + 1, exponent =>
    match interval.onGrid? scale exponent with
    | some digits => ⟨digits, exponent⟩
    | none => interval.search scale more (exponent - 1)

-- The shortest decimal of a positive finite magnitude. Seventeen digits always suffice.
def Format.shortest (format : Format) (magnitude : Nat) : Decimal :=
  let first := leadingExponent (format.units magnitude) format.scale
  ((format.interval magnitude).search format.scale 17 first).normalize 18

end Columnar.Ieee
