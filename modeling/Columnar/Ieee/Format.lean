/-!
Binary floating-point formats: the values that bit patterns stand for, and rounding to nearest.

A finite magnitude is a whole number of units, the unit being the smallest positive value of its
format; so all of it is arithmetic on natural numbers.
-/

set_option autoImplicit false

namespace Columnar.Ieee

structure Format where
  fractionBits : Nat
  exponentBits : Nat
deriving DecidableEq, Repr

namespace Format

def half : Format := ⟨10, 5⟩
def single : Format := ⟨23, 8⟩
def double : Format := ⟨52, 11⟩

def scale (format : Format) : Nat :=
  1 <<< (1 <<< (format.exponentBits - 1) - 2 + format.fractionBits)

def infinity (format : Format) : Nat := (1 <<< format.exponentBits - 1) <<< format.fractionBits

def signBit (format : Format) : Nat := 1 <<< (format.exponentBits + format.fractionBits)

def units (format : Format) (magnitude : Nat) : Nat :=
  let exponent := magnitude >>> format.fractionBits
  let fraction := magnitude % (1 <<< format.fractionBits)
  if exponent = 0 then fraction
  else (1 <<< format.fractionBits + fraction) <<< (exponent - 1)

def quotient (numerator denominator : Nat) : Nat :=
  let whole := numerator / denominator
  let rest := numerator % denominator
  if denominator < 2 * rest ∨ (2 * rest = denominator ∧ whole % 2 = 1) then whole + 1 else whole

-- The magnitude bits nearest to a fraction, a tie going to the even pattern; what lies beyond the
-- greatest finite value becomes infinity.
def round (format : Format) (numerator denominator : Nat) : Nat :=
  let scaled := numerator * format.scale
  let shift := (scaled / denominator).log2 - format.fractionBits
  min (shift <<< format.fractionBits + quotient scaled (denominator <<< shift)) format.infinity

end Format

end Columnar.Ieee
