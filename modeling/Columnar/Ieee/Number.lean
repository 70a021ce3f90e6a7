import Columnar.Ieee.Format

set_option autoImplicit false

namespace Columnar.Ieee

-- A double precision number; all NaNs are one.
structure Double where
  bits : UInt64
  one_nan : Format.double.infinity < bits.toNat % (1 <<< 63) → bits = 0x7FF8000000000000
deriving DecidableEq

structure Single where
  bits : UInt32
  one_nan : Format.single.infinity < bits.toNat % (1 <<< 31) → bits = 0x7FC00000
deriving DecidableEq

inductive Reading where
  | nan
  | number (negative : Bool) (magnitude : Nat)
deriving DecidableEq, Repr

def Format.reading (format : Format) (pattern : Nat) : Reading :=
  let magnitude := pattern % format.signBit
  if format.infinity < magnitude then .nan
  else .number (format.signBit ≤ pattern) magnitude

def Reading.convert (source target : Format) : Reading → Reading
  | .nan => .nan
  | .number negative magnitude =>
    if magnitude = source.infinity then .number negative target.infinity
    else .number negative (target.round (source.units magnitude) source.scale)

namespace Double

def nan : Double := ⟨0x7FF8000000000000, fun _ => rfl⟩

def ofBits (bits : UInt64) : Double :=
  if number : Format.double.infinity < bits.toNat % (1 <<< 63) then nan
  else ⟨bits, fun isNan => absurd isNan number⟩

def ofReading : Reading → Double
  | .nan => nan
  | .number negative magnitude =>
    ofBits (UInt64.ofNat (magnitude + if negative then Format.double.signBit else 0))

def reading (x : Double) : Reading := Format.double.reading x.bits.toNat

def ofRatio (numerator denominator : Nat) : Double :=
  ofReading (.number false (Format.double.round numerator denominator))

end Double

namespace Single

def nan : Single := ⟨0x7FC00000, fun _ => rfl⟩

def ofBits (bits : UInt32) : Single :=
  if number : Format.single.infinity < bits.toNat % (1 <<< 31) then nan
  else ⟨bits, fun isNan => absurd isNan number⟩

def ofReading : Reading → Single
  | .nan => nan
  | .number negative magnitude =>
    ofBits (UInt32.ofNat (magnitude + if negative then Format.single.signBit else 0))

def reading (x : Single) : Reading := Format.single.reading x.bits.toNat

def toDouble (x : Single) : Double :=
  Double.ofReading (x.reading.convert Format.single Format.double)

def zero : Single := ofBits 0
def one : Single := ofBits 0x3F800000

end Single

def Double.ofHalf (pattern : Nat) : Double :=
  Double.ofReading ((Format.half.reading pattern).convert Format.half Format.double)

def Double.toSingle (x : Double) : Single :=
  Single.ofReading (x.reading.convert Format.double Format.single)

def wholeAsDouble (number : Nat) : Nat :=
  let shift := number.log2 - Format.double.fractionBits
  Format.quotient number (1 <<< shift) <<< shift

namespace Reading

-- The place of a number in the order of its format, both zeros sharing one.
def rank : Reading → Option Int
  | .nan => none
  | .number negative magnitude => some (if negative then -(magnitude : Int) else magnitude)

def below (a b : Reading) : Bool :=
  match a.rank, b.rank with
  | some x, some y => x < y
  | _, _ => false

def same (a b : Reading) : Bool :=
  match a.rank, b.rank with
  | some x, some y => x == y
  | _, _ => false

end Reading

end Columnar.Ieee
