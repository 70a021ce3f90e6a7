import Columnar.Bytes
import Columnar.Cbor.Fault
import Columnar.Ieee.Number

set_option autoImplicit false

namespace Columnar.Cbor

inductive Head where
  | unsigned (number : Nat)
  -- Minus one minus the number.
  | negative (number : Nat)
  | bytes (length : Option Nat)
  | text (length : Option Nat)
  | array (count : Option Nat)
  | map (count : Option Nat)
  | tag (number : Nat)
  | simple (number : Nat)
  | float (number : Ieee.Double)
  | stop
deriving DecidableEq

inductive Argument where
  | number (width value : Nat)
  | indefinite
deriving DecidableEq

def Argument.read (minor : Nat) (rest : Bytes) : Except Fault (Argument × Bytes) :=
  if minor < 24 then .ok (.number 0 minor, rest)
  else if minor = 31 then .ok (.indefinite, rest)
  else if 27 < minor then .error .malformed
  else
    let width := 1 <<< (minor - 24)
    let word := rest.take width
    if word.length < width then .error .ended
    else .ok (.number width (Bytes.ofBig word), rest.drop width)

def floatOfWidth (width pattern : Nat) : Ieee.Double :=
  if width = 2 then .ofHalf pattern
  else if width = 4 then (Ieee.Single.ofBits (UInt32.ofNat pattern)).toDouble
  else .ofBits (UInt64.ofNat pattern)

def Head.ofArgument? (major : Nat) : Argument → Option Head
  | .number width value =>
    match major with
    | 0 => some (.unsigned value)
    | 1 => some (.negative value)
    | 2 => some (.bytes (some value))
    | 3 => some (.text (some value))
    | 4 => some (.array (some value))
    | 5 => some (.map (some value))
    | 6 => some (.tag value)
    | _ => if width ≤ 1 then some (.simple value) else some (.float (floatOfWidth width value))
  | .indefinite =>
    match major with
    | 2 => some (.bytes none)
    | 3 => some (.text none)
    | 4 => some (.array none)
    | 5 => some (.map none)
    | 7 => some .stop
    | _ => none

def Head.read : Bytes → Except Fault (Head × Bytes)
  | [] => .error .ended
  | first :: rest =>
    match Argument.read (first.toNat % 32) rest with
    | .error fault => .error fault
    | .ok (argument, behind) =>
      match Head.ofArgument? (first.toNat / 32) argument with
      | none => .error .malformed
      | some head => .ok (head, behind)

theorem Argument.length_read {minor : Nat} {rest behind : Bytes} {argument : Argument}
    (read : Argument.read minor rest = .ok (argument, behind)) : behind.length ≤ rest.length := by
  unfold Argument.read at read
  split at read
  · simp at read; simp [read.2]
  · split at read
    · simp at read; simp [read.2]
    · split at read
      · simp at read
      · dsimp only at read
        split at read
        · simp at read
        · simp only [Except.ok.injEq, Prod.mk.injEq] at read
          simp [← read.2]

theorem Head.length_read {bytes behind : Bytes} {head : Head}
    (read : Head.read bytes = .ok (head, behind)) : behind.length < bytes.length := by
  cases bytes with
  | nil => simp [Head.read] at read
  | cons first rest =>
    simp only [Head.read] at read
    split at read
    · simp at read
    · next argument left argumentRead =>
      have shorter := Argument.length_read argumentRead
      split at read
      · simp at read
      · simp only [Except.ok.injEq, Prod.mk.injEq] at read
        simp [← read.2]
        omega

def headBytes (major number : Nat) : Bytes :=
  if number < 24 then [UInt8.ofNat (major * 32 + number)]
  else if number < UInt8.size then UInt8.ofNat (major * 32 + 24) :: Bytes.big 1 number
  else if number < UInt16.size then UInt8.ofNat (major * 32 + 25) :: Bytes.big 2 number
  else if number < UInt32.size then UInt8.ofNat (major * 32 + 26) :: Bytes.big 4 number
  else UInt8.ofNat (major * 32 + 27) :: Bytes.big 8 number

def halfPattern (number : Ieee.Double) : Nat :=
  match number.reading.convert .double .half with
  | .nan => 0x7E00
  | .number negative magnitude => magnitude + if negative then Ieee.Format.half.signBit else 0

def floatBytes (number : Ieee.Double) : Bytes :=
  if Ieee.Double.ofHalf (halfPattern number) = number then 0xF9 :: Bytes.big 2 (halfPattern number)
  else if number.toSingle.toDouble = number then
    0xFA :: Bytes.big 4 number.toSingle.bits.toNat
  else 0xFB :: Bytes.big 8 number.bits.toNat

end Columnar.Cbor
