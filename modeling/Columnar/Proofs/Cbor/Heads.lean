import Columnar.Cbor.Item
import Columnar.Proofs.Ieee.Exact

set_option autoImplicit false

namespace Columnar.Cbor

theorem read_wide_argument (power : Nat) (number : Nat) (rest : Bytes) (known : power < 4)
    (small : number < 1 <<< (8 * 1 <<< power)) :
    Argument.read (24 + power) (Bytes.big (1 <<< power) number ++ rest) =
      .ok (.number (1 <<< power) number, rest) := by
  have width : (Bytes.big (1 <<< power) number).length = 1 <<< power := Bytes.length_big _ _
  have word : (Bytes.big (1 <<< power) number ++ rest).take (1 <<< power) =
      Bytes.big (1 <<< power) number := List.take_left' width
  have behind : (Bytes.big (1 <<< power) number ++ rest).drop (1 <<< power) = rest :=
    List.drop_left' width
  rw [Argument.read, if_neg (by omega), if_neg (by omega), if_neg (by omega)]
  simp only [Nat.add_sub_cancel_left, word, width, Nat.lt_irrefl, if_false, behind]
  rw [Bytes.ofBig_big _ _ small]

theorem first_byte (major minor : Nat) (majorSmall : major < 8) (minorSmall : minor < 32) :
    (UInt8.ofNat (major * 32 + minor)).toNat % 32 = minor ∧
      (UInt8.ofNat (major * 32 + minor)).toNat / 32 = major := by
  have whole : (UInt8.ofNat (major * 32 + minor)).toNat = major * 32 + minor :=
    UInt8.toNat_ofNat_of_lt' (by rw [UInt8.size]; omega)
  rw [whole]
  omega

theorem read_first (major minor : Nat) (majorSmall : major < 8) (minorSmall : minor < 32)
    (bytes behind : Bytes) (argument : Argument) (head : Head)
    (read : Argument.read minor bytes = .ok (argument, behind))
    (made : Head.ofArgument? major argument = some head) :
    Head.read (UInt8.ofNat (major * 32 + minor) :: bytes) = .ok (head, behind) := by
  obtain ⟨low, high⟩ := first_byte major minor majorSmall minorSmall
  simp only [Head.read, low, high, read, made]

theorem read_head_bytes (major number : Nat) (rest : Bytes) (head : Head) (majorSmall : major < 8)
    (small : number < UInt64.size)
    (made : ∀ width, Head.ofArgument? major (.number width number) = some head) :
    Head.read (headBytes major number ++ rest) = .ok (head, rest) := by
  unfold headBytes
  split
  · rename_i short
    apply read_first major number majorSmall (by omega) _ _ _ _ _ (made 0)
    rw [Argument.read, if_pos short]
    rfl
  · split
    · exact read_first major 24 majorSmall (by omega) _ _ _ _
        (read_wide_argument 0 number rest (by omega) (by assumption)) (made _)
    · split
      · exact read_first major 25 majorSmall (by omega) _ _ _ _
          (read_wide_argument 1 number rest (by omega) (by assumption)) (made _)
      · split
        · exact read_first major 26 majorSmall (by omega) _ _ _ _
            (read_wide_argument 2 number rest (by omega) (by assumption)) (made _)
        · exact read_first major 27 majorSmall (by omega) _ _ _ _
            (read_wide_argument 3 number rest (by omega) small) (made _)

theorem head_bytes_nonempty (major number : Nat) : 0 < (headBytes major number).length := by
  unfold headBytes
  split <;> (try split) <;> (try split) <;> (try split) <;> simp

theorem read_boolean_head (flag : Bool) (rest : Bytes) :
    Head.read ((Item.ofBool flag).encode ++ rest) = .ok (.simple (if flag then 21 else 20), rest) := by
  cases flag <;> rfl

theorem half_pattern_small (number : Ieee.Double) : halfPattern number < 1 <<< (8 * 1 <<< 1) := by
  have sign : Ieee.Format.half.signBit = 0x8000 := by decide
  have infinity : Ieee.Format.half.infinity = 0x7C00 := by decide
  have bound : 1 <<< (8 * 1 <<< 1) = 0x10000 := by decide
  unfold halfPattern
  cases number.reading with
  | nan => decide
  | number negative magnitude =>
    have rounded : Ieee.Format.half.round (Ieee.Format.double.units magnitude) Ieee.Format.double.scale
        ≤ 0x7C00 := by
      rw [← infinity]
      exact Nat.min_le_right _ _
    rw [bound]
    simp only [Ieee.Reading.convert, sign, infinity]
    by_cases infinite : magnitude = Ieee.Format.double.infinity
    · rw [if_pos infinite]
      cases negative <;> simp
    · rw [if_neg infinite]
      cases negative <;> simp <;> omega

theorem read_float_bytes (number : Ieee.Double) (rest : Bytes) :
    Head.read (floatBytes number ++ rest) = .ok (.float number, rest) := by
  unfold floatBytes
  split
  · rename_i kept
    refine read_first 7 25 (by omega) (by omega) _ _ _ _
      (read_wide_argument 1 (halfPattern number) rest (by omega) (half_pattern_small number)) ?_
    simp [Head.ofArgument?, floatOfWidth, kept]
  · split
    · rename_i kept
      have small := number.toSingle.bits.toNat_lt
      refine read_first 7 26 (by omega) (by omega) _ _ _ _
        (read_wide_argument 2 number.toSingle.bits.toNat rest (by omega) small) ?_
      simp [Head.ofArgument?, floatOfWidth, Ieee.Single.ofBits_bits, kept]
    · have small := number.bits.toNat_lt
      refine read_first 7 27 (by omega) (by omega) _ _ _ _
        (read_wide_argument 3 number.bits.toNat rest (by omega) small) ?_
      simp [Head.ofArgument?, floatOfWidth, Ieee.Double.ofBits_bits]

end Columnar.Cbor
