set_option autoImplicit false

namespace Columnar

abbrev Bytes := List UInt8

namespace Bytes

def ofText (text : String) : Bytes := text.toUTF8.data.toList

def toText? (bytes : Bytes) : Option String := String.fromUTF8? ⟨bytes.toArray⟩

def little : Nat → Nat → Bytes
  | 0, _ => []
  | width + 1, number => UInt8.ofNat (number % 256) :: little width (number / 256)

def ofLittle : Bytes → Nat
  | [] => 0
  | byte :: rest => byte.toNat + 256 * ofLittle rest

def big (width number : Nat) : Bytes := (little width number).reverse

def ofBig (bytes : Bytes) : Nat := ofLittle bytes.reverse

def hexDigit (nibble : Nat) : Char :=
  if nibble < 10 then Char.ofNat (48 + nibble) else Char.ofNat (87 + nibble)

def hex (bytes : Bytes) : String :=
  String.ofList (bytes.flatMap fun byte => [hexDigit (byte.toNat / 16), hexDigit (byte.toNat % 16)])

theorem toText_ofText (text : String) : toText? (ofText text) = some text := by
  have same : (⟨(ofText text).toArray⟩ : ByteArray) = text.toUTF8 := by
    simp [ofText]
  unfold toText?
  rw [same]
  simp [String.fromUTF8?, String.fromUTF8, text.isValidUTF8]

theorem length_little (width number : Nat) : (little width number).length = width := by
  induction width generalizing number with
  | zero => rfl
  | succ width ih => simp [little, ih]

theorem length_big (width number : Nat) : (big width number).length = width := by
  simp [big, length_little]

theorem ofLittle_little (width number : Nat) (small : number < 1 <<< (8 * width)) :
    ofLittle (little width number) = number := by
  induction width generalizing number with
  | zero => simp [little, ofLittle, Nat.shiftLeft_eq] at *; omega
  | succ width ih =>
    have high : number / 256 < 1 <<< (8 * width) := by
      rw [Nat.shiftLeft_eq, Nat.mul_succ, Nat.pow_add] at small
      rw [Nat.shiftLeft_eq]
      exact Nat.div_lt_of_lt_mul (by omega)
    have low : number % 256 < 256 := Nat.mod_lt _ (by decide)
    simp [little, ofLittle, ih _ high, UInt8.toNat_ofNat_of_lt' low]
    omega

theorem ofBig_big (width number : Nat) (small : number < 1 <<< (8 * width)) :
    ofBig (big width number) = number := by
  simp [ofBig, big, ofLittle_little width number small]

end Bytes

end Columnar
