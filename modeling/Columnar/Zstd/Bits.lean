/-!
Bit fields of byte arrays: read forward, the low bit of a byte first, and read backward from a
marker, which is the highest bit set in the last byte.
-/

set_option autoImplicit false

namespace Columnar.Zstd

def bytesAt (bytes : Array UInt8) (place : Nat) : Nat → Nat
  | 0 => 0
  | count + 1 => (bytes.getD place 0).toNat + 256 * bytesAt bytes (place + 1) count

def bitsAt (bytes : Array UInt8) (start width : Nat) : Nat :=
  (bytesAt bytes (start / 8) ((start % 8 + width + 7) / 8) >>> (start % 8)) % (1 <<< width)

structure BackwardBits where
  bytes : Array UInt8
  left : Nat

namespace BackwardBits

def ofBytes? (bytes : Array UInt8) : Option BackwardBits := do
  let last ← bytes.back?
  if last = 0 then none else some ⟨bytes, 8 * (bytes.size - 1) + last.toNat.log2⟩

-- The next bits, the first of them the most significant; zeros follow when none are left.
def peek (bits : BackwardBits) (width : Nat) : Nat :=
  if width ≤ bits.left then bitsAt bits.bytes (bits.left - width) width
  else bitsAt bits.bytes 0 bits.left <<< (width - bits.left)

def skip? (bits : BackwardBits) (width : Nat) : Option BackwardBits :=
  if width ≤ bits.left then some { bits with left := bits.left - width } else none

def read? (bits : BackwardBits) (width : Nat) : Option (Nat × BackwardBits) :=
  (bits.skip? width).map fun rest => (bits.peek width, rest)

end BackwardBits

end Columnar.Zstd
