import Columnar.Zstd.Bits

/-!
Bits that are read backward through a word of eight bytes, which is moved toward the front of the
bytes from time to time. A word whose bits are used up gives them once more, from its top.
-/

set_option autoImplicit false

namespace Columnar.Zstd

structure WordBits where
  bytes : Array UInt8
  place : Nat
  used : Nat
  word : UInt64

namespace WordBits

def width : Nat := 64

def wordAt (bytes : Array UInt8) (place used : Nat) : WordBits :=
  ⟨bytes, place, used, UInt64.ofNat (bytesAt bytes place 8)⟩

def markerWidth (last : UInt8) : Nat := if last = 0 then 0 else 8 - last.toNat.log2

def ofStream? (bytes : Array UInt8) : Option WordBits := do
  let last ← bytes.back?
  if last = 0 then none
  else some (wordAt bytes (bytes.size - 8) (markerWidth last + 8 * (8 - bytes.size)))

def peek (bits : WordBits) (count : Nat) : Nat :=
  ((bits.word <<< UInt64.ofNat bits.used) >>> UInt64.ofNat (width - count)).toNat

def skip (bits : WordBits) (count : Nat) : WordBits := { bits with used := bits.used + count }

def slide (bits : WordBits) : WordBits :=
  wordAt bits.bytes (bits.place - bits.used / 8) (bits.used % 8)

-- Moves the word, no farther than to the front, and says whether bits that were read are out of
-- the way. A word that stands at the front, or that was read too far, stays as it is.
def reload (bits : WordBits) : Bool × WordBits :=
  if width < bits.used ∨ bits.place = 0 then (false, bits)
  else if bits.used / 8 ≤ bits.place then (true, bits.slide)
  else (false, wordAt bits.bytes 0 (bits.used - 8 * bits.place))

def atEnd (bits : WordBits) : Bool := bits.place = 0 && bits.used = width

end WordBits

end Columnar.Zstd
