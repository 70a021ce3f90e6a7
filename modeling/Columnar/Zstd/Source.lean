import Columnar.Bytes

/-!
The bytes of a stored stream on their way through a reader. They arrive in pieces of fixed size,
and some decisions look no further than the piece at hand.
-/

set_option autoImplicit false

namespace Columnar.Zstd

structure Source where
  rest : Bytes
  passed : Nat

namespace Source

def pieceSize : Nat := 131075

def reach (source : Source) : Nat := pieceSize - source.passed % pieceSize

def take? (source : Source) (count : Nat) : Option (Bytes × Source) :=
  let bytes := source.rest.take count
  if bytes.length < count then none
  else some (bytes, ⟨source.rest.drop count, source.passed + count⟩)

def holds (source : Source) (count : Nat) : Bool :=
  count ≤ source.reach && (source.take? count).isSome

theorem take_append (bytes rest : Bytes) (passed : Nat) :
    take? ⟨bytes ++ rest, passed⟩ bytes.length = some (bytes, ⟨rest, passed + bytes.length⟩) := by
  simp [take?]

end Source

end Columnar.Zstd
