import Columnar.Zstd.Early.Edition

/-!
The literals of a block of an early frame. From edition 0.5 on the fields of their header are read
from the most significant bit down; before, the low bit of a byte comes first.
-/

set_option autoImplicit false

namespace Columnar.Zstd

inductive EarlyLiterals where
  | plain (count : Nat)
  | repeated (count : Nat)
  | coded (fourStreams : Bool) (count stored : Nat)

namespace EarlyLiterals

abbrev Header := EarlyLiterals × Nat

def field (bytes : Bytes) (start width : Nat) : Nat :=
  Bytes.ofBig bytes / (1 <<< (8 * bytes.length - start - width)) % (1 <<< width)

def plainWidth (sizeFormat : Nat) : Nat × Nat :=
  match sizeFormat with
  | 2 => (4, 2)
  | 3 => (4, 3)
  | _ => (3, 1)

def headerDown? (block : Bytes) : Option Header := do
  let first := field (block.take 1) 0 4
  let sizeFormat := first % 4
  match first / 4 with
  | 0 =>
    let (width, size) := Literals.codedWidths sizeFormat
    let head := block.take size
    if head.length < size ∨ block.length < 5 then none
    else some (.coded (sizeFormat ≠ 1) (field head 4 width) (field head (4 + width) width), size)
  | 1 => none
  | form =>
    let (start, size) := plainWidth sizeFormat
    let head := block.take size
    let count := field head start (8 * size - start)
    if head.length < size then none
    else some (if form = 2 then .plain count else .repeated count, size)

def headerUp? (block : Bytes) : Option Header :=
  let bytes := block.toArray
  match bitsAt bytes 0 2 with
  | 0 => some (.coded true (bitsAt bytes 2 19) (bitsAt bytes 21 19), 5)
  | 1 => some (.plain (bitsAt bytes 2 22), 3)
  | 2 => some (.repeated (bitsAt bytes 2 22), 3)
  | _ => none

def header? : Edition → Bytes → Option Header
  | .fourth => headerUp?
  | .fifth => headerDown?
  | .sixth => headerDown?
  | .seventh => headerDown?

def leastBlock : Edition → Nat
  | .fourth => 11
  | _ => 3

def maxWeightLog : Nat := 12

-- A table of codes from the front of some bytes, and how many it took. One byte may stand for a
-- number of weights that are all one.
def table? (bytes : Array UInt8) : Option (HuffmanTable × Nat) := do
  let head := (← bytes[0]?).toNat
  if 242 ≤ head then
    let counts := [1, 2, 3, 4, 7, 8, 15, 16, 31, 32, 63, 64, 127, 128]
    let weights := List.replicate (counts.getD (head - 242) 0) 1
    return (← HuffmanTable.ofWeights? weights, 1)
  else HuffmanTable.ofBytes? maxWeightLog bytes

-- Coded literals. Before edition 0.7 four streams may also stand for literals as they are, or for
-- one byte.
def decode? (edition : Edition) (fourStreams : Bool) (count : Nat) (stored : Array UInt8) :
    Option (Array UInt8) := do
  if fourStreams && edition ≠ .seventh && (stored.size = count || stored.size = 1) then
    if stored.size = count then return stored
    else return Array.replicate count (← stored[0]?)
  else if fourStreams ∧ count ≤ stored.size then none
  else
    let (table, size) ← table? stored
    let streams := stored.extract size stored.size
    if fourStreams then (← FourStreams.ofSection? streams count).apart? table
    else table.stream? streams count

def read? (edition : Edition) (block : Array UInt8) : Option (Array UInt8 × Array UInt8) := do
  if block.size < leastBlock edition then none
  let (literals, size) ← header? edition (block.extract 0 5).toList
  let body := block.extract size block.size
  match literals with
  | .plain count =>
    if body.size < count then none else some (body.extract 0 count, body.extract count body.size)
  | .repeated count =>
    if longestBlock < count then none
    else some (Array.replicate count (← body[0]?), body.extract 1 body.size)
  | .coded fourStreams count stored =>
    if longestBlock < count ∨ body.size < stored then none
    else
      let bytes ← decode? edition fourStreams count (body.extract 0 stored)
      return (bytes, body.extract stored body.size)

end EarlyLiterals

end Columnar.Zstd
