import Columnar.Zstd.Fse

set_option autoImplicit false

namespace Columnar.Zstd

structure HuffmanCell where
  symbol : UInt8
  width : Nat
deriving Inhabited

structure HuffmanTable where
  maxBits : Nat
  cells : Array HuffmanCell
  double : Bool

namespace HuffmanTable

def part (weight : Nat) : Nat := if weight = 0 then 0 else 1 <<< (weight - 1)

def total (weights : List Nat) : Nat := weights.foldl (fun sum weight => sum + part weight) 0

def codeLimit : Nat := 12

def cellsOfWeight (maxBits weight : Nat) (weights : List Nat) : List HuffmanCell :=
  weights.zipIdx.flatMap fun (own, symbol) =>
    if own = weight then
      List.replicate (part weight) ⟨UInt8.ofNat symbol, maxBits + 1 - weight⟩
    else []

-- The table of all weights but the last, which fills the whole up to the next power of two.
def ofWeights? (weights : List Nat) : Option HuffmanTable :=
  let sum := total weights
  let maxBits := sum.log2 + 1
  let rest := 1 <<< maxBits - sum
  if sum = 0 ∨ codeLimit < maxBits ∨ 255 < weights.length ∨ 1 <<< rest.log2 ≠ rest then none
  else
    let all := weights ++ [rest.log2 + 1]
    let longest := all.count 1
    if longest < 2 ∨ longest % 2 = 1 then none
    else
      some ⟨maxBits, ((List.range maxBits).flatMap fun below =>
        cellsOfWeight maxBits (below + 1) all).toArray, false⟩

def directWeights (bytes : List UInt8) (count : Nat) : List Nat :=
  (bytes.flatMap fun byte => [byte.toNat / 16, byte.toNat % 16]).take count

-- Weights from two states that take turns. When the bits of one run out the symbol of the other
-- is the last.
def entropyWeights (table : FseTable) :
    Nat → Nat → Nat → BackwardBits → List Nat → Option (List Nat)
  | 0, _, _, _, _ => none
  | room + 1, turn, other, bits, weights =>
    let more := (table.cell turn).symbol :: weights
    match table.next? turn bits with
    | none => some ((table.cell other).symbol :: more).reverse
    | some (next, rest) => entropyWeights table room other next rest more

def compressedWeights? (maxLog : Nat) (bytes : Array UInt8) : Option (List Nat) := do
  let description ← FseDescription.ofBytes? bytes maxLog 255
  let table := description.table
  let bits ← BackwardBits.ofBytes? (bytes.extract description.size bytes.size)
  let (first, bits) ← table.start? bits
  let (second, bits) ← table.start? bits
  entropyWeights table 255 first second bits []

def ofBytes? (maxLog : Nat) (bytes : Array UInt8) : Option (HuffmanTable × Nat) := do
  let head := (← bytes[0]?).toNat
  if head < 128 then
    if bytes.size < head + 1 then none
    let weights ← compressedWeights? maxLog (bytes.extract 1 (head + 1))
    return (← ofWeights? weights, head + 1)
  else
    let count := head - 127
    let size := (count + 1) / 2
    if bytes.size < size + 1 then none
    let weights := directWeights (bytes.extract 1 (size + 1)).toList count
    return (← ofWeights? weights, size + 1)

end HuffmanTable

end Columnar.Zstd
