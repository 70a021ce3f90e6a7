import Columnar.Bytes

set_option autoImplicit false

namespace Columnar.Blake3

abbrev Words := Array UInt32

def initial : Words :=
  #[0x6A09E667, 0xBB67AE85, 0x3C6EF372, 0xA54FF53A, 0x510E527F, 0x9B05688C, 0x1F83D9AB, 0x5BE0CD19]

def permutation : List Nat := [2, 6, 3, 10, 7, 0, 4, 13, 1, 11, 12, 5, 9, 14, 15, 8]

def quarters : List (Nat × Nat × Nat × Nat) :=
  [(0, 4, 8, 12), (1, 5, 9, 13), (2, 6, 10, 14), (3, 7, 11, 15),
    (0, 5, 10, 15), (1, 6, 11, 12), (2, 7, 8, 13), (3, 4, 9, 14)]

def rotateRight (word count : UInt32) : UInt32 := (word >>> count) ||| (word <<< (32 - count))

def mix (state : Words) (quarter : Nat × Nat × Nat × Nat) (x y : UInt32) : Words :=
  let (i, j, k, l) := quarter
  let a := state.getD i 0 + state.getD j 0 + x
  let d := rotateRight (state.getD l 0 ^^^ a) 16
  let c := state.getD k 0 + d
  let b := rotateRight (state.getD j 0 ^^^ c) 12
  let a := a + b + y
  let d := rotateRight (d ^^^ a) 8
  let c := c + d
  let b := rotateRight (b ^^^ c) 7
  (((state.setIfInBounds i a).setIfInBounds j b).setIfInBounds k c).setIfInBounds l d

def mixAll (state : Words) (message : Words) : Words :=
  quarters.zipIdx.foldl (fun state (quarter, place) =>
    mix state quarter (message.getD (2 * place) 0) (message.getD (2 * place + 1) 0)) state

def permute (message : Words) : Words :=
  (permutation.map fun place => message.getD place 0).toArray

def rounds : Nat → Words → Words → Words
  | 0, state, _ => state
  | count + 1, state, message => rounds count (mixAll state message) (permute message)

structure Node where
  chaining : Words
  block : Words
  counter : Nat
  length : Nat
  flags : UInt32

namespace Node

def chunkStart : UInt32 := 1
def chunkEnd : UInt32 := 2
def parent : UInt32 := 4
def root : UInt32 := 8

def output (node : Node) (flags : UInt32) : Words :=
  let tail := #[UInt32.ofNat node.counter, UInt32.ofNat (node.counter >>> 32),
    UInt32.ofNat node.length, node.flags ||| flags]
  let state := rounds 7 (node.chaining ++ initial.extract 0 4 ++ tail) node.block
  ((List.range 8).map fun place => state.getD place 0 ^^^ state.getD (place + 8) 0).toArray

end Node

def blockWords (block : Bytes) : Words :=
  ((List.range 16).map fun place =>
    UInt32.ofNat (Bytes.ofLittle ((block.drop (4 * place)).take 4))).toArray

def chunkNode (counter : Nat) : Nat → Words → UInt32 → Bytes → Node
  | 0, chaining, flags, bytes =>
    ⟨chaining, blockWords bytes, counter, bytes.length, flags ||| Node.chunkEnd⟩
  | more + 1, chaining, flags, bytes =>
    let node : Node := ⟨chaining, blockWords (bytes.take 64), counter, 64, flags⟩
    chunkNode counter more (node.output 0) 0 (bytes.drop 64)

def chunkLength : Nat := 1024

def leftLength (length : Nat) : Nat := chunkLength <<< ((length - 1) / chunkLength).log2

-- The top node over some bytes, whose first chunk has the given number. A tree over `2 ^ height`
-- chunks is no higher than `height`.
def treeNode : Nat → Nat → Bytes → Node
  | 0, counter, bytes =>
    chunkNode counter ((bytes.length - 1) / 64) initial Node.chunkStart bytes
  | height + 1, counter, bytes =>
    let length := bytes.length
    if length ≤ chunkLength then
      chunkNode counter ((length - 1) / 64) initial Node.chunkStart bytes
    else
      let left := leftLength length
      let before := treeNode height counter (bytes.take left)
      let after := treeNode height (counter + left / chunkLength) (bytes.drop left)
      ⟨initial, before.output 0 ++ after.output 0, 0, 64, Node.parent⟩

def hash (bytes : Bytes) : Bytes :=
  let node := treeNode (bytes.length.log2 + 1) 0 bytes
  (node.output Node.root).toList.flatMap fun word => Bytes.little 4 word.toNat

theorem size_output (node : Node) (flags : UInt32) : (node.output flags).size = 8 := by
  simp [Node.output]

theorem length_hash (bytes : Bytes) : (hash bytes).length = 32 := by
  simp [hash, List.length_flatMap, Bytes.length_little, size_output, List.map_const']

end Columnar.Blake3
