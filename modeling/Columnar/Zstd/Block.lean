import Columnar.Zstd.Header
import Columnar.Zstd.Sequences

set_option autoImplicit false

namespace Columnar.Zstd

structure FrameState where
  output : Array UInt8
  huffman : Option HuffmanTable
  tables : Option SequenceTables
  recent : RecentOffsets

namespace FrameState

def start : FrameState := ⟨#[], none, none, .start⟩

def append (state : FrameState) (bytes : Bytes) : FrameState :=
  { state with output := state.output ++ bytes }

def sequences? (state : FrameState) (literals : Array UInt8) (part : Array UInt8) :
    Option FrameState := do
  let (count, size) ← sequenceCount? part
  if count = 0 then
    if part.size = size then return { state with output := state.output ++ literals }
    else none
  else
    let modes ← TableModes.ofByte? (← part[size]?).toNat
    let body := part.extract (size + 1) part.size
    let (tables, used) ← SequenceTables.read? state.tables modes body
    let bits ← BackwardBits.ofBytes? (body.extract used body.size)
    let (states, bits) ← tables.start? bits
    let (sequences, recent) ← tables.sequences? .current count states state.recent bits []
    let output ← execute? literals 0 sequences state.output
    return { state with output, recent, tables := some tables }

-- Takes in a compressed block with no more literals than `limit`, which adds no more than `room`
-- to the content.
def compressed? (state : FrameState) (limit room : Nat) (block : Array UInt8) :
    Option FrameState := do
  let literals ← Literals.ofBlock? state.huffman (min limit room) block
  let after ← { state with huffman := literals.table }.sequences? literals.bytes
    (block.extract literals.size block.size)
  if state.output.size + room < after.output.size then none else some after

end FrameState

inductive BlockForm where
  | stored
  | repeated
  | compressed
  | reserved
deriving DecidableEq, Repr

namespace BlockForm

def ofCode (code : Nat) : BlockForm :=
  match code with
  | 0 => .stored
  | 1 => .repeated
  | 2 => .compressed
  | _ => .reserved

def code : BlockForm → Nat
  | .stored => 0
  | .repeated => 1
  | .compressed => 2
  | .reserved => 3

theorem ofCode_code (form : BlockForm) : ofCode form.code = form := by
  cases form <;> rfl

end BlockForm

structure BlockHeader where
  last : Bool
  form : BlockForm
  size : Nat
deriving DecidableEq, Repr

namespace BlockHeader

def width : Nat := 3

def ofBytes (bytes : Bytes) : BlockHeader :=
  let word := Bytes.ofLittle bytes
  ⟨word % 2 == 1, .ofCode (word / 2 % 4), word / 8⟩

def toBytes (header : BlockHeader) : Bytes :=
  Bytes.little width ((if header.last then 1 else 0) + 2 * header.form.code + 8 * header.size)

def read? (source : Source) : Option (BlockHeader × Source) :=
  (source.take? width).map fun (bytes, rest) => (ofBytes bytes, rest)

def bodyWidth (header : BlockHeader) : Nat :=
  match header.form with
  | .repeated => 1
  | _ => header.size

end BlockHeader

end Columnar.Zstd
