import Columnar.Zstd.Early.Literals

/-!
The sequences of a block of an early frame. Since edition 0.6 they are coded as they are now, but
for the modes of their tables and for recent offsets after no literals. Before, symbols are lengths
themselves, and what is too long for a symbol stands in bytes of its own.
-/

set_option autoImplicit false

namespace Columnar.Zstd

-- The modes as editions 0.6 and 0.7 write them: the last two are exchanged.
def TableMode.ofEarlyCode (code : Nat) : TableMode :=
  match code with
  | 0 => .standard
  | 1 => .single
  | 2 => .before
  | _ => .described

def TableModes.ofEarlyByte (byte : Nat) : TableModes :=
  ⟨.ofEarlyCode (byte / 64), .ofEarlyCode (byte / 16 % 4), .ofEarlyCode (byte / 4 % 4)⟩

def SequenceRules.early : SequenceRules :=
  ⟨fun value => if value = 1 then 2 else if value = 2 then 1 else value, false⟩

def fitsRoom (room : Nat) : Nat → List Sequence → Bool
  | _, [] => true
  | written, sequence :: rest =>
    let copied := written + sequence.literals
    let after := copied + sequence.length
    copied + 8 ≤ room && after ≤ room && fitsRoom room after rest

def FrameState.execute? (state : FrameState) (room : Nat) (literals : Array UInt8)
    (sequences : List Sequence) : Option FrameState := do
  if !fitsRoom room 0 sequences then none
  let output ← Zstd.execute? literals 0 sequences state.output
  if state.output.size + room < output.size then none else some { state with output }

def RecentOffsets.ones : RecentOffsets := ⟨1, 1, 1⟩

def FrameState.tabled? (state : FrameState) (edition : Edition) (room : Nat)
    (literals part : Array UInt8) : Option FrameState := do
  let (count, size) ← sequenceCount? part
  if count = 0 then state.execute? room literals []
  else if part.size < size + 4 then none
  else
    let before := if edition = .seventh then state.tables else none
    let modes := TableModes.ofEarlyByte (part.getD size 0).toNat
    let body := part.extract (size + 1) part.size
    let (tables, used) ← SequenceTables.read? before modes body
    let bits ← BackwardBits.ofBytes? (body.extract used body.size)
    let (states, bits) ← tables.start? bits
    let recent := if edition = .seventh then state.recent else .ones
    let (sequences, recent) ← tables.sequences? .early count states recent bits []
    { state with recent, tables := some tables }.execute? room literals sequences

structure PlainAlphabet where
  width : Nat
  maxLog : Nat

namespace PlainAlphabet

def literals : PlainAlphabet := ⟨6, 10⟩
def offsets : PlainAlphabet := ⟨5, 9⟩
def copies : PlainAlphabet := ⟨7, 10⟩

def maxSymbol (alphabet : PlainAlphabet) : Nat := 1 <<< alphabet.width - 1

def raw (alphabet : PlainAlphabet) : FseTable :=
  ⟨alphabet.width, ((List.range (1 <<< alphabet.width)).map fun symbol =>
    ⟨symbol, alphabet.width, 0⟩).toArray⟩

-- The mode of a code; edition 0.4 has codes of its own. Tables are not used again.
def mode : Edition → Nat → TableMode
  | .fourth, code => if code = 1 then .standard else if code = 2 then .single else .described
  | _, code => .ofEarlyCode code

def table? (alphabet : PlainAlphabet) (mode : TableMode) (bytes : Array UInt8) :
    Option (FseTable × Nat) :=
  match mode with
  | .standard => some (alphabet.raw, 0)
  | .single => bytes[0]?.map fun byte => (.single byte.toNat, 1)
  | .described => do
    let description ← FseDescription.ofBytes? bytes alphabet.maxLog alphabet.maxSymbol
    return (description.table, description.size)
  | .before => none

end PlainAlphabet

structure LongHeader where
  count : Nat
  modes : Nat
  longs : Bytes
  rest : Array UInt8

namespace LongHeader

def count? (edition : Edition) (part : Array UInt8) : Option (Nat × Nat) := do
  let first := (← part[0]?).toNat
  if edition = .fourth then return (first + 256 * (← part[1]?).toNat, 2)
  else if first < 128 then return (first, 1)
  else return ((first - 128) * 256 + (← part[1]?).toNat, 2)

-- The modes share their byte with the size of the long lengths: its ninth bit, or the sign that
-- two more bytes hold it.
def read? (edition : Edition) (part : Array UInt8) : Option LongHeader := do
  let (count, size) ← count? edition part
  let modes := (← part[size]?).toNat
  let first := (← part[size + 1]?).toNat
  let wide := modes / 2 % 2 == 1
  let length ← if wide then pure (256 * first + (← part[size + 2]?).toNat)
    else pure (first + 256 * (modes % 2))
  let start := size + if wide then 3 else 2
  if part.size < start + length + 3 then none
  return ⟨count, modes, (part.extract start (start + length)).toList,
    part.extract (start + length) part.size⟩

end LongHeader

def longLength (edition : Edition) (symbol greatest : Nat) (longs : Bytes) : Nat × Bytes :=
  if symbol ≠ greatest then (symbol, longs)
  else
    let more := (longs.headD 0).toNat
    let longs := longs.drop 1
    if more < 255 then (symbol + more, longs)
    else if edition = .fourth then
      if longs.length < 3 then (symbol, longs) else (Bytes.ofLittle (longs.take 3), longs.drop 3)
    else if longs.length < 2 then (symbol, longs)
    else
      let low := Bytes.ofLittle (longs.take 2)
      if low % 2 = 1 ∧ 2 < longs.length then
        (Bytes.ofLittle (longs.take 3) / 2, longs.drop 3)
      else (low / 2, longs.drop 2)

def offsetCode (code : Nat) : LengthCode :=
  if code = 0 then (1, 0) else if code < 27 then (1 <<< (code - 1), code - 1) else (1, code - 1)

structure LastOffsets where
  last : Nat
  before : Nat

namespace LastOffsets

def start : Edition → LastOffsets
  | .fourth => ⟨4, 4⟩
  | _ => ⟨1, 1⟩

def again (offsets : LastOffsets) (bare : Bool) : Nat :=
  if bare then offsets.before else offsets.last

def push (offsets : LastOffsets) (offset : Nat) (kept : Bool) : LastOffsets :=
  ⟨offset, if kept then offsets.before else offsets.last⟩

end LastOffsets

-- The offset bits of a sequence and the states behind it. Edition 0.4 reads bits for the states of
-- literals and offsets first, and for all states even behind the last sequence.
def SequenceTables.leave? (tables : SequenceTables) (edition : Edition) (isLast : Bool)
    (states : SequenceStates) (width : Nat) (bits : BackwardBits) :
    Option (Nat × SequenceStates × BackwardBits) := do
  if edition = .fourth then
    let (literals, bits) ← tables.literals.next? states.literals bits
    let (offset, bits) ← tables.offsets.next? states.offset bits
    let (low, bits) ← bits.read? width
    let (length, bits) ← tables.copies.next? states.length bits
    return (low, ⟨literals, offset, length⟩, bits)
  else
    let (low, bits) ← bits.read? width
    if isLast then return (low, states, bits)
    else
      let (offset, bits) ← tables.offsets.next? states.offset bits
      let (literals, bits) ← tables.literals.next? states.literals bits
      let (length, bits) ← tables.copies.next? states.length bits
      return (low, ⟨literals, offset, length⟩, bits)

def leastCopy : Nat := 4

-- Reads so many sequences. In edition 0.4 they use up the bits.
def SequenceTables.longSequences? (tables : SequenceTables) (edition : Edition) :
    Nat → SequenceStates → LastOffsets → Bytes → BackwardBits → List Sequence →
      Option (List Sequence)
  | 0, _, _, _, bits, read =>
    if edition = .fourth ∧ bits.left ≠ 0 then none else some read.reverse
  | count + 1, states, offsets, longs, bits, read =>
    let symbol := (tables.literals.cell states.literals).symbol
    let (literals, longs) := longLength edition symbol PlainAlphabet.literals.maxSymbol longs
    let copy := (tables.copies.cell states.length).symbol
    let (length, longs) := longLength edition copy PlainAlphabet.copies.maxSymbol longs
    let code := (tables.offsets.cell states.offset).symbol
    let (least, width) := offsetCode code
    match tables.leave? edition (count = 0) states width bits with
    | none => none
    | some (low, states, bits) =>
      let offset := if code = 0 then offsets.again (symbol = 0) else least + low
      let offsets := offsets.push offset (code = 0 && literals ≠ 0)
      longSequences? tables edition count states offsets longs bits
        (⟨literals, offset, length + leastCopy⟩ :: read)

def LongHeader.tables? (header : LongHeader) (edition : Edition) :
    Option (SequenceTables × Nat) := do
  let mode := fun code => PlainAlphabet.mode edition (code % 4)
  let bytes := header.rest
  let (literals, first) ← PlainAlphabet.literals.table? (mode (header.modes / 64)) bytes
  let (offsets, second) ← PlainAlphabet.offsets.table? (mode (header.modes / 16))
    (bytes.extract first bytes.size)
  let (copies, third) ← PlainAlphabet.copies.table? (mode (header.modes / 4))
    (bytes.extract (first + second) bytes.size)
  return (⟨literals, offsets, copies⟩, first + second + third)

def FrameState.long? (state : FrameState) (edition : Edition) (room : Nat)
    (literals part : Array UInt8) : Option FrameState := do
  if edition ≠ .fourth ∧ (← part[0]?) = 0 then state.execute? room literals []
  else
    let header ← LongHeader.read? edition part
    let (tables, used) ← header.tables? edition
    let bits ← BackwardBits.ofBytes? (header.rest.extract used header.rest.size)
    let (states, bits) ← tables.start? bits
    let sequences ← tables.longSequences? edition header.count states (.start edition)
      header.longs bits []
    state.execute? room literals sequences

def FrameState.early? (state : FrameState) (edition : Edition) (room : Nat)
    (block : Array UInt8) : Option FrameState := do
  let (literals, part) ← EarlyLiterals.read? edition block
  match edition with
  | .fourth => state.long? edition room literals part
  | .fifth => state.long? edition room literals part
  | .sixth => state.tabled? edition room literals part
  | .seventh => state.tabled? edition room literals part

end Columnar.Zstd
