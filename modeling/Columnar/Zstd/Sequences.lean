import Columnar.Zstd.Literals

set_option autoImplicit false

namespace Columnar.Zstd

structure Sequence where
  literals : Nat
  offset : Nat
  length : Nat
deriving DecidableEq, Repr

abbrev LengthCode := Nat × Nat

def literalCodes : Array LengthCode :=
  (((List.range 16).map fun code => (code, 0)) ++
    [(16, 1), (18, 1), (20, 1), (22, 1), (24, 2), (28, 2), (32, 3), (40, 3), (48, 4), (64, 6),
      (128, 7), (256, 8), (512, 9), (1024, 10), (2048, 11), (4096, 12), (8192, 13), (16384, 14),
      (32768, 15), (65536, 16)]).toArray

def matchCodes : Array LengthCode :=
  (((List.range 32).map fun code => (code + 3, 0)) ++
    [(35, 1), (37, 1), (39, 1), (41, 1), (43, 2), (47, 2), (51, 3), (59, 3), (67, 4), (83, 4),
      (99, 5), (131, 7), (259, 8), (515, 9), (1027, 10), (2051, 11), (4099, 12), (8195, 13),
      (16387, 14), (32771, 15), (65539, 16)]).toArray

structure Alphabet where
  standard : FseTable
  maxLog : Nat
  maxSymbol : Nat

def equalShares (symbols count : Nat) : List Share := List.replicate symbols (.states count)

def rareShares (symbols : Nat) : List Share := List.replicate symbols .rare

def literalLengths : Alphabet where
  standard := .ofShares 6 ([.states 4, .states 3] ++ equalShares 11 2 ++ equalShares 3 1
    ++ equalShares 9 2 ++ [.states 3, .states 2] ++ equalShares 5 1 ++ rareShares 4)
  maxLog := 9
  maxSymbol := 35

def offsetWidths : Alphabet where
  standard := .ofShares 5
    (equalShares 6 1 ++ equalShares 3 2 ++ equalShares 15 1 ++ rareShares 5)
  maxLog := 8
  maxSymbol := 31

def matchLengths : Alphabet where
  standard := .ofShares 6 ([.states 1, .states 4, .states 3] ++ equalShares 6 2
    ++ equalShares 37 1 ++ rareShares 7)
  maxLog := 9
  maxSymbol := 52

inductive TableMode where
  | standard
  | single
  | described
  | before
deriving DecidableEq, Repr

def TableMode.ofCode (code : Nat) : TableMode :=
  match code with
  | 0 => .standard
  | 1 => .single
  | 2 => .described
  | _ => .before

structure TableModes where
  literals : TableMode
  offsets : TableMode
  copies : TableMode

def TableModes.ofByte? (byte : Nat) : Option TableModes :=
  if byte % 4 = 0 then
    some ⟨.ofCode (byte / 64), .ofCode (byte / 16 % 4), .ofCode (byte / 4 % 4)⟩
  else none

def Alphabet.table? (alphabet : Alphabet) (mode : TableMode) (before : Option FseTable)
    (bytes : Array UInt8) : Option (FseTable × Nat) :=
  match mode with
  | .standard => some (alphabet.standard, 0)
  | .single => do
    let symbol := (← bytes[0]?).toNat
    if symbol ≤ alphabet.maxSymbol then some (.single symbol, 1) else none
  | .described => do
    let description ← FseDescription.ofBytes? bytes alphabet.maxLog alphabet.maxSymbol
    return (description.table, description.size)
  | .before => before.map fun table => (table, 0)

structure SequenceTables where
  literals : FseTable
  offsets : FseTable
  copies : FseTable

structure RecentOffsets where
  first : Nat
  second : Nat
  third : Nat

def RecentOffsets.start : RecentOffsets := ⟨1, 4, 8⟩

structure SequenceRules where
  -- Which of the recent offsets a value up to three stands for after no literals.
  bare : Nat → Nat
  exact : Bool

def SequenceRules.current : SequenceRules := ⟨(· + 1), true⟩

-- The offset that a value stands for: one of the recent offsets, or a new one. The fourth place
-- stands for the first offset less one.
def RecentOffsets.use? (recent : RecentOffsets) (rules : SequenceRules) (value literals : Nat) :
    Option (Nat × RecentOffsets) :=
  let place := if literals = 0 then rules.bare value else value
  if 3 < value then some (value - 3, ⟨value - 3, recent.first, recent.second⟩)
  else
    match place with
    | 1 => some (recent.first, recent)
    | 2 => some (recent.second, ⟨recent.second, recent.first, recent.third⟩)
    | 3 => some (recent.third, ⟨recent.third, recent.first, recent.second⟩)
    | _ =>
      if recent.first ≤ 1 then none
      else some (recent.first - 1, ⟨recent.first - 1, recent.first, recent.second⟩)

structure SequenceStates where
  literals : Nat
  offset : Nat
  length : Nat

def SequenceTables.start? (tables : SequenceTables) (bits : BackwardBits) :
    Option (SequenceStates × BackwardBits) := do
  let (literals, bits) ← tables.literals.start? bits
  let (offset, bits) ← tables.offsets.start? bits
  let (length, bits) ← tables.copies.start? bits
  return (⟨literals, offset, length⟩, bits)

def SequenceTables.next? (tables : SequenceTables) (states : SequenceStates)
    (bits : BackwardBits) : Option (SequenceStates × BackwardBits) := do
  let (literals, bits) ← tables.literals.next? states.literals bits
  let (length, bits) ← tables.copies.next? states.length bits
  let (offset, bits) ← tables.offsets.next? states.offset bits
  return (⟨literals, offset, length⟩, bits)

def lengthOf? (codes : Array LengthCode) (code : Nat) (bits : BackwardBits) :
    Option (Nat × BackwardBits) := do
  let (least, width) ← codes[code]?
  let (more, bits) ← bits.read? width
  return (least + more, bits)

def SequenceTables.sequence? (tables : SequenceTables) (rules : SequenceRules)
    (states : SequenceStates) (recent : RecentOffsets) (bits : BackwardBits) :
    Option (Sequence × RecentOffsets × BackwardBits) := do
  let width := (tables.offsets.cell states.offset).symbol
  let (low, bits) ← bits.read? width
  let (length, bits) ← lengthOf? matchCodes (tables.copies.cell states.length).symbol bits
  let (literals, bits) ← lengthOf? literalCodes (tables.literals.cell states.literals).symbol bits
  let (offset, recent) ← recent.use? rules (1 <<< width + low) literals
  return (⟨literals, offset, length⟩, recent, bits)

def SequenceTables.sequences? (tables : SequenceTables) (rules : SequenceRules) :
    Nat → SequenceStates → RecentOffsets → BackwardBits → List Sequence →
      Option (List Sequence × RecentOffsets)
  | 0, _, recent, bits, read =>
    if rules.exact && bits.left ≠ 0 then none else some (read.reverse, recent)
  | count + 1, states, recent, bits, read =>
    match tables.sequence? rules states recent bits with
    | none => none
    | some (sequence, recent, bits) =>
      if count = 0 then sequences? tables rules 0 states recent bits (sequence :: read)
      else
        match tables.next? states bits with
        | none => none
        | some (states, bits) => sequences? tables rules count states recent bits (sequence :: read)

def sequenceCount? (part : Array UInt8) : Option (Nat × Nat) := do
  let head := (← part[0]?).toNat
  if head < 128 then return (head, 1)
  else if head < 255 then
    let low := (← part[1]?).toNat
    return ((head - 128) * 256 + low, 2)
  else
    let low := (← part[1]?).toNat
    let high := (← part[2]?).toNat
    return (low + high * 256 + 0x7F00, 3)

def SequenceTables.read? (before : Option SequenceTables) (modes : TableModes)
    (bytes : Array UInt8) : Option (SequenceTables × Nat) := do
  let (literals, first) ← literalLengths.table? modes.literals (before.map (·.literals)) bytes
  let (offsets, second) ← offsetWidths.table? modes.offsets (before.map (·.offsets))
    (bytes.extract first bytes.size)
  let (copies, third) ← matchLengths.table? modes.copies (before.map (·.copies))
    (bytes.extract (first + second) bytes.size)
  return (⟨literals, offsets, copies⟩, first + second + third)

-- Repeats bytes from `offset` back; those that are being written may be repeated too.
def repeatBytes (offset : Nat) : Nat → Array UInt8 → Array UInt8
  | 0, output => output
  | count + 1, output =>
    repeatBytes offset count (output.push (output.getD (output.size - offset) 0))

-- Carries out sequences behind the bytes already written; `place` is the first literal not yet
-- copied. The literals that no sequence takes come last.
def execute? (literals : Array UInt8) :
    Nat → List Sequence → Array UInt8 → Option (Array UInt8)
  | place, [], output => some (output ++ literals.extract place literals.size)
  | place, sequence :: rest, output =>
    let behind := place + sequence.literals
    let copied := output ++ literals.extract place behind
    if literals.size < behind ∨ copied.size < sequence.offset ∨ sequence.offset = 0 then none
    else execute? literals behind rest (repeatBytes sequence.offset sequence.length copied)

end Columnar.Zstd
