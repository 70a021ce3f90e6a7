import Columnar.Zstd.Block
import Columnar.Zstd.Checksum

/-!
Frames: a header, blocks, and perhaps a checksum. A small frame that is at hand as a whole is read
at once; any other is read block by block, through buffers that later frames use again. The two
ways accept the same sound frames, and differ in how much they ask of an unsound one.
-/

set_option autoImplicit false

namespace Columnar.Zstd

structure Buffers where
  input : Nat
  output : Nat
deriving DecidableEq, Repr

namespace Buffers

def empty : Buffers := ⟨0, 0⟩

def fit (buffers needed : Buffers) : Buffers :=
  if buffers.input < needed.input ∨ buffers.output < needed.output then needed else buffers

-- What it takes to read a frame: a block, and the content or else the window and two blocks.
def needed (window limit : Nat) (contentSize : Option Nat) : Buffers :=
  let ring := window + 2 * min window limit + 64
  ⟨max limit 4, (contentSize.map (min ring)).getD ring⟩

end Buffers

structure BlockTerms where
  limit : Nat
  capacity : Option Nat
  contentSize : Option Nat

def FrameHeader.terms (header : FrameHeader) (buffers : Buffers) : BlockTerms :=
  let whole := header.contentSize.any (· ≤ buffers.output)
  ⟨header.blockLimit, if whole then some buffers.output else none, header.contentSize⟩

namespace BlockTerms

def room (terms : BlockTerms) (written : Nat) : Nat :=
  match terms.capacity with
  | none => terms.limit
  | some capacity => min terms.limit (capacity - written)

-- Reads the body of a block. What a stored block has too much of is found before its end.
def readBody (terms : BlockTerms) (header : BlockHeader) (state : FrameState) (source : Source) :
    Except Fault (FrameState × Source) :=
  let room := terms.room state.output.size
  if terms.limit < header.bodyWidth then .error .corrupted
  else
    match header.form with
    | .reserved => .error .corrupted
    | .stored =>
      if room < (source.rest.take header.size).length then .error .corrupted
      else
        match source.take? header.size with
        | none => .error .incomplete
        | some (content, rest) => .ok (state.append content, rest)
    | .repeated =>
      match source.take? 1 with
      | none => .error .incomplete
      | some (byte, rest) =>
        if room < header.size then .error .corrupted
        else .ok (state.append (List.replicate header.size (byte.headD 0)), rest)
    | .compressed =>
      match source.take? header.size with
      | none => .error .incomplete
      | some (block, rest) =>
        match state.compressed? terms.limit room block.toArray with
        | none => .error .corrupted
        | some after => .ok (after, rest)

-- Reads blocks up to the last, and compares the size of the content with the stated one. A block
-- without body is passed over, and as the last it ends the content wherever it is. Each block has a
-- header, so `fuel` need not exceed the bytes.
def readBlocks (terms : BlockTerms) :
    Nat → FrameState → Source → Except Fault (Array UInt8 × Source)
  | 0, _, _ => .error .incomplete
  | fuel + 1, state, source =>
    match BlockHeader.read? source with
    | none => .error .incomplete
    | some (header, body) =>
      if header.form ≠ .reserved ∧ header.bodyWidth = 0 then
        if header.last then .ok (state.output, body) else readBlocks terms fuel state body
      else
        match terms.readBody header state body with
        | .error fault => .error fault
        | .ok (after, rest) =>
          if !header.last then readBlocks terms fuel after rest
          else if terms.contentSize.any (· ≠ after.output.size) then .error .corrupted
          else .ok (after.output, rest)

end BlockTerms

def FrameHeader.close (header : FrameHeader) (content : Bytes) (source : Source) :
    Except Fault (Bytes × Source) :=
  if !header.checked then .ok (content, source)
  else
    match source.take? 4 with
    | none => .error .incomplete
    | some (stored, rest) =>
      if stored = checksum content then .ok (content, rest) else .error .checksum

def FrameHeader.readBlockwise (header : FrameHeader) (buffers : Buffers) (source : Source) :
    Except Fault (Bytes × Source) :=
  match (header.terms buffers).readBlocks (source.rest.length + 1) .start source with
  | .error fault => .error fault
  | .ok (content, rest) => header.close content.toList rest

def smallContent : Nat := 8192

def passBlocks? : Nat → Source → Option Source
  | 0, _ => none
  | fuel + 1, source =>
    match BlockHeader.read? source with
    | none => none
    | some (header, body) =>
      match body.take? header.bodyWidth with
      | none => none
      | some (_, rest) =>
        if header.form = .reserved then none
        else if header.last then some rest
        else passBlocks? fuel rest

def FrameHeader.end? (header : FrameHeader) (source : Source) : Option Source :=
  match passBlocks? (source.rest.length + 1) source with
  | none => none
  | some behind =>
    if header.checked then (behind.take? 4).map fun (_, rest) => rest else some behind

def FrameHeader.atOnce (header : FrameHeader) (start source : Source) : Bool :=
  header.contentSize.any (· ≤ smallContent) &&
    (header.end? source).any fun behind => behind.passed - start.passed ≤ start.reach

-- Takes in a block of a frame that is read at once. Only compressed blocks have a limit.
def FrameState.block? (state : FrameState) (limit : Nat) (header : BlockHeader) (body : Bytes) :
    Option FrameState :=
  let room := smallContent - state.output.size
  match header.form with
  | .reserved => none
  | .stored => if room < header.size then none else some (state.append body)
  | .repeated =>
    if room < header.size then none
    else some (state.append (List.replicate header.size (body.headD 0)))
  | .compressed =>
    if header.size < 2 ∨ limit < header.size then none
    else state.compressed? limit room body.toArray

def wholeBlocks? (limit : Nat) : Nat → FrameState → Source → Option (Array UInt8 × Source)
  | 0, _, _ => none
  | fuel + 1, state, source =>
    match BlockHeader.read? source with
    | none => none
    | some (header, behind) =>
      match behind.take? header.bodyWidth with
      | none => none
      | some (body, rest) =>
        match state.block? limit header body with
        | none => none
        | some after =>
          if header.last then some (after.output, rest) else wholeBlocks? limit fuel after rest

def FrameHeader.readWhole (header : FrameHeader) (source : Source) :
    Except Fault (Bytes × Source) :=
  match wholeBlocks? header.blockLimit (source.rest.length + 1) .start source with
  | none => .error .corrupted
  | some (content, rest) =>
    if header.contentSize.any (· ≠ content.size) then .error .corrupted
    else header.close content.toList rest

def maxWindowLog : Nat := 31

-- A window may be one byte over 128 MiB.
def windowLimit : Nat := 1 <<< 27 + 1

def readFrame (buffers : Buffers) (start source : Source) :
    Except Fault (Bytes × Source × Buffers) :=
  match FrameHeader.read maxWindowLog source with
  | .error fault => .error fault
  | .ok (header, body) =>
    if header.dictionary ≠ 0 then .error .dictionary
    else if header.atOnce start body then
      (header.readWhole body).map fun (content, rest) => (content, rest, buffers)
    else if windowLimit < header.keptWindow then .error .windowTooLarge
    else
      let buffers :=
        buffers.fit (.needed header.keptWindow header.blockLimit header.contentSize)
      (header.readBlockwise buffers body).map fun (content, rest) => (content, rest, buffers)

def skipFrame (buffers : Buffers) (source : Source) : Except Fault (Source × Buffers) :=
  match source.take? 4 with
  | none => .error .incomplete
  | some (field, rest) =>
    let length := Bytes.ofLittle field
    match rest.take? length with
    | none => .error .incomplete
    | some (_, behind) => .ok (behind, buffers.fit (.needed 1024 0 (some length)))

end Columnar.Zstd
