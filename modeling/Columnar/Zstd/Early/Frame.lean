import Columnar.Zstd.Early.Sequences

/-!
Early frames, block by block. A block without body ends its frame, as the form made for that does;
the content is not compared with any size.
-/

set_option autoImplicit false

namespace Columnar.Zstd

inductive EarlyForm where
  | compressed
  | stored
  | repeated
  | finish
deriving DecidableEq, Repr

def EarlyForm.ofCode (code : Nat) : EarlyForm :=
  match code with
  | 0 => .compressed
  | 1 => .stored
  | 2 => .repeated
  | _ => .finish

-- The three bytes in front of a block. Those that end a frame may hold bits of its hash.
structure EarlyBlockHeader where
  form : EarlyForm
  size : Nat
  hash : Nat

namespace EarlyBlockHeader

def ofBytes (bytes : Bytes) : EarlyBlockHeader :=
  let word := Bytes.ofBig bytes
  ⟨.ofCode (word >>> 22), word % (1 <<< 19), word % (1 <<< 22)⟩

def read? (source : Source) : Option (EarlyBlockHeader × Source) :=
  (source.take? BlockHeader.width).map fun (bytes, rest) => (ofBytes bytes, rest)

def bodyWidth (header : EarlyBlockHeader) : Nat :=
  match header.form with
  | .finish => 0
  | .repeated => 1
  | _ => header.size

end EarlyBlockHeader

def hashBits (content : Bytes) : Nat := ((hash content).toNat >>> 11) % (1 <<< 22)

def FrameState.earlyBlock? (state : FrameState) (edition : Edition) (room : Nat)
    (form : EarlyForm) (body : Bytes) : Option FrameState :=
  match form with
  | .stored => if room < body.length then none else some (state.append body)
  | .compressed => if longestBlock ≤ body.length then none
    else state.early? edition room body.toArray
  | _ => none

def EarlyHeader.placeAfter (header : EarlyHeader) (buffers : Buffers) (place : Nat) : Nat :=
  if buffers.output < place + header.stride then 0 else place

-- Reads blocks up to the end of a frame; `place` is the place in the output buffer. A block that
-- the piece at hand does not hold has to fit the input buffer. Each block has a header, so `fuel` need
-- not exceed the bytes.
def readEarlyBlocks (edition : Edition) (header : EarlyHeader) (buffers : Buffers) :
    Nat → FrameState → Nat → Source → Except Fault (Bytes × Source)
  | 0, _, _, _ => .error .incomplete
  | fuel + 1, state, place, source =>
    match EarlyBlockHeader.read? source with
    | none => .error .incomplete
    | some (block, source) =>
      if block.bodyWidth = 0 then
        let content := state.output.toList
        if block.form = .finish ∧ header.checked ∧ block.hash ≠ hashBits content then
          .error .checksum
        else .ok (content, source)
      else if source.rest.isEmpty then .error .incomplete
      else if !source.holds block.bodyWidth && buffers.input < block.bodyWidth then
        .error .corrupted
      else
        match source.take? block.bodyWidth with
        | none => .error .incomplete
        | some (body, rest) =>
          match state.earlyBlock? edition (buffers.output - place) block.form body with
          | none => .error .corrupted
          | some after =>
            let place := place + (after.output.size - state.output.size)
            readEarlyBlocks edition header buffers fuel after
              (header.placeAfter buffers place) rest

-- The buffers of the edition that was read last. Those of another are made anew.
abbrev EarlyBuffers := Option (Edition × Buffers)

def EarlyBuffers.fit (kept : EarlyBuffers) (edition : Edition) (needed : Buffers) : Buffers :=
  match kept with
  | none => needed
  | some (other, buffers) =>
    if other = edition then
      ⟨max buffers.input needed.input, max buffers.output needed.output⟩
    else needed

def readEarly (kept : EarlyBuffers) (edition : Edition) (source : Source) :
    Except Fault (Bytes × Source × EarlyBuffers) :=
  match EarlyHeader.read edition source with
  | .error fault => .error fault
  | .ok (header, body) =>
    let buffers := kept.fit edition header.buffers
    (readEarlyBlocks edition header buffers (body.rest.length + 1) .start 0 body).map
      fun (content, rest) => (content, rest, some (edition, buffers))

end Columnar.Zstd
