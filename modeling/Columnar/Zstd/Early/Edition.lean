import Columnar.Zstd.Frame

/-!
The editions of the frame format before the current one. What a reader prepares for a frame is in
its header: the sizes of the buffers, and how much of the output buffer stays free for a block.
-/

set_option autoImplicit false

namespace Columnar.Zstd

-- The editions from 0.4 to 0.7; those before are known by name alone.
inductive Edition where
  | fourth
  | fifth
  | sixth
  | seventh
deriving DecidableEq, Repr

def magicTail : Bytes := [0xB5, 0x2F, 0xFD]

def Edition.leadWidth : Nat := 5

def startsOldest (bytes : Bytes) : Bool :=
  [[0xFD, 0x2F, 0xB5, 0x1E], 0x22 :: magicTail, 0x23 :: magicTail].contains bytes

def Edition.ofMagic? (bytes : Bytes) : Option Edition :=
  if bytes = 0x24 :: magicTail then some .fourth
  else if bytes = 0x25 :: magicTail then some .fifth
  else if bytes = 0x26 :: magicTail then some .sixth
  else if bytes = 0x27 :: magicTail then some .seventh
  else none

structure EarlyHeader where
  buffers : Buffers
  -- The room for a block; where less is left the output buffer is filled from its front.
  stride : Nat
  checked : Bool
deriving DecidableEq, Repr

namespace EarlyHeader

def ofWindow (window : Nat) (checked : Bool) : EarlyHeader :=
  let block := min window longestBlock
  ⟨⟨block, window + block + 16⟩, block, checked⟩

-- One byte: the power of two of the output buffer, counted from 11, and four bits of zero.
def readByte (source : Source) : Except Fault (EarlyHeader × Source) :=
  match source.take? 1 with
  | none => .error .incomplete
  | some (byte, rest) =>
    let flags := Bytes.ofLittle byte
    if 16 ≤ flags then .error .unsupported
    else .ok (⟨⟨longestBlock, 1 <<< (flags + 11)⟩, longestBlock, false⟩, rest)

def sizeWidth (code : Nat) : Nat :=
  match code with
  | 0 => 0
  | 1 => 1
  | 2 => 2
  | _ => 8

-- A byte with the power of two of the window, counted from 12, and a content size, which is not
-- used.
def readSized (source : Source) : Except Fault (EarlyHeader × Source) :=
  match source.take? 1 with
  | none => .error .incomplete
  | some (byte, rest) =>
    let flags := Bytes.ofLittle byte
    match rest.take? (sizeWidth (flags / 64)) with
    | none => .error .incomplete
    | some (_, rest) =>
      if flags / 32 % 2 = 1 then .error .unsupported
      else .ok (ofWindow (1 <<< (flags % 16 + 12)) false, rest)

def maxLog : Nat := 27

-- The header of the current format. A content size that stands for the window has 32 bits.
def readCurrent (source : Source) : Except Fault (EarlyHeader × Source) :=
  match FrameHeader.read maxLog source with
  | .error fault => .error fault
  | .ok (header, rest) =>
    let window := header.window % (1 <<< 32)
    if header.dictionary ≠ 0 then .error .dictionary
    else if 1 <<< maxLog < window then .error .windowTooLarge
    else .ok (ofWindow (max window 1024) header.checked, rest)

def read : Edition → Source → Except Fault (EarlyHeader × Source)
  | .fourth => readByte
  | .fifth => readByte
  | .sixth => readSized
  | .seventh => readCurrent

end EarlyHeader

end Columnar.Zstd
