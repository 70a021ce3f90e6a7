import Columnar.Zstd.Early.Frame

set_option autoImplicit false

namespace Columnar.Zstd

def magic : Bytes := [0x28, 0xB5, 0x2F, 0xFD]

def startsFrame (bytes : Bytes) : Bool := magic.isPrefixOf bytes || bytes.isPrefixOf magic

def startsSkippable : Bytes → Bool
  | [] => true
  | first :: rest =>
    let tail : Bytes := [0x2A, 0x4D, 0x18]
    first / 16 == 5 && (tail.isPrefixOf rest || rest.isPrefixOf tail)

structure Memory where
  current : Buffers
  early : EarlyBuffers

def Memory.start : Memory := ⟨.empty, none⟩

def readOther (memory : Memory) (start : Bytes) (source : Source) :
    Except Fault (Bytes × Source × Memory) :=
  if !source.holds Edition.leadWidth then .error .unknownFrame
  else if startsOldest start then .error .oldEdition
  else
    match Edition.ofMagic? start, source.take? 4 with
    | some edition, some (_, rest) =>
      (readEarly memory.early edition rest).map fun (content, rest, early) =>
        (content, rest, { memory with early })
    | _, _ => .error .unknownFrame

def readNext (memory : Memory) (source : Source) : Except Fault (Bytes × Source × Memory) :=
  let start := source.rest.take 4
  if startsFrame start || startsSkippable start then
    match source.take? 4 with
    | none => .error .incomplete
    | some (_, rest) =>
      if start = magic then
        (readFrame memory.current source rest).map fun (content, rest, current) =>
          (content, rest, { memory with current })
      else
        (skipFrame memory.current rest).map fun (rest, current) =>
          ([], rest, { memory with current })
  else readOther memory start source

-- The contents of frames that follow each other, the latest first. There is at least one frame.
def readFrames : Nat → Memory → List Bytes → Source → Except Fault (List Bytes)
  | 0, _, _, _ => .error .incomplete
  | fuel + 1, memory, read, source =>
    match readNext memory source with
    | .error fault => .error fault
    | .ok (content, rest, memory) =>
      if rest.rest.isEmpty then .ok (content :: read)
      else readFrames fuel memory (content :: read) rest

def inflate (bytes : Bytes) : Except Fault Bytes :=
  match readFrames (bytes.length + 1) .start [] ⟨bytes, 0⟩ with
  | .error fault => .error fault
  | .ok contents => .ok contents.reverse.flatten

-- A library that writes such streams. It is known by what is read back from them alone: neither the
-- bytes it chooses nor how many they are.
structure Encoder where
  encode : Int → Bytes → Bytes
  inflates : ∀ (level : Int) (raw : Bytes), inflate (encode level raw) = .ok raw

end Columnar.Zstd
