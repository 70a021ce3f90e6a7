import Columnar.Zstd.Huffman
import Columnar.Zstd.WordBits

/-!
Streams of Huffman codes. Literals stand in one stream or in four, and a reader takes one code at a
time, or two where that is expected to be faster. A stream of its own has to end where its bytes
begin. Four streams that are read side by side are not held to that: one that is too short goes on
with the bytes before it.
-/

set_option autoImplicit false

namespace Columnar.Zstd

structure StreamState where
  bits : WordBits
  read : Array UInt8

namespace HuffmanTable

def shortLog : Nat := 11

def entryLog (table : HuffmanTable) : Nat :=
  if table.maxBits ≤ shortLog then shortLog else table.maxBits

def cellAt (table : HuffmanTable) (entry : Nat) : HuffmanCell :=
  table.cells.getD (entry >>> (table.entryLog - table.maxBits)) default

def one (table : HuffmanTable) (state : StreamState) : StreamState :=
  let cell := table.cellAt (state.bits.peek table.entryLog)
  ⟨state.bits.skip cell.width, state.read.push cell.symbol⟩

def pairAt (table : HuffmanTable) (entry : Nat) : HuffmanCell × Option HuffmanCell :=
  let first := table.cellAt entry
  let second := table.cellAt ((entry <<< first.width) % (1 <<< table.entryLog))
  (first, if first.width + second.width ≤ table.entryLog then some second else none)

def entry (table : HuffmanTable) (state : StreamState) : StreamState :=
  match table.pairAt (state.bits.peek table.entryLog) with
  | (first, none) => ⟨state.bits.skip first.width, state.read.push first.symbol⟩
  | (first, some second) =>
    ⟨state.bits.skip (first.width + second.width),
      (state.read.push first.symbol).push second.symbol⟩

-- Takes the first code of an entry as the last of a stream. The bits of a second code may be
-- missing, but they are skipped.
def lastEntry (table : HuffmanTable) (state : StreamState) : StreamState :=
  match table.pairAt (state.bits.peek table.entryLog) with
  | (first, none) => ⟨state.bits.skip first.width, state.read.push first.symbol⟩
  | (first, some second) =>
    let used := min WordBits.width (state.bits.used + first.width + second.width)
    ⟨{ state.bits with used := max state.bits.used used }, state.read.push first.symbol⟩

def groups (step : StreamState → StreamState) (size bound count : Nat) :
    Nat → StreamState → StreamState
  | 0, state => state
  | fuel + 1, state =>
    let (more, bits) := state.bits.reload
    let state := { state with bits }
    if more && bound < count - state.read.size then
      groups step size bound count fuel (Nat.repeat step size state)
    else state

def entries (table : HuffmanTable) (count : Nat) : Nat → StreamState → StreamState
  | 0, state => state
  | fuel + 1, state =>
    if state.read.size + 2 ≤ count then entries table count fuel (table.entry state) else state

def finish (table : HuffmanTable) (count : Nat) (state : StreamState) : StreamState :=
  let fuel := count + 1
  if table.double then
    let (size, bound) := if table.entryLog ≤ shortLog then (5, 9) else (4, 7)
    let state := groups table.entry size bound count fuel state
    let state := groups table.entry 1 1 count fuel state
    let state := table.entries count fuel state
    if state.read.size < count then table.lastEntry state else state
  else
    let state := groups table.one 4 3 count fuel state
    Nat.repeat table.one (count - state.read.size) state

def stream? (table : HuffmanTable) (bytes : Array UInt8) (count : Nat) :
    Option (Array UInt8) := do
  let state := table.finish count ⟨← WordBits.ofStream? bytes, #[]⟩
  if state.bits.atEnd then some state.read else none

end HuffmanTable

structure Lane where
  start : Nat
  behind : Nat
  count : Nat
  state : StreamState

namespace Lane

def place (lane : Lane) : Nat := lane.state.bits.place

def missing (lane : Lane) : Nat := lane.count - lane.state.read.size

def ofSection (bytes : Array UInt8) (start behind count : Nat) : Lane :=
  let marker := WordBits.markerWidth (bytes.getD (behind - 1) 0)
  ⟨start, behind, count, ⟨.wordAt bytes (behind - 8) marker, #[]⟩⟩

end Lane

structure FourStreams where
  bytes : Array UInt8
  lanes : List Lane

namespace FourStreams

def headWidth : Nat := 6

def ofSection? (bytes : Array UInt8) (count : Nat) : Option FourStreams :=
  let each := (count + 3) / 4
  let first := headWidth + bytesAt bytes 0 2
  let second := first + bytesAt bytes 2 2
  let third := second + bytesAt bytes 4 2
  if count < 6 ∨ count < 3 * each ∨ bytes.size < third then none
  else
    some ⟨bytes, [.ofSection bytes headWidth first each, .ofSection bytes first second each,
      .ofSection bytes second third each, .ofSection bytes third bytes.size (count - 3 * each)]⟩

def apart? (table : HuffmanTable) (streams : FourStreams) : Option (Array UInt8) := do
  let parts ← streams.lanes.mapM fun lane =>
    table.stream? (streams.bytes.extract lane.start lane.behind) lane.count
  return parts.foldl (· ++ ·) #[]

-- Streams of eight bytes or more, none of them without symbols, are read side by side if the codes
-- are short.
def besides (table : HuffmanTable) (streams : FourStreams) : Bool :=
  table.maxBits ≤ HuffmanTable.shortLog &&
    streams.lanes.all fun lane => 8 ≤ lane.behind - lane.start && 0 < lane.count

def round (table : HuffmanTable) (lane : Lane) : Lane :=
  let state := Nat.repeat (if table.double then table.entry else table.one) 5 lane.state
  { lane with state := { state with bits := state.bits.slide } }

-- How many rounds are safe: a round moves no word by more than seven bytes, and reads ten symbols
-- at most, or exactly five.
def safeRounds (table : HuffmanTable) (lanes : List Lane) : Nat :=
  let room :=
    if table.double then lanes.map fun lane => lane.missing / 10
    else lanes.reverse.head?.toList.map fun lane => lane.missing / 5
  let front := lanes.head?.elim 0 fun lane => lane.place / 7
  room.foldl min front

def inOrder : List Lane → Bool
  | first :: second :: rest => first.place ≤ second.place && inOrder (second :: rest)
  | _ => true

def lastRead (lanes : List Lane) : Nat := lanes.reverse.head?.elim 0 (·.state.read.size)

def rounds (table : HuffmanTable) (target : Nat) : Nat → List Lane → List Lane
  | 0, lanes => lanes
  | fuel + 1, lanes =>
    let lanes := lanes.map (round table)
    if lastRead lanes < target then rounds table target fuel lanes else lanes

def allRounds (table : HuffmanTable) : Nat → List Lane → List Lane
  | 0, lanes => lanes
  | fuel + 1, lanes =>
    let safe := safeRounds table lanes
    if safe = 0 ∨ !inOrder lanes then lanes
    else allRounds table fuel (rounds table (lastRead lanes + 5 * safe) safe lanes)

-- The symbols of streams that are read side by side. What the rounds leave is read stream by
-- stream, unless a word is more than its width before its stream.
def together? (table : HuffmanTable) (count : Nat) (streams : FourStreams) :
    Option (Array UInt8) :=
  let lanes := allRounds table count streams.lanes
  if lanes.all fun lane => lane.start ≤ lane.place + 8 then
    some (lanes.foldl (fun read lane => read ++ (table.finish lane.count lane.state).read) #[])
  else none

end FourStreams

namespace HuffmanTable

def fourStreams? (table : HuffmanTable) (bytes : Array UInt8) (count : Nat) :
    Option (Array UInt8) := do
  let streams ← FourStreams.ofSection? bytes count
  if streams.besides table then streams.together? table count else streams.apart? table

structure Times where
  single : Nat × Nat
  double : Nat × Nat

def times : Array Times :=
  #[⟨(0, 0), (1, 1)⟩, ⟨(0, 0), (1, 1)⟩, ⟨(150, 216), (381, 119)⟩, ⟨(170, 205), (514, 112)⟩,
    ⟨(177, 199), (539, 110)⟩, ⟨(197, 194), (644, 107)⟩, ⟨(221, 192), (735, 107)⟩,
    ⟨(256, 189), (881, 106)⟩, ⟨(359, 188), (1167, 109)⟩, ⟨(582, 187), (1570, 114)⟩,
    ⟨(688, 187), (1712, 122)⟩, ⟨(825, 186), (1965, 136)⟩, ⟨(976, 185), (2131, 150)⟩,
    ⟨(1180, 186), (2070, 175)⟩, ⟨(1377, 185), (1731, 202)⟩, ⟨(1412, 185), (1695, 202)⟩]

def doubleFaster (count stored : Nat) : Bool :=
  let share := if count ≤ stored then 15 else stored * 16 / count
  let chosen := times.getD share ⟨(0, 0), (1, 1)⟩
  let time := fun part : Nat × Nat => part.1 + part.2 * (count / 256)
  let double := time chosen.double
  double + double / 32 < time chosen.single

end HuffmanTable

end Columnar.Zstd
