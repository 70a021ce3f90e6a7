import Columnar.Zstd.Bits

set_option autoImplicit false

namespace Columnar.Zstd

structure FseCell where
  symbol : Nat
  width : Nat
  base : Nat
deriving Inhabited

structure FseTable where
  log : Nat
  cells : Array FseCell

-- How many states a symbol has. A rare one has a single state, which reads all its bits anew.
inductive Share where
  | rare
  | states (count : Nat)

namespace Share

def count : Share → Nat
  | .rare => 1
  | .states count => count

def common (shares : List Share) : List Nat :=
  shares.zipIdx.flatMap fun (share, symbol) =>
    match share with
    | .rare => []
    | .states count => List.replicate count symbol

def rareSymbols (shares : List Share) : List Nat :=
  shares.zipIdx.filterMap fun (share, symbol) =>
    match share with
    | .rare => some symbol
    | .states _ => none

end Share

namespace FseTable

def walk (size : Nat) : List Nat :=
  (List.range size).map fun step => step * (size / 2 + size / 8 + 3) % size

-- The symbols of all states. Rare symbols take the last states, the first of them the very last;
-- the others are spread along the walk.
def symbols (log : Nat) (shares : List Share) : Array Nat :=
  let size := 1 <<< log
  let rare := Share.rareSymbols shares
  let places := (walk size).filter (· < size - rare.length)
  let spread := (places.zip (Share.common shares)).foldl
    (fun symbols (place, symbol) => symbols.setIfInBounds place symbol) (Array.replicate size 0)
  rare.zipIdx.foldl
    (fun symbols (symbol, place) => symbols.setIfInBounds (size - 1 - place) symbol) spread

-- The cells of the states from the first on. `turns` holds, for each symbol, its number of states
-- plus how many of them came before.
def cellsOf (log : Nat) : List Nat → Array Nat → List FseCell
  | [], _ => []
  | symbol :: rest, turns =>
    let turn := turns.getD symbol 0
    let width := log - turn.log2
    ⟨symbol, width, (turn <<< width) - 1 <<< log⟩
      :: cellsOf log rest (turns.setIfInBounds symbol (turn + 1))

def ofShares (log : Nat) (shares : List Share) : FseTable :=
  let turns := (shares.map Share.count).toArray
  ⟨log, (cellsOf log (symbols log shares).toList turns).toArray⟩

def single (symbol : Nat) : FseTable := ⟨0, #[⟨symbol, 0, 0⟩]⟩

def cell (table : FseTable) (state : Nat) : FseCell := table.cells.getD state default

def start? (table : FseTable) (bits : BackwardBits) : Option (Nat × BackwardBits) :=
  bits.read? table.log

def next? (table : FseTable) (state : Nat) (bits : BackwardBits) : Option (Nat × BackwardBits) :=
  let cell := table.cell state
  (bits.read? cell.width).map fun (step, rest) => (cell.base + step, rest)

end FseTable

structure FseDescription where
  log : Nat
  shares : List Share
  size : Nat

namespace FseDescription

-- One share: its value plus one in as few bits as tell the possible values apart, and how many
-- bits that were. `remaining` is one more than the states not given out.
def shareAt (bytes : Array UInt8) (start remaining : Nat) : Nat × Nat :=
  let width := remaining.log2
  let value := bitsAt bytes start (width + 1)
  let half := 1 <<< width
  let spare := 2 * half - 1 - remaining
  let low := value % half
  if low < spare then (low, width)
  else if half ≤ value then (value - spare, width + 1)
  else (value, width + 1)

-- A run of symbols without states, in groups of two bits: three more symbols, and another group,
-- or fewer and the end. Gives the length of the run and the place behind it.
def runAt (bytes : Array UInt8) : Nat → Nat → Nat × Nat
  | 0, start => (0, start)
  | fuel + 1, start =>
    let more := bitsAt bytes start 2
    if more = 3 then
      let (length, behind) := runAt bytes fuel (start + 2)
      (length + 3, behind)
    else (more, start + 2)

def sharesAt (bytes : Array UInt8) : Nat → Nat → Nat → List Share → Option (List Share × Nat)
  | 0, start, remaining, shares => if remaining = 1 then some (shares.reverse, start) else none
  | room + 1, start, remaining, shares =>
    if remaining = 1 then some (shares.reverse, start)
    else
      let (value, width) := shareAt bytes start remaining
      let behind := start + width
      match value with
      | 0 => sharesAt bytes room behind (remaining - 1) (.rare :: shares)
      | 1 =>
        let (run, stop) := runAt bytes (8 * bytes.size) behind
        sharesAt bytes room stop remaining (List.replicate (run + 1) (.states 0) ++ shares)
      | count + 1 => sharesAt bytes room behind (remaining - count) (.states count :: shares)

def ofBytes? (bytes : Array UInt8) (maxLog maxSymbol : Nat) : Option FseDescription := do
  let log := bitsAt bytes 0 4 + 5
  if maxLog < log then none
  let (shares, bits) ← sharesAt bytes (maxSymbol + 1) 4 (1 <<< log + 1) []
  let size := (bits + 7) / 8
  if bytes.size < size ∨ maxSymbol + 1 < shares.length then none
  else some ⟨log, shares, size⟩

def table (description : FseDescription) : FseTable :=
  .ofShares description.log description.shares

end FseDescription

end Columnar.Zstd
