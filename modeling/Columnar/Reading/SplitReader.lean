import Columnar.Inclusion
import Columnar.Reading.RowSource

set_option autoImplicit false

namespace Columnar

inductive ReaderState where
  | opened
  | exhausted
  | closed
deriving DecidableEq, Repr

structure SplitReader (σ : Type) where
  rows : σ
  inclusion : Inclusion
  offset : Nat
  length : Nat
  progress : Ieee.Single
  state : ReaderState
  row : Row

namespace SplitReader

def clamp (sample : Ieee.Single) : Ieee.Single :=
  if sample.reading.below Ieee.Single.zero.reading then .zero
  else if Ieee.Single.one.reading.below sample.reading then .one
  else sample

-- The greater of the progress so far and a new sample, which counts only if it is a number.
def advanced (progress sample : Ieee.Single) : Ieee.Single :=
  if sample.reading = .nan ∨ sample.reading.below progress.reading then progress else sample

variable {σ : Type}

def start (rows : σ) (offset length : Nat) (inclusion : Inclusion) (width : Nat) : SplitReader σ :=
  ⟨rows, inclusion, offset, length, .zero, .opened, .blank width⟩

def advanceInto (source : RowSource σ) (reader : SplitReader σ) (slot : Row) :
    Polled (SplitReader σ) :=
  match reader.state with
  | .closed => ⟨.error .closed, slot, reader⟩
  | .exhausted => ⟨.ok false, slot, reader⟩
  | .opened =>
    let polled := source.next reader.rows slot
    match polled.more with
    | .error failure => ⟨.error failure, polled.slot, { reader with rows := polled.source }⟩
    | .ok more =>
      ⟨.ok more, polled.slot,
        { reader with
          rows := polled.source
          progress := advanced reader.progress (clamp (source.progress polled.source))
          state := if more then .opened else .exhausted }⟩

def advance (source : RowSource σ) (reader : SplitReader σ) :
    Except Failure Bool × SplitReader σ :=
  let polled := reader.advanceInto source reader.row
  (polled.more, { polled.source with row := polled.slot })

def nextRow (source : RowSource σ) (reader : SplitReader σ) :
    Except Failure (Option Row) × SplitReader σ :=
  let (more, after) := reader.advance source
  (more.map fun found => if found then some after.row else none, after)

-- The product of the progress and a length, as doubles, rounded to the nearest whole number, a
-- half going up.
def done (progress : Ieee.Single) (length : Nat) : Nat :=
  match progress.reading with
  | .nan => 0
  | .number _ magnitude =>
    let units := Ieee.Format.single.units magnitude * Ieee.wholeAsDouble length
    let product := Ieee.Format.double.round units Ieee.Format.single.scale
    let scale := Ieee.Format.double.scale
    (2 * Ieee.Format.double.units product + scale) / (2 * scale)

def position (reader : SplitReader σ) : Nat :=
  reader.offset + min (done reader.progress reader.length) reader.length

def isExhausted (reader : SplitReader σ) : Bool := reader.state == .exhausted

def close (source : RowSource σ) (reader : SplitReader σ) : Except Failure Unit × SplitReader σ :=
  match reader.state with
  | .closed => (.ok (), reader)
  | _ =>
    let (outcome, rows) := source.close reader.rows
    (outcome, { reader with rows, state := .closed })

end SplitReader

end Columnar
