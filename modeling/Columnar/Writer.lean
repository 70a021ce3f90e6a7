import Columnar.Blake3
import Columnar.FileSystem
import Columnar.Footer.Encoding
import Columnar.Postscript
import Columnar.Row
import Columnar.TypeTree.Flatten
import Columnar.Value.Encoding

/-!
Writers: rows are gathered column by column, cut into stripes, and followed by the footer and the
postscript. What is written waits in a buffer, and goes to the file when the buffer is full and when
the writer is closed: each time behind what the file got before, whatever became of it since.
-/

set_option autoImplicit false

namespace Columnar

structure WriterOptions where
  stripeRows : Nat
  compressor : Compressor
  -- The time that the footer tells; zero makes the same file again.
  created : Int64

structure Writer where
  file : Nat
  fields : List Field
  options : WriterOptions
  pieces : List Bytes
  position : Nat
  held : Nat
  settled : Nat
  -- For each column the values that no stripe holds yet, the latest first.
  pending : List (List Value)
  pendingRows : Nat
  stripes : List StripeInfo
  rowCount : Nat

inductive WriterCall where
  | add (row : Row)
  | flush

namespace Writer

def name : String := "dwrf-core/0.1.0"

def start (file : Nat) (fields : List Field) (options : WriterOptions) : Writer :=
  ⟨file, fields, options, [magic], magic.length, magic.length, 0, fields.map fun _ => [], 0, [], 0⟩

def create (files : FileSystem) (path : Path) (fields : List Field) (options : WriterOptions) :
    Except Failure (Writer × FileSystem) :=
  if fields.isEmpty then .error (.schema .noColumns)
  else
    match files.create path with
    | .error fault => .error (.io fault)
    | .ok (file, made) => .ok (start file fields options, made)

def types (writer : Writer) : TypeTree := .ofFields writer.fields

def bufferSize : Nat := 8192

-- How many bytes the buffer holds behind a piece. A piece that finds no room empties the buffer
-- first, and one as long as the buffer does not wait in it.
def heldAfter (held length : Nat) : Nat :=
  if bufferSize ≤ length then 0
  else if bufferSize < held + length then length
  else held + length

def write (writer : Writer) (bytes : Bytes) : Writer :=
  { writer with
    pieces := bytes :: writer.pieces
    position := writer.position + bytes.length
    held := heldAfter writer.held bytes.length }

def writeStream (writer : Writer) (start column : Nat) (values : List Value) :
    Writer × StreamInfo :=
  let raw := Value.encodeStream values.reverse
  let stored := writer.options.compressor.compress raw
  (writer.write stored,
    ⟨UInt32.ofNat column, UInt64.ofNat (writer.position - start), UInt64.ofNat stored.length,
      UInt64.ofNat raw.length⟩)

def writeStreams (start : Nat) : Nat → List (List Value) → Writer → Writer × List StreamInfo
  | _, [], writer => (writer, [])
  | column, values :: rest, writer =>
    let (written, stream) := writer.writeStream start column values
    let (done, streams) := writeStreams start (column + 1) rest written
    (done, stream :: streams)

def flush (writer : Writer) : Writer :=
  if writer.pendingRows = 0 then writer
  else
    let (written, streams) := writeStreams writer.position 0 writer.pending writer
    let stripe : StripeInfo :=
      ⟨UInt64.ofNat writer.position, UInt64.ofNat (written.position - writer.position),
        UInt64.ofNat writer.pendingRows, streams⟩
    { written with
      pending := writer.pending.map fun _ => []
      pendingRows := 0
      stripes := stripe :: writer.stripes
      rowCount := writer.rowCount + writer.pendingRows }

def misfit? : List Field → List Value → Option SchemaFault
  | (name, type) :: fields, value :: values =>
    if value.fits type then misfit? fields values else some (.misfit value name)
  | _, _ => none

def fault? (fields : List Field) (row : Row) : Option SchemaFault :=
  if row.width ≠ fields.length then some (.rowWidth row.width fields.length)
  else misfit? fields row.values

def add (writer : Writer) (row : Row) : Except Failure Writer :=
  match fault? writer.fields row with
  | some fault => .error (.schema fault)
  | none =>
    let gathered :=
      { writer with
        pending := List.zipWith List.cons row.values writer.pending
        pendingRows := writer.pendingRows + 1 }
    if max writer.options.stripeRows 1 ≤ gathered.pendingRows then .ok gathered.flush
    else .ok gathered

def footer (writer : Writer) : Footer where
  contentLength := UInt64.ofNat writer.position
  types := writer.types
  stripes := writer.stripes.reverse
  rowCount := UInt64.ofNat writer.rowCount
  writerInfo := ⟨writer.options.created, name⟩

def postscript (writer : Writer) (stored : Bytes) (long : (Blake3.hash stored).length = 32) :
    Postscript :=
  ⟨UInt64.ofNat stored.length, writer.options.compressor.kind, 1, Blake3.hash stored, long⟩

def finish (writer : Writer) : Writer :=
  let stored := writer.footer.encode writer.options.compressor
  (writer.write stored).write (writer.postscript stored (Blake3.length_hash stored)).trailer

def content (writer : Writer) : Bytes := writer.pieces.reverse.flatten

def settle (files : FileSystem) (writer : Writer) : Writer × FileSystem :=
  let stop := writer.position - writer.held
  let bytes := (writer.content.take stop).drop writer.settled
  ({ writer with settled := stop }, files.writeAt writer.file writer.settled bytes)

def perform (files : FileSystem) (writer : Writer) (call : WriterCall) : Writer × FileSystem :=
  match call with
  | .flush => writer.flush.settle files
  | .add row =>
    match writer.add row with
    | .error _ => (writer, files)
    | .ok after => after.settle files

-- The rows that calls add, which are those that fit, and what the calls leave.
def run (files : FileSystem) (writer : Writer) : List WriterCall → List Row × Writer × FileSystem
  | [] => ([], writer, files)
  | call :: rest =>
    let (after, left) := writer.perform files call
    let (rows, done) := run left after rest
    match call with
    | .flush => (rows, done)
    | .add row => (if (writer.add row).isOk then row :: rows else rows, done)

def save (files : FileSystem) (writer : Writer) : FileSystem :=
  files.writeAt writer.file writer.settled (writer.content.drop writer.settled)

def close (files : FileSystem) (writer : Writer) : Nat × FileSystem :=
  let done := writer.flush.finish
  (done.position, done.save files)

end Writer

end Columnar
