import Columnar.Container
import Columnar.Inclusion
import Columnar.Reading.RowSource
import Columnar.Value.Encoding

/-!
The rows of the stripes that a byte range selects. A stripe is decoded when its first row is asked
for, and only the streams of included columns are read. A failure leaves the stripe that could not be
decoded where it was, so that the next call tries it again.
-/

set_option autoImplicit false

namespace Columnar

-- A decoded stripe: for each column the values not returned yet, if the column is included.
structure LoadedStripe where
  columns : List (Option (List Value))
  rowsLeft : Nat

namespace LoadedStripe

def split? : List (Option (List Value)) → Option (List Value × List (Option (List Value)))
  | [] => some ([], [])
  | none :: rest => (split? rest).map fun (values, left) => (.null :: values, none :: left)
  | some [] :: _ => none
  | some (value :: more) :: rest =>
    (split? rest).map fun (values, left) => (value :: values, some more :: left)

end LoadedStripe

structure StripeRows where
  handle : Option Handle
  compression : Compression
  stripes : List StripeInfo
  included : List Bool
  current : Option LoadedStripe
  rowsReturned : Nat
  totalRows : Nat

namespace StripeRows

-- Under a checked footer the rows of a range stay below 2^64, where the sum in words is the same.
def openRange (files : FileSystem) (container : Container) (offset length : Nat)
    (inclusion : Inclusion) : Except Failure StripeRows :=
  let stripes := container.footer.stripesInRange offset length
  match container.types.columns? with
  | none => .error .outOfRange
  | some columns =>
    match files.openPath container.path with
    | .error fault => .error (.io fault)
    | .ok handle =>
      .ok ⟨some handle, container.compression, stripes, columns.map inclusion.includes, none, 0,
        StripeInfo.totalRows stripes⟩

def readStream (file : OpenFile) (compression : Compression) (stripe : StripeInfo)
    (stream : StreamInfo) : Except Failure (List Value) :=
  let place := stripe.offset.toNat
  let column := stream.column.toNat
  match file.bytes (place + stream.offset.toNat) stream.length.toNat with
  | .error failure => .error failure
  | .ok stored =>
    match compression.decompress stored stream.rawLength.toNat with
    | .error failure => .error failure
    | .ok raw =>
      match Value.decodeStream raw with
      | .error cause => .error (.format (.columnDecode place column cause))
      | .ok values =>
        if values.length = stripe.rows.toNat then .ok values
        else .error (.format (.columnCount place column values.length stripe.rows.toNat))

-- Reads the streams of the included columns. Of two streams for a column the later counts.
def readStreams (file : OpenFile) (compression : Compression) (stripe : StripeInfo)
    (included : List Bool) :
    List StreamInfo → List (Option (List Value)) → Except Failure (List (Option (List Value)))
  | [], columns => .ok columns
  | stream :: rest, columns =>
    match included[stream.column.toNat]? with
    | none => .error .outOfRange
    | some false => readStreams file compression stripe included rest columns
    | some true =>
      match readStream file compression stripe stream with
      | .error failure => .error failure
      | .ok values =>
        readStreams file compression stripe included rest
          (columns.set stream.column.toNat (some values))

def missingColumn? (included : List Bool) (columns : List (Option (List Value))) : Option Nat :=
  (included.zip columns).findIdx? fun (wanted, values) => wanted && values.isNone

-- Decodes a stripe. A stripe with rows needs a stream for every included column.
def load (file : OpenFile) (compression : Compression) (included : List Bool)
    (stripe : StripeInfo) : Except Failure LoadedStripe :=
  match readStreams file compression stripe included stripe.streams
      (included.map fun _ => none) with
  | .error failure => .error failure
  | .ok columns =>
    let rows := stripe.rows.toNat
    match if rows = 0 then none else missingColumn? included columns with
    | some column => .error (.format (.columnMissing stripe.offset.toNat column))
    | none => .ok ⟨columns, rows⟩

def deliver (rows : StripeRows) (stripe : LoadedStripe) (slot : Row) : Polled StripeRows :=
  match LoadedStripe.split? stripe.columns with
  | none => ⟨.error .outOfRange, slot, rows⟩
  | some (values, left) =>
    ⟨.ok true, ⟨values⟩,
      { rows with
        current := some ⟨left, stripe.rowsLeft - 1⟩
        rowsReturned := rows.rowsReturned + 1 }⟩

def nextStripe (files : FileSystem) (rows : StripeRows) (slot : Row) :
    List StripeInfo → Polled StripeRows
  | [] => ⟨.ok false, slot, { rows with stripes := [], current := none }⟩
  | stripe :: rest =>
    let waiting := { rows with stripes := stripe :: rest, current := none }
    match rows.handle with
    | none => ⟨.error .closed, slot, waiting⟩
    | some handle =>
      match load (files.view handle) rows.compression rows.included stripe with
      | .error failure => ⟨.error failure, slot, waiting⟩
      | .ok loaded =>
        if loaded.rowsLeft = 0 then nextStripe files rows slot rest
        else deliver { rows with stripes := rest, current := none } loaded slot

def next (files : FileSystem) (rows : StripeRows) (slot : Row) : Polled StripeRows :=
  match rows.current with
  | some stripe =>
    if stripe.rowsLeft = 0 then nextStripe files rows slot rows.stripes
    else deliver rows stripe slot
  | none => nextStripe files rows slot rows.stripes

-- The share of the rows returned so far; of no rows, all are.
def progress (rows : StripeRows) : Ieee.Single :=
  if rows.totalRows = 0 then .one
  else
    (Ieee.Double.ofRatio (Ieee.wholeAsDouble rows.rowsReturned)
      (Ieee.wholeAsDouble rows.totalRows)).toSingle

def close (rows : StripeRows) : Except Failure Unit × StripeRows :=
  (.ok (), { rows with handle := none, current := none })

def source (files : FileSystem) : RowSource StripeRows := ⟨next files, progress, close⟩

end StripeRows

end Columnar
