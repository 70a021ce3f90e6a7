import Columnar.HeaderProbe
import Columnar.Reading.SplitReader
import Columnar.Reading.StripeRows
import Columnar.SplitPlan

set_option autoImplicit false

namespace Columnar

structure RecordReader where
  reader : SplitReader StripeRows
  types : TypeTree
  path : Path

namespace SplitReader

def openRange (files : FileSystem) (container : Container) (offset length : Nat)
    (inclusion : Inclusion) : Except Failure (SplitReader StripeRows) :=
  match StripeRows.openRange files container offset length inclusion with
  | .error failure => .error failure
  | .ok rows => .ok (start rows offset length inclusion container.types.columns.length)

end SplitReader

namespace RecordReader

def ofContainer (files : FileSystem) (container : Container) (settings : Settings)
    (offset length : Nat) : Except Failure RecordReader :=
  match settings.projection container.types with
  | .error failure => .error failure
  | .ok projection =>
    match Inclusion.ofProjection container.types projection with
    | .error failure => .error failure
    | .ok inclusion =>
      match SplitReader.openRange files container offset length inclusion with
      | .error failure => .error failure
      | .ok reader => .ok ⟨reader, container.types, container.path⟩

-- What a structural failure comes from: damage, if the file starts with the magic.
def explain (files : FileSystem) (path : Path) (failure : Failure) : Failure :=
  match HeaderProbe.ofPath files path with
  | .error other => .reading path other
  | .ok probe => if probe.isOurs then .reading path failure else .notThisFormat path probe.header

def openRange (files : FileSystem) (settings : Settings) (split : Split) :
    Except Failure RecordReader :=
  match Container.openPath files split.path with
  | .error failure => .error failure
  | .ok container => ofContainer files container settings split.start split.length

def openSplit (files : FileSystem) (settings : Settings) (split : Split) :
    Except Failure RecordReader :=
  match openRange files settings split with
  | .ok reader => .ok reader
  | .error failure =>
    if failure.isStructural then .error (explain files split.path failure)
    else .error (.reading split.path failure)

def slot (reader : RecordReader) : Row := .blank reader.types.columns.length

def withPath (path : Path) : Failure → Failure
  | .closed => .closed
  | failure => .reading path failure

def next (files : FileSystem) (reader : RecordReader) (slot : Row) : Polled RecordReader :=
  let polled := reader.reader.advanceInto (StripeRows.source files) slot
  ⟨polled.more.mapError (withPath reader.path), polled.slot,
    { reader with reader := polled.source }⟩

def position (reader : RecordReader) : Nat := reader.reader.position

def progress (reader : RecordReader) : Ieee.Single := reader.reader.progress

def inclusion (reader : RecordReader) : Inclusion := reader.reader.inclusion

def close (files : FileSystem) (reader : RecordReader) : Except Failure Unit × RecordReader :=
  let (outcome, closed) := reader.reader.close (StripeRows.source files)
  (outcome, { reader with reader := closed })

end RecordReader

def allOpen (files : FileSystem) (paths : List Path) : Bool :=
  !paths.isEmpty && paths.all fun path => (Container.openPath files path).isOk

end Columnar
