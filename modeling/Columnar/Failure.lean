import Columnar.Cbor.Fault
import Columnar.Compression
import Columnar.FileSystem.Path
import Columnar.Text.Decimal
import Columnar.Text.Utf8
import Columnar.Value.Text
import Columnar.Zstd.Fault

set_option autoImplicit false

namespace Columnar

open Text (natText)

inductive IoFault where
  | notFound
  | alreadyExists
  | notADirectory
  | isADirectory
  | invalidArgument
  | nameTooLong
  | tooManyLinks
  | nulInPath
  | ended
  | notAFile (path : Path)
  | walking (path : Path) (cause : IoFault)
  -- A cause given in words, by a source of bytes or rows outside the library.
  | stated (text : String)
deriving DecidableEq, Repr

def IoFault.message : IoFault → String
  | .notFound => "No such file or directory (os error 2)"
  | .alreadyExists => "File exists (os error 17)"
  | .notADirectory => "Not a directory (os error 20)"
  | .isADirectory => "Is a directory (os error 21)"
  | .invalidArgument => "Invalid argument (os error 22)"
  | .nameTooLong => "File name too long (os error 36)"
  | .tooManyLinks => "Too many levels of symbolic links (os error 40)"
  | .nulInPath => "file name contained an unexpected NUL byte"
  | .ended => "failed to fill whole buffer"
  | .notAFile path => "not a file: " ++ path.text
  | .walking path cause => "IO error for operation on " ++ path.text ++ ": " ++ cause.message
  | .stated text => text

inductive FormatFault where
  | emptyTree
  | rootKind (kind : TypeKind)
  | nodeId (index id : Nat)
  | childOutOfRange (index child : Nat)
  | childCount (index : Nat) (kind : TypeKind) (count : Nat)
  | stripeBounds (index offset length : Nat)
  | streamBounds (index column : Nat)
  | rowCount (claimed held : Nat)
  | footerDecode (cause : Cbor.Fault)
  | postscriptSize (size : Nat)
  | postscriptMagic
  | compressionKind (byte : Nat)
  | newerVersion (version : Nat)
  | fileTooSmall (length : Nat)
  | postscriptRange (size length : Nat)
  | postscriptLength (size : Nat)
  | headerMagic
  | footerRange (size length : Nat)
  | footerChecksum
  | footerPosition (found claimed : Nat)
  | columnDecode (stripe column : Nat) (cause : Cbor.Fault)
  | columnCount (stripe column held rows : Nat)
  | columnMissing (stripe column : Nat)
  | stated (text : String)
deriving DecidableEq, Repr

def FormatFault.message : FormatFault → String
  | .emptyTree => "type tree is empty"
  | .rootKind kind => "root type must be a struct, found " ++ kind.word
  | .nodeId index id => "type[" ++ natText index ++ "] carries id " ++ natText id
  | .childOutOfRange index child =>
    "type[" ++ natText index ++ "] has out of range child " ++ natText child
  | .childCount index kind count =>
    "type[" ++ natText index ++ "] (" ++ kind.word ++ ") has " ++ natText count ++ " children"
  | .stripeBounds index offset length =>
    "stripe[" ++ natText index ++ "] at " ++ natText offset ++ "+" ++ natText length
      ++ " out of bounds"
  | .streamBounds index column =>
    "stripe[" ++ natText index ++ "] stream for column " ++ natText column ++ " out of bounds"
  | .rowCount claimed held =>
    "footer claims " ++ natText claimed ++ " rows, stripes hold " ++ natText held
  | .footerDecode cause => "footer decode: " ++ cause.name
  | .postscriptSize size => "postscript is " ++ natText size ++ " bytes, expected 46"
  | .postscriptMagic => "postscript magic mismatch"
  | .compressionKind byte => "unknown compression kind " ++ natText byte
  | .newerVersion version =>
    "file version " ++ natText version ++ " is newer than supported 1"
  | .fileTooSmall length => "file of " ++ natText length ++ " bytes is too small"
  | .postscriptRange size length =>
    "postscript length " ++ natText size ++ " out of range for file of " ++ natText length
      ++ " bytes"
  | .postscriptLength size => "unexpected postscript length " ++ natText size
  | .headerMagic => "header magic mismatch"
  | .footerRange size length =>
    "footer length " ++ natText size ++ " out of range for file of " ++ natText length ++ " bytes"
  | .footerChecksum => "footer checksum mismatch"
  | .footerPosition found claimed =>
    "footer found at " ++ natText found ++ ", stripes end at " ++ natText claimed
  | .columnDecode stripe column cause =>
    "stripe at " ++ natText stripe ++ ": column " ++ natText column ++ " decode: " ++ cause.name
  | .columnCount stripe column held rows =>
    "stripe at " ++ natText stripe ++ ": column " ++ natText column ++ " holds " ++ natText held
      ++ " values for " ++ natText rows ++ " rows"
  | .columnMissing stripe column =>
    "stripe at " ++ natText stripe ++ ": no stream for column " ++ natText column
  | .stated text => text

inductive CodecFault where
  | zstd (cause : Zstd.Fault)
  | inflatedLength (kind : Compression) (length expected : Nat)
  | stated (text : String)
deriving DecidableEq, Repr

def CodecFault.message : CodecFault → String
  | .zstd cause => "zstd: " ++ cause.message
  | .inflatedLength kind length expected =>
    kind.label ++ " stream inflated to " ++ natText length ++ " bytes, expected "
      ++ natText expected
  | .stated text => text

inductive SchemaFault where
  | noColumns
  | rowWidth (width columns : Nat)
  | misfit (value : Value) (column : String)
  | stated (text : String)

def SchemaFault.message : SchemaFault → String
  | .noColumns => "a file needs at least one column"
  | .rowWidth width columns =>
    "row has " ++ natText width ++ " columns, schema has " ++ natText columns
  | .misfit value column => "value " ++ value.text ++ " does not fit column " ++ column
  | .stated text => text

inductive SettingFault where
  | size (text : String) (cause : Text.SizeFault)
  | unknownKey
  | noEquals
  | unknownCodec (name : String)
  | stated (text : String)
deriving DecidableEq, Repr

def SettingFault.message : SettingFault → String
  | .size text cause => Text.quote text ++ ": " ++ cause.message
  | .unknownKey => "unknown key"
  | .noEquals => "expected key=value"
  | .unknownCodec name => "unknown codec " ++ Text.quote name
  | .stated text => text

inductive Failure where
  | io (fault : IoFault)
  | format (fault : FormatFault)
  | codec (fault : CodecFault)
  | schema (fault : SchemaFault)
  | setting (key : String) (fault : SettingFault)
  | notThisFormat (path : Path) (header : Bytes)
  | reading (path : Path) (cause : Failure)
  | closed
  -- An index or a length outside its range, where a caller promised one inside.
  | outOfRange

namespace Failure

def message : Failure → String
  | .io fault => "I/O error: " ++ fault.message
  | .format fault => "Format error: " ++ fault.message
  | .codec fault => "Codec error: " ++ fault.message
  | .schema fault => "Schema error: " ++ fault.message
  | .setting key fault => "invalid value for " ++ key ++ ": " ++ fault.message
  | .notThisFormat path header => "Input file = " ++ path.text ++ " , header = " ++ Utf8.lossy header
  | .reading path _ => "Failed to create record reader for file " ++ path.text
  | .closed => "record reader is closed"
  | .outOfRange => "index out of range"

-- Failures that come from misreading the file's own structure. Only these make the header of the
-- file worth a look.
def isStructural : Failure → Bool
  | .format _ | .codec _ => true
  | _ => false

end Failure

def difference (whole part : Nat) : Except Failure Nat :=
  if part ≤ whole then .ok (whole - part) else .error .outOfRange

def evenShare (whole parts : Nat) : Except Failure Nat :=
  if parts = 0 then .error .outOfRange else .ok (whole / parts)

end Columnar
