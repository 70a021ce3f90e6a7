import Columnar.Footer
import Columnar.FileSystem
import Columnar.Text.Quoted

set_option autoImplicit false

namespace Columnar

structure HeaderProbe where
  header : Bytes
deriving DecidableEq, Repr

namespace HeaderProbe

def size : Nat := 40

def ofBytes (bytes : Bytes) : HeaderProbe := ⟨bytes.take size⟩

def isOurs (probe : HeaderProbe) : Bool := magic.isPrefixOf probe.header

def text (probe : HeaderProbe) : String := Utf8.lossy probe.header

def summary (probe : HeaderProbe) : String :=
  "HeaderBytes(" ++ Text.quote probe.text ++ " / 0x" ++ Bytes.hex probe.header ++ ")"

def ofPath (files : FileSystem) (path : Path) : Except Failure HeaderProbe :=
  match files.openFile path with
  | .error fault => .error (.io fault)
  | .ok file =>
    match file.readUpTo 0 size with
    | .error fault => .error (.io fault)
    | .ok bytes => .ok (ofBytes bytes)

end HeaderProbe

end Columnar
