import Columnar.Blake3
import Columnar.FileSystem
import Columnar.Footer.Encoding
import Columnar.Postscript

/-!
Containers: files that start with the magic and end in a footer and a postscript. Opening one reads
its tail from the end and checks every length before it is used.
-/

set_option autoImplicit false

namespace Columnar

def OpenFile.bytes (file : OpenFile) (offset count : Nat) : Except Failure Bytes :=
  match file.read offset count with
  | .error fault => .error (.io fault)
  | .ok bytes => .ok bytes

def OpenFile.lastBytes (file : OpenFile) (length before count : Nat) : Except Failure Bytes :=
  match difference length before with
  | .error failure => .error failure
  | .ok place => file.bytes place count

def Postscript.ofFile (file : OpenFile) (length : Nat) : Except Failure Postscript :=
  if length < magic.length + 1 then .error (.format (.fileTooSmall length))
  else
    match file.lastBytes length 1 1 with
    | .error failure => .error failure
    | .ok last =>
      let size := Bytes.ofLittle last
      if length < magic.length + size + 1 then .error (.format (.postscriptRange size length))
      else if size ≠ Postscript.size then .error (.format (.postscriptLength size))
      else
        match file.lastBytes length (1 + size) Postscript.size with
        | .error failure => .error failure
        | .ok bytes =>
          match Postscript.parse bytes with
          | .error fault => .error (.format fault)
          | .ok postscript => .ok postscript

structure Container where
  path : Path
  length : Nat
  postscript : Postscript
  footer : Footer

namespace Container

def footerStart (length : Nat) (postscript : Postscript) : Except Failure Nat :=
  match difference length (Postscript.size + 1) with
  | .error failure => .error failure
  | .ok stop =>
    match difference stop magic.length with
    | .error failure => .error failure
    | .ok room =>
      let size := postscript.footerLength.toNat
      if room < size then .error (.format (.footerRange size length)) else difference stop size

def readFooter (file : OpenFile) (length : Nat) (postscript : Postscript) :
    Except Failure Footer :=
  match footerStart length postscript with
  | .error failure => .error failure
  | .ok start =>
    match file.bytes start postscript.footerLength.toNat with
    | .error failure => .error failure
    | .ok stored =>
      if Blake3.hash stored ≠ postscript.footerHash then .error (.format .footerChecksum)
      else
        match Footer.decode stored postscript.compression with
        | .error failure => .error failure
        | .ok footer =>
          if footer.contentLength.toNat = start then .ok footer
          else .error (.format (.footerPosition start footer.contentLength.toNat))

def ofFile (path : Path) (file : OpenFile) : Except Failure Container :=
  let length := file.length
  match Postscript.ofFile file length with
  | .error failure => .error failure
  | .ok postscript =>
    match file.bytes 0 magic.length with
    | .error failure => .error failure
    | .ok start =>
      if start ≠ magic then .error (.format .headerMagic)
      else
        match readFooter file length postscript with
        | .error failure => .error failure
        | .ok footer => .ok ⟨path, length, postscript, footer⟩

def openPath (files : FileSystem) (path : Path) : Except Failure Container :=
  match files.openFile path with
  | .error fault => .error (.io fault)
  | .ok file => ofFile path file

def types (container : Container) : TypeTree := container.footer.types

def compression (container : Container) : Compression := container.postscript.compression

def rowCount (container : Container) : Nat := container.footer.rowCount.toNat

end Container

end Columnar
