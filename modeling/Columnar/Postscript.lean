import Columnar.Failure
import Columnar.Footer

set_option autoImplicit false

namespace Columnar

structure Postscript where
  footerLength : UInt64
  compression : Compression
  version : UInt16
  footerHash : Bytes
  hash_length : footerHash.length = 32
deriving DecidableEq, Repr

namespace Postscript

def currentVersion : Nat := 1

-- The footer's length, the compression, the version, the footer's hash and the magic.
def size : Nat := 46

def toBytes (postscript : Postscript) : Bytes :=
  Bytes.little 8 postscript.footerLength.toNat ++ [postscript.compression.byte]
    ++ Bytes.little 2 postscript.version.toNat ++ postscript.footerHash ++ magic

def trailer (postscript : Postscript) : Bytes := postscript.toBytes ++ [UInt8.ofNat size]

def parseFields (bytes : Bytes) (hash : Bytes) (long : hash.length = 32) :
    Except FormatFault Postscript :=
  let kind := (bytes.drop 8).headD 0
  let version := Bytes.ofLittle ((bytes.drop 9).take 2)
  match Compression.ofByte? kind with
  | none => .error (.compressionKind kind.toNat)
  | some compression =>
    if currentVersion < version then .error (.newerVersion version)
    else
      .ok ⟨UInt64.ofNat (Bytes.ofLittle (bytes.take 8)), compression, UInt16.ofNat version,
        hash, long⟩

def parse (bytes : Bytes) : Except FormatFault Postscript :=
  if sized : bytes.length = size then
    if bytes.drop (size - magic.length) ≠ magic then .error .postscriptMagic
    else
      parseFields bytes ((bytes.drop 11).take 32) (by simp [sized, size])
  else .error (.postscriptSize bytes.length)

end Postscript

end Columnar
