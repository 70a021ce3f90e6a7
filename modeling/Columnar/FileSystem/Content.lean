import Columnar.Failure

/-!
The content of a file: bytes, and behind them zeros that take no room.
-/

set_option autoImplicit false

namespace Columnar

structure Content where
  bytes : Array UInt8
  zeros : Nat

namespace Content

def empty : Content := ⟨#[], 0⟩

def ofBytes (bytes : Bytes) : Content := ⟨bytes.toArray, 0⟩

def toBytes (content : Content) : Bytes :=
  content.bytes.toList ++ List.replicate content.zeros 0

def length (content : Content) : Nat := content.bytes.size + content.zeros

def slice (content : Content) (offset count : Nat) : Bytes :=
  let stop := min (offset + count) content.length
  (content.bytes.extract offset stop).toList
    ++ List.replicate (stop - max offset content.bytes.size) 0

def resize (content : Content) (length : Nat) : Content :=
  if length ≤ content.bytes.size then ⟨content.bytes.extract 0 length, 0⟩
  else ⟨content.bytes, length - content.bytes.size⟩

def overwrite (content : Content) (offset : Nat) (bytes : Bytes) : Content :=
  if bytes.isEmpty then content
  else
    let filled := content.slice 0 offset
    let before := filled ++ List.replicate (offset - filled.length) 0
    let stop := offset + bytes.length
    let after := (content.bytes.extract stop content.bytes.size).toList
    let known := (before ++ bytes ++ after).toArray
    ⟨known, content.length - known.size⟩

theorem length_toBytes (content : Content) : content.toBytes.length = content.length := by
  simp [toBytes, length]

theorem slice_eq (content : Content) (offset count : Nat) :
    content.slice offset count = (content.toBytes.drop offset).take count := by
  simp only [slice, toBytes, length, Array.toList_extract, List.extract_eq_take_drop,
    List.drop_append, List.take_append, List.drop_replicate, List.take_replicate,
    List.length_drop, Array.length_toList]
  congr 1
  · apply List.ext_getElem
    · simp; omega
    · intros; simp
  · congr 1; omega

end Content

inductive OpenFile where
  | regular (content : Content)
  | directory

namespace OpenFile

def directorySize : Nat := 4096

def length : OpenFile → Nat
  | .regular content => content.length
  | .directory => directorySize

def readUpTo (file : OpenFile) (offset count : Nat) : Except IoFault Bytes :=
  match file with
  | .regular content => .ok (content.slice offset count)
  | .directory => .error .isADirectory

def read (file : OpenFile) (offset count : Nat) : Except IoFault Bytes :=
  if count = 0 then .ok []
  else
    match file.readUpTo offset count with
    | .error fault => .error fault
    | .ok bytes => if bytes.length < count then .error .ended else .ok bytes

end OpenFile

end Columnar
