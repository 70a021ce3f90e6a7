import Columnar.Zstd.Fault
import Columnar.Zstd.Source

set_option autoImplicit false

namespace Columnar.Zstd

structure FrameHeader where
  contentSize : Option Nat
  window : Nat
  dictionary : Nat
  checked : Bool
deriving DecidableEq, Repr

def longestBlock : Nat := 131072

namespace FrameHeader

def windowOf (byte : UInt8) : Nat :=
  let whole := 1 <<< (10 + byte.toNat / 8)
  whole + whole / 8 * (byte.toNat % 8)

-- The size of the content field, by its code; a frame without window always states its size.
def contentWidth (code : Nat) (noWindow : Bool) : Nat :=
  match code with
  | 0 => if noWindow then 1 else 0
  | 1 => 2
  | 2 => 4
  | _ => 8

def dictionaryWidth (code : Nat) : Nat :=
  match code with
  | 0 => 0
  | 1 => 1
  | 2 => 2
  | _ => 4

def unknownSize : Nat := 0xFFFFFFFFFFFFFFFF

def contentOf (field : Bytes) : Nat :=
  if field.length = 2 then Bytes.ofLittle field + 256 else Bytes.ofLittle field

def read (maxLog : Nat) (source : Source) : Except Fault (FrameHeader × Source) :=
  match source.take? 1 with
  | none => .error .incomplete
  | some (first, source) =>
    let flags := Bytes.ofLittle first
    let noWindow := flags / 32 % 2 == 1
    let windowBytes := if noWindow then 0 else 1
    let idBytes := dictionaryWidth (flags % 4)
    let content := contentWidth (flags / 64) noWindow
    match source.take? (windowBytes + idBytes + content) with
    | none => .error .incomplete
    | some (fields, rest) =>
      let field := contentOf (fields.drop (windowBytes + idBytes))
      let dictionary := Bytes.ofLittle ((fields.drop windowBytes).take idBytes)
      let byte := fields.headD 0
      if flags / 8 % 2 = 1 then .error .unsupported
      else if !noWindow && maxLog < 10 + byte.toNat / 8 then .error .windowTooLarge
      else
        let contentSize := if content = 0 ∨ field = unknownSize then none else some field
        let window := if noWindow then field else windowOf byte
        .ok (⟨contentSize, window, dictionary, flags / 4 % 2 == 1⟩, rest)

def blockLimit (header : FrameHeader) : Nat := min header.window longestBlock

def keptWindow (header : FrameHeader) : Nat := max header.window 1024

end FrameHeader

end Columnar.Zstd
