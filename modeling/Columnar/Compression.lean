import Columnar.Text.Blank

set_option autoImplicit false

namespace Columnar

inductive Compression where
  | stored
  | zstd
deriving DecidableEq, Repr, Inhabited

namespace Compression

def byte : Compression → UInt8
  | .stored => 0
  | .zstd => 1

def ofByte? (byte : UInt8) : Option Compression :=
  if byte = 0 then some .stored else if byte = 1 then some .zstd else none

def label : Compression → String
  | .stored => "None"
  | .zstd => "Zstd"

def plainName (name : String) : String :=
  String.ofList ((Text.trim name.toList).map Char.toLower)

def ofName? (name : String) : Option Compression :=
  if plainName name = "none" then some .stored
  else if plainName name = "zstd" then some .zstd
  else none

theorem ofByte_byte (kind : Compression) : ofByte? kind.byte = some kind := by
  cases kind <;> rfl

theorem byte_of_ofByte {byte : UInt8} {kind : Compression} (known : ofByte? byte = some kind) :
    kind.byte = byte := by
  unfold ofByte? at known
  split at known
  · next zero => simp at known; subst known; exact zero.symm
  · split at known
    · next one => simp at known; subst known; exact one.symm
    · simp at known

end Compression

end Columnar
