import Columnar.Projection

set_option autoImplicit false

namespace Columnar

structure Settings where
  -- The ordinals of the columns to read; none, or blank, reads every column.
  readColumns : Option String
  minSplitSize : Nat
  blockSize : Nat
deriving DecidableEq, Repr

namespace Settings

def minSplitSizeKey : String := "mapred.min.split.size"
def blockSizeKey : String := "dwrf.block.size"

def standard : Settings := ⟨none, 16384, 33554432⟩

def sizeOf? (key value : String) : Except Failure Nat :=
  match Text.size? value.toList with
  | .error cause => .error (.setting key (.size value cause))
  | .ok size => .ok size

-- Sets one key. A list of columns is checked and kept as it was written.
def set (settings : Settings) (key value : String) : Except Failure Settings :=
  if key = Ordinals.settingKey then
    (Ordinals.parse value).map fun _ => { settings with readColumns := some value }
  else if key = minSplitSizeKey then
    (sizeOf? key value).map fun size => { settings with minSplitSize := size }
  else if key = blockSizeKey then
    (sizeOf? key value).map fun size => { settings with blockSize := max size 1 }
  else .error (.setting key .unknownKey)

-- Sets the key before the first equals sign to what stands behind it, blanks around both cut.
def apply (settings : Settings) (pair : String) : Except Failure Settings :=
  match Text.cut? '=' pair.toList with
  | none => .error (.setting pair .noEquals)
  | some (key, value) =>
    settings.set (String.ofList (Text.trim key)) (String.ofList (Text.trim value))

def get? (settings : Settings) (key : String) : Option String :=
  if key = Ordinals.settingKey then settings.readColumns
  else if key = minSplitSizeKey then some (Text.natText settings.minSplitSize)
  else if key = blockSizeKey then some (Text.natText settings.blockSize)
  else none

def setReadColumns (settings : Settings) (ordinals : List Nat) : Settings :=
  { settings with readColumns := some (Ordinals.text ordinals) }

def projection (settings : Settings) (tree : TypeTree) : Except Failure Projection :=
  Projection.ofSetting settings.readColumns tree

def splitFloor (settings : Settings) : Nat := max settings.minSplitSize 1

end Settings

end Columnar
