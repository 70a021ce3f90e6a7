import Columnar.Ordinals
import Columnar.TypeTree

set_option autoImplicit false

namespace Columnar

def insertId (id : UInt32) : List UInt32 → List UInt32
  | [] => [id]
  | first :: rest =>
    if id < first then id :: first :: rest
    else if id = first then first :: rest
    else first :: insertId id rest

def idSet (ids : List UInt32) : List UInt32 := ids.foldr insertId []

inductive Projection where
  | all
  | columns (ids : List UInt32)
  -- Columns were asked for, but the file has none of them.
  | missing
deriving DecidableEq, Repr

namespace Projection

def columnsAt (ordinals : List Nat) : Nat → List UInt32 → List UInt32
  | _, [] => []
  | place, id :: rest =>
    if ordinals.contains place then id :: columnsAt ordinals (place + 1) rest
    else columnsAt ordinals (place + 1) rest

def ofOrdinals (ordinals : List Nat) (tree : TypeTree) : Projection :=
  if ordinals.isEmpty then .all
  else
    match idSet (columnsAt ordinals 0 tree.columns) with
    | [] => .missing
    | ids => .columns ids

def ofSetting (setting : Option String) (tree : TypeTree) : Except Failure Projection :=
  match setting with
  | none => .ok .all
  | some text =>
    if (Text.trim text.toList).isEmpty then .ok .all
    else (Ordinals.parse text).map fun ordinals => ofOrdinals ordinals tree

end Projection

end Columnar
