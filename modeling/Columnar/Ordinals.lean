import Columnar.Failure
import Columnar.Text.Pieces

set_option autoImplicit false

namespace Columnar.Ordinals

def settingKey : String := "hive.io.file.readcolumn.ids"

def pieces (text : String) : List (List Char) :=
  ((Text.pieces ',' text.toList).map Text.trim).filter fun piece => !piece.isEmpty

def numbers : List (List Char) → Except Failure (List Nat)
  | [] => .ok []
  | piece :: rest =>
    match Text.size? piece with
    | .error cause => .error (.setting settingKey (.size (String.ofList piece) cause))
    | .ok number => (numbers rest).map (number :: ·)

def parse (text : String) : Except Failure (List Nat) := numbers (pieces text)

def text (ordinals : List Nat) : String :=
  String.ofList (Text.join [','] (ordinals.map Text.decimal))

end Columnar.Ordinals
