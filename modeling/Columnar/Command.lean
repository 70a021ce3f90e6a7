import Columnar.FileSystem.Path
import Columnar.Text.Decimal

set_option autoImplicit false

namespace Columnar

inductive Command where
  | generate (path : Path) (rows stripeRows : Nat) (compression : String) (deterministic : Bool)
  | describe (path : Path)
  | scan (path : Path) (start : Nat) (length : Option Nat) (columns : Option String)
    (limit : Option Nat)
  | splits (roots : List Path) (wanted : Nat)
  | count (roots : List Path) (wanted : Nat)
  | validate (roots : List Path)
  | sniff (path : Path)
deriving DecidableEq, Repr

structure CommandLine where
  settings : List String
  command : Command
deriving DecidableEq, Repr

end Columnar
