set_option autoImplicit false

namespace Columnar.Cbor

inductive Fault where
  | ended
  | malformed
  | unexpected
  | tooDeep
deriving DecidableEq, Repr

def Fault.name : Fault → String
  | .ended => "Io"
  | .malformed => "Syntax"
  | .unexpected => "Semantic"
  | .tooDeep => "RecursionLimitExceeded"

end Columnar.Cbor
