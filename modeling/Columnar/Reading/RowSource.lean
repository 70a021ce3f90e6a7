import Columnar.Failure
import Columnar.Ieee.Number
import Columnar.Row

set_option autoImplicit false

namespace Columnar

-- The outcome of asking for a row: whether there was one, the slot after it, and the source.
structure Polled (σ : Type) where
  more : Except Failure Bool
  slot : Row
  source : σ

structure RowSource (σ : Type) where
  next : σ → Row → Polled σ
  progress : σ → Ieee.Single
  close : σ → Except Failure Unit × σ

end Columnar
