import Columnar.Value

set_option autoImplicit false

namespace Columnar

structure Row where
  values : List Value
deriving Inhabited

namespace Row

def blank (width : Nat) : Row := ⟨List.replicate width .null⟩

def width (row : Row) : Nat := row.values.length

def get? (row : Row) (column : Nat) : Option Value := row.values[column]?

def set? (row : Row) (column : Nat) (value : Value) : Option Row :=
  if column < row.width then some ⟨row.values.set column value⟩ else none

def reset (_ : Row) (width : Nat) : Row := blank width

def same (a b : Row) : Bool := Value.allSame a.values b.values

end Row

end Columnar
