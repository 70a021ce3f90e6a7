import Columnar.Ieee.Number
import Columnar.Ieee.Shortest
import Columnar.Text.Decimal

set_option autoImplicit false

namespace Columnar.Ieee

structure NumberStyle where
  -- First-digit exponents from here on are written with an exponent.
  largeExponent : Option Int
  -- First-digit exponents below this are written with an exponent.
  smallExponent : Option Int
  showsFraction : Bool

-- The style that tells numbers from integers: `1.0`, `1e16`, `1.5e-5`.
def NumberStyle.explicit : NumberStyle := ⟨some 16, some (-4), true⟩

def NumberStyle.plain : NumberStyle := ⟨none, none, false⟩

def positional (showsFraction : Bool) (digits : List Char) (exponent : Int) : List Char :=
  if 0 ≤ exponent then
    digits ++ List.replicate exponent.toNat '0' ++ (if showsFraction then ['.', '0'] else [])
  else
    let places := (-exponent).toNat
    if places < digits.length then
      digits.take (digits.length - places) ++ '.' :: digits.drop (digits.length - places)
    else '0' :: '.' :: List.replicate (places - digits.length) '0' ++ digits

def scientific (digits : List Char) (first : Int) : List Char :=
  match digits with
  | [] => []
  | [digit] => digit :: 'e' :: Text.decimalInt first
  | digit :: rest => digit :: '.' :: rest ++ 'e' :: Text.decimalInt first

def NumberStyle.decimal (style : NumberStyle) (decimal : Decimal) : List Char :=
  let digits := Text.decimal decimal.digits
  let first := decimal.exponent + digits.length - 1
  let exponentForm :=
    style.largeExponent.any (· ≤ first) || style.smallExponent.any (first < ·)
  if exponentForm then scientific digits first
  else positional style.showsFraction digits decimal.exponent

def NumberStyle.text (style : NumberStyle) (format : Format) : Reading → List Char
  | .nan => ['N', 'a', 'N']
  | .number negative magnitude =>
    let sign := if negative then ['-'] else []
    if magnitude = format.infinity then sign ++ ['i', 'n', 'f']
    else if magnitude = 0 then
      sign ++ (if style.showsFraction then ['0', '.', '0'] else ['0'])
    else sign ++ style.decimal (format.shortest magnitude)

def Double.explicitText (x : Double) : List Char := NumberStyle.explicit.text .double x.reading
def Double.plainText (x : Double) : List Char := NumberStyle.plain.text .double x.reading
def Single.explicitText (x : Single) : List Char := NumberStyle.explicit.text .single x.reading
def Single.plainText (x : Single) : List Char := NumberStyle.plain.text .single x.reading

def Single.threePlaces (x : Single) : List Char :=
  match x.reading with
  | .nan => ['N', 'a', 'N']
  | .number negative magnitude =>
    let sign := if negative then ['-'] else []
    if magnitude = Format.single.infinity then sign ++ ['i', 'n', 'f']
    else
      let thousandths :=
        Format.quotient (Format.single.units magnitude * 1000) Format.single.scale
      let places := Text.decimal (1000 + thousandths % 1000)
      sign ++ Text.decimal (thousandths / 1000) ++ '.' :: places.drop 1

end Columnar.Ieee
