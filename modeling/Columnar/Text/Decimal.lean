set_option autoImplicit false

namespace Columnar.Text

def digitChar (digit : Nat) : Char := Char.ofNat (48 + digit)

def decimal (number : Nat) : List Char :=
  if number < 10 then [digitChar number]
  else decimal (number / 10) ++ [digitChar (number % 10)]

def decimalInt : Int → List Char
  | .ofNat number => decimal number
  | .negSucc number => '-' :: decimal (number + 1)

def natText (number : Nat) : String := String.ofList (decimal number)

def padRight (width : Nat) (text : String) : String :=
  String.ofList (text.toList ++ List.replicate (width - text.toList.length) ' ')

inductive SizeFault where
  | empty
  | invalidDigit
  | tooLarge
deriving DecidableEq, Repr

def SizeFault.message : SizeFault → String
  | .empty => "cannot parse integer from empty string"
  | .invalidDigit => "invalid digit found in string"
  | .tooLarge => "number too large to fit in target type"

def digit? (c : Char) : Option Nat :=
  if '0' ≤ c && c ≤ '9' then some (c.toNat - 48) else none

def sizeLimit : Nat := UInt64.size

-- Appends the digits to a number from the left; the first fault met is reported.
def appendDigits : Nat → List Char → Except SizeFault Nat
  | number, [] => .ok number
  | number, c :: rest =>
    match digit? c with
    | none => .error .invalidDigit
    | some digit =>
      if number * 10 + digit < sizeLimit then appendDigits (number * 10 + digit) rest
      else .error .tooLarge

def size? : List Char → Except SizeFault Nat
  | [] => .error .empty
  | '+' :: [] => .error .invalidDigit
  | '+' :: digits => appendDigits 0 digits
  | digits => appendDigits 0 digits

end Columnar.Text
