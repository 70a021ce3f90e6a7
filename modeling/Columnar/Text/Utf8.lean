import Columnar.Bytes

/-!
UTF-8 read leniently: every maximal piece that no character starts with becomes U+FFFD, and the
length of the well-formed part at the front of a byte string.
-/

set_option autoImplicit false

namespace Columnar.Utf8

def isContinuation (byte : UInt8) : Bool := 0x80 ≤ byte && byte ≤ 0xBF

def opensThree (first second : UInt8) : Bool :=
  if first == 0xE0 then 0xA0 ≤ second && second ≤ 0xBF
  else if first == 0xED then 0x80 ≤ second && second ≤ 0x9F
  else isContinuation second

def opensFour (first second : UInt8) : Bool :=
  if first == 0xF0 then 0x90 ≤ second && second ≤ 0xBF
  else if first == 0xF4 then 0x80 ≤ second && second ≤ 0x8F
  else isContinuation second

def bits (byte : UInt8) (modulus : Nat) : Nat := byte.toNat % modulus

-- The character that starts with `first`, if `rest` completes it, and the number of bytes of
-- `rest` that belong to it. Where it is not completed the count is that of the bytes that could
-- still have belonged to a character.
def character (first : UInt8) (rest : Bytes) : Option Char × Nat :=
  if first < 0x80 then (some (Char.ofNat first.toNat), 0)
  else if first < 0xC2 then (none, 0)
  else if first < 0xE0 then
    match rest with
    | second :: _ =>
      if isContinuation second then (some (Char.ofNat (bits first 32 * 64 + bits second 64)), 1)
      else (none, 0)
    | [] => (none, 0)
  else if first < 0xF0 then
    match rest with
    | second :: tail =>
      if opensThree first second then
        match tail with
        | third :: _ =>
          if isContinuation third then
            (some (Char.ofNat (bits first 16 * 4096 + bits second 64 * 64 + bits third 64)), 2)
          else (none, 1)
        | [] => (none, 1)
      else (none, 0)
    | [] => (none, 0)
  else if first < 0xF5 then
    match rest with
    | second :: tail =>
      if opensFour first second then
        match tail with
        | third :: more =>
          if isContinuation third then
            match more with
            | fourth :: _ =>
              if isContinuation fourth then
                (some (Char.ofNat (bits first 8 * 262144 + bits second 64 * 4096
                  + bits third 64 * 64 + bits fourth 64)), 3)
              else (none, 2)
            | [] => (none, 2)
          else (none, 1)
        | [] => (none, 1)
      else (none, 0)
    | [] => (none, 0)
  else (none, 0)

def lenient : Bytes → List Char
  | [] => []
  | first :: rest =>
    let (read, used) := character first rest
    read.getD '\uFFFD' :: lenient (rest.drop used)
termination_by bytes => bytes.length
decreasing_by simp only [List.length_drop, List.length_cons]; omega

def lossy (bytes : Bytes) : String := String.ofList (lenient bytes)

def wellFormedLength : Bytes → Nat
  | [] => 0
  | first :: rest =>
    match character first rest with
    | (some _, used) => 1 + used + wellFormedLength (rest.drop used)
    | (none, _) => 0
termination_by bytes => bytes.length
decreasing_by simp only [List.length_drop, List.length_cons]; omega

end Columnar.Utf8
