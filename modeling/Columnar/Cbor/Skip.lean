import Columnar.Cbor.Reader

/-!
Skipping an item of any kind. A tag makes one level with the item behind it, unless the two spell a
number of at most 128 bits; the head behind a tag is looked at before the level is counted.
-/

set_option autoImplicit false

namespace Columnar.Cbor.Reader

def discard {α : Type} (reader : Reader α) : Reader Unit := mapped (fun _ => ()) reader

def shortBignum? (tag : Nat) : Head → Option Nat
  | .bytes (some length) => if (tag = 2 ∨ tag = 3) ∧ length ≤ 16 then some length else none
  | _ => none

def shortBignum (tag length : Nat) : Reader Unit :=
  checked (fun digits => if tag = 2 ∨ Bytes.ofBig digits < 1 <<< 127 then some () else none)
    (bytesOfLength length)

def skipWith (inner : Option (Reader Unit)) : Reader Unit := fun bytes =>
  match Head.read bytes with
  | .error fault => .error fault
  | .ok (.unsigned _, rest) => .ok ((), rest)
  | .ok (.negative _, rest) => .ok ((), rest)
  | .ok (.float _, rest) => .ok ((), rest)
  | .ok (.simple number, rest) =>
    if 20 ≤ number ∧ number ≤ 23 then .ok ((), rest) else .error .unexpected
  | .ok (.stop, _) => .error .unexpected
  | .ok (.bytes length, rest) => discard (bytesContent length) rest
  | .ok (.text length, rest) => discard (textContent length) rest
  | .ok (.array count, rest) =>
    match inner with
    | none => .error .tooDeep
    | some skip => entries (fun _ => skip) () count rest
  | .ok (.map count, rest) =>
    match inner with
    | none => .error .tooDeep
    | some skip =>
      entries (fun _ bytes =>
        match skip bytes with
        | .error fault => .error fault
        | .ok ((), behind) => skip behind) () count rest
  | .ok (.tag number, rest) =>
    match Head.read rest with
    | .error fault => .error fault
    | .ok (next, behind) =>
      match shortBignum? number next with
      | some length => shortBignum number length behind
      | none =>
        match inner with
        | none => .error .tooDeep
        | some skip => skip rest

def skip : Nat → Reader Unit
  | 0 => skipWith none
  | depth + 1 => skipWith (some (skip depth))

end Columnar.Cbor.Reader
