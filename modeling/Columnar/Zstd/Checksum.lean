import Columnar.Bytes

set_option autoImplicit false

namespace Columnar.Zstd

namespace Hash

def prime1 : UInt64 := 0x9E3779B185EBCA87
def prime2 : UInt64 := 0xC2B2AE3D27D4EB4F
def prime3 : UInt64 := 0x165667B19E3779F9
def prime4 : UInt64 := 0x85EBCA77C2B2AE63
def prime5 : UInt64 := 0x27D4EB2F165667C5

def rotate (word count : UInt64) : UInt64 := (word <<< count) ||| (word >>> (64 - count))

def round (lane word : UInt64) : UInt64 := rotate (lane + word * prime2) 31 * prime1

def word (bytes : Bytes) : UInt64 := UInt64.ofNat (Bytes.ofLittle bytes)

structure Lanes where
  a : UInt64
  b : UInt64
  c : UInt64
  d : UInt64

def Lanes.start : Lanes := ⟨prime1 + prime2, prime2, 0, 0 - prime1⟩

def Lanes.absorb (lanes : Lanes) (stripe : Bytes) : Lanes :=
  ⟨round lanes.a (word (stripe.take 8)), round lanes.b (word ((stripe.drop 8).take 8)),
    round lanes.c (word ((stripe.drop 16).take 8)), round lanes.d (word (stripe.drop 24))⟩

def mergeLane (sum lane : UInt64) : UInt64 := (sum ^^^ round 0 lane) * prime1 + prime4

def Lanes.merge (lanes : Lanes) : UInt64 :=
  let sum := rotate lanes.a 1 + rotate lanes.b 7 + rotate lanes.c 12 + rotate lanes.d 18
  mergeLane (mergeLane (mergeLane (mergeLane sum lanes.a) lanes.b) lanes.c) lanes.d

def absorbStripes : Nat → Lanes → Bytes → Lanes × Bytes
  | 0, lanes, bytes => (lanes, bytes)
  | count + 1, lanes, bytes => absorbStripes count (lanes.absorb (bytes.take 32)) (bytes.drop 32)

def finishWords : Nat → UInt64 → Bytes → UInt64 × Bytes
  | 0, sum, bytes => (sum, bytes)
  | count + 1, sum, bytes =>
    let mixed := rotate (sum ^^^ round 0 (word (bytes.take 8))) 27 * prime1 + prime4
    finishWords count mixed (bytes.drop 8)

def finishHalf (sum : UInt64) (bytes : Bytes) : UInt64 :=
  rotate (sum ^^^ word bytes * prime1) 23 * prime2 + prime3

def finishBytes (sum : UInt64) (bytes : Bytes) : UInt64 :=
  bytes.foldl (fun sum byte => rotate (sum ^^^ byte.toUInt64 * prime5) 11 * prime1) sum

def finish (sum : UInt64) (tail : Bytes) : UInt64 :=
  let (sum, tail) := finishWords (tail.length / 8) sum tail
  if 4 ≤ tail.length then finishBytes (finishHalf sum (tail.take 4)) (tail.drop 4)
  else finishBytes sum tail

def avalanche (sum : UInt64) : UInt64 :=
  let sum := (sum ^^^ (sum >>> 33)) * prime2
  let sum := (sum ^^^ (sum >>> 29)) * prime3
  sum ^^^ (sum >>> 32)

end Hash

open Hash in
def hash (bytes : Bytes) : UInt64 :=
  let length := bytes.length
  let (lanes, tail) := absorbStripes (length / 32) .start bytes
  let sum := if 32 ≤ length then lanes.merge else prime5
  avalanche (finish (sum + UInt64.ofNat length) tail)

def checksum (bytes : Bytes) : Bytes := Bytes.little 4 (hash bytes).toNat

end Columnar.Zstd
