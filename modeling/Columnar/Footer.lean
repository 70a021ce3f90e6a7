import Columnar.TypeTree

set_option autoImplicit false

namespace Columnar

-- The first bytes of a file, and the last but one of its postscript.
def magic : Bytes := [0x4F, 0x52, 0x43]

structure StreamInfo where
  column : UInt32
  -- Where the stream starts, from the start of its stripe.
  offset : UInt64
  length : UInt64
  rawLength : UInt64
deriving DecidableEq, Repr

structure StripeInfo where
  offset : UInt64
  length : UInt64
  rows : UInt64
  streams : List StreamInfo
deriving DecidableEq, Repr

structure WriterInfo where
  -- When the file was made, in seconds; zero if that is not told.
  created : Int64
  writer : String
deriving DecidableEq, Repr

structure Footer where
  contentLength : UInt64
  types : TypeTree
  stripes : List StripeInfo
  rowCount : UInt64
  writerInfo : WriterInfo
deriving DecidableEq, Repr

namespace StreamInfo

def fits (stream : StreamInfo) (columns stripeLength : Nat) : Bool :=
  stream.column.toNat < columns && stream.offset.toNat + stream.length.toNat ≤ stripeLength

end StreamInfo

namespace StripeInfo

def stop (stripe : StripeInfo) : Nat := stripe.offset.toNat + stripe.length.toNat

def fault? (stripe : StripeInfo) (index columns low high : Nat) : Option FormatFault :=
  if stripe.offset.toNat < low ∨ high < stripe.stop then
    some (.stripeBounds index stripe.offset.toNat stripe.length.toNat)
  else
    match stripe.streams.find? fun stream => !stream.fits columns stripe.length.toNat with
    | some stream => some (.streamBounds index stream.column.toNat)
    | none => none

def firstFault? (columns high : Nat) : Nat → Nat → List StripeInfo → Option FormatFault
  | _, _, [] => none
  | index, low, stripe :: rest =>
    match stripe.fault? index columns low high with
    | some fault => some fault
    | none => firstFault? columns high (index + 1) stripe.stop rest

-- Rows add up as numbers. In words of 64 bits the sum stops the program or wraps around at 2^64.
def totalRows : List StripeInfo → Nat
  | [] => 0
  | stripe :: rest => stripe.rows.toNat + totalRows rest

end StripeInfo

namespace Footer

-- Stripes with 2^64 rows or more fit no row count here, where a sum in words might wrap around to one.
def check (footer : Footer) : Except FormatFault Unit :=
  match footer.types.check with
  | .error fault => .error fault
  | .ok () =>
    let columns := footer.types.columns.length
    match StripeInfo.firstFault? columns footer.contentLength.toNat 0 magic.length
        footer.stripes with
    | some fault => .error fault
    | none =>
      let rows := StripeInfo.totalRows footer.stripes
      if rows = footer.rowCount.toNat then .ok ()
      else .error (.rowCount footer.rowCount.toNat rows)

def Valid (footer : Footer) : Prop := footer.check = .ok ()

-- A range ends at the last 64-bit offset at the latest.
def rangeStop (offset length : Nat) : Nat := min (offset + length) (UInt64.size - 1)

def stripesInRange (footer : Footer) (offset length : Nat) : List StripeInfo :=
  footer.stripes.filter fun stripe =>
    offset ≤ stripe.offset.toNat && stripe.offset.toNat < rangeStop offset length

end Footer

end Columnar
