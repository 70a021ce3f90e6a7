import Columnar.Cbor.Record
import Columnar.Codec
import Columnar.Footer

set_option autoImplicit false

namespace Columnar

open Cbor

def TypeNode.toItem (node : TypeNode) : Item :=
  .record [("id", .unsigned node.id.toNat), ("kind", .text node.kind.name),
    ("children", .array (node.children.map fun child => .unsigned child.toNat)),
    ("field_names", .array (node.fieldNames.map .text))]

def TypeTree.toItem (tree : TypeTree) : Item :=
  .record [("nodes", .array (tree.nodes.map TypeNode.toItem))]

def StreamInfo.toItem (stream : StreamInfo) : Item :=
  .record [("column", .unsigned stream.column.toNat), ("offset", .unsigned stream.offset.toNat),
    ("length", .unsigned stream.length.toNat), ("raw_length", .unsigned stream.rawLength.toNat)]

def StripeInfo.toItem (stripe : StripeInfo) : Item :=
  .record [("offset", .unsigned stripe.offset.toNat), ("length", .unsigned stripe.length.toNat),
    ("rows", .unsigned stripe.rows.toNat),
    ("streams", .array (stripe.streams.map StreamInfo.toItem))]

def WriterInfo.toItem (info : WriterInfo) : Item :=
  .record [("created", .ofInt info.created.toInt), ("writer", .text info.writer)]

def Footer.toItem (footer : Footer) : Item :=
  .record [("content_length", .unsigned footer.contentLength.toNat),
    ("types", footer.types.toItem), ("stripes", .array (footer.stripes.map StripeInfo.toItem)),
    ("row_count", .unsigned footer.rowCount.toNat), ("meta", footer.writerInfo.toItem)]

def Footer.encode (footer : Footer) (compressor : Compressor) : Bytes :=
  compressor.compress footer.toItem.encode

def wordOf32 : Reader UInt32 := Reader.mapped UInt32.ofNat (Reader.naturalBelow UInt32.size)

def wordOf64 : Reader UInt64 := Reader.mapped UInt64.ofNat (Reader.naturalBelow UInt64.size)

def listOfItems {α : Type} (item : Reader α) : Reader (List α) :=
  Reader.list (fun _ => none) (Reader.items item)

namespace TypeNode

structure Draft where
  id : Option UInt32
  kind : Option TypeKind
  children : Option (List UInt32)
  fieldNames : Option (List String)

-- The name of a kind, on its own or as the only key of a map; what the key maps to is left.
def kindReader : Reader TypeKind := fun bytes =>
  match Reader.variantStart bytes with
  | .error fault => .error fault
  | .ok start =>
    Reader.checked (fun name => TypeKind.all.find? fun kind => Bytes.ofText kind.name = name)
      Reader.name start

def childrenReader : Reader (List UInt32) :=
  Reader.list (fun byte => some (UInt32.ofNat byte.toNat)) (Reader.items wordOf32)

def draftFields : Reader.Fields Draft :=
  [("id", fun draft => Reader.once draft.id (fun id => { draft with id := some id }) wordOf32),
    ("kind", fun draft =>
      Reader.once draft.kind (fun kind => { draft with kind := some kind }) kindReader),
    ("children", fun draft =>
      Reader.once draft.children (fun ids => { draft with children := some ids }) childrenReader),
    ("field_names", fun draft =>
      Reader.once draft.fieldNames (fun names => { draft with fieldNames := some names })
        (listOfItems Reader.text))]

def complete (draft : Draft) : Option TypeNode := do
  return ⟨← draft.id, ← draft.kind, ← draft.children, draft.fieldNames.getD []⟩

def reader (depth : Nat) : Reader TypeNode :=
  Reader.fields draftFields depth ⟨none, none, none, none⟩ complete

end TypeNode

def TypeTree.reader (depth : Nat) : Reader TypeTree :=
  Reader.fields
    [("nodes", fun (old : Option (List TypeNode)) =>
      Reader.once old some (listOfItems (TypeNode.reader (depth - 2))))]
    depth none fun nodes => nodes.map TypeTree.mk

namespace StreamInfo

structure Draft where
  column : Option UInt32
  offset : Option UInt64
  length : Option UInt64
  rawLength : Option UInt64

def draftFields : Reader.Fields Draft :=
  [("column", fun draft =>
      Reader.once draft.column (fun column => { draft with column := some column }) wordOf32),
    ("offset", fun draft =>
      Reader.once draft.offset (fun offset => { draft with offset := some offset }) wordOf64),
    ("length", fun draft =>
      Reader.once draft.length (fun length => { draft with length := some length }) wordOf64),
    ("raw_length", fun draft =>
      Reader.once draft.rawLength (fun length => { draft with rawLength := some length }) wordOf64)]

def complete (draft : Draft) : Option StreamInfo := do
  return ⟨← draft.column, ← draft.offset, ← draft.length, ← draft.rawLength⟩

def reader (depth : Nat) : Reader StreamInfo :=
  Reader.fields draftFields depth ⟨none, none, none, none⟩ complete

end StreamInfo

namespace StripeInfo

structure Draft where
  offset : Option UInt64
  length : Option UInt64
  rows : Option UInt64
  streams : Option (List StreamInfo)

def draftFields (depth : Nat) : Reader.Fields Draft :=
  [("offset", fun draft =>
      Reader.once draft.offset (fun offset => { draft with offset := some offset }) wordOf64),
    ("length", fun draft =>
      Reader.once draft.length (fun length => { draft with length := some length }) wordOf64),
    ("rows", fun draft =>
      Reader.once draft.rows (fun rows => { draft with rows := some rows }) wordOf64),
    ("streams", fun draft =>
      Reader.once draft.streams (fun streams => { draft with streams := some streams })
        (listOfItems (StreamInfo.reader (depth - 2))))]

def complete (draft : Draft) : Option StripeInfo := do
  return ⟨← draft.offset, ← draft.length, ← draft.rows, ← draft.streams⟩

def reader (depth : Nat) : Reader StripeInfo :=
  Reader.fields (draftFields depth) depth ⟨none, none, none, none⟩ complete

end StripeInfo

namespace WriterInfo

structure Draft where
  created : Option Int64
  writer : Option String

def draftFields : Reader.Fields Draft :=
  [("created", fun draft =>
      Reader.once draft.created (fun created => { draft with created := some created })
        (Reader.mapped Int64.ofInt
          (Reader.integerWithin Int64.minValue.toInt Int64.maxValue.toInt))),
    ("writer", fun draft =>
      Reader.once draft.writer (fun writer => { draft with writer := some writer }) Reader.text)]

def complete (draft : Draft) : Option WriterInfo := do
  return ⟨← draft.created, ← draft.writer⟩

def reader (depth : Nat) : Reader WriterInfo :=
  Reader.fields draftFields depth ⟨none, none⟩ complete

end WriterInfo

namespace Footer

structure Draft where
  contentLength : Option UInt64
  types : Option TypeTree
  stripes : Option (List StripeInfo)
  rowCount : Option UInt64
  writerInfo : Option WriterInfo

def draftFields (depth : Nat) : Reader.Fields Draft :=
  [("content_length", fun draft =>
      Reader.once draft.contentLength (fun length => { draft with contentLength := some length })
        wordOf64),
    ("types", fun draft =>
      Reader.once draft.types (fun types => { draft with types := some types })
        (TypeTree.reader (depth - 1))),
    ("stripes", fun draft =>
      Reader.once draft.stripes (fun stripes => { draft with stripes := some stripes })
        (listOfItems (StripeInfo.reader (depth - 2)))),
    ("row_count", fun draft =>
      Reader.once draft.rowCount (fun count => { draft with rowCount := some count }) wordOf64),
    ("meta", fun draft =>
      Reader.once draft.writerInfo (fun info => { draft with writerInfo := some info })
        (WriterInfo.reader (depth - 1)))]

def complete (draft : Draft) : Option Footer := do
  return ⟨← draft.contentLength, ← draft.types, ← draft.stripes, ← draft.rowCount,
    ← draft.writerInfo⟩

def reader (depth : Nat) : Reader Footer :=
  Reader.fields (draftFields depth) depth ⟨none, none, none, none, none⟩ complete

-- The levels that a footer may nest, itself not counted.
def depthLimit : Nat := 255

def decode (stored : Bytes) (kind : Compression) : Except Failure Footer :=
  match kind.inflate stored with
  | .error failure => .error failure
  | .ok raw =>
    match reader depthLimit raw with
    | .error cause => .error (.format (.footerDecode cause))
    | .ok (footer, _) =>
      match footer.check with
      | .error fault => .error (.format fault)
      | .ok () => .ok footer

end Footer

end Columnar
