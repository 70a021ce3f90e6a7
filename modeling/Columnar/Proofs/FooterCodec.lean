import Columnar.Footer.Encoding
import Columnar.Proofs.Cbor.Records
import Columnar.Codec

set_option autoImplicit false

namespace Columnar

open Cbor

theorem word_32_restored (number : UInt32) :
    Reader.Restores wordOf32 (.unsigned number.toNat) number := by
  intro item rearranged _ rest
  have read := Reader.natural_below_encode UInt32.size number.toNat rest (by decide) number.toNat_lt
  simp only [rearranged.eq_of_unsigned, wordOf32, Reader.mapped, read, UInt32.ofNat_toNat]

theorem word_64_restored (number : UInt64) :
    Reader.Restores wordOf64 (.unsigned number.toNat) number := by
  intro item rearranged _ rest
  have read := Reader.natural_below_encode UInt64.size number.toNat rest (by decide) number.toNat_lt
  simp only [rearranged.eq_of_unsigned, wordOf64, Reader.mapped, read, UInt64.ofNat_toNat]

theorem text_restored (content : String) : Reader.Restores Reader.text (.text content) content := by
  intro item rearranged small rest
  rw [rearranged.eq_of_text] at small ⊢
  rw [Item.encode, List.length_append] at small
  exact Reader.text_encode content rest (by omega)

namespace TypeNode

theorem kind_restored (kind : TypeKind) :
    Reader.Restores kindReader (.text kind.name) kind := by
  intro item rearranged _ rest
  have short : (Bytes.ofText kind.name).length ≤ Reader.pieceSize := by cases kind <;> decide
  have small : (Bytes.ofText kind.name).length < UInt64.size := Nat.lt_of_le_of_lt short (by decide)
  have start : Reader.variantStart ((Item.text kind.name).encode ++ rest) =
      .ok ((Item.text kind.name).encode ++ rest) := by
    rw [Item.encode, List.append_assoc]
    exact Reader.variant_start_text _ _ small
  have known : (TypeKind.all.find? fun other => Bytes.ofText other.name = Bytes.ofText kind.name) =
      some kind := by
    cases kind <;> simp [Bytes.of_text_eq_iff, TypeKind.all, TypeKind.name]
  simp only [rearranged.eq_of_text, kindReader, start, Reader.checked,
    Reader.name_encode kind.name rest short, known]

def draft (node : TypeNode) (filled : List String) : Draft :=
  ⟨Reader.given filled "id" node.id, Reader.given filled "kind" node.kind,
    Reader.given filled "children" node.children,
    Reader.given filled "field_names" node.fieldNames⟩

theorem restored (node : TypeNode) (depth : Nat) (deep : 79 ≤ depth) :
    Reader.Restores (reader depth) node.toItem node := by
  refine Reader.restores_fields node.draft depth ?_ (by simp) deep complete node ?_
  · have number := word_32_restored node.id
    refine Reader.knows_once (by decide) (fun _ => rfl) (by simp [draft, Reader.given]) number ?_
    have kind := kind_restored node.kind
    refine Reader.knows_once (by decide) (fun _ => rfl) (by simp [draft, Reader.given]) kind ?_
    have children : Reader.Restores childrenReader _ node.children :=
      Reader.restores_list _ fun child _ => word_32_restored child
    refine Reader.knows_once (by decide) (fun _ => rfl) (by simp [draft, Reader.given]) children ?_
    have names : Reader.Restores (listOfItems Reader.text) _ node.fieldNames :=
      Reader.restores_list _ fun name _ => text_restored name
    exact Reader.knows_once (by decide) (fun _ => rfl) (by simp [draft, Reader.given]) names .nil
  · intro filled present
    obtain ⟨id, kind, children, names⟩ : "id" ∈ filled ∧ "kind" ∈ filled ∧ "children" ∈ filled ∧
        ("field_names" ∈ filled ∨ node.fieldNames = []) := by simpa using present
    simp [complete, draft, Reader.given_mem, Reader.given_or_default, id, kind, children, names]

end TypeNode

theorem TypeTree.restored (tree : TypeTree) (depth : Nat) (deep : 81 ≤ depth) :
    Reader.Restores (reader depth) tree.toItem tree := by
  let draft (filled : List String) := Reader.given filled "nodes" tree.nodes
  refine Reader.restores_fields draft depth ?_ (by simp) (by omega) _ tree ?_
  · have nodes : Reader.Restores (listOfItems (TypeNode.reader (depth - 2))) _ tree.nodes :=
      Reader.restores_list _ fun node _ => node.restored (depth - 2) (by omega)
    exact Reader.knows_once (by decide) (fun _ => rfl) (by simp [draft, Reader.given]) nodes .nil
  · intro filled present
    have nodes : "nodes" ∈ filled := by simpa using present
    simp [draft, Reader.given_mem, nodes]

namespace StreamInfo

def draft (stream : StreamInfo) (filled : List String) : Draft :=
  ⟨Reader.given filled "column" stream.column, Reader.given filled "offset" stream.offset,
    Reader.given filled "length" stream.length, Reader.given filled "raw_length" stream.rawLength⟩

theorem restored (stream : StreamInfo) (depth : Nat) (deep : 79 ≤ depth) :
    Reader.Restores (reader depth) stream.toItem stream := by
  refine Reader.restores_fields stream.draft depth ?_ (by simp) deep complete stream ?_
  · have column := word_32_restored stream.column
    refine Reader.knows_once (by decide) (fun _ => rfl) (by simp [draft, Reader.given]) column ?_
    have offset := word_64_restored stream.offset
    refine Reader.knows_once (by decide) (fun _ => rfl) (by simp [draft, Reader.given]) offset ?_
    have length := word_64_restored stream.length
    refine Reader.knows_once (by decide) (fun _ => rfl) (by simp [draft, Reader.given]) length ?_
    have rawLength := word_64_restored stream.rawLength
    exact Reader.knows_once (by decide) (fun _ => rfl) (by simp [draft, Reader.given]) rawLength .nil
  · intro filled present
    obtain ⟨column, offset, length, rawLength⟩ : "column" ∈ filled ∧ "offset" ∈ filled ∧
        "length" ∈ filled ∧ "raw_length" ∈ filled := by simpa using present
    simp [complete, draft, Reader.given_mem, column, offset, length, rawLength]

end StreamInfo

namespace StripeInfo

def draft (stripe : StripeInfo) (filled : List String) : Draft :=
  ⟨Reader.given filled "offset" stripe.offset, Reader.given filled "length" stripe.length,
    Reader.given filled "rows" stripe.rows, Reader.given filled "streams" stripe.streams⟩

theorem restored (stripe : StripeInfo) (depth : Nat) (deep : 81 ≤ depth) :
    Reader.Restores (reader depth) stripe.toItem stripe := by
  refine Reader.restores_fields stripe.draft depth ?_ (by simp) (by omega) complete stripe ?_
  · have offset := word_64_restored stripe.offset
    refine Reader.knows_once (by decide) (fun _ => rfl) (by simp [draft, Reader.given]) offset ?_
    have length := word_64_restored stripe.length
    refine Reader.knows_once (by decide) (fun _ => rfl) (by simp [draft, Reader.given]) length ?_
    have rows := word_64_restored stripe.rows
    refine Reader.knows_once (by decide) (fun _ => rfl) (by simp [draft, Reader.given]) rows ?_
    have streams : Reader.Restores (listOfItems (StreamInfo.reader (depth - 2))) _ stripe.streams :=
      Reader.restores_list _ fun stream _ => stream.restored (depth - 2) (by omega)
    exact Reader.knows_once (by decide) (fun _ => rfl) (by simp [draft, Reader.given]) streams .nil
  · intro filled present
    obtain ⟨offset, length, rows, streams⟩ : "offset" ∈ filled ∧ "length" ∈ filled ∧
        "rows" ∈ filled ∧ "streams" ∈ filled := by simpa using present
    simp [complete, draft, Reader.given_mem, offset, length, rows, streams]

end StripeInfo

namespace WriterInfo

theorem created_restored (created : Int64) :
    Reader.Restores
      (Reader.mapped Int64.ofInt (Reader.integerWithin Int64.minValue.toInt Int64.maxValue.toInt))
      (.ofInt created.toInt) created := by
  intro item rearranged _ rest
  have bounds : -(UInt64.size : Int) ≤ created.toInt ∧ created.toInt < UInt64.size := by
    have low := created.le_toInt
    have high := created.toInt_lt
    rw [UInt64.size]
    omega
  have read := Reader.integer_within_encode Int64.minValue.toInt Int64.maxValue.toInt created.toInt
    rest bounds ⟨created.minValue_le_toInt, created.toInt_le⟩
  simp only [rearranged.eq_of_int, Reader.mapped, read, Int64.ofInt_toInt]

def draft (info : WriterInfo) (filled : List String) : Draft :=
  ⟨Reader.given filled "created" info.created, Reader.given filled "writer" info.writer⟩

theorem restored (info : WriterInfo) (depth : Nat) (deep : 79 ≤ depth) :
    Reader.Restores (reader depth) info.toItem info := by
  refine Reader.restores_fields info.draft depth ?_ (by simp) deep complete info ?_
  · have created := created_restored info.created
    refine Reader.knows_once (by decide) (fun _ => rfl) (by simp [draft, Reader.given]) created ?_
    have writer := text_restored info.writer
    exact Reader.knows_once (by decide) (fun _ => rfl) (by simp [draft, Reader.given]) writer .nil
  · intro filled present
    obtain ⟨created, writer⟩ : "created" ∈ filled ∧ "writer" ∈ filled := by simpa using present
    simp [complete, draft, Reader.given_mem, created, writer]

end WriterInfo

namespace Footer

def draft (footer : Footer) (filled : List String) : Draft :=
  ⟨Reader.given filled "content_length" footer.contentLength,
    Reader.given filled "types" footer.types, Reader.given filled "stripes" footer.stripes,
    Reader.given filled "row_count" footer.rowCount, Reader.given filled "meta" footer.writerInfo⟩

-- Four levels of records: a footer, its stripes, their streams; or its types and their nodes.
theorem restored (footer : Footer) (depth : Nat) (deep : 83 ≤ depth) :
    Reader.Restores (reader depth) footer.toItem footer := by
  refine Reader.restores_fields footer.draft depth ?_ (by simp) (by omega) complete footer ?_
  · have contentLength := word_64_restored footer.contentLength
    refine Reader.knows_once (by decide) (fun _ => rfl) (by simp [draft, Reader.given]) contentLength ?_
    have types := footer.types.restored (depth - 1) (by omega)
    refine Reader.knows_once (by decide) (fun _ => rfl) (by simp [draft, Reader.given]) types ?_
    have stripes : Reader.Restores (listOfItems (StripeInfo.reader (depth - 2))) _ footer.stripes :=
      Reader.restores_list _ fun stripe _ => stripe.restored (depth - 2) (by omega)
    refine Reader.knows_once (by decide) (fun _ => rfl) (by simp [draft, Reader.given]) stripes ?_
    have rowCount := word_64_restored footer.rowCount
    refine Reader.knows_once (by decide) (fun _ => rfl) (by simp [draft, Reader.given]) rowCount ?_
    have info := footer.writerInfo.restored (depth - 1) (by omega)
    exact Reader.knows_once (by decide) (fun _ => rfl) (by simp [draft, Reader.given]) info .nil
  · intro filled present
    obtain ⟨contentLength, types, stripes, rowCount, info⟩ : "content_length" ∈ filled ∧
        "types" ∈ filled ∧ "stripes" ∈ filled ∧ "row_count" ∈ filled ∧ "meta" ∈ filled := by
      simpa using present
    simp [complete, draft, Reader.given_mem, contentLength, types, stripes, rowCount, info]

theorem decode_rearranged (footer : Footer) (compressor : Compressor) (item : Item)
    (rearranged : footer.toItem.Rearranged item) (small : item.encode.length < UInt64.size) :
    decode (compressor.compress item.encode) compressor.kind =
      (footer.check.map fun () => footer).mapError .format := by
  have inflated := compressor.inflate_compress item.encode
  have read := footer.restored depthLimit (by decide) item rearranged small []
  rw [List.append_nil] at read
  simp only [decode, inflated, read]
  cases footer.check with
  | error fault => rfl
  | ok sound => rfl

theorem decode_encode_eq_check (footer : Footer) (compressor : Compressor)
    (small : footer.toItem.encode.length < UInt64.size) :
    decode (footer.encode compressor) compressor.kind =
      (footer.check.map fun () => footer).mapError .format :=
  footer.decode_rearranged compressor _ (.same footer.toItem) small

theorem decode_encode (footer : Footer) (compressor : Compressor)
    (small : footer.toItem.encode.length < UInt64.size) (valid : footer.check = .ok ()) :
    decode (footer.encode compressor) compressor.kind = .ok footer := by
  rw [footer.decode_encode_eq_check compressor small, valid]
  rfl

end Footer

end Columnar
