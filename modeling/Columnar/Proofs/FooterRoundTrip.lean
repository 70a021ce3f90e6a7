import Columnar.Proofs.ContainerFormat
import Columnar.Proofs.FooterCodec

set_option autoImplicit false

namespace Columnar

open Cbor

theorem footers_are_read_back (footer : Footer) (compressor : Compressor)
    (small : footer.toItem.encode.length < UInt64.size) :
    (footer.check = .ok () → Footer.decode (footer.encode compressor) compressor.kind = .ok footer) ∧
      (∀ fault, footer.check = .error fault →
        Footer.decode (footer.encode compressor) compressor.kind = .error (.format fault)) ∧
      ∀ item, footer.toItem.Rearranged item → item.encode.length < UInt64.size →
        ∀ other : Compressor, Footer.decode (other.compress item.encode) other.kind =
            Footer.decode (footer.encode compressor) compressor.kind := by
  have decoded := footer.decode_encode_eq_check compressor small
  refine ⟨?_, ?_, ?_⟩
  · intro valid
    exact footer.decode_encode compressor small valid
  · intro fault rejected
    rw [decoded, rejected]
    rfl
  · intro item rearranged short other
    rw [decoded]
    exact footer.decode_rearranged other item rearranged short

namespace Example

def dataNode : TypeNode := ⟨1, .long, [], []⟩

def lastNode : TypeNode := ⟨2, .long, [], []⟩

def rootNode : TypeNode := ⟨0, .struct, [1, 2], ["x", "y"]⟩

def shortEntries : List (Item × Item) :=
  [(.text "id", .unsigned 1), (.text "kind", .text "Long"), (.text "children", .array [])]

def shortNode : Item := .map shortEntries.reverse

def comment : Item := .array [.text "kept", .map [(.negative 0, .simple 22)]]

def shortTypes : Item := .record [("nodes", .array [rootNode.toItem, shortNode, lastNode.toItem])]

def shortFooter : List (Item × Item) :=
  [(.text "content_length", .unsigned 19), (.text "types", shortTypes),
    (.text "stripes", .array (gappedFooter.stripes.map StripeInfo.toItem)),
    (.text "row_count", .unsigned 1), (.text "meta", gappedFooter.writerInfo.toItem)]

def otherForm : Item := .map (shortFooter ++ [(Item.text "comment", comment)]).reverse

theorem short_node_rearranged : dataNode.toItem.Rearranged shortNode := by
  have kept : Item.Kept [(.text "id", .unsigned 1), (.text "kind", .text "Long"),
      (.text "children", .array []), (.text "field_names", .array [])] shortEntries :=
    .entry (.same _) (.entry (.same _) (.entry (.same _) (.omitted .nil)))
  have order : shortEntries.reverse.Perm (shortEntries ++ []) := by
    rw [List.append_nil]
    exact List.reverse_perm _
  exact .map kept (by simp) order

theorem comment_foreign :
    Item.Foreign [.text "content_length", .text "types", .text "stripes", .text "row_count", .text "meta"]
      (.text "comment", comment) := by
  refine ⟨⟨"comment", rfl, by simp, by decide⟩, ?_, ?_⟩
  · simp [comment, Item.Plain, Item.AllPlain, Item.EntriesPlain, UInt64.size]
  · simp [comment, Item.nesting, Item.nestingOfAll, Item.nestingOfEntries]

theorem other_form_rearranged : gappedFooter.toItem.Rearranged otherForm := by
  have nodes : (Item.array [rootNode.toItem, dataNode.toItem, lastNode.toItem]).Rearranged
      (.array [rootNode.toItem, shortNode, lastNode.toItem]) :=
    .array (.cons (.same _) (.cons short_node_rearranged (.cons (.same _) .nil)))
  have types : gappedFooter.types.toItem.Rearranged shortTypes :=
    .map (.entry nodes .nil) (by simp) (.refl _)
  refine .map (.entry (.same _) (.entry types (.entry (.same _) (.entry (.same _)
    (.entry (.same _) .nil))))) ?_ (List.reverse_perm _)
  simpa using comment_foreign

end Example

theorem gapped_footer_read_back :
    Example.gappedFooter.toItem.encode.length < UInt64.size ∧
      Example.gappedFooter.check = .ok () ∧
      Example.gappedFooter.toItem.Rearranged Example.otherForm ∧
      Example.otherForm.encode.length < UInt64.size ∧
      Footer.decode Example.storedFooter .stored = .ok Example.gappedFooter ∧
      Footer.decode Example.otherForm.encode .stored = .ok Example.gappedFooter := by
  have small : Example.gappedFooter.toItem.encode.length < UInt64.size := Example.stored_footer_small
  have short : Example.otherForm.encode.length < UInt64.size := by decide +kernel
  have valid := Example.gapped_footer_valid
  have form := Example.other_form_rearranged
  obtain ⟨accepted, _, forms⟩ := footers_are_read_back Example.gappedFooter Example.plain small
  have other := forms Example.otherForm form short Example.plain
  rw [accepted valid] at other
  exact ⟨small, valid, form, short, accepted valid, other⟩

end Columnar
