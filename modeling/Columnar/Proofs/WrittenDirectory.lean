import Columnar.Proofs.Assembled
import Columnar.Proofs.StripeDirectory
import Columnar.Proofs.Stream
import Columnar.Proofs.TypeTree.Flattened
import Columnar.Proofs.WriterLayout

set_option autoImplicit false

namespace Columnar

namespace Layout

theorem length_le_stream (values : List Value) :
    values.length ≤ (Value.encodeStream values).length := by
  have items := Cbor.Reader.length_le_encode_all (Value.toItems values)
  rw [Value.length_to_items] at items
  rw [Value.encode_stream_items, List.length_append]
  omega

theorem exists_column (width : Nat) (filled : 0 < width) (rows : List Row) :
    ∃ values ∈ columnsOf width rows, values.length = rows.length :=
  ⟨_, List.mem_map.mpr ⟨0, List.mem_range.mpr filled, rfl⟩, List.length_map _⟩

theorem rows_of_sized (width : Nat) (filled : 0 < width) (rows : List Row)
    (sized : Sized (columnsOf width rows)) : rows.length < UInt64.size := by
  obtain ⟨values, member, count⟩ := exists_column width filled rows
  rw [← count]
  exact Nat.lt_of_le_of_lt (length_le_stream values) (sized values member)

section

variable (compressor : Compressor) (stored : compressor.kind = .stored)
include stored

theorem column_le_chunk (width : Nat) (rows : List Row) (values : List Value)
    (member : values ∈ columnsOf width rows) :
    (Value.encodeStream values).length ≤ (chunkBytes compressor width rows).length := by
  have part := List.sublist_flatten_of_mem (List.mem_map_of_mem (f := streamBytes compressor) member)
  have whole := part.length_le
  rw [streamBytes, compressor.compress_stored stored] at whole
  rwa [chunkBytes, stripeBytes, List.flatMap_def]

theorem length_le_body (width : Nat) (filled : 0 < width) (chunks : List (List Row)) :
    chunks.flatten.length ≤ (bodyBytes compressor width chunks).length := by
  induction chunks with
  | nil => simp
  | cons rows rest ih =>
    obtain ⟨values, member, count⟩ := exists_column width filled rows
    have first := column_le_chunk compressor stored width rows values member
    have fewer := length_le_stream values
    rw [bodyBytes] at ih
    rw [bodyBytes, List.flatMap_cons, List.length_append, List.flatten_cons, List.length_append]
    omega

theorem counted_of_stored (width : Nat) (filled : 0 < width) (chunks : List (List Row))
    (small : (bodyBytes compressor width chunks).length < UInt64.size) : Counted width chunks := by
  refine ⟨?_, fun rows member values inside => ?_⟩
  · exact Nat.lt_of_le_of_lt (length_le_body compressor stored width filled chunks) small
  · have part := List.sublist_flatten_of_mem
      (List.mem_map_of_mem (f := chunkBytes compressor width) member)
    rw [← List.flatMap_def, ← bodyBytes] at part
    have within := column_le_chunk compressor stored width rows values inside
    have whole := part.length_le
    omega

end

variable (compressor : Compressor)

theorem streams_fit (count column offset limit : Nat) (columns : List (List Value))
    (narrow : column + columns.length ≤ count) (words : count ≤ UInt32.size)
    (inside : offset + (stripeBytes compressor columns).length ≤ limit) (small : limit < UInt64.size) :
    ∀ stream ∈ streamsFrom compressor column offset columns, stream.fits count limit = true := by
  induction columns generalizing column offset with
  | nil => simp [streamsFrom]
  | cons values rest ih =>
    simp only [stripeBytes, List.flatMap_cons, List.length_append] at inside
    rw [List.length_cons] at narrow
    intro stream member
    cases member with
    | head =>
      simp only [StreamInfo.fits, Bool.and_eq_true, decide_eq_true_eq]
      rw [UInt32.toNat_ofNat_of_lt' (by omega), UInt64.toNat_ofNat_of_lt' (by omega),
        UInt64.toNat_ofNat_of_lt' (by omega)]
      omega
    | tail _ later =>
      refine ih (column + 1) _ (by omega) ?_ stream later
      rw [stripeBytes]
      omega

theorem stripes_ordered (width start high : Nat) (chunks : List (List Row))
    (words : width ≤ UInt32.size)
    (inside : start + (bodyBytes compressor width chunks).length ≤ high) (small : high < UInt64.size) :
    StripeInfo.Ordered width high start (stripesFrom compressor width start chunks) := by
  induction chunks generalizing start with
  | nil => trivial
  | cons rows rest ih =>
    simp only [bodyBytes, List.flatMap_cons, List.length_append] at inside
    have offset : (stripeAt compressor width start rows).offset.toNat = start :=
      UInt64.toNat_ofNat_of_lt' (by omega)
    have length : (stripeAt compressor width start rows).length.toNat =
        (chunkBytes compressor width rows).length :=
      UInt64.toNat_ofNat_of_lt' (by rw [chunkBytes] at inside; omega)
    have stop : (stripeAt compressor width start rows).stop =
        start + (chunkBytes compressor width rows).length := by
      rw [StripeInfo.stop, offset, length]
    rw [stripesFrom, StripeInfo.Ordered, stop, offset, length]
    refine ⟨Nat.le_refl _, by omega, ?_, ih _ ?_⟩
    · refine streams_fit compressor width 0 0 _ (columnsOf width rows) ?_ words ?_ (by omega)
      · rw [length_columns_of]
        omega
      · rw [chunkBytes]
        omega
    · rw [bodyBytes]
      omega

theorem total_rows_written (width start : Nat) (chunks : List (List Row))
    (small : chunks.flatten.length < UInt64.size) :
    StripeInfo.totalRows (stripesFrom compressor width start chunks) = chunks.flatten.length := by
  induction chunks generalizing start with
  | nil => rfl
  | cons rows rest ih =>
    rw [List.flatten_cons, List.length_append] at small ⊢
    have count : (stripeAt compressor width start rows).rows.toNat = rows.length :=
      UInt64.toNat_ofNat_of_lt' (by omega)
    rw [stripesFrom, StripeInfo.totalRows, count, ih _ (by omega)]

end Layout

namespace Writer

open Layout

theorem laid_out_footer (writer : Writer) (chunks : List (List Row)) (laidOut : LaidOut writer chunks []) :
    writer.footer = footerOf writer.fields writer.options chunks := by
  rw [footer, footerOf, laidOut.position, laidOut.content, List.length_append, laidOut.stripes,
    laidOut.total, types]

theorem footer_counts (writer : Writer) (chunks : List (List Row)) (laidOut : LaidOut writer chunks [])
    (rows : chunks.flatten.length < UInt64.size) (small : writer.position < UInt64.size) :
    writer.footer.contentLength.toNat = writer.position ∧
      writer.footer.rowCount.toNat = chunks.flatten.length ∧
      StripeInfo.totalRows writer.footer.stripes = chunks.flatten.length := by
  have sameRows : writer.footer.rowCount = UInt64.ofNat writer.rowCount := rfl
  have sameStripes : writer.footer.stripes = writer.stripes.reverse := rfl
  refine ⟨UInt64.toNat_ofNat_of_lt' small, ?_, ?_⟩
  · rw [sameRows, laidOut.total]
    exact UInt64.toNat_ofNat_of_lt' rows
  · rw [sameStripes, laidOut.stripes]
    exact total_rows_written _ _ _ chunks rows

theorem footer_valid (writer : Writer) (chunks : List (List Row)) (laidOut : LaidOut writer chunks [])
    (nodes : (TypeTree.ofFields writer.fields).nodes.length ≤ UInt32.size)
    (rows : chunks.flatten.length < UInt64.size) (small : writer.position < UInt64.size) :
    writer.footer.Valid := by
  have placed : writer.position = magic.length +
      (bodyBytes writer.options.compressor writer.fields.length chunks).length := by
    rw [laidOut.position, laidOut.content, List.length_append]
  obtain ⟨contentLength, rowCount, total⟩ := footer_counts writer chunks laidOut rows small
  have stripes : writer.footer.stripes = writer.stripes.reverse := rfl
  have columns : writer.footer.types.columns.length = writer.fields.length :=
    TypeTree.length_columns_of_fields writer.fields
  rw [Footer.valid_iff_checked]
  refine ⟨?_, ?_, total.trans rowCount.symm⟩
  · exact (TypeTree.valid_iff_numbered _).mpr (TypeTree.numbered_of_fields writer.fields nodes)
  · rw [columns, contentLength, stripes, laidOut.stripes]
    exact stripes_ordered _ _ _ _ chunks (TypeTree.fields_small writer.fields nodes) (by omega) small

def ending (writer : Writer) : Bytes :=
  writer.footer.encode writer.options.compressor ++
    (Container.postscriptOf (writer.footer.encode writer.options.compressor)
      writer.options.compressor.kind).trailer

theorem length_ending (writer : Writer) :
    writer.ending.length =
      (writer.footer.encode writer.options.compressor).length + (Postscript.size + 1) := by
  rw [ending, Postscript.trailer, List.length_append, List.length_append, Postscript.length_to_bytes]
  rfl

theorem counted (writer : Writer) (chunks : List (List Row)) (laidOut : LaidOut writer chunks [])
    (filled : writer.fields ≠ []) (small : writer.content.length < UInt64.size)
    (encoded : writer.options.compressor.kind = .zstd → Counted writer.fields.length chunks) :
    Counted writer.fields.length chunks := by
  cases kind : writer.options.compressor.kind with
  | stored =>
    rw [laidOut.content, List.length_append] at small
    exact counted_of_stored _ kind _ (List.length_pos_iff.mpr filled) chunks (by omega)
  | zstd => exact encoded kind

-- Of what is stored as it is, the file holds all.
theorem measured (writer : Writer) (chunks : List (List Row)) (laidOut : LaidOut writer chunks [])
    (filled : writer.fields ≠ []) (small : (writer.content ++ writer.ending).length < UInt64.size)
    (encoded : writer.options.compressor.kind = .zstd →
      Measured writer.fields writer.options chunks) :
    Measured writer.fields writer.options chunks := by
  rw [List.length_append, length_ending, laid_out_footer writer chunks laidOut] at small
  refine ⟨counted writer chunks laidOut filled (by omega) fun kind => (encoded kind).toCounted, ?_⟩
  exact writer.options.compressor.raw_small _ (by rw [← Footer.encode]; omega)
    fun kind => (encoded kind).footer

theorem finish_extends (writer : Writer) : Extends writer writer.finish writer.ending :=
  extends_trans (write_extends writer _) (write_extends _ _)

theorem close_length (files : FileSystem) (writer : Writer) :
    (writer.close files).1 = writer.flush.position + writer.flush.ending.length :=
  (finish_extends writer.flush).position

theorem close_holds (files : FileSystem) (writer : Writer) (cutting : Cutting)
    (going : Going files writer cutting.chunks cutting.waiting) :
    LaidOut writer.flush cutting.flush.chunks [] ∧
      writer.flush.fields = writer.fields ∧ writer.flush.options = writer.options ∧
      ((writer.close files).2.contents.getD writer.file .empty).toBytes =
        writer.flush.content ++ writer.flush.ending ∧
      (writer.close files).1 = (writer.flush.content ++ writer.flush.ending).length ∧
      (writer.close files).2.root = files.root ∧ (writer.close files).2.home = files.home := by
  obtain ⟨bytes, flushed, laidOut⟩ := flush_extends writer cutting going.laidOut
  have finished := finish_extends writer.flush
  have whole := extends_trans flushed finished
  have saved := save_holds files _ (extends_settled going.settled whole)
  rw [whole.file, finished.content] at saved
  rw [cutting.waiting_flush] at laidOut
  refine ⟨laidOut, flushed.fields, flushed.options, saved, ?_, ?_, ?_⟩
  · rw [close_length, laidOut.position, List.length_append]
  · exact files.write_at_root _ _ _
  · exact files.write_at_home _ _ _

end Writer

end Columnar
