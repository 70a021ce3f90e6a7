import Columnar.Proofs.RoundTrip
import Columnar.Proofs.StreamBytes

set_option autoImplicit false

namespace Columnar

def Tiles : Nat → Nat → List (Nat × Nat) → Prop
  | start, stop, [] => start = stop
  | start, stop, (place, length) :: rest => place = start ∧ Tiles (start + length) stop rest

def StreamInfo.piece (stream : StreamInfo) : Nat × Nat := (stream.offset.toNat, stream.length.toNat)

def StripeInfo.piece (stripe : StripeInfo) : Nat × Nat := (stripe.offset.toNat, stripe.length.toNat)

structure StreamInfo.Stores (content : Content) (compressor : Compressor)
    (stripe : StripeInfo) (stream : StreamInfo) (values : List Value) : Prop where
  bytes : stream.bytesIn content stripe = compressor.compress (Value.encodeStream values)
  raw : stream.rawLength.toNat = (Value.encodeStream values).length

-- Whether a stripe holds some rows, with a stream for each column. Columns are numbered in 32 bits.
structure StripeInfo.Stores (content : Content) (compressor : Compressor) (width : Nat)
    (stripe : StripeInfo) (rows : List Row) : Prop where
  counted : stripe.rows.toNat = rows.length
  columns : width ≤ UInt32.size →
    stripe.streams.map (fun stream => stream.column.toNat) = List.range width
  tiled : Tiles 0 stripe.length.toNat (stripe.streams.map StreamInfo.piece)
  streams : List.Forall₂ (StreamInfo.Stores content compressor stripe) stripe.streams
    (Layout.columnsOf width rows)

namespace Layout

section

variable (compressor : Compressor)

theorem streams_numbered (column offset : Nat) (columns : List (List Value))
    (narrow : column + columns.length ≤ UInt32.size) :
    (streamsFrom compressor column offset columns).map (fun stream => stream.column.toNat) =
      List.range' column columns.length := by
  induction columns generalizing column offset with
  | nil => rfl
  | cons values rest ih =>
    rw [List.length_cons] at narrow
    have word : (UInt32.ofNat column).toNat = column := UInt32.toNat_ofNat_of_lt' (by omega)
    rw [streamsFrom, List.map_cons, List.length_cons, List.range'_succ, word, ih _ _ (by omega)]

theorem streams_tile (column offset : Nat) (columns : List (List Value))
    (small : offset + (stripeBytes compressor columns).length < UInt64.size) :
    Tiles offset (offset + (stripeBytes compressor columns).length)
      ((streamsFrom compressor column offset columns).map StreamInfo.piece) := by
  induction columns generalizing column offset with
  | nil => rfl
  | cons values rest ih =>
    simp only [stripeBytes, List.flatMap_cons, List.length_append] at small
    have others := ih (column + 1) (offset + (streamBytes compressor values).length)
      (by rw [stripeBytes]; omega)
    have length : (UInt64.ofNat (streamBytes compressor values).length).toNat =
        (streamBytes compressor values).length := UInt64.toNat_ofNat_of_lt' (by omega)
    refine ⟨UInt64.toNat_ofNat_of_lt' (by omega), ?_⟩
    simp only [length, stripeBytes, List.flatMap_cons, List.length_append]
    rw [← Nat.add_assoc]
    exact others

theorem stripes_tile (width start : Nat) (chunks : List (List Row))
    (small : start + (bodyBytes compressor width chunks).length < UInt64.size) :
    Tiles start (start + (bodyBytes compressor width chunks).length)
      ((stripesFrom compressor width start chunks).map StripeInfo.piece) := by
  induction chunks generalizing start with
  | nil => rfl
  | cons rows rest ih =>
    simp only [bodyBytes, List.flatMap_cons, List.length_append] at small
    have others := ih (start + (chunkBytes compressor width rows).length)
      (by rw [bodyBytes]; omega)
    have length : (UInt64.ofNat (chunkBytes compressor width rows).length).toNat =
        (chunkBytes compressor width rows).length := UInt64.toNat_ofNat_of_lt' (by omega)
    refine ⟨UInt64.toNat_ofNat_of_lt' (by omega), ?_⟩
    simp only [bodyBytes, List.flatMap_cons, List.length_append]
    rw [← Nat.add_assoc]
    rw [chunkBytes] at length
    simp only [stripeAt, length]
    exact others

end

section

variable {content : Content} {compressor : Compressor}

theorem streams_store (stripe : StripeInfo) (column offset : Nat) (columns : List (List Value))
    (before after : Bytes)
    (bytes : content.toBytes = before ++ (stripeBytes compressor columns ++ after))
    (small : content.length < UInt64.size) (sized : Sized columns)
    (place : stripe.offset.toNat + offset = before.length) :
    List.Forall₂ (StreamInfo.Stores content compressor stripe)
      (streamsFrom compressor column offset columns) columns := by
  induction columns generalizing column offset before with
  | nil => exact .nil
  | cons values rest ih =>
    simp only [stripeBytes, List.flatMap_cons] at bytes
    rw [List.append_assoc] at bytes
    have total := congrArg List.length bytes
    simp only [List.length_append, content.length_toBytes] at total
    have offsetWord : (UInt64.ofNat offset).toNat = offset := UInt64.toNat_ofNat_of_lt' (by omega)
    have lengthWord : (UInt64.ofNat (streamBytes compressor values).length).toNat =
        (streamBytes compressor values).length := UInt64.toNat_ofNat_of_lt' (by omega)
    have others := ih (column + 1) _ (before ++ streamBytes compressor values)
      (by rw [bytes, List.append_assoc]; rfl) (fun other member => sized other (.tail _ member))
      (by rw [List.length_append, ← place, Nat.add_assoc])
    refine .cons ⟨?_, UInt64.toNat_ofNat_of_lt' (sized values (.head _))⟩ others
    simp only [StreamInfo.bytesIn, offsetWord, lengthWord, place, bytes]
    rw [List.drop_left' rfl, List.take_left' rfl, streamBytes]

theorem stripe_stores (width : Nat) (filled : 0 < width) (rows : List Row)
    (sized : Sized (columnsOf width rows)) (before after : Bytes)
    (bytes : content.toBytes = before ++ (chunkBytes compressor width rows ++ after))
    (small : content.length < UInt64.size) :
    (stripeAt compressor width before.length rows).Stores content compressor width rows := by
  have total := congrArg List.length bytes
  simp only [List.length_append, content.length_toBytes] at total
  obtain ⟨counted, offset, _⟩ := StripeRows.stripe_words width filled rows sized before after bytes small
  have lengthWord : (stripeAt compressor width before.length rows).length.toNat =
      (chunkBytes compressor width rows).length :=
    UInt64.toNat_ofNat_of_lt' (by rw [chunkBytes] at total; omega)
  refine ⟨counted, fun words => ?_, ?_, ?_⟩
  · have numbered := streams_numbered compressor 0 0 (columnsOf width rows)
      (by rw [length_columns_of]; omega)
    rw [length_columns_of, ← List.range_eq_range'] at numbered
    exact numbered
  · have tiled := streams_tile compressor 0 0 (columnsOf width rows) (by
      rw [← chunkBytes]
      omega)
    rw [Nat.zero_add, ← chunkBytes, ← lengthWord] at tiled
    exact tiled
  · exact streams_store _ 0 0 (columnsOf width rows) before after bytes small sized
      (by rw [offset, Nat.add_zero])

theorem stripes_store (width : Nat) (filled : 0 < width) (chunks : List (List Row))
    (counted : Layout.Counted width chunks) (before after : Bytes)
    (bytes : content.toBytes = before ++ (bodyBytes compressor width chunks ++ after))
    (small : content.length < UInt64.size) :
    List.Forall₂ (StripeInfo.Stores content compressor width)
      (stripesFrom compressor width before.length chunks) chunks := by
  induction chunks generalizing before with
  | nil => exact .nil
  | cons rows rest ih =>
    simp only [bodyBytes, List.flatMap_cons] at bytes
    rw [List.append_assoc] at bytes
    obtain ⟨sized, behind⟩ := counted_cons counted
    have others := ih behind (before ++ chunkBytes compressor width rows)
      (by rw [bytes, List.append_assoc]; rfl)
    rw [List.length_append] at others
    exact .cons (stripe_stores width filled rows sized before _ bytes small) others

end

end Layout

namespace Writer

open Layout

structure EvenlyPending (width limit : Nat) (writer : Writer) : Prop where
  columns : writer.pending.length = width
  even : ∀ values ∈ writer.pending, values.length = writer.pendingRows
  short : writer.pendingRows < limit

theorem laid_out_evenly (writer : Writer) (chunks : List (List Row)) (waiting : List Row) (limit : Nat)
    (laidOut : LaidOut writer chunks waiting) (short : waiting.length < limit) :
    EvenlyPending writer.fields.length limit writer := by
  refine ⟨?_, fun values member => ?_, by rw [laidOut.counted]; exact short⟩
  · rw [laidOut.pending, List.length_map, length_columns_of]
  · rw [laidOut.pending] at member
    obtain ⟨column, listed, same⟩ := List.mem_map.mp member
    obtain ⟨place, _, cells⟩ := List.mem_map.mp listed
    rw [← same, ← cells, List.length_reverse, List.length_map, laidOut.counted]

theorem run_evenly_pending (files made : FileSystem) (path : Path) (fields : List Field)
    (options : WriterOptions) (writer : Writer)
    (creates : create files path fields options = .ok (writer, made)) (calls : List WriterCall) :
    EvenlyPending fields.length (max options.stripeRows 1) (writer.run made calls).2.1 := by
  obtain ⟨_, sameFields, _, going, _, _⟩ := run_lays_out files made (writer.run made calls).2.2 path
    fields options writer (writer.run made calls).2.1 creates calls (writer.run made calls).1 rfl
  have short := Cutting.waiting_run fields (max options.stripeRows 1) (by omega) .nothing
    (show 0 < max options.stripeRows 1 by omega) calls
  have even := laid_out_evenly _ _ _ _ going.laidOut short
  rwa [sameFields] at even

theorem laid_out_stripes (content : Content) (last : Writer) (chunks : List (List Row))
    (laidOut : LaidOut last chunks []) (filled : last.fields ≠ [])
    (counted : Layout.Counted last.fields.length chunks)
    (bytes : content.toBytes = last.content ++ last.ending) (small : content.length < UInt64.size) :
    Tiles magic.length last.content.length (last.footer.stripes.map StripeInfo.piece) ∧
      List.Forall₂
        (StripeInfo.Stores content last.options.compressor last.fields.length)
        last.footer.stripes chunks := by
  have stripes : last.footer.stripes = last.stripes.reverse := rfl
  have whole := congrArg List.length bytes
  rw [content.length_toBytes, List.length_append] at whole
  have body := laidOut.content
  have placed := congrArg List.length body
  rw [List.length_append] at placed
  rw [stripes, laidOut.stripes]
  constructor
  · rw [placed]
    exact stripes_tile _ _ _ _ (by omega)
  · rw [body, List.append_assoc] at bytes
    exact stripes_store _ (List.length_pos_iff.mpr filled) chunks counted magic last.ending bytes small

end Writer

theorem Segmented.all_filled {limit : Nat} {segments : List (List Row)}
    {groups : List (List (List Row))} (segmented : List.Forall₂ (Segmented limit) segments groups) :
    ∀ chunk ∈ groups.flatten, 0 < chunk.length ∧ chunk.length ≤ limit := by
  induction segmented with
  | nil => simp
  | cons first others ih =>
    intro chunk member
    rw [List.flatten_cons, List.mem_append] at member
    cases member with
    | inl here => exact first.filled chunk here
    | inr later => exact ih chunk later

theorem StripeInfo.rows_within {content : Content} {compressor : Compressor}
    {width limit : Nat} {stripes : List StripeInfo} {chunks : List (List Row)}
    (stored : List.Forall₂ (StripeInfo.Stores content compressor width) stripes chunks)
    (filled : ∀ chunk ∈ chunks, 0 < chunk.length ∧ chunk.length ≤ limit) :
    ∀ stripe ∈ stripes, 1 ≤ stripe.rows.toNat ∧ stripe.rows.toNat ≤ limit := by
  induction stored with
  | nil => simp
  | cons first others ih =>
    intro stripe member
    cases member with
    | head =>
      rw [first.counted]
      exact filled _ (by simp)
    | tail _ later => exact ih (fun chunk member => filled chunk (by simp [member])) stripe later

theorem written_file_has_no_gaps (files made left closed : FileSystem) (path : Path)
    (fields : List Field) (options : WriterOptions) (writer last : Writer)
    (creates : Writer.create files path fields options = .ok (writer, made)) (calls : List WriterCall)
    (rows : List Row) (ran : writer.run made calls = (rows, last, left)) (length : Nat)
    (closes : last.close left = (length, closed)) (small : length < UInt64.size)
    (encoded : options.compressor.kind = .zstd →
      Layout.Counted fields.length (Cutting.chunksOf fields (max options.stripeRows 1) calls)) :
    let limit := max options.stripeRows 1
    let footer := last.flush.footer
    (∀ early, early <+: calls →
      (writer.run made early).2.1.EvenlyPending fields.length limit) ∧
    ∃ content body stored trailer groups,
      closed.openFile path = .ok (.regular content) ∧ content.length = length ∧
      content.toBytes = body ++ stored ++ trailer ∧ magic <+: body ∧
      footer.contentLength.toNat = body.length ∧
      stored = footer.encode options.compressor ∧
      trailer = (Container.postscriptOf stored options.compressor.kind).trailer ∧ trailer.length = 47 ∧
      Tiles 3 footer.contentLength.toNat (footer.stripes.map StripeInfo.piece) ∧
      List.Forall₂ (Segmented limit) (Cutting.segments fields [] calls) groups ∧
      List.Forall₂
        (StripeInfo.Stores content options.compressor fields.length)
        footer.stripes groups.flatten ∧
      (∀ stripe ∈ footer.stripes, 1 ≤ stripe.rows.toNat ∧ stripe.rows.toNat ≤ limit) ∧
      (Cutting.segments fields [] calls).flatten = rows ∧
      footer.rowCount.toNat = StripeInfo.totalRows footer.stripes ∧
      footer.rowCount.toNat = rows.length ∧
      ((TypeTree.ofFields fields).nodes.length ≤ UInt32.size → footer.Valid) := by
  intro limit footer
  have positive : 0 < limit := Nat.lt_of_lt_of_le Nat.one_pos (Nat.le_max_right _ _)
  obtain ⟨filled, _, _, _, taken, _⟩ := Writer.run_lays_out files made left path fields options writer
    last creates calls rows ran
  obtain ⟨content, located, total, bytes, laidOut, sameFields, sameOptions⟩ := Writer.close_lays_out
    files made left closed path fields options writer last creates calls rows ran length closes
  obtain ⟨groups, cut, segmented⟩ := Cutting.run_segmented fields limit positive calls .nothing [] [] []
    rfl (by simp) rfl positive
  rw [List.nil_append, ← Cutting.chunksOf] at cut
  have segments := Cutting.rows_run fields limit calls .nothing [] [] rfl
  rw [taken, List.nil_append] at segments
  have whole : groups.flatten.flatten = rows := by rw [← cut, Cutting.flatten_chunks_of, taken]
  have long := congrArg List.length bytes
  rw [content.length_toBytes, List.length_append, ← laidOut.position] at long
  rw [← sameFields] at filled
  have counted := Writer.counted last.flush _ laidOut filled (by rw [← laidOut.position]; omega) (by
    rw [sameFields, sameOptions]
    exact encoded)
  rw [cut] at laidOut counted
  have counts := Writer.footer_counts last.flush groups.flatten laidOut counted.rows (by omega)
  rw [whole, laidOut.position] at counts
  obtain ⟨contentLength, rowCount, totalRows⟩ := counts
  obtain ⟨tiled, stored⟩ := Writer.laid_out_stripes content last.flush groups.flatten laidOut filled
    counted bytes (by omega)
  rw [← contentLength] at tiled
  rw [sameFields, sameOptions] at stored
  refine ⟨fun early _ => Writer.run_evenly_pending files made path fields options writer creates early,
    content, last.flush.content, _, _, groups, located, total, ?_, ?_, contentLength, rfl, rfl, ?_, tiled,
    segmented, stored, StripeInfo.rows_within stored (Segmented.all_filled segmented), segments.symm,
    rowCount.trans totalRows.symm, rowCount, fun nodes => ?_⟩
  · rw [bytes, Writer.ending, sameOptions, List.append_assoc]
  · rw [laidOut.content]
    exact List.prefix_append _ _
  · rw [Postscript.length_trailer]
    rfl
  · exact Writer.footer_valid last.flush groups.flatten laidOut (by rwa [sameFields]) counted.rows
      (by omega)

theorem cut_file_has_no_gaps :
    ∃ writer last left length closed groups,
      Writer.create .empty "t" Example.fields Example.options = .ok (writer, Example.made) ∧
      writer.run Example.made Example.calls = (Example.rows, last, left) ∧
      last.close left = (length, closed) ∧ length < UInt64.size ∧
      Tiles 3 last.flush.footer.contentLength.toNat (last.flush.footer.stripes.map StripeInfo.piece) ∧
      List.Forall₂ (Segmented 2) [Example.rows.take 1, Example.rows.drop 1] groups ∧
      last.flush.footer.rowCount.toNat = 3 ∧ last.flush.footer.Valid := by
  obtain ⟨writer, last, left, creates, ran, small⟩ := Example.rows_written
  have nodes : (TypeTree.ofFields Example.fields).nodes.length ≤ UInt32.size := by decide
  obtain ⟨_, content, body, stored, trailer, groups, _, _, _, _, _, _, _, _, tiled, segmented, _, _, _, _,
    rowCount, valid⟩ := written_file_has_no_gaps .empty Example.made left (last.close left).2 "t"
      Example.fields Example.options writer last creates Example.calls Example.rows ran
      (last.close left).1 rfl small nofun
  exact ⟨writer, last, left, _, _, groups, creates, ran, rfl, small, tiled, segmented, rowCount,
    valid nodes⟩

end Columnar
