import Columnar.Proofs.Cutting
import Columnar.Proofs.FileSystem.Contents

set_option autoImplicit false

namespace Columnar

namespace Layout

def columnsOf (width : Nat) (rows : List Row) : List (List Value) :=
  (List.range width).map fun column => rows.map fun row => (row.get? column).getD .null

section

variable (compressor : Compressor)

def streamBytes (values : List Value) : Bytes := compressor.compress (Value.encodeStream values)

def stripeBytes (columns : List (List Value)) : Bytes := columns.flatMap (streamBytes compressor)

def streamsFrom : Nat → Nat → List (List Value) → List StreamInfo
  | _, _, [] => []
  | column, offset, values :: rest =>
    ⟨UInt32.ofNat column, UInt64.ofNat offset, UInt64.ofNat (streamBytes compressor values).length,
      UInt64.ofNat (Value.encodeStream values).length⟩ ::
      streamsFrom (column + 1) (offset + (streamBytes compressor values).length) rest

def stripeAt (width start : Nat) (rows : List Row) : StripeInfo :=
  ⟨UInt64.ofNat start, UInt64.ofNat (stripeBytes compressor (columnsOf width rows)).length,
    UInt64.ofNat rows.length, streamsFrom compressor 0 0 (columnsOf width rows)⟩

def chunkBytes (width : Nat) (rows : List Row) : Bytes :=
  stripeBytes compressor (columnsOf width rows)

def stripesFrom (width : Nat) : Nat → List (List Row) → List StripeInfo
  | _, [] => []
  | start, rows :: rest =>
    stripeAt compressor width start rows ::
      stripesFrom width (start + (chunkBytes compressor width rows).length) rest

def bodyBytes (width : Nat) (chunks : List (List Row)) : Bytes :=
  chunks.flatMap (chunkBytes compressor width)

def footerOf (fields : List Field) (options : WriterOptions) (chunks : List (List Row)) : Footer where
  contentLength := UInt64.ofNat
    (magic.length + (bodyBytes options.compressor fields.length chunks).length)
  types := .ofFields fields
  stripes := stripesFrom options.compressor fields.length magic.length chunks
  rowCount := UInt64.ofNat chunks.flatten.length
  writerInfo := ⟨options.created, Writer.name⟩

-- Whether 64-bit words tell how long each column is before it is compressed.
def Sized (columns : List (List Value)) : Prop :=
  ∀ values ∈ columns, (Value.encodeStream values).length < UInt64.size

structure Counted (width : Nat) (chunks : List (List Row)) : Prop where
  rows : chunks.flatten.length < UInt64.size
  columns : ∀ rows ∈ chunks, Sized (columnsOf width rows)

-- The same with the footer. Memory holds no longer byte strings.
structure Measured (fields : List Field) (options : WriterOptions) (chunks : List (List Row)) : Prop
    extends Counted fields.length chunks where
  footer : (footerOf fields options chunks).toItem.encode.length < UInt64.size

theorem counted_cons {width : Nat} {rows : List Row} {rest : List (List Row)}
    (counted : Counted width (rows :: rest)) : Sized (columnsOf width rows) ∧ Counted width rest := by
  have count := counted.rows
  rw [List.flatten_cons, List.length_append] at count
  exact ⟨counted.columns rows (.head _), by omega, fun others member =>
    counted.columns others (.tail _ member)⟩

theorem counted_append {width : Nat} {first second : List (List Row)}
    (counted : Counted width (first ++ second)) : Counted width first ∧ Counted width second := by
  have count := counted.rows
  rw [List.flatten_append, List.length_append] at count
  refine ⟨⟨by omega, fun rows member => ?_⟩, ⟨by omega, fun rows member => ?_⟩⟩
  · exact counted.columns rows (List.mem_append.mpr (.inl member))
  · exact counted.columns rows (List.mem_append.mpr (.inr member))

theorem stripes_from_append (width start : Nat) (first second : List (List Row)) :
    stripesFrom compressor width start (first ++ second) =
      stripesFrom compressor width start first ++
        stripesFrom compressor width (start + (bodyBytes compressor width first).length) second := by
  induction first generalizing start with
  | nil => simp [stripesFrom, bodyBytes]
  | cons rows rest ih =>
    simp only [List.cons_append, stripesFrom, ih, bodyBytes, List.flatMap_cons, List.length_append]
    rw [Nat.add_assoc start]

end

theorem length_columns_of (width : Nat) (rows : List Row) : (columnsOf width rows).length = width := by
  simp [columnsOf]

theorem columns_of_nothing (width : Nat) : columnsOf width [] = List.replicate width [] := by
  simp [columnsOf, List.map_const']

-- A row is put in front of the columns that wait, which hold the latest first.
theorem gather_row (width : Nat) (rows : List Row) (row : Row) (fits : row.width = width) :
    List.zipWith List.cons row.values ((columnsOf width rows).map List.reverse) =
      (columnsOf width (rows ++ [row])).map List.reverse := by
  apply List.ext_getElem?
  intro column
  simp only [columnsOf, List.getElem?_zipWith, List.getElem?_map]
  by_cases inside : column < width
  · have within : column < row.values.length := by
      rw [Row.width] at fits
      omega
    have cell := List.getElem?_eq_getElem within
    have place : (List.range width)[column]? = some column := List.getElem?_range inside
    simp [cell, place, Row.get?]
  · have outside : (List.range width)[column]? = none := by
      simp only [List.getElem?_eq_none_iff, List.length_range]
      omega
    simp only [outside, Option.map_none]
    cases row.values[column]? <;> rfl

end Layout

namespace Writer

open Layout

structure LaidOut (writer : Writer) (chunks : List (List Row)) (waiting : List Row) : Prop where
  content : writer.content =
    magic ++ bodyBytes writer.options.compressor writer.fields.length chunks
  position : writer.position = writer.content.length
  stripes : writer.stripes.reverse =
    stripesFrom writer.options.compressor writer.fields.length magic.length chunks
  pending : writer.pending = (columnsOf writer.fields.length waiting).map List.reverse
  counted : writer.pendingRows = waiting.length
  total : writer.rowCount = chunks.flatten.length
  fit : ∀ row ∈ chunks.flatten ++ waiting, fault? writer.fields row = none

structure Extends (before after : Writer) (bytes : Bytes) : Prop where
  file : after.file = before.file
  fields : after.fields = before.fields
  options : after.options = before.options
  settled : after.settled = before.settled
  content : after.content = before.content ++ bytes
  position : after.position = before.position + bytes.length
  held : after.held ≤ before.held + bytes.length

theorem extends_refl (writer : Writer) : Extends writer writer [] :=
  ⟨rfl, rfl, rfl, rfl, by simp, by simp, by simp⟩

theorem extends_trans {first second third : Writer} {bytes more : Bytes}
    (early : Extends first second bytes) (late : Extends second third more) :
    Extends first third (bytes ++ more) := by
  refine ⟨late.file.trans early.file, late.fields.trans early.fields,
    late.options.trans early.options, late.settled.trans early.settled, ?_, ?_, ?_⟩
  · rw [late.content, early.content, List.append_assoc]
  · rw [late.position, early.position, List.length_append, Nat.add_assoc]
  · have first := early.held
    have second := late.held
    rw [List.length_append]
    omega

theorem write_extends (writer : Writer) (bytes : Bytes) :
    Extends writer (writer.write bytes) bytes := by
  refine ⟨rfl, rfl, rfl, rfl, by simp [content, write], rfl, ?_⟩
  simp only [write, heldAfter]
  split
  · omega
  · split <;> omega

theorem write_streams_extends (start column : Nat) (pending : List (List Value)) (writer : Writer)
    (behind : start ≤ writer.position) :
    Extends writer (writeStreams start column pending writer).1
        (stripeBytes writer.options.compressor (pending.map List.reverse)) ∧
      (writeStreams start column pending writer).2 =
        streamsFrom writer.options.compressor column (writer.position - start)
          (pending.map List.reverse) := by
  induction pending generalizing column writer with
  | nil => exact ⟨extends_refl writer, rfl⟩
  | cons values rest ih =>
    have first := write_extends writer
      (streamBytes writer.options.compressor values.reverse)
    obtain ⟨others, streams⟩ := ih (column + 1) (writer.writeStream start column values).1 (by
      simp only [writeStream, write]
      omega)
    refine ⟨extends_trans first others, ?_⟩
    simp only [writeStreams, streams, List.map_cons, streamsFrom]
    simp only [writeStream, write, streamBytes]
    rw [Nat.sub_add_comm behind]

theorem flush_extends (writer : Writer) (cutting : Cutting)
    (laidOut : LaidOut writer cutting.chunks cutting.waiting) :
    ∃ bytes, Extends writer writer.flush bytes ∧
      LaidOut writer.flush cutting.flush.chunks cutting.flush.waiting := by
  by_cases nothing : writer.pendingRows = 0
  · have nobody : cutting.waiting = [] := by
      rw [← List.length_eq_zero_iff, ← laidOut.counted, nothing]
    rw [flush, if_pos nothing, Cutting.flush_of_nothing cutting nobody]
    exact ⟨[], extends_refl writer, laidOut⟩
  · have somebody : cutting.waiting ≠ [] := by
      rw [← List.length_pos_iff, ← laidOut.counted]
      omega
    obtain ⟨chunks, waiting⟩ := cutting
    simp only at laidOut somebody
    rw [Cutting.flush_of_waiting _ somebody]
    obtain ⟨extended, streams⟩ := write_streams_extends writer.position 0 writer.pending writer
      (Nat.le_refl _)
    have columns : writer.pending.map List.reverse = columnsOf writer.fields.length waiting := by
      have twice : (List.reverse ∘ List.reverse : List Value → List Value) = id :=
        funext fun values => List.reverse_reverse values
      rw [laidOut.pending, List.map_map, twice, List.map_id]
    rw [columns] at extended streams
    rw [Nat.sub_self] at streams
    have flushed : writer.flush =
        { (writeStreams writer.position 0 writer.pending writer).1 with
          pending := writer.pending.map fun _ => []
          pendingRows := 0
          stripes := stripeAt writer.options.compressor writer.fields.length
            writer.position waiting :: writer.stripes
          rowCount := writer.rowCount + writer.pendingRows } := by
      rw [flush, if_neg nothing]
      simp only [stripeAt, extended.position, streams, laidOut.counted, Nat.add_sub_cancel_left]
    have onward : Extends writer writer.flush
        (chunkBytes writer.options.compressor writer.fields.length waiting) := by
      rw [flushed]
      exact ⟨extended.file, extended.fields, extended.options, extended.settled, extended.content,
        extended.position, extended.held⟩
    refine ⟨_, onward, ?_⟩
    have place : writer.position = magic.length +
        (bodyBytes writer.options.compressor writer.fields.length
          chunks).length := by
      rw [laidOut.position, laidOut.content, List.length_append]
    refine ⟨?_, ?_, ?_, ?_, by rw [flushed]; rfl, ?_, ?_⟩
    · rw [onward.content, onward.options, onward.fields, laidOut.content]
      simp only [bodyBytes, List.flatMap_append, List.flatMap_cons, List.flatMap_nil, List.append_nil,
        List.append_assoc]
    · rw [onward.position, onward.content, List.length_append, laidOut.position]
    · rw [onward.options, onward.fields, stripes_from_append, ← laidOut.stripes, ← place, flushed]
      simp only [List.reverse_cons, stripesFrom]
    · have emptied : writer.flush.pending = writer.pending.map fun _ => [] := by rw [flushed]
      rw [emptied, onward.fields, columns_of_nothing, List.map_const', laidOut.pending, List.length_map,
        length_columns_of, List.map_replicate, List.reverse_nil]
    · rw [flushed]
      simp only [laidOut.total, laidOut.counted, List.flatten_append, List.length_append,
        List.flatten_cons, List.flatten_nil, List.append_nil]
    · rw [onward.fields]
      simpa using laidOut.fit

theorem fault_none_width (fields : List Field) (row : Row) (fits : fault? fields row = none) :
    row.width = fields.length ∧ misfit? fields row.values = none := by
  rw [fault?] at fits
  by_cases wrong : row.width ≠ fields.length
  · rw [if_pos wrong] at fits
    cases fits
  · rw [if_neg wrong] at fits
    exact ⟨Decidable.not_not.mp wrong, fits⟩

def gather (writer : Writer) (row : Row) : Writer :=
  { writer with
    pending := List.zipWith List.cons row.values writer.pending
    pendingRows := writer.pendingRows + 1 }

theorem add_of_fits (writer : Writer) (row : Row) (fits : fault? writer.fields row = none) :
    writer.add row =
      if max writer.options.stripeRows 1 ≤ (writer.gather row).pendingRows then
        .ok (writer.gather row).flush
      else .ok (writer.gather row) := by
  rw [add, fits]
  rfl

theorem gather_extends (writer : Writer) (row : Row) : Extends writer (writer.gather row) [] :=
  ⟨rfl, rfl, rfl, rfl, (List.append_nil _).symm, rfl, Nat.le_refl _⟩

theorem gather_laid_out (writer : Writer) (chunks : List (List Row)) (waiting : List Row)
    (laidOut : LaidOut writer chunks waiting) (row : Row) (fits : fault? writer.fields row = none) :
    LaidOut (writer.gather row) chunks (waiting ++ [row]) := by
  obtain ⟨width, _⟩ := fault_none_width writer.fields row fits
  refine ⟨laidOut.content, laidOut.position, laidOut.stripes, ?_, ?_, laidOut.total, ?_⟩
  · simp only [gather, laidOut.pending]
    exact gather_row writer.fields.length waiting row width
  · simp only [gather, laidOut.counted, List.length_append, List.length_singleton]
  · intro other member
    rw [← List.append_assoc, List.mem_append] at member
    cases member with
    | inl earlier => exact laidOut.fit other earlier
    | inr last =>
      rw [List.mem_singleton.mp last]
      exact fits

theorem add_is_ok_iff (writer : Writer) (row : Row) :
    (writer.add row).isOk = true ↔ fault? writer.fields row = none := by
  cases fits : fault? writer.fields row with
  | some fault => simp [add, fits, Except.isOk, Except.toBool]
  | none =>
    rw [add_of_fits writer row fits]
    split <;> simp [Except.isOk, Except.toBool]

def limit (writer : Writer) : Nat := max writer.options.stripeRows 1

theorem add_extends (writer after : Writer) (cutting : Cutting)
    (laidOut : LaidOut writer cutting.chunks cutting.waiting) (row : Row)
    (fits : fault? writer.fields row = none) (added : writer.add row = .ok after) :
    ∃ bytes, Extends writer after bytes ∧
      LaidOut after (cutting.add writer.limit row).chunks (cutting.add writer.limit row).waiting := by
  have gathered := gather_laid_out writer cutting.chunks cutting.waiting laidOut row fits
  have onward := gather_extends writer row
  have counted : (writer.gather row).pendingRows = (cutting.gather row).waiting.length :=
    gathered.counted
  rw [add_of_fits writer row fits, counted] at added
  rw [Cutting.add, limit]
  by_cases full : max writer.options.stripeRows 1 ≤ (cutting.gather row).waiting.length
  · rw [if_pos full, Except.ok.injEq] at added
    obtain ⟨bytes, flushed, flushedOut⟩ := flush_extends _ (cutting.gather row) gathered
    rw [if_pos full, ← added]
    exact ⟨_, extends_trans onward flushed, flushedOut⟩
  · rw [if_neg full, Except.ok.injEq] at added
    rw [if_neg full, ← added]
    exact ⟨[], onward, gathered⟩

-- Whether a file holds what has left the buffer of its writer.
structure Settled (files : FileSystem) (writer : Writer) : Prop where
  holds : (files.contents.getD writer.file .empty).toBytes = writer.content.take writer.settled
  left : writer.settled + writer.held ≤ writer.content.length

theorem extends_settled {files : FileSystem} {before after : Writer} {bytes : Bytes}
    (settled : Settled files before) (onward : Extends before after bytes) : Settled files after := by
  have held := onward.held
  have left := settled.left
  refine ⟨?_, ?_⟩
  · rw [onward.file, onward.settled, onward.content, settled.holds, List.take_append_of_le_length]
    omega
  · rw [onward.settled, onward.content, List.length_append]
    omega

theorem settle_settled (files : FileSystem) (writer : Writer) (settled : Settled files writer)
    (position : writer.position = writer.content.length) :
    Settled (writer.settle files).2 (writer.settle files).1 := by
  have left := settled.left
  have length : (writer.content.take writer.settled).length = writer.settled := by
    rw [List.length_take]
    omega
  have written := files.write_at_end writer.file _
    ((writer.content.take (writer.position - writer.held)).drop writer.settled) settled.holds
  rw [length] at written
  refine ⟨?_, ?_⟩
  · have shorter : (writer.content.take (writer.position - writer.held)).take writer.settled =
        writer.content.take writer.settled := by
      rw [List.take_take, Nat.min_eq_left]
      omega
    simp only [settle]
    rw [written, ← shorter, List.take_append_drop]
    rfl
  · have same : (writer.settle files).1.content = writer.content := rfl
    rw [same]
    simp only [settle]
    omega

theorem save_holds (files : FileSystem) (writer : Writer) (settled : Settled files writer) :
    ((writer.save files).contents.getD writer.file .empty).toBytes = writer.content := by
  have left := settled.left
  have length : (writer.content.take writer.settled).length = writer.settled := by
    rw [List.length_take]
    omega
  have written := files.write_at_end writer.file _ (writer.content.drop writer.settled) settled.holds
  rw [length] at written
  rw [save, written, List.take_append_drop]

structure Going (files : FileSystem) (writer : Writer) (chunks : List (List Row)) (waiting : List Row) :
    Prop where
  laidOut : LaidOut writer chunks waiting
  settled : Settled files writer

theorem settle_going (files : FileSystem) (writer : Writer) (chunks : List (List Row))
    (waiting : List Row) (laidOut : LaidOut writer chunks waiting) (settled : Settled files writer) :
    Going (writer.settle files).2 (writer.settle files).1 chunks waiting :=
  ⟨⟨laidOut.content, laidOut.position, laidOut.stripes, laidOut.pending, laidOut.counted, laidOut.total,
      laidOut.fit⟩,
    settle_settled files writer settled laidOut.position⟩

structure Onward (files after : FileSystem) (writer later : Writer) : Prop where
  file : later.file = writer.file
  fields : later.fields = writer.fields
  options : later.options = writer.options
  root : after.root = files.root
  home : after.home = files.home

theorem onward_refl (files : FileSystem) (writer : Writer) : Onward files files writer writer :=
  ⟨rfl, rfl, rfl, rfl, rfl⟩

theorem onward_trans {files middle last : FileSystem} {writer between later : Writer}
    (early : Onward files middle writer between) (late : Onward middle last between later) :
    Onward files last writer later :=
  ⟨late.file.trans early.file, late.fields.trans early.fields, late.options.trans early.options,
    late.root.trans early.root, late.home.trans early.home⟩

theorem settle_onward (files : FileSystem) (writer later : Writer) (bytes : Bytes)
    (onward : Extends writer later bytes) :
    Onward files (later.settle files).2 writer (later.settle files).1 :=
  ⟨onward.file, onward.fields, onward.options, files.write_at_root _ _ _, files.write_at_home _ _ _⟩

def taken (writer : Writer) : WriterCall → List Row
  | .flush => []
  | .add row => if (writer.add row).isOk then [row] else []

theorem perform_going (files : FileSystem) (writer : Writer) (cutting : Cutting)
    (going : Going files writer cutting.chunks cutting.waiting) (call : WriterCall) :
    Going (writer.perform files call).2 (writer.perform files call).1
        (cutting.perform writer.fields writer.limit call).chunks
        (cutting.perform writer.fields writer.limit call).waiting ∧
      Onward files (writer.perform files call).2 writer (writer.perform files call).1 ∧
      (cutting.perform writer.fields writer.limit call).rows = cutting.rows ++ writer.taken call := by
  cases call with
  | flush =>
    obtain ⟨bytes, onward, laidOut⟩ := flush_extends writer cutting going.laidOut
    refine ⟨?_, settle_onward files writer _ bytes onward, ?_⟩
    · exact settle_going files _ _ _ laidOut (extends_settled going.settled onward)
    · rw [taken, List.append_nil]
      exact cutting.rows_flush
  | add row =>
    have accepts := add_is_ok_iff writer row
    cases fits : fault? writer.fields row with
    | some fault =>
      have refused : writer.add row = .error (.schema fault) := by rw [add, fits]
      simp only [perform, Cutting.perform, fits, refused, taken, Except.isOk, Except.toBool]
      exact ⟨going, onward_refl files writer, by simp⟩
    | none =>
      cases added : writer.add row with
      | error failure => simp [fits, added, Except.isOk, Except.toBool] at accepts
      | ok after =>
        obtain ⟨bytes, onward, laidOut⟩ :=
          add_extends writer after cutting going.laidOut row fits added
        simp only [perform, Cutting.perform, fits, added, taken, Except.isOk, Except.toBool, if_true]
        refine ⟨?_, settle_onward files writer after bytes onward, Cutting.rows_add _ cutting row⟩
        exact settle_going files after _ _ laidOut (extends_settled going.settled onward)

theorem run_cons (files : FileSystem) (writer : Writer) (call : WriterCall) (rest : List WriterCall) :
    writer.run files (call :: rest) =
      (writer.taken call ++ (run (writer.perform files call).2 (writer.perform files call).1 rest).1,
        (run (writer.perform files call).2 (writer.perform files call).1 rest).2) := by
  cases call with
  | flush => rfl
  | add row =>
    simp only [run, taken]
    split <;> rfl

-- The induction is on the calls: what one leaves, the next goes on from.
theorem run_going (files : FileSystem) (writer : Writer) (cutting : Cutting)
    (going : Going files writer cutting.chunks cutting.waiting) (calls : List WriterCall) :
    Going (writer.run files calls).2.2 (writer.run files calls).2.1
        (cutting.run writer.fields writer.limit calls).chunks
        (cutting.run writer.fields writer.limit calls).waiting ∧
      Onward files (writer.run files calls).2.2 writer (writer.run files calls).2.1 ∧
      (cutting.run writer.fields writer.limit calls).rows =
        cutting.rows ++ (writer.run files calls).1 := by
  induction calls generalizing files writer cutting with
  | nil => exact ⟨going, onward_refl files writer, by simp [run, Cutting.run]⟩
  | cons call rest ih =>
    obtain ⟨once, first, rows⟩ := perform_going files writer cutting going call
    obtain ⟨done, others, all⟩ := ih _ _ _ once
    have limits : (writer.perform files call).1.limit = writer.limit := by
      rw [limit, limit, first.options]
    rw [first.fields, limits] at done all
    rw [run_cons, Cutting.run]
    refine ⟨done, onward_trans first others, ?_⟩
    rw [all, rows, List.append_assoc]

end Writer

end Columnar
