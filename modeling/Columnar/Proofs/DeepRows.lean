import Columnar.Proofs.RoundTrip

set_option autoImplicit false

namespace Columnar

def Row.Shallow (row : Row) : Prop := ∀ value ∈ row.values, value.levels < Value.depthLimit

-- Whether a scan of rows delivers those of some stripes and fails at the next one, where a column
-- holds a value that nests too deeply.
def Scan.StopsAtDepth (path : Path) (rows : List Row) (scan : Scan) : Prop :=
  ∃ before chunk rest place column,
    rows = before ++ chunk ++ rest ∧
    (∀ row ∈ before, row.Shallow) ∧
    (∃ row ∈ chunk, ∃ value, row.get? column = some value ∧ Value.depthLimit ≤ value.levels) ∧
    scan = ⟨before, some (.reading path (.format (.columnDecode place column .tooDeep)))⟩

namespace Layout

theorem column_shallow_iff (rows : List Row) (column : Nat) :
    Value.levelsOfAll (rows.map fun row => (row.get? column).getD .null) < Value.depthLimit ↔
      ∀ row ∈ rows, ∀ value, row.get? column = some value → value.levels < Value.depthLimit := by
  rw [Value.levels_of_all_lt_iff _ _ (by decide), List.forall_mem_map]
  refine forall₂_congr fun row _ => ?_
  cases row.get? column with
  | none => simp [Value.levels, Value.depthLimit]
  | some value => simp

theorem columns_shallow_iff (width : Nat) (rows : List Row) (wide : ∀ row ∈ rows, row.width = width) :
    Shallow (columnsOf width rows) ↔ ∀ row ∈ rows, row.Shallow := by
  simp only [Shallow, columnsOf, List.forall_mem_map, column_shallow_iff, List.mem_range]
  constructor
  · intro shallow row member value cell
    obtain ⟨column, inside, same⟩ := List.getElem_of_mem cell
    have within : column < width := by
      have wideRow := wide row member
      rw [Row.width] at wideRow
      omega
    exact shallow column within row member value (by rw [Row.get?, List.getElem?_eq_getElem inside, same])
  · intro shallow column _ row member value cell
    exact shallow row member value (List.mem_of_getElem? cell)

theorem column_behind (width : Nat) (rows : List Row) (front : List (List Value))
    (values : List Value) (behind : List (List Value))
    (columns : columnsOf width rows = front ++ values :: behind) :
    values = rows.map fun row => (row.get? front.length).getD .null := by
  have narrow : front.length < width := by
    have count := congrArg List.length columns
    rw [length_columns_of, List.length_append, List.length_cons] at count
    omega
  have place : (columnsOf width rows)[front.length]? = some values := by
    rw [columns, List.getElem?_append_right (Nat.le_refl _), Nat.sub_self, List.getElem?_cons_zero]
  rw [columnsOf, List.getElem?_map, List.getElem?_range narrow] at place
  exact (Option.some.inj place).symm

theorem split_at_first {α : Type} (holds : α → Prop) (items : List α)
    (fails : ¬ ∀ item ∈ items, holds item) :
    ∃ front item behind, items = front ++ item :: behind ∧ (∀ other ∈ front, holds other) ∧
      ¬ holds item := by
  induction items with
  | nil => simp at fails
  | cons first rest ih =>
    by_cases here : holds first
    · have later : ¬ ∀ item ∈ rest, holds item := by simpa [here] using fails
      obtain ⟨front, item, behind, split, before, failing⟩ := ih later
      exact ⟨first :: front, item, behind, by rw [split]; rfl, by simpa [here] using before, failing⟩
    · exact ⟨[], first, rest, rfl, by simp, here⟩

end Layout

namespace StripeRows

open Layout

section

variable {content : Content} {compressor : Compressor}

-- The induction is on the columns in front, which are filled one after the other.
theorem read_streams_deep (stripe : StripeInfo) (width column offset : Nat)
    (front : List (List Value)) (values : List Value) (behind : List (List Value))
    (start : List (Option (List Value))) (before after : Bytes)
    (bytes : content.toBytes = before ++ (stripeBytes compressor (front ++ values :: behind) ++ after))
    (small : content.length < UInt64.size) (words : width ≤ UInt32.size)
    (place : stripe.offset.toNat + offset = before.length) (inside : column + front.length < width)
    (sized : Sized (front ++ values :: behind))
    (counted : ∀ other ∈ front ++ values :: behind, stripe.rows.toNat = other.length)
    (shallow : Shallow front) (deep : ¬ Value.levelsOfAll values < Value.depthLimit) :
    readStreams (.regular content) compressor.kind stripe (List.replicate width true)
        (streamsFrom compressor column offset (front ++ values :: behind)) start =
      .error (.format (.columnDecode stripe.offset.toNat (column + front.length) .tooDeep)) := by
  induction front generalizing column offset start before with
  | nil =>
    rw [List.nil_append] at bytes ⊢
    rw [read_streams_written_cons stripe width column offset values behind start before after bytes
      small words place inside (sized values (by simp)) (counted values (by simp)), if_neg deep]
    rfl
  | cons first front ih =>
    rw [List.cons_append] at bytes ⊢
    rw [List.length_cons] at inside ⊢
    rw [read_streams_written_cons stripe width column offset first _ start before after bytes small
      words place (by omega) (sized first (by simp)) (counted first (by simp)),
      if_pos (shallow first (by simp))]
    simp only [stripeBytes, List.flatMap_cons] at bytes
    rw [List.append_assoc] at bytes
    rw [ih (column + 1) (offset + (streamBytes compressor first).length) _
      (before ++ streamBytes compressor first) (by rw [bytes, List.append_assoc]; rfl)
      (by rw [List.length_append]; omega) (by omega)
      (fun other member => sized other (by rw [List.cons_append]; exact .tail _ member))
      (fun other member => counted other (by rw [List.cons_append]; exact .tail _ member))
      (fun other member => shallow other (by simp [member])), Nat.add_right_comm, Nat.add_assoc]

theorem load_deep (width : Nat) (filled : 0 < width) (words : width ≤ UInt32.size)
    (rows : List Row) (sized : Sized (columnsOf width rows)) (before after : Bytes)
    (bytes : content.toBytes = before ++ (chunkBytes compressor width rows ++ after))
    (small : content.length < UInt64.size) (front : List (List Value)) (values : List Value)
    (behind : List (List Value)) (columns : columnsOf width rows = front ++ values :: behind)
    (shallow : Shallow front) (deep : ¬ Value.levelsOfAll values < Value.depthLimit) :
    load (.regular content) compressor.kind (List.replicate width true)
        (stripeAt compressor width before.length rows) =
      .error (.format (.columnDecode before.length front.length .tooDeep)) := by
  obtain ⟨_, offset, lengths⟩ := stripe_words width filled rows sized before after bytes small
  have narrow : 0 + front.length < width := by
    have count := congrArg List.length columns
    rw [length_columns_of, List.length_append, List.length_cons] at count
    omega
  have streams : (stripeAt compressor width before.length rows).streams =
      streamsFrom compressor 0 0 (columnsOf width rows) := rfl
  rw [chunkBytes, columns] at bytes
  rw [columns] at streams lengths sized
  have reads := read_streams_deep (stripeAt compressor width before.length rows) width 0 0 front values
    behind (List.replicate width none) before after bytes small words (by rw [offset, Nat.add_zero])
    narrow sized lengths shallow deep
  rw [offset, Nat.zero_add] at reads
  rw [load, streams, List.map_replicate, reads]

theorem scan_deep (width : Nat) (filled : 0 < width) (words : width ≤ UInt32.size)
    (chunks : List (List Row)) (rows : List Row) (rest : List (List Row))
    (wide : ∀ row ∈ chunks.flatten, row.width = width)
    (counted : Layout.Counted width (chunks ++ rows :: rest)) (before after : Bytes)
    (bytes : content.toBytes =
      before ++ (bodyBytes compressor width (chunks ++ rows :: rest) ++ after))
    (small : content.length < UInt64.size)
    (shallow : ∀ chunk ∈ chunks, Shallow (columnsOf width chunk)) (front : List (List Value))
    (values : List Value) (behind : List (List Value))
    (columns : columnsOf width rows = front ++ values :: behind) (shallowFront : Shallow front)
    (deep : ¬ Value.levelsOfAll values < Value.depthLimit) :
    scan (.regular content) compressor.kind (List.replicate width true)
        (stripesFrom compressor width before.length (chunks ++ rows :: rest)) =
      ⟨chunks.flatten, some (.format (.columnDecode
        (before ++ bodyBytes compressor width chunks).length front.length .tooDeep))⟩ := by
  have parts : bodyBytes compressor width (chunks ++ rows :: rest) =
      bodyBytes compressor width chunks ++
        (chunkBytes compressor width rows ++ bodyBytes compressor width rest) := by
    simp only [bodyBytes, List.flatMap_append, List.flatMap_cons]
  have early : content.toBytes = before ++ (bodyBytes compressor width chunks ++
      (chunkBytes compressor width rows ++ (bodyBytes compressor width rest ++ after))) := by
    rw [bytes, parts]
    simp only [List.append_assoc]
  have late : content.toBytes = before ++ bodyBytes compressor width chunks ++
      (chunkBytes compressor width rows ++ (bodyBytes compressor width rest ++ after)) := by
    rw [early, List.append_assoc before]
  obtain ⟨countedEarly, countedLate⟩ := counted_append counted
  have first := (scan_written width filled words chunks wide countedEarly before _ early small).1 shallow
  have fails := load_deep width filled words rows (counted_cons countedLate).1 _ _ late small front
    values behind columns shallowFront deep
  rw [List.length_append] at fails ⊢
  rw [stripes_from_append, scan_append, first, stripesFrom, scan, fails]
  simp only [Scan.followedBy, Scan.behind, Scan.failed, List.append_nil]

end

end StripeRows

namespace Writer

open Layout

section

variable {files : FileSystem} {path : Path} {content : Content} {last : Writer}
  {chunks : List (List Row)}

theorem chunks_shallow_iff (left : Left files path content last chunks) :
    (∀ rows ∈ chunks, Shallow (columnsOf last.fields.length rows)) ↔
      ∀ row ∈ chunks.flatten, row.Shallow := by
  have wide : ∀ rows ∈ chunks, ∀ row ∈ rows, row.width = last.fields.length := fun rows member row inside =>
    left_wide left row (List.mem_flatten.mpr ⟨rows, member, inside⟩)
  simp only [List.mem_flatten, forall_exists_index, and_imp]
  constructor
  · intro shallow row rows member inside
    exact (columns_shallow_iff _ rows (wide rows member)).mp (shallow rows member) row inside
  · intro shallow rows member
    exact (columns_shallow_iff _ rows (wide rows member)).mpr fun row inside =>
      shallow row rows member inside

theorem left_drains_shallow (left : Left files path content last chunks)
    (accepted : Container.Accepted files path (last.container path content.length) content)
    (settings : Settings) (reader : RecordReader)
    (made : RecordReader.ofContainer files (last.container path content.length) settings 0
      content.length = .ok reader) (all : reader.inclusion = .all)
    (shallow : ∀ row ∈ chunks.flatten, row.Shallow) (scan : Scan) :
    Drains (RecordReader.next files) reader scan ↔ scan = ⟨chunks.flatten, none⟩ := by
  rw [left_scans left accepted settings reader made all,
    (left_shallow left).1 ((chunks_shallow_iff left).mpr shallow)]
  exact Iff.rfl

theorem left_drains_deep (left : Left files path content last chunks)
    (accepted : Container.Accepted files path (last.container path content.length) content)
    (settings : Settings) (reader : RecordReader)
    (made : RecordReader.ofContainer files (last.container path content.length) settings 0
      content.length = .ok reader) (all : reader.inclusion = .all)
    (deep : ∃ row ∈ chunks.flatten, ¬ row.Shallow) :
    ∃ scan, Scan.StopsAtDepth path chunks.flatten scan ∧
      ∀ other, Drains (RecordReader.next files) reader other ↔ other = scan := by
  obtain ⟨row, member, deepRow⟩ := deep
  have unread : ¬ ∀ rows ∈ chunks, Shallow (columnsOf last.fields.length rows) := fun shallow =>
    deepRow ((chunks_shallow_iff left).mp shallow row member)
  have scanned := left_scans left accepted settings reader made all
  have wide := left_wide left
  have bytes := left.bytes
  rw [left.laidOut.content, List.append_assoc] at bytes
  obtain ⟨before, rows, rest, split, shallow, deepRows⟩ := split_at_first _ chunks unread
  obtain ⟨front, values, behind, columns, shallowFront, deepValues⟩ := split_at_first _ _ deepRows
  subst split
  have early : ∀ row ∈ before.flatten, row.width = last.fields.length := fun row member =>
    wide row (by
      rw [List.flatten_append, List.mem_append]
      exact .inl member)
  have stops := StripeRows.scan_deep last.fields.length (List.length_pos_iff.mpr left.filled)
    (TypeTree.fields_small last.fields (Nat.le_of_lt left.nodes)) before rows rest early
    left.measured.toCounted magic last.ending bytes left.small shallow front values behind columns
    shallowFront deepValues
  have cell := deepValues
  rw [column_behind _ rows front values behind columns, column_shallow_iff] at cell
  simp only [not_forall, Nat.not_lt] at cell
  obtain ⟨deepest, inside, value, here, levels⟩ := cell
  rw [stops] at scanned
  refine ⟨_, ?_, scanned⟩
  refine ⟨before.flatten, rows, rest.flatten, _, front.length, by simp, ?_,
    ⟨deepest, inside, value, here, levels⟩, rfl⟩
  intro row member
  obtain ⟨chunk, chosen, within⟩ := List.mem_flatten.mp member
  have wideChunk : ∀ row ∈ chunk, row.width = last.fields.length := fun row inside =>
    early row (List.mem_flatten.mpr ⟨chunk, chosen, inside⟩)
  exact (columns_shallow_iff _ chunk wideChunk).mp (shallow chunk chosen) row within

end

theorem deepest_row_fits (fields : List Field) :
    fault? fields ⟨fields.map fun field => field.2.deepest⟩ = none := by
  have cells : misfit? fields (fields.map fun field => field.2.deepest) = none := by
    induction fields with
    | nil => rfl
    | cons field rest ih =>
      obtain ⟨name, type⟩ := field
      rw [List.map_cons, misfit?, if_pos type.deepest_fits]
      exact ih
  rw [fault?, Row.width, List.length_map, if_neg (by simp)]
  exact cells

theorem all_shallow_iff (fields : List Field) :
    (∀ row, fault? fields row = none → row.Shallow) ↔
      ∀ field ∈ fields, field.2.levels < Value.depthLimit := by
  constructor
  · intro shallow field member
    have levels := shallow _ (deepest_row_fits fields) field.2.deepest
      (List.mem_map.mpr ⟨field, member, rfl⟩)
    rwa [DataType.levels_of_deepest] at levels
  · intro flat row fits value cell
    obtain ⟨width, values⟩ := fault_none_width fields row fits
    obtain ⟨column, inside, same⟩ := List.getElem_of_mem cell
    have within : column < fields.length := by
      rw [Row.width] at width
      omega
    have typed := value_fits_column fields row.values values column fields[column] value
      (List.getElem?_eq_getElem within) (by rw [List.getElem?_eq_getElem inside, same])
    exact Nat.lt_of_le_of_lt (Value.levels_of_fits value fields[column].2 typed)
      (flat fields[column] (List.getElem_mem within))

end Writer

-- Rows are read back exactly as far as they can be entered; the writer takes them all the same. Its
-- schema rules deep rows out only if the types alone do.
theorem deep_rows_are_written_but_not_read (files made left closed : FileSystem) (path : Path)
    (fields : List Field) (options : WriterOptions) (writer last : Writer)
    (creates : Writer.create files path fields options = .ok (writer, made))
    (nodes : (TypeTree.ofFields fields).nodes.length < UInt32.size) (calls : List WriterCall)
    (rows : List Row) (ran : writer.run made calls = (rows, last, left)) (length : Nat)
    (closes : last.close left = (length, closed)) (small : length < UInt64.size)
    (encoded : options.compressor.kind = .zstd →
      Layout.Measured fields options (Cutting.chunksOf fields (max options.stripeRows 1) calls))
    (settings : Settings) (plain : settings.readColumns = none) :
    ((∀ row, (writer.add row).isOk = true → row.Shallow) ↔
      ∀ field ∈ fields, field.2.levels < Value.depthLimit) ∧
    ∃ reader, RecordReader.openSplit closed settings ⟨path, 0, length⟩ = .ok reader ∧
      ((∀ row ∈ rows, row.Shallow) →
        ∀ scan, Drains (RecordReader.next closed) reader scan ↔ scan = ⟨rows, none⟩) ∧
      ((∃ row ∈ rows, ¬ row.Shallow) →
        ∃ scan, Scan.StopsAtDepth path rows scan ∧
          ∀ other, Drains (RecordReader.next closed) reader other ↔ other = scan) := by
  obtain ⟨_, sameFields, _⟩ := Writer.create_going files made path fields options writer creates
  obtain ⟨content, final, chunks, leaves, _, total, flat⟩ := Writer.close_leaves files made
    closed left path fields options writer last creates nodes calls rows ran length closes small encoded
  obtain ⟨reader, split, accepted, ready, all⟩ := Writer.left_ready leaves settings plain
  rw [total] at split
  refine ⟨?_, reader, split, ?_, ?_⟩
  · simp only [Writer.add_is_ok_iff, sameFields]
    exact Writer.all_shallow_iff fields
  · rw [← flat]
    exact Writer.left_drains_shallow leaves accepted settings reader ready all
  · rw [← flat]
    exact Writer.left_drains_deep leaves accepted settings reader ready all

namespace Example

def nestedType : Nat → DataType
  | 0 => .int
  | depth + 1 => .list (nestedType depth)

-- One list more than the depth, the innermost without items.
def nestedLists : Nat → Value
  | 0 => .list []
  | depth + 1 => .list [nestedLists depth]

theorem levels_of_nested_lists (depth : Nat) : (nestedLists depth).levels = 2 * depth + 2 := by
  induction depth with
  | zero => rfl
  | succ depth ih =>
    simp only [nestedLists, Value.levels, Value.levelsOfAll, ih, Nat.max_zero]
    omega

def deepFields : List Field := [("x", nestedType 128)]

def deepRow : Row := ⟨[nestedLists 127]⟩

theorem deep_row_deep : ¬ deepRow.Shallow := by
  intro shallow
  have levels := shallow (nestedLists 127) (by simp [deepRow])
  rw [levels_of_nested_lists, Value.depthLimit] at levels
  omega

theorem nested_lists_fit (depth : Nat) :
    (nestedLists depth).fits (nestedType (depth + 1)) = true := by
  induction depth with
  | zero => simp only [nestedLists, nestedType, Value.fits, Value.allFit]
  | succ depth ih =>
    rw [nestedLists, nestedType, Value.fits, Value.allFit, Value.allFit, ih, Bool.and_self]

theorem deep_row_fits : Writer.fault? deepFields deepRow = none := by
  rw [Writer.fault?, if_neg (by simp [deepRow, deepFields, Row.width])]
  simp only [deepFields, deepRow, Writer.misfit?]
  rw [if_pos (nested_lists_fit 127)]

def deepOptions : WriterOptions := ⟨1, plain, 0⟩

def deepWriter : Writer := .start 0 deepFields deepOptions

theorem deep_row_taken (writer : Writer) (same : writer.fields = deepFields) :
    writer.taken (.add deepRow) = [deepRow] := by
  rw [Writer.taken, if_pos ((Writer.add_is_ok_iff writer deepRow).mpr (by rw [same]; exact deep_row_fits))]

def deepCalls : List WriterCall := [.add ⟨[.null]⟩, .add deepRow]

def deepRows : List Row := [⟨[.null]⟩, deepRow]

theorem deep_rows_written :
    ∃ last left, deepWriter.run made deepCalls = (deepRows, last, left) ∧
      (last.close left).1 < UInt64.size := by
  refine run_leaves made deepWriter deepCalls deepRows ?_ ?_
  · have first : deepWriter.taken (.add ⟨[.null]⟩) = [⟨[.null]⟩] := rfl
    rw [deepCalls, Writer.run_cons, first, Writer.run_cons, deep_row_taken _ rfl]
    rfl
  · rw [Writer.close_length, Writer.length_ending]
    decide +kernel

theorem deep_nodes : (TypeTree.ofFields deepFields).nodes.length < UInt32.size := by
  decide +kernel

end Example

theorem deep_row_stops_scan :
    ∃ last left closed length reader scan,
      Writer.create .empty "t" Example.deepFields Example.deepOptions =
        .ok (Example.deepWriter, Example.made) ∧
      (TypeTree.ofFields Example.deepFields).nodes.length < UInt32.size ∧
      Example.deepWriter.run Example.made Example.deepCalls = (Example.deepRows, last, left) ∧
      last.close left = (length, closed) ∧ length < UInt64.size ∧
      RecordReader.openSplit closed .standard ⟨"t", 0, length⟩ = .ok reader ∧
      Scan.StopsAtDepth "t" Example.deepRows scan ∧
      ∀ other, Drains (RecordReader.next closed) reader other ↔ other = scan := by
  have creates := Example.empty_file_created Example.deepFields Example.deepOptions rfl
  obtain ⟨last, left, ran, small⟩ := Example.deep_rows_written
  obtain ⟨_, reader, split, _, deep⟩ := deep_rows_are_written_but_not_read .empty Example.made left
    (last.close left).2 "t" Example.deepFields Example.deepOptions Example.deepWriter last creates
    Example.deep_nodes Example.deepCalls Example.deepRows ran (last.close left).1 rfl small nofun .standard
    rfl
  obtain ⟨scan, stops, drains⟩ :=
    deep ⟨Example.deepRow, by simp [Example.deepRows], Example.deep_row_deep⟩
  exact ⟨last, left, _, _, reader, scan, creates, Example.deep_nodes, ran, rfl, small, split, stops,
    drains⟩

theorem taken_row_is_never_read :
    ∃ last left closed length reader,
      Writer.create .empty "t" Example.deepFields Example.deepOptions =
        .ok (Example.deepWriter, Example.made) ∧
      (Example.deepWriter.add Example.deepRow).isOk = true ∧
      Example.deepWriter.run Example.made Example.deepCalls = (Example.deepRows, last, left) ∧
      Example.deepRow ∈ Example.deepRows ∧
      last.close left = (length, closed) ∧ length < UInt64.size ∧
      RecordReader.openSplit closed .standard ⟨"t", 0, length⟩ = .ok reader ∧
      ∀ scan, Drains (RecordReader.next closed) reader scan →
        Example.deepRow ∉ scan.rows ∧ scan.failure ≠ none := by
  have creates := Example.empty_file_created Example.deepFields Example.deepOptions rfl
  obtain ⟨last, left, ran, small⟩ := Example.deep_rows_written
  obtain ⟨content, final, chunks, leaves, _, total, flat⟩ := Writer.close_leaves .empty Example.made
    (last.close left).2 left "t" Example.deepFields Example.deepOptions Example.deepWriter last creates
    Example.deep_nodes Example.deepCalls Example.deepRows ran (last.close left).1 rfl small nofun
  have taken : Example.deepRow ∈ Example.deepRows := by simp [Example.deepRows]
  obtain ⟨reader, split, accepted, ready, all⟩ := Writer.left_ready leaves .standard rfl
  obtain ⟨scan, stops, drains⟩ := Writer.left_drains_deep leaves accepted .standard reader ready all
    ⟨Example.deepRow, by rw [flat]; exact taken, Example.deep_row_deep⟩
  rw [total] at split
  refine ⟨last, left, _, _, reader, creates, ?_, ran, taken, rfl, small, split, fun other drained => ?_⟩
  · exact (Writer.add_is_ok_iff _ _).mpr Example.deep_row_fits
  · obtain ⟨before, _, _, _, _, _, shallow, _, same⟩ := stops
    rw [(drains other).mp drained, same]
    exact ⟨fun member => Example.deep_row_deep (shallow _ member), by simp⟩

end Columnar
