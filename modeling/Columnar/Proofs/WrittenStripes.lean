import Columnar.Proofs.Nesting
import Columnar.Proofs.StripeScan
import Columnar.Proofs.WrittenDirectory

set_option autoImplicit false

namespace Columnar

namespace Layout

def Shallow (columns : List (List Value)) : Prop :=
  ∀ values ∈ columns, Value.levelsOfAll values < Value.depthLimit

theorem cells_of_columns (width : Nat) (rows : List Row) (wide : ∀ row ∈ rows, row.width = width)
    (place : Nat) (inside : place < rows.length) :
    LoadedStripe.cellsAt ((columnsOf width rows).map some) place = rows[place].values := by
  have rowWide : rows[place].values.length = width := wide rows[place] (List.getElem_mem inside)
  apply List.ext_getElem?
  intro column
  by_cases within : column < width
  · have numbered : (List.range width)[column]? = some column := List.getElem?_range within
    have cell : rows[place].values[column]? = some rows[place].values[column] :=
      List.getElem?_eq_getElem (by omega)
    simp only [LoadedStripe.cellsAt, columnsOf, List.getElem?_map, numbered, Option.map_some,
      Option.getD_some, List.getElem?_eq_getElem inside, Row.get?, cell]
  · have past : (List.range width)[column]? = none := by
      simp only [List.getElem?_eq_none_iff, List.length_range]
      omega
    have short : rows[place].values[column]? = none := by
      simp only [List.getElem?_eq_none_iff]
      omega
    simp only [LoadedStripe.cellsAt, columnsOf, List.getElem?_map, past, short, Option.map_none]

theorem rows_of_columns (width : Nat) (rows : List Row) (wide : ∀ row ∈ rows, row.width = width) :
    LoadedStripe.rows ⟨(columnsOf width rows).map some, rows.length⟩ = rows := by
  apply List.ext_getElem?
  intro place
  by_cases inside : place < rows.length
  · have cells := cells_of_columns width rows wide place inside
    simp only [LoadedStripe.rows, List.getElem?_map, List.getElem?_range inside, Option.map_some,
      List.getElem?_eq_getElem inside, cells]
  · have outside : rows[place]? = none := List.getElem?_eq_none_iff.mpr (Nat.le_of_not_lt inside)
    rw [outside, List.getElem?_eq_none_iff, LoadedStripe.length_rows]
    exact Nat.le_of_not_lt inside

end Layout

namespace StripeRows

open Layout

section

variable {content : Content} {compressor : Compressor}

theorem read_stream_written (stripe : StripeInfo) (stream : StreamInfo) (values : List Value)
    (before after : Bytes)
    (bytes : content.toBytes = before ++ (streamBytes compressor values ++ after))
    (place : stripe.offset.toNat + stream.offset.toNat = before.length)
    (length : stream.length.toNat = (streamBytes compressor values).length)
    (raw : stream.rawLength.toNat = (Value.encodeStream values).length)
    (sized : (Value.encodeStream values).length < UInt64.size)
    (counted : stripe.rows.toNat = values.length) :
    readStream (.regular content) compressor.kind stripe stream =
      if Value.levelsOfAll values < Value.depthLimit then .ok values
      else .error (.format (.columnDecode stripe.offset.toNat stream.column.toNat .tooDeep)) := by
  have total : content.length =
      before.length + ((streamBytes compressor values).length + after.length) := by
    rw [← content.length_toBytes, bytes, List.length_append, List.length_append]
  have stored : (OpenFile.regular content).bytes before.length (streamBytes compressor values).length =
      .ok (streamBytes compressor values) := by
    rw [OpenFile.bytes_inside content _ _ (by omega), bytes, List.drop_left' rfl, List.take_left' rfl]
  have inflated := compressor.decompress_compress (Value.encodeStream values)
  have decoded := Value.decode_stream_encode values [] sized
  rw [List.append_nil] at decoded
  simp only [readStream, place, length, raw, stored]
  rw [streamBytes]
  simp only [inflated, decoded]
  by_cases shallow : Value.levelsOfAll values < Value.depthLimit
  · simp only [if_pos shallow, counted, if_true]
  · simp only [if_neg shallow]

theorem read_streams_written_cons (stripe : StripeInfo) (width column offset : Nat)
    (values : List Value) (rest : List (List Value)) (start : List (Option (List Value)))
    (before after : Bytes)
    (bytes : content.toBytes = before ++ (stripeBytes compressor (values :: rest) ++ after))
    (small : content.length < UInt64.size) (words : width ≤ UInt32.size)
    (place : stripe.offset.toNat + offset = before.length) (inside : column < width)
    (sized : (Value.encodeStream values).length < UInt64.size)
    (counted : stripe.rows.toNat = values.length) :
    readStreams (.regular content) compressor.kind stripe (List.replicate width true)
        (streamsFrom compressor column offset (values :: rest)) start =
      if Value.levelsOfAll values < Value.depthLimit then
        readStreams (.regular content) compressor.kind stripe (List.replicate width true)
          (streamsFrom compressor (column + 1) (offset + (streamBytes compressor values).length) rest)
          (start.set column (some values))
      else .error (.format (.columnDecode stripe.offset.toNat column .tooDeep)) := by
  simp only [stripeBytes, List.flatMap_cons] at bytes
  rw [List.append_assoc] at bytes
  have total := congrArg List.length bytes
  simp only [List.length_append, content.length_toBytes] at total
  have columnWord : (UInt32.ofNat column).toNat = column := UInt32.toNat_ofNat_of_lt' (by omega)
  have offsetWord : (UInt64.ofNat offset).toNat = offset := UInt64.toNat_ofNat_of_lt' (by omega)
  have here := read_stream_written stripe
    ⟨UInt32.ofNat column, UInt64.ofNat offset, UInt64.ofNat (streamBytes compressor values).length,
      UInt64.ofNat (Value.encodeStream values).length⟩ values before
    (stripeBytes compressor rest ++ after) bytes
    (by simp only [offsetWord, place]) (UInt64.toNat_ofNat_of_lt' (by omega))
    (UInt64.toNat_ofNat_of_lt' sized) sized counted
  have flag : (List.replicate width true)[column]? = some true := by
    rw [List.getElem?_replicate, if_pos inside]
  simp only [streamsFrom, readStreams, columnWord, flag, here]
  by_cases shallow : Value.levelsOfAll values < Value.depthLimit
  · simp only [if_pos shallow]
  · simp only [if_neg shallow]

-- The streams fill the columns from the left: those before the first one are filled already.
theorem read_streams_written (stripe : StripeInfo) (width column offset : Nat)
    (columns : List (List Value)) (start : List (Option (List Value))) (before after : Bytes)
    (bytes : content.toBytes = before ++ (stripeBytes compressor columns ++ after))
    (small : content.length < UInt64.size) (words : width ≤ UInt32.size)
    (place : stripe.offset.toNat + offset = before.length)
    (filled : start.length = width) (left : column + columns.length = width) (sized : Sized columns)
    (counted : ∀ values ∈ columns, stripe.rows.toNat = values.length) :
    (Shallow columns →
      readStreams (.regular content) compressor.kind stripe (List.replicate width true)
        (streamsFrom compressor column offset columns) start =
          .ok (start.take column ++ columns.map some)) ∧
    ∀ found, readStreams (.regular content) compressor.kind stripe (List.replicate width true)
        (streamsFrom compressor column offset columns) start = .ok found → Shallow columns := by
  induction columns generalizing column offset start before with
  | nil =>
    refine ⟨fun _ => ?_, fun _ _ values member => by cases member⟩
    rw [List.length_nil, Nat.add_zero] at left
    rw [streamsFrom, readStreams, List.map_nil, List.append_nil, List.take_of_length_le (by omega)]
  | cons values rest ih =>
    rw [List.length_cons] at left
    rw [read_streams_written_cons stripe width column offset values rest start before after bytes small
      words place (by omega) (sized values (by simp)) (counted values (by simp))]
    simp only [stripeBytes, List.flatMap_cons] at bytes
    rw [List.append_assoc] at bytes
    obtain ⟨reads, only⟩ := ih (column + 1) (offset + (streamBytes compressor values).length)
      (start.set column (some values)) (before ++ streamBytes compressor values)
      (by rw [bytes, List.append_assoc]; rfl)
      (by rw [List.length_append]; omega) (by rw [List.length_set, filled]) (by omega)
      (fun others member => sized others (by simp [member]))
      (fun others member => counted others (by simp [member]))
    by_cases shallow : Value.levelsOfAll values < Value.depthLimit
    · rw [if_pos shallow]
      refine ⟨fun all => ?_, fun found read => ?_⟩
      · rw [reads fun others member => all others (by simp [member])]
        have here : (start.set column (some values))[column]? = some (some values) := by
          rw [List.getElem?_set_self]
          omega
        rw [List.take_add_one, here, List.take_set_of_le (Nat.le_refl _), List.map_cons, List.append_assoc]
        rfl
      · intro others member
        cases member with
        | head => exact shallow
        | tail _ later => exact only found read others later
    · rw [if_neg shallow]
      exact ⟨fun all => absurd (all values (by simp)) shallow, fun found read => by cases read⟩

theorem stripe_words (width : Nat) (filled : 0 < width) (rows : List Row)
    (sized : Sized (columnsOf width rows)) (before after : Bytes)
    (bytes : content.toBytes = before ++ (chunkBytes compressor width rows ++ after))
    (small : content.length < UInt64.size) :
    (stripeAt compressor width before.length rows).rows.toNat = rows.length ∧
      (stripeAt compressor width before.length rows).offset.toNat = before.length ∧
      ∀ values ∈ columnsOf width rows,
        (stripeAt compressor width before.length rows).rows.toNat = values.length := by
  have total := congrArg List.length bytes
  simp only [List.length_append, content.length_toBytes] at total
  have counted : (stripeAt compressor width before.length rows).rows.toNat = rows.length :=
    UInt64.toNat_ofNat_of_lt' (rows_of_sized width filled rows sized)
  refine ⟨counted, UInt64.toNat_ofNat_of_lt' (by omega), ?_⟩
  intro values member
  obtain ⟨column, _, same⟩ := List.mem_map.mp member
  rw [counted, ← same, List.length_map]

theorem load_written (width : Nat) (filled : 0 < width) (words : width ≤ UInt32.size)
    (rows : List Row) (sized : Sized (columnsOf width rows)) (before after : Bytes)
    (bytes : content.toBytes = before ++ (chunkBytes compressor width rows ++ after))
    (small : content.length < UInt64.size) :
    (Shallow (columnsOf width rows) →
      load (.regular content) compressor.kind (List.replicate width true)
        (stripeAt compressor width before.length rows) =
          .ok ⟨(columnsOf width rows).map some, rows.length⟩) ∧
    ∀ loaded, load (.regular content) compressor.kind (List.replicate width true)
        (stripeAt compressor width before.length rows) = .ok loaded →
      Shallow (columnsOf width rows) := by
  obtain ⟨counted, offset, lengths⟩ := stripe_words width filled rows sized before after bytes small
  obtain ⟨reads, only⟩ := read_streams_written (stripeAt compressor width before.length rows) width 0 0
    (columnsOf width rows) (List.replicate width none) before after bytes small words
    (by rw [offset, Nat.add_zero]) (List.length_replicate ..)
    (by rw [length_columns_of, Nat.zero_add]) sized lengths
  have streams : (stripeAt compressor width before.length rows).streams =
      streamsFrom compressor 0 0 (columnsOf width rows) := rfl
  simp only [load, streams, List.map_replicate, counted]
  refine ⟨fun shallow => ?_, fun loaded loads => ?_⟩
  · have present : missingColumn? (List.replicate width true) ((columnsOf width rows).map some) =
        none := by
      rw [missing_column_none_iff]
      intro place column _ found
      obtain ⟨values, _, same⟩ := List.mem_map.mp (List.mem_of_getElem? found)
      rw [← same]
      rfl
    rw [reads shallow]
    simp only [List.take_zero, List.nil_append, present, ite_self]
  · cases read : readStreams (.regular content) compressor.kind
        (stripeAt compressor width before.length rows) (List.replicate width true)
        (streamsFrom compressor 0 0 (columnsOf width rows)) (List.replicate width none) with
    | error failure => simp [read] at loads
    | ok found => exact only found read

theorem scan_written (width : Nat) (filled : 0 < width) (words : width ≤ UInt32.size)
    (chunks : List (List Row)) (wide : ∀ row ∈ chunks.flatten, row.width = width)
    (counted : Layout.Counted width chunks) (before after : Bytes)
    (bytes : content.toBytes = before ++ (bodyBytes compressor width chunks ++ after))
    (small : content.length < UInt64.size) :
    ((∀ rows ∈ chunks, Shallow (columnsOf width rows)) →
      scan (.regular content) compressor.kind (List.replicate width true)
        (stripesFrom compressor width before.length chunks) = ⟨chunks.flatten, none⟩) ∧
    ((scan (.regular content) compressor.kind (List.replicate width true)
        (stripesFrom compressor width before.length chunks)).failure = none →
      ∀ rows ∈ chunks, Shallow (columnsOf width rows)) := by
  induction chunks generalizing before with
  | nil => exact ⟨fun _ => rfl, fun _ rows member => by cases member⟩
  | cons rows rest ih =>
    simp only [bodyBytes, List.flatMap_cons] at bytes
    rw [List.append_assoc] at bytes
    have rowsWide : ∀ row ∈ rows, row.width = width := fun row member => wide row (by simp [member])
    obtain ⟨sized, behind⟩ := counted_cons counted
    obtain ⟨loads, only⟩ := load_written width filled words rows sized before _ bytes small
    obtain ⟨scans, clean⟩ := ih (fun row member => wide row (by
        rw [List.flatten_cons, List.mem_append]
        exact .inr member)) behind
      (before ++ chunkBytes compressor width rows) (by rw [bytes, List.append_assoc]; rfl)
    rw [List.length_append] at scans clean
    simp only [stripesFrom, scan]
    refine ⟨fun shallow => ?_, fun ended => ?_⟩
    · rw [loads (shallow rows (by simp)), scans fun others member => shallow others (by simp [member])]
      simp only [Scan.behind, rows_of_columns width rows rowsWide, List.flatten_cons]
    · cases loaded : load (.regular content) compressor.kind (List.replicate width true)
          (stripeAt compressor width before.length rows) with
      | error failure => simp [loaded, Scan.failed] at ended
      | ok stripe =>
        simp only [loaded, Scan.behind] at ended
        intro others member
        cases member with
        | head => exact only stripe loaded
        | tail _ later => exact clean ended others later

end

end StripeRows

namespace Writer

open Layout

theorem value_fits_column (fields : List Field) (values : List Value)
    (fits : misfit? fields values = none) (column : Nat) (field : Field) (value : Value)
    (here : fields[column]? = some field) (cell : values[column]? = some value) :
    value.fits field.2 = true := by
  induction fields generalizing values column with
  | nil => cases here
  | cons first rest ih =>
    cases values with
    | nil => cases cell
    | cons head tail =>
      obtain ⟨name, type⟩ := first
      rw [misfit?] at fits
      by_cases fitting : head.fits type = true
      · rw [if_pos fitting] at fits
        cases column with
        | zero =>
          simp only [List.getElem?_cons_zero, Option.some.injEq] at here cell
          rw [← here, ← cell]
          exact fitting
        | succ column => exact ih tail fits column here cell
      · rw [if_neg fitting] at fits
        cases fits

theorem column_fits (fields : List Field) (rows : List Row)
    (fit : ∀ row ∈ rows, fault? fields row = none) (column : Nat) (field : Field)
    (here : fields[column]? = some field) :
    Value.allFit (rows.map fun row => (row.get? column).getD .null) field.2 = true := by
  induction rows with
  | nil => rfl
  | cons row rest ih =>
    obtain ⟨width, fits⟩ := fault_none_width fields row (fit row (by simp))
    have inside : column < row.values.length := by
      have short := (List.getElem?_eq_some_iff.mp here).1
      rw [Row.width] at width
      omega
    have cell : row.values[column]? = some row.values[column] := List.getElem?_eq_getElem inside
    have value := value_fits_column fields row.values fits column field _ here cell
    simp only [List.map_cons, Value.allFit, Row.get?, cell, Option.getD_some, value, Bool.true_and]
    exact ih fun other member => fit other (by simp [member])

-- Of 79 types one inside the other, values have 239 levels at most.
theorem columns_shallow (fields : List Field) (rows : List Row)
    (fit : ∀ row ∈ rows, fault? fields row = none)
    (flat : ∀ field ∈ fields, field.2.nesting < 80) :
    Shallow (columnsOf fields.length rows) := by
  intro values member
  obtain ⟨column, listed, same⟩ := List.mem_map.mp member
  have inside : column < fields.length := List.mem_range.mp listed
  have here : fields[column]? = some fields[column] := List.getElem?_eq_getElem inside
  have levels := Value.levels_of_all_fit values fields[column].2 (by
    rw [← same]
    exact column_fits fields rows fit column _ here)
  have nesting := flat fields[column] (List.getElem_mem _)
  have typed := fields[column].2.levels_of_nesting
  have limit : Value.depthLimit = 256 := rfl
  omega

end Writer

end Columnar
