import Columnar.Proofs.Drain
import Columnar.Reading.RecordReader

set_option autoImplicit false

namespace Columnar

namespace LoadedStripe

def cellsAt (columns : List (Option (List Value))) (place : Nat) : List Value :=
  columns.map fun column => ((column.getD [])[place]?).getD .null

def rows (stripe : LoadedStripe) : List Row :=
  (List.range stripe.rowsLeft).map fun place => ⟨cellsAt stripe.columns place⟩

def Even (stripe : LoadedStripe) : Prop :=
  ∀ values, some values ∈ stripe.columns → values.length = stripe.rowsLeft

theorem split_even (columns : List (Option (List Value))) (left : Nat)
    (even : ∀ values, some values ∈ columns → values.length = left + 1) :
    split? columns = some (cellsAt columns 0, columns.map (Option.map List.tail)) := by
  induction columns with
  | nil => rfl
  | cons column columns ih =>
    have others := ih fun values member => even values (by simp [member])
    cases column with
    | none => simp [split?, others, cellsAt]
    | some values =>
      cases values with
      | nil =>
        have long := even [] (by simp)
        simp at long
      | cons value more => simp [split?, others, cellsAt]

theorem cells_of_tails (columns : List (Option (List Value))) (place : Nat) :
    cellsAt (columns.map (Option.map List.tail)) place = cellsAt columns (place + 1) := by
  simp only [cellsAt, List.map_map]
  apply List.map_congr_left
  intro column _
  cases column with
  | none => simp
  | some values => simp

theorem rows_succ (columns : List (Option (List Value))) (left : Nat) :
    rows ⟨columns, left + 1⟩ =
      ⟨cellsAt columns 0⟩ :: rows ⟨columns.map (Option.map List.tail), left⟩ := by
  simp only [rows, List.range_succ_eq_map, List.map_cons, List.map_map, List.cons.injEq, true_and]
  apply List.map_congr_left
  intro place _
  simp only [Function.comp_apply, cells_of_tails]

theorem even_tails (columns : List (Option (List Value))) (left : Nat)
    (even : Even ⟨columns, left + 1⟩) : Even ⟨columns.map (Option.map List.tail), left⟩ := by
  intro values member
  obtain ⟨column, inside, same⟩ := List.mem_map.mp member
  cases column with
  | none => cases same
  | some longer =>
    simp only [Option.map_some, Option.some.injEq] at same
    have long := even longer inside
    simp only at long
    rw [← same, List.length_tail, long]
    rfl

theorem length_rows (stripe : LoadedStripe) : stripe.rows.length = stripe.rowsLeft := by
  simp [rows]

theorem of_rows_cons (stripe : LoadedStripe) (row : Row) (others : List Row)
    (found : stripe.rows = row :: others) :
    stripe.rowsLeft ≠ 0 ∧ (⟨cellsAt stripe.columns 0⟩ : Row) = row := by
  obtain ⟨columns, count⟩ := stripe
  cases count with
  | zero => cases found
  | succ left =>
    rw [rows_succ, List.cons.injEq] at found
    exact ⟨Nat.succ_ne_zero left, found.1⟩

end LoadedStripe

namespace StripeRows

def scan (file : OpenFile) (compression : Compression) (included : List Bool) :
    List StripeInfo → Scan
  | [] => .nothing
  | stripe :: rest =>
    match load file compression included stripe with
    | .error failure => .failed failure
    | .ok loaded => .behind loaded.rows (scan file compression included rest)

theorem scan_append (file : OpenFile) (compression : Compression) (included : List Bool)
    (first second : List StripeInfo) :
    scan file compression included (first ++ second) =
      (scan file compression included first).followedBy (scan file compression included second) := by
  induction first with
  | nil => simp [scan, Scan.followedBy, Scan.nothing, Scan.behind]
  | cons stripe first ih =>
    simp only [List.cons_append, scan]
    cases load file compression included stripe with
    | error failure => simp only [Scan.failed, Scan.followedBy]
    | ok loaded => simp only [ih, Scan.behind_followed_by]

theorem read_stream_length (file : OpenFile) (compression : Compression) (stripe : StripeInfo)
    (stream : StreamInfo) (values : List Value)
    (read : readStream file compression stripe stream = .ok values) :
    values.length = stripe.rows.toNat := by
  simp only [readStream] at read
  cases bytes : file.bytes (stripe.offset.toNat + stream.offset.toNat) stream.length.toNat with
  | error failure => simp [bytes] at read
  | ok stored =>
    cases inflated : compression.decompress stored stream.rawLength.toNat with
    | error failure => simp [bytes, inflated] at read
    | ok raw =>
      cases decoded : Value.decodeStream raw with
      | error cause => simp [bytes, inflated, decoded] at read
      | ok found =>
        simp only [bytes, inflated, decoded] at read
        by_cases counted : found.length = stripe.rows.toNat
        · rw [if_pos counted] at read
          cases read
          exact counted
        · rw [if_neg counted] at read
          cases read

theorem read_streams_cons (file : OpenFile) (compression : Compression) (stripe : StripeInfo)
    (included : List Bool) (stream : StreamInfo) (streams : List StreamInfo)
    (columns found : List (Option (List Value)))
    (read : readStreams file compression stripe included (stream :: streams) columns = .ok found) :
    (included[stream.column.toNat]? = some false ∧
      readStreams file compression stripe included streams columns = .ok found) ∨
    (∃ values, included[stream.column.toNat]? = some true ∧
      readStream file compression stripe stream = .ok values ∧
      readStreams file compression stripe included streams
        (columns.set stream.column.toNat (some values)) = .ok found) := by
  rw [readStreams] at read
  cases wanted : included[stream.column.toNat]? with
  | none => simp [wanted] at read
  | some flag =>
    cases flag with
    | false =>
      simp only [wanted] at read
      exact .inl ⟨rfl, read⟩
    | true =>
      cases content : readStream file compression stripe stream with
      | error failure => simp [wanted, content] at read
      | ok values =>
        simp only [wanted, content] at read
        exact .inr ⟨values, rfl, rfl, read⟩

theorem read_streams_even (file : OpenFile) (compression : Compression) (stripe : StripeInfo)
    (included : List Bool) (streams : List StreamInfo) (columns found : List (Option (List Value)))
    (read : readStreams file compression stripe included streams columns = .ok found)
    (even : ∀ values, some values ∈ columns → values.length = stripe.rows.toNat) :
    ∀ values, some values ∈ found → values.length = stripe.rows.toNat := by
  induction streams generalizing columns with
  | nil =>
    simp only [readStreams, Except.ok.injEq] at read
    rw [← read]
    exact even
  | cons stream streams ih =>
    obtain ⟨_, rest⟩ | ⟨values, _, content, rest⟩ := read_streams_cons _ _ _ _ _ _ _ _ read
    · exact ih columns rest even
    · refine ih _ rest ?_
      intro other member
      rcases List.mem_or_eq_of_mem_set member with old | new
      · exact even other old
      · cases new
        exact read_stream_length file compression stripe stream _ content

theorem read_streams_length (file : OpenFile) (compression : Compression) (stripe : StripeInfo)
    (included : List Bool) (streams : List StreamInfo) (columns found : List (Option (List Value)))
    (read : readStreams file compression stripe included streams columns = .ok found) :
    found.length = columns.length := by
  induction streams generalizing columns with
  | nil =>
    simp only [readStreams, Except.ok.injEq] at read
    rw [read]
  | cons stream streams ih =>
    obtain ⟨_, rest⟩ | ⟨values, _, _, rest⟩ := read_streams_cons _ _ _ _ _ _ _ _ read
    · exact ih columns rest
    · have length := ih _ rest
      rw [List.length_set] at length
      exact length

theorem missing_column_none_iff (included : List Bool) (columns : List (Option (List Value))) :
    missingColumn? included columns = none ↔
      ∀ (place : Nat) (column : Option (List Value)), included[place]? = some true →
        columns[place]? = some column → column.isSome = true := by
  rw [missingColumn?, List.findIdx?_eq_none_iff]
  constructor
  · intro complete place column wanted found
    have member : (true, column) ∈ included.zip columns :=
      List.mem_of_getElem? (i := place) (List.getElem?_zip_eq_some.mpr ⟨wanted, found⟩)
    have present := complete _ member
    simpa using present
  · rintro present ⟨wanted, column⟩ member
    obtain ⟨place, found⟩ := List.getElem?_of_mem member
    have both := List.getElem?_zip_eq_some.mp found
    cases wanted with
    | false => rfl
    | true =>
      have there := present place column both.1 both.2
      simp [there]

theorem load_columns (file : OpenFile) (compression : Compression) (included : List Bool)
    (stripe : StripeInfo) (loaded : LoadedStripe)
    (loads : load file compression included stripe = .ok loaded) :
    readStreams file compression stripe included stripe.streams (included.map fun _ => none) =
        .ok loaded.columns ∧
      loaded.rowsLeft = stripe.rows.toNat ∧
      (stripe.rows.toNat ≠ 0 → missingColumn? included loaded.columns = none) := by
  simp only [load] at loads
  cases read : readStreams file compression stripe included stripe.streams
      (included.map fun _ => none) with
  | error failure => simp only [read, reduceCtorEq] at loads
  | ok columns =>
    simp only [read] at loads
    by_cases empty : stripe.rows.toNat = 0
    · rw [if_pos empty] at loads
      cases loads
      exact ⟨rfl, rfl, fun filled => absurd empty filled⟩
    · rw [if_neg empty] at loads
      cases missing : missingColumn? included columns with
      | some column => simp [missing] at loads
      | none =>
        simp only [missing] at loads
        cases loads
        exact ⟨rfl, rfl, fun _ => missing⟩

theorem load_length (file : OpenFile) (compression : Compression) (included : List Bool)
    (stripe : StripeInfo) (loaded : LoadedStripe)
    (loads : load file compression included stripe = .ok loaded) :
    loaded.columns.length = included.length := by
  obtain ⟨read, _, _⟩ := load_columns file compression included stripe loaded loads
  have length := read_streams_length file compression stripe included _ _ _ read
  rw [List.length_map] at length
  exact length

theorem load_even (file : OpenFile) (compression : Compression) (included : List Bool)
    (stripe : StripeInfo) (loaded : LoadedStripe)
    (loads : load file compression included stripe = .ok loaded) : loaded.Even := by
  obtain ⟨read, left, _⟩ := load_columns file compression included stripe loaded loads
  have even := read_streams_even file compression stripe included _ _ _ read (by simp)
  intro values member
  rw [left]
  exact even values member

theorem scan_length (file : OpenFile) (compression : Compression) (included : List Bool)
    (stripes : List StripeInfo) (clean : (scan file compression included stripes).failure = none) :
    (scan file compression included stripes).rows.length = StripeInfo.totalRows stripes := by
  induction stripes with
  | nil => rfl
  | cons stripe stripes ih =>
    simp only [scan] at clean ⊢
    cases loads : load file compression included stripe with
    | error failure => simp [loads, Scan.failed] at clean
    | ok loaded =>
      simp only [loads, Scan.behind] at clean ⊢
      obtain ⟨_, left, _⟩ := load_columns file compression included stripe loaded loads
      rw [List.length_append, LoadedStripe.length_rows, left, ih clean, StripeInfo.totalRows]

structure Sound (rows : StripeRows) : Prop where
  opened : rows.handle.isSome
  even : ∀ stripe, rows.current = some stripe → stripe.Even

def currentRows (rows : StripeRows) : List Row := (rows.current.map LoadedStripe.rows).getD []

def ahead (files : FileSystem) (rows : StripeRows) : Scan :=
  match rows.handle with
  | none => .failed .closed
  | some handle =>
    .behind rows.currentRows (scan (files.view handle) rows.compression rows.included rows.stripes)

theorem deliver_even (rows : StripeRows) (stripe : LoadedStripe) (slot : Row)
    (even : stripe.Even) (left : stripe.rowsLeft ≠ 0) :
    deliver rows stripe slot =
      ⟨.ok true, ⟨LoadedStripe.cellsAt stripe.columns 0⟩,
        { rows with
          current := some ⟨stripe.columns.map (Option.map List.tail), stripe.rowsLeft - 1⟩
          rowsReturned := rows.rowsReturned + 1 }⟩ := by
  have split := LoadedStripe.split_even stripe.columns (stripe.rowsLeft - 1) (by
    intro values member
    rw [even values member]
    omega)
  simp only [deliver, split]

end StripeRows

end Columnar
