import Columnar.Proofs.Calls
import Columnar.Proofs.ContainerFormat
import Columnar.Proofs.Stream
import Columnar.Proofs.StreamBytes
import Columnar.Proofs.StripeSteps

set_option autoImplicit false

namespace Columnar

namespace StreamInfo

-- Whether a stream holds values: its bytes inflate to the length that it states, and are the
-- encoding of as many values as its stripe has rows.
def Holds (content : Content) (compression : Compression) (stripe : StripeInfo)
    (stream : StreamInfo) (values : List Value) : Prop :=
  ∃ raw, compression.inflate (stream.bytesIn content stripe) = .ok raw ∧
    raw.length = stream.rawLength.toNat ∧ Value.decodeStream raw = .ok values ∧
    values.length = stripe.rows.toNat

inductive Fails (content : Content) (compression : Compression) (stripe : StripeInfo)
    (stream : StreamInfo) : Failure → Prop
  | inflating (failure : Failure)
    (refused : compression.inflate (stream.bytesIn content stripe) = .error failure) :
    Fails content compression stripe stream failure
  | length (raw : Bytes) (inflated : compression.inflate (stream.bytesIn content stripe) = .ok raw)
    (other : raw.length ≠ stream.rawLength.toNat) :
    Fails content compression stripe stream
      (.codec (.inflatedLength compression raw.length stream.rawLength.toNat))
  | decoding (raw : Bytes) (inflated : compression.inflate (stream.bytesIn content stripe) = .ok raw)
    (sized : raw.length = stream.rawLength.toNat) (cause : Cbor.Fault)
    (refused : Value.decodeStream raw = .error cause) :
    Fails content compression stripe stream
      (.format (.columnDecode stripe.offset.toNat stream.column.toNat cause))
  | count (raw : Bytes) (inflated : compression.inflate (stream.bytesIn content stripe) = .ok raw)
    (sized : raw.length = stream.rawLength.toNat) (values : List Value)
    (decoded : Value.decodeStream raw = .ok values)
    (other : values.length ≠ stripe.rows.toNat) :
    Fails content compression stripe stream
      (.format (.columnCount stripe.offset.toNat stream.column.toNat values.length
        stripe.rows.toNat))

variable {content : Content} {compression : Compression} {stripe : StripeInfo} {stream : StreamInfo}
  {values others : List Value}

theorem holds_once (first : stream.Holds content compression stripe values)
    (second : stream.Holds content compression stripe others) : values = others := by
  obtain ⟨raw, inflated, _, decoded, _⟩ := first
  obtain ⟨same, again, _, found, _⟩ := second
  rw [inflated, Except.ok.injEq] at again
  rw [again, found, Except.ok.injEq] at decoded
  exact decoded.symm

theorem holds_not_fails {failure : Failure} (holds : stream.Holds content compression stripe values)
    (fails : stream.Fails content compression stripe failure) : False := by
  obtain ⟨raw, inflated, sized, decoded, counted⟩ := holds
  cases fails with
  | inflating failure refused =>
    rw [inflated] at refused
    cases refused
  | length other again unsized =>
    rw [inflated, Except.ok.injEq] at again
    rw [again] at sized
    exact unsized sized
  | decoding other again _ cause refused =>
    rw [inflated, Except.ok.injEq] at again
    rw [← again, decoded] at refused
    cases refused
  | count other again _ found decodes uncounted =>
    rw [inflated, Except.ok.injEq] at again
    rw [← again, decoded, Except.ok.injEq] at decodes
    rw [decodes] at counted
    exact uncounted counted

end StreamInfo

namespace StripeInfo

def lastStream? (column : Nat) (streams : List StreamInfo) : Option StreamInfo :=
  (streams.filter fun stream => stream.column.toNat == column).getLast?

section

variable (content : Content) (compression : Compression) (included : List Bool)
  (stripe : StripeInfo)

def AllHold (streams : List StreamInfo) : Prop :=
  ∀ stream ∈ streams, included[stream.column.toNat]? = some true →
    ∃ values, stream.Holds content compression stripe values

-- What is wrong with a stripe: the first stream that fails, or else the first column that has none.
inductive Fails : Failure → Prop
  | stream (before : List StreamInfo) (stream : StreamInfo) (behind : List StreamInfo)
    (failure : Failure) (listed : stripe.streams = before ++ stream :: behind)
    (held : AllHold content compression included stripe before)
    (wanted : included[stream.column.toNat]? = some true)
    (fails : stream.Fails content compression stripe failure) : Fails failure
  | column (held : AllHold content compression included stripe stripe.streams)
    (filled : stripe.rows.toNat ≠ 0) (column : Nat) (wanted : included[column]? = some true)
    (missing : lastStream? column stripe.streams = none)
    (first : ∀ other < column, included[other]? = some true →
      lastStream? other stripe.streams ≠ none) :
    Fails (.format (.columnMissing stripe.offset.toNat column))

def Cell (place column : Nat) (cell : Value) : Prop :=
  if included[column]? = some true then
    ∃ stream values, lastStream? column stripe.streams = some stream ∧
      stream.Holds content compression stripe values ∧ values[place]? = some cell
  else cell = .null

structure Means (rows : List Row) : Prop where
  held : AllHold content compression included stripe stripe.streams
  present : stripe.rows.toNat ≠ 0 → ∀ column, included[column]? = some true →
    lastStream? column stripe.streams ≠ none
  count : rows.length = stripe.rows.toNat
  cells : ∀ (place : Nat) (row : Row), rows[place]? = some row → row.width = included.length ∧
    ∀ (column : Nat) (cell : Value), row.get? column = some cell →
      Cell content compression included stripe place column cell

def AllMean : List StripeInfo → List Row → Prop
  | [], rows => rows = []
  | stripe :: rest, rows => ∃ first others, rows = first ++ others ∧
      Means content compression included stripe first ∧ AllMean rest others

end

theorem last_stream_cons (column : Nat) (stream : StreamInfo) (streams : List StreamInfo) :
    lastStream? column (stream :: streams) =
      (lastStream? column streams).or (if stream.column.toNat = column then some stream else none) := by
  rw [lastStream?, lastStream?, List.filter_cons]
  by_cases here : stream.column.toNat = column
  · rw [if_pos here, if_pos (by simpa using here), List.getLast?_cons]
    cases (streams.filter fun other => other.column.toNat == column).getLast? <;> rfl
  · rw [if_neg here, if_neg (by simpa using here), Option.or_none]

variable {content : Content} {compression : Compression} {included : List Bool}
  {stripe : StripeInfo}

theorem all_mean_length (stripes : List StripeInfo) (rows : List Row)
    (mean : AllMean content compression included stripes rows) :
    rows.length = totalRows stripes := by
  induction stripes generalizing rows with
  | nil =>
    rw [mean]
    rfl
  | cons stripe stripes ih =>
    obtain ⟨first, others, same, means, rest⟩ := mean
    rw [same, List.length_append, means.count, ih others rest, totalRows]

theorem cell_once {place column : Nat} {cell other : Value}
    (first : Cell content compression included stripe place column cell)
    (second : Cell content compression included stripe place column other) : cell = other := by
  rw [Cell] at first second
  by_cases wanted : included[column]? = some true
  · rw [if_pos wanted] at first second
    obtain ⟨stream, values, listed, holds, here⟩ := first
    obtain ⟨same, others, again, held, there⟩ := second
    rw [listed, Option.some.injEq] at again
    rw [← again] at held
    rw [StreamInfo.holds_once holds held, there, Option.some.injEq] at here
    exact here.symm
  · rw [if_neg wanted] at first second
    rw [first, second]

theorem means_once {rows others : List Row}
    (first : stripe.Means content compression included rows)
    (second : stripe.Means content compression included others) : rows = others := by
  have counted : rows.length = others.length := first.count.trans second.count.symm
  refine List.ext_getElem counted fun place here there => ?_
  obtain ⟨width, cells⟩ := first.cells place _ (List.getElem?_eq_getElem here)
  obtain ⟨otherWidth, otherCells⟩ := second.cells place _ (List.getElem?_eq_getElem there)
  have wide : (rows[place]).values.length = (others[place]).values.length :=
    width.trans otherWidth.symm
  have same : (rows[place]).values = (others[place]).values :=
    List.ext_getElem wide fun column inside within =>
      cell_once (cells column _ (List.getElem?_eq_getElem inside))
        (otherCells column _ (List.getElem?_eq_getElem within))
  exact congrArg Row.mk same

theorem means_not_fails {rows : List Row} {failure : Failure}
    (means : stripe.Means content compression included rows)
    (fails : stripe.Fails content compression included failure) : False := by
  cases fails with
  | stream before stream behind failure listed held wanted fails =>
    obtain ⟨values, holds⟩ := means.held stream (by simp [listed]) wanted
    exact StreamInfo.holds_not_fails holds fails
  | column held filled column wanted missing first =>
    exact means.present filled column wanted missing

theorem all_mean_ends {before behind : List StripeInfo} {rows all : List Row}
    (whole : AllMean content compression included (before ++ behind) all)
    (mean : AllMean content compression included before rows)
    (ends : behind = [] ∨ ∃ stripe rest failure, behind = stripe :: rest ∧
      stripe.Fails content compression included failure) : behind = [] ∧ rows = all := by
  induction before generalizing rows all with
  | nil =>
    obtain finished | ⟨stripe, rest, failure, first, fails⟩ := ends
    · rw [finished] at whole
      exact ⟨finished, mean.trans whole.symm⟩
    · rw [first] at whole
      obtain ⟨_, _, _, means, _⟩ := whole
      exact absurd fails (means_not_fails means)
  | cons stripe before ih =>
    obtain ⟨first, others, same, means, rest⟩ := whole
    obtain ⟨found, left, split, meant, behindIt⟩ := mean
    obtain ⟨finished, equal⟩ := ih rest behindIt
    exact ⟨finished, by rw [same, split, means_once means meant, equal]⟩

end StripeInfo

namespace StripeRows

open StripeInfo

section

variable {file : OpenFile} {content : Content} {compression : Compression} {included : List Bool}
  {stripe : StripeInfo}

theorem read_stream_cases (compression : Compression) (stream : StreamInfo)
    (shown : file.bytes (stripe.offset.toNat + stream.offset.toNat) stream.length.toNat =
      .ok (stream.bytesIn content stripe)) :
    (∃ values, readStream file compression stripe stream = .ok values ∧
      stream.Holds content compression stripe values) ∨
    (∃ failure, readStream file compression stripe stream = .error failure ∧
      stream.Fails content compression stripe failure) := by
  simp only [readStream, shown, Compression.decompress]
  cases inflated : compression.inflate (stream.bytesIn content stripe) with
  | error failure => exact .inr ⟨failure, rfl, .inflating failure inflated⟩
  | ok raw =>
    by_cases sized : raw.length = stream.rawLength.toNat
    · simp only [if_pos sized]
      cases decoded : Value.decodeStream raw with
      | error cause => exact .inr ⟨_, rfl, .decoding raw inflated sized cause decoded⟩
      | ok values =>
        by_cases counted : values.length = stripe.rows.toNat
        · exact .inl ⟨values, if_pos counted, raw, inflated, sized, decoded, counted⟩
        · exact .inr ⟨_, if_neg counted, .count raw inflated sized values decoded counted⟩
    · simp only [if_neg sized]
      exact .inr ⟨_, rfl, .length raw inflated sized⟩

theorem read_stream_holds (shown : stripe.Shows file content included) (stream : StreamInfo)
    (member : stream ∈ stripe.streams) (wanted : included[stream.column.toNat]? = some true)
    (values : List Value) (read : readStream file compression stripe stream = .ok values) :
    stream.Holds content compression stripe values := by
  obtain ⟨found, same, holds⟩ | ⟨failure, fails, _⟩ :=
    read_stream_cases compression stream (shown stream member wanted)
  · rw [same, Except.ok.injEq] at read
    rw [← read]
    exact holds
  · rw [fails] at read
    cases read

theorem read_streams_cases (shown : stripe.Shows file content included) (before : List StreamInfo)
    (streams : List StreamInfo) (columns : List (Option (List Value)))
    (listed : stripe.streams = before ++ streams)
    (held : AllHold content compression included stripe before)
    (known : ∀ stream ∈ streams, stream.column.toNat < included.length) :
    (∃ found, readStreams file compression stripe included streams columns = .ok found ∧
      AllHold content compression included stripe stripe.streams) ∨
    (∃ failure, readStreams file compression stripe included streams columns = .error failure ∧
      stripe.Fails content compression included failure) := by
  induction streams generalizing before columns with
  | nil =>
    rw [List.append_nil] at listed
    rw [← listed] at held
    exact .inl ⟨columns, rfl, held⟩
  | cons stream streams ih =>
    have next : stripe.streams = (before ++ [stream]) ++ streams := by
      rw [listed, List.append_assoc]
      rfl
    have others : ∀ one ∈ streams, one.column.toNat < included.length :=
      fun one member => known one (by simp [member])
    have longer (fine : included[stream.column.toNat]? = some true →
        ∃ values, stream.Holds content compression stripe values) :
        AllHold content compression included stripe (before ++ [stream]) := by
      intro one member
      rcases List.mem_append.mp member with early | last
      · exact held one early
      · rw [List.mem_singleton] at last
        rw [last]
        exact fine
    have short : stream.column.toNat < included.length := known stream (by simp)
    have flag := List.getElem?_eq_getElem short
    cases wanted : included[stream.column.toNat] with
    | false =>
      rw [wanted] at flag
      simp only [readStreams, flag]
      exact ih (before ++ [stream]) columns next
        (longer fun set => by rw [flag] at set; cases set) others
    | true =>
      rw [wanted] at flag
      have inside : stream ∈ stripe.streams := by simp [listed]
      obtain ⟨values, read, holds⟩ | ⟨failure, read, fails⟩ :=
        read_stream_cases compression stream (shown stream inside flag)
      · simp only [readStreams, flag, read]
        exact ih (before ++ [stream]) _ next (longer fun _ => ⟨values, holds⟩) others
      · simp only [readStreams, flag, read]
        exact .inr ⟨failure, rfl, .stream before stream streams failure listed held flag fails⟩

theorem read_streams_unset (streams : List StreamInfo) (columns found : List (Option (List Value)))
    (read : readStreams file compression stripe included streams columns = .ok found) (column : Nat)
    (unset : included[column]? ≠ some true) : found[column]? = columns[column]? := by
  induction streams generalizing columns with
  | nil =>
    simp only [readStreams, Except.ok.injEq] at read
    rw [read]
  | cons stream streams ih =>
    obtain ⟨_, rest⟩ | ⟨values, wanted, _, rest⟩ := read_streams_cons _ _ _ _ _ _ _ _ read
    · exact ih columns rest
    · have apart : stream.column.toNat ≠ column := by
        intro same
        rw [same] at wanted
        exact unset wanted
      rw [ih _ rest, List.getElem?_set_ne apart]

-- Of the streams for a column, the last one counts.
theorem read_streams_last (streams : List StreamInfo) (columns found : List (Option (List Value)))
    (read : readStreams file compression stripe included streams columns = .ok found)
    (wide : columns.length = included.length) (column : Nat)
    (wanted : included[column]? = some true) :
    (∃ stream values, lastStream? column streams = some stream ∧
      readStream file compression stripe stream = .ok values ∧
      found[column]? = some (some values)) ∨
    (lastStream? column streams = none ∧ found[column]? = columns[column]?) := by
  induction streams generalizing columns with
  | nil =>
    simp only [readStreams, Except.ok.injEq] at read
    exact .inr ⟨rfl, by rw [read]⟩
  | cons stream streams ih =>
    rw [last_stream_cons]
    obtain ⟨unset, rest⟩ | ⟨values, _, content, rest⟩ := read_streams_cons _ _ _ _ _ _ _ _ read
    · have apart : stream.column.toNat ≠ column := by
        intro same
        rw [same, wanted] at unset
        cases unset
      rw [if_neg apart, Option.or_none]
      exact ih columns rest wide
    · obtain ⟨last, held, listed, readLast, there⟩ | ⟨unlisted, there⟩ :=
        ih _ rest (by rw [List.length_set, wide])
      · exact .inl ⟨last, held, by rw [listed, Option.some_or], readLast, there⟩
      · rw [unlisted, Option.none_or]
        by_cases here : stream.column.toNat = column
        · have short := (List.getElem?_eq_some_iff.mp wanted).1
          rw [here, List.getElem?_set_self (by omega)] at there
          rw [if_pos here]
          exact .inl ⟨stream, values, rfl, content, there⟩
        · rw [List.getElem?_set_ne here] at there
          rw [if_neg here]
          exact .inr ⟨rfl, there⟩

theorem missing_column_some (columns : List (Option (List Value))) (column : Nat)
    (missing : missingColumn? included columns = some column) :
    included[column]? = some true ∧ columns[column]? = some none ∧
      ∀ other < column, included[other]? = some true → columns[other]? ≠ some none := by
  rw [missingColumn?, List.findIdx?_eq_some_iff_getElem] at missing
  obtain ⟨short, here, before⟩ := missing
  rw [List.getElem_zip] at here
  rw [List.length_zip] at short
  simp only [Bool.and_eq_true, Option.isNone_iff_eq_none] at here
  refine ⟨?_, ?_, ?_⟩
  · rw [List.getElem?_eq_getElem (by omega), here.1]
  · rw [List.getElem?_eq_getElem (by omega), here.2]
  · intro other less wanted absent
    have both : (included.zip columns)[other]? = some (true, none) :=
      List.getElem?_zip_eq_some.mpr ⟨wanted, absent⟩
    have found := before other less
    rw [(List.getElem?_eq_some_iff.mp both).2] at found
    simp at found

theorem loaded_cells (shown : stripe.Shows file content included) (loaded : LoadedStripe)
    (loads : load file compression included stripe = .ok loaded)
    (present : stripe.rows.toNat ≠ 0 → ∀ column, included[column]? = some true →
      lastStream? column stripe.streams ≠ none) (place : Nat) (row : Row)
    (found : loaded.rows[place]? = some row) :
    row.width = included.length ∧ ∀ (column : Nat) (cell : Value), row.get? column = some cell →
      Cell content compression included stripe place column cell := by
  obtain ⟨read, left, _⟩ := load_columns file compression included stripe loaded loads
  have length := load_length file compression included stripe loaded loads
  rw [LoadedStripe.rows, List.getElem?_map] at found
  obtain ⟨same, inside, cells⟩ : ∃ same, (List.range loaded.rowsLeft)[place]? = some same ∧
      ⟨LoadedStripe.cellsAt loaded.columns same⟩ = row := Option.map_eq_some_iff.mp found
  obtain ⟨short, rfl⟩ := List.getElem?_eq_some_iff.mp inside
  rw [List.getElem_range] at cells
  rw [List.length_range] at short
  rw [← cells]
  refine ⟨by rw [Row.width, LoadedStripe.cellsAt, List.length_map, length], ?_⟩
  intro column cell shows
  rw [Row.get?, LoadedStripe.cellsAt, List.getElem?_map] at shows
  rw [Cell]
  by_cases wanted : included[column]? = some true
  · rw [if_pos wanted]
    obtain ⟨stream, values, listed, content, there⟩ | ⟨unlisted, _⟩ :=
      read_streams_last _ _ _ read (by rw [List.length_map]) column wanted
    · have member : stream ∈ stripe.streams ∧ stream.column.toNat = column := by
        have last := List.mem_of_getLast? listed
        simpa using last
      obtain ⟨raw, inflated, sized, decoded, counted⟩ := read_stream_holds shown stream member.1
        (by rw [member.2]; exact wanted) values content
      have within : place < values.length := by omega
      rw [there, Option.map_some, Option.some.injEq, Option.getD_some,
        List.getElem?_eq_getElem within, Option.getD_some] at shows
      exact ⟨stream, values, listed, ⟨raw, inflated, sized, decoded, counted⟩,
        by rw [List.getElem?_eq_getElem within, shows]⟩
    · exact absurd unlisted (present (by omega) column wanted)
  · rw [if_neg wanted]
    have there := read_streams_unset _ _ _ read column wanted
    rw [there, List.getElem?_map] at shows
    cases flag : included[column]? with
    | none => simp [flag] at shows
    | some set =>
      simp only [flag, Option.map_some, Option.getD_none, List.getElem?_nil, Option.some.injEq] at shows
      exact shows.symm

theorem load_cases (compression : Compression) {columns : Nat} (within : Within content columns stripe)
    (wide : included.length = columns) :
    (∃ loaded, load (.regular content) compression included stripe = .ok loaded ∧
      stripe.Means content compression included loaded.rows) ∨
    (∃ failure, load (.regular content) compression included stripe = .error failure ∧
      stripe.Fails content compression included failure) := by
  have shown := shows_within within included
  have known : ∀ stream ∈ stripe.streams, stream.column.toNat < included.length := by
    intro stream member
    have fits := within.streams stream member
    simp only [StreamInfo.fits, Bool.and_eq_true, decide_eq_true_eq] at fits
    omega
  have nothing : AllHold content compression included stripe [] := fun stream member => by cases member
  obtain ⟨found, read, held⟩ | ⟨failure, read, fails⟩ := read_streams_cases shown [] stripe.streams
    (included.map fun _ => none) rfl nothing known
  · have absent (column : Nat) (wanted : included[column]? = some true) :
        found[column]? = some none ↔ lastStream? column stripe.streams = none := by
      obtain ⟨stream, values, listed, _, there⟩ | ⟨unlisted, there⟩ :=
        read_streams_last _ _ _ read (by rw [List.length_map]) column wanted
      · simp [listed, there]
      · rw [there, List.getElem?_map, wanted]
        simp [unlisted]
    have filled (loaded : LoadedStripe)
        (loads : load (.regular content) compression included stripe = .ok loaded)
        (present : stripe.rows.toNat ≠ 0 → ∀ column, included[column]? = some true →
          lastStream? column stripe.streams ≠ none) :
        stripe.Means content compression included loaded.rows := by
      obtain ⟨_, left, _⟩ := load_columns _ _ _ _ _ loads
      exact ⟨held, present, by rw [LoadedStripe.length_rows, left],
        loaded_cells shown loaded loads present⟩
    by_cases empty : stripe.rows.toNat = 0
    · have loads : load (.regular content) compression included stripe =
          .ok ⟨found, stripe.rows.toNat⟩ := by
        simp only [load, read, if_pos empty]
      exact .inl ⟨_, loads, filled _ loads fun occupied => absurd empty occupied⟩
    · cases missing : missingColumn? included found with
      | none =>
        have loads : load (.regular content) compression included stripe =
            .ok ⟨found, stripe.rows.toNat⟩ := by
          simp only [load, read, if_neg empty, missing]
        refine .inl ⟨_, loads, filled _ loads fun _ column wanted unlisted => ?_⟩
        have there := (missing_column_none_iff included found).mp missing column none wanted
          ((absent column wanted).mpr unlisted)
        cases there
      | some column =>
        obtain ⟨wanted, here, before⟩ := missing_column_some found column missing
        refine .inr ⟨_, by simp only [load, read, if_neg empty, missing]; rfl, ?_⟩
        refine .column held empty column wanted ((absent column wanted).mp here) ?_
        intro other less flagged unlisted
        exact before other less flagged ((absent other flagged).mpr unlisted)
  · exact .inr ⟨failure, by simp only [load, read], fails⟩

theorem load_means {columns : Nat} (within : Within content columns stripe)
    (wide : included.length = columns) {rows : List Row}
    (means : stripe.Means content compression included rows) :
    ∃ loaded, load (.regular content) compression included stripe = .ok loaded ∧
      loaded.rows = rows := by
  obtain ⟨loaded, loads, found⟩ | ⟨failure, _, fails⟩ := load_cases compression within wide
  · exact ⟨loaded, loads, means_once found means⟩
  · exact absurd fails (means_not_fails means)

theorem load_fails {columns : Nat} (within : Within content columns stripe)
    (wide : included.length = columns) {failure : Failure}
    (fails : stripe.Fails content compression included failure) :
    ∃ other, load (.regular content) compression included stripe = .error other := by
  obtain ⟨loaded, _, means⟩ | ⟨other, loads, _⟩ := load_cases compression within wide
  · exact absurd fails (means_not_fails means)
  · exact ⟨other, loads⟩

theorem scan_means (compression : Compression) (stripes : List StripeInfo)
    (within : ∀ stripe ∈ stripes, Within content included.length stripe) :
    ∃ before behind, stripes = before ++ behind ∧
      AllMean content compression included before
        (scan (.regular content) compression included stripes).rows ∧
      ((behind = [] ∧ (scan (.regular content) compression included stripes).failure = none) ∨
        ∃ stripe rest failure, behind = stripe :: rest ∧
          stripe.Fails content compression included failure ∧
          (scan (.regular content) compression included stripes).failure = some failure) := by
  induction stripes with
  | nil => exact ⟨[], [], rfl, rfl, .inl ⟨rfl, rfl⟩⟩
  | cons stripe stripes ih =>
    simp only [scan]
    obtain ⟨loaded, loads, means⟩ | ⟨failure, loads, fails⟩ :=
      load_cases compression (within stripe (by simp)) rfl
    · obtain ⟨before, behind, same, mean, ends⟩ :=
        ih fun other member => within other (by simp [member])
      simp only [loads, Scan.behind]
      exact ⟨stripe :: before, behind, by rw [same]; rfl, ⟨_, _, rfl, means, mean⟩, ends⟩
    · simp only [loads, Scan.failed]
      exact ⟨[], stripe :: stripes, rfl, rfl, .inr ⟨stripe, stripes, failure, rfl, fails, rfl⟩⟩

end

theorem open_range_foretold {files : FileSystem} {path : Path} {container : Container}
    {content : Content} (accepted : Container.Accepted files path container content)
    (offset length : Nat) (inclusion : Inclusion) :
    ∃ rows, openRange files container offset length inclusion = .ok rows ∧ Sound rows ∧
      ahead files rows = scan (.regular content) container.compression
        (inclusion.topLevel container.types) (container.footer.stripesInRange offset length) := by
  obtain ⟨handle, shown, ranged⟩ := Container.open_rows accepted offset length inclusion
  refine ⟨_, ranged, ⟨rfl, fun stripe absent => by cases absent⟩, ?_⟩
  simp only [ahead, shown]
  rfl

end StripeRows

-- The rows of the stripes in front of the first that fails, in order, and then its failure forever.
theorem stripes_deliver_what_they_mean (files : FileSystem) (path : Path) (container : Container)
    (opens : Container.openPath files path = .ok container) (offset length : Nat)
    (inclusion : Inclusion) :
    ∃ content reader before behind rows ending,
      files.openFile path = .ok (.regular content) ∧
      StripeRows.openRange files container offset length inclusion = .ok reader ∧
      container.footer.stripesInRange offset length = before ++ behind ∧
      StripeInfo.AllMean content container.compression (inclusion.topLevel container.types) before
        rows ∧
      rows.length = StripeInfo.totalRows before ∧
      ((behind = [] ∧ ending = .ok false) ∨
        ∃ stripe rest failure, behind = stripe :: rest ∧
          stripe.Fails content container.compression (inclusion.topLevel container.types) failure ∧
          ending = .error failure) ∧
      ∀ slots, answers (StripeRows.next files) reader slots = answersOf ending rows slots := by
  obtain ⟨content, accepted⟩ := Container.open_path_accepts files path container opens
  obtain ⟨reader, ranged, sound, told⟩ :=
    StripeRows.open_range_foretold accepted offset length inclusion
  have within : ∀ stripe ∈ container.footer.stripesInRange offset length,
      StripeRows.Within content (inclusion.topLevel container.types).length stripe := by
    intro stripe member
    rw [Inclusion.length_top_level]
    exact Container.stripes_within accepted stripe (List.mem_filter.mp member).1
  obtain ⟨before, behind, split, mean, ends⟩ := StripeRows.scan_means container.compression _ within
  have answered := answers_ahead (StripeRows.next_foretold files) (StripeRows.next_stays files) reader
    sound
  rw [← told] at mean ends
  refine ⟨content, reader, before, behind, _, _, accepted.located, ranged, split, mean,
    StripeInfo.all_mean_length _ _ mean, ?_, answered⟩
  obtain ⟨finished, clean⟩ | ⟨stripe, rest, failure, first, fails, failed⟩ := ends
  · exact .inl ⟨finished, by simp only [Scan.ending, clean]⟩
  · exact .inr ⟨stripe, rest, failure, first, fails, by simp only [Scan.ending, failed]⟩

namespace Example

theorem stored_stream_holds (content : Content) (stripe : StripeInfo) (stream : StreamInfo)
    (values : List Value) (rest : Bytes)
    (bytes : stream.bytesIn content stripe = Value.encodeStream values ++ rest)
    (sized : (Value.encodeStream values ++ rest).length = stream.rawLength.toNat)
    (shallow : Value.levelsOfAll values < Value.depthLimit)
    (counted : values.length = stripe.rows.toNat) :
    stream.Holds content .stored stripe values := by
  have small : (Value.encodeStream values).length < UInt64.size := by
    have below := stream.rawLength.toNat_lt
    rw [List.length_append] at sized
    exact Nat.lt_of_le_of_lt (by omega) below
  have decoded := Value.decode_stream_encode values rest small
  rw [if_pos shallow] at decoded
  exact ⟨_, by rw [bytes]; rfl, sized, decoded, counted⟩

theorem empty_stripe_means (content : Content)
    (bytes : (⟨0, 0, 1, 1⟩ : StreamInfo).bytesIn content emptyStripe = Value.encodeStream []) :
    emptyStripe.Means content .stored [true, true] [] := by
  have holds := stored_stream_holds content emptyStripe ⟨0, 0, 1, 1⟩ [] [] bytes rfl (by decide) rfl
  refine ⟨?_, fun filled => absurd rfl filled, rfl, fun place row found => by cases found⟩
  intro stream member _
  rw [emptyStripe, List.mem_singleton] at member
  rw [member]
  exact ⟨[], holds⟩

theorem row_stripe_means (content : Content)
    (first : (⟨0, 0, 8, 8⟩ : StreamInfo).bytesIn content rowStripe = Value.encodeStream [.long 5])
    (second : (⟨1, 8, 6, 6⟩ : StreamInfo).bytesIn content rowStripe = Value.encodeStream [.null]) :
    rowStripe.Means content .stored [true, true] [⟨[.long 5, .null]⟩] := by
  have numbers := stored_stream_holds content rowStripe ⟨0, 0, 8, 8⟩ [.long 5] [] first rfl (by decide)
    rfl
  have nulls := stored_stream_holds content rowStripe ⟨1, 8, 6, 6⟩ [.null] [] second rfl (by decide) rfl
  refine ⟨?_, ?_, rfl, ?_⟩
  · intro stream member _
    rw [rowStripe] at member
    cases member with
    | head => exact ⟨_, numbers⟩
    | tail _ second =>
      rw [List.mem_singleton.mp second]
      exact ⟨_, nulls⟩
  · intro _ column wanted
    match column with
    | 0 => decide
    | 1 => decide
    | column + 2 => cases wanted
  · intro place row found
    match place with
    | place + 1 => cases found
    | 0 =>
      cases found
      refine ⟨rfl, fun column cell shows => ?_⟩
      match column with
      | 0 =>
        cases shows
        exact ⟨_, _, rfl, numbers, rfl⟩
      | 1 =>
        cases shows
        exact ⟨_, _, rfl, nulls, rfl⟩
      | column + 2 => cases shows

theorem stripes_within (body : Bytes) (long : body.length = gappedBody.length) :
    ∀ stripe ∈ gappedFooter.stripes, StripeRows.Within (bodyContent body) 2 stripe := by
  intro stripe member
  obtain ⟨content, accepted⟩ := Container.open_path_accepts _ "t" _ (body_opens body long)
  have located := accepted.located
  rw [body_located, Except.ok.injEq, OpenFile.regular.injEq] at located
  rw [located]
  exact Container.stripes_within accepted stripe member

theorem gapped_stripes_mean :
    StripeInfo.AllMean (bodyContent gappedBody) .stored [true, true] gappedFooter.stripes
      [⟨[.long 5, .null]⟩] :=
  ⟨[], _, rfl, empty_stripe_means _ rfl, _, [], rfl, row_stripe_means _ rfl rfl, rfl⟩

end Example

theorem gapped_rows_are_delivered :
    Container.openPath (Example.bodyFiles Example.gappedBody) "t" =
        .ok (Example.container Example.gappedBody) ∧
      ∃ reader,
        StripeRows.openRange (Example.bodyFiles Example.gappedBody)
          (Example.container Example.gappedBody) 0 5000 .all = .ok reader ∧
        ∀ slots, answers (StripeRows.next (Example.bodyFiles Example.gappedBody))
          reader slots = answersOf (.ok false) [⟨[.long 5, .null]⟩] slots := by
  have opens := Example.body_opens Example.gappedBody rfl
  obtain ⟨content, reader, before, behind, rows, ending, located, ranged, split, mean, _, ends,
    answered⟩ := stripes_deliver_what_they_mean _ "t" _ opens 0 5000 .all
  rw [Example.body_located, Except.ok.injEq, OpenFile.regular.injEq] at located
  have whole := Example.gapped_stripes_mean
  have all : Example.gappedFooter.stripes = before ++ behind := split
  rw [all, located] at whole
  obtain ⟨finished, same⟩ := StripeInfo.all_mean_ends whole mean (by
    obtain ⟨finished, _⟩ | ⟨stripe, rest, failure, first, fails, _⟩ := ends
    · exact .inl finished
    · exact .inr ⟨stripe, rest, failure, first, fails⟩)
  obtain ⟨_, ended⟩ | ⟨stripe, rest, failure, first, _, _⟩ := ends
  · rw [ended, same] at answered
    exact ⟨opens, reader, ranged, answered⟩
  · rw [finished] at first
    cases first

end Columnar
