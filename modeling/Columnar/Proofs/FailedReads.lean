import Columnar.Proofs.StripeMeaning

set_option autoImplicit false

namespace Columnar

namespace StripeRows

-- Whether a source over some stripes has returned the rows of those in front of its next one, less
-- what is left of the one at hand.
structure Counted (selected : List StripeInfo) (rows : StripeRows) : Prop where
  returned : ∃ before, selected = before ++ rows.stripes ∧
    rows.rowsReturned + rows.currentRows.length = StripeInfo.totalRows before
  total : rows.totalRows = StripeInfo.totalRows selected

theorem counted_within {selected : List StripeInfo} {rows : StripeRows}
    (counted : Counted selected rows) : rows.rowsReturned ≤ rows.totalRows := by
  obtain ⟨⟨before, split, sum⟩, total⟩ := counted
  rw [total, split, total_rows_append]
  omega

theorem step_counted {file : OpenFile} {rows : StripeRows} {slot : Row} {decoded : List StripeInfo}
    {polled : Polled StripeRows} {selected : List StripeInfo}
    (step : Step file rows slot decoded polled) (counted : Counted selected rows) :
    Counted selected polled.source := by
  have split := step_stripes step
  have kept := (step_keeps step).2.2.2
  obtain ⟨⟨before, whole, sum⟩, total⟩ := counted
  refine ⟨⟨before ++ decoded, by rw [whole, split, List.append_assoc], ?_⟩, kept.trans total⟩
  rw [total_rows_append, ← sum]
  cases step with
  | here columns left current =>
    rw [current_rows_behind columns left current, List.length_cons]
    simp only [behindFirst, StripeInfo.totalRows]
    omega
  | onward passed stripe rest columns left spent stripes empty loads =>
    have rowless := total_rows_all_empty passed empty
    have loadedRows := (load_columns _ _ _ _ _ loads).2.1
    simp only at loadedRows
    rw [spent, total_rows_append, rowless]
    simp only [behindFirst, currentRows, Option.map_some, Option.getD_some, LoadedStripe.length_rows,
      StripeInfo.totalRows, List.length_nil]
    omega
  | ended spent empty =>
    rw [spent, total_rows_all_empty _ empty]
    rfl
  | failed passed stripe rest failure spent stripes empty fails =>
    rw [spent, total_rows_all_empty _ empty]
    rfl

def decodedBetween (before after : StripeRows) : List StripeInfo :=
  before.stripes.take (before.stripes.length - after.stripes.length)

theorem step_decoded {file : OpenFile} {rows : StripeRows} {slot : Row} {decoded : List StripeInfo}
    {polled : Polled StripeRows} (step : Step file rows slot decoded polled) :
    decodedBetween rows polled.source = decoded := by
  have split := step_stripes step
  have count : rows.stripes.length - polled.source.stripes.length = decoded.length := by
    rw [split, List.length_append]
    omega
  rw [decodedBetween, count, split, List.take_left]

end StripeRows

namespace RecordReader

open StripeRows (AllEmpty Step Sound Counted aheadIn decodedBetween load)

def nextIn (reader : RecordReader) (call : FileSystem × Row) : Polled RecordReader :=
  reader.next call.1 call.2

def rows (reader : RecordReader) : StripeRows := reader.reader.rows

-- Whether each stripe showed the bytes of a content when it was decoded.
def Undamaged (content : Content) (handle : Handle) (included : List Bool) (reader : RecordReader) :
    List (FileSystem × Row) → Prop
  | [] => True
  | call :: calls =>
    (∀ stripe ∈ decodedBetween reader.rows (reader.nextIn call).source.rows,
      stripe.Shows (call.1.view handle) content included) ∧
    Undamaged content handle included (reader.nextIn call).source calls

def Attempts (handle : Handle) (compression : Compression) (included : List Bool)
    (stripe : StripeInfo) (reader : RecordReader) : Prop :=
  ∀ call : FileSystem × Row,
    (∀ cause, load (call.1.view handle) compression included stripe = .error cause →
      (reader.nextIn call).more = .error (withPath reader.path cause)) ∧
    (∀ loaded row others, load (call.1.view handle) compression included stripe = .ok loaded →
      loaded.rows = row :: others →
      (reader.nextIn call).more = .ok true ∧ (reader.nextIn call).slot = row)

-- What a failed call does: it passes stripes without rows, up to one that it cannot decode, and
-- leaves that one to the next call.
def FailsAt (handle : Handle) (compression : Compression) (included : List Bool)
    (reader : RecordReader) (call : FileSystem × Row) (failure : Failure) : Prop :=
  (reader.nextIn call).source.rows.rowsReturned = reader.rows.rowsReturned ∧
    ∃ passed stripe rest cause, reader.rows.stripes = passed ++ stripe :: rest ∧
      AllEmpty (call.1.view handle) reader.rows passed ∧ StripeInfo.totalRows passed = 0 ∧
      (reader.nextIn call).source.rows.stripes = stripe :: rest ∧
      load (call.1.view handle) compression included stripe = .error cause ∧
      failure = withPath reader.path cause ∧
      Attempts handle compression included stripe (reader.nextIn call).source

structure Reads (path : Path) (handle : Handle) (compression : Compression) (included : List Bool)
    (selected : List StripeInfo) (reader : RecordReader) : Prop where
  path : reader.path = path
  handle : reader.rows.handle = some handle
  compression : reader.rows.compression = compression
  included : reader.rows.included = included
  sound : Sound reader.rows
  counted : Counted selected reader.rows
  state : reader.reader.state = .opened ∨ reader.reader.state = .exhausted
  ended : reader.reader.state = .exhausted → ∀ file, aheadIn file reader.rows = .nothing

section

variable {path : Path} {handle : Handle} {compression : Compression} {included : List Bool}
  {selected : List StripeInfo} {reader : RecordReader}

theorem next_in_cases (reads : Reads path handle compression included selected reader)
    (call : FileSystem × Row) :
    (reader.reader.state = .exhausted ∧ reader.nextIn call = ⟨.ok false, call.2, reader⟩) ∨
    (∃ decoded polled, Step (call.1.view handle) reader.rows call.2 decoded polled ∧
      (reader.nextIn call).more = polled.more.mapError (withPath path) ∧
      (reader.nextIn call).slot = polled.slot ∧
      (reader.nextIn call).source.rows = polled.source ∧
      (reader.nextIn call).source.path = path ∧
      (((reader.nextIn call).source.reader.state = .exhausted ∧ polled.more = .ok false) ∨
        ((reader.nextIn call).source.reader.state = .opened ∧ polled.more ≠ .ok false))) := by
  obtain opened | exhausted := reads.state
  · obtain ⟨decoded, step⟩ :=
      StripeRows.next_steps call.2 reads.handle reads.sound
    obtain ⟨more, slot, source, state⟩ :=
      SplitReader.advance_of_opened (StripeRows.source call.1) reader.reader call.2 opened
    refine .inr ⟨decoded, _, step, ?_, slot, source, reads.path, state⟩
    rw [nextIn, next, more, reads.path]
    rfl
  · exact .inl ⟨exhausted, next_of_exhausted call.1 reader call.2 exhausted⟩

theorem next_in_reads (reads : Reads path handle compression included selected reader)
    (call : FileSystem × Row) :
    Reads path handle compression included selected (reader.nextIn call).source := by
  obtain ⟨_, same⟩ | ⟨decoded, polled, step, _, _, source, named, state⟩ := next_in_cases reads call
  · rw [same]
    exact reads
  · obtain ⟨keptHandle, keptCompression, keptIncluded, _⟩ := StripeRows.step_keeps step
    rw [← source] at keptHandle keptCompression keptIncluded
    refine ⟨named, keptHandle.trans reads.handle, keptCompression.trans reads.compression,
      keptIncluded.trans reads.included, ?_, ?_, ?_, ?_⟩
    · rw [source]
      exact StripeRows.step_sound step reads.sound
    · rw [source]
      exact StripeRows.step_counted step reads.counted
    · obtain ⟨exhausted, _⟩ | ⟨opened, _⟩ := state
      · exact .inr exhausted
      · exact .inl opened
    · intro exhausted file
      obtain ⟨_, ended⟩ | ⟨opened, _⟩ := state
      · rw [source]
        exact StripeRows.step_ended file step ended
      · rw [opened] at exhausted
        cases exhausted

theorem after_calls_reads (reads : Reads path handle compression included selected reader)
    (calls : List (FileSystem × Row)) :
    Reads path handle compression included selected (afterCalls nextIn reader calls) := by
  induction calls generalizing reader with
  | nil => exact reads
  | cons call calls ih => exact ih (next_in_reads reads call)

theorem attempts_next (reads : Reads path handle compression included selected reader)
    (opened : reader.reader.state = .opened) (current : reader.rows.current = none)
    (stripe : StripeInfo) (rest : List StripeInfo) (stripes : reader.rows.stripes = stripe :: rest) :
    Attempts handle compression included stripe reader := by
  intro call
  have asked : StripeRows.next call.1 reader.rows call.2 =
      StripeRows.nextStripe call.1 reader.rows call.2 (stripe :: rest) := by
    simp only [StripeRows.next, current, stripes]
  obtain ⟨more, slot, _, _⟩ :=
    SplitReader.advance_of_opened (StripeRows.source call.1) reader.reader call.2 opened
  have answered : (StripeRows.source call.1).next reader.reader.rows call.2 =
      StripeRows.nextStripe call.1 reader.rows call.2 (stripe :: rest) := asked
  rw [answered] at more slot
  simp only [StripeRows.nextStripe, reads.handle, reads.compression, reads.included] at more slot
  refine ⟨?_, ?_⟩
  · intro cause fails
    simp only [fails] at more
    rw [nextIn, next, more]
    rfl
  · intro loaded row others loads found
    have even := StripeRows.load_even _ _ _ _ _ loads
    obtain ⟨occupied, first⟩ := LoadedStripe.of_rows_cons loaded row others found
    simp only [loads, if_neg occupied, StripeRows.deliver_even _ _ call.2 even occupied] at more slot
    rw [first] at slot
    refine ⟨?_, slot⟩
    rw [nextIn, next, more]
    rfl

theorem failed_call (reads : Reads path handle compression included selected reader)
    (call : FileSystem × Row) (failure : Failure)
    (fails : (reader.nextIn call).more = .error failure) :
    FailsAt handle compression included reader call failure := by
  have after := next_in_reads reads call
  obtain ⟨_, same⟩ | ⟨decoded, polled, step, more, _, source, _, state⟩ := next_in_cases reads call
  · rw [same] at fails
    cases fails
  · rw [more] at fails
    cases step with
    | here columns left current => cases fails
    | onward passed stripe rest columns left spent stripes empty loads => cases fails
    | ended spent empty => cases fails
    | failed passed stripe rest cause spent stripes empty refused =>
      obtain ⟨_, ended⟩ | ⟨opened, _⟩ := state
      · cases ended
      · have attempts := attempts_next after opened (by rw [source]) stripe rest (by rw [source])
        rw [reads.compression, reads.included] at refused
        simp only [Except.mapError, Except.error.injEq] at fails
        exact ⟨by rw [source], decoded, stripe, rest, cause, stripes, empty,
          StripeRows.total_rows_all_empty _ empty, by rw [source], refused,
          by rw [reads.path, fails], attempts⟩

theorem ended_call (reads : Reads path handle compression included selected reader)
    (call : FileSystem × Row) (ends : (reader.nextIn call).more = .ok false) :
    (reader.nextIn call).source.reader.state = .exhausted := by
  obtain ⟨exhausted, same⟩ | ⟨_, polled, _, more, _, _, _, state⟩ := next_in_cases reads call
  · rw [same]
    exact exhausted
  · obtain ⟨exhausted, _⟩ | ⟨_, others⟩ := state
    · exact exhausted
    · rw [more] at ends
      cases asked : polled.more with
      | error failure =>
        rw [asked] at ends
        cases ends
      | ok found =>
        rw [asked] at ends others
        cases ends
        exact absurd rfl others

theorem exhausted_stays (exhausted : reader.reader.state = .exhausted)
    (calls : List (FileSystem × Row)) : afterCalls nextIn reader calls = reader := by
  induction calls with
  | nil => rfl
  | cons call calls ih =>
    rw [afterCalls, nextIn, next_of_exhausted call.1 reader call.2 exhausted, ih]

theorem ended_ahead (reads : Reads path handle compression included selected reader)
    (calls : List (FileSystem × Row)) (file : OpenFile)
    (ended : ∃ answer ∈ answers nextIn reader calls, answer.1 = .ok false) :
    aheadIn file (afterCalls nextIn reader calls).rows = .nothing := by
  induction calls generalizing reader with
  | nil =>
    obtain ⟨_, member, _⟩ := ended
    cases member
  | cons call calls ih =>
    obtain ⟨answer, member, ends⟩ := ended
    have after := next_in_reads reads call
    rw [answers, List.mem_cons] at member
    cases member with
    | inr later => exact ih after ⟨answer, later, ends⟩
    | inl here =>
      rw [here] at ends
      have exhausted := ended_call reads call ends
      rw [afterCalls, exhausted_stays exhausted]
      exact after.ended exhausted file

variable {content : Content}

-- What is ahead in the content of old grows less by the rows that are delivered, whatever the files
-- are, as long as stripes are decoded from the bytes of old.
theorem next_in_ahead (reads : Reads path handle compression included selected reader)
    (original : ∀ stripe ∈ selected, stripe.Shows (.regular content) content included)
    (call : FileSystem × Row)
    (shown : ∀ stripe ∈ decodedBetween reader.rows (reader.nextIn call).source.rows,
      stripe.Shows (call.1.view handle) content included) :
    aheadIn (.regular content) reader.rows =
      .behind (delivered [((reader.nextIn call).more, (reader.nextIn call).slot)])
        (aheadIn (.regular content) (reader.nextIn call).source.rows) := by
  obtain ⟨_, same⟩ | ⟨decoded, polled, step, more, slot, source, _, _⟩ := next_in_cases reads call
  · rw [same]
    rfl
  · rw [source, StripeRows.step_decoded step] at shown
    obtain ⟨before, split, _⟩ := reads.counted.returned
    have stripes := StripeRows.step_stripes step
    have alike : ∀ stripe ∈ decoded,
        load (.regular content) reader.rows.compression reader.rows.included stripe =
          load (call.1.view handle) reader.rows.compression reader.rows.included stripe := by
      intro stripe member
      rw [reads.included]
      exact StripeRows.load_shown (original stripe (by simp [split, stripes, member]))
        (shown stripe member)
    rw [more, slot, source]
    obtain ⟨found, ahead⟩ | ⟨ends, _, ahead⟩ := StripeRows.step_ahead (.regular content) step alike
    · rw [found, ahead]
      rfl
    · rw [ahead]
      cases asked : polled.more with
      | error failure => rfl
      | ok flag =>
        cases flag with
        | false => rfl
        | true => exact absurd asked ends

theorem undamaged_ahead (reads : Reads path handle compression included selected reader)
    (original : ∀ stripe ∈ selected, stripe.Shows (.regular content) content included)
    (calls : List (FileSystem × Row)) (undamaged : Undamaged content handle included reader calls) :
    aheadIn (.regular content) reader.rows =
      .behind (delivered (answers nextIn reader calls))
        (aheadIn (.regular content) (afterCalls nextIn reader calls).rows) := by
  induction calls generalizing reader with
  | nil => rfl
  | cons call calls ih =>
    obtain ⟨shown, others⟩ := undamaged
    have rest := ih (next_in_reads reads call) others
    rw [next_in_ahead reads original call shown, rest, Scan.behind_behind, answers, afterCalls,
      delivered_cons _ (answers nextIn (reader.nextIn call).source calls)]

end

theorem of_range_reads {files : FileSystem} {path : Path} {container : Container}
    {content : Content} (accepted : Container.Accepted files path container content)
    (offset length : Nat) (inclusion : Inclusion) :
    ∃ handle reader, files.view handle = .regular content ∧
      ofRange files container offset length inclusion = .ok reader ∧
      reader.reader.state = .opened ∧
      Reads path handle container.compression (inclusion.topLevel container.types)
        (container.footer.stripesInRange offset length) reader := by
  obtain ⟨handle, shown, ranged⟩ := Container.open_rows accepted offset length inclusion
  refine ⟨handle, _, shown, of_range_opens ranged, rfl, ?_⟩
  exact {
    path := accepted.named
    handle := rfl
    compression := rfl
    included := rfl
    sound := ⟨rfl, fun stripe absent => by cases absent⟩
    counted := ⟨⟨[], rfl, rfl⟩, rfl⟩
    state := .inl rfl
    ended := fun exhausted => by cases exhausted }

end RecordReader

-- Each call may find the files in another state. A failed call can pass stripes without rows, but
-- never the stripe that made it fail.
theorem failed_reads_pass_no_rows (files : FileSystem) (path : Path) (container : Container)
    (opens : Container.openPath files path = .ok container) (offset length : Nat)
    (inclusion : Inclusion) :
    ∃ content handle reader scan,
      files.openFile path = .ok (.regular content) ∧ files.view handle = .regular content ∧
      RecordReader.ofRange files container offset length inclusion = .ok reader ∧
      reader.rows.handle = some handle ∧
      (∀ other, Drains (RecordReader.next files) reader other ↔ other = scan) ∧
      ∀ calls,
        StripeRows.Counted (container.footer.stripesInRange offset length)
          (afterCalls RecordReader.nextIn reader calls).rows ∧
        (afterCalls RecordReader.nextIn reader calls).rows.rowsReturned ≤
          (afterCalls RecordReader.nextIn reader calls).rows.totalRows ∧
        (∀ call failure,
          ((afterCalls RecordReader.nextIn reader calls).nextIn call).more = .error failure →
            RecordReader.FailsAt handle container.compression (inclusion.topLevel container.types)
              (afterCalls RecordReader.nextIn reader calls) call failure) ∧
        (RecordReader.Undamaged content handle (inclusion.topLevel container.types) reader calls →
          delivered (answers RecordReader.nextIn reader calls) <+: scan.rows ∧
          ((∃ answer ∈ answers RecordReader.nextIn reader calls, answer.1 = .ok false) →
            delivered (answers RecordReader.nextIn reader calls) = scan.rows ∧
              scan.failure = none)) := by
  obtain ⟨content, accepted⟩ := Container.open_path_accepts files path container opens
  obtain ⟨handle, reader, shown, ranged, opened, reads⟩ :=
    RecordReader.of_range_reads accepted offset length inclusion
  have original : ∀ stripe ∈ container.footer.stripesInRange offset length,
      stripe.Shows (.regular content) content (inclusion.topLevel container.types) := by
    intro stripe member
    exact StripeRows.shows_within
      (Container.stripes_within accepted stripe (List.mem_filter.mp member).1) _
  have ahead : RecordReader.ahead files reader =
      (StripeRows.aheadIn (.regular content) reader.rows).mapFailure
        (RecordReader.withPath reader.path) := by
    simp only [RecordReader.ahead, SplitReader.aheadOf, opened]
    rw [StripeRows.ahead_opened files reader.reader.rows handle reads.handle, shown]
    rfl
  refine ⟨content, handle, reader, _, accepted.located, shown, ranged, reads.handle,
    drains_iff (RecordReader.next_foretold files) reader fun _ => reads.sound, fun calls => ?_⟩
  have now := RecordReader.after_calls_reads reads calls
  refine ⟨now.counted, StripeRows.counted_within now.counted, ?_, ?_⟩
  · intro call failure fails
    exact RecordReader.failed_call now call failure fails
  · intro undamaged
    have told := RecordReader.undamaged_ahead reads original calls undamaged
    rw [ahead, told]
    refine ⟨List.prefix_append _ _, fun ended => ?_⟩
    rw [RecordReader.ended_ahead reads calls _ ended]
    exact ⟨(List.append_nil _).symm, rfl⟩

namespace Example

-- A body whose second stripe has too few values, and one whose first stripe breaks off.
def fewValues : Bytes := gappedBody.set 2 0x80

def cutValues : Bytes := gappedBody.set 0 0x81

def readerAt (stripes : List StripeInfo) : RecordReader :=
  ⟨.start ⟨some (.file 0), .stored, stripes, [true, true], none, 0, 1⟩ 0 5000 .all 2,
    gappedFooter.types, "t"⟩

theorem reader_opens :
    RecordReader.ofRange (bodyFiles gappedBody) (container gappedBody) 0 5000 .all =
      .ok (readerAt gappedFooter.stripes) := by
  have handle : (bodyFiles gappedBody).openPath (container gappedBody).path = .ok (.file 0) :=
    body_handle _
  simp only [RecordReader.ofRange, SplitReader.openRange, StripeRows.openRange, handle]
  rfl

theorem few_values_fail :
    rowStripe.Fails (bodyContent fewValues) .stored [true, true]
      (.format (.columnCount 5 0 0 1)) := by
  have decoded := Value.decode_stream_encode [] [0xA1, 0x64, 0x4C, 0x6F, 0x6E, 0x67, 0x05] (by decide)
  rw [if_pos (by decide)] at decoded
  have fails : (⟨0, 0, 8, 8⟩ : StreamInfo).Fails (bodyContent fewValues) .stored rowStripe
      (.format (.columnCount 5 0 0 1)) := .count _ rfl rfl [] decoded (by decide)
  exact .stream [] _ _ _ rfl (fun stream member => by cases member) rfl fails

theorem cut_values_fail :
    emptyStripe.Fails (bodyContent cutValues) .stored [true, true]
      (.format (.columnDecode 3 0 .ended)) := by
  have decoded : Value.decodeStream [0x81] = .error .ended := by cbv
  have fails : (⟨0, 0, 1, 1⟩ : StreamInfo).Fails (bodyContent cutValues) .stored emptyStripe
      (.format (.columnDecode 3 0 .ended)) := .decoding _ rfl rfl _ decoded
  exact .stream [] _ _ _ rfl (fun stream member => by cases member) rfl fails

theorem few_values_asked (slot : Row) :
    ∃ failure, (readerAt gappedFooter.stripes).nextIn (bodyFiles fewValues, slot) =
      ⟨.error failure, slot, readerAt [rowStripe]⟩ := by
  have view : (bodyFiles fewValues).view (.file 0) = .regular (bodyContent fewValues) := rfl
  obtain ⟨loaded, loads, rowless⟩ := StripeRows.load_means
    (stripes_within fewValues rfl emptyStripe (by simp [gappedFooter])) rfl
    (empty_stripe_means (bodyContent fewValues) rfl)
  obtain ⟨failure, refused⟩ := StripeRows.load_fails
    (stripes_within fewValues rfl rowStripe (by simp [gappedFooter])) rfl few_values_fail
  have empty : loaded.rowsLeft = 0 := by
    rw [← LoadedStripe.length_rows, rowless]
    rfl
  refine ⟨RecordReader.withPath "t" failure, ?_⟩
  simp only [RecordReader.nextIn, RecordReader.next, SplitReader.advanceInto, readerAt,
    SplitReader.start, StripeRows.source, StripeRows.next, gappedFooter, StripeRows.nextStripe, view,
    loads, refused, if_pos empty]
  rfl

theorem row_asked (body : Bytes) (long : body.length = gappedBody.length)
    (first : (⟨0, 0, 8, 8⟩ : StreamInfo).bytesIn (bodyContent body) rowStripe =
      Value.encodeStream [.long 5])
    (second : (⟨1, 8, 6, 6⟩ : StreamInfo).bytesIn (bodyContent body) rowStripe =
      Value.encodeStream [.null]) (slot : Row) :
    ∃ last, (readerAt [rowStripe]).nextIn (bodyFiles body, slot) =
        ⟨.ok true, ⟨[.long 5, .null]⟩, last⟩ ∧ last.rows.stripes = [] ∧
      ∀ call, (last.nextIn call).more = .ok false ∧ (last.nextIn call).slot = call.2 := by
  have view : (bodyFiles body).view (.file 0) = .regular (bodyContent body) := rfl
  obtain ⟨⟨columns, count⟩, loads, found⟩ := StripeRows.load_means
    (stripes_within body long rowStripe (by simp [gappedFooter])) rfl
    (row_stripe_means (bodyContent body) first second)
  obtain rfl : count = 1 := by
    have counted := congrArg List.length found
    rwa [LoadedStripe.length_rows] at counted
  have even := StripeRows.load_even _ _ _ _ _ loads
  rw [LoadedStripe.rows_succ, List.cons.injEq] at found
  have asked : (StripeRows.source (bodyFiles body)).next (readerAt [rowStripe]).reader.rows slot =
      ⟨.ok true, ⟨[.long 5, .null]⟩, ⟨some (.file 0), .stored, [], [true, true],
        some ⟨columns.map (Option.map List.tail), 0⟩, 1, 1⟩⟩ := by
    simp only [readerAt, SplitReader.start, StripeRows.source, StripeRows.next, StripeRows.nextStripe,
      view, loads, if_neg Nat.one_ne_zero, StripeRows.deliver_even _ _ slot even Nat.one_ne_zero,
      found.1]
  have opened : (readerAt [rowStripe]).reader.state = .opened := rfl
  refine ⟨((readerAt [rowStripe]).nextIn (bodyFiles body, slot)).source, ?_⟩
  simp only [RecordReader.nextIn, RecordReader.next, SplitReader.advanceInto, opened, asked]
  exact ⟨rfl, rfl, fun call => ⟨rfl, rfl⟩⟩

-- The calls: one while the second stripe has too few values, and two with the file as it was.
def callsAround : List (FileSystem × Row) :=
  [(bodyFiles fewValues, .blank 2), (bodyFiles gappedBody, .blank 2), (bodyFiles gappedBody, .blank 2)]

theorem calls_around_answered :
    RecordReader.Undamaged (bodyContent gappedBody) (.file 0) [true, true]
        (readerAt gappedFooter.stripes) callsAround ∧
      ∃ failure, answers RecordReader.nextIn (readerAt gappedFooter.stripes) callsAround =
        [(.error failure, .blank 2), (.ok true, ⟨[.long 5, .null]⟩), (.ok false, .blank 2)] := by
  obtain ⟨failure, fails⟩ := few_values_asked (.blank 2)
  obtain ⟨last, found, spent, ends⟩ := row_asked gappedBody rfl rfl rfl (.blank 2)
  obtain ⟨more, slot⟩ := ends (bodyFiles gappedBody, .blank 2)
  refine ⟨?_, failure, ?_⟩
  · have passed : StripeRows.decodedBetween (readerAt gappedFooter.stripes).rows
        (readerAt [rowStripe]).rows = [emptyStripe] := rfl
    have loaded : StripeRows.decodedBetween (readerAt [rowStripe]).rows last.rows = [rowStripe] := by
      rw [StripeRows.decodedBetween, spent]
      rfl
    have nothing (after : StripeRows) : StripeRows.decodedBetween last.rows after = [] := by
      rw [StripeRows.decodedBetween, spent, List.take_nil]
    simp only [RecordReader.Undamaged, callsAround, fails, found, passed, loaded, nothing,
      List.mem_singleton, forall_eq, List.not_mem_nil, false_implies, implies_true, and_true]
    refine ⟨?_, ?_⟩
    · have shown := StripeRows.shows_within
        (stripes_within fewValues rfl emptyStripe (by simp [gappedFooter])) [true, true]
      intro stream member wanted
      have same := shown stream member wanted
      simp only [emptyStripe, List.mem_singleton] at member
      rw [member] at same ⊢
      exact same
    · exact StripeRows.shows_within
        (stripes_within gappedBody rfl rowStripe (by simp [gappedFooter])) _
  · simp only [answers, callsAround, fails, found, more, slot]

end Example

theorem row_is_delivered_after_failure :
    Container.openPath (Example.bodyFiles Example.gappedBody) "t" =
        .ok (Example.container Example.gappedBody) ∧
      RecordReader.ofRange (Example.bodyFiles Example.gappedBody) (Example.container Example.gappedBody)
        0 5000 .all = .ok (Example.readerAt Example.gappedFooter.stripes) ∧
      RecordReader.Undamaged (Example.bodyContent Example.gappedBody) (.file 0) [true, true]
        (Example.readerAt Example.gappedFooter.stripes) Example.callsAround ∧
      (∃ failure, answers RecordReader.nextIn (Example.readerAt Example.gappedFooter.stripes)
        Example.callsAround =
          [(.error failure, .blank 2), (.ok true, ⟨[.long 5, .null]⟩), (.ok false, .blank 2)]) ∧
      ∀ scan, Drains (RecordReader.next (Example.bodyFiles Example.gappedBody))
        (Example.readerAt Example.gappedFooter.stripes) scan ↔ scan = ⟨[⟨[.long 5, .null]⟩], none⟩ := by
  have opens := Example.body_opens Example.gappedBody rfl
  obtain ⟨undamaged, failure, answered⟩ := Example.calls_around_answered
  obtain ⟨content, handle, reader, scan, located, _, ranged, opened, drains, run⟩ :=
    failed_reads_pass_no_rows _ "t" _ opens 0 5000 .all
  rw [Example.body_located, Except.ok.injEq, OpenFile.regular.injEq] at located
  have same : Example.readerAt Example.gappedFooter.stripes = reader :=
    Except.ok.inj (Example.reader_opens.symm.trans ranged)
  rw [← same] at opened drains run
  cases opened
  rw [← located] at run
  obtain ⟨_, _, _, delivers⟩ := run Example.callsAround
  obtain ⟨_, whole⟩ := delivers undamaged
  rw [answered] at whole
  obtain ⟨rows, clean⟩ := whole ⟨(.ok false, .blank 2), by simp, rfl⟩
  have all : scan = ⟨[⟨[.long 5, .null]⟩], none⟩ := by
    cases scan
    rw [Scan.mk.injEq]
    exact ⟨rows.symm, clean⟩
  rw [all] at drains
  exact ⟨opens, Example.reader_opens, undamaged, ⟨failure, answered⟩, drains⟩

-- Behind a failed call, the stripe that the call passed is not tried again.
theorem failed_call_moves_next_stripe :
    Container.openPath (Example.bodyFiles Example.gappedBody) "t" =
        .ok (Example.container Example.gappedBody) ∧
      RecordReader.ofRange (Example.bodyFiles Example.gappedBody) (Example.container Example.gappedBody)
        0 5000 .all = .ok (Example.readerAt Example.gappedFooter.stripes) ∧
      (∃ failure, ((Example.readerAt Example.gappedFooter.stripes).nextIn
        (Example.bodyFiles Example.fewValues, .blank 2)).more = .error failure) ∧
      ((Example.readerAt Example.gappedFooter.stripes).nextIn
        (Example.bodyFiles Example.fewValues, .blank 2)).source.rows.stripes ≠
          (Example.readerAt Example.gappedFooter.stripes).rows.stripes ∧
      (∃ failure, StripeRows.load ((Example.bodyFiles Example.cutValues).view (.file 0)) .stored
        [true, true] Example.emptyStripe = .error failure) ∧
      (((Example.readerAt Example.gappedFooter.stripes).nextIn
        (Example.bodyFiles Example.fewValues, .blank 2)).source.nextIn
          (Example.bodyFiles Example.cutValues, .blank 2)).more = .ok true := by
  obtain ⟨failure, fails⟩ := Example.few_values_asked (.blank 2)
  obtain ⟨last, found, _⟩ := Example.row_asked Example.cutValues rfl rfl rfl (.blank 2)
  have cut := StripeRows.load_fails
    (Example.stripes_within Example.cutValues rfl Example.emptyStripe (by simp [Example.gappedFooter]))
    rfl Example.cut_values_fail
  refine ⟨Example.body_opens Example.gappedBody rfl, Example.reader_opens, ⟨failure, by rw [fails]⟩,
    ?_, cut, by rw [fails, found]⟩
  rw [fails]
  intro same
  have counts := congrArg List.length same
  cases counts

end Columnar
