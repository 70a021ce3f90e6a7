import Columnar.Proofs.AcceptedFiles
import Columnar.Proofs.Calls

set_option autoImplicit false

namespace Columnar

def Structural {α : Type} (outcome : Except Failure α) : Prop :=
  ∀ failure, outcome = .error failure → failure.isStructural = true

theorem structural_ok {α : Type} (value : α) : Structural (.ok value) := by
  intro failure fails
  cases fails

theorem structural_error {α : Type} (failure : Failure) (structural : failure.isStructural = true) :
    Structural (.error failure : Except Failure α) := by
  intro other same
  cases same
  exact structural

theorem Compression.decompress_structural (kind : Compression) (stored : Bytes) (length : Nat) :
    Structural (kind.decompress stored length) := by
  intro failure fails
  rw [decompress] at fails
  cases kind with
  | stored =>
    simp only [inflate] at fails
    by_cases fits : stored.length = length
    · rw [if_pos fits] at fails
      cases fails
    · rw [if_neg fits] at fails
      cases fails
      rfl
  | zstd =>
    simp only [inflate] at fails
    cases content : Zstd.inflate stored with
    | error fault =>
      simp only [content] at fails
      cases fails
      rfl
    | ok raw =>
      simp only [content] at fails
      by_cases fits : raw.length = length
      · rw [if_pos fits] at fails
        cases fails
      · rw [if_neg fits] at fails
        cases fails
        rfl

namespace StripeRows

structure Within (content : Content) (columns : Nat) (stripe : StripeInfo) : Prop where
  stop : stripe.stop ≤ content.length
  streams : ∀ stream ∈ stripe.streams, stream.fits columns stripe.length.toNat = true

theorem read_stream_structural (content : Content) (compression : Compression) (stripe : StripeInfo)
    (stream : StreamInfo) (inside : stripe.stop ≤ content.length)
    (fits : stream.offset.toNat + stream.length.toNat ≤ stripe.length.toNat) :
    Structural (readStream (.regular content) compression stripe stream) := by
  intro failure fails
  rw [StripeInfo.stop] at inside
  have bytes := OpenFile.bytes_inside content (stripe.offset.toNat + stream.offset.toNat)
    stream.length.toNat (by omega)
  simp only [readStream, bytes] at fails
  generalize ((content.toBytes.drop _).take _) = stored at fails
  cases inflated : compression.decompress stored stream.rawLength.toNat with
  | error other =>
    simp only [inflated] at fails
    cases fails
    exact compression.decompress_structural stored _ _ inflated
  | ok raw =>
    simp only [inflated] at fails
    cases decoded : Value.decodeStream raw with
    | error cause =>
      simp only [decoded] at fails
      cases fails
      rfl
    | ok values =>
      simp only [decoded] at fails
      by_cases counted : values.length = stripe.rows.toNat
      · rw [if_pos counted] at fails
        cases fails
      · rw [if_neg counted] at fails
        cases fails
        rfl

theorem read_streams_structural (content : Content) (compression : Compression) (stripe : StripeInfo)
    (included : List Bool) (streams : List StreamInfo) (columns : List (Option (List Value)))
    (inside : stripe.stop ≤ content.length)
    (fit : ∀ stream ∈ streams, stream.fits included.length stripe.length.toNat = true) :
    Structural (readStreams (.regular content) compression stripe included streams columns) := by
  induction streams generalizing columns with
  | nil => exact structural_ok columns
  | cons stream streams ih =>
    have here := fit stream (by simp)
    simp only [StreamInfo.fits, Bool.and_eq_true, decide_eq_true_eq] at here
    have others := fun columns => ih columns fun other member => fit other (by simp [member])
    have flag : included[stream.column.toNat]? = some included[stream.column.toNat] :=
      List.getElem?_eq_getElem here.1
    intro failure fails
    rw [readStreams, flag] at fails
    cases wanted : included[stream.column.toNat] with
    | false =>
      simp only [wanted] at fails
      exact others columns failure fails
    | true =>
      simp only [wanted] at fails
      cases read : readStream (.regular content) compression stripe stream with
      | error other =>
        simp only [read] at fails
        cases fails
        exact read_stream_structural content compression stripe stream inside here.2 _ read
      | ok values =>
        simp only [read] at fails
        exact others _ failure fails

theorem load_structural (content : Content) (compression : Compression) (included : List Bool)
    (stripe : StripeInfo) (within : Within content included.length stripe) :
    Structural (load (.regular content) compression included stripe) := by
  intro failure fails
  rw [load] at fails
  cases read : readStreams (.regular content) compression stripe included stripe.streams
      (included.map fun _ => none) with
  | error other =>
    simp only [read] at fails
    cases fails
    exact read_streams_structural content compression stripe included stripe.streams _ within.stop
      within.streams _ read
  | ok columns =>
    simp only [read] at fails
    by_cases empty : stripe.rows.toNat = 0
    · rw [if_pos empty] at fails
      cases fails
    · rw [if_neg empty] at fails
      cases missing : missingColumn? included columns with
      | none =>
        simp only [missing] at fails
        cases fails
      | some column =>
        simp only [missing] at fails
        cases fails
        rfl

structure Safe (files : FileSystem) (content : Content) (rows : StripeRows) : Prop where
  opened : ∃ handle, rows.handle = some handle ∧ files.view handle = .regular content
  within : ∀ stripe ∈ rows.stripes, Within content rows.included.length stripe
  even : ∀ stripe, rows.current = some stripe → stripe.Even

section

variable {files : FileSystem} {content : Content}

theorem step_structural {rows : StripeRows} {slot : Row} {decoded : List StripeInfo}
    {polled : Polled StripeRows} (step : Step (.regular content) rows slot decoded polled)
    (within : ∀ stripe ∈ rows.stripes, Within content rows.included.length stripe) :
    Structural polled.more := by
  cases step with
  | here columns left current => exact structural_ok true
  | onward passed stripe rest columns left spent stripes empty loads => exact structural_ok true
  | ended spent empty => exact structural_ok false
  | failed passed stripe rest failure spent stripes empty fails =>
    have inside := within stripe (by simp [stripes])
    exact structural_error failure (load_structural content _ _ stripe inside failure fails)

theorem next_safe (rows : StripeRows) (slot : Row) (safe : Safe files content rows) :
    Structural (next files rows slot).more ∧ Safe files content (next files rows slot).source := by
  obtain ⟨handle, opened, shown⟩ := safe.opened
  have sound : Sound rows := ⟨by rw [opened]; rfl, safe.even⟩
  obtain ⟨decoded, step⟩ := next_steps slot opened sound
  obtain ⟨kept, _, included, _⟩ := step_keeps step
  rw [shown] at step
  refine ⟨step_structural step safe.within, ⟨handle, kept.trans opened, shown⟩, ?_,
    (step_sound step sound).even⟩
  intro stripe member
  rw [included]
  exact safe.within stripe (by simp [step_stripes step, member])

end

end StripeRows

theorem Container.stripes_within {files : FileSystem} {path : Path} {container : Container}
    {content : Content} (accepted : Accepted files path container content) (stripe : StripeInfo)
    (member : stripe ∈ container.footer.stripes) :
    StripeRows.Within content container.types.columns.length stripe := by
  have checked := (Footer.valid_iff_checked container.footer).mp accepted.valid
  have facts := StripeInfo.ordered_inside _ _ _ _ checked.ordered stripe member
  exact ⟨Nat.le_trans facts.1 accepted.inside, facts.2⟩

inductive ReaderCall where
  | next (slot : Row)
  | close

namespace RecordReader

def after (files : FileSystem) (reader : RecordReader) : List ReaderCall → RecordReader
  | [] => reader
  | .next slot :: rest => after files (reader.next files slot).source rest
  | .close :: rest => after files (reader.close files).2 rest

structure Safe (files : FileSystem) (content : Content) (split : Split) (closed : Prop)
    (reader : RecordReader) : Prop where
  path : reader.path = split.path
  offset : reader.reader.offset = split.start
  length : reader.reader.length = split.length
  ends : reader.reader.state = .closed ↔ closed
  rows : reader.reader.state ≠ .closed → StripeRows.Safe files content reader.reader.rows

section

variable {files : FileSystem} {content : Content} {split : Split} {closed : Prop}
  {reader : RecordReader}

theorem next_safe (safe : Safe files content split closed reader) (slot : Row) :
    Safe files content split closed (reader.next files slot).source := by
  obtain ⟨path, offset, length, ends, rows⟩ := safe
  cases state : reader.reader.state with
  | closed =>
    rw [next_of_closed files reader slot state]
    exact ⟨path, offset, length, ends, rows⟩
  | exhausted =>
    rw [next_of_exhausted files reader slot state]
    exact ⟨path, offset, length, ends, rows⟩
  | opened =>
    have step := StripeRows.next_safe reader.reader.rows slot (rows (by rw [state]; decide))
    rw [state] at ends
    simp only [reduceCtorEq, false_iff] at ends
    simp only [next, SplitReader.advanceInto, state, StripeRows.source]
    cases more : (StripeRows.next files reader.reader.rows slot).more with
    | error failure =>
      exact ⟨path, offset, length, by simp [ends], fun _ => step.2⟩
    | ok found =>
      refine ⟨path, offset, length, ?_, fun _ => step.2⟩
      cases found <;> simp [ends]

theorem close_safe (safe : Safe files content split closed reader) :
    (reader.close files).1 = .ok () ∧ Safe files content split True (reader.close files).2 := by
  obtain ⟨path, offset, length, ends, rows⟩ := safe
  by_cases state : reader.reader.state = .closed
  · rw [close_of_closed files reader state]
    exact ⟨rfl, path, offset, length, by simp [state], fun other => absurd state other⟩
  · rw [close_of_open files reader state]
    exact ⟨rfl, path, offset, length, by simp, fun other => by simp at other⟩

-- The induction is on the calls: each leaves a safe reader to those behind it.
theorem after_safe (safe : Safe files content split closed reader) (calls : List ReaderCall) :
    Safe files content split (closed ∨ .close ∈ calls) (reader.after files calls) := by
  induction calls generalizing reader closed with
  | nil => simpa [after] using safe
  | cons call calls ih =>
    cases call with
    | next slot =>
      have later := ih (next_safe safe slot)
      simpa [after] using later
    | close =>
      have later := ih (close_safe safe).2
      simpa [after] using later

theorem next_outcome (safe : Safe files content split closed reader) (slot : Row) :
    (closed → (reader.next files slot).more = .error .closed) ∧
    (¬ closed → ∀ failure, (reader.next files slot).more = .error failure →
      ∃ cause, failure = .reading split.path cause ∧ cause.isStructural = true) := by
  obtain ⟨path, _, _, ends, rows⟩ := safe
  refine ⟨?_, ?_⟩
  · intro isClosed
    rw [next_of_closed files reader slot (ends.mpr isClosed)]
  · intro isOpen failure fails
    have state : reader.reader.state ≠ .closed := fun same => isOpen (ends.mp same)
    have step := StripeRows.next_safe reader.reader.rows slot (rows state)
    cases which : reader.reader.state with
    | closed => exact absurd which state
    | exhausted =>
      simp only [next, SplitReader.advanceInto, which] at fails
      cases fails
    | opened =>
      simp only [next, SplitReader.advanceInto, which, StripeRows.source] at fails
      cases more : (StripeRows.next files reader.reader.rows slot).more with
      | ok found =>
        simp only [more] at fails
        cases fails
      | error cause =>
        have structural := step.1 cause more
        simp only [more, Except.mapError, path] at fails
        cases fails
        refine ⟨cause, ?_, structural⟩
        cases cause with
        | closed => cases structural
        | _ => rfl

theorem position_inside (safe : Safe files content split closed reader) :
    split.start ≤ reader.position ∧ reader.position ≤ split.start + split.length := by
  rw [position, SplitReader.position, safe.offset, safe.length]
  omega

end

theorem of_container_safe (files : FileSystem) (path : Path) (container : Container)
    (content : Content) (accepted : Container.Accepted files path container content)
    (settings : Settings) (start length : Nat) (reader : RecordReader)
    (made : ofContainer files container settings start length = .ok reader) :
    Safe files content ⟨path, start, length⟩ False reader := by
  obtain ⟨handle, inclusion, shown, same⟩ := start_of_container accepted made
  rw [same]
  refine ⟨accepted.named, rfl, rfl, by simp [SplitReader.start], fun _ => ?_⟩
  refine ⟨⟨handle, rfl, shown⟩, ?_, fun stripe absent => by cases absent⟩
  intro stripe member
  simp only [SplitReader.start, Inclusion.length_top_level]
  exact Container.stripes_within accepted stripe (List.mem_filter.mp member).1

end RecordReader

end Columnar
