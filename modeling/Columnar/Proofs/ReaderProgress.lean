import Columnar.Proofs.FailedReads
import Columnar.Proofs.Ieee.Order
import Columnar.Proofs.ReaderLife

set_option autoImplicit false

namespace Columnar

open Ieee

namespace SplitReader

theorem zero_reading : Single.zero.reading = .number false 0 := by decide

theorem one_reading : Single.one.reading = .number false 0x3F800000 := by decide

-- Whether a number lies between zero and one; NaN does not.
structure Share (number : Single) : Prop where
  above : Single.zero.reading.AtMost number.reading
  below : number.reading.AtMost Single.one.reading

theorem zero_share : Share .zero := by
  have below : Single.zero.reading.AtMost Single.one.reading := by
    rw [zero_reading, one_reading]
    exact ⟨0, 0x3F800000, rfl, rfl, by decide⟩
  exact ⟨Reading.at_most_refl below, below⟩

theorem one_share : Share .one := by
  refine ⟨zero_share.below, ?_⟩
  rw [one_reading]
  exact ⟨0x3F800000, 0x3F800000, rfl, rfl, Int.le_refl _⟩

theorem share_number {number : Single} (share : Share number) : number.reading ≠ .nan := by
  obtain ⟨_, _, _, rank, _⟩ := share.above
  intro nan
  rw [nan] at rank
  cases rank

theorem clamp_share (sample : Single) (number : (clamp sample).reading ≠ .nan) :
    Share (clamp sample) := by
  by_cases low : sample.reading.below Single.zero.reading
  · rw [clamp, if_pos low]
    exact zero_share
  · by_cases high : Single.one.reading.below sample.reading
    · rw [clamp, if_neg low, if_pos high]
      exact one_share
    · rw [clamp, if_neg low, if_neg high] at *
      exact ⟨Reading.at_most_of_not_below (share_number zero_share) number low,
        Reading.at_most_of_not_below number (share_number one_share) high⟩

-- Whatever the sample, also if it is NaN.
theorem advanced_share {progress : Single} (share : Share progress) (sample : Single) :
    Share (advanced progress (clamp sample)) ∧
      progress.reading.AtMost (advanced progress (clamp sample)).reading := by
  by_cases kept : (clamp sample).reading = .nan ∨ (clamp sample).reading.below progress.reading
  · rw [advanced, if_pos kept]
    exact ⟨share, Reading.at_most_refl share.below⟩
  · rw [advanced, if_neg kept]
    rw [not_or] at kept
    exact ⟨clamp_share sample kept.1,
      Reading.at_most_of_not_below (share_number share) kept.1 kept.2⟩

theorem advanced_to_one {progress : Single} (share : Share progress) :
    advanced progress (clamp .one) = .one := by
  have clamped : clamp .one = .one := by decide
  have reached := Reading.not_below_of_at_most share.below
  rw [clamped, advanced, if_neg]
  rw [not_or]
  exact ⟨share_number one_share, reached⟩

-- The magnitude of what is not below zero is its rank, also that of minus zero.
theorem magnitude_of_above {number : Single} (above : Single.zero.reading.AtMost number.reading) :
    ∃ negative magnitude, number.reading = .number negative magnitude ∧
      number.reading.rank = some (magnitude : Int) := by
  obtain ⟨zero, place, zeroRank, rank, ordered⟩ := above
  rw [zero_reading] at zeroRank
  cases zeroRank
  cases reading : number.reading with
  | nan =>
    rw [reading] at rank
    cases rank
  | number negative magnitude =>
    refine ⟨negative, magnitude, rfl, ?_⟩
    rw [reading] at rank
    cases negative with
    | false => rfl
    | true =>
      simp only [Reading.rank, if_true, Option.some.injEq] at rank ⊢
      simp only [Bool.false_eq_true, if_false] at ordered
      omega

theorem done_mono (length : Nat) {less more : Single}
    (above : Single.zero.reading.AtMost less.reading) (ordered : less.reading.AtMost more.reading) :
    done less length ≤ done more length := by
  obtain ⟨_, low, lessReading, lessRank⟩ := magnitude_of_above above
  obtain ⟨_, high, moreReading, moreRank⟩ := magnitude_of_above (Reading.at_most_trans above ordered)
  obtain ⟨lower, upper, lowerRank, upperRank, places⟩ := ordered
  rw [lessRank, Option.some.injEq] at lowerRank
  rw [moreRank, Option.some.injEq] at upperRank
  have magnitudes : low ≤ high := by omega
  have products := Nat.mul_le_mul_right (wholeAsDouble length)
    (Format.units_mono Format.single low high magnitudes)
  have rounded := Format.units_mono .double _ _
    (Format.round_mono .double _ _ _ (Format.scale_positive .single) products)
  simp only [done, lessReading, moreReading]
  exact Nat.div_le_div_right (by omega)

theorem done_zero (length : Nat) : done .zero length = 0 := by
  have nothing : Format.single.units 0 = 0 := by decide
  have zero : Format.double.units 0 = 0 := by decide
  have scale := Format.scale_positive .double
  simp only [done, zero_reading, nothing, Nat.zero_mul, Format.round_zero, zero, Nat.mul_zero, Nat.zero_add]
  exact Nat.div_eq_of_lt (by omega)

theorem done_one (length : Nat) (short : length ≤ 2 ^ 53) : done .one length = length := by
  have units : Format.single.units 0x3F800000 = Format.single.scale := by decide +kernel
  have positive := Format.scale_positive .single
  have scale := Format.scale_positive .double
  have product : Format.double.units (Format.double.round
      (Format.single.scale * wholeAsDouble length) Format.single.scale) =
        length * Format.double.scale := by
    by_cases whole : length = 2 ^ 53
    · have kept : wholeAsDouble (2 ^ 53) = 1 * 2 ^ 53 := by decide +kernel
      rw [whole, kept, Format.units_round_whole 1 53 _ (by decide) (by decide) positive,
        Nat.one_mul]
    · have small : length < 2 ^ (Format.double.fractionBits + 1) := by
        simp only [Format.double]
        omega
      have kept := Format.units_round_whole length 0 _ small (Nat.zero_le _) positive
      rw [Nat.pow_zero, Nat.mul_one] at kept
      rw [whole_as_double_small length small, kept]
  have regroup : 2 * (length * Format.double.scale) + Format.double.scale =
      Format.double.scale + length * (2 * Format.double.scale) := by ring
  have half : Format.double.scale / (2 * Format.double.scale) = 0 := Nat.div_eq_of_lt (by omega)
  simp only [done, one_reading, units, product]
  rw [regroup, Nat.add_mul_div_right _ _ (by omega), half, Nat.zero_add]

end SplitReader

def SplitAnswer.Fails : SplitAnswer → Prop
  | .found more _ => ∃ failure, more = .error failure
  | .row given => ∃ failure, given = .error failure
  | .closed outcome => ∃ failure, outcome = .error failure

def SplitAnswer.NoMore : SplitAnswer → Prop
  | .found more _ => more = .ok false
  | .row given => given = .ok none
  | .closed _ => False

namespace SplitCall

theorem pass_fails (call : SplitCall) (more : Except Failure Bool) (slot : Row) :
    (call.pass more slot).Fails ↔ ∃ failure, more = .error failure := by
  cases call <;> cases more <;> simp [pass, SplitAnswer.Fails, Except.map]

theorem pass_no_more (call : SplitCall) (more : Except Failure Bool) (slot : Row) :
    (call.pass more slot).NoMore ↔ more = .ok false := by
  cases call <;> rcases more with failure | (_ | _) <;>
    simp [pass, SplitAnswer.NoMore, Except.map]

end SplitCall

namespace SplitReader

section

variable {σ : Type} (source : RowSource σ)

theorem advance_place (reader : SplitReader σ) (slot : Row) :
    (reader.advanceInto source slot).source.offset = reader.offset ∧
      (reader.advanceInto source slot).source.length = reader.length := by
  cases state : reader.state with
  | closed =>
    rw [advance_of_closed source reader slot state]
    exact ⟨rfl, rfl⟩
  | exhausted =>
    rw [advance_of_exhausted source reader slot state]
    exact ⟨rfl, rfl⟩
  | opened =>
    simp only [advanceInto, state]
    cases (source.next reader.rows slot).more <;> exact ⟨rfl, rfl⟩

theorem respond_place (reader : SplitReader σ) (call : SplitCall) :
    (reader.respond source call).2.offset = reader.offset ∧
      (reader.respond source call).2.length = reader.length := by
  by_cases closing : call = .close
  · rw [closing]
    by_cases closed : reader.state = .closed
    · rw [close_closed source reader closed]
      exact ⟨rfl, rfl⟩
    · rw [close_unclosed source reader closed]
      exact ⟨rfl, rfl⟩
  · obtain ⟨row, responds⟩ := respond_asks source reader call closing
    rw [responds]
    exact advance_place source reader (call.slot reader)

theorem respond_unopened (reader : SplitReader σ) (unopened : reader.state ≠ .opened)
    (call : SplitCall) :
    (reader.respond source call).2.state ≠ .opened ∧
      (reader.respond source call).2.progress = reader.progress := by
  cases state : reader.state with
  | opened => exact absurd state unopened
  | closed =>
    by_cases closing : call = .close
    · rw [closing, close_closed source reader state]
      exact ⟨unopened, rfl⟩
    · rw [respond_closed source reader state call closing]
      exact ⟨unopened, rfl⟩
  | exhausted =>
    by_cases closing : call = .close
    · rw [closing, close_unclosed source reader (by simp [state])]
      exact ⟨by simp, rfl⟩
    · rw [respond_exhausted source reader state call closing]
      exact ⟨unopened, rfl⟩

theorem respond_progress (reader : SplitReader σ) (opened : reader.state = .opened)
    (call : SplitCall) (asks : call ≠ .close) :
    let polled := source.next reader.rows (call.slot reader)
    (reader.respond source call).1 = call.pass polled.more polled.slot ∧
      (reader.respond source call).2.rows = polled.source ∧
      ((∃ failure, polled.more = .error failure) ∧
          (reader.respond source call).2.state = .opened ∧
          (reader.respond source call).2.progress = reader.progress ∨
        (∃ more, polled.more = .ok more ∧
          (reader.respond source call).2.state = (if more then .opened else .exhausted) ∧
          (reader.respond source call).2.progress =
            advanced reader.progress (clamp (source.progress polled.source)))) := by
  obtain ⟨row, responds⟩ := respond_asks source reader call asks
  simp only [responds, advanceInto, opened]
  cases found : (source.next reader.rows (call.slot reader)).more with
  | error failure => exact ⟨rfl, rfl, .inl ⟨⟨failure, rfl⟩, rfl, rfl⟩⟩
  | ok more => exact ⟨rfl, rfl, .inr ⟨more, rfl, rfl, rfl⟩⟩

theorem respond_close (reader : SplitReader σ) :
    (reader.respond source .close).2.state = .closed ∧
      (reader.respond source .close).2.progress = reader.progress := by
  by_cases closed : reader.state = .closed
  · rw [close_closed source reader closed]
    exact ⟨closed, rfl⟩
  · rw [close_unclosed source reader closed]
    exact ⟨rfl, rfl⟩

theorem respond_keeps_progress (reader : SplitReader σ) (call : SplitCall)
    (idle : reader.state ≠ .opened ∨ call = .close ∨ (reader.respond source call).1.Fails) :
    (reader.respond source call).2.progress = reader.progress := by
  by_cases closing : call = .close
  · rw [closing]
    exact (respond_close source reader).2
  · by_cases opened : reader.state = .opened
    · obtain ⟨answer, _, ⟨_, _, kept⟩ | ⟨more, found, _, _⟩⟩ :=
        respond_progress source reader opened call closing
      · exact kept
      · obtain unopened | same | fails := idle
        · exact absurd opened unopened
        · exact absurd same closing
        · rw [answer, SplitCall.pass_fails, found] at fails
          obtain ⟨_, wrong⟩ := fails
          cases wrong
    · exact (respond_unopened source reader opened call).2

theorem respond_share (reader : SplitReader σ) (share : Share reader.progress) (call : SplitCall) :
    Share (reader.respond source call).2.progress ∧
      reader.progress.reading.AtMost (reader.respond source call).2.progress.reading := by
  have same : Share reader.progress ∧ reader.progress.reading.AtMost reader.progress.reading :=
    ⟨share, Reading.at_most_refl share.below⟩
  by_cases idle : reader.state ≠ .opened ∨ call = .close
  · rwa [respond_keeps_progress source reader call (by tauto)]
  · rw [not_or, not_not] at idle
    obtain ⟨_, _, ⟨_, _, kept⟩ | ⟨_, _, _, sampled⟩⟩ :=
      respond_progress source reader idle.1 call idle.2
    · rwa [kept]
    · rw [sampled]
      exact advanced_share share _

theorem after_share (reader : SplitReader σ) (share : Share reader.progress)
    (calls : List SplitCall) :
    Share (reader.after source calls).progress ∧
      reader.progress.reading.AtMost (reader.after source calls).progress.reading := by
  induction calls generalizing reader with
  | nil => exact ⟨share, Reading.at_most_refl share.below⟩
  | cons call calls ih =>
    obtain ⟨next, grown⟩ := respond_share source reader share call
    obtain ⟨last, further⟩ := ih _ next
    exact ⟨last, Reading.at_most_trans grown further⟩

theorem after_place (reader : SplitReader σ) (calls : List SplitCall) :
    (reader.after source calls).offset = reader.offset ∧
      (reader.after source calls).length = reader.length := by
  induction calls generalizing reader with
  | nil => exact ⟨rfl, rfl⟩
  | cons call calls ih =>
    obtain ⟨offset, length⟩ := respond_place source reader call
    obtain ⟨lastOffset, lastLength⟩ := ih (reader.respond source call).2
    exact ⟨lastOffset.trans offset, lastLength.trans length⟩

theorem after_closes (reader : SplitReader σ) (calls : List SplitCall)
    (closes : ∀ call ∈ calls, call = .close) :
    (reader.after source calls).progress = reader.progress := by
  induction calls generalizing reader with
  | nil => rfl
  | cons call calls ih =>
    have kept := respond_keeps_progress source reader call (.inr (.inl (closes call (by simp))))
    exact (ih _ fun other member => closes other (by simp [member])).trans kept

end

theorem position_mono {σ : Type} {reader later : SplitReader σ} (share : Share reader.progress)
    (grown : reader.progress.reading.AtMost later.progress.reading)
    (offset : later.offset = reader.offset) (length : later.length = reader.length) :
    reader.position ≤ later.position := by
  have further := done_mono reader.length share.above grown
  simp only [position, offset, length]
  omega

theorem position_of_zero {σ : Type} {reader : SplitReader σ} (fresh : reader.progress = .zero) :
    reader.position = reader.offset := by
  rw [position, fresh, done_zero, Nat.zero_min, Nat.add_zero]

theorem position_of_one {σ : Type} {reader : SplitReader σ} (all : reader.progress = .one)
    (short : reader.length ≤ 2 ^ 53) : reader.position = reader.offset + reader.length := by
  rw [position, all, done_one _ short, Nat.min_self]

end SplitReader

namespace StripeRows

theorem progress_of_all (rows : StripeRows) (all : rows.rowsReturned = rows.totalRows) :
    rows.progress = .one := by
  by_cases empty : rows.totalRows = 0
  · rw [progress, if_pos empty]
  · have positive := whole_as_double_positive rows.totalRows (by omega)
    have double : Format.double.units 0x3FF0000000000000 = Format.double.scale := by decide +kernel
    have single : Format.single.units 0x3F800000 = Format.single.scale := by decide +kernel
    have widest : 0x3FF0000000000000 ≤ Format.double.infinity := by decide +kernel
    have finite : 0x3FF0000000000000 ≠ Format.double.infinity := by decide +kernel
    have ratio := Format.round_of_same .double _ _ positive double widest
    have narrowed := Format.round_of_same .single _ _ (Format.scale_positive .double) single
      (by decide +kernel)
    rw [progress, if_neg empty, all, Double.ofRatio, ratio, Double.toSingle,
      Double.reading_ofReading _ _ widest, Reading.convert, if_neg finite, double, narrowed]
    decide

theorem ended_progress {file : OpenFile} {rows : StripeRows} {slot : Row}
    {decoded : List StripeInfo} {polled : Polled StripeRows} {selected : List StripeInfo}
    (step : Step file rows slot decoded polled) (counted : Counted selected rows)
    (ended : polled.more = .ok false) : polled.source.progress = .one := by
  obtain ⟨⟨before, split, sum⟩, total⟩ := step_counted step counted
  cases step with
  | here columns left current => cases ended
  | onward passed stripe rest columns left spent stripes empty loads => cases ended
  | failed passed stripe rest failure spent stripes empty fails => cases ended
  | ended spent empty =>
    apply progress_of_all
    rw [total, split, List.append_nil, ← sum]
    rfl

end StripeRows

namespace SplitReader

def respondIn (reader : SplitReader StripeRows) (call : FileSystem × SplitCall) :
    SplitAnswer × SplitReader StripeRows :=
  reader.respond (StripeRows.source call.1) call.2

def answersIn (reader : SplitReader StripeRows) : List (FileSystem × SplitCall) → List SplitAnswer
  | [] => []
  | call :: calls => (reader.respondIn call).1 :: answersIn (reader.respondIn call).2 calls

def afterIn (reader : SplitReader StripeRows) :
    List (FileSystem × SplitCall) → SplitReader StripeRows
  | [] => reader
  | call :: calls => afterIn (reader.respondIn call).2 calls

structure Finished {σ : Type} (reader : SplitReader σ) : Prop where
  progress : reader.progress = .one
  state : reader.state ≠ .opened

structure OverStripes (selected : List StripeInfo) (reader : SplitReader StripeRows) : Prop where
  share : Share reader.progress
  opened : reader.state = .opened →
    StripeRows.Sound reader.rows ∧ StripeRows.Counted selected reader.rows
  exhausted : reader.state = .exhausted → Finished reader

section

variable {selected : List StripeInfo} {reader : SplitReader StripeRows}

theorem respond_finished {σ : Type} (source : RowSource σ) {reader : SplitReader σ}
    (finished : Finished reader) (call : SplitCall) :
    Finished (reader.respond source call).2 := by
  obtain ⟨state, kept⟩ := respond_unopened source reader finished.state call
  exact ⟨kept.trans finished.progress, state⟩

theorem after_in_finished (finished : Finished reader) (calls : List (FileSystem × SplitCall)) :
    Finished (reader.afterIn calls) := by
  induction calls generalizing reader with
  | nil => exact finished
  | cons call calls ih => exact ih (respond_finished _ finished call.2)

theorem ask_over (covers : OverStripes selected reader) (opened : reader.state = .opened)
    (call : FileSystem × SplitCall) (asks : call.2 ≠ .close) :
    (reader.respondIn call).2.state = .opened ∧ ¬ (reader.respondIn call).1.NoMore ∧
        StripeRows.Sound (reader.respondIn call).2.rows ∧
        StripeRows.Counted selected (reader.respondIn call).2.rows ∨
      Finished (reader.respondIn call).2 := by
  obtain ⟨sound, counted⟩ := covers.opened opened
  obtain ⟨handle, file⟩ := Option.isSome_iff_exists.mp sound.opened
  obtain ⟨decoded, step⟩ : ∃ decoded, StripeRows.Step (call.1.view handle) reader.rows
      (call.2.slot reader) decoded (StripeRows.next call.1 reader.rows (call.2.slot reader)) :=
    StripeRows.next_steps (call.2.slot reader) file sound
  obtain ⟨answer, rows, outcome⟩ :=
    respond_progress (StripeRows.source call.1) reader opened call.2 asks
  have sound_after := StripeRows.step_sound step sound
  have counted_after := StripeRows.step_counted step counted
  simp only [respondIn, answer, rows, SplitCall.pass_no_more]
  obtain ⟨⟨failure, fails⟩, state, _⟩ | ⟨more, found, state, sampled⟩ := outcome
  · refine .inl ⟨state, ?_, sound_after, counted_after⟩
    rw [fails]
    simp
  · cases more with
    | true =>
      refine .inl ⟨state, ?_, sound_after, counted_after⟩
      rw [found]
      simp
    | false =>
      have all := StripeRows.ended_progress step counted found
      refine .inr ⟨?_, by rw [state]; simp⟩
      rw [sampled, ← advanced_to_one covers.share, ← all]
      rfl

theorem respond_in_over (covers : OverStripes selected reader) (call : FileSystem × SplitCall) :
    OverStripes selected (reader.respondIn call).2 ∧
      ((reader.respondIn call).1.NoMore → Finished (reader.respondIn call).2) := by
  have share := (respond_share (StripeRows.source call.1) reader covers.share call.2).1
  by_cases closing : call.2 = .close
  · have closed := (respond_close (StripeRows.source call.1) reader).1
    rw [← closing] at closed
    refine ⟨⟨share, fun opened => ?_, fun exhausted => ?_⟩, fun ends => ?_⟩
    · exact absurd (closed.symm.trans opened) (by simp)
    · exact absurd (closed.symm.trans exhausted) (by simp)
    · rw [respondIn, closing] at ends
      exact ends.elim
  · cases state : reader.state with
    | opened =>
      obtain ⟨opened, goesOn, sound, counted⟩ | finished := ask_over covers state call closing
      · refine ⟨⟨share, fun _ => ⟨sound, counted⟩, fun exhausted => ?_⟩, fun ends => ?_⟩
        · exact absurd (opened.symm.trans exhausted) (by simp)
        · exact absurd ends goesOn
      · exact ⟨⟨share, fun opened => absurd opened finished.state, fun _ => finished⟩,
          fun _ => finished⟩
    | exhausted =>
      have finished := respond_finished (StripeRows.source call.1) (covers.exhausted state) call.2
      exact ⟨⟨share, fun opened => absurd opened finished.state, fun _ => finished⟩,
        fun _ => finished⟩
    | closed =>
      have same := respond_closed (StripeRows.source call.1) reader state call.2 closing
      rw [respondIn, same]
      refine ⟨covers, fun ends => ?_⟩
      rw [SplitCall.pass_no_more] at ends
      cases ends

theorem after_in_over (covers : OverStripes selected reader) (calls : List (FileSystem × SplitCall))
    (ended : ∃ answer ∈ reader.answersIn calls, answer.NoMore) : Finished (reader.afterIn calls) := by
  induction calls generalizing reader with
  | nil =>
    obtain ⟨_, member, _⟩ := ended
    cases member
  | cons call calls ih =>
    obtain ⟨next, finishes⟩ := respond_in_over covers call
    obtain ⟨answer, member, ends⟩ := ended
    rw [answersIn, List.mem_cons] at member
    cases member with
    | inl here =>
      rw [here] at ends
      exact after_in_finished (finishes ends) calls
    | inr later => exact ih next ⟨answer, later, ends⟩

end

theorem after_in_place (reader : SplitReader StripeRows)
    (calls : List (FileSystem × SplitCall)) :
    (reader.afterIn calls).offset = reader.offset ∧ (reader.afterIn calls).length = reader.length := by
  induction calls generalizing reader with
  | nil => exact ⟨rfl, rfl⟩
  | cons call calls ih =>
    obtain ⟨offset, length⟩ := respond_place (StripeRows.source call.1) reader call.2
    obtain ⟨lastOffset, lastLength⟩ := ih (reader.respondIn call).2
    exact ⟨lastOffset.trans offset, lastLength.trans length⟩

theorem open_range_over {files : FileSystem} {path : Path} {container : Container}
    {content : Content} (accepted : Container.Accepted files path container content)
    (offset length : Nat) (inclusion : Inclusion) :
    ∃ reader, openRange files container offset length inclusion = .ok reader ∧
      reader.offset = offset ∧ reader.length = length ∧
      OverStripes (container.footer.stripesInRange offset length) reader := by
  obtain ⟨handle, _, ranged⟩ := Container.open_rows accepted offset length inclusion
  refine ⟨_, by rw [openRange, ranged], rfl, rfl, zero_share, fun _ => ?_, fun exhausted => ?_⟩
  · exact ⟨⟨rfl, fun stripe absent => by cases absent⟩, ⟨⟨[], rfl, rfl⟩, rfl⟩⟩
  · cases exhausted

end SplitReader

-- Over any source progress grows from zero, within one, and position with it. Over the stripes of an
-- accepted file, whatever happens to it, both are at their end once there are no more rows.
theorem progress_grows_to_its_end :
    (∀ {σ : Type} (source : RowSource σ) (rows : σ) (offset length : Nat) (inclusion : Inclusion)
        (width : Nat) (calls more : List SplitCall),
      let reader := (SplitReader.start rows offset length inclusion width).after source calls
      let later := reader.after source more
      SplitReader.Share reader.progress ∧
      reader.progress.reading.AtMost later.progress.reading ∧
      (∀ call, reader.state ≠ .opened ∨ call = .close ∨ (reader.respond source call).1.Fails →
        (reader.respond source call).2.progress = reader.progress) ∧
      offset ≤ reader.position ∧ reader.position ≤ offset + length ∧
      reader.position ≤ later.position ∧
      ((∀ call ∈ calls, call = .close) → reader.position = offset)) ∧
    (∀ (files : FileSystem) (path : Path) (container : Container),
      Container.openPath files path = .ok container →
      ∀ (offset length : Nat) (inclusion : Inclusion), length ≤ 2 ^ 53 →
      ∃ reader, SplitReader.openRange files container offset length inclusion = .ok reader ∧
        ∀ calls, (∃ answer ∈ reader.answersIn calls, answer.NoMore) →
          (reader.afterIn calls).progress = .one ∧
            (reader.afterIn calls).position = offset + length) := by
  constructor
  · intro σ source rows offset length inclusion width calls more reader later
    obtain ⟨share, _⟩ := SplitReader.after_share source
      (.start rows offset length inclusion width) SplitReader.zero_share calls
    obtain ⟨atOffset, ofLength⟩ :=
      SplitReader.after_place source (.start rows offset length inclusion width) calls
    obtain ⟨laterOffset, laterLength⟩ := SplitReader.after_place source reader more
    have grown := (SplitReader.after_share source reader share more).2
    have inside : offset ≤ reader.position ∧ reader.position ≤ offset + length := by
      rw [SplitReader.position, atOffset, ofLength]
      exact ⟨Nat.le_add_right _ _, Nat.add_le_add_left (Nat.min_le_right _ _) _⟩
    refine ⟨share, grown, SplitReader.respond_keeps_progress source reader, inside.1, inside.2,
      SplitReader.position_mono share grown laterOffset laterLength, fun closes => ?_⟩
    have fresh := SplitReader.after_closes source (.start rows offset length inclusion width) calls closes
    rw [SplitReader.position_of_zero fresh, atOffset]
    rfl
  · intro files path container opens offset length inclusion short
    obtain ⟨content, accepted⟩ := Container.open_path_accepts files path container opens
    obtain ⟨reader, ranged, atOffset, ofLength, covers⟩ :=
      SplitReader.open_range_over accepted offset length inclusion
    refine ⟨reader, ranged, fun calls ended => ?_⟩
    obtain ⟨laterOffset, laterLength⟩ := SplitReader.after_in_place reader calls
    have finished := SplitReader.after_in_over covers calls ended
    refine ⟨finished.progress, ?_⟩
    rw [SplitReader.position_of_one finished.progress (by omega), laterOffset, laterLength, atOffset,
      ofLength]

theorem range_without_stripes_is_done :
    Container.openPath (Example.bodyFiles Example.gappedBody) "t" =
        .ok (Example.container Example.gappedBody) ∧
      ∃ reader,
        SplitReader.openRange (Example.bodyFiles Example.gappedBody)
          (Example.container Example.gappedBody) 40 9 .all = .ok reader ∧
        reader.position = 40 ∧
        (reader.afterIn [(Example.bodyFiles Example.gappedBody, .nextRow)]).progress = .one ∧
        (reader.afterIn [(Example.bodyFiles Example.gappedBody, .nextRow)]).position = 49 := by
  have opens := Example.body_opens Example.gappedBody rfl
  obtain ⟨reader, ranged, ends⟩ := progress_grows_to_its_end.2 _ "t" _ opens 40 9 .all (by decide)
  refine ⟨opens, reader, ranged, ?_⟩
  have handle : (Example.bodyFiles Example.gappedBody).openPath
      (Example.container Example.gappedBody).path = .ok (.file 0) := Example.body_handle _
  simp only [SplitReader.openRange, StripeRows.openRange, handle] at ranged
  cases ranged
  exact ⟨SplitReader.position_of_zero rfl, ends _ ⟨.row (.ok none), .head _, rfl⟩⟩

end Columnar
