import Columnar.Proofs.Calls

set_option autoImplicit false

namespace Columnar

inductive SplitCall where
  | advance
  | advanceInto (slot : Row)
  | nextRow
  | close

inductive SplitAnswer where
  | found (more : Except Failure Bool) (slot : Row)
  | row (row : Except Failure (Option Row))
  | closed (outcome : Except Failure Unit)

namespace SplitCall

def slot {σ : Type} (reader : SplitReader σ) : SplitCall → Row
  | .advanceInto slot => slot
  | .advance | .nextRow | .close => reader.row

def pass (more : Except Failure Bool) (slot : Row) : SplitCall → SplitAnswer
  | .nextRow => .row (more.map fun found => if found then some slot else none)
  | _ => .found more slot

end SplitCall

-- A source and what was asked of it: what it said to each poll, and how each close of it went.
structure Watched (σ : Type) where
  inner : σ
  polls : List Answer
  closes : List (Except Failure Unit)

def RowSource.watched {σ : Type} (source : RowSource σ) : RowSource (Watched σ) where
  next state slot :=
    let polled := source.next state.inner slot
    ⟨polled.more, polled.slot,
      ⟨polled.source, state.polls ++ [(polled.more, polled.slot)], state.closes⟩⟩
  progress state := source.progress state.inner
  close state :=
    let (outcome, inner) := source.close state.inner
    (outcome, ⟨inner, state.polls, state.closes ++ [outcome]⟩)

def Ended (polls : List Answer) : Prop := ∃ poll ∈ polls, poll.1 = .ok false

namespace SplitReader

variable {σ : Type}

def respond (source : RowSource σ) (reader : SplitReader σ) :
    SplitCall → SplitAnswer × SplitReader σ
  | .advance =>
    let (more, after) := reader.advance source
    (.found more after.row, after)
  | .advanceInto slot =>
    let polled := reader.advanceInto source slot
    (.found polled.more polled.slot, polled.source)
  | .nextRow =>
    let (row, after) := reader.nextRow source
    (.row row, after)
  | .close =>
    let (outcome, after) := reader.close source
    (.closed outcome, after)

def after (source : RowSource σ) (reader : SplitReader σ) : List SplitCall → SplitReader σ
  | [] => reader
  | call :: calls => after source (reader.respond source call).2 calls

def unwatched (reader : SplitReader (Watched σ)) : SplitReader σ :=
  ⟨reader.rows.inner, reader.inclusion, reader.offset, reader.length, reader.progress, reader.state,
    reader.row⟩

-- A call for a row asks the source once, passes on what it says, and fails with it; a failure leaves
-- the reader open and its progress as it was.
structure AsksOnce (source : RowSource σ) (reader : SplitReader (Watched σ)) (call : SplitCall) :
    Prop where
  answer : (reader.respond source.watched call).1 =
    call.pass (source.next reader.rows.inner (call.slot reader)).more
      (source.next reader.rows.inner (call.slot reader)).slot
  inner : (reader.respond source.watched call).2.rows.inner =
    (source.next reader.rows.inner (call.slot reader)).source
  polls : (reader.respond source.watched call).2.rows.polls =
    reader.rows.polls ++ [((source.next reader.rows.inner (call.slot reader)).more,
      (source.next reader.rows.inner (call.slot reader)).slot)]
  closes : (reader.respond source.watched call).2.rows.closes = reader.rows.closes
  fails : ∀ failure, (source.next reader.rows.inner (call.slot reader)).more = .error failure →
    (reader.respond source.watched call).2.state = .opened ∧
      (reader.respond source.watched call).2.isExhausted = false ∧
      (reader.respond source.watched call).2.progress = reader.progress

section

variable (source : RowSource σ)

theorem respond_asks (reader : SplitReader σ) (call : SplitCall) (asks : call ≠ .close) :
    ∃ row, reader.respond source call =
      (call.pass (reader.advanceInto source (call.slot reader)).more
          (reader.advanceInto source (call.slot reader)).slot,
        { (reader.advanceInto source (call.slot reader)).source with row }) := by
  cases call with
  | advance => exact ⟨_, rfl⟩
  | advanceInto slot => exact ⟨_, rfl⟩
  | nextRow => exact ⟨_, rfl⟩
  | close => exact absurd rfl asks

theorem respond_idle (reader : SplitReader σ) (call : SplitCall) (asks : call ≠ .close)
    (more : Except Failure Bool)
    (idle : reader.advanceInto source (call.slot reader) = ⟨more, call.slot reader, reader⟩) :
    reader.respond source call = (call.pass more (call.slot reader), reader) := by
  cases call with
  | advance =>
    simp only [SplitCall.slot] at idle
    simp only [respond, advance, idle]
    rfl
  | advanceInto slot =>
    simp only [SplitCall.slot] at idle
    simp only [respond, idle]
    rfl
  | nextRow =>
    simp only [SplitCall.slot] at idle
    simp only [respond, nextRow, advance, idle]
    rfl
  | close => exact absurd rfl asks

theorem respond_exhausted (reader : SplitReader σ) (exhausted : reader.state = .exhausted)
    (call : SplitCall) (asks : call ≠ .close) :
    reader.respond source call = (call.pass (.ok false) (call.slot reader), reader) :=
  respond_idle source reader call asks _ (advance_of_exhausted source reader _ exhausted)

theorem respond_closed (reader : SplitReader σ) (closed : reader.state = .closed)
    (call : SplitCall) (asks : call ≠ .close) :
    reader.respond source call = (call.pass (.error .closed) (call.slot reader), reader) :=
  respond_idle source reader call asks _ (advance_of_closed source reader _ closed)

theorem close_closed (reader : SplitReader σ) (closed : reader.state = .closed) :
    reader.respond source .close = (.closed (.ok ()), reader) := by
  simp only [respond, close, closed]

theorem close_unclosed (reader : SplitReader σ) (unclosed : reader.state ≠ .closed) :
    reader.respond source .close =
      (.closed (source.close reader.rows).1,
        { reader with rows := (source.close reader.rows).2, state := .closed }) := by
  cases state : reader.state with
  | closed => exact absurd state unclosed
  | opened => simp only [respond, close, state]
  | exhausted => simp only [respond, close, state]

theorem advance_into_unwatched (reader : SplitReader (Watched σ)) (slot : Row) :
    reader.unwatched.advanceInto source slot =
      ⟨(reader.advanceInto source.watched slot).more, (reader.advanceInto source.watched slot).slot,
        (reader.advanceInto source.watched slot).source.unwatched⟩ := by
  have same : reader.unwatched.state = reader.state := rfl
  cases state : reader.state with
  | closed =>
    rw [advance_of_closed _ _ _ state, advance_of_closed _ _ _ (same.trans state)]
  | exhausted =>
    rw [advance_of_exhausted _ _ _ state, advance_of_exhausted _ _ _ (same.trans state)]
  | opened =>
    simp only [advanceInto, state, RowSource.watched, unwatched]
    cases (source.next reader.rows.inner slot).more <;> rfl

theorem respond_unwatched (reader : SplitReader (Watched σ)) (call : SplitCall) :
    reader.unwatched.respond source call =
      ((reader.respond source.watched call).1, (reader.respond source.watched call).2.unwatched) := by
  have asked (slot : Row) := advance_into_unwatched source reader slot
  have own : reader.unwatched.row = reader.row := rfl
  cases call with
  | advance =>
    simp only [respond, advance, own, asked]
    rfl
  | advanceInto slot => simp only [respond, asked]
  | nextRow =>
    simp only [respond, nextRow, advance, own, asked]
    rfl
  | close =>
    by_cases closed : reader.state = .closed
    · rw [close_closed _ _ closed, close_closed source reader.unwatched closed]
    · rw [close_unclosed _ _ closed, close_unclosed source reader.unwatched closed]
      rfl

theorem after_unwatched (reader : SplitReader (Watched σ)) (calls : List SplitCall) :
    reader.unwatched.after source calls = (reader.after source.watched calls).unwatched := by
  induction calls generalizing reader with
  | nil => rfl
  | cons call calls ih =>
    rw [after, after, respond_unwatched]
    exact ih _

theorem asks_once (reader : SplitReader (Watched σ)) (opened : reader.state = .opened)
    (call : SplitCall) (asks : call ≠ .close) : AsksOnce source reader call := by
  obtain ⟨row, responds⟩ := respond_asks source.watched reader call asks
  obtain ⟨more, slot, rows, _⟩ :=
    advance_of_opened source.watched reader (call.slot reader) opened
  refine ⟨?_, ?_, ?_, ?_, ?_⟩
  · rw [responds, more, slot]
    rfl
  · rw [responds]
    simp only [rows]
    rfl
  · rw [responds]
    simp only [rows]
    rfl
  · rw [responds]
    simp only [rows]
    rfl
  · intro failure fails
    have failed : (source.watched.next reader.rows (call.slot reader)).more = .error failure := fails
    rw [responds]
    simp only [advanceInto, opened, failed, isExhausted]
    exact ⟨trivial, rfl, trivial⟩

structure Remembers (calls : List SplitCall) (reader : SplitReader (Watched σ)) : Prop where
  closed : reader.state = .closed ↔ .close ∈ calls
  exhausted : reader.state ≠ .closed → (reader.state = .exhausted ↔ Ended reader.rows.polls)
  closes : reader.rows.closes.length = if reader.state = .closed then 1 else 0

theorem ended_after (polls : List Answer) (poll : Answer) :
    Ended (polls ++ [poll]) ↔ Ended polls ∨ poll.1 = .ok false := by
  simp only [Ended, List.mem_append, List.mem_singleton, or_and_right, exists_or, exists_eq_left]

theorem close_remembers (calls : List SplitCall) (reader : SplitReader (Watched σ))
    (remembers : Remembers calls reader) :
    Remembers (calls ++ [.close]) (reader.respond source.watched .close).2 := by
  by_cases closed : reader.state = .closed
  · rw [close_closed _ _ closed]
    exact ⟨by simp [closed], remembers.exhausted, remembers.closes⟩
  · have noClose := remembers.closes
    rw [if_neg closed] at noClose
    rw [close_unclosed _ _ closed]
    refine ⟨by simp, fun unclosed => absurd rfl unclosed, ?_⟩
    simp only [RowSource.watched, List.length_append, noClose, List.length_singleton, if_true]

theorem respond_remembers (calls : List SplitCall) (reader : SplitReader (Watched σ))
    (remembers : Remembers calls reader) (call : SplitCall) (asks : call ≠ .close) :
    Remembers (calls ++ [call]) (reader.respond source.watched call).2 := by
  have same : .close ∈ calls ++ [call] ↔ .close ∈ calls := by
    simp [Ne.symm asks]
  cases state : reader.state with
  | closed =>
    rw [respond_closed _ _ state call asks]
    exact ⟨remembers.closed.trans same.symm, remembers.exhausted, remembers.closes⟩
  | exhausted =>
    rw [respond_exhausted _ _ state call asks]
    exact ⟨remembers.closed.trans same.symm, remembers.exhausted, remembers.closes⟩
  | opened =>
    have unclosed : reader.state ≠ .closed := by simp [state]
    have goesOn : ¬ Ended reader.rows.polls := by simp [← remembers.exhausted unclosed, state]
    have noClose := remembers.closes
    rw [if_neg unclosed] at noClose
    have asked := asks_once source reader state call asks
    obtain ⟨row, responds⟩ := respond_asks source.watched reader call asks
    obtain ⟨_, _, _, moved⟩ := advance_of_opened source.watched reader (call.slot reader) state
    have stateAfter : (reader.respond source.watched call).2.state =
        (reader.advanceInto source.watched (call.slot reader)).source.state := by rw [responds]
    have found : (source.watched.next reader.rows (call.slot reader)).more =
        (source.next reader.rows.inner (call.slot reader)).more := rfl
    rw [found, ← stateAfter] at moved
    have unclosedAfter : (reader.respond source.watched call).2.state ≠ .closed := by
      obtain ⟨exhausted, _⟩ | ⟨opened, _⟩ := moved
      · simp [exhausted]
      · simp [opened]
    refine ⟨?_, fun _ => ?_, ?_⟩
    · rw [same, ← remembers.closed]
      simp [unclosedAfter, unclosed]
    · rw [asked.polls, ended_after]
      obtain ⟨exhausted, ended⟩ | ⟨opened, more⟩ := moved
      · simp [exhausted, ended]
      · simp [opened, more, goesOn]
    · rw [asked.closes, noClose, if_neg unclosedAfter]

theorem after_remembers (earlier : List SplitCall) (reader : SplitReader (Watched σ))
    (remembers : Remembers earlier reader) (calls : List SplitCall) :
    Remembers (earlier ++ calls) (reader.after source.watched calls) := by
  induction calls generalizing earlier reader with
  | nil => rwa [List.append_nil]
  | cons call calls ih =>
    rw [List.append_cons]
    by_cases closing : call = .close
    · rw [closing]
      exact ih _ _ (close_remembers source earlier reader remembers)
    · exact ih _ _ (respond_remembers source earlier reader remembers call closing)

theorem start_remembers (rows : σ) (offset length : Nat) (inclusion : Inclusion) (width : Nat) :
    Remembers [] (start (⟨rows, [], []⟩ : Watched σ) offset length inclusion width) := by
  refine ⟨by simp [start], fun _ => ?_, rfl⟩
  simp [start, Ended]

theorem asks_after_failure (reader : SplitReader (Watched σ)) (opened : reader.state = .opened)
    (call : SplitCall) (asks : call ≠ .close) (failure : Failure)
    (fails : (source.next reader.rows.inner (call.slot reader)).more = .error failure)
    (next : SplitCall) (nextAsks : next ≠ .close) :
    AsksOnce source (reader.respond source.watched call).2 next := by
  have stays := ((asks_once source reader opened call asks).fails failure fails).1
  exact asks_once source _ stays next nextAsks

end

end SplitReader

-- Behind any calls: without a close among them, what the source has said tells whether the next call
-- asks it; with one, nothing does. A watched reader answers as one that is not watched.
theorem source_is_asked_until_end_or_close {σ : Type} (source : RowSource σ) (rows : σ)
    (offset length : Nat) (inclusion : Inclusion) (width : Nat) (calls : List SplitCall) :
    let plain := (SplitReader.start rows offset length inclusion width).after source calls
    let reader := (SplitReader.start (⟨rows, [], []⟩ : Watched σ) offset length inclusion width).after
      source.watched calls
    plain = reader.unwatched ∧
    (∀ call, (plain.respond source call).1 = (reader.respond source.watched call).1) ∧
    (.close ∉ calls →
      reader.rows.closes = [] ∧
      (reader.isExhausted = true ↔ Ended reader.rows.polls) ∧
      (¬ Ended reader.rows.polls → ∀ call, call ≠ .close →
        SplitReader.AsksOnce source reader call ∧
        ∀ failure, (source.next reader.rows.inner (call.slot reader)).more = .error failure →
          ∀ next, next ≠ .close →
            SplitReader.AsksOnce source (reader.respond source.watched call).2 next) ∧
      (Ended reader.rows.polls → ∀ call, call ≠ .close →
        reader.respond source.watched call = (call.pass (.ok false) (call.slot reader), reader)) ∧
      (reader.respond source.watched .close).1 = .closed (source.close reader.rows.inner).1 ∧
      (reader.respond source.watched .close).2.rows.closes = [(source.close reader.rows.inner).1]) ∧
    (.close ∈ calls →
      reader.rows.closes.length = 1 ∧
      (∀ call, call ≠ .close →
        reader.respond source.watched call =
          (call.pass (.error .closed) (call.slot reader), reader)) ∧
      reader.respond source.watched .close = (.closed (.ok ()), reader)) := by
  intro plain reader
  have same : plain = reader.unwatched :=
    SplitReader.after_unwatched source (.start ⟨rows, [], []⟩ offset length inclusion width) calls
  have remembers : SplitReader.Remembers calls reader :=
    SplitReader.after_remembers source [] _
      (SplitReader.start_remembers rows offset length inclusion width) calls
  refine ⟨same, fun call => ?_, fun unclosed => ?_, fun closing => ?_⟩
  · rw [same, SplitReader.respond_unwatched]
  · have goingOn : reader.state ≠ .closed := fun closed => unclosed (remembers.closed.mp closed)
    have ends := remembers.exhausted goingOn
    have noClose := remembers.closes
    rw [if_neg goingOn, List.length_eq_zero_iff] at noClose
    have closes := SplitReader.close_unclosed source.watched reader goingOn
    refine ⟨noClose, ?_, fun unended call asks => ?_, fun ended call asks => ?_, by rw [closes]; rfl, ?_⟩
    · rw [← ends]
      simp [SplitReader.isExhausted]
    · have opened : reader.state = .opened := by
        cases state : reader.state with
        | opened => rfl
        | exhausted => exact absurd (ends.mp state) unended
        | closed => exact absurd state goingOn
      exact ⟨SplitReader.asks_once source reader opened call asks,
        SplitReader.asks_after_failure source reader opened call asks⟩
    · exact SplitReader.respond_exhausted source.watched reader (ends.mpr ended) call asks
    · rw [closes]
      simp only [RowSource.watched, noClose, List.nil_append]
  · have closed := remembers.closed.mpr closing
    have once := remembers.closes
    rw [if_pos closed] at once
    exact ⟨once, SplitReader.respond_closed source.watched reader closed,
      SplitReader.close_closed source.watched reader closed⟩

namespace Example

-- A source that says what is in a list, and then that there are no more rows; it cannot be closed
-- without a failure.
def played : RowSource (List (Except Failure Bool)) where
  next
    | [], slot => ⟨.ok false, slot, []⟩
    | more :: rest, slot => ⟨more, slot, rest⟩
  progress rest := if rest.isEmpty then .one else .nan
  close rest := (.error .outOfRange, rest)

end Example

example :
    let reader := (SplitReader.start ⟨[.ok true, .error .outOfRange, .ok true], [], []⟩ 0 9 .all 1).after
      Example.played.watched
      [.advance, .nextRow, .advanceInto (.blank 1), .nextRow, .advance, .close, .nextRow, .close]
    reader.rows.polls.map Prod.fst = [.ok true, .error .outOfRange, .ok true, .ok false] ∧
      reader.rows.closes = [.error .outOfRange] := ⟨rfl, rfl⟩

end Columnar
