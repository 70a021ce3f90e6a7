import Columnar.Command.Run
import Columnar.Proofs.FileContents
import Mathlib.Algebra.GroupWithZero.Nat

/-!
Splits that are counted side by side: each split has a worker with a reader of its own, and the
workers take their steps in any order.
-/

set_option autoImplicit false

namespace Columnar

theorem StripeRows.scan_length_le (file : OpenFile) (compression : Compression)
    (included : List Bool) (stripes : List StripeInfo) :
    (scan file compression included stripes).rows.length ≤ StripeInfo.totalRows stripes := by
  induction stripes with
  | nil => exact Nat.le_refl 0
  | cons stripe stripes ih =>
    simp only [scan, StripeInfo.totalRows]
    cases loads : load file compression included stripe with
    | error failure => exact Nat.zero_le _
    | ok loaded =>
      obtain ⟨_, left, _⟩ := load_columns file compression included stripe loaded loads
      simp only [Scan.behind, List.length_append, LoadedStripe.length_rows, left]
      omega

def Scan.countedFrom (counted : Nat) (scan : Scan) : Except Failure Nat :=
  match scan.failure with
  | none => .ok (counted + scan.rows.length)
  | some failure => .error failure

namespace RecordReader

theorem close_succeeds (files : FileSystem) (reader : RecordReader) :
    (reader.close files).1 = .ok () := by
  by_cases closed : reader.reader.state = .closed
  · rw [close_of_closed files reader closed]
  · rw [close_of_open files reader closed]

theorem open_split_ready (files : FileSystem) (settings : Settings) (split : Split)
    (reader : RecordReader) (opens : openSplit files settings split = .ok reader) :
    SplitReader.Ready StripeRows.Sound reader.reader ∧
      (ahead files reader).rows.length < Outcome.callLimit reader := by
  obtain ⟨container, opened, made⟩ := container_of_open_split settings split reader opens
  obtain ⟨content, accepted⟩ := Container.open_path_accepts files split.path container opened
  have located := accepted.located
  rw [← accepted.named] at located
  obtain ⟨ready, told⟩ := ahead_of_container files container settings _ _ _ reader located made
  obtain ⟨handle, inclusion, _, same⟩ := start_of_container accepted made
  have total : reader.reader.rows.totalRows =
      StripeInfo.totalRows (container.footer.stripesInRange split.start split.length) := by
    rw [same]
    rfl
  refine ⟨ready, ?_⟩
  rw [told, Outcome.callLimit, total]
  exact Nat.lt_succ_of_le (StripeRows.scan_length_le _ _ _ _)

end RecordReader

namespace Outcome

theorem drain_ahead (files : FileSystem) (calls : Nat) (reader : RecordReader) (slot : Row)
    (read : List Row) (ready : SplitReader.Ready StripeRows.Sound reader.reader)
    (enough : (reader.ahead files).rows.length < calls) :
    (drain files calls reader slot read).failure = (reader.ahead files).failure ∧
      (drain files calls reader slot read).rows = (reader.ahead files).rows.reverse ++ read := by
  induction calls generalizing reader slot read with
  | zero => omega
  | succ calls ih =>
    rw [drain]
    obtain ⟨ended, same⟩ | ⟨failure, fault, same⟩ | ⟨more, after, same⟩ :=
      RecordReader.next_foretold files reader slot ready
    · simp only [ended, same]
      exact ⟨rfl, rfl⟩
    · simp only [fault, same]
      exact ⟨rfl, rfl⟩
    · rw [same, Scan.behind, List.length_append, List.length_singleton] at enough
      obtain ⟨failure, rows⟩ := ih (reader.next files slot).source (reader.next files slot).slot
        ((reader.next files slot).slot :: read) after (by omega)
      simp only [more, same, Scan.behind, failure, rows, List.singleton_append, List.reverse_cons,
        List.append_assoc, and_self]

theorem count_split_refused (files : FileSystem) (settings : Settings) (split : Split)
    (failure : Failure) (refused : RecordReader.openSplit files settings split = .error failure) :
    countSplit files settings split = .error failure := by
  unfold countSplit
  rw [refused]

theorem count_split_ahead (files : FileSystem) (settings : Settings) (split : Split)
    (reader : RecordReader) (opens : RecordReader.openSplit files settings split = .ok reader) :
    countSplit files settings split = (reader.ahead files).countedFrom 0 := by
  obtain ⟨ready, enough⟩ := RecordReader.open_split_ready files settings split reader opens
  obtain ⟨failure, rows⟩ := drain_ahead files (callLimit reader) reader reader.slot [] ready enough
  unfold countSplit
  rw [opens]
  simp only [drainAll, failure, rows, Scan.countedFrom, List.append_nil, List.length_reverse,
    Nat.zero_add]
  cases (reader.ahead files).failure with
  | some failure => rfl
  | none =>
    rw [RecordReader.close_succeeds]
    rfl

theorem count_splits_cons_iff (files : FileSystem) (settings : Settings) (split : Split)
    (rest : List Split) (total : Nat) :
    countSplits files settings (split :: rest) = .ok total ↔
      ∃ rows more, countSplit files settings split = .ok rows ∧
        countSplits files settings rest = .ok more ∧ total = rows + more := by
  constructor
  · intro counted
    unfold countSplits at counted
    cases here : countSplit files settings split with
    | error failure =>
      rw [here] at counted
      cases counted
    | ok rows =>
      cases others : countSplits files settings rest with
      | error failure =>
        rw [here, others] at counted
        cases counted
      | ok more =>
        rw [here, others] at counted
        cases counted
        exact ⟨rows, more, rfl, rfl, rfl⟩
  · rintro ⟨rows, more, here, others, same⟩
    unfold countSplits
    rw [here, others, same]
    rfl

theorem count_splits_all (files : FileSystem) (settings : Settings) (splits : List Split)
    (counts : List Nat) (each : splits.map (countSplit files settings) = counts.map .ok) :
    countSplits files settings splits = .ok counts.sum := by
  induction splits generalizing counts with
  | nil =>
    rw [List.map_nil, eq_comm, List.map_eq_nil_iff] at each
    rw [each]
    rfl
  | cons split splits ih =>
    cases counts with
    | nil => cases each
    | cons rows counts =>
      simp only [List.map_cons, List.cons.injEq] at each
      rw [count_splits_cons_iff]
      exact ⟨rows, counts.sum, each.1, ih counts each.2, List.sum_cons⟩

theorem count_splits_member (files : FileSystem) (settings : Settings) (splits : List Split)
    (total : Nat) (counted : countSplits files settings splits = .ok total) (split : Split)
    (member : split ∈ splits) : ∃ rows, countSplit files settings split = .ok rows := by
  induction splits generalizing total with
  | nil => cases member
  | cons first splits ih =>
    obtain ⟨rows, more, here, others, _⟩ := (count_splits_cons_iff _ _ _ _ _).mp counted
    cases member with
    | head => exact ⟨rows, here⟩
    | tail _ later => exact ih more others later

theorem count_splits_fails (files : FileSystem) (settings : Settings) (splits : List Split)
    (split : Split) (member : split ∈ splits) (failure : Failure)
    (fails : countSplit files settings split = .error failure) :
    ∃ first, countSplits files settings splits = .error first := by
  cases counted : countSplits files settings splits with
  | error first => exact ⟨first, rfl⟩
  | ok total =>
    obtain ⟨rows, found⟩ := count_splits_member files settings splits total counted split member
    rw [fails] at found
    cases found

end Outcome

inductive Worker where
  | waiting (split : Split)
  | reading (reader : RecordReader) (slot : Row) (counted : Nat)
  | through (outcome : Except Failure Nat)

namespace Worker

def opened : Except Failure RecordReader → Worker
  | .error failure => .through (.error failure)
  | .ok reader => .reading reader reader.slot 0

def answered (files : FileSystem) (counted : Nat) (polled : Polled RecordReader) : Worker :=
  match polled.more with
  | .error failure => .through (.error failure)
  | .ok false => .through ((polled.source.close files).1.map fun _ => counted)
  | .ok true => .reading polled.source polled.slot (counted + 1)

def step? (files : FileSystem) (settings : Settings) : Worker → Option Worker
  | .waiting split => some (opened (RecordReader.openSplit files settings split))
  | .reading reader slot counted => some (answered files counted (reader.next files slot))
  | .through _ => none

inductive Steps (files : FileSystem) (settings : Settings) :
    Nat → List Worker → List Worker → Prop
  | stay (workers : List Worker) : Steps files settings 0 workers workers
  | step (count : Nat) (before after last : List Worker) (worker next : Worker)
    (took : worker.step? files settings = some next)
    (rest : Steps files settings count (before ++ next :: after) last) :
    Steps files settings (count + 1) (before ++ worker :: after) last

-- What is made of the workers: the sum if all have counted, or any failure, even if others are not
-- through.
inductive Collects : List Worker → Except Failure Nat → Prop
  | sum (counts : List Nat) :
    Collects (counts.map fun counted => .through (.ok counted)) (.ok counts.sum)
  | failed (workers : List Worker) (failure : Failure)
    (member : .through (.error failure) ∈ workers) : Collects workers (.error failure)

-- Whether the workers of some splits come to an end in every order of their steps, and all that is
-- collected is one number, or else a failure.
structure Settle (files : FileSystem) (settings : Settings) (splits : List Split)
    (total : Option Nat) : Prop where
  ends : ∃ most, ∀ count workers,
    Steps files settings count (splits.map waiting) workers → count ≤ most
  onward : ∀ count workers, Steps files settings count (splits.map waiting) workers →
    (∃ outcome, Collects workers outcome) ∨ ∃ next, Steps files settings 1 workers next
  alike : ∀ count workers outcome, Steps files settings count (splits.map waiting) workers →
    Collects workers outcome → outcome.toOption = total

section

variable (files : FileSystem) (settings : Settings)

def outcome : Worker → Except Failure Nat
  | .waiting split => Outcome.countSplit files settings split
  | .reading reader _ counted => (reader.ahead files).countedFrom counted
  | .through outcome => outcome

def callsLeft : Except Failure RecordReader → Nat
  | .error _ => 0
  | .ok reader => (reader.ahead files).rows.length + 1

def left : Worker → Nat
  | .waiting split => callsLeft files (RecordReader.openSplit files settings split) + 1
  | .reading reader _ _ => (reader.ahead files).rows.length + 1
  | .through _ => 0

def Sound : Worker → Prop
  | .reading reader _ _ => SplitReader.Ready StripeRows.Sound reader.reader
  | _ => True

variable {files settings}

theorem opened_keeps (split : Split) :
    (opened (RecordReader.openSplit files settings split)).Sound ∧
      (opened (RecordReader.openSplit files settings split)).outcome files settings =
        Outcome.countSplit files settings split ∧
      (opened (RecordReader.openSplit files settings split)).left files settings <
        (waiting split).left files settings := by
  rw [left]
  cases opens : RecordReader.openSplit files settings split with
  | error failure =>
    refine ⟨trivial, ?_, Nat.zero_lt_one⟩
    rw [Outcome.count_split_refused files settings split failure opens]
    rfl
  | ok reader =>
    have ready := (RecordReader.open_split_ready files settings split reader opens).1
    refine ⟨ready, ?_, Nat.lt_succ_self _⟩
    exact (Outcome.count_split_ahead files settings split reader opens).symm

theorem answered_keeps (reader : RecordReader) (slot : Row) (counted : Nat)
    (ready : SplitReader.Ready StripeRows.Sound reader.reader) :
    (answered files counted (reader.next files slot)).Sound ∧
      (answered files counted (reader.next files slot)).outcome files settings =
        (reader.ahead files).countedFrom counted ∧
      (answered files counted (reader.next files slot)).left files settings <
        (reader.ahead files).rows.length + 1 := by
  rw [answered]
  obtain ⟨ended, same⟩ | ⟨failure, fault, same⟩ | ⟨more, after, same⟩ :=
    RecordReader.next_foretold files reader slot ready
  · rw [ended, same, RecordReader.close_succeeds]
    exact ⟨trivial, rfl, Nat.succ_pos _⟩
  · rw [fault, same]
    exact ⟨trivial, rfl, Nat.succ_pos _⟩
  · rw [more, same]
    refine ⟨after, ?_, ?_⟩
    · simp only [outcome, Scan.countedFrom, Scan.behind, List.length_append, List.length_singleton,
        Nat.add_assoc]
    · simp only [left, Scan.behind, List.length_append, List.length_singleton]
      omega

theorem step_keeps {worker next : Worker} (sound : worker.Sound)
    (took : worker.step? files settings = some next) :
    next.Sound ∧ next.outcome files settings = worker.outcome files settings ∧
      next.left files settings < worker.left files settings := by
  cases worker with
  | through outcome => cases took
  | waiting split =>
    cases took
    exact opened_keeps split
  | reading reader slot counted =>
    cases took
    exact answered_keeps reader slot counted sound

-- The induction is on the steps: each changes one worker, and leaves it less to do.
theorem steps_keep {count : Nat} {workers last : List Worker}
    (steps : Steps files settings count workers last) (sound : ∀ worker ∈ workers, worker.Sound) :
    last.map (outcome files settings) = workers.map (outcome files settings) ∧
      count + (last.map (left files settings)).sum ≤ (workers.map (left files settings)).sum := by
  induction steps with
  | stay workers => exact ⟨rfl, by omega⟩
  | step count before after last worker next took rest ih =>
    obtain ⟨good, same, less⟩ := step_keeps (sound worker (by simp)) took
    obtain ⟨outcomes, bound⟩ := ih (by
      intro other member
      rcases List.mem_append.mp member with early | late
      · exact sound other (by simp [early])
      · cases late with
        | head => exact good
        | tail _ later => exact sound other (List.mem_append.mpr (.inr (.tail _ later))))
    refine ⟨?_, ?_⟩
    · rw [outcomes]
      simp only [List.map_append, List.map_cons, same]
    · simp only [List.map_append, List.map_cons, List.sum_append, List.sum_cons] at bound ⊢
      omega

theorem through_of_no_step {worker : Worker} (idle : worker.step? files settings = none) :
    ∃ outcome, worker = .through outcome := by
  cases worker with
  | through outcome => exact ⟨outcome, rfl⟩
  | waiting split => cases idle
  | reading reader slot counted => cases idle

theorem collects_all_through (workers : List Worker)
    (through : ∀ worker ∈ workers, ∃ outcome, worker = .through outcome) :
    ∃ outcome, Collects workers outcome := by
  induction workers with
  | nil => exact ⟨_, .sum []⟩
  | cons worker workers ih =>
    obtain ⟨outcome, same⟩ := through worker (by simp)
    subst same
    cases outcome with
    | error failure => exact ⟨_, .failed _ failure (by simp)⟩
    | ok counted =>
      obtain ⟨outcome, collects⟩ := ih fun other member => through other (by simp [member])
      cases collects with
      | sum counts => exact ⟨_, .sum (counted :: counts)⟩
      | failed _ failure member => exact ⟨_, .failed _ failure (by simp [member])⟩

theorem settle_as_in_order (files : FileSystem) (settings : Settings) (splits : List Split) :
    Settle files settings splits (Outcome.countSplits files settings splits).toOption := by
  have sound : ∀ worker ∈ splits.map waiting, worker.Sound := by
    intro worker member
    obtain ⟨split, _, same⟩ := List.mem_map.mp member
    rw [← same]
    trivial
  have start : (splits.map waiting).map (outcome files settings) =
      splits.map (Outcome.countSplit files settings) := by
    rw [List.map_map]
    rfl
  refine ⟨⟨((splits.map waiting).map (left files settings)).sum, ?_⟩, ?_, ?_⟩
  · intro count workers steps
    exact Nat.le_trans (Nat.le_add_right _ _) (steps_keep steps sound).2
  · intro count workers _
    by_cases idle : ∀ worker ∈ workers, worker.step? files settings = none
    · exact .inl (collects_all_through workers fun worker member =>
        through_of_no_step (idle worker member))
    · simp only [not_forall] at idle
      obtain ⟨worker, member, moves⟩ := idle
      obtain ⟨next, took⟩ := Option.ne_none_iff_exists'.mp moves
      obtain ⟨before, after, same⟩ := List.append_of_mem member
      rw [same]
      exact .inr ⟨_, .step 0 before after _ worker next took (.stay _)⟩
  · intro count workers outcome steps collects
    have outcomes := (steps_keep steps sound).1
    rw [start] at outcomes
    cases collects with
    | sum counts =>
      rw [List.map_map] at outcomes
      rw [Outcome.count_splits_all files settings splits counts outcomes.symm]
    | failed _ failure member =>
      have found : .error failure ∈ splits.map (Outcome.countSplit files settings) := by
        rw [← outcomes]
        exact List.mem_map.mpr ⟨_, member, rfl⟩
      obtain ⟨split, inside, fails⟩ := List.mem_map.mp found
      obtain ⟨first, failed⟩ := Outcome.count_splits_fails files settings splits split inside failure
        fails
      rw [failed]
      rfl

end

end Worker

end Columnar
