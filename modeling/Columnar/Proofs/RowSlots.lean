import Columnar.Proofs.ProjectedScan
import Columnar.Proofs.ReaderLife
import Columnar.Proofs.StripeMeaning

set_option autoImplicit false

namespace Columnar

-- A slot brought to a width where it stands: cut off, nulled, and filled up.
def Row.cleared (slot : Row) (width : Nat) : Row :=
  let cut := slot.values.take width
  ⟨cut.map (fun _ => .null) ++ List.replicate (width - cut.length) .null⟩

theorem Row.cleared_eq_reset (slot : Row) (width : Nat) : slot.cleared width = slot.reset width := by
  have filled : min width slot.values.length + (width - min width slot.values.length) = width := by
    omega
  simp only [cleared, reset, blank, List.map_const', List.length_take, List.replicate_append_replicate,
    filled]

namespace LoadedStripe

def place? (slot : Row) (cell : Nat) :
    List (Option (List Value)) → Option (Row × List (Option (List Value)))
  | [] => some (slot, [])
  | none :: rest => (place? slot (cell + 1) rest).map fun (filled, left) => (filled, none :: left)
  | some [] :: _ => none
  | some (value :: more) :: rest =>
    (slot.set? cell value).bind fun set =>
      (place? set (cell + 1) rest).map fun (filled, left) => (filled, some more :: left)

theorem place_nulls (filled : List Value) (columns : List (Option (List Value))) :
    place? ⟨filled ++ List.replicate columns.length .null⟩ filled.length columns =
      (split? columns).map fun (values, left) => (⟨filled ++ values⟩, left) := by
  induction columns generalizing filled with
  | nil => simp [place?, split?]
  | cons column columns ih =>
    cases column with
    | none =>
      have others := ih (filled ++ [.null])
      rw [List.append_assoc, List.length_append, List.length_singleton] at others
      simp only [place?, split?, List.length_cons, List.replicate_succ, List.singleton_append] at others ⊢
      rw [others, Option.map_map, Option.map_map]
      simp only [Function.comp_def, List.append_assoc, List.singleton_append]
    | some values =>
      cases values with
      | nil => rfl
      | cons value more =>
        have others := ih (filled ++ [value])
        rw [List.append_assoc, List.length_append, List.length_singleton] at others
        have set : Row.set? ⟨filled ++ .null :: List.replicate columns.length .null⟩ filled.length value =
            some ⟨filled ++ value :: List.replicate columns.length .null⟩ := by
          simp [Row.set?, Row.width]
        simp only [place?, split?, List.length_cons, List.replicate_succ, List.singleton_append, set,
          Option.bind_some] at others ⊢
        rw [others, Option.map_map, Option.map_map]
        simp only [Function.comp_def, List.append_assoc, List.singleton_append]

end LoadedStripe

namespace StripeRows

def deliverInPlace (rows : StripeRows) (stripe : LoadedStripe) (slot : Row) : Polled StripeRows :=
  let cleared := slot.cleared stripe.columns.length
  match LoadedStripe.place? cleared 0 stripe.columns with
  | none => ⟨.error .outOfRange, cleared, rows⟩
  | some (filled, left) =>
    ⟨.ok true, filled,
      { rows with
        current := some ⟨left, stripe.rowsLeft - 1⟩
        rowsReturned := rows.rowsReturned + 1 }⟩

def nextStripeInPlace (files : FileSystem) (rows : StripeRows) (slot : Row) :
    List StripeInfo → Polled StripeRows
  | [] => ⟨.ok false, slot, { rows with stripes := [], current := none }⟩
  | stripe :: rest =>
    let waiting := { rows with stripes := stripe :: rest, current := none }
    match rows.handle with
    | none => ⟨.error .closed, slot, waiting⟩
    | some handle =>
      match load (files.view handle) rows.compression rows.included stripe with
      | .error failure => ⟨.error failure, slot, waiting⟩
      | .ok loaded =>
        if loaded.rowsLeft = 0 then nextStripeInPlace files rows slot rest
        else deliverInPlace { rows with stripes := rest, current := none } loaded slot

def nextInPlace (files : FileSystem) (rows : StripeRows) (slot : Row) : Polled StripeRows :=
  match rows.current with
  | some stripe =>
    if stripe.rowsLeft = 0 then nextStripeInPlace files rows slot rows.stripes
    else deliverInPlace rows stripe slot
  | none => nextStripeInPlace files rows slot rows.stripes

def inPlace (files : FileSystem) : RowSource StripeRows := ⟨nextInPlace files, progress, close⟩

section

variable (files : FileSystem) (rows : StripeRows)

theorem deliver_in_place (stripe : LoadedStripe) (slot : Row) (even : stripe.Even)
    (left : stripe.rowsLeft ≠ 0) : deliverInPlace rows stripe slot = deliver rows stripe slot := by
  have split := LoadedStripe.split_even stripe.columns (stripe.rowsLeft - 1) (by
    intro values member
    rw [even values member]
    omega)
  have placed := LoadedStripe.place_nulls [] stripe.columns
  simp only [List.nil_append, List.length_nil, split, Option.map_some] at placed
  simp only [deliverInPlace, deliver, Row.cleared_eq_reset, Row.reset, Row.blank, placed, split]

theorem next_stripe_in_place (slot : Row) (stripes : List StripeInfo) :
    nextStripeInPlace files rows slot stripes = nextStripe files rows slot stripes := by
  induction stripes with
  | nil => rfl
  | cons stripe stripes ih =>
    simp only [nextStripeInPlace, nextStripe]
    cases opened : rows.handle with
    | none => rfl
    | some handle =>
      cases loads : load (files.view handle) rows.compression rows.included stripe with
      | error failure => simp only [loads]
      | ok loaded =>
        simp only [loads]
        by_cases spent : loaded.rowsLeft = 0
        · simp only [if_pos spent, ih]
        · simp only [if_neg spent, deliver_in_place _ loaded slot (load_even _ _ _ _ _ loads) spent]

theorem next_in_place (slot : Row) (even : ∀ stripe, rows.current = some stripe → stripe.Even) :
    nextInPlace files rows slot = next files rows slot := by
  simp only [nextInPlace, next, next_stripe_in_place]
  cases current : rows.current with
  | none => rfl
  | some stripe =>
    by_cases spent : stripe.rowsLeft = 0
    · simp only [if_pos spent]
    · simp only [if_neg spent, deliver_in_place rows stripe slot (even stripe current) spent]

theorem deliver_any_slot (stripe : LoadedStripe) (slot other : Row) :
    (deliver rows stripe slot).more = (deliver rows stripe other).more ∧
      (deliver rows stripe slot).source = (deliver rows stripe other).source := by
  simp only [deliver]
  cases LoadedStripe.split? stripe.columns with
  | none => exact ⟨rfl, rfl⟩
  | some split => exact ⟨rfl, rfl⟩

theorem next_stripe_any_slot (slot other : Row) (stripes : List StripeInfo) :
    (nextStripe files rows slot stripes).more = (nextStripe files rows other stripes).more ∧
      (nextStripe files rows slot stripes).source = (nextStripe files rows other stripes).source := by
  induction stripes with
  | nil => exact ⟨rfl, rfl⟩
  | cons stripe stripes ih =>
    simp only [nextStripe]
    cases rows.handle with
    | none => exact ⟨rfl, rfl⟩
    | some handle =>
      cases loads : load (files.view handle) rows.compression rows.included stripe with
      | error failure => simp only [loads, and_self]
      | ok loaded =>
        simp only [loads]
        by_cases spent : loaded.rowsLeft = 0
        · simp only [if_pos spent, ih, and_self]
        · simp only [if_neg spent]
          exact deliver_any_slot _ loaded slot other

theorem next_any_slot (slot other : Row) :
    (next files rows slot).more = (next files rows other).more ∧
      (next files rows slot).source = (next files rows other).source := by
  simp only [next]
  cases rows.current with
  | none => exact next_stripe_any_slot files rows slot other rows.stripes
  | some stripe =>
    by_cases spent : stripe.rowsLeft = 0
    · simp only [if_pos spent]
      exact next_stripe_any_slot files rows slot other rows.stripes
    · simp only [if_neg spent]
      exact deliver_any_slot rows stripe slot other

end

end StripeRows

def SplitAnswer.told : SplitAnswer → Except Failure (Option Row)
  | .found more slot => more.map fun found => if found then some slot else none
  | .row answer => answer
  | .closed outcome => outcome.map fun _ => none

def Scan.told (scan : Scan) (place : Nat) : Except Failure (Option Row) :=
  match scan.rows[place]? with
  | some row => .ok (some row)
  | none => scan.ending.map fun _ => none

theorem Scan.told_of_no_rows (scan : Scan) (empty : scan.rows = []) (place : Nat) :
    scan.told place = scan.ending.map fun _ => Option.none := by
  simp only [told, empty, List.getElem?_nil]

theorem Scan.row_of_told (scan : Scan) (place : Nat) (row : Row)
    (tells : scan.told place = .ok (some row)) : scan.rows[place]? = some row := by
  rw [told] at tells
  cases found : scan.rows[place]? with
  | some other =>
    simp only [found, Except.ok.injEq, Option.some.injEq] at tells
    rw [tells]
  | none =>
    simp only [found] at tells
    cases ending : scan.ending with
    | error failure => simp [ending, Except.map] at tells
    | ok more => simp [ending, Except.map] at tells

namespace SplitCall

variable {σ : Type}

def slotAfter (answer : SplitAnswer) (reader : SplitReader σ) : SplitCall → Row
  | .advanceInto slot =>
    match answer with
    | .found _ filled => filled
    | _ => slot
  | .advance | .nextRow | .close => reader.row

theorem pass_told (call : SplitCall) (more : Except Failure Bool) (slot : Row) :
    (call.pass more slot).told = more.map fun found => if found then some slot else none := by
  cases call <;> rfl

end SplitCall

namespace SplitReader

variable {σ : Type}

def responses (source : RowSource σ) (reader : SplitReader σ) : List SplitCall → List SplitAnswer
  | [] => []
  | call :: calls =>
    (reader.respond source call).1 :: responses source (reader.respond source call).2 calls

def bare (reader : SplitReader σ) : SplitReader σ := { reader with row := .blank 0 }

structure Uses (source : RowSource σ) (reader : SplitReader σ) (call : SplitCall) : Prop where
  found : ∀ row, (reader.respond source call).1.told = .ok (some row) →
    call.slotAfter (reader.respond source call).1 (reader.respond source call).2 = row
  unfound : (∀ row, (reader.respond source call).1.told ≠ .ok (some row)) →
    call.slotAfter (reader.respond source call).1 (reader.respond source call).2 = call.slot reader
  own : ∀ slot, call = .advanceInto slot → (reader.respond source call).2.row = reader.row

section

variable {source : RowSource σ} {sound : σ → Prop} {ahead : σ → Scan}

theorem advance_row (reader : SplitReader σ) (slot : Row) :
    (reader.advanceInto source slot).source.row = reader.row := by
  cases state : reader.state with
  | closed => rw [advance_of_closed _ _ _ state]
  | exhausted => rw [advance_of_exhausted _ _ _ state]
  | opened =>
    simp only [advanceInto, state]
    cases (source.next reader.rows slot).more <;> rfl

theorem advance_stays (foretells : Foretells source.next sound ahead)
    (stays : Stays source.next sound ahead) :
    Stays (advanceInto source) (Ready sound) (aheadOf ahead) := by
  intro reader slot ready unmoved
  cases state : reader.state with
  | closed =>
    rw [advance_of_closed _ _ _ state]
    exact ⟨rfl, ready, rfl⟩
  | exhausted =>
    rw [advance_of_exhausted _ _ _ state]
    exact ⟨rfl, ready, rfl⟩
  | opened =>
    obtain ⟨more, filled, rows, after⟩ := advance_of_opened source reader slot state
    rw [more] at unmoved
    obtain ⟨same, good, kept⟩ := stays reader.rows slot (ready state) unmoved
    refine ⟨filled.trans same, fun _ => by rw [rows]; exact good, ?_⟩
    obtain ⟨exhausted, ended⟩ | ⟨opened, _⟩ := after
    · -- The rows that are at their end have nothing ahead, as an exhausted reader has nothing.
      obtain ⟨_, nothing⟩ | ⟨_, fault, _⟩ | ⟨found, _, _⟩ := foretells reader.rows slot (ready state)
      · simp only [aheadOf, exhausted, state, nothing]
      · rw [ended] at fault
        cases fault
      · exact absurd found unmoved
    · simp only [aheadOf, opened, state, rows, kept]

theorem slot_after (reader : SplitReader σ) (call : SplitCall) (asks : call ≠ .close) :
    call.slotAfter (reader.respond source call).1 (reader.respond source call).2 =
      (reader.advanceInto source (call.slot reader)).slot := by
  cases call with
  | advance => rfl
  | advanceInto slot => rfl
  | nextRow => rfl
  | close => exact absurd rfl asks

-- A call takes the row that it tells of from what is ahead; without a row it tells how all ends, and
-- leaves its slot and all that is ahead.
theorem respond_ahead (foretells : Foretells source.next sound ahead)
    (stays : Stays source.next sound ahead) (reader : SplitReader σ) (ready : Ready sound reader)
    (call : SplitCall) (asks : call ≠ .close) :
    let after := (reader.respond source call).2
    let told := (reader.respond source call).1.told
    Ready sound after ∧
      ((∃ row, told = .ok (some row) ∧ call.slotAfter (reader.respond source call).1 after = row ∧
          aheadOf ahead reader = .behind [row] (aheadOf ahead after)) ∨
        (told = ((aheadOf ahead reader).ending.map fun _ => none) ∧
          call.slotAfter (reader.respond source call).1 after = call.slot reader ∧
          aheadOf ahead after = aheadOf ahead reader ∧ (aheadOf ahead reader).rows = [])) := by
  intro after told
  obtain ⟨row, responds⟩ := respond_asks source reader call asks
  have tells : told = (reader.advanceInto source (call.slot reader)).more.map fun found =>
      if found then some (reader.advanceInto source (call.slot reader)).slot else none := by
    simp only [told, responds, call.pass_told]
  have behind : aheadOf ahead after =
      aheadOf ahead (reader.advanceInto source (call.slot reader)).source := by
    simp only [after, responds]
    rfl
  have goodAfter (good : Ready sound (reader.advanceInto source (call.slot reader)).source) :
      Ready sound after := by
    simp only [after, responds]
    exact good
  rw [tells, slot_after reader call asks, behind]
  obtain ⟨ended, same⟩ | ⟨failure, fault, same⟩ | ⟨more, good, same⟩ :=
    advance_foretold source foretells reader (call.slot reader) ready
  · obtain ⟨kept, good, left⟩ := advance_stays foretells stays reader (call.slot reader) ready
      (by rw [ended]; simp)
    refine ⟨goodAfter good, .inr ⟨?_, kept, left, by rw [same]; rfl⟩⟩
    rw [ended, same]
    rfl
  · obtain ⟨kept, good, left⟩ := advance_stays foretells stays reader (call.slot reader) ready
      (by rw [fault]; simp)
    refine ⟨goodAfter good, .inr ⟨?_, kept, left, by rw [same]; rfl⟩⟩
    rw [fault, same]
    rfl
  · refine ⟨goodAfter good, .inl ⟨_, ?_, rfl, same⟩⟩
    rw [more]
    rfl

theorem ready_after (foretells : Foretells source.next sound ahead)
    (stays : Stays source.next sound ahead) (reader : SplitReader σ) (ready : Ready sound reader)
    (calls : List SplitCall) (ask : .close ∉ calls) : Ready sound (reader.after source calls) := by
  induction calls generalizing reader with
  | nil => exact ready
  | cons call calls ih =>
    rw [List.mem_cons, not_or] at ask
    exact ih _ (respond_ahead foretells stays reader ready call (Ne.symm ask.1)).1 ask.2

theorem respond_told (foretells : Foretells source.next sound ahead)
    (stays : Stays source.next sound ahead) (reader : SplitReader σ) (ready : Ready sound reader)
    (call : SplitCall) (asks : call ≠ .close) :
    (reader.respond source call).1.told = (aheadOf ahead reader).told 0 ∧
      (aheadOf ahead (reader.respond source call).2).told =
        fun place => (aheadOf ahead reader).told (place + 1) := by
  obtain ⟨_, ⟨row, told, _, same⟩ | ⟨told, _, same, rowless⟩⟩ :=
    respond_ahead foretells stays reader ready call asks
  · rw [told, same]
    exact ⟨rfl, rfl⟩
  · rw [told, same, Scan.told_of_no_rows _ rowless]
    refine ⟨rfl, funext fun place => ?_⟩
    rw [Scan.told_of_no_rows _ rowless, Scan.told_of_no_rows _ rowless]

theorem responses_told (foretells : Foretells source.next sound ahead)
    (stays : Stays source.next sound ahead) (reader : SplitReader σ) (ready : Ready sound reader)
    (calls : List SplitCall) (ask : .close ∉ calls) :
    (reader.responses source calls).map SplitAnswer.told =
      (List.range calls.length).map (aheadOf ahead reader).told := by
  induction calls generalizing reader with
  | nil => rfl
  | cons call calls ih =>
    rw [List.mem_cons, not_or] at ask
    have good := (respond_ahead foretells stays reader ready call (Ne.symm ask.1)).1
    obtain ⟨told, behind⟩ := respond_told foretells stays reader ready call (Ne.symm ask.1)
    rw [responses, List.map_cons, ih _ good ask.2, List.length_cons, List.range_succ_eq_map,
      List.map_cons, List.map_map, told, behind]
    rfl

theorem told_after (foretells : Foretells source.next sound ahead)
    (stays : Stays source.next sound ahead) (reader : SplitReader σ) (ready : Ready sound reader)
    (calls : List SplitCall) (ask : .close ∉ calls) (call : SplitCall) (asks : call ≠ .close) :
    ((reader.after source calls).respond source call).1.told =
      (aheadOf ahead reader).told calls.length := by
  induction calls generalizing reader with
  | nil => exact (respond_told foretells stays reader ready call asks).1
  | cons first calls ih =>
    rw [List.mem_cons, not_or] at ask
    have good := (respond_ahead foretells stays reader ready first (Ne.symm ask.1)).1
    have behind := (respond_told foretells stays reader ready first (Ne.symm ask.1)).2
    rw [after, ih _ good ask.2, behind]
    rfl

theorem uses_slot (foretells : Foretells source.next sound ahead)
    (stays : Stays source.next sound ahead) (reader : SplitReader σ) (ready : Ready sound reader)
    (call : SplitCall) (asks : call ≠ .close) : Uses source reader call := by
  obtain ⟨_, step⟩ := respond_ahead foretells stays reader ready call asks
  refine ⟨fun row tells => ?_, fun unfound => ?_, fun slot into => ?_⟩
  · obtain ⟨other, told, slot, _⟩ | ⟨told, _, _, _⟩ := step
    · rw [told, Except.ok.injEq, Option.some.injEq] at tells
      rw [slot, tells]
    · rw [told] at tells
      cases ending : (aheadOf ahead reader).ending with
      | error failure => simp [ending, Except.map] at tells
      | ok more => simp [ending, Except.map] at tells
  · obtain ⟨row, told, _, _⟩ | ⟨_, slot, _, _⟩ := step
    · exact absurd told (unfound row)
    · exact slot
  · subst into
    exact advance_row reader slot

theorem after_any_slots
    (anySlot : ∀ state slot other, (source.next state slot).more = (source.next state other).more ∧
      (source.next state slot).source = (source.next state other).source)
    (reader other : SplitReader σ) (same : reader.bare = other.bare) (calls others : List SplitCall)
    (equal : calls.length = others.length) (ask : .close ∉ calls) (otherAsk : .close ∉ others) :
    (reader.after source calls).bare = (other.after source others).bare := by
  induction calls generalizing reader other others with
  | nil =>
    rw [List.eq_nil_of_length_eq_zero equal.symm]
    exact same
  | cons call calls ih =>
    obtain ⟨next, others, rfl⟩ : ∃ next rest, others = next :: rest := by
      cases others with
      | nil => cases equal
      | cons next rest => exact ⟨next, rest, rfl⟩
    rw [List.mem_cons, not_or] at ask otherAsk
    refine ih _ _ ?_ others (by simpa using equal) ask.2 otherAsk.2
    obtain ⟨row, responds⟩ := respond_asks source reader call (Ne.symm ask.1)
    obtain ⟨otherRow, otherResponds⟩ := respond_asks source other next (Ne.symm otherAsk.1)
    obtain ⟨rows, inclusion, offset, length, progress, state, own⟩ := reader
    obtain ⟨_, _, _, _, _, _, otherOwn⟩ := other
    simp only [bare, mk.injEq, and_true] at same
    obtain ⟨rfl, rfl, rfl, rfl, rfl, rfl⟩ := same
    rw [responds, otherResponds]
    cases state with
    | closed => rfl
    | exhausted => rfl
    | opened =>
      obtain ⟨more, left⟩ :=
        anySlot rows (call.slot ⟨rows, inclusion, offset, length, progress, .opened, own⟩)
        (next.slot ⟨rows, inclusion, offset, length, progress, .opened, otherOwn⟩)
      simp only [advanceInto, more, left, bare]
      cases (source.next rows
        (next.slot ⟨rows, inclusion, offset, length, progress, .opened, otherOwn⟩)).more <;> rfl

end

section

variable (files : FileSystem) (reader : SplitReader StripeRows)

theorem respond_in_place (ready : Ready StripeRows.Sound reader) (call : SplitCall) :
    reader.respond (StripeRows.inPlace files) call = reader.respond (StripeRows.source files) call := by
  have advances (slot : Row) : reader.advanceInto (StripeRows.inPlace files) slot =
      reader.advanceInto (StripeRows.source files) slot := by
    cases state : reader.state with
    | closed => rw [advance_of_closed _ _ _ state, advance_of_closed _ _ _ state]
    | exhausted => rw [advance_of_exhausted _ _ _ state, advance_of_exhausted _ _ _ state]
    | opened =>
      simp only [advanceInto, state, StripeRows.inPlace, StripeRows.source,
        StripeRows.next_in_place files reader.rows slot (ready state).even]
  cases call with
  | advance => simp only [respond, advance, advances]
  | advanceInto slot => simp only [respond, advances]
  | nextRow => simp only [respond, nextRow, advance, advances]
  | close => rfl

theorem responses_in_place (ready : Ready StripeRows.Sound reader) (calls : List SplitCall)
    (ask : .close ∉ calls) :
    reader.responses (StripeRows.inPlace files) calls =
        reader.responses (StripeRows.source files) calls ∧
      reader.after (StripeRows.inPlace files) calls = reader.after (StripeRows.source files) calls := by
  induction calls generalizing reader with
  | nil => exact ⟨rfl, rfl⟩
  | cons call calls ih =>
    rw [List.mem_cons, not_or] at ask
    have foretells : Foretells (StripeRows.source files).next _ _ := StripeRows.next_foretold files
    have good := (respond_ahead foretells (StripeRows.next_stays files) reader ready call
      (Ne.symm ask.1)).1
    obtain ⟨answers, left⟩ := ih _ good ask.2
    simp only [responses, after, respond_in_place files reader ready call, answers, left, and_self]

end

end SplitReader

-- A reader of a range of an accepted file, whose rows are put into the slots cell by cell: what its
-- calls tell, what they leave, and what one more call does to its slot.
theorem row_slots_leak_nothing (files : FileSystem) (path : Path) (container : Container)
    (opens : Container.openPath files path = .ok container) (offset length : Nat)
    (inclusion : Inclusion) :
    ∃ reader content scan, files.openFile path = .ok (.regular content) ∧
      SplitReader.openRange files container offset length inclusion = .ok reader ∧
      scan = StripeRows.scan (.regular content) container.compression
        (inclusion.topLevel container.types) (container.footer.stripesInRange offset length) ∧
      ∀ calls, .close ∉ calls →
        reader.responses (StripeRows.source files) calls =
          reader.responses (StripeRows.inPlace files) calls ∧
        reader.after (StripeRows.source files) calls =
          reader.after (StripeRows.inPlace files) calls ∧
        (reader.responses (StripeRows.inPlace files) calls).map SplitAnswer.told =
          (List.range calls.length).map scan.told ∧
        (∀ others, .close ∉ others → others.length = calls.length →
          (reader.responses (StripeRows.inPlace files) others).map SplitAnswer.told =
            (reader.responses (StripeRows.inPlace files) calls).map SplitAnswer.told ∧
          (reader.after (StripeRows.inPlace files) others).bare =
            (reader.after (StripeRows.inPlace files) calls).bare) ∧
        ∀ call, call ≠ .close →
          (reader.after (StripeRows.inPlace files) calls).Uses (StripeRows.inPlace files) call ∧
          ∀ row, ((reader.after (StripeRows.inPlace files) calls).respond
              (StripeRows.inPlace files) call).1.told = .ok (some row) →
            row.width = container.types.columns.length ∧ scan.rows[calls.length]? = some row := by
  obtain ⟨content, accepted⟩ := Container.open_path_accepts files path container opens
  obtain ⟨reader, ranged⟩ := Container.open_range_succeeds accepted offset length inclusion
  have located := accepted.located
  rw [← accepted.named] at located
  obtain ⟨ready, told⟩ := SplitReader.open_range_ahead files container offset length inclusion _ reader
    located ranged
  have foretells : Foretells (StripeRows.source files).next _ _ := StripeRows.next_foretold files
  have stays : Stays (StripeRows.source files).next _ _ := StripeRows.next_stays files
  refine ⟨reader, content, _, accepted.located, ranged, rfl, fun calls ask => ?_⟩
  obtain ⟨answers, left⟩ := SplitReader.responses_in_place files reader ready calls ask
  have tells := SplitReader.responses_told foretells stays reader ready calls ask
  rw [told] at tells
  refine ⟨answers.symm, left.symm, by rw [answers]; exact tells, fun others otherAsk equal => ?_,
    fun call asks => ?_⟩
  · obtain ⟨otherAnswers, otherLeft⟩ := SplitReader.responses_in_place files reader ready others otherAsk
    have otherTells := SplitReader.responses_told foretells stays reader ready others otherAsk
    rw [told] at otherTells
    refine ⟨?_, ?_⟩
    · rw [answers, otherAnswers, tells, otherTells, equal]
    · rw [left, otherLeft]
      exact SplitReader.after_any_slots (StripeRows.next_any_slot files) reader reader rfl others calls
        equal otherAsk ask
  · have good := SplitReader.ready_after foretells stays reader ready calls ask
    have uses := SplitReader.uses_slot foretells stays _ good call asks
    have same := SplitReader.respond_in_place files _ good call
    have here := SplitReader.told_after foretells stays reader ready calls ask call asks
    rw [left]
    refine ⟨⟨by rw [same]; exact uses.found, by rw [same]; exact uses.unfound,
      by rw [same]; exact uses.own⟩, fun row tells => ?_⟩
    rw [same, here, told] at tells
    have found := Scan.row_of_told _ _ _ tells
    refine ⟨?_, found⟩
    rw [StripeRows.scan_width _ _ _ _ row (List.mem_of_getElem? found), Inclusion.length_top_level]

namespace Example

theorem gapped_scan :
    StripeRows.scan (.regular (bodyContent gappedBody)) .stored [true, true] gappedFooter.stripes =
      ⟨[⟨[.long 5, .null]⟩], none⟩ := by
  have within := stripes_within gappedBody rfl
  obtain ⟨empty, emptyLoads, rowless⟩ := StripeRows.load_means (within emptyStripe (.head _)) rfl
    (empty_stripe_means _ rfl)
  obtain ⟨loaded, loads, one⟩ := StripeRows.load_means (within rowStripe (.tail _ (.head _))) rfl
    (row_stripe_means _ rfl rfl)
  simp only [gappedFooter, StripeRows.scan, emptyLoads, loads, rowless, one]
  rfl

-- Calls with slots that are too wide and too narrow, and show what is not in the file.
def staleCalls : List SplitCall :=
  [.advanceInto ⟨[.boolean true, .string "x", .int 7]⟩, .nextRow, .advanceInto ⟨[.long 9]⟩]

end Example

theorem stale_slots_show_the_row :
    Container.openPath (Example.bodyFiles Example.gappedBody) "t" =
        .ok (Example.container Example.gappedBody) ∧
      .close ∉ Example.staleCalls ∧
      ∃ reader,
        SplitReader.openRange (Example.bodyFiles Example.gappedBody)
          (Example.container Example.gappedBody) 0 5000 .all = .ok reader ∧
        (reader.responses (StripeRows.inPlace (Example.bodyFiles Example.gappedBody))
            Example.staleCalls).map SplitAnswer.told =
          [.ok (some ⟨[.long 5, .null]⟩), .ok none, .ok none] ∧
        (reader.responses (StripeRows.inPlace (Example.bodyFiles Example.gappedBody))
            [.advance, .advance, .advance]).map SplitAnswer.told =
          [.ok (some ⟨[.long 5, .null]⟩), .ok none, .ok none] ∧
        ((SplitCall.advance).slotAfter
          (reader.respond (StripeRows.inPlace (Example.bodyFiles Example.gappedBody)) .advance).1
          (reader.respond (StripeRows.inPlace (Example.bodyFiles Example.gappedBody)) .advance).2).width =
            2 := by
  have opens := Example.body_opens Example.gappedBody rfl
  have ask : .close ∉ Example.staleCalls := by simp [Example.staleCalls]
  obtain ⟨reader, content, scan, located, ranged, same, leak⟩ :=
    row_slots_leak_nothing _ "t" _ opens 0 5000 .all
  rw [Example.body_located, Except.ok.injEq, OpenFile.regular.injEq] at located
  subst located
  have scanned : scan = ⟨[⟨[.long 5, .null]⟩], none⟩ := same.trans Example.gapped_scan
  obtain ⟨_, _, tells, others, _⟩ := leak Example.staleCalls ask
  rw [scanned] at tells
  refine ⟨opens, ask, reader, ranged, tells, ?_, ?_⟩
  · exact (others [.advance, .advance, .advance] (by simp) rfl).1.trans tells
  · have one := (leak [.advance] (by simp)).2.2.1
    obtain ⟨uses, wide⟩ := (leak [] (by simp)).2.2.2.2 .advance (by simp)
    rw [scanned] at one
    have told : (reader.respond (StripeRows.inPlace (Example.bodyFiles Example.gappedBody))
        .advance).1.told = .ok (some ⟨[.long 5, .null]⟩) := (List.cons.inj one).1
    have shown : SplitCall.advance.slotAfter
        (reader.respond (StripeRows.inPlace (Example.bodyFiles Example.gappedBody)) .advance).1
        (reader.respond (StripeRows.inPlace (Example.bodyFiles Example.gappedBody)) .advance).2 =
          ⟨[.long 5, .null]⟩ := uses.found _ told
    rw [shown]
    rfl

end Columnar
