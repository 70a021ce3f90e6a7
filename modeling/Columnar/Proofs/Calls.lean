import Columnar.Proofs.Drain
import Columnar.Reading.RecordReader

set_option autoImplicit false

namespace Columnar

abbrev Answer := Except Failure Bool × Row

section

variable {σ ι : Type} (next : σ → ι → Polled σ)

def answers (source : σ) : List ι → List Answer
  | [] => []
  | call :: calls =>
    ((next source call).more, (next source call).slot) :: answers (next source call).source calls

def afterCalls (source : σ) : List ι → σ
  | [] => source
  | call :: calls => afterCalls (next source call).source calls

end

def delivered (found : List Answer) : List Row :=
  found.filterMap fun
    | (.ok true, row) => some row
    | _ => none

theorem delivered_cons (answer : Answer) (found : List Answer) :
    delivered (answer :: found) = delivered [answer] ++ delivered found := by
  rw [delivered, delivered, delivered, ← List.filterMap_append, List.singleton_append]

def answersOf (ending : Except Failure Bool) : List Row → List Row → List Answer
  | _, [] => []
  | [], slot :: slots => (ending, slot) :: answersOf ending [] slots
  | row :: rows, _ :: slots => (.ok true, row) :: answersOf ending rows slots

def Scan.ending (scan : Scan) : Except Failure Bool :=
  match scan.failure with
  | none => .ok false
  | some failure => .error failure

def Stays {σ : Type} (next : σ → Row → Polled σ) (sound : σ → Prop) (ahead : σ → Scan) : Prop :=
  ∀ source slot, sound source → (next source slot).more ≠ .ok true →
    (next source slot).slot = slot ∧ sound (next source slot).source ∧
      ahead (next source slot).source = ahead source

theorem answers_ahead {σ : Type} {next : σ → Row → Polled σ} {sound : σ → Prop} {ahead : σ → Scan}
    (foretells : Foretells next sound ahead) (stays : Stays next sound ahead) (source : σ)
    (good : sound source) (slots : List Row) :
    answers next source slots = answersOf (ahead source).ending (ahead source).rows slots := by
  induction slots generalizing source with
  | nil => rw [answers, answersOf]
  | cons slot slots ih =>
    rw [answers]
    obtain ⟨ended, same⟩ | ⟨failure, fault, same⟩ | ⟨more, after, same⟩ := foretells source slot good
    · obtain ⟨kept, after, left⟩ := stays source slot good (by rw [ended]; simp)
      rw [ih _ after, left, same, ended, kept]
      rfl
    · obtain ⟨kept, after, left⟩ := stays source slot good (by rw [fault]; simp)
      rw [ih _ after, left, same, fault, kept]
      rfl
    · rw [ih _ after, same, more]
      rfl

namespace SplitReader

section

variable {σ : Type} (source : RowSource σ) (reader : SplitReader σ) (slot : Row)

theorem advance_of_closed (closed : reader.state = .closed) :
    reader.advanceInto source slot = ⟨.error .closed, slot, reader⟩ := by
  simp only [advanceInto, closed]

theorem advance_of_exhausted (exhausted : reader.state = .exhausted) :
    reader.advanceInto source slot = ⟨.ok false, slot, reader⟩ := by
  simp only [advanceInto, exhausted]

theorem advance_of_opened (opened : reader.state = .opened) :
    (reader.advanceInto source slot).more = (source.next reader.rows slot).more ∧
      (reader.advanceInto source slot).slot = (source.next reader.rows slot).slot ∧
      (reader.advanceInto source slot).source.rows = (source.next reader.rows slot).source ∧
      (((reader.advanceInto source slot).source.state = .exhausted ∧
          (source.next reader.rows slot).more = .ok false) ∨
        ((reader.advanceInto source slot).source.state = .opened ∧
          (source.next reader.rows slot).more ≠ .ok false)) := by
  simp only [advanceInto, opened]
  cases (source.next reader.rows slot).more with
  | error failure => exact ⟨rfl, rfl, rfl, .inr ⟨rfl, by simp⟩⟩
  | ok more =>
    cases more with
    | false => exact ⟨rfl, rfl, rfl, .inl ⟨rfl, rfl⟩⟩
    | true => exact ⟨rfl, rfl, rfl, .inr ⟨rfl, by simp⟩⟩

end

end SplitReader

namespace RecordReader

def ofRange (files : FileSystem) (container : Container) (offset length : Nat)
    (inclusion : Inclusion) : Except Failure RecordReader :=
  (SplitReader.openRange files container offset length inclusion).map fun reader =>
    ⟨reader, container.types, container.path⟩

theorem of_range_opens {files : FileSystem} {container : Container} {offset length : Nat}
    {inclusion : Inclusion} {rows : StripeRows}
    (ranged : StripeRows.openRange files container offset length inclusion = .ok rows) :
    ofRange files container offset length inclusion =
      .ok ⟨.start rows offset length inclusion container.types.columns.length, container.types,
        container.path⟩ := by
  rw [ofRange, SplitReader.openRange, ranged]
  rfl

theorem next_of_exhausted (files : FileSystem) (reader : RecordReader) (slot : Row)
    (exhausted : reader.reader.state = .exhausted) :
    reader.next files slot = ⟨.ok false, slot, reader⟩ := by
  rw [next, SplitReader.advance_of_exhausted _ _ _ exhausted]
  rfl

theorem next_of_closed (files : FileSystem) (reader : RecordReader) (slot : Row)
    (closed : reader.reader.state = .closed) :
    reader.next files slot = ⟨.error .closed, slot, reader⟩ := by
  rw [next, SplitReader.advance_of_closed _ _ _ closed]
  rfl

theorem close_of_closed (files : FileSystem) (reader : RecordReader)
    (closed : reader.reader.state = .closed) : reader.close files = (.ok (), reader) := by
  simp only [close, SplitReader.close, closed]

theorem close_of_open (files : FileSystem) (reader : RecordReader)
    (unclosed : reader.reader.state ≠ .closed) :
    reader.close files =
      (.ok (), { reader with
        reader := { reader.reader with rows := reader.reader.rows.close.2, state := .closed } }) := by
  cases state : reader.reader.state with
  | closed => exact absurd state unclosed
  | opened =>
    simp only [close, SplitReader.close, state]
    rfl
  | exhausted =>
    simp only [close, SplitReader.close, state]
    rfl

end RecordReader

end Columnar
