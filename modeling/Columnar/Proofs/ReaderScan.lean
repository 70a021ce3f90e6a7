import Columnar.Proofs.StripeSteps

set_option autoImplicit false

namespace Columnar

namespace SplitReader

variable {σ : Type}

def aheadOf (ahead : σ → Scan) (reader : SplitReader σ) : Scan :=
  match reader.state with
  | .opened => ahead reader.rows
  | .exhausted => .nothing
  | .closed => .failed .closed

def Ready (sound : σ → Prop) (reader : SplitReader σ) : Prop :=
  reader.state = .opened → sound reader.rows

theorem advance_foretold {sound : σ → Prop} {ahead : σ → Scan} (source : RowSource σ)
    (foretells : Foretells source.next sound ahead) :
    Foretells (advanceInto source) (Ready sound) (aheadOf ahead) := by
  intro reader slot ready
  cases state : reader.state with
  | closed =>
    rw [advance_of_closed source reader slot state]
    exact .inr (.inl ⟨.closed, rfl, by simp only [aheadOf, state]⟩)
  | exhausted =>
    rw [advance_of_exhausted source reader slot state]
    exact .inl ⟨rfl, by simp only [aheadOf, state]⟩
  | opened =>
    have told : aheadOf ahead reader = ahead reader.rows := by simp only [aheadOf, state]
    obtain ⟨more, filled, rows, after⟩ := advance_of_opened source reader slot state
    rw [told, more, filled]
    obtain ⟨ended, same⟩ | ⟨failure, fault, same⟩ | ⟨found, good, same⟩ :=
      foretells reader.rows slot (ready state)
    · exact .inl ⟨ended, same⟩
    · exact .inr (.inl ⟨failure, fault, same⟩)
    · obtain ⟨_, ended⟩ | ⟨opened, _⟩ := after
      · rw [found] at ended
        cases ended
      · have behind : aheadOf ahead (reader.advanceInto source slot).source =
            ahead (source.next reader.rows slot).source := by
          simp only [aheadOf, opened, rows]
        rw [behind]
        exact .inr (.inr ⟨found, fun _ => by rw [rows]; exact good, same⟩)

theorem open_range_inclusion (files : FileSystem) (container : Container) (offset length : Nat)
    (inclusion : Inclusion) (reader : SplitReader StripeRows)
    (opens : openRange files container offset length inclusion = .ok reader) :
    reader.inclusion = inclusion := by
  simp only [openRange] at opens
  cases rows : StripeRows.openRange files container offset length inclusion with
  | error failure => simp [rows] at opens
  | ok rows =>
    simp only [rows, Except.ok.injEq] at opens
    rw [← opens]
    rfl

theorem open_range_ahead (files : FileSystem) (container : Container) (offset length : Nat)
    (inclusion : Inclusion) (file : OpenFile) (reader : SplitReader StripeRows)
    (located : files.openFile container.path = .ok file)
    (opens : openRange files container offset length inclusion = .ok reader) :
    Ready StripeRows.Sound reader ∧
      aheadOf (StripeRows.ahead files) reader =
        StripeRows.scan file container.compression (inclusion.topLevel container.types)
          (container.footer.stripesInRange offset length) := by
  simp only [openRange, StripeRows.openRange] at opens
  cases columns : container.types.columns? with
  | none => simp [columns] at opens
  | some ids =>
    cases path : files.openPath container.path with
    | error fault => simp [columns, path] at opens
    | ok handle =>
      simp only [columns, path, Except.ok.injEq] at opens
      simp only [FileSystem.openFile, path, Except.map, Except.ok.injEq] at located
      rw [← opens]
      refine ⟨fun _ => ⟨rfl, fun stripe absent => by cases absent⟩, ?_⟩
      simp only [aheadOf, start, StripeRows.ahead, StripeRows.currentRows, Option.map_none,
        Option.getD_none, Scan.behind, List.nil_append, located, Inclusion.topLevel,
        TypeTree.columns, columns, Option.getD_some]

theorem drains_range (files : FileSystem) (container : Container) (offset length : Nat)
    (inclusion : Inclusion) (file : OpenFile) (reader : SplitReader StripeRows)
    (located : files.openFile container.path = .ok file)
    (opens : openRange files container offset length inclusion = .ok reader) (scan : Scan) :
    Drains (advanceInto (StripeRows.source files)) reader scan ↔
      scan = StripeRows.scan file container.compression (inclusion.topLevel container.types)
        (container.footer.stripesInRange offset length) := by
  obtain ⟨ready, same⟩ := open_range_ahead files container offset length inclusion file reader located
    opens
  rw [← same]
  exact drains_iff (advance_foretold (StripeRows.source files) (StripeRows.next_foretold files)) reader
    ready scan

end SplitReader

namespace RecordReader

def ahead (files : FileSystem) (reader : RecordReader) : Scan :=
  (SplitReader.aheadOf (StripeRows.ahead files) reader.reader).mapFailure (withPath reader.path)

theorem next_foretold (files : FileSystem) :
    Foretells (next files) (fun reader => SplitReader.Ready StripeRows.Sound reader.reader)
      (ahead files) := by
  intro reader slot ready
  have step := SplitReader.advance_foretold (StripeRows.source files) (StripeRows.next_foretold files)
    reader.reader slot ready
  simp only [next, ahead]
  obtain ⟨ended, same⟩ | ⟨failure, fault, same⟩ | ⟨more, after, same⟩ := step
  · rw [ended, same]
    exact .inl ⟨rfl, rfl⟩
  · rw [fault, same]
    exact .inr (.inl ⟨withPath reader.path failure, rfl, rfl⟩)
  · rw [more, same]
    exact .inr (.inr ⟨rfl, after, rfl⟩)

theorem range_of_container {files : FileSystem} {container : Container} {settings : Settings}
    {offset length : Nat} {reader : RecordReader}
    (made : ofContainer files container settings offset length = .ok reader) :
    ∃ inclusion inner, SplitReader.openRange files container offset length inclusion = .ok inner ∧
      reader = ⟨inner, container.types, container.path⟩ := by
  simp only [ofContainer] at made
  cases projected : settings.projection container.types with
  | error failure => simp [projected] at made
  | ok projection =>
    cases included : Inclusion.ofProjection container.types projection with
    | error failure => simp [projected, included] at made
    | ok inclusion =>
      cases ranged : SplitReader.openRange files container offset length inclusion with
      | error failure => simp [projected, included, ranged] at made
      | ok inner =>
        simp only [projected, included, ranged, Except.ok.injEq] at made
        exact ⟨inclusion, inner, ranged, made.symm⟩

theorem ahead_of_container (files : FileSystem) (container : Container) (settings : Settings)
    (offset length : Nat) (file : OpenFile) (reader : RecordReader)
    (located : files.openFile container.path = .ok file)
    (opens : ofContainer files container settings offset length = .ok reader) :
    SplitReader.Ready StripeRows.Sound reader.reader ∧
      ahead files reader = (StripeRows.scan file container.compression
        (reader.inclusion.topLevel container.types)
        (container.footer.stripesInRange offset length)).mapFailure (withPath container.path) := by
  obtain ⟨inclusion, inner, ranged, same⟩ := range_of_container opens
  obtain ⟨ready, told⟩ := SplitReader.open_range_ahead files container offset length inclusion file
    inner located ranged
  have kept : inner.inclusion = inclusion := SplitReader.open_range_inclusion _ _ _ _ _ _ ranged
  rw [same]
  exact ⟨ready, by simp only [ahead, told, RecordReader.inclusion, kept]⟩

theorem drains_of_container (files : FileSystem) (container : Container) (settings : Settings)
    (offset length : Nat) (file : OpenFile) (reader : RecordReader)
    (located : files.openFile container.path = .ok file)
    (opens : ofContainer files container settings offset length = .ok reader) (scan : Scan) :
    Drains (next files) reader scan ↔
      scan = (StripeRows.scan file container.compression
        (reader.inclusion.topLevel container.types)
        (container.footer.stripesInRange offset length)).mapFailure (withPath container.path) := by
  obtain ⟨ready, same⟩ := ahead_of_container files container settings offset length file reader located
    opens
  rw [drains_iff (next_foretold files) reader ready scan, same]

end RecordReader

end Columnar
