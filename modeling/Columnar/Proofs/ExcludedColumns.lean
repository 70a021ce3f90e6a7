import Columnar.Proofs.StripeMeaning

set_option autoImplicit false

namespace Columnar

namespace StripeRows

def withHandle (rows : StripeRows) (handle : Option Handle) : StripeRows := { rows with handle }

def DecodesAlike (files others : FileSystem) (rows : StripeRows) (otherHandle : Handle) : Prop :=
  ∃ handle, rows.handle = some handle ∧
    ∀ stripe ∈ rows.stripes,
      load (others.view otherHandle) rows.compression rows.included stripe =
        load (files.view handle) rows.compression rows.included stripe

section

variable {files others : FileSystem} {rows : StripeRows} {handle otherHandle : Handle}

theorem deliver_with_handle (rows : StripeRows) (stripe : LoadedStripe) (slot : Row)
    (other : Option Handle) :
    deliver (rows.withHandle other) stripe slot =
      ⟨(deliver rows stripe slot).more, (deliver rows stripe slot).slot,
        (deliver rows stripe slot).source.withHandle other⟩ := by
  rw [deliver, deliver]
  cases LoadedStripe.split? stripe.columns <;> rfl

theorem next_stripe_with_handle (slot : Row) (opened : rows.handle = some handle)
    (stripes : List StripeInfo)
    (alike : ∀ stripe ∈ stripes, load (others.view otherHandle) rows.compression rows.included stripe =
      load (files.view handle) rows.compression rows.included stripe) :
    nextStripe others (rows.withHandle (some otherHandle)) slot stripes =
      ⟨(nextStripe files rows slot stripes).more, (nextStripe files rows slot stripes).slot,
        (nextStripe files rows slot stripes).source.withHandle (some otherHandle)⟩ := by
  induction stripes with
  | nil => rfl
  | cons stripe stripes ih =>
    have here := alike stripe (by simp)
    have rest := ih fun other member => alike other (by simp [member])
    simp only [nextStripe, opened]
    simp only [withHandle, here] at rest ⊢
    cases load (files.view handle) rows.compression rows.included stripe with
    | error failure => rfl
    | ok loaded =>
      by_cases empty : loaded.rowsLeft = 0
      · simp only [if_pos empty]
        exact rest
      · simp only [if_neg empty]
        exact deliver_with_handle { rows with handle := some handle, stripes, current := none } loaded
          slot _

theorem next_with_handle (slot : Row) (alike : DecodesAlike files others rows otherHandle) :
    next others (rows.withHandle (some otherHandle)) slot =
      ⟨(next files rows slot).more, (next files rows slot).slot,
        (next files rows slot).source.withHandle (some otherHandle)⟩ := by
  obtain ⟨handle, opened, same⟩ := alike
  have stripes := next_stripe_with_handle slot opened rows.stripes same
  rw [next, next]
  have current : (rows.withHandle (some otherHandle)).current = rows.current := rfl
  have left : (rows.withHandle (some otherHandle)).stripes = rows.stripes := rfl
  rw [current, left]
  cases rows.current with
  | none => exact stripes
  | some stripe =>
    by_cases empty : stripe.rowsLeft = 0
    · simp only [if_pos empty]
      exact stripes
    · simp only [if_neg empty]
      exact deliver_with_handle rows stripe slot _

theorem next_decodes_alike (slot : Row) (sound : Sound rows)
    (alike : DecodesAlike files others rows otherHandle) :
    Sound (next files rows slot).source ∧
      DecodesAlike files others (next files rows slot).source otherHandle := by
  obtain ⟨handle, opened, same⟩ := alike
  obtain ⟨decoded, step⟩ := next_steps slot opened sound
  obtain ⟨keptHandle, compression, included, _⟩ := step_keeps step
  refine ⟨step_sound step sound, handle, keptHandle.trans opened, ?_⟩
  intro stripe member
  rw [compression, included]
  exact same stripe (by simp [step_stripes step, member])

end

end StripeRows

inductive ReaderRequest where
  | next (slot : Row)
  | position
  | progress
  | close

inductive ReaderAnswer where
  | row (more : Except Failure Bool) (slot : Row)
  | position (place : Nat)
  | progress (share : Ieee.Single)
  | closed (outcome : Except Failure Unit)

namespace RecordReader

def respond (files : FileSystem) (reader : RecordReader) :
    ReaderRequest → ReaderAnswer × RecordReader
  | .next slot =>
    let polled := reader.next files slot
    (.row polled.more polled.slot, polled.source)
  | .position => (.position reader.position, reader)
  | .progress => (.progress reader.progress, reader)
  | .close =>
    let (outcome, closed) := reader.close files
    (.closed outcome, closed)

def responses (files : FileSystem) (reader : RecordReader) : List ReaderRequest → List ReaderAnswer
  | [] => []
  | request :: requests =>
    (reader.respond files request).1 :: responses files (reader.respond files request).2 requests

def withHandle (reader : RecordReader) (handle : Option Handle) : RecordReader :=
  { reader with reader := { reader.reader with rows := reader.reader.rows.withHandle handle } }

-- Whether readers differ in nothing but the file that they have open, and each of the two files is
-- decoded as the other wherever it is still read; closed readers read nothing.
inductive Alike (files others : FileSystem) (reader : RecordReader) : RecordReader → Prop
  | reading (otherHandle : Handle) (sound : StripeRows.Sound reader.reader.rows)
    (decodes : StripeRows.DecodesAlike files others reader.reader.rows otherHandle) :
    Alike files others reader (reader.withHandle (some otherHandle))
  | closed (handle : Option Handle) (closed : reader.reader.state = .closed) :
    Alike files others reader (reader.withHandle handle)

section

variable {files others : FileSystem} {reader other : RecordReader}

theorem next_with_handle (slot : Row) (otherHandle : Handle)
    (decodes : StripeRows.DecodesAlike files others reader.reader.rows otherHandle) :
    (reader.withHandle (some otherHandle)).next others slot =
      ⟨(reader.next files slot).more, (reader.next files slot).slot,
        (reader.next files slot).source.withHandle (some otherHandle)⟩ := by
  cases state : reader.reader.state with
  | closed =>
    have otherState : (reader.withHandle (some otherHandle)).reader.state = .closed := state
    rw [next_of_closed _ _ _ state, next_of_closed _ _ _ otherState]
  | exhausted =>
    have otherState : (reader.withHandle (some otherHandle)).reader.state = .exhausted := state
    rw [next_of_exhausted _ _ _ state, next_of_exhausted _ _ _ otherState]
  | opened =>
    have polled := StripeRows.next_with_handle slot decodes
    simp only [next, withHandle, SplitReader.advanceInto, state, StripeRows.source, polled]
    cases (StripeRows.next files reader.reader.rows slot).more <;> rfl

theorem next_alike (alike : Alike files others reader other) (slot : Row) :
    (other.next others slot).more = (reader.next files slot).more ∧
      (other.next others slot).slot = (reader.next files slot).slot ∧
      Alike files others (reader.next files slot).source (other.next others slot).source := by
  cases alike with
  | closed handle closed =>
    have otherClosed : (reader.withHandle handle).reader.state = .closed := closed
    rw [next_of_closed _ _ _ closed, next_of_closed _ _ _ otherClosed]
    exact ⟨rfl, rfl, .closed handle closed⟩
  | reading otherHandle sound decodes =>
    rw [next_with_handle slot otherHandle decodes]
    refine ⟨rfl, rfl, ?_⟩
    cases state : reader.reader.state with
    | closed =>
      rw [next_of_closed _ _ _ state]
      exact .closed (some otherHandle) state
    | exhausted =>
      rw [next_of_exhausted _ _ _ state]
      exact .reading otherHandle sound decodes
    | opened =>
      obtain ⟨soundAfter, decodesAfter⟩ := StripeRows.next_decodes_alike slot sound decodes
      obtain ⟨_, _, moved, _⟩ :=
        SplitReader.advance_of_opened (StripeRows.source files) reader.reader slot state
      have rows : (reader.next files slot).source.reader.rows =
        (StripeRows.next files reader.reader.rows slot).source := moved
      rw [← rows] at soundAfter decodesAfter
      exact .reading otherHandle soundAfter decodesAfter

theorem close_alike (alike : Alike files others reader other) :
    (other.close others).1 = (reader.close files).1 ∧
      Alike files others (reader.close files).2 (other.close others).2 := by
  obtain ⟨handle, rfl⟩ : ∃ handle, other = reader.withHandle handle := by
    cases alike with
    | closed handle _ => exact ⟨handle, rfl⟩
    | reading handle _ _ => exact ⟨some handle, rfl⟩
  by_cases state : reader.reader.state = .closed
  · have otherState : (reader.withHandle handle).reader.state = .closed := state
    rw [close_of_closed files reader state, close_of_closed others _ otherState]
    exact ⟨rfl, .closed handle state⟩
  · have otherState : (reader.withHandle handle).reader.state ≠ .closed := state
    rw [close_of_open files reader state, close_of_open others _ otherState]
    exact ⟨rfl, .closed none rfl⟩

theorem respond_alike (alike : Alike files others reader other) (request : ReaderRequest) :
    (other.respond others request).1 = (reader.respond files request).1 ∧
      Alike files others (reader.respond files request).2 (other.respond others request).2 := by
  cases request with
  | next slot =>
    obtain ⟨more, filled, after⟩ := next_alike alike slot
    simp only [respond, more, filled]
    exact ⟨trivial, after⟩
  | close =>
    obtain ⟨outcome, after⟩ := close_alike alike
    simp only [respond, outcome]
    exact ⟨trivial, after⟩
  | position =>
    refine ⟨?_, alike⟩
    cases alike <;> rfl
  | progress =>
    refine ⟨?_, alike⟩
    cases alike <;> rfl

-- The induction is on the requests: each leaves readers that are alike to those behind it.
theorem responses_alike (alike : Alike files others reader other) (requests : List ReaderRequest) :
    other.responses others requests = reader.responses files requests := by
  induction requests generalizing reader other with
  | nil => rfl
  | cons request requests ih =>
    obtain ⟨answer, after⟩ := respond_alike alike request
    rw [responses, responses, answer, ih after]

end

theorem of_range_alike {files others : FileSystem} {path : Path} {container other : Container}
    {content otherContent : Content}
    (accepted : Container.Accepted files path container content)
    (otherAccepted : Container.Accepted others path other otherContent)
    (footers : other.footer = container.footer) (kinds : other.compression = container.compression)
    (offset length : Nat) (inclusion : Inclusion)
    (agree : ∀ stripe ∈ container.footer.stripesInRange offset length, ∀ stream ∈ stripe.streams,
      (inclusion.topLevel container.types)[stream.column.toNat]? = some true →
        stream.bytesIn otherContent stripe = stream.bytesIn content stripe) :
    ∃ reader otherReader, ofRange files container offset length inclusion = .ok reader ∧
      ofRange others other offset length inclusion = .ok otherReader ∧
      Alike files others reader otherReader := by
  obtain ⟨handle, shown, ranged⟩ := Container.open_rows accepted offset length inclusion
  obtain ⟨otherHandle, otherShown, otherRanged⟩ :=
    Container.open_rows otherAccepted offset length inclusion
  have types : other.types = container.types := congrArg Footer.types footers
  have named : other.path = container.path := otherAccepted.named.trans accepted.named.symm
  have decodes : ∀ stripe ∈ container.footer.stripesInRange offset length,
      StripeRows.load (others.view otherHandle) container.compression
          (inclusion.topLevel container.types) stripe =
        StripeRows.load (files.view handle) container.compression
          (inclusion.topLevel container.types) stripe := by
    intro stripe member
    have listed := (List.mem_filter.mp member).1
    have here : stripe.Shows (.regular content) content (inclusion.topLevel container.types) :=
      StripeRows.shows_within (Container.stripes_within accepted stripe listed) _
    have there : stripe.Shows (.regular otherContent) content
        (inclusion.topLevel container.types) := by
      intro stream inside wanted
      rw [← footers] at listed
      rw [← agree stripe member stream inside wanted]
      exact StripeRows.shows_within (Container.stripes_within otherAccepted stripe listed) _ stream
        inside wanted
    rw [shown, otherShown]
    exact StripeRows.load_shown there here
  have otherOpens := of_range_opens otherRanged
  rw [footers, kinds, types, named] at otherOpens
  exact ⟨_, _, of_range_opens ranged, otherOpens,
    .reading otherHandle ⟨rfl, fun stripe absent => by cases absent⟩ ⟨handle, rfl, decodes⟩⟩

end RecordReader

-- The two files have the same footer. Their bytes agree where a stream of an included column of a
-- selected stripe stands, and are any bytes elsewhere.
theorem excluded_columns_do_not_matter (files others : FileSystem) (path : Path)
    (container other : Container) (opens : Container.openPath files path = .ok container)
    (otherOpens : Container.openPath others path = .ok other)
    (footers : other.footer = container.footer) (kinds : other.compression = container.compression)
    (content otherContent : Content) (located : files.openFile path = .ok (.regular content))
    (otherLocated : others.openFile path = .ok (.regular otherContent)) (offset length : Nat)
    (inclusion : Inclusion)
    (agree : ∀ stripe ∈ container.footer.stripesInRange offset length, ∀ stream ∈ stripe.streams,
      (inclusion.topLevel container.types)[stream.column.toNat]? = some true →
        stream.bytesIn otherContent stripe = stream.bytesIn content stripe) :
    ∃ reader otherReader,
      RecordReader.ofRange files container offset length inclusion = .ok reader ∧
      RecordReader.ofRange others other offset length inclusion = .ok otherReader ∧
      ∀ requests, otherReader.responses others requests = reader.responses files requests := by
  obtain ⟨_, accepted⟩ := Container.open_path_accepts files path container opens
  obtain ⟨_, otherAccepted⟩ := Container.open_path_accepts others path other otherOpens
  have same := accepted.located
  have otherSame := otherAccepted.located
  rw [located, Except.ok.injEq, OpenFile.regular.injEq] at same
  rw [otherLocated, Except.ok.injEq, OpenFile.regular.injEq] at otherSame
  rw [same, otherSame] at agree
  obtain ⟨reader, otherReader, ranged, otherRanged, alike⟩ := RecordReader.of_range_alike accepted
    otherAccepted footers kinds offset length inclusion agree
  exact ⟨reader, otherReader, ranged, otherRanged, RecordReader.responses_alike alike⟩

namespace Example

def otherBody : Bytes :=
  [0x80, 0x55, 0x81, 0xA1, 0x64, 0x4C, 0x6F, 0x6E, 0x67, 0x05, 0xFF, 0xFF, 0xFF, 0xFF, 0xFF, 0xFF]

theorem first_column_agrees :
    ∀ stripe ∈ gappedFooter.stripes, ∀ stream ∈ stripe.streams,
      [true, false][stream.column.toNat]? = some true →
        stream.bytesIn (bodyContent otherBody) stripe =
          stream.bytesIn (bodyContent gappedBody) stripe := by
  intro stripe member stream inside wanted
  simp only [gappedFooter, List.mem_cons, List.not_mem_nil, or_false] at member
  rcases member with first | second
  · rw [first] at inside ⊢
    simp only [emptyStripe, List.mem_singleton] at inside
    rw [inside]
    rfl
  · rw [second] at inside ⊢
    simp only [rowStripe, List.mem_cons, List.not_mem_nil, or_false] at inside
    rcases inside with numbers | nulls
    · rw [numbers]
      rfl
    · rw [nulls] at wanted
      cases wanted

theorem second_column_fails :
    rowStripe.Fails (bodyContent otherBody) .stored [true, true]
      (.format (.columnDecode 5 1 .unexpected)) := by
  have numbers := stored_stream_holds (bodyContent otherBody) rowStripe ⟨0, 0, 8, 8⟩ [.long 5] [] rfl
    rfl (by decide) rfl
  have decoded : Value.decodeStream [0xFF, 0xFF, 0xFF, 0xFF, 0xFF, 0xFF] = .error .unexpected := by cbv
  have fails : (⟨1, 8, 6, 6⟩ : StreamInfo).Fails (bodyContent otherBody) .stored rowStripe
      (.format (.columnDecode 5 1 .unexpected)) := .decoding _ rfl rfl _ decoded
  refine .stream [⟨0, 0, 8, 8⟩] _ [] _ rfl ?_ rfl fails
  intro stream member _
  rw [List.mem_singleton] at member
  rw [member]
  exact ⟨_, numbers⟩

end Example

theorem damaged_second_column_does_not_matter :
    Container.openPath (Example.bodyFiles Example.gappedBody) "t" =
        .ok (Example.container Example.gappedBody) ∧
      Container.openPath (Example.bodyFiles Example.otherBody) "t" =
        .ok (Example.container Example.otherBody) ∧
      ∃ reader otherReader,
        RecordReader.ofRange (Example.bodyFiles Example.gappedBody)
          (Example.container Example.gappedBody) 0 5000 (.mask [true, true, false]) = .ok reader ∧
        RecordReader.ofRange (Example.bodyFiles Example.otherBody)
          (Example.container Example.otherBody) 0 5000 (.mask [true, true, false]) =
            .ok otherReader ∧
        (∀ requests, otherReader.responses (Example.bodyFiles Example.otherBody) requests =
          reader.responses (Example.bodyFiles Example.gappedBody) requests) ∧
        ∃ failure, StripeRows.load (.regular (Example.bodyContent Example.otherBody)) .stored
          [true, true] Example.rowStripe = .error failure := by
  have opens := Example.body_opens Example.gappedBody rfl
  have otherOpens := Example.body_opens Example.otherBody rfl
  have footers : (Example.container Example.otherBody).footer =
      (Example.container Example.gappedBody).footer := by
    simp only [Example.container]
  have kinds : (Example.container Example.otherBody).compression =
      (Example.container Example.gappedBody).compression := by
    simp only [Container.compression, Example.container]
  obtain ⟨reader, otherReader, ranged, otherRanged, alike⟩ := excluded_columns_do_not_matter _ _ "t" _
    _ opens otherOpens footers kinds _ _ (Example.body_located _) (Example.body_located _) 0 5000
    (.mask [true, true, false]) Example.first_column_agrees
  exact ⟨opens, otherOpens, reader, otherReader, ranged, otherRanged, alike,
    StripeRows.load_fails (Example.stripes_within Example.otherBody rfl Example.rowStripe
      (by simp [Example.gappedFooter])) rfl Example.second_column_fails⟩

end Columnar
