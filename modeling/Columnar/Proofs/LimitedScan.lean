import Columnar.Proofs.FailedReads
import Columnar.Proofs.WrittenCommands

set_option autoImplicit false

namespace Columnar

-- What is met in front of a limit: a failure is not, if there are rows enough before it.
def Scan.upTo (limit : Option Nat) (scan : Scan) : Scan :=
  match limit with
  | none => scan
  | some most => if most ≤ scan.rows.length then ⟨scan.rows.take most, none⟩ else scan

theorem Scan.rows_up_to (most : Nat) (scan : Scan) :
    (scan.upTo (some most)).rows = scan.rows.take most := by
  by_cases few : most ≤ scan.rows.length
  · simp only [upTo, if_pos few]
  · rw [upTo, if_neg few, List.take_of_length_le (by omega)]

theorem Scan.mem_up_to (limit : Option Nat) (scan : Scan) (row : Row)
    (member : row ∈ (scan.upTo limit).rows) : row ∈ scan.rows := by
  cases limit with
  | none => exact member
  | some most =>
    rw [rows_up_to] at member
    exact List.mem_of_mem_take member

def Ending.after : Option Failure → Ending
  | none => .done
  | some failure => .failed failure

namespace Outcome

structure Shows (types : TypeTree) (scan : Scan) (outcome : Outcome) : Prop where
  lines : outcome.output.map some =
    scan.rows.map fun row => (Rendering.line? types row).map String.ofList
  single : ∀ line ∈ outcome.output, '\n' ∉ line.toList
  ending : outcome.ending = .after scan.failure

theorem shows_length {types : TypeTree} {scan : Scan} {outcome : Outcome}
    (shows : outcome.Shows types scan) : outcome.output.length = scan.rows.length := by
  have lengths := congrArg List.length shows.lines
  rwa [List.length_map, List.length_map] at lengths

section

variable {files : FileSystem} {reader : RecordReader}

theorem drain_few (calls : Nat) (slot : Row) (read : List Row)
    (ready : SplitReader.Ready StripeRows.Sound reader.reader)
    (few : calls ≤ (reader.ahead files).rows.length) :
    (drain files calls reader slot read).failure = none ∧
      (drain files calls reader slot read).rows =
        ((reader.ahead files).rows.take calls).reverse ++ read := by
  induction calls generalizing reader slot read with
  | zero => exact ⟨rfl, rfl⟩
  | succ calls ih =>
    rw [drain]
    obtain ⟨_, same⟩ | ⟨_, _, same⟩ | ⟨more, after, same⟩ :=
      RecordReader.next_foretold files reader slot ready
    · rw [same] at few
      cases few
    · rw [same] at few
      cases few
    · rw [same, Scan.behind, List.length_append, List.length_singleton] at few
      obtain ⟨clean, rows⟩ := ih (reader.next files slot).slot
        ((reader.next files slot).slot :: read) after (by omega)
      simp only [more, same, Scan.behind, clean, rows, List.singleton_append, List.take_succ_cons,
        List.reverse_cons, List.append_assoc, and_self]

theorem drain_all_ahead (limit : Option Nat)
    (ready : SplitReader.Ready StripeRows.Sound reader.reader)
    (enough : (reader.ahead files).rows.length < callLimit reader) :
    (drainAll files reader limit).failure = ((reader.ahead files).upTo limit).failure ∧
      (drainAll files reader limit).rows.reverse = ((reader.ahead files).upTo limit).rows := by
  cases limit with
  | none =>
    obtain ⟨failure, rows⟩ := drain_ahead files (callLimit reader) reader reader.slot [] ready enough
    simp only [drainAll, Scan.upTo, failure, rows, List.append_nil, List.reverse_reverse, and_self]
  | some most =>
    by_cases few : most ≤ (reader.ahead files).rows.length
    · have calls : min most (callLimit reader) = most := by omega
      obtain ⟨clean, rows⟩ := drain_few most reader.slot [] ready few
      simp only [drainAll, Scan.upTo, calls, if_pos few, clean, rows, List.append_nil,
        List.reverse_reverse, and_self]
    · obtain ⟨failure, rows⟩ := drain_ahead files (min most (callLimit reader)) reader reader.slot []
        ready (by omega)
      simp only [drainAll, Scan.upTo, if_neg few, failure, rows, List.append_nil, List.reverse_reverse,
        and_self]

theorem scan_with_shows (limit : Option Nat)
    (ready : SplitReader.Ready StripeRows.Sound reader.reader)
    (enough : (reader.ahead files).rows.length < callLimit reader) (valid : reader.types.Valid)
    (wide : ∀ row ∈ (reader.ahead files).rows, reader.types.columns.length ≤ row.width) :
    (scanWith files reader limit).Shows reader.types ((reader.ahead files).upTo limit) := by
  obtain ⟨failure, rows⟩ := drain_all_ahead limit ready enough
  obtain ⟨output, shown, same, single⟩ := lines_shown reader.types valid
    ((reader.ahead files).upTo limit).rows fun row member => wide row (Scan.mem_up_to limit _ row member)
  cases ends : ((reader.ahead files).upTo limit).failure with
  | some cause =>
    simp only [scanWith, rows, shown, failure, ends, Option.none_or]
    exact ⟨same, single, by rw [ends]; rfl⟩
  | none =>
    simp only [scanWith, rows, shown, failure, ends, Option.or_none, RecordReader.close_succeeds]
    exact ⟨same, single, by rw [ends]; rfl⟩

end

theorem scan_of_container {files : FileSystem} {path : Path} {container : Container}
    (opens : Container.openPath files path = .ok container) (settings asked : Settings)
    (columns : Option String) (asks : withColumns settings columns = .ok asked)
    (ordinals : List Nat) (parsed : asked.ordinals = .ok ordinals) (start : Nat)
    (length : Option Nat) :
    ∃ reader, RecordReader.openSplit files asked
        ⟨path, start, length.getD (container.length - start)⟩ = .ok reader ∧
      SplitReader.Ready StripeRows.Sound reader.reader ∧
      ∀ limit, (scan files settings path start length columns limit).Shows reader.types
        ((reader.ahead files).upTo limit) := by
  obtain ⟨content, accepted⟩ := Container.open_path_accepts files path container opens
  obtain ⟨reader, made, _⟩ := RecordReader.of_container_opens files path container content accepted
    asked ordinals parsed start (length.getD (container.length - start))
  have opened := RecordReader.open_split_of_container files path container opens asked start _ reader made
  obtain ⟨ready, enough⟩ := RecordReader.open_split_ready files asked _ reader opened
  obtain ⟨_, _, _, started⟩ := RecordReader.start_of_container accepted made
  have types : reader.types = container.types := by rw [started]
  have checked := (Footer.valid_iff_checked container.footer).mp accepted.valid
  have located := accepted.located
  rw [← accepted.named] at located
  have told := (RecordReader.ahead_of_container files container asked start _ _ reader located made).2
  refine ⟨reader, opened, ready, fun limit => ?_⟩
  have measured : lengthFrom files path start length =
      .ok (length.getD (container.length - start)) := by
    cases length with
    | some length => rfl
    | none =>
      rw [(Container.stripes_start_inside opens accepted).1]
      simp only [lengthFrom, FileSystem.length, accepted.located]
      rfl
  have whole : scan files settings path start length columns limit = scanWith files reader limit := by
    simp only [scan, asks, measured, opened]
  rw [whole]
  refine scan_with_shows limit ready enough (by rw [types]; exact checked.types) fun row member => ?_
  rw [told] at member
  rw [StripeRows.scan_width _ _ _ _ row member, Inclusion.length_top_level, types]

end Outcome

-- A scan with a limit and the scan without it read the same rows: the lines of the one are the first
-- of the other, and a failure behind the limit is not met.
theorem limited_scan_is_a_prefix (files : FileSystem) (path : Path) (container : Container)
    (opens : Container.openPath files path = .ok container) (settings asked : Settings)
    (columns : Option String) (asks : Outcome.withColumns settings columns = .ok asked)
    (ordinals : List Nat) (parsed : asked.ordinals = .ok ordinals) (start : Nat)
    (length : Option Nat) (limit : Nat) :
    let whole := Outcome.scan files settings path start length columns none
    let limited := Outcome.scan files settings path start length columns (some limit)
    (∃ reader scan,
      RecordReader.openSplit files asked
        ⟨path, start, length.getD (container.length - start)⟩ = .ok reader ∧
      Drains (RecordReader.next files) reader scan ∧ whole.Shows reader.types scan) ∧
    limited.output = whole.output.take limit ∧
    limited.ending = (if whole.output.length < limit then whole.ending else .done) ∧
    ((∃ failure, limited.ending = .failed failure) ↔
      whole.output.length < limit ∧ ∃ failure, whole.ending = .failed failure) := by
  intro whole limited
  obtain ⟨reader, opened, ready, shows⟩ := Outcome.scan_of_container opens settings asked columns asks
    ordinals parsed start length
  have all : whole.Shows reader.types (reader.ahead files) := shows none
  have first : limited.Shows reader.types ((reader.ahead files).upTo (some limit)) := shows (some limit)
  have ending : limited.ending = if whole.output.length < limit then whole.ending else .done := by
    rw [first.ending, all.ending, Outcome.shows_length all, Scan.upTo]
    by_cases few : limit ≤ (reader.ahead files).rows.length
    · rw [if_pos few, if_neg (by omega)]
      rfl
    · rw [if_neg few, if_pos (by omega)]
  refine ⟨⟨reader, reader.ahead files, opened, ?_, all⟩, ?_, ending, ?_⟩
  · exact drains_ahead (RecordReader.next_foretold files) reader ready
  · have lines := first.lines
    rw [Scan.rows_up_to, List.map_take, ← all.lines, ← List.map_take] at lines
    exact List.map_injective_iff.mpr (Option.some_injective String) lines
  · rw [ending]
    by_cases met : whole.output.length < limit
    · rw [if_pos met]
      exact ⟨fun fails => ⟨met, fails⟩, fun both => both.2⟩
    · rw [if_neg met]
      exact ⟨fun ⟨_, fails⟩ => (by cases fails), fun both => absurd both.1 met⟩

namespace Example

-- A stripe whose only stream has no value for its row.
def brokenStripe : StripeInfo := ⟨19, 1, 1, [⟨0, 0, 1, 1⟩]⟩

def brokenFooter : Footer :=
  ⟨20, .ofFields [("x", .long), ("y", .long)], [rowStripe, brokenStripe], 2, ⟨0, ""⟩⟩

def brokenPostscript : Postscript := Container.postscriptOf (brokenFooter.encode plain) .stored

def brokenContent : Content :=
  .ofBytes (magic ++ (gappedBody ++ [0x80]) ++ brokenFooter.encode plain ++ brokenPostscript.trailer)

def brokenFiles : FileSystem := .single "t" brokenContent

def brokenContainer : Container := ⟨"t", brokenContent.length, brokenPostscript, brokenFooter⟩

theorem broken_opens : Container.openPath brokenFiles "t" = .ok brokenContainer := by
  rw [brokenFiles, Container.open_path_regular _ "t" _ (single_located brokenContent)]
  exact Container.opens_assembled "t"
    (stored_assembled brokenFooter (gappedBody ++ [0x80]) rfl (by decide +kernel) rfl)

theorem broken_stripe_fails :
    brokenStripe.Fails brokenContent .stored [true, true] (.format (.columnCount 19 0 0 1)) := by
  have decoded := Value.decode_stream_encode [] [] (by decide)
  rw [if_pos (by decide)] at decoded
  have fails : (⟨0, 0, 1, 1⟩ : StreamInfo).Fails brokenContent .stored brokenStripe
      (.format (.columnCount 19 0 0 1)) := .count _ rfl rfl [] decoded (by decide)
  exact .stream [] _ _ _ rfl (fun stream member => by cases member) rfl fails

theorem broken_scanned :
    ∃ failure, StripeRows.scan (.regular brokenContent) .stored [true, true] brokenFooter.stripes =
      ⟨[⟨[.long 5, .null]⟩], some failure⟩ := by
  obtain ⟨content, accepted⟩ := Container.open_path_accepts _ "t" _ broken_opens
  have located := accepted.located
  rw [brokenFiles, single_located, Except.ok.injEq, OpenFile.regular.injEq] at located
  rw [← located] at accepted
  have within := Container.stripes_within accepted
  obtain ⟨loaded, loads, row⟩ := StripeRows.load_means (within rowStripe (.head _)) rfl
    (row_stripe_means brokenContent rfl rfl)
  obtain ⟨failure, refused⟩ := StripeRows.load_fails (within brokenStripe (.tail _ (.head _))) rfl
    broken_stripe_fails
  refine ⟨failure, ?_⟩
  simp only [brokenFooter, StripeRows.scan, loads, refused, row]
  rfl

theorem broken_drained (settings : Settings) (parsed : settings.ordinals = .ok [])
    (reader : RecordReader)
    (opened : RecordReader.openSplit brokenFiles settings ⟨"t", 0, 5000⟩ = .ok reader) (scan : Scan)
    (drains : Drains (RecordReader.next brokenFiles) reader scan) :
    scan.rows = [⟨[.long 5, .null]⟩] ∧ ∃ failure, scan.failure = some failure := by
  obtain ⟨content, accepted⟩ := Container.open_path_accepts _ "t" _ broken_opens
  obtain ⟨other, made, includes⟩ := RecordReader.of_container_opens _ "t" _ content accepted settings []
    parsed 0 5000
  have same := RecordReader.open_split_of_container _ "t" _ broken_opens settings 0 5000 other made
  rw [same, Except.ok.injEq] at opened
  subst opened
  have scanned := (RecordReader.drains_of_container _ _ settings 0 5000 _ other
    (single_located brokenContent) made scan).mp drains
  obtain ⟨failure, fails⟩ := broken_scanned
  have stripes : StripeRows.scan (.regular brokenContent) brokenContainer.compression
      (other.inclusion.topLevel brokenContainer.types)
      (brokenContainer.footer.stripesInRange 0 5000) = ⟨[⟨[.long 5, .null]⟩], some failure⟩ := by
    rw [Inclusion.of_no_ordinals _ _ includes]
    exact fails
  rw [scanned, stripes]
  exact ⟨rfl, _, rfl⟩

end Example

-- The row in front of the damage is the whole output, with a limit of one row and without a limit. A
-- limit of two rows is not reached.
theorem row_in_front_of_damage_is_printed :
    Container.openPath Example.brokenFiles "t" = .ok Example.brokenContainer ∧
      Outcome.withColumns .standard (some "") = .ok ⟨some "", 16384, 33554432⟩ ∧
      (⟨some "", 16384, 33554432⟩ : Settings).ordinals = .ok [] ∧
      ∃ line failure,
        (let whole := Outcome.scan Example.brokenFiles .standard "t" 0 (some 5000) (some "") none
        whole.output = [line] ∧ whole.ending = .failed failure) ∧
        (let limited := Outcome.scan Example.brokenFiles .standard "t" 0 (some 5000) (some "") (some 1)
        limited.output = [line] ∧ limited.ending = .done) ∧
        let limited := Outcome.scan Example.brokenFiles .standard "t" 0 (some 5000) (some "") (some 2)
        limited.output = [line] ∧ limited.ending = .failed failure := by
  have asks : Outcome.withColumns .standard (some "") = .ok ⟨some "", 16384, 33554432⟩ := rfl
  have parsed : (⟨some "", 16384, 33554432⟩ : Settings).ordinals = .ok [] := rfl
  have limits := limited_scan_is_a_prefix _ "t" _ Example.broken_opens .standard _ (some "") asks []
    parsed 0 (some 5000)
  obtain ⟨⟨reader, scan, opened, drains, shows⟩, oneOutput, oneEnding, _⟩ := limits 1
  obtain ⟨_, twoOutput, twoEnding, _⟩ := limits 2
  obtain ⟨rows, failure, fails⟩ := Example.broken_drained _ parsed reader opened scan drains
  have count := Outcome.shows_length shows
  rw [rows] at count
  obtain ⟨line, whole⟩ := List.length_eq_one_iff.mp count
  have ending := shows.ending
  rw [fails] at ending
  rw [whole] at oneOutput oneEnding twoOutput twoEnding
  exact ⟨Example.broken_opens, asks, parsed, line, failure, ⟨whole, ending⟩, ⟨oneOutput, oneEnding⟩,
    twoOutput, twoEnding.trans ending⟩

end Columnar
