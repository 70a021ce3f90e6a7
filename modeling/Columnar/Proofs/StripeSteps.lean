import Columnar.Proofs.Calls
import Columnar.Proofs.StripeScan

set_option autoImplicit false

namespace Columnar

namespace StripeRows

open LoadedStripe

def AllEmpty (file : OpenFile) (rows : StripeRows) (stripes : List StripeInfo) : Prop :=
  ∀ stripe ∈ stripes, ∃ loaded,
    load file rows.compression rows.included stripe = .ok loaded ∧ loaded.rowsLeft = 0

def behindFirst (rows : StripeRows) (columns : List (Option (List Value))) (left : Nat) :
    StripeRows :=
  { rows with
    current := some ⟨columns.map (Option.map List.tail), left⟩
    rowsReturned := rows.rowsReturned + 1 }

-- What a call does, with the stripes that it decodes: a row of the stripe at hand, the first row of
-- a later stripe, the end of the stripes, or a stripe that cannot be decoded.
inductive Step (file : OpenFile) (rows : StripeRows) (slot : Row) :
    List StripeInfo → Polled StripeRows → Prop
  | here (columns : List (Option (List Value))) (left : Nat)
    (current : rows.current = some ⟨columns, left + 1⟩) :
    Step file rows slot [] ⟨.ok true, ⟨cellsAt columns 0⟩, rows.behindFirst columns left⟩
  | onward (passed : List StripeInfo) (stripe : StripeInfo) (rest : List StripeInfo)
    (columns : List (Option (List Value))) (left : Nat) (spent : rows.currentRows = [])
    (stripes : rows.stripes = passed ++ stripe :: rest) (empty : AllEmpty file rows passed)
    (loads : load file rows.compression rows.included stripe = .ok ⟨columns, left + 1⟩) :
    Step file rows slot (passed ++ [stripe])
      ⟨.ok true, ⟨cellsAt columns 0⟩,
        behindFirst { rows with stripes := rest, current := none } columns left⟩
  | ended (spent : rows.currentRows = []) (empty : AllEmpty file rows rows.stripes) :
    Step file rows slot rows.stripes ⟨.ok false, slot, { rows with stripes := [], current := none }⟩
  | failed (passed : List StripeInfo) (stripe : StripeInfo) (rest : List StripeInfo)
    (failure : Failure) (spent : rows.currentRows = [])
    (stripes : rows.stripes = passed ++ stripe :: rest) (empty : AllEmpty file rows passed)
    (fails : load file rows.compression rows.included stripe = .error failure) :
    Step file rows slot passed
      ⟨.error failure, slot, { rows with stripes := stripe :: rest, current := none }⟩

section

variable {files : FileSystem} {rows : StripeRows} {handle : Handle}

-- The induction is on the stripes that turn out to have no rows; those before them have none either.
theorem next_stripe_steps (slot : Row) (opened : rows.handle = some handle)
    (spent : rows.currentRows = []) (passed stripes : List StripeInfo)
    (all : rows.stripes = passed ++ stripes) (empty : AllEmpty (files.view handle) rows passed) :
    ∃ decoded, Step (files.view handle) rows slot decoded (nextStripe files rows slot stripes) := by
  induction stripes generalizing passed with
  | nil =>
    rw [List.append_nil] at all
    rw [← all] at empty
    exact ⟨_, .ended spent empty⟩
  | cons stripe stripes ih =>
    simp only [nextStripe, opened]
    cases loads : load (files.view handle) rows.compression rows.included stripe with
    | error failure =>
      have step : Step (files.view handle) rows slot _ _ :=
        .failed passed stripe stripes failure spent all empty loads
      rw [opened] at step
      exact ⟨_, step⟩
    | ok loaded =>
      by_cases rowless : loaded.rowsLeft = 0
      · simp only [if_pos rowless]
        refine ih (passed ++ [stripe]) (by rw [all, List.append_assoc]; rfl) ?_
        intro other member
        cases List.mem_append.mp member with
        | inl before => exact empty other before
        | inr same =>
          rw [List.mem_singleton] at same
          exact ⟨loaded, by rw [same]; exact loads, rowless⟩
      · have even := load_even _ _ _ _ _ loads
        obtain ⟨columns, count⟩ := loaded
        obtain ⟨left, rfl⟩ : ∃ left, count = left + 1 := ⟨count - 1, by simp only at rowless; omega⟩
        have step : Step (files.view handle) rows slot _ _ :=
          .onward passed stripe stripes columns left spent all empty loads
        simp only [if_neg rowless, deliver_even _ _ slot even rowless]
        rw [behindFirst, opened] at step
        exact ⟨_, step⟩

theorem next_steps (slot : Row) (opened : rows.handle = some handle) (sound : Sound rows) :
    ∃ decoded, Step (files.view handle) rows slot decoded (next files rows slot) := by
  have nothing : AllEmpty (files.view handle) rows [] := fun stripe member => by cases member
  cases current : rows.current with
  | none =>
    have spent : rows.currentRows = [] := by simp only [currentRows, current, Option.map_none,
      Option.getD_none]
    simp only [next, current]
    exact next_stripe_steps slot opened spent [] rows.stripes rfl nothing
  | some stripe =>
    have even := sound.even stripe current
    obtain ⟨columns, count⟩ := stripe
    cases count with
    | zero =>
      have spent : rows.currentRows = [] := by
        simp only [currentRows, current, Option.map_some, Option.getD_some, LoadedStripe.rows,
          List.range_zero, List.map_nil]
      simp only [next, current, if_true]
      exact next_stripe_steps slot opened spent [] rows.stripes rfl nothing
    | succ left =>
      have occupied : ¬ left + 1 = 0 := Nat.succ_ne_zero left
      simp only [next, current, if_neg occupied, deliver_even rows _ slot even occupied]
      exact ⟨[], .here columns left current⟩

end

section

variable {file : OpenFile} {rows : StripeRows} {slot : Row} {decoded : List StripeInfo}
  {polled : Polled StripeRows}

theorem step_stripes (step : Step file rows slot decoded polled) :
    rows.stripes = decoded ++ polled.source.stripes := by
  cases step with
  | here columns left current => rfl
  | onward passed stripe rest columns left spent stripes empty loads =>
    rw [stripes, List.append_assoc]
    rfl
  | ended spent empty => exact (List.append_nil _).symm
  | failed passed stripe rest failure spent stripes empty fails => exact stripes

theorem step_keeps (step : Step file rows slot decoded polled) :
    polled.source.handle = rows.handle ∧ polled.source.compression = rows.compression ∧
      polled.source.included = rows.included ∧ polled.source.totalRows = rows.totalRows := by
  cases step <;> exact ⟨rfl, rfl, rfl, rfl⟩

theorem step_sound (step : Step file rows slot decoded polled) (sound : Sound rows) :
    Sound polled.source := by
  have opened : polled.source.handle.isSome := by
    rw [(step_keeps step).1]
    exact sound.opened
  refine ⟨opened, ?_⟩
  intro stripe found
  cases step with
  | here columns left current =>
    cases found
    exact even_tails columns left (sound.even _ current)
  | onward passed other rest columns left spent stripes empty loads =>
    cases found
    exact even_tails columns left (load_even _ _ _ _ _ loads)
  | ended spent empty => cases found
  | failed passed other rest failure spent stripes empty fails => cases found

theorem all_empty_alike {other : OpenFile} (stripes : List StripeInfo)
    (alike : ∀ stripe ∈ stripes, load other rows.compression rows.included stripe =
      load file rows.compression rows.included stripe)
    (empty : AllEmpty file rows stripes) : AllEmpty other rows stripes := by
  intro stripe member
  rw [alike stripe member]
  exact empty stripe member

theorem scan_all_empty (stripes rest : List StripeInfo) (empty : AllEmpty file rows stripes) :
    scan file rows.compression rows.included (stripes ++ rest) =
      scan file rows.compression rows.included rest := by
  induction stripes with
  | nil => rfl
  | cons stripe stripes ih =>
    obtain ⟨loaded, loads, rowless⟩ := empty stripe (by simp)
    have no : loaded.rows = [] := by simp [LoadedStripe.rows, rowless]
    have others := ih fun other member => empty other (by simp [member])
    simp only [List.cons_append, scan, loads, no, others, Scan.behind, List.nil_append]

def aheadIn (file : OpenFile) (rows : StripeRows) : Scan :=
  .behind rows.currentRows (scan file rows.compression rows.included rows.stripes)

theorem current_rows_behind (columns : List (Option (List Value))) (left : Nat)
    (current : rows.current = some ⟨columns, left + 1⟩) :
    rows.currentRows = ⟨cellsAt columns 0⟩ :: (rows.behindFirst columns left).currentRows := by
  simp only [currentRows, current, behindFirst, Option.map_some, Option.getD_some, rows_succ]

-- A call takes the row that it delivers from what is ahead, and nothing else. That is so in every
-- file where the stripes that it decodes are decoded alike.
theorem step_ahead (other : OpenFile) (step : Step file rows slot decoded polled)
    (alike : ∀ stripe ∈ decoded, load other rows.compression rows.included stripe =
      load file rows.compression rows.included stripe) :
    (polled.more = .ok true ∧
      aheadIn other rows = .behind [polled.slot] (aheadIn other polled.source)) ∨
    (polled.more ≠ .ok true ∧ polled.slot = slot ∧
      aheadIn other polled.source = aheadIn other rows) := by
  cases step with
  | here columns left current =>
    refine .inl ⟨rfl, ?_⟩
    rw [aheadIn, current_rows_behind columns left current]
    rfl
  | onward passed stripe rest columns left spent stripes empty loads =>
    have passes := all_empty_alike passed (fun one member => alike one (by simp [member])) empty
    have there := (alike stripe (by simp)).trans loads
    refine .inl ⟨rfl, ?_⟩
    rw [aheadIn, spent, stripes, scan_all_empty passed _ passes]
    simp only [scan, there, Scan.behind, List.nil_append, rows_succ, aheadIn, behindFirst,
      currentRows, Option.map_some, Option.getD_some, List.cons_append]
  | ended spent empty =>
    have all := scan_all_empty rows.stripes [] (all_empty_alike _ alike empty)
    rw [List.append_nil] at all
    refine .inr ⟨by simp, rfl, ?_⟩
    rw [aheadIn, aheadIn, spent, all]
    rfl
  | failed passed stripe rest failure spent stripes empty fails =>
    have passes := all_empty_alike _ alike empty
    refine .inr ⟨by simp, rfl, ?_⟩
    rw [aheadIn, aheadIn, spent, stripes, scan_all_empty decoded _ passes]
    rfl

theorem step_ended (other : OpenFile) (step : Step file rows slot decoded polled)
    (ended : polled.more = .ok false) : aheadIn other polled.source = .nothing := by
  cases step with
  | here columns left current => cases ended
  | onward passed stripe rest columns left spent stripes empty loads => cases ended
  | ended spent empty => rfl
  | failed passed stripe rest failure spent stripes empty fails => cases ended

theorem step_failed (step : Step file rows slot decoded polled) (failure : Failure)
    (failed : polled.more = .error failure) : aheadIn file polled.source = .failed failure := by
  cases step with
  | here columns left current => cases failed
  | onward passed stripe rest columns left spent stripes empty loads => cases failed
  | ended spent empty => cases failed
  | failed passed stripe rest cause spent stripes empty fails =>
    cases failed
    simp only [aheadIn, currentRows, scan, fails, Option.map_none, Option.getD_none, Scan.behind,
      Scan.failed, List.nil_append]

theorem total_rows_append (first second : List StripeInfo) :
    StripeInfo.totalRows (first ++ second) =
      StripeInfo.totalRows first + StripeInfo.totalRows second := by
  induction first with
  | nil => simp [StripeInfo.totalRows]
  | cons stripe first ih =>
    simp only [List.cons_append, StripeInfo.totalRows, ih]
    omega

theorem total_rows_all_empty (stripes : List StripeInfo) (empty : AllEmpty file rows stripes) :
    StripeInfo.totalRows stripes = 0 := by
  induction stripes with
  | nil => rfl
  | cons stripe stripes ih =>
    obtain ⟨loaded, loads, rowless⟩ := empty stripe (by simp)
    obtain ⟨_, left, _⟩ := load_columns _ _ _ _ _ loads
    rw [StripeInfo.totalRows, ih fun other member => empty other (by simp [member])]
    omega

end

theorem ahead_opened (files : FileSystem) (rows : StripeRows) (handle : Handle)
    (opened : rows.handle = some handle) : ahead files rows = aheadIn (files.view handle) rows := by
  simp only [ahead, opened, aheadIn]

theorem next_foretold (files : FileSystem) : Foretells (next files) Sound (ahead files) := by
  intro rows slot sound
  obtain ⟨handle, opened⟩ := Option.isSome_iff_exists.mp sound.opened
  obtain ⟨decoded, step⟩ := next_steps slot opened sound
  have kept := (step_keeps step).1.trans opened
  rw [ahead_opened files rows handle opened, ahead_opened files _ handle kept]
  obtain ⟨more, ahead⟩ | ⟨ends, _, ahead⟩ := step_ahead (files.view handle) step fun _ _ => rfl
  · exact .inr (.inr ⟨more, step_sound step sound, ahead⟩)
  · cases asked : (next files rows slot).more with
    | error failure => exact .inr (.inl ⟨failure, rfl, ahead ▸ step_failed step failure asked⟩)
    | ok more =>
      cases more with
      | false => exact .inl ⟨rfl, ahead ▸ step_ended _ step asked⟩
      | true => exact absurd asked ends

theorem next_stays (files : FileSystem) : Stays (next files) Sound (ahead files) := by
  intro rows slot sound unmoved
  obtain ⟨handle, opened⟩ := Option.isSome_iff_exists.mp sound.opened
  obtain ⟨decoded, step⟩ := next_steps slot opened sound
  have kept := (step_keeps step).1.trans opened
  rw [ahead_opened files rows handle opened, ahead_opened files _ handle kept]
  obtain ⟨more, _⟩ | ⟨_, same, ahead⟩ := step_ahead (files.view handle) step fun _ _ => rfl
  · exact absurd more unmoved
  · exact ⟨same, step_sound step sound, ahead⟩

end StripeRows

end Columnar
