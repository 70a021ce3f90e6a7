import Columnar.Proofs.SplitTiles

/-!
Files of fewer than 2^48 bytes are cut as exact arithmetic cuts them: the quotient of doubles passes
the double next to 1.1 just when the fraction itself is more than 1.1.
-/

set_option autoImplicit false

namespace Columnar

namespace SplitPlan

open Ieee

-- The double next to 1.1 is above it, by two fifths of the last place.
theorem slop_below_iff (remaining size : Nat) (positive : 0 < size) (short : size < 2 ^ 48) :
    0x3FF199999999999A < Format.double.round remaining size ↔ 11 * size < 10 * remaining := by
  constructor
  · intro above
    by_contra small
    have most := Format.double.round_mono_cross remaining size 11 10 positive (by decide) (by omega)
    have tenths : Format.double.round 11 10 = 0x3FF199999999999A := by decide +kernel
    omega
  · intro more
    have next := Format.double.round_mono_cross 0x1199999999999B (2 ^ 52) remaining size (by decide)
      positive (by omega)
    have place : Format.double.round 0x1199999999999B (2 ^ 52) = 0x3FF199999999999B := by decide +kernel
    omega

theorem cuts_again_iff (remaining size : Nat) (positive : 0 < size) (short : remaining < 2 ^ 48) :
    cutsAgain remaining size = true ↔ 11 * size < 10 * remaining := by
  by_cases long : size < remaining
  · have exact (number : Nat) (small : number < 2 ^ 48) : wholeAsDouble number = number :=
      whole_as_double_small number (Nat.lt_trans small (by decide))
    have slopReading : slop.reading = .number false 0x3FF199999999999A := by decide
    rw [← slop_below_iff remaining size positive (by omega), cutsAgain, exact remaining short,
      exact size (by omega), Double.ofRatio,
      Double.reading_ofReading _ _ (Format.double.round_finite _ _), slopReading]
    simp only [Reading.below, Reading.rank, Bool.false_eq_true, if_false, decide_eq_true_eq]
    omega
  · constructor
    · intro again
      exact absurd (cuts_again_longer remaining size positive again) long
    · omega

def fullCuts (length size : Nat) : Nat :=
  (10 * length - 11 * size + (10 * size - 1)) / (10 * size)

def exactly (path : Path) (size start length : Nat) : List Split :=
  (List.range (fullCuts length size)).map (fun place => ⟨path, start + place * size, size⟩) ++
    [⟨path, start + fullCuts length size * size, length - fullCuts length size * size⟩]

theorem full_cuts_none (length size : Nat) (positive : 0 < size) (few : 10 * length ≤ 11 * size) :
    fullCuts length size = 0 := by
  rw [fullCuts, Nat.sub_eq_zero_of_le few]
  exact Nat.div_eq_of_lt (by omega)

theorem full_cuts_more (length size : Nat) (positive : 0 < size) (many : 11 * size < 10 * length) :
    fullCuts length size = fullCuts (length - size) size + 1 := by
  by_cases again : 21 * size ≤ 10 * length
  · have step : 10 * length - 11 * size + (10 * size - 1) =
        10 * (length - size) - 11 * size + (10 * size - 1) + 10 * size := by omega
    rw [fullCuts, step, Nat.add_div_right _ (by omega)]
    rfl
  · rw [full_cuts_none (length - size) size positive (by omega), fullCuts]
    exact Nat.div_eq_of_lt_le (by omega) (by omega)

theorem exactly_more (path : Path) (size start length : Nat) (positive : 0 < size)
    (many : 11 * size < 10 * length) :
    exactly path size start length =
      ⟨path, start, size⟩ :: exactly path size (start + size) (length - size) := by
  have places (place : Nat) : start + (place + 1) * size = start + size + place * size := by
    rw [Nat.succ_mul]
    omega
  have left : length - (fullCuts (length - size) size + 1) * size =
      length - size - fullCuts (length - size) size * size := by
    rw [Nat.succ_mul]
    omega
  rw [exactly, full_cuts_more length size positive many, List.range_succ_eq_map, List.map_cons,
    List.map_map, left, places, Nat.zero_mul, Nat.add_zero, List.cons_append, exactly]
  congr 3
  exact funext fun place => by rw [Function.comp_apply, places]

-- The induction is on what remains, along the cuts.
theorem cut_exactly (again : Nat → Nat → Bool) (path : Path) (size : SplitSize)
    (start remaining : Nat) (remains : 0 < remaining)
    (exact : ∀ left ≤ remaining, again left size.bytes = true ↔ 11 * size.bytes < 10 * left) :
    cut again path size start remaining = .ok (exactly path size.bytes start remaining) := by
  induction remaining using Nat.strongRecOn generalizing start with
  | ind remaining ih =>
    have positive := size.positive
    rw [cut]
    by_cases many : 11 * size.bytes < 10 * remaining
    · have rest := ih (remaining - size.bytes) (by omega) (start + size.bytes) (by omega)
        fun left less => exact left (by omega)
      rw [if_pos ((exact remaining (Nat.le_refl _)).mpr many), exactly_more _ _ _ _ positive many]
      split
      · rename_i failed
        rw [difference_of_le remaining size.bytes (by omega)] at failed
        cases failed
      · rename_i after left
        rw [difference_of_le remaining size.bytes (by omega), Except.ok.injEq] at left
        rw [← left, rest]
        rfl
    · have last : ¬ again remaining size.bytes = true := fun more =>
        many ((exact remaining (Nat.le_refl _)).mp more)
      rw [if_neg last, if_neg (Nat.ne_of_gt remains), exactly,
        full_cuts_none remaining size.bytes positive (by omega)]
      simp

theorem left_of_full_cuts (length size : Nat) (positive : 0 < size) :
    fullCuts length size * size ≤ length ∧
      10 * (length - fullCuts length size * size) ≤ 11 * size ∧
      (0 < fullCuts length size → size < 10 * (length - fullCuts length size * size)) := by
  induction length using Nat.strongRecOn with
  | ind length ih =>
    by_cases many : 11 * size < 10 * length
    · obtain ⟨inside, most, least⟩ := ih (length - size) (by omega)
      rw [full_cuts_more length size positive many, Nat.succ_mul]
      refine ⟨by omega, by omega, fun _ => ?_⟩
      cases cuts : fullCuts (length - size) size with
      | zero => omega
      | succ more =>
        have enough := least (by omega)
        rw [cuts] at enough
        omega
    · rw [full_cuts_none length size positive (by omega)]
      omega

def EndsInProportion (size : Nat) (splits : List Split) : Prop :=
  ∃ last, splits.getLast? = some last ∧ 10 * last.length ≤ 11 * size ∧
    (1 < splits.length → size < 10 * last.length)

theorem exactly_ends (path : Path) (size start length : Nat) (positive : 0 < size) :
    EndsInProportion size (exactly path size start length) := by
  obtain ⟨_, most, least⟩ := left_of_full_cuts length size positive
  refine ⟨_, List.getLast?_concat, most, fun several => least ?_⟩
  rw [exactly, List.length_append, List.length_map, List.length_range,
    List.length_singleton] at several
  omega

theorem of_file_exactly (path : Path) (length : Nat) (short : length < 2 ^ 48) (size : SplitSize) :
    ofFile path length size = .ok (exactly path size.bytes 0 length) := by
  by_cases empty : length = 0
  · rw [ofFile, if_pos empty, empty, exactly, full_cuts_none 0 size.bytes size.positive (by omega)]
    simp
  · rw [ofFile, if_neg empty]
    exact cut_exactly cutsAgain path size 0 length (Nat.pos_of_ne_zero empty) fun left less =>
      cuts_again_iff left size.bytes size.positive (by omega)

end SplitPlan

theorem short_files_are_cut_exactly (files : FileSystem) (settings : Settings) (wanted : Nat)
    (paths : List Path) (contents : List Content)
    (regular : paths.map files.openFile = contents.map fun content => .ok (.regular content)) :
    let total := (contents.map Content.length).sum
    let size := max (max settings.minSplitSize 1) (min (total / max wanted 1) settings.blockSize)
    (∀ (path : Path) (length : Nat) (step : SplitSize), length < 2 ^ 48 →
      (∀ remaining ≤ length,
        SplitPlan.cutsAgain remaining step.bytes = true ↔ 11 * step.bytes < 10 * remaining) ∧
      SplitPlan.ofFile path length step = .ok (SplitPlan.exactly path step.bytes 0 length) ∧
      SplitPlan.EndsInProportion step.bytes (SplitPlan.exactly path step.bytes 0 length)) ∧
    ∃ groups : List (List Split),
      SplitPlan.plan files settings paths wanted = .ok groups.flatten ∧
      groups.length = paths.length ∧
      ∀ (place : Nat) (path : Path) (content : Content) (splits : List Split),
        paths[place]? = some path → contents[place]? = some content →
        groups[place]? = some splits → content.length < 2 ^ 48 →
        splits = SplitPlan.exactly path size 0 content.length := by
  intro total size
  refine ⟨fun path length step short => ⟨fun remaining less => ?_, ?_, ?_⟩, ?_⟩
  · exact SplitPlan.cuts_again_iff remaining step.bytes step.positive (by omega)
  · exact SplitPlan.of_file_exactly path length short step
  · exact SplitPlan.exactly_ends path step.bytes 0 length step.positive
  · obtain ⟨step, groups, sized, planned, count, each⟩ :=
      SplitPlan.plan_of_regular files settings wanted paths contents regular
    refine ⟨groups, planned, count, ?_⟩
    intro place path content splits pathHere contentHere here short
    have cuts := each place path content splits pathHere contentHere here
    rw [SplitPlan.of_file_exactly path content.length short step, Except.ok.injEq, sized] at cuts
    exact cuts.symm

-- Twice as far the rounded quotient may fall on the double of 1.1 itself.
example : SplitPlan.cutsAgain 619244948763440 562949953421309 = false ∧
    11 * 562949953421309 < 10 * 619244948763440 := by decide +kernel

namespace Example

def slackFiles : FileSystem :=
  ⟨.directory [("short", .file 0), ("long", .file 1)], [], #[⟨#[], 1050⟩, ⟨#[], 2 ^ 40⟩]⟩

end Example

theorem slack_files_are_cut_exactly :
    (["short", "long"] : List Path).map Example.slackFiles.openFile =
        [⟨#[], 1050⟩, ⟨#[], 2 ^ 40⟩].map (fun content => .ok (.regular content)) ∧
      SplitPlan.plan Example.slackFiles ⟨none, 1000, 1⟩ ["short", "long"] 3 =
        .ok (⟨"short", 0, 1050⟩ :: SplitPlan.exactly "long" 1000 0 (2 ^ 40)) ∧
      SplitPlan.EndsInProportion 1000 (SplitPlan.exactly "long" 1000 0 (2 ^ 40)) := by
  have short := FileSystem.open_file_at_home Example.slackFiles _ "short" 0 rfl rfl rfl (by decide) rfl
    rfl (by decide) (by decide) (by decide)
  have long := FileSystem.open_file_at_home Example.slackFiles _ "long" 1 rfl rfl rfl (by decide) rfl
    rfl (by decide) (by decide) (by decide)
  have regular : (["short", "long"] : List Path).map Example.slackFiles.openFile =
      [⟨#[], 1050⟩, ⟨#[], 2 ^ 40⟩].map fun content => .ok (.regular content) := by
    simp only [List.map_cons, List.map_nil, short, long]
    rfl
  obtain ⟨cuts, groups, planned, count, exact⟩ :=
    short_files_are_cut_exactly Example.slackFiles ⟨none, 1000, 1⟩ 3 _ _ regular
  obtain ⟨first, last, rfl⟩ := List.length_eq_two.mp count
  have size (share : Nat) : max (max 1000 1) (min share 1) = 1000 := by omega
  have firstCut := exact 0 _ _ first rfl rfl rfl (by decide)
  have lastCut := exact 1 _ _ last rfl rfl rfl (by decide)
  simp only [size, Content.length, List.size_toArray, List.length_nil, Nat.zero_add] at firstCut lastCut
  have whole : SplitPlan.exactly "short" 1000 0 1050 = [⟨"short", 0, 1050⟩] := by decide
  refine ⟨regular, ?_, (cuts "long" (2 ^ 40) ⟨1000, by decide⟩ (by decide)).2.2⟩
  rw [planned, firstCut, lastCut, whole]
  simp only [List.flatten_cons, List.flatten_nil, List.append_nil, List.singleton_append]

end Columnar
