import Columnar.Proofs.FileSystem.Created
import Columnar.Proofs.Ieee.Order
import Columnar.Proofs.Opening
import Columnar.SplitPlan

set_option autoImplicit false

namespace Columnar

namespace SplitPlan

def Follow (path : Path) (stop : Nat) : Nat → List Split → Prop
  | start, [] => start = stop
  | start, split :: rest =>
    split.path = path ∧ split.start = start ∧ 0 < split.length ∧
      Follow path stop (start + split.length) rest

def Tiles (path : Path) (length size : Nat) (splits : List Split) : Prop :=
  if length = 0 then splits = [⟨path, 0, 0⟩]
  else Follow path length 0 splits ∧ ∀ split ∈ splits.dropLast, split.length = size

open Ieee in
-- No quotient of numbers up to the divisor is rounded to more than one.
theorem cuts_again_longer (remaining size : Nat) (positive : 0 < size)
    (again : cutsAgain remaining size = true) : size < remaining := by
  by_contra short
  have one : Format.double.units 0x3FF0000000000000 = Format.double.scale := by decide +kernel
  have finite : 0x3FF0000000000000 ≤ Format.double.infinity := by decide +kernel
  have slopReading : slop.reading = .number false 0x3FF199999999999A := by decide
  have bottom := whole_as_double_positive size positive
  have top := whole_as_double_mono remaining size (by omega)
  have ratio : Format.double.round (wholeAsDouble remaining) (wholeAsDouble size) ≤
      0x3FF0000000000000 := by
    rw [← Format.round_of_same .double _ _ bottom one finite]
    exact Format.round_mono .double _ _ _ bottom top
  rw [cutsAgain, Double.ofRatio, Double.reading_ofReading _ _ (by omega), slopReading] at again
  simp only [Reading.below, Reading.rank, Bool.false_eq_true, if_false, decide_eq_true_eq] at again
  omega

-- The induction is on what remains: where it is more than a split, a cut is safe and leaves some.
theorem cut_follows (again : Nat → Nat → Bool) (path : Path) (size : SplitSize)
    (longer : ∀ remaining, again remaining size.bytes = true → size.bytes < remaining)
    (start remaining : Nat) :
    ∃ splits, cut again path size start remaining = .ok splits ∧
      Follow path (start + remaining) start splits ∧
      ∀ split ∈ splits.dropLast, split.length = size.bytes := by
  induction remaining using Nat.strongRecOn generalizing start with
  | ind remaining ih =>
    have positive := size.positive
    rw [cut]
    cases test : again remaining size.bytes with
    | true =>
      have long := longer remaining test
      obtain ⟨splits, cuts, follow, sized⟩ := ih (remaining - size.bytes) (by omega)
        (start + size.bytes)
      rw [show start + size.bytes + (remaining - size.bytes) = start + remaining by omega] at follow
      refine ⟨⟨path, start, size.bytes⟩ :: splits, ?_, ⟨rfl, rfl, positive, follow⟩, ?_⟩
      · rw [if_pos rfl]
        split
        · rename_i failed
          rw [difference_of_le remaining size.bytes (by omega)] at failed
          cases failed
        · rename_i rest left
          rw [difference_of_le remaining size.bytes (by omega), Except.ok.injEq] at left
          rw [← left, cuts]
          rfl
      · intro split member
        cases splits with
        | nil => cases member
        | cons next others =>
          rw [List.dropLast_cons_cons] at member
          cases member with
          | head => rfl
          | tail _ later => exact sized split later
    | false =>
      rw [if_neg Bool.false_ne_true]
      by_cases exhausted : remaining = 0
      · rw [if_pos exhausted, exhausted]
        exact ⟨[], rfl, rfl, by simp⟩
      · rw [if_neg exhausted]
        exact ⟨[⟨path, start, remaining⟩], rfl, ⟨rfl, rfl, Nat.pos_of_ne_zero exhausted, rfl⟩, by simp⟩

theorem of_file_tiles (path : Path) (length : Nat) (size : SplitSize) :
    ∃ splits, ofFile path length size = .ok splits ∧ Tiles path length size.bytes splits := by
  by_cases empty : length = 0
  · exact ⟨[⟨path, 0, 0⟩], by rw [ofFile, if_pos empty], by rw [Tiles, if_pos empty]⟩
  · have longer (remaining : Nat) (again : cutsAgain remaining size.bytes = true) :
        size.bytes < remaining := cuts_again_longer remaining size.bytes size.positive again
    obtain ⟨splits, cuts, follow, sized⟩ := cut_follows cutsAgain path size longer 0 length
    rw [Nat.zero_add] at follow
    exact ⟨splits, by rw [ofFile, if_neg empty, cuts], by rw [Tiles, if_neg empty]; exact ⟨follow, sized⟩⟩

theorem of_files_each (size : SplitSize) (sized : List (Path × Nat)) :
    ∃ groups, ofFiles size sized = .ok groups.flatten ∧
      List.Forall₂ (fun file splits => ofFile file.1 file.2 size = .ok splits) sized groups := by
  induction sized with
  | nil => exact ⟨[], rfl, .nil⟩
  | cons file rest ih =>
    obtain ⟨path, length⟩ := file
    obtain ⟨splits, first, _⟩ := of_file_tiles path length size
    obtain ⟨groups, others, all⟩ := ih
    refine ⟨splits :: groups, ?_, .cons first all⟩
    simp only [ofFiles, first, others, Except.map, List.flatten_cons]

theorem plan_each (files : FileSystem) (settings : Settings) (paths : List Path) (wanted : Nat)
    (sized : List (Path × Nat)) (known : lengths files paths = .ok sized) :
    ∃ groups, plan files settings paths wanted = .ok groups.flatten ∧
      List.Forall₂
        (fun file splits => ofFile file.1 file.2
          (sizeFor settings (totalLength sized / max wanted 1)) = .ok splits) sized groups := by
  have nonzero : ¬ max wanted 1 = 0 := by omega
  obtain ⟨groups, planned, all⟩ :=
    of_files_each (sizeFor settings (totalLength sized / max wanted 1)) sized
  refine ⟨groups, ?_, all⟩
  simp only [plan, known, evenShare, if_neg nonzero, planned]

theorem plan_tiles (files : FileSystem) (settings : Settings) (paths : List Path) (wanted : Nat)
    (sized : List (Path × Nat)) (known : lengths files paths = .ok sized) :
    ∃ groups, plan files settings paths wanted = .ok groups.flatten ∧
      List.Forall₂
        (fun file splits => Tiles file.1 file.2
          (sizeFor settings (totalLength sized / max wanted 1)).bytes splits) sized groups := by
  obtain ⟨groups, planned, all⟩ := plan_each files settings paths wanted sized known
  refine ⟨groups, planned, all.imp fun file splits cut => ?_⟩
  obtain ⟨found, cuts, tiles⟩ := of_file_tiles file.1 file.2
    (sizeFor settings (totalLength sized / max wanted 1))
  rw [cut, Except.ok.injEq] at cuts
  rw [cuts]
  exact tiles

theorem lengths_of_regular (files : FileSystem) (paths : List Path) (contents : List Content)
    (regular : paths.map files.openFile = contents.map fun content => .ok (.regular content)) :
    lengths files paths = .ok (paths.zip (contents.map Content.length)) := by
  induction paths generalizing contents with
  | nil => rfl
  | cons path paths ih =>
    cases contents with
    | nil => cases regular
    | cons content contents =>
      simp only [List.map_cons, List.cons.injEq] at regular
      simp only [lengths, lengthOf, regular.1, ih contents regular.2, Except.map, OpenFile.length,
        List.map_cons, List.zip_cons_cons]

theorem total_of_zip (paths : List Path) (sizes : List Nat) (same : paths.length = sizes.length) :
    totalLength (paths.zip sizes) = sizes.sum := by
  induction paths generalizing sizes with
  | nil =>
    rw [List.length_nil] at same
    rw [List.length_eq_zero_iff.mp same.symm]
    rfl
  | cons path paths ih =>
    cases sizes with
    | nil => cases same
    | cons size sizes =>
      simp only [List.zip_cons_cons, totalLength, List.sum_cons]
      rw [ih sizes (by simpa using same)]

theorem plan_of_regular (files : FileSystem) (settings : Settings) (wanted : Nat)
    (paths : List Path) (contents : List Content)
    (regular : paths.map files.openFile = contents.map fun content => .ok (.regular content)) :
    ∃ (size : SplitSize) (groups : List (List Split)),
      size.bytes = max (max settings.minSplitSize 1)
        (min ((contents.map Content.length).sum / max wanted 1) settings.blockSize) ∧
      plan files settings paths wanted = .ok groups.flatten ∧ groups.length = paths.length ∧
      ∀ (place : Nat) (path : Path) (content : Content) (splits : List Split),
        paths[place]? = some path → contents[place]? = some content →
        groups[place]? = some splits → ofFile path content.length size = .ok splits := by
  have counts : paths.length = (contents.map Content.length).length := by
    have lengths := congrArg List.length regular
    simpa using lengths
  have known := lengths_of_regular files paths contents regular
  obtain ⟨groups, planned, all⟩ := plan_each files settings paths wanted _ known
  rw [total_of_zip _ _ counts] at all
  have size : (sizeFor settings ((contents.map Content.length).sum / max wanted 1)).bytes =
      max (max settings.minSplitSize 1)
        (min ((contents.map Content.length).sum / max wanted 1) settings.blockSize) := by
    simp only [sizeFor, Settings.splitFloor]
    exact max_comm _ _
  refine ⟨_, groups, size, planned, ?_, ?_⟩
  · rw [← all.length_eq, List.length_zip, ← counts, Nat.min_self]
  · intro place path content splits pathHere contentHere here
    have file : (paths.zip (contents.map Content.length))[place]? = some (path, content.length) := by
      rw [List.getElem?_zip_eq_some]
      exact ⟨pathHere, by rw [List.getElem?_map, contentHere, Option.map_some]⟩
    obtain ⟨inside, fileHere⟩ := List.getElem?_eq_some_iff.mp file
    obtain ⟨within, splitsHere⟩ := List.getElem?_eq_some_iff.mp here
    have cuts := all.get inside within
    simp only [List.get_eq_getElem, fileHere, splitsHere] at cuts
    exact cuts

end SplitPlan

theorem splits_tile_every_file (files : FileSystem) (settings : Settings) (wanted : Nat)
    (paths : List Path) (contents : List Content)
    (regular : paths.map files.openFile = contents.map fun content => .ok (.regular content)) :
    let total := (contents.map Content.length).sum
    let size := max (max settings.minSplitSize 1) (min (total / max wanted 1) settings.blockSize)
    ∃ groups : List (List Split),
      SplitPlan.plan files settings paths wanted = .ok groups.flatten ∧
      groups.length = paths.length ∧
      ∀ (place : Nat) (path : Path) (content : Content) (splits : List Split),
        paths[place]? = some path → contents[place]? = some content →
        groups[place]? = some splits →
        SplitPlan.Tiles path content.length size splits := by
  intro total size
  obtain ⟨cut, groups, sized, planned, count, each⟩ :=
    SplitPlan.plan_of_regular files settings wanted paths contents regular
  refine ⟨groups, planned, count, fun place path content splits pathHere contentHere here => ?_⟩
  obtain ⟨found, cuts, tiles⟩ := SplitPlan.of_file_tiles path content.length cut
  rw [each place path content splits pathHere contentHere here, Except.ok.injEq] at cuts
  rw [sized] at tiles
  rw [cuts]
  exact tiles

namespace Example

-- Zeros, in a number that doubles do not tell from the next.
def manyZeros : Content := ⟨#[], 2 ^ 60 + 1⟩

def sparseFiles : FileSystem :=
  ⟨.directory [("none", .file 0), ("long", .file 1)], [], #[.empty, manyZeros]⟩

end Example

theorem sparse_files_are_tiled :
    (["long", "none", "long"] : List Path).map Example.sparseFiles.openFile =
        [Example.manyZeros, .empty, Example.manyZeros].map (fun content => .ok (.regular content)) ∧
      ∃ first last,
        SplitPlan.plan Example.sparseFiles ⟨none, 0, 0⟩ ["long", "none", "long"] 0 =
            .ok (first ++ ⟨"none", 0, 0⟩ :: last) ∧
          SplitPlan.Follow "long" (2 ^ 60 + 1) 0 first ∧
          (∀ split ∈ first.dropLast, split.length = 1) ∧
          SplitPlan.Follow "long" (2 ^ 60 + 1) 0 last := by
  have long := FileSystem.open_file_at_home Example.sparseFiles _ "long" 1 rfl rfl rfl (by decide) rfl
    rfl (by decide) (by decide) (by decide)
  have short := FileSystem.open_file_at_home Example.sparseFiles _ "none" 0 rfl rfl rfl (by decide) rfl
    rfl (by decide) (by decide) (by decide)
  have regular : (["long", "none", "long"] : List Path).map Example.sparseFiles.openFile =
      [Example.manyZeros, .empty, Example.manyZeros].map
        fun content => .ok (.regular content) := by
    simp only [List.map_cons, List.map_nil, long, short]
    rfl
  obtain ⟨groups, planned, count, tiles⟩ :=
    splits_tile_every_file Example.sparseFiles ⟨.none, 0, 0⟩ 0 _ _ regular
  obtain ⟨first, middle, last, rfl⟩ := List.length_eq_three.mp count
  have firstTiles := tiles 0 _ _ first rfl rfl rfl
  have middleTiles := tiles 1 _ _ middle rfl rfl rfl
  have lastTiles := tiles 2 _ _ last rfl rfl rfl
  have filled : ¬ Example.manyZeros.length = 0 := by decide
  rw [SplitPlan.Tiles, if_neg filled] at firstTiles lastTiles
  have empty : Content.empty.length = 0 := rfl
  rw [SplitPlan.Tiles, if_pos empty] at middleTiles
  refine ⟨regular, first, last, ?_, firstTiles.1, firstTiles.2, lastTiles.1⟩
  rw [planned, middleTiles]
  simp

end Columnar
