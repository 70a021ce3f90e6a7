import Columnar.Proofs.ContainerFormat
import Columnar.Proofs.ProjectedScan
import Columnar.Proofs.SplitTiles
import Columnar.Proofs.SplitWorkers
import Columnar.Proofs.StripeMeaning

set_option autoImplicit false

namespace Columnar

theorem StripeRows.scan_clean_iff (file : OpenFile) (compression : Compression)
    (included : List Bool) (stripes : List StripeInfo) :
    (scan file compression included stripes).failure = none ↔
      ∀ stripe ∈ stripes, ∃ loaded, load file compression included stripe = .ok loaded := by
  induction stripes with
  | nil => simp [scan, Scan.nothing]
  | cons stripe stripes ih =>
    simp only [scan, List.forall_mem_cons]
    cases loads : load file compression included stripe with
    | error failure => simp [Scan.failed]
    | ok loaded => simp [Scan.behind, ih]

namespace Container

def ScansClean (files : FileSystem) (settings : Settings) (container : Container) : Prop :=
  ∃ reader rows,
    RecordReader.openSplit files settings ⟨container.path, 0, container.length⟩ = .ok reader ∧
      Drains (RecordReader.next files) reader ⟨rows, none⟩

def Decodes (container : Container) (content : Content) (inclusion : Inclusion) : Prop :=
  ∀ stripe ∈ container.footer.stripes, ∃ loaded,
    StripeRows.load (.regular content) container.compression (inclusion.topLevel container.types)
      stripe = .ok loaded

section

variable {files : FileSystem} {path : Path} {container : Container} {content : Content}

theorem stripes_start_inside (opens : openPath files path = .ok container)
    (accepted : Accepted files path container content) :
    container.length = content.length ∧
      ∀ stripe ∈ container.footer.stripes,
        StripeInfo.startsWithin 0 container.length stripe = true := by
  rw [open_path_regular files path content accepted.located] at opens
  obtain ⟨_, length, body, stored, assembled⟩ := (of_file_iff path content container).mp opens
  have checked := (Footer.valid_iff_checked container.footer).mp accepted.valid
  have total := congrArg List.length assembled.bytes
  simp only [content.length_toBytes, List.length_append, Postscript.length_trailer] at total
  refine ⟨length, fun stripe member => ?_⟩
  have inside := (StripeInfo.ordered_inside _ _ _ _ checked.ordered stripe member).1
  have placed := assembled.placed
  rw [StripeInfo.stop] at inside
  rw [StripeInfo.starts_within_iff]
  omega

theorem scans_clean_iff (opens : openPath files path = .ok container)
    (accepted : Accepted files path container content) (small : container.length < UInt64.size)
    (settings : Settings) (ordinals : List Nat) (parsed : settings.ordinals = .ok ordinals)
    (inclusion : Inclusion) (includes : Inclusion.ofProjection container.types
      (Projection.ofOrdinals ordinals container.types) = .ok inclusion) :
    container.ScansClean files settings ↔ container.Decodes content inclusion := by
  obtain ⟨reader, made, same⟩ := RecordReader.of_container_opens files path container content accepted
    settings ordinals parsed 0 container.length
  rw [includes, Except.ok.injEq] at same
  have opened := RecordReader.open_split_of_container files path container opens settings 0
    container.length reader made
  have located := accepted.located
  rw [← accepted.named] at located
  have scanned := RecordReader.drains_of_container files container settings 0 container.length _
    reader located made
  have all : container.footer.stripesInRange 0 container.length = container.footer.stripes := by
    rw [Footer.stripes_in_range_below _ _ _ (by omega), Nat.zero_add, List.filter_eq_self]
    exact (stripes_start_inside opens accepted).2
  rw [all, ← same] at scanned
  rw [ScansClean, Decodes, ← StripeRows.scan_clean_iff, accepted.named, opened]
  generalize StripeRows.scan (.regular content) container.compression
    (inclusion.topLevel container.types) container.footer.stripes = whole at scanned ⊢
  constructor
  · rintro ⟨other, rows, found, drains⟩
    cases found
    have told := (scanned _).mp drains
    rw [Scan.mapFailure, Scan.mk.injEq] at told
    exact Option.map_eq_none_iff.mp told.2.symm
  · intro clean
    refine ⟨reader, whole.rows, rfl, (scanned _).mpr ?_⟩
    rw [Scan.mapFailure, clean, Option.map_none]

theorem decodes_fewer (inclusion : Inclusion) (whole : container.Decodes content .all) :
    container.Decodes content inclusion := by
  intro stripe member
  obtain ⟨loaded, loads⟩ := whole stripe member
  have same : (inclusion.topLevel container.types).length =
      (Inclusion.all.topLevel container.types).length := by
    rw [Inclusion.length_top_level, Inclusion.length_top_level]
  exact ⟨_, StripeRows.load_keep stripe loaded same (Inclusion.top_level_of_all container.types) loads⟩

theorem decodes_of_some_scan (opens : openPath files path = .ok container)
    (accepted : Accepted files path container content) (small : container.length < UInt64.size)
    (settings : Settings) (ordinals : List Nat) (parsed : settings.ordinals = .ok ordinals)
    (inclusion : Inclusion) (includes : Inclusion.ofProjection container.types
      (Projection.ofOrdinals ordinals container.types) = .ok inclusion)
    (clean : container.ScansClean files settings ∨
      container.ScansClean files { settings with readColumns := none }) :
    container.Decodes content inclusion := by
  cases clean with
  | inl clean =>
    exact (scans_clean_iff opens accepted small settings ordinals parsed inclusion includes).mp clean
  | inr clean =>
    exact decodes_fewer inclusion
      ((scans_clean_iff opens accepted small _ [] rfl .all rfl).mp clean)

end

end Container

namespace Outcome

section

variable {files : FileSystem} {settings : Settings}

theorem count_splits_append (first second : List Split) (rows more : Nat)
    (counted : countSplits files settings first = .ok rows)
    (others : countSplits files settings second = .ok more) :
    countSplits files settings (first ++ second) = .ok (rows + more) := by
  induction first generalizing rows with
  | nil =>
    cases counted
    rw [List.nil_append, others, Nat.zero_add]
  | cons split first ih =>
    obtain ⟨found, left, here, rest, same⟩ := (count_splits_cons_iff _ _ _ _ _).mp counted
    rw [List.cons_append, count_splits_cons_iff]
    exact ⟨found, left + more, here, ih left rest, by omega⟩

variable {path : Path} {container : Container} {content : Content}

theorem count_split_of_container (opens : Container.openPath files path = .ok container)
    (accepted : Container.Accepted files path container content) (ordinals : List Nat)
    (parsed : settings.ordinals = .ok ordinals) (inclusion : Inclusion)
    (includes : Inclusion.ofProjection container.types
      (Projection.ofOrdinals ordinals container.types) = .ok inclusion)
    (decodes : container.Decodes content inclusion) (start length : Nat)
    (fits : start + length < UInt64.size) :
    countSplit files settings ⟨path, start, length⟩ =
      .ok (StripeInfo.totalRows
        (container.footer.stripes.filter (StripeInfo.startsWithin start (start + length)))) := by
  obtain ⟨reader, made, same⟩ := RecordReader.of_container_opens files path container content
    accepted settings ordinals parsed start length
  rw [includes, Except.ok.injEq] at same
  have located := accepted.located
  rw [← accepted.named] at located
  have told := (RecordReader.ahead_of_container files container settings start length _ reader located
    made).2
  rw [← same, Footer.stripes_in_range_below _ _ _ fits] at told
  have clean := (StripeRows.scan_clean_iff (.regular content) container.compression
    (inclusion.topLevel container.types)
    (container.footer.stripes.filter (StripeInfo.startsWithin start (start + length)))).mpr
    fun stripe member => decodes stripe (List.mem_filter.mp member).1
  rw [count_split_ahead files settings _ reader
    (RecordReader.open_split_of_container files path container opens settings start length reader made),
    told]
  simp only [Scan.countedFrom, Scan.mapFailure, clean, Option.map_none, Nat.zero_add,
    StripeRows.scan_length _ _ _ _ clean]

-- The induction is on the splits: where one ends the next begins.
theorem count_following_splits (stripes : List StripeInfo) (columns high low stop : Nat)
    (ordered : StripeInfo.Ordered columns high low stripes)
    (each : ∀ start length, start + length ≤ stop →
      countSplit files settings ⟨path, start, length⟩ =
        .ok (StripeInfo.totalRows
          (stripes.filter (StripeInfo.startsWithin start (start + length)))))
    (start : Nat) (splits : List Split) (follow : SplitPlan.Follow path stop start splits) :
    start ≤ stop ∧
      countSplits files settings splits =
        .ok (StripeInfo.totalRows (stripes.filter (StripeInfo.startsWithin start stop))) := by
  induction splits generalizing start with
  | nil =>
    rw [SplitPlan.Follow] at follow
    subst follow
    have nothing : stripes.filter (StripeInfo.startsWithin start start) = [] := by
      rw [List.filter_eq_nil_iff]
      intro stripe _
      rw [StripeInfo.starts_within_iff]
      omega
    rw [nothing]
    exact ⟨Nat.le_refl start, rfl⟩
  | cons split splits ih =>
    obtain ⟨here, begins, _, rest⟩ := follow
    obtain ⟨splitPath, splitStart, length⟩ := split
    simp only at here begins rest
    subst here begins
    obtain ⟨inside, others⟩ := ih (splitStart + length) rest
    refine ⟨by omega, ?_⟩
    rw [StripeInfo.filter_adjacent columns high low splitStart (splitStart + length) stop stripes
      ordered (by omega) inside, StripeRows.total_rows_append, count_splits_cons_iff]
    exact ⟨_, _, each splitStart length inside, others, rfl⟩

theorem count_tiled_file (opens : Container.openPath files path = .ok container)
    (small : container.length < UInt64.size) (ordinals : List Nat)
    (parsed : settings.ordinals = .ok ordinals)
    (clean : container.ScansClean files settings ∨
      container.ScansClean files { settings with readColumns := none })
    (size : Nat) (splits : List Split)
    (tiles : SplitPlan.Tiles path container.length size splits) :
    countSplits files settings splits = .ok container.rowCount := by
  obtain ⟨content, accepted⟩ := Container.open_path_accepts files path container opens
  obtain ⟨reader, _, includes⟩ := RecordReader.of_container_opens files path container content accepted
    settings ordinals parsed 0 container.length
  have decodes := Container.decodes_of_some_scan opens accepted small settings ordinals parsed
    reader.inclusion includes clean
  obtain ⟨length, inside⟩ := Container.stripes_start_inside opens accepted
  have checked := (Footer.valid_iff_checked container.footer).mp accepted.valid
  have filled : ¬ container.length = 0 := by
    have started := congrArg List.length accepted.started
    rw [List.length_take, content.length_toBytes, ← length] at started
    have wide : magic.length = 3 := rfl
    omega
  rw [SplitPlan.Tiles, if_neg filled] at tiles
  obtain ⟨_, counted⟩ := count_following_splits container.footer.stripes _ _ _ container.length
    checked.ordered (fun start length ends => count_split_of_container opens accepted ordinals parsed
      reader.inclusion includes decodes start length (by omega)) 0 splits tiles.1
  rw [counted, List.filter_eq_self.mpr inside, checked.counted]
  rfl

-- The induction is on the files: the splits of one stand before those of the others.
theorem count_tiled_files (ordinals : List Nat) (parsed : settings.ordinals = .ok ordinals)
    (size : Nat) (containers : List Container) (groups : List (List Split))
    (opened : ∀ container ∈ containers, Container.openPath files container.path = .ok container)
    (clean : ∀ container ∈ containers, container.length < UInt64.size ∧
      (container.ScansClean files settings ∨
        container.ScansClean files { settings with readColumns := none }))
    (tiled : List.Forall₂ (fun container splits =>
      SplitPlan.Tiles (Container.path container) container.length size splits) containers groups) :
    countSplits files settings groups.flatten = .ok (containers.map Container.rowCount).sum := by
  induction tiled with
  | nil => rfl
  | cons tiles _ ih =>
    rw [List.forall_mem_cons] at opened clean
    have first := count_tiled_file opened.1 clean.1.1 ordinals parsed clean.1.2 size _ tiles
    rw [List.flatten_cons, List.map_cons, List.sum_cons]
    exact count_splits_append _ _ _ _ first (ih opened.2 clean.2)

theorem count_split_unopened (files : FileSystem) (settings : Settings) (split : Split)
    (failure : Failure) (refused : Container.openPath files split.path = .error failure) :
    ∃ other, countSplit files settings split = .error other := by
  cases opens : RecordReader.openSplit files settings split with
  | error other => exact ⟨other, count_split_refused files settings split other opens⟩
  | ok reader =>
    obtain ⟨container, opened, _⟩ := RecordReader.container_of_open_split settings split reader opens
    rw [refused] at opened
    cases opened

end

end Outcome

namespace SplitPlan

theorem lengths_of_opened (files : FileSystem) (paths : List Path) (containers : List Container)
    (opened : paths.map (Container.openPath files) = containers.map .ok) :
    (∀ container ∈ containers, Container.openPath files container.path = .ok container) ∧
      lengths files paths =
        .ok (containers.map fun container => (container.path, container.length)) := by
  induction paths generalizing containers with
  | nil =>
    rw [List.map_nil, eq_comm, List.map_eq_nil_iff] at opened
    rw [opened]
    exact ⟨by simp, rfl⟩
  | cons path paths ih =>
    cases containers with
    | nil => cases opened
    | cons container containers =>
      simp only [List.map_cons, List.cons.injEq] at opened
      obtain ⟨others, rest⟩ := ih containers opened.2
      obtain ⟨content, accepted⟩ := Container.open_path_accepts files path container opened.1
      have length := (Container.stripes_start_inside opened.1 accepted).1
      refine ⟨List.forall_mem_cons.mpr ⟨?_, others⟩, ?_⟩
      · rw [accepted.named, opened.1]
      · simp only [lengths, lengthOf, accepted.located, rest, Except.map, OpenFile.length,
          List.map_cons, accepted.named, length]

theorem paths_of_lengths (files : FileSystem) (paths : List Path) (sized : List (Path × Nat))
    (known : lengths files paths = .ok sized) : sized.map Prod.fst = paths := by
  induction paths generalizing sized with
  | nil =>
    cases known
    rfl
  | cons path paths ih =>
    rw [lengths] at known
    cases here : lengthOf files path with
    | error failure =>
      simp only [here] at known
      cases known
    | ok length =>
      cases rest : lengths files paths with
      | error failure =>
        simp only [here, rest] at known
        cases known
      | ok others =>
        simp only [here, rest, Except.map, Except.ok.injEq] at known
        rw [← known, List.map_cons, ih others rest]

theorem tiles_have_path (path : Path) (length size : Nat) (splits : List Split)
    (tiles : Tiles path length size splits) : ∃ split ∈ splits, split.path = path := by
  rw [Tiles] at tiles
  by_cases empty : length = 0
  · rw [if_pos empty] at tiles
    exact ⟨⟨path, 0, 0⟩, by simp [tiles], rfl⟩
  · rw [if_neg empty] at tiles
    cases splits with
    | nil => exact absurd tiles.1.symm empty
    | cons split splits => exact ⟨split, by simp, tiles.1.1⟩

theorem plan_has_path (files : FileSystem) (settings : Settings) (paths : List Path) (wanted : Nat)
    (splits : List Split) (planned : plan files settings paths wanted = .ok splits) (path : Path)
    (listed : path ∈ paths) : ∃ split ∈ splits, split.path = path := by
  cases known : lengths files paths with
  | error failure =>
    simp only [plan, known] at planned
    cases planned
  | ok sized =>
    obtain ⟨groups, same, tiled⟩ := plan_tiles files settings paths wanted sized known
    rw [planned, Except.ok.injEq] at same
    rw [← paths_of_lengths files paths sized known] at listed
    obtain ⟨file, member, here⟩ := List.mem_map.mp listed
    obtain ⟨place, found⟩ := List.getElem_of_mem member
    obtain ⟨inside, found⟩ := found
    have tiles := tiled.get inside (tiled.length_eq ▸ inside)
    simp only [List.get_eq_getElem, found] at tiles
    obtain ⟨split, within, named⟩ := tiles_have_path _ _ _ _ tiles
    refine ⟨split, ?_, named.trans here⟩
    rw [same]
    exact List.mem_flatten.mpr ⟨_, List.getElem_mem _, within⟩

end SplitPlan

theorem Outcome.count_plan_unopened (files : FileSystem) (settings : Settings) (paths : List Path)
    (wanted : Nat) (splits : List Split)
    (planned : SplitPlan.plan files settings paths wanted = .ok splits) (path : Path)
    (listed : path ∈ paths) (failure : Failure)
    (refused : Container.openPath files path = .error failure) :
    ∃ first, countSplits files settings splits = .error first := by
  obtain ⟨split, inside, named⟩ :=
    SplitPlan.plan_has_path files settings paths wanted splits planned path listed
  rw [← named] at refused
  obtain ⟨other, fails⟩ := count_split_unopened files settings split failure refused
  exact count_splits_fails files settings splits split inside other fails

-- What is counted does not depend on the sizes of the splits, nor on the columns, nor on the order
-- in which the splits are counted.
theorem count_ignores_the_cut (files : FileSystem) (roots paths : List Path)
    (listed : Listing.list files roots = .ok paths) (settings : Settings) (wanted : Nat) :
    (∀ (ordinals : List Nat) (containers : List Container),
      settings.ordinals = .ok ordinals →
      paths.map (Container.openPath files) = containers.map .ok →
      (∀ container ∈ containers, container.length < UInt64.size ∧
        (container.ScansClean files settings ∨
          container.ScansClean files { settings with readColumns := none })) →
      ∃ splits, SplitPlan.plan files settings paths wanted = .ok splits ∧
        Outcome.count files settings roots wanted =
          ⟨.done,
            [Text.natText (containers.map Container.rowCount).sum ++ " rows in " ++
              Text.natText paths.length ++ " file(s), " ++ Text.natText splits.length ++ " split(s)"],
            [], files⟩ ∧
        Worker.Settle files settings splits (some (containers.map Container.rowCount).sum)) ∧
    (∀ path ∈ paths, (Container.openPath files path).isOk = false →
      (∃ failure, Outcome.count files settings roots wanted = Outcome.failed files failure) ∧
      ∀ splits, SplitPlan.plan files settings paths wanted = .ok splits →
        Worker.Settle files settings splits none) := by
  refine ⟨?_, ?_⟩
  · intro ordinals containers parsed opened clean
    obtain ⟨each, known⟩ := SplitPlan.lengths_of_opened files paths containers opened
    obtain ⟨groups, planned, tiled⟩ := SplitPlan.plan_tiles files settings paths wanted _ known
    rw [List.forall₂_map_left_iff] at tiled
    have counted := Outcome.count_tiled_files ordinals parsed _ containers groups each clean tiled
    have settle := Worker.settle_as_in_order files settings groups.flatten
    rw [counted] at settle
    refine ⟨groups.flatten, planned, ?_, settle⟩
    simp only [Outcome.count, Outcome.planned, listed, planned, Except.map, counted]
  · intro path member refused
    have fails (splits : List Split)
        (planned : SplitPlan.plan files settings paths wanted = .ok splits) :
        ∃ failure, Outcome.countSplits files settings splits = .error failure := by
      cases opened : Container.openPath files path with
      | ok container =>
        rw [opened] at refused
        cases refused
      | error cause =>
        exact Outcome.count_plan_unopened files settings paths wanted splits planned path member cause
          opened
    refine ⟨?_, ?_⟩
    · cases planned : SplitPlan.plan files settings paths wanted with
      | error failure =>
        exact ⟨failure, by simp only [Outcome.count, Outcome.planned, listed, planned, Except.map]⟩
      | ok splits =>
        obtain ⟨failure, failed⟩ := fails splits planned
        exact ⟨failure, by
          simp only [Outcome.count, Outcome.planned, listed, planned, Except.map, failed]⟩
    · intro splits planned
      obtain ⟨failure, failed⟩ := fails splits planned
      have settle := Worker.settle_as_in_order files settings splits
      rw [failed] at settle
      exact settle

namespace Example

theorem file_listed_twice (content : Content) :
    Listing.list (.single "t" content) ["t", "t"] = .ok ["t", "t"] := by
  have node := FileSystem.node_at_home (.single "t" content) _ "t" 0 .itself rfl rfl rfl (by decide)
    rfl rfl (by decide) (by decide) (by decide)
  have sorted : (["t", "t"] : List Path).mergeSort Path.upTo = (["t", "t"] : List Path) :=
    List.mergeSort_of_pairwise (by decide)
  have found : Listing.filesOfRoot (.single "t" content) "t" = .ok ["t"] := by
    rw [Listing.filesOfRoot, node]
    rfl
  simp only [Listing.list, Listing.filesOfRoots, found, Except.map, List.append_nil, List.cons_append,
    List.nil_append, sorted]

theorem empty_file_refused : (Container.openPath (.single "t" .empty) "t").isOk = false := by
  have located : (FileSystem.single "t" .empty).openFile "t" = .ok (.regular .empty) :=
    FileSystem.open_file_at_home (.single "t" .empty) _ "t" 0 rfl rfl rfl (by decide) rfl rfl
      (by decide) (by decide) (by decide)
  rw [Container.open_path_regular _ "t" _ located]
  rfl

theorem gapped_stripes_decode :
    (container gappedBody).Decodes (bodyContent gappedBody) .all := by
  have within := stripes_within gappedBody rfl
  obtain ⟨_, _, _, first, _, _, _, second, _⟩ := gapped_stripes_mean
  intro stripe member
  have inside := within stripe member
  simp only [container, gappedFooter, List.mem_cons, List.not_mem_nil, or_false] at member
  rcases member with here | here
  · rw [here] at inside ⊢
    obtain ⟨loaded, loads, _⟩ := StripeRows.load_means inside rfl first
    exact ⟨loaded, loads⟩
  · rw [here] at inside ⊢
    obtain ⟨loaded, loads, _⟩ := StripeRows.load_means inside rfl second
    exact ⟨loaded, loads⟩

end Example

-- With splits of a byte each and the second column alone; and a file that is empty.
theorem files_are_counted_twice :
    Listing.list (Example.bodyFiles Example.gappedBody) ["t", "t"] = .ok ["t", "t"] ∧
      (∃ splits,
        Outcome.count (Example.bodyFiles Example.gappedBody) ⟨some "1", 0, 1⟩ ["t", "t"] 0 =
          ⟨.done, ["2 rows in 2 file(s), " ++ Text.natText splits.length ++ " split(s)"],
            [], Example.bodyFiles Example.gappedBody⟩ ∧
        Worker.Settle (Example.bodyFiles Example.gappedBody) ⟨some "1", 0, 1⟩ splits (some 2)) ∧
      Listing.list (.single "t" .empty) ["t", "t"] = .ok ["t", "t"] ∧
      ∃ failure, Outcome.count (.single "t" .empty) ⟨some "1", 0, 1⟩ ["t", "t"] 0 =
        Outcome.failed (.single "t" .empty) failure := by
  have opens := Example.body_opens Example.gappedBody rfl
  obtain ⟨content, accepted⟩ := Container.open_path_accepts _ "t" _ opens
  have located := accepted.located
  rw [Example.body_located, Except.ok.injEq, OpenFile.regular.injEq] at located
  subst located
  have small : (Example.container Example.gappedBody).length < UInt64.size := by decide +kernel
  have clean : (Example.container Example.gappedBody).ScansClean
      (Example.bodyFiles Example.gappedBody) ⟨none, 0, 1⟩ :=
    (Container.scans_clean_iff opens accepted small _ [] rfl .all rfl).mpr
      Example.gapped_stripes_decode
  have listed : Listing.list (Example.bodyFiles Example.gappedBody) ["t", "t"] = .ok ["t", "t"] :=
    Example.file_listed_twice (Example.bodyContent Example.gappedBody)
  obtain ⟨counts, _⟩ := count_ignores_the_cut _ _ _ listed ⟨some "1", 0, 1⟩ 0
  obtain ⟨splits, _, counted, settle⟩ := counts [1]
    [Example.container Example.gappedBody, Example.container Example.gappedBody] rfl
    (by simp only [List.map_cons, List.map_nil, opens])
    (by simpa only [List.forall_mem_cons, List.not_mem_nil, false_imp_iff, implies_true, and_true,
      and_self] using ⟨small, .inr clean⟩)
  have rows : (List.map Container.rowCount
      [Example.container Example.gappedBody, Example.container Example.gappedBody]).sum = 2 := rfl
  have words : Text.natText 2 ++ " rows in " ++ Text.natText (["t", "t"] : List Path).length ++ " file(s), " =
      "2 rows in 2 file(s), " := by decide +kernel
  rw [rows, words] at counted
  have empty := Example.file_listed_twice .empty
  obtain ⟨_, fails⟩ := count_ignores_the_cut _ _ _ empty ⟨some "1", 0, 1⟩ 0
  exact ⟨listed, ⟨splits, counted, settle⟩, empty, (fails "t" (by simp) Example.empty_file_refused).1⟩

end Columnar
