import Columnar.Proofs.DirectoryWalk
import Columnar.Proofs.FileSystem.PathOrder
import Columnar.Proofs.SplitTiles

set_option autoImplicit false

namespace Columnar

namespace Listing

-- Whether a listing gets through a root: it is there, and each directory that shows in it has a path
-- that can be read.
def Readable (files : FileSystem) (root : Path) : Prop :=
  ∃ node, files.node root .target = .ok node ∧
    ∀ place, node.ShowsDirectory place → (Path.below root place).length < Path.lengthLimit

def Spelled (files : FileSystem) (root : Path) : Prop :=
  ∀ node, files.node root .target = .ok node → node.Spelled

structure Covers (files : FileSystem) (root : Path) (node : FileNode) (places : List (List Path)) :
    Prop where
  there : files.node root .target = .ok node
  apart : places.Nodup
  exact : ∀ place, place ∈ places ↔ node.ShowsFile place
  distinct : (places.map (Path.below root)).Nodup
  opens : ∀ place id, node.Shows place (.file id) →
    (Path.below root place).length < Path.lengthLimit →
      files.openPath (Path.below root place) = .ok (.file id)

def Gives (files : FileSystem) (root : Path) (found : List Path) : Prop :=
  ∃ node places, Covers files root node places ∧ found = places.map (Path.below root)

section

variable {files : FileSystem}

theorem gives_regular {root : Path} {found : List Path} (gives : Gives files root found)
    (path : Path) (member : path ∈ found) (short : path.length < Path.lengthLimit) :
    ∃ content, files.openFile path = .ok (.regular content) := by
  obtain ⟨node, places, covers, rfl⟩ := gives
  obtain ⟨place, inside, rfl⟩ := List.mem_map.mp member
  obtain ⟨id, shows⟩ := (covers.exact place).mp inside
  exact ⟨files.contents.getD id .empty, by
    rw [FileSystem.openFile, covers.opens place id shows short]
    rfl⟩

theorem groups_regular {roots : List Path} {groups : List (List Path)}
    (gives : List.Forall₂ (Gives files) roots groups) (path : Path) (member : path ∈ groups.flatten)
    (short : path.length < Path.lengthLimit) :
    ∃ content, files.openFile path = .ok (.regular content) := by
  induction gives with
  | nil => cases member
  | cons first _ ih =>
    rw [List.flatten_cons, List.mem_append] at member
    exact member.elim (fun here => gives_regular first path here short) ih

variable (plain : files.root.Plain)
include plain

theorem files_of_root (root : Path) (spelled : Spelled files root) (node : FileNode)
    (there : files.node root .target = .ok node) :
    ∃ result, filesOfRoot files root = result.mapError .io ∧ Gathers root node result := by
  obtain ⟨place, located⟩ := (FileSystem.node_iff _ _ _).mp there
  have sound := FileSystem.located_plain plain located
  refine ⟨filesAt root node, ?_, gathers_files_at node sound (spelled node there) root⟩
  rw [filesOfRoot, FileSystem.node_itself_target plain root, there]
  cases sound <;> rfl

theorem covers_of_gathers (root : Path) (node : FileNode)
    (there : files.node root .target = .ok node) (places : List (List Path)) (apart : places.Nodup)
    (exact : ∀ place, place ∈ places ↔ node.ShowsFile place) : Covers files root node places where
  there := there
  apart := apart
  exact := exact
  distinct := by
    obtain ⟨above, located⟩ := (FileSystem.node_iff _ _ _).mp there
    have sound := FileSystem.located_plain plain located
    have filled := ((FileSystem.path_fault_none_iff root).mp
      ((FileSystem.locate_iff _ _ _).mp located).1).2.1
    have proper (place : List Path) (member : place ∈ places) : ∀ name ∈ place, Path.IsName name := by
      obtain ⟨id, shows⟩ := (exact place).mp member
      exact (FileNode.plain_below node sound place _ shows.1).2
    exact apart.map_on fun first here second also =>
      Path.below_injective root filled first second (proper first here) (proper second also)
  opens := by
    intro place id shows short
    obtain ⟨above, located⟩ := (FileSystem.node_iff _ _ _).mp there
    have found := FileSystem.locate_below plain root above place node _ located shows.1 short
    rw [FileSystem.openPath, (FileSystem.node_iff _ _ _).mpr ⟨_, found⟩]

theorem readable_gives (root : Path) (spelled : Spelled files root) (reads : Readable files root) :
    ∃ found, filesOfRoot files root = .ok found ∧ Gives files root found := by
  obtain ⟨node, there, short⟩ := reads
  obtain ⟨result, same, gathers⟩ := files_of_root plain root spelled node there
  cases gathers with
  | found places apart exact _ =>
    exact ⟨_, same, node, places, covers_of_gathers plain root node there places apart exact, rfl⟩
  | long place shows long => exact absurd long (Nat.not_le_of_lt (short place shows))

theorem unreadable_fails (root : Path) (spelled : Spelled files root)
    (unread : ¬ Readable files root) :
    ∃ failure, filesOfRoot files root = .error failure := by
  cases there : files.node root .target with
  | error fault =>
    refine ⟨.io (.walking root fault), ?_⟩
    rw [filesOfRoot, FileSystem.node_itself_target plain root, there]
  | ok node =>
    obtain ⟨result, same, gathers⟩ := files_of_root plain root spelled node there
    cases gathers with
    | found places _ _ short => exact absurd ⟨node, there, short⟩ unread
    | long place _ _ => exact ⟨_, same⟩

theorem roots_give (roots : List Path) (spelled : ∀ root ∈ roots, Spelled files root)
    (reads : ∀ root ∈ roots, Readable files root) :
    ∃ groups, filesOfRoots files roots = .ok groups.flatten ∧
      List.Forall₂ (Gives files) roots groups := by
  induction roots with
  | nil => exact ⟨[], rfl, .nil⟩
  | cons root roots ih =>
    rw [List.forall_mem_cons] at spelled reads
    obtain ⟨found, first, gives⟩ := readable_gives plain root spelled.1 reads.1
    obtain ⟨groups, others, all⟩ := ih spelled.2 reads.2
    refine ⟨found :: groups, ?_, .cons gives all⟩
    simp only [filesOfRoots, first, others, Except.map, List.flatten_cons]

theorem roots_fail (roots : List Path) (root : Path) (member : root ∈ roots)
    (spelled : Spelled files root) (unread : ¬ Readable files root) :
    ∃ failure, filesOfRoots files roots = .error failure := by
  induction roots with
  | nil => cases member
  | cons first roots ih =>
    rw [filesOfRoots]
    cases here : filesOfRoot files first with
    | error failure => exact ⟨failure, rfl⟩
    | ok found =>
      cases member with
      | head =>
        obtain ⟨failure, fails⟩ := unreadable_fails plain root spelled unread
        rw [fails] at here
        cases here
      | tail _ later =>
        obtain ⟨failure, fails⟩ := ih later
        exact ⟨failure, by rw [fails]; rfl⟩

end

end Listing

namespace SplitPlan

theorem lengths_of_files (files : FileSystem) (paths : List Path)
    (regular : ∀ path ∈ paths, ∃ content, files.openFile path = .ok (.regular content)) :
    lengths files paths = .ok (paths.map fun path => (path, (files.length path).toOption.getD 0)) := by
  induction paths with
  | nil => rfl
  | cons path paths ih =>
    obtain ⟨⟨content, here⟩, others⟩ := List.forall_mem_cons.mp regular
    simp only [lengths, lengthOf, here, ih others, FileSystem.length, Except.map, Except.toOption,
      Option.getD_some, List.map_cons]

theorem plan_covers (files : FileSystem) (settings : Settings) (paths : List Path) (wanted : Nat)
    (regular : ∀ path ∈ paths, ∃ content, files.openFile path = .ok (.regular content)) :
    ∃ size cuts, 0 < size ∧ plan files settings paths wanted = .ok cuts.flatten ∧
      List.Forall₂
        (fun path splits => ∃ content, files.openFile path = .ok (.regular content) ∧
          Tiles path content.length size splits) paths cuts := by
  obtain ⟨cuts, planned, tiled⟩ :=
    plan_tiles files settings paths wanted _ (lengths_of_files files paths regular)
  rw [List.forall₂_map_left_iff] at tiled
  generalize sizeFor settings _ = size at tiled
  refine ⟨size.bytes, cuts, size.positive, planned, ?_⟩
  have each := (List.forall₂_and_left _ _).mpr ⟨regular, tiled⟩
  refine each.imp ?_
  rintro path splits ⟨⟨content, here⟩, tiles⟩
  refine ⟨content, here, ?_⟩
  simpa only [FileSystem.length, here, Except.map, Except.toOption, Option.getD_some,
    OpenFile.length] using tiles

end SplitPlan

-- Files whose own paths are too long are listed, but cannot be planned over.
theorem visible_files_are_listed (files : FileSystem) (plain : files.root.Plain)
    (roots : List Path) (spelled : ∀ root ∈ roots, Listing.Spelled files root) :
    ((∃ root ∈ roots, ¬ Listing.Readable files root) →
      ∃ failure, Listing.list files roots = .error failure) ∧
    ((∀ root ∈ roots, Listing.Readable files root) →
      ∃ listed groups, Listing.list files roots = .ok listed ∧
        (listed.Pairwise fun a b => Path.upTo a b = true) ∧
        listed.Perm groups.flatten ∧ List.Forall₂ (Listing.Gives files) roots groups ∧
        ((∀ path ∈ listed, path.length < Path.lengthLimit) →
          ∀ settings wanted, ∃ size cuts, 0 < size ∧
            SplitPlan.plan files settings listed wanted = .ok cuts.flatten ∧
            List.Forall₂
              (fun path splits => ∃ content, files.openFile path = .ok (.regular content) ∧
                SplitPlan.Tiles path content.length size splits) listed cuts)) := by
  refine ⟨?_, ?_⟩
  · rintro ⟨root, member, unread⟩
    obtain ⟨failure, fails⟩ := Listing.roots_fail plain roots root member (spelled root member) unread
    exact ⟨failure, by rw [Listing.list, fails]; rfl⟩
  · intro reads
    obtain ⟨groups, found, gives⟩ := Listing.roots_give plain roots spelled reads
    have same := List.mergeSort_perm groups.flatten Path.upTo
    refine ⟨_, groups, by rw [Listing.list, found]; rfl, Path.merge_sort_sorted groups.flatten, same,
      gives, fun short settings wanted => ?_⟩
    exact SplitPlan.plan_covers files settings _ wanted fun path member =>
      Listing.groups_regular gives path (same.mem_iff.mp member) (short path member)

namespace Example

def visibleTree : List (Path × FileNode) :=
  [("f", .file 0), (".h", .file 0), ("_t", .directory [("x", .file 0)]),
    ("s", .directory [("g", .file 0)])]

def visibleFiles : FileSystem := ⟨.directory [("d", .directory visibleTree)], [], #[.empty]⟩

theorem visible_files_plain : visibleFiles.root.Plain := by
  have leaf (name : Path) (proper : Path.IsName name) : (FileNode.directory [(name, .file 0)]).Plain :=
    .directory _ (List.nodup_singleton name) (by simpa using proper) (by simpa using .file 0)
  refine .directory _ (by decide) (by decide) ?_
  simp only [List.forall_mem_cons, List.not_mem_nil, false_imp_iff, implies_true, and_true]
  refine .directory _ (by decide) (by decide) ?_
  simp only [visibleTree, List.forall_mem_cons, List.not_mem_nil, false_imp_iff, implies_true, and_true]
  exact ⟨.file 0, .file 0, leaf "x" (by decide), leaf "g" (by decide)⟩

theorem leaf_spelled : (FileNode.directory [("g", .file 0)]).Spelled :=
  .directory _ (by simpa using Path.spelled_of_text "g") (by simpa using fun _ => .file 0)

theorem visible_tree_spelled : (FileNode.directory visibleTree).Spelled := by
  refine .directory _ ?_ ?_
  · simp only [visibleTree, List.forall_mem_cons, List.not_mem_nil, false_imp_iff, implies_true, and_true]
    exact ⟨Path.spelled_of_text _, Path.spelled_of_text _, Path.spelled_of_text _,
      Path.spelled_of_text _⟩
  · simp only [visibleTree, List.forall_mem_cons, List.not_mem_nil, false_imp_iff, implies_true, and_true]
    exact ⟨fun _ => .file 0, fun _ => .file 0, fun visible => absurd visible (by decide),
      fun _ => leaf_spelled⟩

theorem visible_roots_located :
    visibleFiles.locate "d" .target = .ok (.found [("d" : Path)] (.directory visibleTree)) ∧
      visibleFiles.locate "d/s" .target =
        .ok (.found [("d" : Path), ("s" : Path)] (.directory [("g", .file 0)])) := by
  have above : visibleFiles.locate "d" .target = .ok (.found [("d" : Path)] (.directory visibleTree)) :=
    FileSystem.locate_slashed _ visibleTree "d" 0 rfl rfl (by decide) rfl (by decide)
  exact ⟨above, FileSystem.locate_below visible_files_plain "d" ["d"] ["s"] _ _ above rfl (by decide)⟩

theorem nothing_at_x : visibleFiles.node "x" .target = .error .notFound := by
  have walked : visibleFiles.walk .target FileSystem.linkLimit [] visibleFiles.root [("x" : Path)] =
      .ok (.absent [] "x") := by
    rw [visibleFiles, FileSystem.walk_down (by decide) (by decide) (by simp) (by decide)]
    rfl
  have fault : FileSystem.pathFault? "x" = none := by decide
  have names : Path.names "x" = [("x" : Path)] := by decide
  have starts : visibleFiles.startOf "x" = [] := rfl
  simp only [FileSystem.node, FileSystem.locate, fault, starts, names, FileSystem.walkFrom,
    FileNode.below?, List.reverse_nil, walked]

theorem visible_roots_spelled :
    ∀ root ∈ (["d", "d/s", "x"] : List Path), Listing.Spelled visibleFiles root := by
  obtain ⟨above, below⟩ := visible_roots_located
  have here (root : Path) (place : List Path) (node : FileNode) (spelled : node.Spelled)
      (located : visibleFiles.locate root .target = .ok (.found place node)) :
      Listing.Spelled visibleFiles root := by
    intro other there
    rw [(FileSystem.node_iff _ _ _).mpr ⟨_, located⟩, Except.ok.injEq] at there
    rw [← there]
    exact spelled
  have nowhere : Listing.Spelled visibleFiles "x" := by
    intro node there
    rw [nothing_at_x] at there
    cases there
  simpa using ⟨here _ _ _ visible_tree_spelled above, here _ _ _ leaf_spelled below, nowhere⟩

theorem visible_roots_listed :
    Listing.filesOfRoot visibleFiles "d" = .ok ["d/f", "d/s/g"] ∧
      Listing.filesOfRoot visibleFiles "d/s" = .ok ["d/s/g"] := by
  obtain ⟨above, below⟩ := visible_roots_located
  refine ⟨?_, ?_⟩
  · rw [Listing.filesOfRoot, FileSystem.node_itself_target visible_files_plain,
      (FileSystem.node_iff _ _ _).mpr ⟨_, above⟩]
    rfl
  · rw [Listing.filesOfRoot, FileSystem.node_itself_target visible_files_plain,
      (FileSystem.node_iff _ _ _).mpr ⟨_, below⟩]
    rfl

end Example

theorem nested_roots_are_both_listed :
    Example.visibleFiles.root.Plain ∧
      (∀ root ∈ (["d", "d/s", "x"] : List Path), Listing.Spelled Example.visibleFiles root) ∧
      (∀ root ∈ (["d", "d/s"] : List Path), Listing.Readable Example.visibleFiles root) ∧
      ¬ Listing.Readable Example.visibleFiles "x" ∧
      Listing.list Example.visibleFiles ["d", "d/s"] = .ok ["d/f", "d/s/g", "d/s/g"] ∧
      (∃ size cuts, 0 < size ∧
        SplitPlan.plan Example.visibleFiles ⟨none, 0, 1⟩ ["d/f", "d/s/g", "d/s/g"] 1 =
            .ok cuts.flatten ∧
          List.Forall₂
            (fun path splits => ∃ content,
              Example.visibleFiles.openFile path = .ok (.regular content) ∧
                SplitPlan.Tiles path content.length size splits)
            ["d/f", "d/s/g", "d/s/g"] cuts) ∧
      ∃ failure, Listing.list Example.visibleFiles ["d", "x"] = .error failure := by
  have plain := Example.visible_files_plain
  have spelled := Example.visible_roots_spelled
  have both : ∀ root ∈ (["d", "d/s"] : List Path), Listing.Spelled Example.visibleFiles root :=
    fun root member => spelled root (by simp at member ⊢; tauto)
  have astray : ∀ root ∈ (["d", "x"] : List Path), Listing.Spelled Example.visibleFiles root :=
    fun root member => spelled root (by simp at member ⊢; tauto)
  obtain ⟨above, below⟩ := Example.visible_roots_listed
  have readable (root : Path) (spelled : Listing.Spelled Example.visibleFiles root) (found : List Path)
      (here : Listing.filesOfRoot Example.visibleFiles root = .ok found) :
      Listing.Readable Example.visibleFiles root := by
    by_contra unread
    obtain ⟨failure, fails⟩ := Listing.unreadable_fails plain root spelled unread
    rw [here] at fails
    cases fails
  have reads : ∀ root ∈ (["d", "d/s"] : List Path), Listing.Readable Example.visibleFiles root := by
    simpa using ⟨readable "d" (spelled "d" (by simp)) _ above,
      readable "d/s" (spelled "d/s" (by simp)) _ below⟩
  have unread : ¬ Listing.Readable Example.visibleFiles "x" := by
    rintro ⟨node, there, _⟩
    rw [Example.nothing_at_x] at there
    cases there
  have sorted : (["d/f", "d/s/g", "d/s/g"] : List Path).mergeSort Path.upTo =
      (["d/f", "d/s/g", "d/s/g"] : List Path) :=
    List.mergeSort_of_pairwise (by decide)
  have listed : Listing.list Example.visibleFiles ["d", "d/s"] = .ok ["d/f", "d/s/g", "d/s/g"] := by
    rw [Listing.list, Listing.filesOfRoots, Listing.filesOfRoots, above, below]
    exact congrArg Except.ok sorted
  refine ⟨plain, spelled, reads, unread, listed, ?_, ?_⟩
  · obtain ⟨found, groups, same, _, _, _, plans⟩ :=
      (visible_files_are_listed Example.visibleFiles plain ["d", "d/s"] both).2 reads
    rw [listed, Except.ok.injEq] at same
    subst same
    exact plans (by decide) ⟨none, 0, 1⟩ 1
  · exact (visible_files_are_listed Example.visibleFiles plain ["d", "x"] astray).1
      ⟨"x", by simp, unread⟩

namespace Example

def slashedTree : List (Path × FileNode) :=
  [("d", .directory [("f", .file 0)]), ("e", .directory [("s", .directory [])])]

def slashedFiles : FileSystem := ⟨.directory slashedTree, [], #[.empty]⟩

-- The longest path of a name of a single byte that can still be opened.
def slashed (name : Path) : Path := Path.slashed name 4094

theorem slashed_files_plain : slashedFiles.root.Plain := by
  refine .directory _ (by decide) (by decide) ?_
  simp only [slashedTree, List.forall_mem_cons, List.not_mem_nil, false_imp_iff, implies_true, and_true]
  refine ⟨.directory _ (by decide) (by decide) ?_, .directory _ (by decide) (by decide) ?_⟩
  · simpa using .file 0
  · simpa using .directory [] (by decide) (by decide) (by simp)

theorem size_of_slashed (name : Path) (single : name.length = 1) :
    (slashed name).length = 4095 := by
  rw [slashed, Path.size_slashed, single]

theorem join_of_slashed (name other : Path) : Path.join (slashed name) other = slashed name ++ other :=
  Path.join_slashed _ other (Path.last_slashed name 4093)

theorem long_below_slashed (name other : Path) (single : name.length = 1)
    (also : other.length = 1) :
    (slashed name ++ other).length = Path.lengthLimit := by
  rw [Path.length_append, size_of_slashed name single, also]
  rfl

theorem slashed_located (name : Path) (children : List (Path × FileNode))
    (single : name.length = 1) (proper : Path.IsName name)
    (stands : slashedTree.lookup name = some (.directory children)) :
    slashedFiles.node (slashed name) .target = .ok (.directory children) := by
  have short : (slashed name).length < Path.lengthLimit := by
    rw [size_of_slashed name single]
    decide
  exact (FileSystem.node_iff _ _ _).mpr
    ⟨_, FileSystem.locate_slashed slashedTree children name 4094 rfl rfl proper stands short⟩

theorem slashed_listed (name : Path) (children : List (Path × FileNode))
    (single : name.length = 1) (proper : Path.IsName name)
    (stands : slashedTree.lookup name = some (.directory children)) :
    Listing.filesOfRoot slashedFiles (slashed name) =
      (Listing.filesIn (slashed name) children).mapError .io := by
  have short : ¬ Path.lengthLimit ≤ (slashed name).length := by
    rw [size_of_slashed name single]
    decide
  rw [Listing.filesOfRoot, FileSystem.node_itself_target slashed_files_plain,
    slashed_located name children single proper stands]
  simp only [Listing.filesAt, if_neg short]

theorem file_listed (files : FileSystem) (root name : Path)
    (visible : Listing.isHidden name = false)
    (walked : Listing.filesOfRoot files root =
      (Listing.filesIn root [(name, .file 0)]).mapError .io) :
    Listing.list files [root] = .ok [Path.join root name] := by
  have found : Listing.filesIn root [(name, .file 0)] = .ok [Path.join root name] := by
    simp only [Listing.filesIn, visible, Bool.false_eq_true, if_false, Listing.filesAt, Except.map,
      List.append_nil]
  rw [found] at walked
  simp only [Listing.list, Listing.filesOfRoots, walked, Except.mapError, Except.map,
    List.append_nil, List.mergeSort_singleton]

theorem directory_unread (files : FileSystem) (root : Path)
    (walked : Listing.filesOfRoot files root =
      (Listing.filesIn root [("s", .directory [])]).mapError .io)
    (long : Path.lengthLimit ≤ (Path.join root "s").length) :
    Listing.list files [root] = .error (.io (.walking (Path.join root "s") .nameTooLong)) := by
  have visible : Listing.isHidden "s" = false :=
    (Listing.hidden_iff "s" (Path.spelled_of_text "s")).mpr (by decide)
  have fails : Listing.filesIn root [("s", .directory [])] =
      .error (.walking (Path.join root "s") .nameTooLong) := by
    simp only [Listing.filesIn, visible, Bool.false_eq_true, if_false, Listing.filesAt, long, if_true]
  rw [fails] at walked
  rw [Listing.list, Listing.filesOfRoots, walked]
  rfl

theorem long_path_unplanned (files : FileSystem) (settings : Settings) (path : Path) (wanted : Nat)
    (fault : FileSystem.pathFault? path = some .nameTooLong) :
    SplitPlan.plan files settings [path] wanted = .error (.io .nameTooLong) := by
  simp only [SplitPlan.plan, SplitPlan.lengths, SplitPlan.lengthOf, FileSystem.openFile,
    FileSystem.openPath, FileSystem.node, FileSystem.locate, fault, Except.map]

theorem long_path_fault (path : Path) (whole : 0 ∉ path.bytes)
    (long : path.length = Path.lengthLimit) :
    FileSystem.pathFault? path = some .nameTooLong := by
  have filled : path ≠ "" := by
    intro empty
    rw [empty] at long
    exact absurd long (by decide)
  rw [FileSystem.pathFault?, if_neg (by simpa using whole), if_neg filled, if_pos (Nat.le_of_eq long.symm)]

-- A dot and a byte that stands in no text.
def dotted : Path := ⟨[0x2E, 0xFF]⟩

def dottedTree : List (Path × FileNode) := [("b", .directory [(dotted, .file 0)])]

def dottedFiles : FileSystem := ⟨.directory dottedTree, [], #[.empty]⟩

theorem dotted_files_plain : dottedFiles.root.Plain := by
  refine .directory _ (by decide) (by decide) ?_
  simp only [dottedTree, List.forall_mem_cons, List.not_mem_nil, false_imp_iff, implies_true, and_true]
  refine .directory _ (by decide) (by decide) ?_
  simpa using .file 0

theorem dotted_located :
    dottedFiles.node "b" .target = .ok (.directory [(dotted, .file 0)]) :=
  (FileSystem.node_iff _ _ _).mpr
    ⟨_, FileSystem.locate_slashed dottedTree _ "b" 0 rfl rfl (by decide) rfl (by decide)⟩

theorem dotted_listed : Listing.list dottedFiles ["b"] = .ok [Path.join "b" dotted] := by
  have walked : Listing.filesOfRoot dottedFiles "b" =
      (Listing.filesIn "b" [(dotted, .file 0)]).mapError .io := by
    rw [Listing.filesOfRoot, FileSystem.node_itself_target dotted_files_plain, dotted_located]
    rfl
  exact file_listed dottedFiles "b" dotted (by decide) walked

end Example

-- Two directories with long paths for themselves: the file in the one is listed, but has no length
-- that can be asked for; the directory in the other cannot be read. In a third a file is listed
-- whose name starts with a dot.
theorem long_paths_fail_and_dotted_bytes_are_listed :
    Example.slashedFiles.root.Plain ∧
      (∃ node, Example.slashedFiles.node (Example.slashed "d") .target = .ok node) ∧
      (∃ node, Example.slashedFiles.node (Example.slashed "e") .target = .ok node) ∧
      Listing.list Example.slashedFiles [Example.slashed "d"] = .ok [Example.slashed "d" ++ "f"] ∧
      SplitPlan.plan Example.slashedFiles ⟨none, 0, 1⟩ [Example.slashed "d" ++ "f"] 1 =
        .error (.io .nameTooLong) ∧
      Listing.list Example.slashedFiles [Example.slashed "e"] =
        .error (.io (.walking (Example.slashed "e" ++ "s") .nameTooLong)) ∧
      Example.dottedFiles.root.Plain ∧
      Listing.list Example.dottedFiles ["b"] = .ok [Path.join "b" ⟨[0x2E, 0xFF]⟩] := by
  have first := Example.slashed_located "d" [("f", .file 0)] rfl (by decide) rfl
  have second := Example.slashed_located "e" [("s", .directory [])] rfl (by decide) rfl
  have whole : 0 ∉ (Example.slashed "d" ++ "f").bytes := by
    rw [Path.bytes_append, Example.slashed, Path.slashed, List.mem_append, List.mem_append,
      List.mem_replicate]
    rintro ((inside | ⟨_, slash⟩) | inside)
    · exact absurd inside (by decide)
    · exact absurd slash (by decide)
    · exact absurd inside (by decide)
  refine ⟨Example.slashed_files_plain, ⟨_, first⟩, ⟨_, second⟩, ?_, ?_, ?_,
    Example.dotted_files_plain, Example.dotted_listed⟩
  · rw [← Example.join_of_slashed]
    exact Example.file_listed _ _ "f" (by decide) (Example.slashed_listed "d" _ rfl (by decide) rfl)
  · exact Example.long_path_unplanned _ _ _ 1
      (Example.long_path_fault _ whole (Example.long_below_slashed "d" "f" rfl rfl))
  · have long := Example.long_below_slashed "e" "s" rfl rfl
    rw [← Example.join_of_slashed] at long ⊢
    exact Example.directory_unread _ _ (Example.slashed_listed "e" _ rfl (by decide) rfl)
      (Nat.le_of_eq long.symm)

end Columnar
