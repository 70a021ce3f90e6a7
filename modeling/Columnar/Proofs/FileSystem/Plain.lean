import Columnar.Proofs.ConfiguredOrdinals
import Columnar.Proofs.FileSystem.Created

set_option autoImplicit false

namespace Columnar

namespace Path

-- Whether bytes can name an entry: they lead no other way than down, and by one name.
structure IsName (name : Path) : Prop where
  moves : ¬ staysHere name = true
  down : name ≠ ".."
  single : slash ∉ name.bytes
  whole : 0 ∉ name.bytes
  short : ¬ nameLimit < name.length

instance (name : Path) : Decidable (IsName name) :=
  decidable_of_iff
    (¬ staysHere name = true ∧ name ≠ ".." ∧ slash ∉ name.bytes ∧ 0 ∉ name.bytes ∧
      ¬ nameLimit < name.length)
    ⟨fun ⟨moves, down, single, whole, short⟩ => ⟨moves, down, single, whole, short⟩,
      fun proper => ⟨proper.moves, proper.down, proper.single, proper.whole, proper.short⟩⟩

def below (root : Path) (place : List Path) : Path := place.foldl join root

-- The names of a path without the empty one that a slash at its end makes.
def front (path : Path) : List Path :=
  if path.bytes.getLast? = some slash then (names path).dropLast else names path

theorem bytes_append (first second : Path) : (first ++ second).bytes = first.bytes ++ second.bytes :=
  rfl

theorem length_append (first second : Path) :
    (first ++ second).length = first.length + second.length :=
  List.length_append

theorem bytes_eq_nil_iff (path : Path) : path.bytes = [] ↔ path = "" := by
  obtain ⟨bytes⟩ := path
  exact (Path.mk.injEq bytes []).symm.to_iff

theorem IsName.filled {name : Path} (proper : IsName name) : name.bytes ≠ [] := by
  intro empty
  apply proper.moves
  rw [(bytes_eq_nil_iff name).mp empty]
  rfl

theorem names_eq_split (path : Path) : names path = (path.bytes.splitOn slash).map mk := by
  rw [names, Text.pieces_eq_split]

theorem join_slashed (directory name : Path) (slashed : directory.bytes.getLast? = some slash) :
    join directory name = directory ++ name := by
  rw [join, if_pos (.inr slashed)]

theorem join_plain (directory name : Path) (filled : directory ≠ "")
    (plain : directory.bytes.getLast? ≠ some slash) :
    join directory name = directory ++ "/" ++ name := by
  rw [join, if_neg (not_or.mpr ⟨filled, plain⟩)]

def slashed (path : Path) (count : Nat) : Path := ⟨path.bytes ++ List.replicate count slash⟩

theorem last_slashed (path : Path) (more : Nat) :
    (slashed path (more + 1)).bytes.getLast? = some slash := by
  rw [slashed, List.replicate_succ', ← List.append_assoc, List.getLast?_concat]

theorem size_slashed (path : Path) (count : Nat) :
    (slashed path count).length = path.length + count := by
  rw [length, slashed, List.length_append, List.length_replicate, length]

theorem names_slashed (name : Path) (single : slash ∉ name.bytes) (count : Nat) :
    names (slashed name count) = name :: List.replicate count "" := by
  have slashes (count : Nat) :
      (List.replicate count slash).splitOn slash = List.replicate (count + 1) [] := by
    induction count with
    | zero => rfl
    | succ more ih =>
      rw [List.replicate_succ, ← List.nil_append (slash :: _), List.splitOn_append_cons_self, ih]
      rfl
  rw [names_eq_split, slashed]
  cases count with
  | zero => simp [List.splitOn_eq_singleton single]
  | succ more =>
    rw [List.replicate_succ, List.splitOn_append_cons_self, slashes,
      List.splitOn_eq_singleton single, List.singleton_append, List.map_cons, List.map_replicate]
    rfl

theorem names_front (path : Path) :
    names path = front path ∨ names path = front path ++ [("" : Path)] := by
  rw [front]
  by_cases slashed : path.bytes.getLast? = some slash
  · rw [if_pos slashed]
    obtain ⟨before, bytes⟩ := List.getLast?_eq_some_iff.mp slashed
    right
    simp [names_eq_split, bytes, List.splitOn_append_cons_self]
    rfl
  · exact .inl (by rw [if_neg slashed])

theorem names_join (directory name : Path) (filled : directory ≠ "") (single : slash ∉ name.bytes) :
    names (join directory name) = front directory ++ [name] := by
  have alone : name.bytes.splitOn slash = [name.bytes] := List.splitOn_eq_singleton single
  rw [front]
  by_cases slashed : directory.bytes.getLast? = some slash
  · rw [if_pos slashed, join_slashed directory name slashed]
    obtain ⟨before, bytes⟩ := List.getLast?_eq_some_iff.mp slashed
    simp [names_eq_split, bytes_append, bytes, List.splitOn_append_cons_self, alone]
  · rw [if_neg slashed, join_plain directory name filled slashed]
    have bytes : (directory ++ "/" ++ name).bytes = directory.bytes ++ slash :: name.bytes := by
      rw [bytes_append, bytes_append, List.append_assoc]
      rfl
    rw [names_eq_split, names_eq_split, bytes, List.splitOn_append_cons_self, alone, List.map_append,
      List.map_singleton]

theorem join_filled (directory name : Path) (filled : directory ≠ "") :
    ∃ between, (join directory name).bytes = directory.bytes ++ (between ++ name.bytes) ∧
      (between = [] ∨ between = [slash]) := by
  by_cases slashed : directory.bytes.getLast? = some slash
  · exact ⟨[], by rw [join_slashed directory name slashed]; rfl, .inl rfl⟩
  · refine ⟨[slash], ?_, .inr rfl⟩
    rw [join_plain directory name filled slashed, bytes_append, bytes_append, List.append_assoc]
    rfl

theorem join_ne_empty (directory name : Path) (filled : directory ≠ "") :
    join directory name ≠ "" := by
  intro empty
  obtain ⟨between, bytes, _⟩ := join_filled directory name filled
  rw [(bytes_eq_nil_iff _).mpr empty, eq_comm, List.append_eq_nil_iff] at bytes
  exact filled ((bytes_eq_nil_iff directory).mp bytes.1)

theorem front_join (directory name : Path) (filled : directory ≠ "") (proper : IsName name) :
    front (join directory name) = front directory ++ [name] := by
  have open_ended : (join directory name).bytes.getLast? ≠ some slash := by
    obtain ⟨between, bytes, _⟩ := join_filled directory name filled
    rw [bytes, ← List.append_assoc, List.getLast?_append_of_ne_nil _ proper.filled]
    exact fun last => proper.single (List.mem_of_getLast? last)
  rw [front, if_neg open_ended, names_join directory name filled proper.single]

theorem front_below (root : Path) (filled : root ≠ "") (place : List Path)
    (proper : ∀ name ∈ place, IsName name) : front (below root place) = front root ++ place := by
  induction place generalizing root with
  | nil => exact (List.append_nil _).symm
  | cons name rest ih =>
    rw [List.forall_mem_cons] at proper
    rw [below, List.foldl_cons, ← below, ih (join root name) (join_ne_empty root name filled) proper.2,
      front_join root name filled proper.1, List.append_assoc, List.singleton_append]

theorem below_injective (root : Path) (filled : root ≠ "") (first second : List Path)
    (firstProper : ∀ name ∈ first, IsName name) (secondProper : ∀ name ∈ second, IsName name)
    (same : below root first = below root second) : first = second := by
  have fronts := congrArg front same
  rw [front_below root filled first firstProper, front_below root filled second secondProper] at fronts
  exact List.append_cancel_left fronts

theorem size_le_join (directory name : Path) : directory.length ≤ (join directory name).length := by
  rw [join]
  split <;> simp only [length_append] <;> omega

theorem size_le_below (root : Path) (place : List Path) : root.length ≤ (below root place).length := by
  induction place generalizing root with
  | nil => exact Nat.le_refl _
  | cons name rest ih => exact Nat.le_trans (size_le_join root name) (ih (join root name))

end Path

namespace FileNode

inductive Plain : FileNode → Prop
  | file (id : Nat) : Plain (.file id)
  | directory (entries : List (Path × FileNode)) (apart : (entries.map Prod.fst).Nodup)
    (proper : ∀ entry ∈ entries, Path.IsName entry.1) (below : ∀ entry ∈ entries, Plain entry.2) :
    Plain (.directory entries)

theorem mem_of_lookup {entries : List (Path × FileNode)} {name : Path} {child : FileNode}
    (looked : entries.lookup name = some child) : (name, child) ∈ entries := by
  obtain ⟨before, behind, same, _⟩ := List.lookup_eq_some_iff.mp looked
  rw [same]
  simp

theorem plain_child {entries : List (Path × FileNode)} (plain : Plain (.directory entries))
    {name : Path} {child : FileNode} (looked : entries.lookup name = some child) :
    Path.IsName name ∧ child.Plain := by
  cases plain with
  | directory _ _ proper below =>
    have member := mem_of_lookup looked
    exact ⟨proper _ member, below _ member⟩

theorem plain_below (node : FileNode) (plain : node.Plain) (place : List Path) (found : FileNode)
    (here : node.below? place = some found) :
    found.Plain ∧ ∀ name ∈ place, Path.IsName name := by
  induction place generalizing node with
  | nil =>
    cases here
    exact ⟨plain, by simp⟩
  | cons name rest ih =>
    cases plain with
    | file id => simp [below?, child?, entries] at here
    | directory inside apart proper below =>
      simp only [below?, child?, entries] at here
      cases looked : inside.lookup name with
      | none => simp [looked] at here
      | some child =>
        simp only [looked] at here
        have member := mem_of_lookup looked
        obtain ⟨sound, names⟩ := ih child (below _ member) here
        exact ⟨sound, List.forall_mem_cons.mpr ⟨proper _ member, names⟩⟩

end FileNode

namespace FileSystem

open FileNode

def step (files : FileSystem) (trail : List Path) (node : FileNode) (name : Path) :
    Except IoFault (Option (List Path × FileNode)) :=
  match node with
  | .directory entries =>
    if Path.staysHere name then .ok (some (trail, node))
    else if name = ".." then
      match files.root.below? trail.tail.reverse with
      | none => .error .notFound
      | some parent => .ok (some (trail.tail, parent))
    else if Path.nameLimit < name.length then .error .nameTooLong
    else .ok ((entries.lookup name).map fun child => (name :: trail, child))
  | _ => .error .notADirectory

section

variable {files : FileSystem} {wanted : LastName} {links : Nat} {trail : List Path}
  {node : FileNode}

theorem step_stands (stands : files.root.below? trail.reverse = some node) (name : Path)
    (onward : List Path) (next : FileNode)
    (steps : files.step trail node name = .ok (some (onward, next))) :
    files.root.below? onward.reverse = some next := by
  cases node with
  | file id => cases steps
  | link target => cases steps
  | directory entries =>
    rw [step] at steps
    by_cases stays : Path.staysHere name = true
    · rw [if_pos stays] at steps
      cases steps
      exact stands
    rw [if_neg stays] at steps
    by_cases up : name = ".."
    · rw [if_pos up] at steps
      cases above : files.root.below? trail.tail.reverse with
      | none => simp [above] at steps
      | some parent =>
        simp only [above, Except.ok.injEq, Option.some.injEq, Prod.mk.injEq] at steps
        rw [← steps.1, ← steps.2, above]
    rw [if_neg up] at steps
    by_cases long : Path.nameLimit < name.length
    · rw [if_pos long] at steps
      cases steps
    rw [if_neg long] at steps
    cases looked : entries.lookup name with
    | none => simp [looked] at steps
    | some child =>
      simp only [looked, Option.map_some, Except.ok.injEq, Option.some.injEq, Prod.mk.injEq] at steps
      rw [← steps.1, ← steps.2, List.reverse_cons, below_child _ _ _ _ stands, looked]

theorem walk_step (plain : files.root.Plain) (stands : files.root.below? trail.reverse = some node)
    (unlike : wanted ≠ .file) (name : Path) (rest : List Path) :
    files.walk wanted links trail node (name :: rest) =
      match files.step trail node name with
      | .error fault => .error fault
      | .ok none => if rest.isEmpty then .ok (.absent trail.reverse name) else .error .notFound
      | .ok (some (onward, next)) => files.walk wanted links onward next rest := by
  have kept : ¬ (wanted = .file ∧ ¬ rest.isEmpty ∧ rest.all (· == "")) := fun both => unlike both.1
  cases node with
  | file id =>
    rw [walk]
    · rfl
    · simp
  | link target =>
    rw [walk]
    · rfl
    · simp
  | directory entries =>
    by_cases stays : Path.staysHere name = true
    · rw [walk_here stays, step, if_pos stays]
    by_cases up : name = ".."
    · subst up
      rw [walk_up, step, if_neg stays, if_pos rfl]
      cases files.root.below? trail.tail.reverse <;> rfl
    by_cases long : Path.nameLimit < name.length
    · rw [walk, if_neg stays, if_neg up, if_neg kept, if_pos long, step, if_neg stays, if_neg up,
        if_pos long]
    rw [walk_down stays up kept long, step, if_neg stays, if_neg up, if_neg long]
    cases looked : entries.lookup name with
    | none => rfl
    | some child =>
      have sound := (plain_child (plain_below _ plain _ _ stands).1 looked).2
      cases sound <;> rfl

theorem walk_wanted (plain : files.root.Plain) (other : LastName) (unlike : wanted ≠ .file)
    (otherUnlike : other ≠ .file) (names : List Path)
    (stands : files.root.below? trail.reverse = some node) :
    files.walk wanted links trail node names = files.walk other links trail node names := by
  induction names generalizing trail node with
  | nil => rw [walk, walk]
  | cons name rest ih =>
    rw [walk_step plain stands unlike, walk_step plain stands otherUnlike]
    cases steps : files.step trail node name with
    | error fault => rfl
    | ok next =>
      cases next with
      | none => rfl
      | some spot => exact ih (step_stands stands name _ _ steps)

theorem walk_append (plain : files.root.Plain) (unlike : wanted ≠ .file) (names rest : List Path)
    (stands : files.root.below? trail.reverse = some node) (place : List Path) (found : FileNode)
    (walked : files.walk wanted links trail node names = .ok (.found place found)) :
    files.root.below? place = some found ∧
      files.walk wanted links trail node (names ++ rest) =
        files.walk wanted links place.reverse found rest := by
  induction names generalizing trail node with
  | nil =>
    rw [walk, Except.ok.injEq, Place.found.injEq] at walked
    rw [← walked.1, ← walked.2, List.reverse_reverse]
    exact ⟨stands, rfl⟩
  | cons name others ih =>
    rw [walk_step plain stands unlike] at walked
    rw [List.cons_append, walk_step plain stands unlike]
    cases steps : files.step trail node name with
    | error fault => simp [steps] at walked
    | ok next =>
      cases next with
      | none =>
        simp only [steps] at walked
        split at walked <;> cases walked
      | some spot =>
        simp only [steps] at walked
        exact ih (step_stands stands name _ _ steps) walked

theorem walk_blank (plain : files.root.Plain) (unlike : wanted ≠ .file) (names : List Path)
    (name : Path) (rest : List Path) (stands : files.root.below? trail.reverse = some node) :
    files.walk wanted links trail node (names ++ ("" : Path) :: name :: rest) =
      files.walk wanted links trail node (names ++ name :: rest) := by
  induction names generalizing trail node with
  | nil =>
    rw [List.nil_append, List.nil_append, walk_step plain stands unlike]
    cases node with
    | directory entries => rfl
    | file id => rw [walk_step plain stands unlike]; rfl
    | link target => rw [walk_step plain stands unlike]; rfl
  | cons first others ih =>
    rw [List.cons_append, List.cons_append, walk_step plain stands unlike,
      walk_step plain stands unlike]
    cases steps : files.step trail node first with
    | error fault => rfl
    | ok next =>
      cases next with
      | none => simp
      | some spot => exact ih (step_stands stands first _ _ steps)

end

theorem path_fault_none_iff (path : Path) :
    pathFault? path = none ↔ 0 ∉ path.bytes ∧ path ≠ "" ∧ path.length < Path.lengthLimit := by
  rw [pathFault?]
  by_cases whole : 0 ∈ path.bytes
  · simp [whole]
  by_cases empty : path = ""
  · subst empty
    decide
  by_cases long : Path.lengthLimit ≤ path.length
  · simp [whole, empty, long]
  · simp [whole, empty, long, Nat.lt_of_not_le long]

section

variable {files : FileSystem}

theorem locate_iff (path : Path) (wanted : LastName) (place : Place) :
    files.locate path wanted = .ok place ↔
      pathFault? path = none ∧ ∃ start, files.root.below? (files.startOf path) = some start ∧
        files.walk wanted linkLimit (files.startOf path).reverse start (Path.names path) = .ok place := by
  simp only [locate, walkFrom]
  cases fault : pathFault? path with
  | some fault => simp
  | none => cases start : files.root.below? (files.startOf path) <;> simp

theorem node_iff (path : Path) (wanted : LastName) (node : FileNode) :
    files.node path wanted = .ok node ↔ ∃ place, files.locate path wanted = .ok (.found place node) := by
  rw [FileSystem.node]
  cases located : files.locate path wanted with
  | error fault => simp
  | ok place => cases place <;> simp

theorem walk_blanks (trail : List Path) (entries : List (Path × FileNode)) (count : Nat) :
    files.walk .target linkLimit trail (.directory entries) (List.replicate count "") =
      .ok (.found trail.reverse (.directory entries)) := by
  induction count with
  | zero => rw [List.replicate_zero, walk]
  | succ more ih => rw [List.replicate_succ, walk_here rfl, ih]

theorem locate_slashed (entries children : List (Path × FileNode)) (name : Path) (count : Nat)
    (home : files.home = []) (root : files.root = .directory entries) (proper : Path.IsName name)
    (stands : entries.lookup name = some (.directory children))
    (short : (Path.slashed name count).length < Path.lengthLimit) :
    files.locate (Path.slashed name count) .target = .ok (.found [name] (.directory children)) := by
  have filled : Path.slashed name count ≠ "" := by
    rw [Ne, ← Path.bytes_eq_nil_iff, Path.slashed, List.append_eq_nil_iff]
    exact fun empty => proper.filled empty.1
  have relative : Path.isAbsolute (Path.slashed name count) = false := by
    rw [Path.isAbsolute, Path.slashed, List.head?_append_of_ne_nil _ proper.filled, beq_eq_false_iff_ne]
    exact fun first => proper.single (List.mem_of_head? first)
  have whole : 0 ∉ (Path.slashed name count).bytes := by
    rw [Path.slashed, List.mem_append, List.mem_replicate]
    exact fun inside => inside.elim proper.whole fun slash => absurd slash.2 (by decide)
  have starts : files.startOf (Path.slashed name count) = [] := by
    rw [startOf, relative, home]
    rfl
  rw [locate_iff, starts, Path.names_slashed name proper.single]
  refine ⟨(path_fault_none_iff _).mpr ⟨whole, filled, short⟩, files.root, rfl, ?_⟩
  rw [root, walk_down proper.moves proper.down (by simp) proper.short, stands]
  exact walk_blanks [name] children count

variable (plain : files.root.Plain)
include plain

theorem locate_itself (path : Path) : files.locate path .itself = files.locate path .target := by
  simp only [locate, walkFrom]
  cases fault : pathFault? path with
  | some fault => rfl
  | none =>
    cases start : files.root.below? (files.startOf path) with
    | none => rfl
    | some node =>
      exact walk_wanted plain .target (by simp) (by simp) (Path.names path)
        (by rw [List.reverse_reverse, start])

theorem node_itself_target (path : Path) : files.node path .itself = files.node path .target := by
  rw [FileSystem.node, FileSystem.node, locate_itself plain path]

theorem located_stands {path : Path} {place : List Path} {node : FileNode}
    (located : files.locate path .target = .ok (.found place node)) :
    files.root.below? place = some node := by
  obtain ⟨_, start, here, walked⟩ := (locate_iff _ _ _).mp located
  exact (walk_append plain (by simp) (Path.names path) [] (by rw [List.reverse_reverse, here]) place node
    walked).1

theorem located_plain {path : Path} {place : List Path} {node : FileNode}
    (located : files.locate path .target = .ok (.found place node)) : node.Plain :=
  (FileNode.plain_below _ plain place node (located_stands plain located)).1

theorem locate_join {directory name : Path} {place : List Path}
    {entries : List (Path × FileNode)} {child : FileNode}
    (located : files.locate directory .target = .ok (.found place (.directory entries)))
    (looked : entries.lookup name = some child)
    (short : (Path.join directory name).length < Path.lengthLimit) :
    files.locate (Path.join directory name) .target = .ok (.found (place ++ [name]) child) := by
  obtain ⟨fault, start, here, walked⟩ := (locate_iff _ _ _).mp located
  obtain ⟨whole, filled, _⟩ := (path_fault_none_iff directory).mp fault
  have stands := located_stands plain located
  obtain ⟨proper, _⟩ := FileNode.plain_child (located_plain plain located) looked
  obtain ⟨between, bytes, slash⟩ := Path.join_filled directory name filled
  have starts : files.startOf (Path.join directory name) = files.startOf directory := by
    have first : (Path.join directory name).bytes.head? = directory.bytes.head? := by
      rw [bytes, List.head?_append_of_ne_nil _ (mt (Path.bytes_eq_nil_iff directory).mp filled)]
    rw [startOf, startOf, Path.isAbsolute, Path.isAbsolute, first]
  rw [locate_iff, starts]
  refine ⟨(path_fault_none_iff _).mpr ⟨?_, Path.join_ne_empty directory name filled, short⟩, start, here,
    ?_⟩
  · rw [bytes]
    obtain rfl | rfl := slash <;> simp [whole, proper.whole, Path.slash]
  · have hereReversed : files.root.below? (files.startOf directory).reverse.reverse = some start := by
      rw [List.reverse_reverse, here]
    have last : files.walk .target linkLimit place.reverse (.directory entries) [name] =
        .ok (.found (place ++ [name]) child) := by
      rw [walk_step plain (by rw [List.reverse_reverse, stands]) (by simp), step, if_neg proper.moves,
        if_neg proper.down, if_neg proper.short, looked]
      simp only [Option.map_some]
      rw [walk, List.reverse_cons, List.reverse_reverse]
    rw [Path.names_join directory name filled proper.single]
    obtain same | same := Path.names_front directory
    · rw [same] at walked
      rw [(walk_append plain (by simp) _ [name] hereReversed _ _ walked).2, last]
    · rw [same] at walked
      rw [← walk_blank plain (by simp) _ name [] hereReversed]
      have onward := (walk_append plain (by simp) _ [name] hereReversed _ _ walked).2
      rw [List.append_assoc, List.singleton_append] at onward
      rw [onward, last]

theorem locate_below (root : Path) (above place : List Path) (node found : FileNode)
    (located : files.locate root .target = .ok (.found above node))
    (here : node.below? place = some found)
    (short : (Path.below root place).length < Path.lengthLimit) :
    files.locate (Path.below root place) .target = .ok (.found (above ++ place) found) := by
  induction place generalizing root above node with
  | nil =>
    cases here
    rw [List.append_nil]
    exact located
  | cons name rest ih =>
    cases located_plain plain located with
    | file id => simp [FileNode.below?, FileNode.child?, FileNode.entries] at here
    | directory entries _ _ _ =>
      simp only [FileNode.below?, FileNode.child?, FileNode.entries] at here
      cases looked : entries.lookup name with
      | none => simp [looked] at here
      | some child =>
        simp only [looked] at here
        have shorter := Nat.lt_of_le_of_lt (Path.size_le_below (Path.join root name) rest) short
        have next := locate_join plain located looked shorter
        rw [← List.singleton_append, ← List.append_assoc]
        exact ih (Path.join root name) (above ++ [name]) child next here short

end

end FileSystem

end Columnar
