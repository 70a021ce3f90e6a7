import Columnar.FileSystem

set_option autoImplicit false

namespace Columnar

namespace FileNode

def Alike : FileNode → FileNode → Prop
  | .file a, .file b => a = b
  | .link a, .link b => a = b
  | .directory _, .directory _ => True
  | _, _ => False

theorem alike_refl (node : FileNode) : Alike node node := by
  cases node <;> simp [Alike]

def Keeps (old new : FileNode) : Prop :=
  ∀ place node, old.below? place = some node →
    ∃ found, new.below? place = some found ∧ Alike node found

theorem keeps_refl (node : FileNode) : Keeps node node :=
  fun _ found here => ⟨found, here, alike_refl found⟩

theorem below_append (node : FileNode) (first second : List Path) :
    node.below? (first ++ second) = (node.below? first).bind fun found => found.below? second := by
  induction first generalizing node with
  | nil => rfl
  | cons name rest ih =>
    simp only [List.cons_append, below?]
    cases node.child? name with
    | none => rfl
    | some child => exact ih child

theorem below_single (node : FileNode) (name : Path) : node.below? [name] = node.child? name := by
  simp only [below?]
  cases node.child? name <;> rfl

end FileNode

theorem lookup_change_entry (name other : Path) (change : Option FileNode → Option FileNode)
    (entries : List (Path × FileNode)) (kept : change (entries.lookup name) ≠ none) :
    (changeEntry name change entries).lookup other =
      if other = name then change (entries.lookup name) else entries.lookup other := by
  induction entries with
  | nil =>
    simp only [List.lookup_nil] at kept
    obtain ⟨node, same⟩ := Option.ne_none_iff_exists'.mp kept
    simp only [changeEntry, same, Option.map_some, Option.toList_some, List.lookup_nil, List.lookup_cons]
    by_cases here : other = name
    · simp [here]
    · simp [here, beq_false_of_ne here]
  | cons entry rest ih =>
    obtain ⟨first, node⟩ := entry
    by_cases found : first = name
    · subst found
      simp only [List.lookup_cons, BEq.rfl] at kept
      obtain ⟨changed, same⟩ := Option.ne_none_iff_exists'.mp kept
      simp only [changeEntry, if_true, same, Option.map_some, Option.toList_some,
        List.singleton_append, List.lookup_cons, BEq.rfl]
      by_cases here : other = first
      · simp [here]
      · simp [here, beq_false_of_ne here]
    · have unlike : (name == first) = false := by
        simpa using fun same => found same.symm
      simp only [List.lookup_cons, unlike] at kept
      simp only [changeEntry, if_neg found, List.lookup_cons, unlike, ih kept]
      by_cases here : other = name
      · subst here
        simp [unlike]
      · simp only [if_neg here]

namespace FileNode

def grown (root : FileNode) (directory : List Path) (name : Path) (node : FileNode) : FileNode :=
  (change (fun _ => some node) (directory ++ [name]) (some root)).getD (.directory [])

theorem grown_single (entries : List (Path × FileNode)) (name : Path) (node : FileNode) :
    grown (.directory entries) [] name node =
      .directory (changeEntry name (fun _ => some node) entries) := by
  simp only [grown, List.nil_append, change, Option.map_some, FileNode.entries, Option.getD_some]

theorem grown_cons (entries : List (Path × FileNode)) (first : Path) (rest : List Path)
    (name : Path) (node : FileNode) :
    grown (.directory entries) (first :: rest) name node =
      .directory (changeEntry first (change (fun _ => some node) (rest ++ [name])) entries) := by
  simp only [grown, List.cons_append, change, Option.map_some, FileNode.entries, Option.getD_some]

theorem change_some (child : FileNode) (directory : List Path) (name : Path) (node : FileNode) :
    change (fun _ => some node) (directory ++ [name]) (some child) =
      some (grown child directory name node) := by
  cases directory with
  | nil => rfl
  | cons first rest => rfl

-- The induction is on the names that lead to the directory.
theorem grown_keeps (root : FileNode) (directory : List Path) (name : Path) (node : FileNode)
    (entries : List (Path × FileNode)) (found : root.below? directory = some (.directory entries))
    (absent : entries.lookup name = none) :
    Keeps root (grown root directory name node) ∧
      (grown root directory name node).below? (directory ++ [name]) = some node := by
  induction directory generalizing root with
  | nil =>
    simp only [below?, Option.some.injEq] at found
    subst found
    have looked (other : Path) := lookup_change_entry name other (fun _ => some node) entries (by simp)
    rw [grown_single]
    refine ⟨?_, ?_⟩
    · intro place below here
      cases place with
      | nil =>
        simp only [below?, Option.some.injEq] at here ⊢
        subst here
        exact ⟨_, rfl, trivial⟩
      | cons first rest =>
        have other : first ≠ name := by
          intro same
          simp [below?, child?, FileNode.entries, same, absent] at here
        simp only [below?, child?, FileNode.entries, looked, if_neg other] at here ⊢
        exact ⟨below, here, alike_refl below⟩
    · simp only [List.nil_append, below?, child?, FileNode.entries, looked, if_true]
  | cons first rest ih =>
    cases root with
    | file id => simp [below?, child?, FileNode.entries] at found
    | link target => simp [below?, child?, FileNode.entries] at found
    | directory above =>
      simp only [below?, child?, FileNode.entries] at found
      cases down : above.lookup first with
      | none => simp [down] at found
      | some child =>
        simp only [down] at found
        obtain ⟨keeps, there⟩ := ih child found
        have looked (other : Path) := lookup_change_entry first other
          (change (fun _ => some node) (rest ++ [name])) above (by simp [down, change_some])
        simp only [down, change_some] at looked
        rw [grown_cons]
        refine ⟨?_, ?_⟩
        · intro place below here
          cases place with
          | nil =>
            simp only [below?, Option.some.injEq] at here ⊢
            subst here
            exact ⟨_, rfl, trivial⟩
          | cons second behind =>
            simp only [below?, child?, FileNode.entries, looked] at here ⊢
            by_cases same : second = first
            · subst same
              simp only [down] at here
              simp only [if_true]
              exact keeps behind below here
            · simp only [if_neg same]
              exact ⟨below, here, alike_refl below⟩
        · simp only [List.cons_append, below?, child?, FileNode.entries, looked, if_true]
          exact there

theorem below_child (root : FileNode) (place : List Path) (entries : List (Path × FileNode))
    (name : Path) (found : root.below? place = some (.directory entries)) :
    root.below? (place ++ [name]) = entries.lookup name := by
  rw [below_append, found, Option.bind_some, below_single]
  rfl

end FileNode

namespace FileSystem

open FileNode

section

variable {files : FileSystem} {wanted : LastName} {links : Nat} {trail rest : List Path}
  {entries : List (Path × FileNode)} {name : Path}

theorem walk_here (stays : Path.staysHere name = true) :
    files.walk wanted links trail (.directory entries) (name :: rest) =
      files.walk wanted links trail (.directory entries) rest := by
  rw [walk, if_pos stays]

theorem walk_up :
    files.walk wanted links trail (.directory entries) (".." :: rest) =
      match files.root.below? trail.tail.reverse with
      | none => .error .notFound
      | some parent => files.walk wanted links trail.tail parent rest := by
  have moves : ¬ Path.staysHere ".." = true := by decide
  rw [walk]
  exact (if_neg moves).trans (if_pos rfl)

theorem walk_down (moves : ¬ Path.staysHere name = true) (down : name ≠ "..")
    (plain : ¬ (wanted = .file ∧ ¬ rest.isEmpty ∧ rest.all (· == "")))
    (short : ¬ Path.nameLimit < name.length) :
    files.walk wanted links trail (.directory entries) (name :: rest) =
      match entries.lookup name with
      | none => if rest.isEmpty then .ok (.absent trail.reverse name) else .error .notFound
      | some (.link target) =>
        if rest.isEmpty ∧ wanted = .itself then
          .ok (.found (name :: trail).reverse (.link target))
        else
          match links with
          | 0 => .error .tooManyLinks
          | more + 1 =>
            if Path.isAbsolute target then
              files.walk wanted more [] files.root (Path.names target ++ rest)
            else files.walk wanted more trail (.directory entries) (Path.names target ++ rest)
      | some child => files.walk wanted links (name :: trail) child rest := by
  rw [walk]
  exact (if_neg moves).trans ((if_neg down).trans ((if_neg plain).trans (if_neg short)))

end

theorem node_at_home (files : FileSystem) (entries : List (Path × FileNode)) (name : Path)
    (id : Nat) (wanted : LastName) (home : files.home = []) (root : files.root = .directory entries)
    (stands : entries.lookup name = some (.file id)) (plain : pathFault? name = none)
    (alone : Path.names name = [name]) (relative : Path.isAbsolute name = false)
    (moves : ¬ Path.staysHere name = true) (down : name ≠ "..")
    (short : ¬ Path.nameLimit < name.length) :
    files.node name wanted = .ok (.file id) := by
  have walked : files.walk wanted linkLimit [] (.directory entries) [name] =
      .ok (.found [name] (.file id)) := by
    rw [walk_down moves down (by simp) short]
    simp only [stands]
    rw [walk]
    rfl
  have starts : files.startOf name = [] := by
    rw [startOf, relative, home]
    rfl
  simp only [node, locate, plain, walkFrom, starts, root, FileNode.below?, List.reverse_nil, alone,
    walked]

theorem open_file_at_home (files : FileSystem) (entries : List (Path × FileNode)) (name : Path)
    (id : Nat) (home : files.home = []) (root : files.root = .directory entries)
    (stands : entries.lookup name = some (.file id)) (plain : pathFault? name = none)
    (alone : Path.names name = [name]) (relative : Path.isAbsolute name = false)
    (moves : ¬ Path.staysHere name = true) (down : name ≠ "..")
    (short : ¬ Path.nameLimit < name.length) :
    files.openFile name = .ok (.regular (files.contents.getD id .empty)) := by
  have node := node_at_home files entries name id .target home root stands plain alone relative moves
    down short
  simp only [openFile, openPath, node]
  rfl

inductive Walks (files : FileSystem) : Nat → List Path → FileNode → List Path → Place → Prop
  | done (links : Nat) (trail : List Path) (node : FileNode) :
    Walks files links trail node [] (.found trail.reverse node)
  | here (links : Nat) (trail : List Path) (entries : List (Path × FileNode)) (name : Path)
    (rest : List Path) (place : Place) (stays : Path.staysHere name = true)
    (onward : Walks files links trail (.directory entries) rest place) :
    Walks files links trail (.directory entries) (name :: rest) place
  | up (links : Nat) (trail : List Path) (entries : List (Path × FileNode)) (parent : FileNode)
    (rest : List Path) (place : Place) (above : files.root.below? trail.tail.reverse = some parent)
    (onward : Walks files links trail.tail parent rest place) :
    Walks files links trail (.directory entries) (".." :: rest) place
  | absent (links : Nat) (trail : List Path) (entries : List (Path × FileNode)) (name : Path)
    (moves : ¬ Path.staysHere name = true) (down : name ≠ "..")
    (short : ¬ Path.nameLimit < name.length) (missing : entries.lookup name = none) :
    Walks files links trail (.directory entries) [name] (.absent trail.reverse name)
  | rooted (more : Nat) (trail : List Path) (entries : List (Path × FileNode)) (name : Path)
    (rest : List Path) (target : Path) (place : Place) (moves : ¬ Path.staysHere name = true)
    (down : name ≠ "..") (short : ¬ Path.nameLimit < name.length)
    (found : entries.lookup name = some (.link target)) (absolute : Path.isAbsolute target = true)
    (onward : Walks files more [] files.root (Path.names target ++ rest) place) :
    Walks files (more + 1) trail (.directory entries) (name :: rest) place
  | aside (more : Nat) (trail : List Path) (entries : List (Path × FileNode)) (name : Path)
    (rest : List Path) (target : Path) (place : Place) (moves : ¬ Path.staysHere name = true)
    (down : name ≠ "..") (short : ¬ Path.nameLimit < name.length)
    (found : entries.lookup name = some (.link target)) (relative : ¬ Path.isAbsolute target = true)
    (onward : Walks files more trail (.directory entries) (Path.names target ++ rest) place) :
    Walks files (more + 1) trail (.directory entries) (name :: rest) place
  | into (links : Nat) (trail : List Path) (entries : List (Path × FileNode)) (name : Path)
    (rest : List Path) (child : FileNode) (place : Place) (moves : ¬ Path.staysHere name = true)
    (down : name ≠ "..") (short : ¬ Path.nameLimit < name.length)
    (found : entries.lookup name = some child) (solid : ∀ target, child ≠ .link target)
    (onward : Walks files links (name :: trail) child rest place) :
    Walks files links trail (.directory entries) (name :: rest) place

-- The inner induction is on the names, the outer one on the links that may still be followed.
theorem walks_of_walk (files : FileSystem) (links : Nat) (names trail : List Path)
    (node : FileNode) (place : Place) (walked : files.walk .file links trail node names = .ok place) :
    Walks files links trail node names place := by
  induction links using Nat.strongRecOn generalizing names trail node with
  | ind links fewer =>
  induction names generalizing trail node with
  | nil =>
    rw [walk, Except.ok.injEq] at walked
    rw [← walked]
    exact .done links trail node
  | cons name rest ih =>
    cases node with
    | file other =>
      rw [walk] at walked
      · cases walked
      · simp
    | link target =>
      rw [walk] at walked
      · cases walked
      · simp
    | directory entries =>
      by_cases stays : Path.staysHere name = true
      · rw [walk_here stays] at walked
        exact .here _ _ _ _ _ _ stays (ih trail _ walked)
      by_cases up : name = ".."
      · subst up
        rw [walk_up] at walked
        cases above : files.root.below? trail.tail.reverse with
        | none =>
          rw [above] at walked
          cases walked
        | some parent =>
          rw [above] at walked
          exact .up _ _ _ _ _ _ above (ih trail.tail parent walked)
      by_cases slashed : ¬ rest.isEmpty ∧ rest.all (· == "")
      · rw [walk, if_neg stays, if_neg up, if_pos ⟨rfl, slashed⟩] at walked
        cases walked
      by_cases long : Path.nameLimit < name.length
      · rw [walk, if_neg stays, if_neg up, if_neg (fun both => slashed both.2), if_pos long] at walked
        cases walked
      rw [walk_down stays up (fun both => slashed both.2) long] at walked
      cases found : entries.lookup name with
      | none =>
        simp only [found] at walked
        cases rest with
        | cons second behind => simp at walked
        | nil =>
          simp only [List.isEmpty_nil, if_true, Except.ok.injEq] at walked
          rw [← walked]
          exact .absent _ _ _ _ stays up long found
      | some child =>
        rw [found] at walked
        cases child with
        | file other => exact .into _ _ _ _ _ _ _ stays up long found (by simp) (ih _ _ walked)
        | directory below => exact .into _ _ _ _ _ _ _ stays up long found (by simp) (ih _ _ walked)
        | link target =>
          have notItself : ¬ (rest.isEmpty = true ∧ LastName.file = .itself) := fun both => by
            cases both.2
          simp only [if_neg notItself] at walked
          cases links with
          | zero => cases walked
          | succ more =>
            by_cases absolute : Path.isAbsolute target = true
            · simp only [if_pos absolute] at walked
              exact .rooted _ _ _ _ _ _ _ stays up long found absolute
                (fewer more (Nat.lt_succ_self more) _ _ _ walked)
            · simp only [if_neg absolute] at walked
              exact .aside _ _ _ _ _ _ _ stays up long found absolute
                (fewer more (Nat.lt_succ_self more) _ _ _ walked)

theorem walks_absent {files : FileSystem} {links : Nat} {names trail : List Path}
    {node : FileNode} {place : Place} (walks : Walks files links trail node names place)
    (stands : files.root.below? trail.reverse = some node) (above : List Path) (name : Path)
    (ends : place = .absent above name) :
    ∃ entries, files.root.below? above = some (.directory entries) ∧ entries.lookup name = none := by
  induction walks with
  | done => cases ends
  | here _ _ _ _ _ _ _ _ ih => exact ih stands ends
  | up _ _ _ _ _ _ up _ ih => exact ih up ends
  | absent _ _ entries _ _ _ _ missing =>
    cases ends
    exact ⟨entries, stands, missing⟩
  | rooted _ _ _ _ _ _ _ _ _ _ _ _ _ ih => exact ih rfl ends
  | aside _ _ _ _ _ _ _ _ _ _ _ _ _ ih => exact ih stands ends
  | into _ trail entries next _ child _ _ _ _ found _ _ ih =>
    refine ih ?_ ends
    rw [List.reverse_cons, below_child files.root trail.reverse entries next stands, found]

def Leads (after : FileSystem) (id : Nat) : Place → Prop
  | .found _ node => node = .file id
  | .absent above name => after.root.below? (above ++ [name]) = some (.file id)

theorem alike_directory {entries : List (Path × FileNode)} {copy : FileNode}
    (alike : Alike (.directory entries) copy) : ∃ copies, copy = .directory copies := by
  cases copy with
  | directory copies => exact ⟨copies, rfl⟩
  | file _ => cases alike
  | link _ => cases alike

theorem walk_again {files after : FileSystem} (keeps : Keeps files.root after.root) (id : Nat)
    {links : Nat} {names trail : List Path} {node : FileNode} {place : Place}
    (walks : Walks files links trail node names place) (leads : Leads after id place)
    (stands : files.root.below? trail.reverse = some node) (copy : FileNode)
    (copied : after.root.below? trail.reverse = some copy) (alike : Alike node copy) :
    ∃ there, after.walk .target links trail copy names = .ok (.found there (.file id)) := by
  have plain (rest : List Path) : ¬ (LastName.target = .file ∧ ¬ rest.isEmpty ∧ rest.all (· == "")) :=
    fun both => by cases both.1
  have notItself (rest : List Path) : ¬ (rest.isEmpty = true ∧ LastName.target = .itself) :=
    fun both => by cases both.2
  induction walks generalizing copy with
  | done links trail node =>
    simp only [Leads] at leads
    subst leads
    cases copy with
    | file other =>
      simp only [Alike] at alike
      rw [walk, alike]
      exact ⟨_, rfl⟩
    | directory _ => cases alike
    | link _ => cases alike
  | here links trail entries name rest place stays onward ih =>
    obtain ⟨copies, rfl⟩ := alike_directory alike
    rw [walk_here stays]
    exact ih leads stands _ copied alike
  | up links trail entries parent rest place above onward ih =>
    obtain ⟨copies, rfl⟩ := alike_directory alike
    obtain ⟨parentCopy, parentCopied, parentAlike⟩ := keeps _ parent above
    rw [walk_up, parentCopied]
    exact ih leads above _ parentCopied parentAlike
  | absent links trail entries name moves down short missing =>
    obtain ⟨copies, rfl⟩ := alike_directory alike
    simp only [Leads, below_child after.root trail.reverse copies name copied] at leads
    rw [walk_down moves down (plain []) short]
    simp only [leads]
    exact ⟨_, by rw [walk]⟩
  | rooted more trail entries name rest target place moves down short found absolute onward ih =>
    obtain ⟨copies, rfl⟩ := alike_directory alike
    obtain ⟨childCopy, childCopied, childAlike⟩ := keeps (trail.reverse ++ [name]) (.link target)
      (by rw [below_child files.root trail.reverse entries name stands, found])
    rw [below_child after.root trail.reverse copies name copied] at childCopied
    obtain ⟨rootCopy, rootCopied, rootAlike⟩ := keeps [] files.root rfl
    simp only [below?, Option.some.injEq] at rootCopied
    subst rootCopied
    rw [walk_down moves down (plain rest) short, childCopied]
    cases childCopy with
    | file _ => cases childAlike
    | directory _ => cases childAlike
    | link same =>
      simp only [Alike] at childAlike
      subst childAlike
      simp only [if_neg (notItself rest), if_pos absolute]
      exact ih leads rfl _ rfl rootAlike
  | aside more trail entries name rest target place moves down short found relative onward ih =>
    obtain ⟨copies, rfl⟩ := alike_directory alike
    obtain ⟨childCopy, childCopied, childAlike⟩ := keeps (trail.reverse ++ [name]) (.link target)
      (by rw [below_child files.root trail.reverse entries name stands, found])
    rw [below_child after.root trail.reverse copies name copied] at childCopied
    rw [walk_down moves down (plain rest) short, childCopied]
    cases childCopy with
    | file _ => cases childAlike
    | directory _ => cases childAlike
    | link same =>
      simp only [Alike] at childAlike
      subst childAlike
      simp only [if_neg (notItself rest), if_neg relative]
      exact ih leads stands _ copied alike
  | into links trail entries name rest child place moves down short found solid onward ih =>
    obtain ⟨copies, rfl⟩ := alike_directory alike
    have inside : files.root.below? (trail.reverse ++ [name]) = some child := by
      rw [below_child files.root trail.reverse entries name stands, found]
    obtain ⟨childCopy, childCopied, childAlike⟩ := keeps (trail.reverse ++ [name]) child inside
    have looked := childCopied
    rw [below_child after.root trail.reverse copies name copied] at looked
    rw [← List.reverse_cons] at inside childCopied
    have onward := ih leads inside childCopy childCopied childAlike
    rw [walk_down moves down (plain rest) short, looked]
    cases childCopy with
    | file _ => exact onward
    | directory _ => exact onward
    | link target =>
      cases child with
      | file _ => cases childAlike
      | directory _ => cases childAlike
      | link other => exact absurd rfl (solid other)

theorem open_for_writing_opens (files opened : FileSystem) (path : Path) (id : Nat)
    (opens : files.openForWriting path = .ok (id, opened)) (after : FileSystem)
    (root : after.root = opened.root) (home : after.home = opened.home) :
    after.openPath path = .ok (.file id) := by
  simp only [openForWriting, locate] at opens
  cases fault : pathFault? path with
  | some fault => simp [fault] at opens
  | none =>
    simp only [fault, walkFrom] at opens
    cases start : files.root.below? (files.startOf path) with
    | none => simp [start] at opens
    | some node =>
      simp only [start] at opens
      have stands : files.root.below? (files.startOf path).reverse.reverse = some node := by
        rw [List.reverse_reverse, start]
      -- What is left to show is that the walk ends at the file in the tree as it is afterwards.
      have reached (same : after.home = files.home) (keeps : Keeps files.root after.root)
          (place : Place)
          (walked : files.walk .file linkLimit (files.startOf path).reverse node (Path.names path) =
            .ok place) (leads : Leads after id place) : after.openPath path = .ok (.file id) := by
        obtain ⟨copy, copied, alike⟩ := keeps _ node start
        obtain ⟨there, again⟩ := walk_again keeps id (walks_of_walk _ _ _ _ _ _ walked) leads stands
          copy (by rw [List.reverse_reverse, copied]) alike
        have starts : after.startOf path = files.startOf path := by rw [startOf, startOf, same]
        simp only [openPath, FileSystem.node, locate, fault, walkFrom, starts, copied, again]
      cases walked : files.walk .file linkLimit (files.startOf path).reverse node (Path.names path) with
      | error fault => simp [walked] at opens
      | ok place =>
        simp only [walked] at opens
        cases place with
        | absent above name =>
          simp only [Except.ok.injEq, addFile, Prod.mk.injEq] at opens
          obtain ⟨entries, found, missing⟩ :=
            walks_absent (walks_of_walk _ _ _ _ _ _ walked) stands above name rfl
          obtain ⟨keeps, there⟩ := grown_keeps files.root above name (.file id) entries found missing
          have grew : after.root = grown files.root above name (.file id) := by
            rw [root, ← opens.2, ← opens.1]
            rfl
          rw [← grew] at keeps there
          exact reached (by rw [home, ← opens.2]; rfl) keeps _ walked there
        | found there node =>
          cases node with
          | directory _ => simp at opens
          | link _ => simp at opens
          | file other =>
            simp only [Except.ok.injEq, Prod.mk.injEq] at opens
            refine reached (by rw [home, opens.2]) ?_ _ walked (by rw [Leads, opens.1])
            rw [root, opens.2]
            exact keeps_refl _

end FileSystem

end Columnar
