import Columnar.Listing
import Columnar.Proofs.FileSystem.Created

set_option autoImplicit false

namespace Columnar

namespace FileSystem

-- A walk to a file that leaves out a link in the end comes to the file, or stops at a link. The
-- inner induction is on the names, the outer one on the links that may still be followed.
theorem walk_itself (files : FileSystem) (links : Nat) (names trail : List Path) (node : FileNode)
    (place : List Path) (id : Nat)
    (walked : files.walk .target links trail node names = .ok (.found place (.file id))) :
    files.walk .itself links trail node names = .ok (.found place (.file id)) ∨
      ∃ other target,
        files.walk .itself links trail node names = .ok (.found other (.link target)) := by
  have plain (wanted : LastName) (unlike : wanted ≠ .file) (rest : List Path) :
      ¬ (wanted = .file ∧ ¬ rest.isEmpty ∧ rest.all (· == "")) := fun both => unlike both.1
  have followed (rest : List Path) : ¬ (rest.isEmpty = true ∧ LastName.target = .itself) :=
    fun both => by cases both.2
  induction links using Nat.strongRecOn generalizing names trail node with
  | ind links fewer =>
  induction names generalizing trail node with
  | nil =>
    rw [walk] at walked
    rw [walk]
    exact .inl walked
  | cons name rest ih =>
    cases node with
    | file other =>
      rw [walk] at walked
      · cases walked
      · simp
    | link target =>
      rw [walk] at walked
      · cases walked
      · simp
    | directory entries =>
      by_cases stays : Path.staysHere name = true
      · rw [walk_here stays] at walked ⊢
        exact ih trail _ walked
      by_cases up : name = ".."
      · subst up
        rw [walk_up] at walked ⊢
        cases above : files.root.below? trail.tail.reverse with
        | none =>
          rw [above] at walked
          cases walked
        | some parent =>
          rw [above] at walked
          exact ih trail.tail parent walked
      by_cases long : Path.nameLimit < name.length
      · rw [walk, if_neg stays, if_neg up, if_neg (plain .target (by simp) rest), if_pos long] at walked
        cases walked
      rw [walk_down stays up (plain .target (by simp) rest) long] at walked
      rw [walk_down stays up (plain .itself (by simp) rest) long]
      cases found : entries.lookup name with
      | none =>
        simp only [found] at walked
        split at walked <;> cases walked
      | some child =>
        rw [found] at walked
        cases child with
        | file other => exact ih _ _ walked
        | directory below => exact ih _ _ walked
        | link target =>
          by_cases last : rest.isEmpty = true
          · simp only [last, and_self, if_true]
            exact .inr ⟨_, _, rfl⟩
          simp only [if_neg (followed rest)] at walked
          simp only [last]
          cases links with
          | zero => cases walked
          | succ more =>
            by_cases absolute : Path.isAbsolute target = true
            · simp only [if_pos absolute] at walked ⊢
              exact fewer more (Nat.lt_succ_self more) _ _ _ walked
            · simp only [if_neg absolute] at walked ⊢
              exact fewer more (Nat.lt_succ_self more) _ _ _ walked

theorem open_path_regular (files : FileSystem) (path : Path) (content : Content)
    (located : files.openFile path = .ok (.regular content)) :
    ∃ id, files.openPath path = .ok (.file id) := by
  rw [openFile] at located
  cases opens : files.openPath path with
  | error fault => simp [opens, Except.map] at located
  | ok handle =>
    cases handle with
    | file id => exact ⟨id, rfl⟩
    | directory => simp [opens, Except.map, view] at located

theorem open_path_node (files : FileSystem) (path : Path) (id : Nat)
    (opens : files.openPath path = .ok (.file id)) : files.node path .target = .ok (.file id) := by
  rw [openPath] at opens
  cases found : files.node path .target with
  | error fault => simp [found] at opens
  | ok node => cases node <;> simp_all

theorem node_itself (files : FileSystem) (path : Path) (id : Nat)
    (opens : files.openPath path = .ok (.file id)) :
    files.node path .itself = .ok (.file id) ∨
      ∃ target, files.node path .itself = .ok (.link target) := by
  have reached := files.open_path_node path id opens
  simp only [node, locate, walkFrom] at reached ⊢
  cases fault : pathFault? path with
  | some fault => simp [fault] at reached
  | none =>
    cases start : files.root.below? (files.startOf path) with
    | none => simp [fault, start] at reached
    | some first =>
      simp only [fault, start] at reached ⊢
      cases walked : files.walk .target linkLimit (files.startOf path).reverse first
          (Path.names path) with
      | error fault => simp [walked] at reached
      | ok place =>
        cases place with
        | absent above name => simp [walked] at reached
        | found there node =>
          simp only [walked, Except.ok.injEq] at reached
          subst reached
          obtain same | ⟨other, target, stopped⟩ := walk_itself files _ _ _ _ _ id walked
          · exact .inl (by rw [same])
          · exact .inr ⟨target, by rw [stopped]⟩

end FileSystem

namespace Listing

theorem list_file (files : FileSystem) (path : Path) (id : Nat)
    (node : files.node path .itself = .ok (.file id)) : list files [path] = .ok [path] := by
  have found : filesOfRoot files path = .ok [path] := by
    rw [filesOfRoot, node]
    rfl
  simp only [list, filesOfRoots, found, Except.map, List.append_nil, List.mergeSort_singleton]

theorem list_link (files : FileSystem) (path target : Path) (id : Nat)
    (node : files.node path .itself = .ok (.link target))
    (opens : files.openPath path = .ok (.file id)) : list files [path] = .ok [] := by
  simp only [list, filesOfRoots, filesOfRoot, node, files.open_path_node path id opens, Except.map,
    List.append_nil, List.mergeSort_nil]

end Listing

end Columnar
