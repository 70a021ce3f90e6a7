import Columnar.TypeTree

set_option autoImplicit false

namespace Columnar

theorem TypeNode.fault_none_iff (node : TypeNode) (count index : Nat) :
    node.fault? count index = none ↔
      node.id.toNat = index ∧
      (∀ child ∈ node.children, node.id.toNat < child.toNat ∧ child.toNat < count) ∧
      node.arityFits = true := by
  have children : (node.children.find? fun child => !node.childFits count child) = none ↔
      ∀ child ∈ node.children, node.id.toNat < child.toNat ∧ child.toNat < count := by
    simp only [List.find?_eq_none, Bool.not_eq_true', Bool.not_eq_false, childFits, Bool.and_eq_true,
      decide_eq_true_eq, UInt32.lt_iff_toNat_lt]
    exact ⟨fun all child member => (all child member).symm, fun all child member =>
      (all child member).symm⟩
  simp only [fault?]
  by_cases misplaced : node.id.toNat ≠ index
  · rw [if_pos misplaced]
    constructor
    · intro clean
      cases clean
    · rintro ⟨placed, _⟩
      exact absurd placed misplaced
  · rw [if_neg misplaced]
    have placed : node.id.toNat = index := Decidable.not_not.mp misplaced
    cases found : node.children.find? fun child => !node.childFits count child with
    | some child =>
      rw [found] at children
      constructor
      · intro clean
        cases clean
      · rintro ⟨_, inside, _⟩
        cases children.mpr inside
    | none =>
      have inside := children.mp found
      by_cases fits : node.arityFits = true
      · simp only [if_pos fits, true_iff]
        exact ⟨placed, inside, fits⟩
      · simp only [if_neg fits]
        constructor
        · intro clean
          cases clean
        · rintro ⟨_, _, fit⟩
          exact absurd fit fits

namespace TypeTree

theorem first_fault_none_iff (count index : Nat) (nodes : List TypeNode) :
    firstFault? count index nodes = none ↔
      ∀ (place : Nat) (node : TypeNode), nodes[place]? = some node →
        node.fault? count (index + place) = none := by
  induction nodes generalizing index with
  | nil => simp [firstFault?]
  | cons first rest ih =>
    rw [firstFault?, Option.or_eq_none_iff, ih]
    constructor
    · rintro ⟨head, others⟩ place node found
      cases place with
      | zero =>
        simp only [List.getElem?_cons_zero, Option.some.injEq] at found
        rw [← found]
        exact head
      | succ place =>
        rw [List.getElem?_cons_succ] at found
        have behind := others place node found
        rw [show index + (place + 1) = index + 1 + place by omega]
        exact behind
    · intro all
      refine ⟨all 0 first rfl, ?_⟩
      intro place node found
      have behind := all (place + 1) node (by simpa using found)
      rw [show index + 1 + place = index + (place + 1) by omega]
      exact behind

structure Numbered (tree : TypeTree) : Prop where
  rooted : ∃ root rest, tree.nodes = root :: rest ∧ root.kind = .struct
  placed : ∀ (place : Nat) (node : TypeNode), tree.nodes[place]? = some node → node.id.toNat = place
  inside : ∀ node ∈ tree.nodes, ∀ child ∈ node.children,
    node.id.toNat < child.toNat ∧ child.toNat < tree.nodes.length
  arity : ∀ node ∈ tree.nodes, node.arityFits = true

theorem valid_iff_numbered (tree : TypeTree) : tree.Valid ↔ tree.Numbered := by
  have faults := first_fault_none_iff tree.nodes.length 0 tree.nodes
  obtain ⟨nodes⟩ := tree
  simp only [Valid, check, root?]
  cases nodes with
  | nil =>
    constructor
    · intro valid
      cases valid
    · rintro ⟨⟨root, rest, same, _⟩, _⟩
      cases same
  | cons root rest =>
    simp only [List.head?_cons]
    by_cases other : root.kind ≠ .struct
    · rw [if_pos other]
      constructor
      · intro valid
        cases valid
      · rintro ⟨⟨first, behind, same, isStruct⟩, _⟩
        cases same
        exact absurd isStruct other
    · rw [if_neg other]
      have isStruct : root.kind = .struct := Decidable.not_not.mp other
      cases found : firstFault? (root :: rest).length 0 (root :: rest) with
      | some fault =>
        rw [found] at faults
        constructor
        · intro valid
          cases valid
        · intro numbered
          refine absurd (faults.mpr ?_) (by simp)
          intro place node at_place
          have member := List.mem_of_getElem? at_place
          rw [TypeNode.fault_none_iff]
          exact ⟨by rw [numbered.placed place node at_place, Nat.zero_add],
            numbered.inside node member, numbered.arity node member⟩
      | none =>
        simp only [true_iff]
        have facts (place : Nat) (node : TypeNode) (at_place : (root :: rest)[place]? = some node) :=
          (node.fault_none_iff _ _).mp (faults.mp found place node at_place)
        refine ⟨⟨root, rest, rfl, isStruct⟩, ?_, ?_, ?_⟩
        · intro place node at_place
          have placed := (facts place node at_place).1
          rw [Nat.zero_add] at placed
          exact placed
        · intro node member
          obtain ⟨place, at_place⟩ := List.getElem?_of_mem member
          exact (facts place node at_place).2.1
        · intro node member
          obtain ⟨place, at_place⟩ := List.getElem?_of_mem member
          exact (facts place node at_place).2.2

section

variable {tree : TypeTree}

theorem columns_of_root (root : TypeNode) (rest : List TypeNode) (nodes : tree.nodes = root :: rest) :
    tree.columns = root.children := by
  simp only [columns, columns?, root?, nodes, List.head?_cons, Option.map_some, Option.getD_some]

theorem column_inside (numbered : tree.Numbered) (id : UInt32) (member : id ∈ tree.columns) :
    0 < id.toNat ∧ id.toNat < tree.nodes.length := by
  obtain ⟨root, rest, nodes, _⟩ := numbered.rooted
  have placed := numbered.placed 0 root (by rw [nodes]; rfl)
  rw [columns_of_root root rest nodes] at member
  have inside := numbered.inside root (by rw [nodes]; simp) id member
  omega

end

end TypeTree

end Columnar
