import Columnar.Proofs.TypeTree.Numbered
import Columnar.TypeTree.Flatten

set_option autoImplicit false

namespace Columnar

namespace TypeNode

structure Block (low : Nat) (nodes : List TypeNode) : Prop where
  placed : ∀ (place : Nat) (node : TypeNode), nodes[place]? = some node → node.id.toNat = low + place
  inside : ∀ node ∈ nodes, ∀ child ∈ node.children,
    node.id.toNat < child.toNat ∧ child.toNat < low + nodes.length
  arity : ∀ node ∈ nodes, node.arityFits = true

theorem block_nil (low : Nat) : Block low [] :=
  ⟨by simp, by simp, by simp⟩

theorem Block.id_inside {low : Nat} {nodes : List TypeNode} (block : Block low nodes)
    (node : TypeNode) (member : node ∈ nodes) :
    low ≤ node.id.toNat ∧ node.id.toNat < low + nodes.length := by
  obtain ⟨place, found⟩ := List.getElem?_of_mem member
  have placed := block.placed place node found
  have short := (List.getElem?_eq_some_iff.mp found).1
  omega

theorem block_append {low : Nat} {first second : List TypeNode} (left : Block low first)
    (right : Block (low + first.length) second) : Block low (first ++ second) := by
  refine ⟨?_, ?_, ?_⟩
  · intro place node found
    by_cases early : place < first.length
    · rw [List.getElem?_append_left early] at found
      exact left.placed place node found
    · rw [List.getElem?_append_right (by omega)] at found
      have placed := right.placed _ node found
      omega
  · intro node member child below
    rw [List.length_append]
    cases List.mem_append.mp member with
    | inl early =>
      have inside := left.inside node early child below
      omega
    | inr late =>
      have inside := right.inside node late child below
      omega
  · intro node member
    cases List.mem_append.mp member with
    | inl early => exact left.arity node early
    | inr late => exact right.arity node late

theorem block_cons {low : Nat} {node : TypeNode} {nodes : List TypeNode} (placed : node.id.toNat = low)
    (children : ∀ child ∈ node.children, low < child.toNat ∧ child.toNat < low + 1 + nodes.length)
    (fits : node.arityFits = true) (below : Block (low + 1) nodes) : Block low (node :: nodes) := by
  refine ⟨?_, ?_, ?_⟩
  · intro place other found
    cases place with
    | zero =>
      simp only [List.getElem?_cons_zero, Option.some.injEq] at found
      rw [← found, placed, Nat.add_zero]
    | succ place =>
      rw [List.getElem?_cons_succ] at found
      have behind := below.placed place other found
      omega
  · intro other member child down
    rw [List.length_cons]
    cases member with
    | head =>
      have inside := children child down
      omega
    | tail _ later =>
      have inside := below.inside other later child down
      omega
  · intro other member
    cases member with
    | head => exact fits
    | tail _ later => exact below.arity other later

theorem to_nat_small (number : Nat) (small : number < UInt32.size) :
    (UInt32.ofNat number).toNat = number :=
  UInt32.toNat_ofNat_of_lt' small

theorem block_scalar (kind : TypeKind) (next : Nat) (small : next + 1 ≤ UInt32.size)
    (simple : kind.isCompound = false) : Block next [⟨UInt32.ofNat next, kind, [], []⟩] := by
  refine block_cons (to_nat_small next (by omega)) (by simp) ?_ (block_nil _)
  cases kind <;> first | rfl | cases simple

theorem length_flatten (type : DataType) (next : Nat) : 0 < (flatten next type).length := by
  cases type <;> simp [flatten]

theorem count_flatten_fields (fields : List (String × DataType)) (next : Nat) :
    (flattenFields next fields).1.length = fields.length := by
  induction fields generalizing next with
  | nil => rfl
  | cons field rest ih =>
    simp only [flattenFields, List.length_cons, ih]

theorem length_le_flatten_fields (fields : List (String × DataType)) (next : Nat) :
    fields.length ≤ (flattenFields next fields).2.length := by
  induction fields generalizing next with
  | nil => exact Nat.zero_le _
  | cons field rest ih =>
    obtain ⟨name, type⟩ := field
    have positive := length_flatten type next
    have others := ih (next + (flatten next type).length)
    simp only [flattenFields, List.length_cons, List.length_append]
    omega

-- The recursion is that of flattening. A block is small enough when its last id is a 32-bit word.
mutual

theorem flatten_block (type : DataType) (next : Nat)
    (small : next + (flatten next type).length ≤ UInt32.size) : Block next (flatten next type) := by
  match type with
  | .list item =>
    simp only [flatten, List.length_cons] at small ⊢
    have positive := length_flatten item (next + 1)
    refine block_cons (to_nat_small next (by omega)) ?_ rfl (flatten_block item (next + 1) (by omega))
    intro child member
    rw [List.mem_singleton.mp member, to_nat_small (next + 1) (by omega)]
    omega
  | .map key value =>
    simp only [flatten, List.length_cons, List.length_append] at small ⊢
    have keyPositive := length_flatten key (next + 1)
    have valuePositive := length_flatten value (next + 1 + (flatten (next + 1) key).length)
    refine block_cons (to_nat_small next (by omega)) ?_ rfl
      (block_append (flatten_block key (next + 1) (by omega)) (flatten_block value _ (by omega)))
    intro child member
    rw [List.length_append]
    simp only [List.mem_cons, List.not_mem_nil, or_false] at member
    obtain first | second := member
    · rw [first, to_nat_small (next + 1) (by omega)]
      omega
    · rw [second, to_nat_small (next + 1 + (flatten (next + 1) key).length) (by omega)]
      omega
  | .struct fields =>
    simp only [flatten, List.length_cons] at small ⊢
    have members := flatten_fields_block fields (next + 1) (by omega)
    refine block_cons (to_nat_small next (by omega)) ?_ ?_ members.1
    · intro child member
      have inside := members.2 child member
      omega
    · simp only [arityFits, count_flatten_fields, List.length_map, BEq.rfl]
  | .boolean | .byte | .short | .int | .long | .float | .double | .string | .binary =>
    exact block_scalar _ next small rfl

theorem flatten_fields_block (fields : List (String × DataType)) (next : Nat)
    (small : next + (flattenFields next fields).2.length ≤ UInt32.size) :
    Block next (flattenFields next fields).2 ∧
      ∀ child ∈ (flattenFields next fields).1,
        next ≤ child.toNat ∧ child.toNat < next + (flattenFields next fields).2.length := by
  match fields with
  | [] => exact ⟨block_nil next, by simp [flattenFields]⟩
  | (_, type) :: rest =>
    simp only [flattenFields, List.length_append] at small ⊢
    have positive := length_flatten type next
    have first := flatten_block type next (by omega)
    have others := flatten_fields_block rest (next + (flatten next type).length) (by omega)
    refine ⟨block_append first others.1, ?_⟩
    intro child member
    cases member with
    | head =>
      rw [to_nat_small next (by omega)]
      omega
    | tail _ later =>
      have inside := others.2 child later
      omega

end

def ownerOf (next : Nat) : List (String × DataType) → Nat → Nat
  | [], _ => 0
  | (_, type) :: rest, id =>
    if id < next + (flatten next type).length then 0
    else ownerOf (next + (flatten next type).length) rest id + 1

theorem owner_of_child (fields : List (String × DataType)) (next place : Nat) (child : UInt32)
    (small : next + (flattenFields next fields).2.length ≤ UInt32.size)
    (found : (flattenFields next fields).1[place]? = some child) :
    ownerOf next fields child.toNat = place := by
  induction fields generalizing next place with
  | nil => simp [flattenFields] at found
  | cons field rest ih =>
    obtain ⟨name, type⟩ := field
    simp only [flattenFields, List.length_append] at small found
    have positive := length_flatten type next
    cases place with
    | zero =>
      simp only [List.getElem?_cons_zero, Option.some.injEq] at found
      rw [← found, to_nat_small next (by omega), ownerOf, if_pos (by omega)]
    | succ place =>
      rw [List.getElem?_cons_succ] at found
      have others := flatten_fields_block rest (next + (flatten next type).length) (by omega)
      have inside := others.2 child (List.mem_of_getElem? found)
      rw [ownerOf, if_neg (by omega), ih (next + (flatten next type).length) place (by omega) found]

theorem owner_of_below (fields : List (String × DataType)) (next : Nat) (node : TypeNode)
    (child : UInt32) (small : next + (flattenFields next fields).2.length ≤ UInt32.size)
    (member : node ∈ (flattenFields next fields).2) (below : child ∈ node.children) :
    ownerOf next fields child.toNat = ownerOf next fields node.id.toNat := by
  induction fields generalizing next with
  | nil => simp [flattenFields] at member
  | cons field rest ih =>
    obtain ⟨name, type⟩ := field
    simp only [flattenFields, List.length_append] at small member
    have first := flatten_block type next (by omega)
    have others := flatten_fields_block rest (next + (flatten next type).length) (by omega)
    cases List.mem_append.mp member with
    | inl early =>
      have inside := first.inside node early child below
      have here := first.id_inside node early
      rw [ownerOf, ownerOf, if_pos (by omega), if_pos (by omega)]
    | inr late =>
      have inside := others.1.inside node late child below
      have here := others.1.id_inside node late
      rw [ownerOf, ownerOf, if_neg (by omega), if_neg (by omega),
        ih (next + (flatten next type).length) (by omega) late]

end TypeNode

namespace TypeTree

theorem nodes_of_fields (fields : List Field) :
    (ofFields fields).nodes =
      ⟨0, .struct, (TypeNode.flattenFields 1 fields).1, fields.map (·.1)⟩ ::
        (TypeNode.flattenFields 1 fields).2 := by
  simp only [ofFields, TypeNode.flatten]
  rfl

theorem columns_of_fields (fields : List Field) :
    (ofFields fields).columns = (TypeNode.flattenFields 1 fields).1 :=
  columns_of_root _ _ (nodes_of_fields fields)

theorem length_columns_of_fields (fields : List Field) :
    (ofFields fields).columns.length = fields.length := by
  rw [columns_of_fields, TypeNode.count_flatten_fields]

theorem numbered_of_fields (fields : List Field)
    (small : (ofFields fields).nodes.length ≤ UInt32.size) : (ofFields fields).Numbered := by
  have block := TypeNode.flatten_block (.struct fields) 0 (by
    rw [Nat.zero_add]
    exact small)
  refine ⟨⟨_, _, nodes_of_fields fields, rfl⟩, ?_, ?_, block.arity⟩
  · intro place node found
    have placed := block.placed place node found
    omega
  · intro node member child below
    have inside := block.inside node member child below
    rw [Nat.zero_add] at inside
    exact inside

theorem fields_small (fields : List Field) (small : (ofFields fields).nodes.length ≤ UInt32.size) :
    fields.length ≤ UInt32.size := by
  rw [nodes_of_fields, List.length_cons] at small
  have members := TypeNode.length_le_flatten_fields fields 1
  omega

theorem nodes_small (tree : TypeTree) (numbered : tree.Numbered) : tree.nodes.length ≤ UInt32.size := by
  obtain ⟨root, rest, nodes, _⟩ := numbered.rooted
  have filled : 0 < tree.nodes.length := by simp [nodes]
  have inside : tree.nodes.length - 1 < tree.nodes.length := by omega
  have last := List.getElem?_eq_getElem inside
  have placed := numbered.placed _ _ last
  have word := tree.nodes[tree.nodes.length - 1].id.toNat_lt
  rw [UInt32.size]
  omega

end TypeTree

end Columnar
