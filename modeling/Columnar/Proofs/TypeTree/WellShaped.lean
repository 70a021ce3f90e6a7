import Columnar.Proofs.TypeTree.Walk
import Mathlib.Data.List.Nodup

/-!
Well-shaped trees: the node lists that flattened schemas are. The checks of a tree look at one node
at a time, so they also let through nodes with several parents or none, in another order, or with
names that mean nothing.
-/

set_option autoImplicit false

namespace Columnar

namespace TypeTree

structure WellShaped (tree : TypeTree) : Prop where
  once : ∀ node ∈ tree.nodes, node.id ≠ 0 → (tree.nodes.flatMap (·.children)).count node.id = 1
  reached : ∀ node ∈ tree.nodes, tree.Reaches 0 node.id
  ordered : tree.preorder = tree.nodes.map (·.id)
  named : ∀ node ∈ tree.nodes, node.kind ≠ .struct → node.fieldNames = []

section

variable {tree : TypeTree}

theorem node_at_id (numbered : tree.Numbered) (node : TypeNode) (member : node ∈ tree.nodes) :
    tree.nodes[node.id.toNat]? = some node := by
  obtain ⟨place, found⟩ := List.getElem?_of_mem member
  rw [numbered.placed place node found]
  exact found

theorem root_inside (numbered : tree.Numbered) : (0 : UInt32).toNat < tree.nodes.length := by
  obtain ⟨root, rest, nodes, _⟩ := numbered.rooted
  simp [nodes]

theorem ids_nodup (numbered : tree.Numbered) : (tree.nodes.map (·.id)).Nodup := by
  have places : (tree.nodes.map (·.id)).map UInt32.toNat = List.range tree.nodes.length := by
    apply List.ext_getElem
    · simp
    · intro place inside _
      simp only [List.length_map] at inside
      simpa using numbered.placed place _ (List.getElem?_eq_getElem inside)
  apply List.Nodup.of_map UInt32.toNat
  rw [places]
  exact List.nodup_range

theorem children_in_order (numbered : tree.Numbered) :
    (tree.nodes.map (·.id)).flatMap (Inclusion.childrenOf tree) =
      tree.nodes.flatMap (·.children) := by
  rw [List.flatMap_map]
  apply List.flatMap_congr
  intro node member
  exact children_of_node node.id node (node_at_id numbered node member)

theorem well_shaped_of_preorder (numbered : tree.Numbered)
    (ordered : tree.preorder = tree.nodes.map (·.id))
    (named : ∀ node ∈ tree.nodes, node.kind ≠ .struct → node.fieldNames = []) :
    tree.WellShaped := by
  have inside := root_inside numbered
  have deep : tree.nodes.length ≤ (0 : UInt32).toNat + tree.nodes.length := by omega
  refine ⟨?_, ?_, ordered, named⟩
  · intro node member below
    have parts := walk_perm_children numbered _ 0 inside deep
    rw [preorder] at ordered
    rw [ordered, children_in_order numbered] at parts
    have met := parts.count_eq node.id
    rw [List.count_eq_one_of_mem (ids_nodup numbered) (List.mem_map_of_mem member),
      List.count_cons_of_ne (Ne.symm below)] at met
    exact met.symm
  · intro node member
    rw [← mem_walk_iff numbered _ 0 node.id inside deep]
    rw [preorder] at ordered
    rw [ordered]
    exact List.mem_map_of_mem member

end

end TypeTree

namespace TypeNode

mutual

theorem flatten_named (type : DataType) (next : Nat) (node : TypeNode)
    (member : node ∈ flatten next type) (other : node.kind ≠ .struct) : node.fieldNames = [] := by
  match type with
  | .list item =>
    simp only [flatten, List.mem_cons] at member
    obtain first | below := member
    · rw [first]
    · exact flatten_named item (next + 1) node below other
  | .map key value =>
    simp only [flatten, List.mem_cons, List.mem_append] at member
    obtain first | keys | values := member
    · rw [first]
    · exact flatten_named key (next + 1) node keys other
    · exact flatten_named value _ node values other
  | .struct fields =>
    simp only [flatten, List.mem_cons] at member
    obtain first | below := member
    · rw [first] at other
      exact absurd rfl other
    · exact flatten_fields_named fields (next + 1) node below other
  | .boolean | .byte | .short | .int | .long | .float | .double | .string | .binary =>
    rw [List.mem_singleton.mp member]

theorem flatten_fields_named (fields : List (String × DataType)) (next : Nat) (node : TypeNode)
    (member : node ∈ (flattenFields next fields).2) (other : node.kind ≠ .struct) :
    node.fieldNames = [] := by
  match fields with
  | [] => cases member
  | (_, type) :: rest =>
    simp only [flattenFields, List.mem_append] at member
    cases member with
    | inl early => exact flatten_named type next node early other
    | inr late => exact flatten_fields_named rest (next + (flatten next type).length) node late other

end

end TypeNode

def DataType.assemble : TypeKind → List String → List DataType → DataType
  | .list, _, [item] => .list item
  | .map, _, [key, value] => .map key value
  | .struct, names, types => .struct (names.zip types)
  | .byte, _, _ => .byte
  | .short, _, _ => .short
  | .int, _, _ => .int
  | .long, _, _ => .long
  | .float, _, _ => .float
  | .double, _, _ => .double
  | .string, _, _ => .string
  | .binary, _, _ => .binary
  | _, _, _ => .boolean

theorem TypeNode.assemble_fits (node : TypeNode) (fits : node.arityFits = true)
    (named : node.kind ≠ .struct → node.fieldNames = []) (types : List DataType)
    (count : types.length = node.children.length) :
    let type := DataType.assemble node.kind node.fieldNames types
    type.kind = node.kind ∧ type.memberNames = node.fieldNames ∧ type.members.map (·.2) = types := by
  obtain ⟨id, kind, children, names⟩ := node
  simp only [arityFits] at fits named count ⊢
  cases kind with
  | list =>
    obtain ⟨item, rfl⟩ := List.length_eq_one_iff.mp (count.trans (by simpa using fits))
    exact ⟨rfl, (named (by decide)).symm, rfl⟩
  | map =>
    obtain ⟨key, value, rfl⟩ := List.length_eq_two.mp (count.trans (by simpa using fits))
    exact ⟨rfl, (named (by decide)).symm, rfl⟩
  | struct =>
    have same : names.length = types.length := by
      rw [count]
      simpa using Eq.symm (by simpa using fits)
    refine ⟨rfl, ?_, ?_⟩
    · exact List.map_fst_zip (by omega)
    · exact List.map_snd_zip (by omega)
  | _ =>
    have typeless : types = [] := List.length_eq_zero_iff.mp (count.trans (by simpa using fits))
    subst typeless
    exact ⟨rfl, (named (by decide)).symm, rfl⟩

theorem TypeNode.length_ids_from (next count : Nat) : (idsFrom next count).length = count := by
  simp [idsFrom]

theorem TypeNode.ids_from_split (first second : List UInt32) (next count : Nat)
    (same : first ++ second = idsFrom next count) :
    first = idsFrom next first.length ∧ second = idsFrom (next + first.length) second.length ∧
      first.length + second.length = count := by
  have lengths := congrArg List.length same
  rw [List.length_append, length_ids_from] at lengths
  rw [← lengths, ids_from_append] at same
  obtain ⟨left, right⟩ := List.append_inj same (length_ids_from _ _).symm
  exact ⟨left, right, lengths⟩

namespace TypeTree

open TypeNode (flatten flattenFields idsFrom to_nat_small)

def typeAt (tree : TypeTree) : Nat → UInt32 → DataType
  | 0, _ => .boolean
  | fuel + 1, id =>
    match tree.get? id with
    | none => .boolean
    | some node => .assemble node.kind node.fieldNames (node.children.map (tree.typeAt fuel))

section

variable {tree : TypeTree}

theorem rebuild_members (numbered : tree.Numbered) (fuel : Nat) (children : List UInt32)
    (next count : Nat) (inside : next + count ≤ tree.nodes.length)
    (deep : ∀ child ∈ children, child.toNat < tree.nodes.length ∧
      tree.nodes.length ≤ child.toNat + fuel)
    (rebuilt : ∀ child ∈ children, ∀ size, child.toNat + size ≤ tree.nodes.length →
      tree.walk fuel child = idsFrom child.toNat size →
      tree.Holds child.toNat (flatten child.toNat (tree.typeAt fuel child)) ∧
        (flatten child.toNat (tree.typeAt fuel child)).length = size)
    (walks : children.flatMap (tree.walk fuel) = idsFrom next count) :
    let members := children.map fun child => ("", tree.typeAt fuel child)
    (flattenFields next members).1 = children ∧ tree.Holds next (flattenFields next members).2 ∧
      (flattenFields next members).2.length = count := by
  have small := nodes_small tree numbered
  induction children generalizing next count with
  | nil =>
    have counted := congrArg List.length walks
    rw [TypeNode.length_ids_from] at counted
    refine ⟨rfl, ?_, counted⟩
    intro place node found
    cases found
  | cons child children ih =>
    rw [List.flatMap_cons] at walks
    obtain ⟨first, others, counted⟩ := TypeNode.ids_from_split _ _ next count walks
    have near := deep child (by simp)
    -- The walk from the child starts with it, so the child is the next id.
    obtain ⟨more, size⟩ : ∃ more, (tree.walk fuel child).length = more + 1 := by
      cases fuel with
      | zero => omega
      | succ fuel => exact ⟨_, by rw [walk, List.length_cons]⟩
    have here : child.toNat = next := by
      cases fuel with
      | zero => omega
      | succ fuel =>
        rw [size, TypeNode.ids_from_succ, walk, List.cons.injEq] at first
        rw [first.1, to_nat_small next (by omega)]
    rw [← here] at first inside others ⊢
    obtain ⟨held, length⟩ := rebuilt child (by simp) _ (by omega) first
    obtain ⟨left, below, total⟩ := ih _ _ (by omega)
      (fun other member => deep other (by simp [member]))
      (fun other member => rebuilt other (by simp [member])) others
    simp only [List.map_cons, flattenFields, length, holds_append_iff, List.length_append, left,
      UInt32.ofNat_toNat]
    exact ⟨trivial, ⟨held, below⟩, by omega⟩

-- The induction is on the fuel, which lasts to the end of the tree.
theorem rebuild (numbered : tree.Numbered)
    (named : ∀ node ∈ tree.nodes, node.kind ≠ .struct → node.fieldNames = []) (fuel : Nat)
    (id : UInt32) (count : Nat) (inside : id.toNat < tree.nodes.length)
    (deep : tree.nodes.length ≤ id.toNat + fuel) (fits : id.toNat + count ≤ tree.nodes.length)
    (walks : tree.walk fuel id = idsFrom id.toNat count) :
    tree.Holds id.toNat (flatten id.toNat (tree.typeAt fuel id)) ∧
      (flatten id.toNat (tree.typeAt fuel id)).length = count := by
  induction fuel generalizing id count with
  | zero => omega
  | succ fuel ih =>
    have here := List.getElem?_eq_getElem inside
    generalize tree.nodes[id.toNat] = node at here
    have member := List.mem_of_getElem? here
    have placed := numbered.placed _ _ here
    have below := numbered.inside node member
    rw [walk, children_of_node id node here] at walks
    obtain ⟨others, rfl⟩ : ∃ others, count = others + 1 := by
      have length := congrArg List.length walks
      rw [TypeNode.length_ids_from, List.length_cons] at length
      exact ⟨_, length.symm⟩
    rw [TypeNode.ids_from_succ, List.cons.injEq] at walks
    obtain ⟨left, held, length⟩ := rebuild_members numbered fuel node.children (id.toNat + 1) others
      (by omega) (fun child down => by have behind := below child down; omega)
      (fun child down size within met => by
        have behind := below child down
        exact ih child size behind.2 (by omega) within met) walks.2
    have type : tree.typeAt (fuel + 1) id =
        .assemble node.kind node.fieldNames (node.children.map (tree.typeAt fuel)) := by
      simp only [typeAt, get?, here]
    obtain ⟨kind, names, types⟩ := node.assemble_fits (numbered.arity node member)
      (named node member) (node.children.map (tree.typeAt fuel)) (by simp)
    have parts := TypeNode.flatten_fields_of_types _
      (node.children.map fun child => ("", tree.typeAt fuel child)) (id.toNat + 1)
      (types.trans (by rw [List.map_map]; rfl))
    rw [type, TypeNode.flatten_members, kind, names, parts, left, holds_cons_iff, List.length_cons,
      length]
    refine ⟨⟨?_, held⟩, rfl⟩
    rw [here, ← placed, UInt32.ofNat_toNat]

theorem fields_of_well_shaped (numbered : tree.Numbered) (shaped : tree.WellShaped) :
    ∃ fields, ofFields fields = tree := by
  have inside := root_inside numbered
  have walks := shaped.ordered
  rw [preorder, ids_of_numbered tree numbered] at walks
  obtain ⟨held, length⟩ := rebuild numbered shaped.named tree.nodes.length 0 tree.nodes.length inside
    (by omega) (by simp) walks
  obtain ⟨root, rest, nodes, isStruct⟩ := numbered.rooted
  have type : ∃ fields, tree.typeAt tree.nodes.length 0 = .struct fields := by
    rw [nodes, List.length_cons, typeAt]
    simp only [get?, nodes, UInt32.toNat_zero, List.getElem?_cons_zero, isStruct, DataType.assemble]
    exact ⟨_, rfl⟩
  obtain ⟨fields, isFields⟩ := type
  rw [isFields] at held length
  refine ⟨fields, ?_⟩
  rw [ofFields]
  congr 1
  apply List.ext_getElem?
  intro place
  by_cases early : place < (flatten 0 (.struct fields)).length
  · have found := held place _ (List.getElem?_eq_getElem early)
    rw [UInt32.toNat_zero, Nat.zero_add] at found
    rw [found, List.getElem?_eq_getElem early]
  · rw [List.getElem?_eq_none (by omega), List.getElem?_eq_none (by
      rw [UInt32.toNat_zero] at length
      omega)]

end

theorem well_shaped_of_fields (fields : List Field)
    (small : (ofFields fields).nodes.length ≤ UInt32.size) : (ofFields fields).WellShaped :=
  well_shaped_of_preorder (numbered_of_fields fields small) (preorder_of_fields fields small)
    fun node member => TypeNode.flatten_named (.struct fields) 0 node member

theorem of_nodes_accepts_iff (nodes : List TypeNode) :
    ofNodes nodes = .ok ⟨nodes⟩ ↔ (⟨nodes⟩ : TypeTree).Numbered := by
  rw [← valid_iff_numbered, Valid, ofNodes]
  cases check ⟨nodes⟩ with
  | error fault => simp
  | ok _ => simp

end TypeTree

-- The checks of a node list ask for all that a schema's tree is, but for the order of the walk and
-- for names without members.
theorem schemas_are_the_well_shaped_trees (nodes : List TypeNode) :
    let tree : TypeTree := ⟨nodes⟩
    let accepted := TypeTree.ofNodes nodes = .ok tree
    let flattened := nodes.length ≤ UInt32.size ∧ ∃ fields, TypeTree.ofFields fields = tree
    (accepted ↔ tree.Numbered) ∧
      (accepted ∧ tree.WellShaped ↔ flattened) ∧
      (accepted ∧ tree.preorder = nodes.map (·.id) ∧
        (∀ node ∈ nodes, node.kind ≠ .struct → node.fieldNames = []) ↔ flattened) := by
  intro tree accepted flattened
  have accepts : accepted ↔ tree.Numbered := TypeTree.of_nodes_accepts_iff nodes
  have schema : flattened → accepted ∧ tree.WellShaped := by
    rintro ⟨small, fields, same⟩
    have sized : (TypeTree.ofFields fields).nodes.length ≤ UInt32.size := by
      rw [same]
      exact small
    have numbered := TypeTree.numbered_of_fields fields sized
    have shaped := TypeTree.well_shaped_of_fields fields sized
    rw [same] at numbered shaped
    exact ⟨accepts.mpr numbered, shaped⟩
  have rebuilt : accepted ∧ tree.WellShaped → flattened := by
    rintro ⟨accept, shaped⟩
    have numbered := accepts.mp accept
    exact ⟨TypeTree.nodes_small tree numbered, TypeTree.fields_of_well_shaped numbered shaped⟩
  refine ⟨accepts, ⟨rebuilt, schema⟩, ?_, ?_⟩
  · rintro ⟨accept, ordered, named⟩
    exact rebuilt ⟨accept, TypeTree.well_shaped_of_preorder (accepts.mp accept) ordered named⟩
  · intro flat
    obtain ⟨accept, shaped⟩ := schema flat
    exact ⟨accept, shaped.ordered, shaped.named⟩

namespace Example

def sharedNodes : List TypeNode :=
  [⟨0, .struct, [1, 2], ["a", "b"]⟩, ⟨1, .list, [3], []⟩, ⟨2, .list, [3], []⟩, ⟨3, .int, [], []⟩]

end Example

theorem shared_child_is_accepted :
    TypeTree.ofNodes Example.sharedNodes = .ok ⟨Example.sharedNodes⟩ ∧
      (Example.sharedNodes.flatMap (·.children)).count 3 = 2 ∧
      ¬ (⟨Example.sharedNodes⟩ : TypeTree).WellShaped ∧
      ¬ ∃ fields, TypeTree.ofFields fields = ⟨Example.sharedNodes⟩ := by
  have twice : (Example.sharedNodes.flatMap (·.children)).count 3 = 2 := by decide
  have misshaped : ¬ (⟨Example.sharedNodes⟩ : TypeTree).WellShaped := by
    intro shaped
    have once := shaped.once ⟨3, .int, [], []⟩ (by decide) (by decide)
    rw [twice] at once
    cases once
  refine ⟨rfl, twice, misshaped, ?_⟩
  rintro ⟨fields, same⟩
  have shaped := TypeTree.well_shaped_of_fields fields (by rw [same]; decide)
  rw [same] at shaped
  exact misshaped shaped

end Columnar
