import Columnar.Inclusion
import Columnar.Proofs.TypeTree.Flattened
import Mathlib.Data.List.Perm.Basic
import Mathlib.Logic.Relation

set_option autoImplicit false

namespace Columnar

namespace TypeTree

open Inclusion (childrenOf)

def Reaches (tree : TypeTree) : UInt32 → UInt32 → Prop :=
  Relation.ReflTransGen fun parent child => child ∈ childrenOf tree parent

-- The ids that a walk from a node meets. A path down a valid tree is no longer than the tree, which
-- is what `fuel` counts.
def walk (tree : TypeTree) : Nat → UInt32 → List UInt32
  | 0, _ => []
  | fuel + 1, id => id :: (childrenOf tree id).flatMap (tree.walk fuel)

section

variable {tree : TypeTree}

theorem children_of_node (id : UInt32) (node : TypeNode) (here : tree.nodes[id.toNat]? = some node) :
    childrenOf tree id = node.children := by
  simp only [childrenOf, get?, here, Option.map_some, Option.getD_some]

theorem child_inside (numbered : tree.Numbered) (id child : UInt32)
    (member : child ∈ childrenOf tree id) :
    id.toNat < child.toNat ∧ child.toNat < tree.nodes.length := by
  cases here : tree.nodes[id.toNat]? with
  | none => simp [childrenOf, get?, here] at member
  | some node =>
    rw [children_of_node id node here] at member
    have placed := numbered.placed id.toNat node here
    have inside := numbered.inside node (List.mem_of_getElem? here) child member
    omega

-- Children have greater ids, so fuel for the ids behind a node lasts for all that is below it.
theorem mem_walk_iff (numbered : tree.Numbered) (fuel : Nat) (id other : UInt32)
    (inside : id.toNat < tree.nodes.length) (deep : tree.nodes.length ≤ id.toNat + fuel) :
    other ∈ tree.walk fuel id ↔ tree.Reaches id other := by
  induction fuel generalizing id with
  | zero => omega
  | succ fuel ih =>
    rw [walk, List.mem_cons, List.mem_flatMap, Reaches, Relation.ReflTransGen.cases_head_iff]
    have below (child : UInt32) (member : child ∈ childrenOf tree id) :
        other ∈ tree.walk fuel child ↔ tree.Reaches child other := by
      have behind := child_inside numbered id child member
      exact ih child behind.2 (by omega)
    constructor
    · rintro (same | ⟨child, member, met⟩)
      · exact .inl same.symm
      · exact .inr ⟨child, member, (below child member).mp met⟩
    · rintro (same | ⟨child, member, reached⟩)
      · exact .inl same.symm
      · exact .inr ⟨child, member, (below child member).mpr reached⟩

theorem walk_perm_children (numbered : tree.Numbered) (fuel : Nat) (id : UInt32)
    (inside : id.toNat < tree.nodes.length) (deep : tree.nodes.length ≤ id.toNat + fuel) :
    (tree.walk fuel id).Perm (id :: (tree.walk fuel id).flatMap (childrenOf tree)) := by
  induction fuel generalizing id with
  | zero => omega
  | succ fuel ih =>
    rw [walk, List.flatMap_cons, List.flatMap_assoc]
    refine .cons id ?_
    have below : ∀ child ∈ childrenOf tree id,
        (tree.walk fuel child).Perm
          ([child] ++ (tree.walk fuel child).flatMap (childrenOf tree)) := by
      intro child member
      have behind := child_inside numbered id child member
      exact ih child behind.2 (by omega)
    have parts := List.Perm.flatMap_left (childrenOf tree id) below
    have split := (List.flatMap_append_perm (childrenOf tree id) (fun child => [child])
      fun child => (tree.walk fuel child).flatMap (childrenOf tree)).symm
    rw [List.flatMap_singleton'] at split
    exact parts.trans split

end

end TypeTree

namespace TypeNode

def idsFrom (next count : Nat) : List UInt32 := (List.range' next count).map UInt32.ofNat

theorem ids_from_succ (next count : Nat) :
    idsFrom next (count + 1) = UInt32.ofNat next :: idsFrom (next + 1) count := by
  simp only [idsFrom, List.range'_succ, List.map_cons]

theorem ids_from_append (next first second : Nat) :
    idsFrom next (first + second) = idsFrom next first ++ idsFrom (next + first) second := by
  simp only [idsFrom, ← List.range'_append_1, List.map_append]

theorem mem_ids_from (next count : Nat) (id : UInt32) (small : next + count ≤ UInt32.size) :
    id ∈ idsFrom next count ↔ next ≤ id.toNat ∧ id.toNat < next + count := by
  simp only [idsFrom, List.mem_map, List.mem_range'_1]
  constructor
  · rintro ⟨number, inside, same⟩
    rw [← same, to_nat_small number (by omega)]
    exact inside
  · intro inside
    exact ⟨id.toNat, inside, UInt32.ofNat_toNat⟩

end TypeNode

def DataType.members : DataType → List (String × DataType)
  | .list item => [("", item)]
  | .map key value => [("", key), ("", value)]
  | .struct fields => fields
  | _ => []

def DataType.memberNames : DataType → List String
  | .struct fields => fields.map (·.1)
  | _ => []

namespace TypeNode

theorem flatten_members (type : DataType) (next : Nat) :
    flatten next type =
      ⟨UInt32.ofNat next, type.kind, (flattenFields (next + 1) type.members).1, type.memberNames⟩ ::
        (flattenFields (next + 1) type.members).2 := by
  cases type <;>
    simp only [flatten, flattenFields, DataType.members, DataType.memberNames, DataType.kind,
      List.append_nil]

theorem flatten_fields_of_types (fields others : List (String × DataType)) (next : Nat)
    (same : fields.map (·.2) = others.map (·.2)) :
    flattenFields next fields = flattenFields next others := by
  induction fields generalizing others next with
  | nil =>
    cases others with
    | nil => rfl
    | cons other others => cases same
  | cons field fields ih =>
    cases others with
    | nil => cases same
    | cons other others =>
      obtain ⟨name, type⟩ := field
      obtain ⟨otherName, otherType⟩ := other
      simp only [List.map_cons, List.cons.injEq] at same
      simp only [flattenFields, same.1, ih others _ same.2]

end TypeNode

namespace TypeTree

open Inclusion (childrenOf)

def Holds (tree : TypeTree) (next : Nat) (nodes : List TypeNode) : Prop :=
  ∀ (place : Nat) (node : TypeNode), nodes[place]? = some node → tree.nodes[next + place]? = some node

section

variable {tree : TypeTree}

theorem holds_all (tree : TypeTree) : tree.Holds 0 tree.nodes := by
  intro place node found
  rw [Nat.zero_add]
  exact found

theorem holds_cons_iff (next : Nat) (node : TypeNode) (nodes : List TypeNode) :
    tree.Holds next (node :: nodes) ↔
      tree.nodes[next]? = some node ∧ tree.Holds (next + 1) nodes := by
  constructor
  · intro held
    refine ⟨held 0 node rfl, ?_⟩
    intro place other found
    have behind := held (place + 1) other (by rw [List.getElem?_cons_succ, found])
    rw [show next + 1 + place = next + (place + 1) by omega]
    exact behind
  · rintro ⟨first, held⟩ place other found
    cases place with
    | zero =>
      rw [← found]
      exact first
    | succ place =>
      rw [List.getElem?_cons_succ] at found
      have behind := held place other found
      rw [show next + (place + 1) = next + 1 + place by omega]
      exact behind

theorem holds_append_iff (next : Nat) (first second : List TypeNode) :
    tree.Holds next (first ++ second) ↔
      tree.Holds next first ∧ tree.Holds (next + first.length) second := by
  induction first generalizing next with
  | nil =>
    simp only [List.nil_append, List.length_nil, Nat.add_zero, iff_and_self]
    intro _ place node found
    cases found
  | cons node first ih =>
    rw [List.cons_append, holds_cons_iff, holds_cons_iff, ih, List.length_cons,
      show next + 1 + first.length = next + (first.length + 1) by omega, and_assoc]

theorem walk_members (fuel : Nat) (fields : List (String × DataType)) (next : Nat)
    (walks : ∀ (type : DataType) (place : Nat), tree.Holds place (TypeNode.flatten place type) →
      place + (TypeNode.flatten place type).length ≤ UInt32.size →
      (TypeNode.flatten place type).length ≤ fuel →
      tree.walk fuel (UInt32.ofNat place) =
        TypeNode.idsFrom place (TypeNode.flatten place type).length)
    (held : tree.Holds next (TypeNode.flattenFields next fields).2)
    (small : next + (TypeNode.flattenFields next fields).2.length ≤ UInt32.size)
    (deep : (TypeNode.flattenFields next fields).2.length ≤ fuel) :
    (TypeNode.flattenFields next fields).1.flatMap (tree.walk fuel) =
      TypeNode.idsFrom next (TypeNode.flattenFields next fields).2.length := by
  induction fields generalizing next with
  | nil => rfl
  | cons field rest ih =>
    obtain ⟨name, type⟩ := field
    simp only [TypeNode.flattenFields, List.length_append, holds_append_iff] at held small deep ⊢
    rw [List.flatMap_cons, walks type next held.1 (by omega) (by omega),
      ih _ held.2 (by omega) (by omega), TypeNode.ids_from_append]

-- The induction is on the fuel, which is no less than the nodes of the type.
theorem walk_flatten (fuel : Nat) (type : DataType) (next : Nat)
    (held : tree.Holds next (TypeNode.flatten next type))
    (small : next + (TypeNode.flatten next type).length ≤ UInt32.size)
    (deep : (TypeNode.flatten next type).length ≤ fuel) :
    tree.walk fuel (UInt32.ofNat next) =
      TypeNode.idsFrom next (TypeNode.flatten next type).length := by
  induction fuel generalizing type next with
  | zero =>
    have positive := TypeNode.length_flatten type next
    omega
  | succ fuel ih =>
    rw [TypeNode.flatten_members, List.length_cons] at small deep ⊢
    rw [TypeNode.flatten_members, holds_cons_iff] at held
    have here : tree.nodes[(UInt32.ofNat next).toNat]? =
        some ⟨UInt32.ofNat next, type.kind, (TypeNode.flattenFields (next + 1) type.members).1,
          type.memberNames⟩ := by
      rw [TypeNode.to_nat_small next (by omega)]
      exact held.1
    rw [walk, children_of_node _ _ here, TypeNode.ids_from_succ,
      walk_members fuel type.members (next + 1) ih held.2 (by omega) (by omega)]

end

def preorder (tree : TypeTree) : List UInt32 := tree.walk tree.nodes.length 0

theorem ids_of_numbered (tree : TypeTree) (numbered : tree.Numbered) :
    tree.nodes.map (·.id) = TypeNode.idsFrom 0 tree.nodes.length := by
  apply List.ext_getElem?
  intro place
  simp only [TypeNode.idsFrom, List.getElem?_map]
  by_cases inside : place < tree.nodes.length
  · have here := List.getElem?_eq_getElem inside
    have placed := numbered.placed place _ here
    have same : tree.nodes[place].id = UInt32.ofNat place := by
      rw [← UInt32.ofNat_toNat (x := tree.nodes[place].id), placed]
    rw [here, List.getElem?_range' inside, Option.map_some, Option.map_some, Nat.one_mul, Nat.zero_add,
      same]
  · rw [List.getElem?_eq_none (by omega), List.getElem?_eq_none (by simpa using inside)]
    rfl

theorem preorder_of_fields (fields : List Field)
    (small : (ofFields fields).nodes.length ≤ UInt32.size) :
    (ofFields fields).preorder = (ofFields fields).nodes.map (·.id) := by
  have held : (ofFields fields).Holds 0 (TypeNode.flatten 0 (.struct fields)) := holds_all _
  have walked := walk_flatten (ofFields fields).nodes.length (.struct fields) 0 held
    (by rw [Nat.zero_add]; exact small) (Nat.le_refl _)
  rw [ids_of_numbered _ (numbered_of_fields fields small)]
  exact walked

end TypeTree

end Columnar
