import Columnar.Proofs.TypeTree.Walk

set_option autoImplicit false

namespace Columnar

namespace DataType

mutual

def parts : DataType → List DataType
  | .list item => .list item :: item.parts
  | .map key value => .map key value :: (key.parts ++ value.parts)
  | .struct fields => .struct fields :: partsOfAll fields
  | scalar => [scalar]

def partsOfAll : List (String × DataType) → List DataType
  | [] => []
  | (_, type) :: rest => type.parts ++ partsOfAll rest

end

mutual

def size : DataType → Nat
  | .list item => item.size + 1
  | .map key value => key.size + value.size + 1
  | .struct fields => sizeOfAll fields + 1
  | _ => 1

def sizeOfAll : List (String × DataType) → Nat
  | [] => 0
  | (_, type) :: rest => type.size + sizeOfAll rest

end

def starts (next : Nat) : List (String × DataType) → List Nat
  | [] => []
  | (_, type) :: rest => next :: starts (next + type.size) rest

theorem size_members (type : DataType) : type.size = sizeOfAll type.members + 1 := by
  cases type <;> simp only [size, sizeOfAll, members, Nat.add_zero]

theorem parts_members (type : DataType) : type.parts = type :: partsOfAll type.members := by
  cases type <;> simp only [parts, partsOfAll, members, List.append_nil]

mutual

theorem length_parts (type : DataType) : type.parts.length = type.size := by
  match type with
  | .list item => simp only [parts, size, List.length_cons, length_parts item]
  | .map key value =>
    simp only [parts, size, List.length_cons, List.length_append, length_parts key,
      length_parts value]
  | .struct fields => simp only [parts, size, List.length_cons, length_parts_of_all fields]
  | .boolean | .byte | .short | .int | .long | .float | .double | .string | .binary =>
    simp only [parts, size, List.length_singleton]

theorem length_parts_of_all (fields : List (String × DataType)) :
    (partsOfAll fields).length = sizeOfAll fields := by
  match fields with
  | [] => rfl
  | (_, type) :: rest =>
    simp only [partsOfAll, sizeOfAll, List.length_append, length_parts type,
      length_parts_of_all rest]

end

end DataType

namespace TypeNode

mutual

theorem size_flatten (type : DataType) (next : Nat) : (flatten next type).length = type.size := by
  match type with
  | .list item => simp only [flatten, DataType.size, List.length_cons, size_flatten item]
  | .map key value =>
    simp only [flatten, DataType.size, List.length_cons, List.length_append, size_flatten key,
      size_flatten value]
  | .struct fields => simp only [flatten, DataType.size, List.length_cons, size_flatten_fields fields]
  | .boolean | .byte | .short | .int | .long | .float | .double | .string | .binary =>
    simp only [flatten, DataType.size, List.length_singleton]

theorem size_flatten_fields (fields : List (String × DataType)) (next : Nat) :
    (flattenFields next fields).2.length = DataType.sizeOfAll fields := by
  match fields with
  | [] => rfl
  | (_, type) :: rest =>
    simp only [flattenFields, DataType.sizeOfAll, List.length_append, size_flatten type,
      size_flatten_fields rest]

end

theorem children_start (fields : List (String × DataType)) (next : Nat)
    (small : next + DataType.sizeOfAll fields ≤ UInt32.size) :
    (flattenFields next fields).1.map UInt32.toNat = DataType.starts next fields := by
  induction fields generalizing next with
  | nil => rfl
  | cons field rest ih =>
    obtain ⟨name, type⟩ := field
    have positive := type.size_members
    simp only [DataType.sizeOfAll] at small
    simp only [flattenFields, DataType.starts, List.map_cons, size_flatten,
      to_nat_small next (by omega), ih (next + type.size) (by omega)]

structure StandsFor (node : TypeNode) (place : Nat) (type : DataType) : Prop where
  placed : node.id.toNat = place
  kind : node.kind = type.kind
  named : node.fieldNames = type.memberNames
  children : node.children.map UInt32.toNat = DataType.starts (place + 1) type.members

-- The nodes of a type tell it apart from every other, whatever stands behind them: the kind and the
-- names of a node tell how many members come next.
mutual

theorem flatten_injective (first second : DataType) (next : Nat) (behind others : List TypeNode)
    (same : flatten next first ++ behind = flatten next second ++ others) :
    first = second ∧ behind = others := by
  match first with
  | .list item =>
    cases second with
    | list other =>
      simp only [flatten, List.cons_append, List.cons.injEq, true_and] at same
      obtain ⟨items, rest⟩ := flatten_injective item other (next + 1) behind others same
      exact ⟨by rw [items], rest⟩
    | _ => simp [flatten, DataType.kind] at same
  | .map key value =>
    cases second with
    | map otherKey otherValue =>
      simp only [flatten, List.cons_append, List.append_assoc, List.cons.injEq] at same
      obtain ⟨keys, values⟩ := flatten_injective key otherKey (next + 1) _ _ same.2
      rw [keys] at values
      obtain ⟨contents, rest⟩ := flatten_injective value otherValue _ behind others values
      exact ⟨by rw [keys, contents], rest⟩
    | _ => simp [flatten, DataType.kind] at same
  | .struct fields =>
    cases second with
    | struct otherFields =>
      simp only [flatten, List.cons_append, List.cons.injEq, mk.injEq, true_and] at same
      obtain ⟨members, rest⟩ := flatten_fields_injective fields otherFields (next + 1) behind others
        same.1.2 same.2
      exact ⟨by rw [members], rest⟩
    | _ => simp [flatten, DataType.kind] at same
  | .boolean | .byte | .short | .int | .long | .float | .double | .string | .binary =>
    cases second <;> simp [flatten, DataType.kind] at same
    exact ⟨rfl, same⟩

theorem flatten_fields_injective (first second : List (String × DataType)) (next : Nat)
    (behind others : List TypeNode) (names : first.map (·.1) = second.map (·.1))
    (same : (flattenFields next first).2 ++ behind = (flattenFields next second).2 ++ others) :
    first = second ∧ behind = others := by
  match first, second with
  | [], [] => exact ⟨rfl, same⟩
  | [], _ :: _ => simp at names
  | _ :: _, [] => simp at names
  | (name, type) :: rest, (otherName, otherType) :: otherRest =>
    simp only [List.map_cons, List.cons.injEq] at names
    simp only [flattenFields, List.append_assoc] at same
    obtain ⟨types, members⟩ := flatten_injective type otherType next _ _ same
    rw [types] at members
    obtain ⟨fields, left⟩ := flatten_fields_injective rest otherRest _ behind others names.2 members
    exact ⟨by rw [names.1, types, fields], left⟩

end

end TypeNode

namespace TypeTree

section

variable {tree : TypeTree}

mutual

theorem part_held (type part : DataType) (next place : Nat)
    (held : tree.Holds next (TypeNode.flatten next type)) (found : type.parts[place]? = some part) :
    tree.Holds (next + place) (TypeNode.flatten (next + place) part) ∧
      place + part.size ≤ type.size := by
  cases place with
  | zero =>
    rw [DataType.parts_members, List.getElem?_cons_zero, Option.some.injEq] at found
    rw [← found]
    exact ⟨held, by omega⟩
  | succ place =>
    match type with
    | .list item =>
      simp only [DataType.parts, List.getElem?_cons_succ] at found
      simp only [TypeNode.flatten, holds_cons_iff] at held
      obtain ⟨stands, inside⟩ := part_held item part (next + 1) place held.2 found
      rw [Nat.add_assoc, Nat.add_comm 1 place] at stands
      exact ⟨stands, by simp only [DataType.size]; omega⟩
    | .map key value =>
      simp only [DataType.parts, List.getElem?_cons_succ] at found
      simp only [TypeNode.flatten, holds_cons_iff, holds_append_iff, TypeNode.size_flatten] at held
      simp only [DataType.size]
      by_cases early : place < key.parts.length
      · rw [List.getElem?_append_left early] at found
        obtain ⟨stands, inside⟩ := part_held key part (next + 1) place held.2.1 found
        rw [Nat.add_assoc, Nat.add_comm 1 place] at stands
        exact ⟨stands, by omega⟩
      · rw [List.getElem?_append_right (by omega)] at found
        obtain ⟨stands, inside⟩ := part_held value part _ _ held.2.2 found
        rw [DataType.length_parts] at early stands inside
        rw [show next + 1 + key.size + (place - key.size) = next + (place + 1) by omega] at stands
        exact ⟨stands, by omega⟩
    | .struct fields =>
      simp only [DataType.parts, List.getElem?_cons_succ] at found
      simp only [TypeNode.flatten, holds_cons_iff] at held
      obtain ⟨stands, inside⟩ := part_of_all_held fields part (next + 1) place held.2 found
      rw [Nat.add_assoc, Nat.add_comm 1 place] at stands
      exact ⟨stands, by simp only [DataType.size]; omega⟩
    | .boolean | .byte | .short | .int | .long | .float | .double | .string | .binary =>
      simp [DataType.parts] at found

theorem part_of_all_held (fields : List (String × DataType)) (part : DataType) (next place : Nat)
    (held : tree.Holds next (TypeNode.flattenFields next fields).2)
    (found : (DataType.partsOfAll fields)[place]? = some part) :
    tree.Holds (next + place) (TypeNode.flatten (next + place) part) ∧
      place + part.size ≤ DataType.sizeOfAll fields := by
  match fields with
  | [] => simp [DataType.partsOfAll] at found
  | (_, type) :: rest =>
    simp only [DataType.partsOfAll] at found
    simp only [TypeNode.flattenFields, holds_append_iff, TypeNode.size_flatten] at held
    simp only [DataType.sizeOfAll]
    by_cases early : place < type.parts.length
    · rw [List.getElem?_append_left early] at found
      obtain ⟨stands, inside⟩ := part_held type part next place held.1 found
      exact ⟨stands, by omega⟩
    · rw [List.getElem?_append_right (by omega)] at found
      obtain ⟨stands, inside⟩ := part_of_all_held rest part _ _ held.2 found
      rw [DataType.length_parts] at early stands inside
      rw [show next + type.size + (place - type.size) = next + place by omega] at stands
      exact ⟨stands, by omega⟩

end

theorem node_of_part (part : DataType) (place : Nat)
    (held : tree.Holds place (TypeNode.flatten place part))
    (small : place + part.size ≤ UInt32.size) (node : TypeNode)
    (here : tree.nodes[place]? = some node) : node.StandsFor place part := by
  have positive := part.size_members
  rw [TypeNode.flatten_members, holds_cons_iff, here, Option.some.injEq] at held
  rw [held.1]
  exact ⟨TypeNode.to_nat_small place (by omega), rfl, rfl,
    TypeNode.children_start part.members (place + 1) (by omega)⟩

theorem part_reaches_iff (numbered : tree.Numbered) (part : DataType) (place : Nat)
    (held : tree.Holds place (TypeNode.flatten place part))
    (inside : place + part.size ≤ tree.nodes.length) (id : UInt32) :
    tree.Reaches (UInt32.ofNat place) id ↔ place ≤ id.toNat ∧ id.toNat < place + part.size := by
  have small := nodes_small tree numbered
  have positive := part.size_members
  have number := TypeNode.to_nat_small place (by omega)
  have walks := walk_flatten tree.nodes.length part place held
    (by rw [TypeNode.size_flatten]; omega) (by rw [TypeNode.size_flatten]; omega)
  rw [← mem_walk_iff numbered tree.nodes.length _ id (by omega) (by omega), walks,
    TypeNode.size_flatten, TypeNode.mem_ids_from _ _ id (by omega)]

end

end TypeTree

end Columnar
