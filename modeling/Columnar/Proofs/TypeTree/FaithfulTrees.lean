import Columnar.Proofs.TypeTree.TypeStrings

set_option autoImplicit false

namespace Columnar

namespace TypeTree

theorem size_of_fields (fields : List Field) :
    (ofFields fields).nodes.length = (DataType.struct fields).size :=
  TypeNode.size_flatten (.struct fields) 0

theorem columns_start (fields : List Field) (small : (DataType.struct fields).size ≤ UInt32.size) :
    (ofFields fields).columns.map UInt32.toNat = DataType.starts 1 fields := by
  rw [DataType.size_members, DataType.members] at small
  rw [columns_of_fields, TypeNode.children_start fields 1 (by omega)]

theorem column_names_of_fields (fields : List Field) :
    (ofFields fields).columnNames = fields.map (·.1) := by
  simp only [columnNames, root?, nodes_of_fields, List.head?_cons, Option.map_some,
    Option.getD_some]

theorem of_fields_injective (first second : List Field) (same : ofFields first = ofFields second) :
    first = second := by
  have nodes := congrArg nodes same
  have whole := TypeNode.flatten_injective (.struct first) (.struct second) 0 [] []
    (congrArg (· ++ []) nodes)
  exact DataType.struct.inj whole.1

theorem nodes_are_parts (fields : List Field)
    (small : (DataType.struct fields).size ≤ UInt32.size) (place : Nat) (node : TypeNode)
    (here : (ofFields fields).nodes[place]? = some node) :
    ∃ part, (DataType.struct fields).parts[place]? = some part ∧ node.StandsFor place part ∧
      ∀ id, (ofFields fields).Reaches node.id id ↔
        place ≤ id.toNat ∧ id.toNat < place + part.size := by
  have sized := size_of_fields fields
  have numbered := numbered_of_fields fields (by omega)
  have early := (List.getElem?_eq_some_iff.mp here).1
  have inside : place < (DataType.struct fields).parts.length := by
    rw [DataType.length_parts]
    omega
  have found := List.getElem?_eq_getElem inside
  generalize (DataType.struct fields).parts[place] = part at found
  have whole : (ofFields fields).Holds 0 (TypeNode.flatten 0 (.struct fields)) := holds_all _
  obtain ⟨held, within⟩ := part_held (.struct fields) part 0 place whole found
  rw [Nat.zero_add] at held
  have stands := node_of_part part place held (by omega) node here
  refine ⟨part, found, stands, ?_⟩
  intro id
  rw [← part_reaches_iff numbered part place held (by omega) id, ← stands.placed,
    UInt32.ofNat_toNat]

end TypeTree

theorem flattened_schemas_are_kept (fields : List Field)
    (small : (DataType.struct fields).size ≤ UInt32.size) :
    let schema := DataType.struct fields
    let tree := TypeTree.ofFields fields
    tree.Valid ∧ tree.nodes.length = schema.size ∧ tree.preorder = tree.nodes.map (·.id) ∧
      (∀ (place : Nat) (node : TypeNode), tree.nodes[place]? = some node →
        ∃ part, schema.parts[place]? = some part ∧ node.StandsFor place part ∧
          ∀ id, tree.Reaches node.id id ↔ place ≤ id.toNat ∧ id.toNat < place + part.size) ∧
      tree.columnNames = fields.map (·.1) ∧
      tree.columns.map UInt32.toNat = DataType.starts 1 fields ∧
      tree.text? = some schema.text ∧
      ∀ others, TypeTree.ofFields others = tree → others = fields := by
  intro schema tree
  have sized : tree.nodes.length = schema.size := TypeTree.size_of_fields fields
  have fits : tree.nodes.length ≤ UInt32.size := by
    rw [sized]
    exact small
  have valid : tree.Valid := (TypeTree.valid_iff_numbered tree).mpr
    (TypeTree.numbered_of_fields fields fits)
  refine ⟨valid, sized, TypeTree.preorder_of_fields fields fits, ?_,
    TypeTree.column_names_of_fields fields, TypeTree.columns_start fields small,
    TypeTree.text_of_fields fields small, ?_⟩
  · intro place node here
    exact TypeTree.nodes_are_parts fields small place node here
  · intro others same
    exact TypeTree.of_fields_injective others fields same

namespace Example

def nestedFields : List Field :=
  [("number", .int),
    ("middle", .struct [("list", .list (.struct [("a", .int), ("b", .string)])), ("none", .struct [])]),
    ("map", .map .string .long)]

end Example

theorem nested_schema_is_kept :
    (DataType.struct Example.nestedFields).size ≤ UInt32.size ∧
      (TypeTree.ofFields Example.nestedFields).Valid ∧
      (TypeTree.ofFields Example.nestedFields).nodes.length = 11 ∧
      (TypeTree.ofFields Example.nestedFields).columns.map UInt32.toNat = [1, 2, 8] ∧
      (TypeTree.ofFields Example.nestedFields).text? = some
        "struct<number:int,middle:struct<list:array<struct<a:int,b:string>>,none:struct<>>,map:map<string,bigint>>" ∧
      (∀ id, (TypeTree.ofFields Example.nestedFields).Reaches 3 id ↔ 3 ≤ id.toNat ∧ id.toNat < 7) ∧
      TypeTree.ofFields [] ≠ TypeTree.ofFields Example.nestedFields := by
  have small : (DataType.struct Example.nestedFields).size ≤ UInt32.size := by decide
  obtain ⟨valid, sized, _, parts, _, columns, text, injective⟩ :=
    flattened_schemas_are_kept Example.nestedFields small
  obtain ⟨part, found, stands, reaches⟩ := parts 3 ⟨3, .list, [4], []⟩ rfl
  have list : part = .list (.struct [("a", .int), ("b", .string)]) := by
    have same : some part = some (.list (.struct [("a", .int), ("b", .string)])) := found.symm
    exact Option.some.inj same
  refine ⟨small, valid, sized, columns, text, ?_, ?_⟩
  · intro id
    rw [list] at reaches
    exact reaches id
  · intro same
    cases injective [] same

end Columnar
