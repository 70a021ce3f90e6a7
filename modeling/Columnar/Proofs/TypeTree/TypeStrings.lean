import Columnar.Proofs.TypeTree.Parts
import Columnar.TypeTree.Text

set_option autoImplicit false

namespace Columnar

namespace DataType

mutual

def text : DataType → String
  | .boolean => "boolean"
  | .byte => "tinyint"
  | .short => "smallint"
  | .int => "int"
  | .long => "bigint"
  | .float => "float"
  | .double => "double"
  | .string => "string"
  | .binary => "binary"
  | .list item => "array<" ++ item.text ++ ">"
  | .map key value => "map<" ++ key.text ++ "," ++ value.text ++ ">"
  | .struct fields => "struct<" ++ fieldsText fields ++ ">"

def fieldsText : List (String × DataType) → String
  | [] => ""
  | [(name, type)] => name ++ ":" ++ type.text
  | (name, type) :: rest => name ++ ":" ++ type.text ++ "," ++ fieldsText rest

end

theorem join_labelled (fields : List (String × DataType)) :
    Text.join [','] (labelled (fields.map (·.1)) (fields.map fun field => field.2.text.toList)) =
      (fieldsText fields).toList := by
  induction fields with
  | nil => simp [labelled, Text.join, fieldsText]
  | cons field rest ih =>
    obtain ⟨name, type⟩ := field
    cases rest with
    | nil => simp [labelled, Text.join, fieldsText]
    | cons other rest =>
      simp only [List.map_cons, labelled, Text.join] at ih ⊢
      simp [ih, fieldsText]

end DataType

theorem TypeNode.StandsFor.type_chars {node : TypeNode} {place : Nat} {type : DataType}
    (stands : node.StandsFor place type) :
    node.typeChars (type.members.map fun member => member.2.text.toList) = type.text.toList := by
  rw [typeChars, stands.kind, stands.named]
  cases type with
  | list item =>
    simp [DataType.kind, TypeKind.isCompound, TypeKind.word, DataType.members, DataType.memberNames,
      labelled, Text.join, DataType.text]
  | map key value =>
    simp [DataType.kind, TypeKind.isCompound, TypeKind.word, DataType.members, DataType.memberNames,
      labelled, Text.join, DataType.text]
  | struct fields =>
    simp [DataType.kind, TypeKind.isCompound, TypeKind.word, DataType.members, DataType.memberNames,
      DataType.join_labelled, DataType.text]
  | _ => simp [DataType.kind, TypeKind.isCompound, TypeKind.word, DataType.text]

namespace TypeTree

section

variable {tree : TypeTree}

theorem type_chars_members (fuel : Nat) (fields : List (String × DataType)) (next : Nat)
    (texts : ∀ (type : DataType) (place : Nat), tree.Holds place (TypeNode.flatten place type) →
      place + type.size ≤ UInt32.size → type.size ≤ fuel →
      tree.typeChars? fuel (UInt32.ofNat place) = some type.text.toList)
    (held : tree.Holds next (TypeNode.flattenFields next fields).2)
    (small : next + DataType.sizeOfAll fields ≤ UInt32.size)
    (deep : DataType.sizeOfAll fields ≤ fuel) :
    (TypeNode.flattenFields next fields).1.mapM (tree.typeChars? fuel) =
      some (fields.map fun field => field.2.text.toList) := by
  induction fields generalizing next with
  | nil => rfl
  | cons field rest ih =>
    obtain ⟨name, type⟩ := field
    simp only [DataType.sizeOfAll] at small deep
    simp only [TypeNode.flattenFields, holds_append_iff, TypeNode.size_flatten] at held ⊢
    have first := texts type next held.1 (by omega) (by omega)
    have others := ih (next + type.size) held.2 (by omega) (by omega)
    simp [List.mapM_cons, first, others]

-- The induction is on the fuel, which is no less than the nodes of the type.
theorem type_chars_flatten (fuel : Nat) (type : DataType) (next : Nat)
    (held : tree.Holds next (TypeNode.flatten next type))
    (small : next + type.size ≤ UInt32.size) (deep : type.size ≤ fuel) :
    tree.typeChars? fuel (UInt32.ofNat next) = some type.text.toList := by
  induction fuel generalizing type next with
  | zero =>
    have positive := type.size_members
    omega
  | succ fuel ih =>
    have parts := type.size_members
    have whole := held
    rw [TypeNode.flatten_members, holds_cons_iff] at held
    obtain ⟨here, below⟩ := held
    have stands := node_of_part type next whole small _ here
    have children := type_chars_members fuel type.members (next + 1) ih below (by omega) (by omega)
    have found : tree.get? (UInt32.ofNat next) = tree.nodes[next]? := by
      rw [get?, TypeNode.to_nat_small next (by omega)]
    have chars := stands.type_chars
    simp only [typeChars?, found, here, Option.bind_eq_bind, Option.bind_some, children]
    by_cases compound : type.kind.isCompound = true
    · simp only [if_pos compound, Option.pure_def, chars]
    · have childless : type.members = [] := by
        cases type <;> simp_all [DataType.kind, TypeKind.isCompound, DataType.members]
      rw [childless, List.map_nil] at chars
      simp only [if_neg compound, Option.pure_def, childless, chars]

end

theorem text_of_fields (fields : List Field)
    (small : (DataType.struct fields).size ≤ UInt32.size) :
    (ofFields fields).text? = some (DataType.struct fields).text := by
  have held : (ofFields fields).Holds 0 (TypeNode.flatten 0 (.struct fields)) := holds_all _
  have length : (ofFields fields).nodes.length = (DataType.struct fields).size :=
    TypeNode.size_flatten _ 0
  have chars := type_chars_flatten (ofFields fields).nodes.length (.struct fields) 0 held (by omega)
    (Nat.le_of_eq length.symm)
  have filled : ¬ (ofFields fields).nodes.isEmpty = true := by simp [nodes_of_fields]
  have root : (0 : UInt32) = UInt32.ofNat 0 := rfl
  rw [text?, if_neg filled, root, chars, Option.map_some, String.ofList_toList]

end TypeTree

end Columnar
