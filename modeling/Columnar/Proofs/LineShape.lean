import Columnar.Proofs.PrintableText
import Columnar.Proofs.TypeTree.Numbered
import Columnar.Rendering

set_option autoImplicit false

namespace Columnar

namespace Rendering

open Text (Printable printable_append printable_cons printable_nil printable_join printable_plain
  printable_word)

theorem printable_enclosed (opening closing : Char) (texts : List (List Char))
    (first : Text.isPlain opening = true) (last : Text.isPlain closing = true)
    (each : ∀ text ∈ texts, Printable text) : Printable (enclosed opening closing texts) :=
  printable_append
    (printable_cons (printable_plain _ first)
      (printable_join texts (printable_word _ (by decide)) each))
    (printable_cons (printable_plain _ last) printable_nil)

section

variable {types : TypeTree}

theorem node_arity (numbered : types.Numbered) (id : UInt32) (node : TypeNode)
    (here : types.get? id = some node) : node.arityFits = true :=
  numbered.arity node (List.mem_of_getElem? here)

theorem list_child (node : TypeNode) (fits : node.arityFits = true) (kind : node.kind = .list) :
    ∃ child, node.firstChild? = some child := by
  simp only [TypeNode.arityFits, kind, beq_iff_eq] at fits
  exact ⟨node.children[0], List.getElem?_eq_getElem (by omega)⟩

theorem map_children (node : TypeNode) (fits : node.arityFits = true) (kind : node.kind = .map) :
    ∃ first second, node.firstChild? = some first ∧ node.secondChild? = some second := by
  simp only [TypeNode.arityFits, kind, beq_iff_eq] at fits
  exact ⟨node.children[0], node.children[1], List.getElem?_eq_getElem (by omega),
    List.getElem?_eq_getElem (by omega)⟩

-- The recursion is that of the texts, on the value. A value of another kind than its node is shown by
-- its explicit text, so the kind of a node only counts where the node has the children for it.
mutual

theorem cell_shown (numbered : types.Numbered) (id : UInt32) (value : Value) :
    ∃ text, cell? types id value = some text ∧ Printable text := by
  rw [cell?]
  cases here : types.get? id with
  | none => exact ⟨[], rfl, printable_nil⟩
  | some node =>
    have fits := node_arity numbered id node here
    match value with
    | .null => exact ⟨_, rfl, printable_word _ (by decide)⟩
    | .boolean flag => exact ⟨_, rfl, Value.printable_flag flag⟩
    | .byte number | .short number | .int number | .long number =>
      exact ⟨_, rfl, Text.printable_decimal_int _⟩
    | .float number | .double number => exact ⟨_, rfl, Ieee.printable_number _ _ _⟩
    | .string text => exact ⟨_, rfl, Text.printable_quoted _⟩
    | .binary bytes =>
      refine ⟨_, rfl, printable_cons (printable_plain _ (by decide))
        (printable_cons (printable_plain _ (by decide)) fun c member => ?_)⟩
      exact Text.printable_hex_digit c (Bytes.hex_is bytes c member)
    | .list items =>
      by_cases kind : node.kind = .list
      · obtain ⟨child, first⟩ := list_child node fits kind
        obtain ⟨texts, shown, each⟩ := items_shown numbered node child first items
        simp only [if_pos kind, shown]
        exact ⟨_, rfl, printable_enclosed _ _ texts (by decide) (by decide) each⟩
      · simp only [if_neg kind]
        exact ⟨_, rfl, Value.printable_chars _⟩
    | .map entries =>
      by_cases kind : node.kind = .map
      · obtain ⟨keys, values, first, second⟩ := map_children node fits kind
        obtain ⟨texts, shown, each⟩ := entries_shown numbered node keys values first second entries
        simp only [if_pos kind, shown]
        exact ⟨_, rfl, printable_enclosed _ _ texts (by decide) (by decide) each⟩
      · simp only [if_neg kind]
        exact ⟨_, rfl, Value.printable_chars _⟩
    | .struct members =>
      by_cases kind : node.kind = .struct
      · obtain ⟨texts, shown, each⟩ :=
          members_shown numbered node.children node.fieldNames members
        simp only [if_pos kind, shown]
        exact ⟨_, rfl, printable_enclosed _ _ texts (by decide) (by decide) each⟩
      · simp only [if_neg kind]
        exact ⟨_, rfl, Value.printable_chars _⟩

theorem items_shown (numbered : types.Numbered) (node : TypeNode) (child : UInt32)
    (first : node.firstChild? = some child) (items : List Value) :
    ∃ texts, itemCells? types node items = some texts ∧ ∀ text ∈ texts, Printable text := by
  match items with
  | [] => exact ⟨[], rfl, by simp⟩
  | item :: rest =>
    obtain ⟨text, shown, printable⟩ := cell_shown numbered child item
    obtain ⟨texts, others, each⟩ := items_shown numbered node child first rest
    refine ⟨text :: texts, ?_, List.forall_mem_cons.mpr ⟨printable, each⟩⟩
    simp only [itemCells?, first, Option.bind_eq_bind, Option.bind_some, shown, others]
    rfl

theorem entries_shown (numbered : types.Numbered) (node : TypeNode) (keys values : UInt32)
    (first : node.firstChild? = some keys) (second : node.secondChild? = some values)
    (entries : List (Value × Value)) :
    ∃ texts, entryCells? types node entries = some texts ∧ ∀ text ∈ texts, Printable text := by
  match entries with
  | [] => exact ⟨[], rfl, by simp⟩
  | (key, value) :: rest =>
    obtain ⟨keyText, keyShown, keyPrintable⟩ := cell_shown numbered keys key
    obtain ⟨valueText, valueShown, valuePrintable⟩ := cell_shown numbered values value
    obtain ⟨texts, others, each⟩ := entries_shown numbered node keys values first second rest
    have printable := printable_append keyPrintable
      (printable_cons (printable_plain ':' (by decide)) valuePrintable)
    refine ⟨(keyText ++ ':' :: valueText) :: texts, ?_, List.forall_mem_cons.mpr ⟨printable, each⟩⟩
    simp only [entryCells?, first, second, Option.bind_eq_bind, Option.bind_some, keyShown, valueShown,
      others]
    rfl

theorem members_shown (numbered : types.Numbered) (children : List UInt32) (names : List String)
    (members : List Value) :
    ∃ texts, memberCells? types children names members = some texts ∧
      ∀ text ∈ texts, Printable text := by
  match children, names, members with
  | child :: children, name :: names, member :: rest =>
    obtain ⟨text, shown, printable⟩ := cell_shown numbered child member
    obtain ⟨texts, others, each⟩ := members_shown numbered children names rest
    have labelled := printable_append (Text.printable_quoted name.toList)
      (printable_cons (printable_plain ':' (by decide)) printable)
    refine ⟨(Text.quoted name.toList ++ ':' :: text) :: texts, ?_,
      List.forall_mem_cons.mpr ⟨labelled, each⟩⟩
    simp only [memberCells?, shown, others, Option.bind_eq_bind, Option.bind_some]
    rfl
  | child :: children, [], member :: rest =>
    obtain ⟨text, shown, printable⟩ := cell_shown numbered child member
    obtain ⟨texts, others, each⟩ := members_shown numbered children [] rest
    refine ⟨text :: texts, ?_, List.forall_mem_cons.mpr ⟨printable, each⟩⟩
    simp only [memberCells?, shown, others, Option.bind_eq_bind, Option.bind_some]
    rfl
  | [], _, _ => exact ⟨[], by simp [memberCells?], by simp⟩
  | _ :: _, _, [] => exact ⟨[], by simp [memberCells?], by simp⟩

end

theorem cells_shown (numbered : types.Numbered) (ids : List UInt32) (values : List Value)
    (wide : ids.length ≤ values.length) :
    ∃ texts, cells? types ids values = some texts ∧ texts.length = ids.length ∧
      ∀ text ∈ texts, Printable text := by
  induction ids generalizing values with
  | nil => exact ⟨[], rfl, rfl, by simp⟩
  | cons id ids ih =>
    cases values with
    | nil => simp at wide
    | cons value rest =>
      obtain ⟨text, shown, printable⟩ := cell_shown numbered id value
      obtain ⟨texts, others, count, each⟩ := ih rest (by simpa using wide)
      refine ⟨text :: texts, ?_, by simp [count], List.forall_mem_cons.mpr ⟨printable, each⟩⟩
      simp only [cells?, shown, others, Option.bind_eq_bind, Option.bind_some]
      rfl

end

theorem count_join (c : Char) (texts : List (List Char)) (free : ∀ text ∈ texts, c ∉ text) :
    (Text.join [c] texts).count c = texts.length - 1 := by
  induction texts with
  | nil => rfl
  | cons text rest ih =>
    have here := List.count_eq_zero_of_not_mem (free text (.head _))
    have others := ih fun other member => free other (.tail _ member)
    cases rest with
    | nil => simpa [Text.join] using here
    | cons next more =>
      simp only [Text.join, List.count_append, here, others, List.count_singleton_self,
        List.length_cons]
      omega

theorem line_shown (types : TypeTree) (valid : types.Valid) (row : Row)
    (wide : types.columns.length ≤ row.width) :
    ∃ line, line? types row = some line ∧
      (∀ c ∈ line, c = '\t' ∨ Text.isUnprintable c = false) ∧
      line.count '\t' = types.columns.length - 1 := by
  have numbered := (TypeTree.valid_iff_numbered types).mp valid
  obtain ⟨texts, shown, count, each⟩ := cells_shown numbered types.columns row.values wide
  have free : ∀ text ∈ texts, '\t' ∉ text := by
    intro text member tab
    have printable := each text member '\t' tab
    rw [Text.tab_unprintable] at printable
    cases printable
  refine ⟨Text.join ['\t'] texts, by simp only [line?, shown, Option.map_some], ?_, ?_⟩
  · intro c member
    obtain between | ⟨text, found, inside⟩ := Text.mem_join _ _ c member
    · exact .inl (List.mem_singleton.mp between)
    · exact .inr (each text found c inside)
  · rw [count_join '\t' texts free, count]

end Rendering

end Columnar
