import Columnar.Proofs.Conforming
import Columnar.Proofs.LegibleText
import Columnar.Proofs.LineShape
import Columnar.Proofs.TypeTree.FaithfulTrees

set_option autoImplicit false

namespace Columnar

def nameLabel (name : String) : List Char := Text.quoted name.toList ++ [':']

namespace DataType

mutual

def cell : DataType → Value → List Char
  | _, .null => "NULL".toList
  | .boolean, .boolean flag => Value.flagText flag
  | .byte, .byte number => Text.decimalInt number.toInt
  | .short, .short number => Text.decimalInt number.toInt
  | .int, .int number => Text.decimalInt number.toInt
  | .long, .long number => Text.decimalInt number.toInt
  | .float, .float number => number.plainText
  | .double, .double number => number.plainText
  | .string, .string text => Text.quoted text.toList
  | .binary, .binary bytes => '0' :: 'x' :: (Bytes.hex bytes).toList
  | .list item, .list items => Rendering.enclosed '[' ']' (items.map item.cell)
  | .map key value, .map entries =>
    Rendering.enclosed '\x7b' '\x7d'
      (entries.map fun entry => key.cell entry.1 ++ ':' :: value.cell entry.2)
  | .struct fields, .struct members =>
    Rendering.enclosed '\x7b' '\x7d' (cells nameLabel fields members)
  | _, value => value.chars

def cells (label : String → List Char) : List Field → List Value → List (List Char)
  | (name, type) :: fields, value :: values =>
    (label name ++ type.cell value) :: cells label fields values
  | _, _ => []

end

theorem cell_null (type : DataType) : type.cell .null = "NULL".toList := by
  cases type <;> simp only [cell]

end DataType

abbrev ConformEach (values : List Value) (fields : List Field) : Prop :=
  List.Forall₂ (fun value field => value.Conforms field.2) values fields

theorem conform_each_of_places (values : List Value) (fields : List Field)
    (count : values.length = fields.length)
    (each : ∀ (place : Nat) (value : Value) (field : Field), values[place]? = some value →
      fields[place]? = some field → value.Conforms field.2) : ConformEach values fields := by
  refine List.forall₂_iff_get.mpr ⟨count, fun place inside otherInside => ?_⟩
  exact each place _ _ (List.getElem?_eq_getElem inside) (List.getElem?_eq_getElem otherInside)

theorem Row.conform_each {fields : List Field} {row : Row} (conforms : row.Conforms fields) :
    ConformEach row.values fields :=
  conform_each_of_places row.values fields conforms.width fun place value field here typed =>
    conforms.cells place field value typed here

namespace Rendering

open TypeNode (flatten flattenFields)

section

variable {tree : TypeTree}

theorem get_node (next : Nat) (node : TypeNode) (here : tree.nodes[next]? = some node)
    (small : next < UInt32.size) : tree.get? (UInt32.ofNat next) = some node := by
  rw [TypeTree.get?, TypeNode.to_nat_small next small]
  exact here

theorem items_by_type (node : TypeNode) (child : UInt32) (first : node.firstChild? = some child)
    (type : DataType) (items : List Value)
    (each : ∀ item ∈ items, cell? tree child item = some (type.cell item)) :
    itemCells? tree node items = some (items.map type.cell) := by
  induction items with
  | nil => rfl
  | cons item items ih =>
    have others := ih fun other member => each other (.tail _ member)
    simp only [itemCells?, first, Option.bind_eq_bind, Option.bind_some, each item (.head _), others]
    rfl

theorem entries_by_type (node : TypeNode) (keys values : UInt32)
    (first : node.firstChild? = some keys) (second : node.secondChild? = some values)
    (keyType valueType : DataType) (entries : List (Value × Value))
    (each : ∀ entry ∈ entries, cell? tree keys entry.1 = some (keyType.cell entry.1) ∧
      cell? tree values entry.2 = some (valueType.cell entry.2)) :
    entryCells? tree node entries =
      some (entries.map fun entry => keyType.cell entry.1 ++ ':' :: valueType.cell entry.2) := by
  induction entries with
  | nil => rfl
  | cons entry entries ih =>
    have others := ih fun other member => each other (.tail _ member)
    obtain ⟨keyShown, valueShown⟩ := each entry (.head _)
    simp only [entryCells?, first, second, Option.bind_eq_bind, Option.bind_some, keyShown, valueShown,
      others]
    rfl

-- The recursion is that of the types. Their nodes stand one behind the other in the tree.
mutual

theorem cell_by_type (type : DataType) (next : Nat) (held : tree.Holds next (flatten next type))
    (small : next + type.size ≤ UInt32.size) (value : Value) (conforms : value.Conforms type) :
    cell? tree (UInt32.ofNat next) value = some (type.cell value) := by
  have positive := type.size_members
  have whole := held
  rw [TypeNode.flatten_members, TypeTree.holds_cons_iff] at held
  have here := get_node next _ held.1 (by omega)
  rw [cell?, here]
  cases conforms with
  | null => rw [DataType.cell_null]
  | boolean | byte | short | int | long | float | double | string | binary =>
    simp only [DataType.cell]
  | list items item each =>
    simp only [flatten, TypeTree.holds_cons_iff] at whole
    simp only [DataType.size] at small
    have shown := @items_by_type tree ⟨UInt32.ofNat next, .list, [UInt32.ofNat (next + 1)], []⟩
      (UInt32.ofNat (next + 1)) rfl item items fun one member =>
        cell_by_type item (next + 1) whole.2 (by omega) one (each one member)
    simp only [DataType.kind, DataType.members, flattenFields, DataType.memberNames, if_true, shown,
      Option.map_some, DataType.cell]
  | map entries keyType valueType keys values =>
    simp only [flatten, TypeTree.holds_cons_iff, TypeTree.holds_append_iff,
      TypeNode.size_flatten] at whole
    simp only [DataType.size] at small
    have shown := @entries_by_type tree
      ⟨UInt32.ofNat next, .map, [UInt32.ofNat (next + 1), UInt32.ofNat (next + 1 + keyType.size)], []⟩
      _ _ rfl rfl keyType valueType entries fun entry member =>
        ⟨cell_by_type keyType (next + 1) whole.2.1 (by omega) entry.1 (keys entry member),
          cell_by_type valueType _ whole.2.2 (by omega) entry.2 (values entry member)⟩
    simp only [DataType.kind, DataType.members, flattenFields, DataType.memberNames, if_true,
      TypeNode.size_flatten, shown, Option.map_some, DataType.cell]
  | struct members fields count each =>
    simp only [flatten, TypeTree.holds_cons_iff] at whole
    simp only [DataType.size] at small
    have shown := members_by_type fields (next + 1) whole.2 (by omega) members
      (conform_each_of_places members fields count each)
    simp only [DataType.kind, DataType.members, DataType.memberNames, if_true, shown,
      Option.map_some, DataType.cell]

theorem members_by_type (fields : List Field) (next : Nat)
    (held : tree.Holds next (flattenFields next fields).2)
    (small : next + DataType.sizeOfAll fields ≤ UInt32.size) (members : List Value)
    (conforms : ConformEach members fields) :
    memberCells? tree (flattenFields next fields).1 (fields.map (·.1)) members =
      some (DataType.cells nameLabel fields members) := by
  match fields, members, conforms with
  | [], [], .nil => rfl
  | (name, type) :: fields, member :: rest, .cons first others =>
    simp only [flattenFields, TypeTree.holds_append_iff, TypeNode.size_flatten] at held ⊢
    simp only [DataType.sizeOfAll] at small
    have here := cell_by_type type next held.1 (by omega) member first
    have behind := members_by_type fields (next + type.size) held.2 (by omega) rest others
    simp only [List.map_cons, memberCells?, here, behind, Option.bind_eq_bind, Option.bind_some,
      DataType.cells, nameLabel, List.append_assoc, List.cons_append, List.nil_append]
    rfl

end

theorem cells_by_type (fields : List Field) (next : Nat)
    (held : tree.Holds next (flattenFields next fields).2)
    (small : next + DataType.sizeOfAll fields ≤ UInt32.size) (values : List Value)
    (conforms : ConformEach values fields) :
    cells? tree (flattenFields next fields).1 values =
      some (DataType.cells (fun _ => []) fields values) := by
  induction fields generalizing next values with
  | nil =>
    cases conforms
    rfl
  | cons field fields ih =>
    obtain ⟨name, type⟩ := field
    cases conforms with
    | cons first others =>
      simp only [flattenFields, TypeTree.holds_append_iff, TypeNode.size_flatten] at held ⊢
      simp only [DataType.sizeOfAll] at small
      have here := cell_by_type type next held.1 (by omega) _ first
      have behind := ih (next + type.size) held.2 (by omega) _ others
      simp only [cells?, here, behind, Option.bind_eq_bind, Option.bind_some, DataType.cells,
        List.nil_append]
      rfl

end

theorem line_by_type (fields : List Field) (valid : (TypeTree.ofFields fields).Valid) (row : Row)
    (conforms : row.Conforms fields) :
    line? (.ofFields fields) row =
      some (Text.join ['\t'] (DataType.cells (fun _ => []) fields row.values)) := by
  have numbered := (TypeTree.valid_iff_numbered _).mp valid
  have small := TypeTree.nodes_small _ numbered
  have held := TypeTree.holds_all (TypeTree.ofFields fields)
  rw [TypeTree.nodes_of_fields] at small held
  rw [TypeTree.holds_cons_iff] at held
  rw [List.length_cons, TypeNode.size_flatten_fields] at small
  rw [line?, TypeTree.columns_of_fields,
    cells_by_type fields 1 held.2 (by omega) row.values (Row.conform_each conforms)]
  rfl

end Rendering

namespace DataType

open Text (Legible Ends isMark)

theorem legible_nullable {α : Type} {text : α → List Char} {among : α → Prop} (type : DataType)
    (legible : Legible text among) (wrap : α → Value)
    (shown : ∀ a, among a → type.cell (wrap a) = text a)
    (apart : ∀ a, among a → (text a).head? ≠ some 'N')
    (made : ∀ value, value.Conforms type → value = .null ∨ ∃ a, among a ∧ value = wrap a) :
    Legible type.cell (·.Conforms type) := by
  have wrapped := legible.image wrap type.cell shown
  have all := wrapped.insert .null 'N' "ULL".toList type.cell_null (by decide) (by
    rintro value ⟨a, inside, rfl⟩
    rw [shown a inside]
    exact apart a inside)
  exact all.narrow made

theorem legible_integer {α : Type} (type : DataType) (wrap : α → Value) (number : α → Int)
    (injective : ∀ a b, number a = number b → a = b)
    (shown : ∀ a, type.cell (wrap a) = Text.decimalInt (number a))
    (made : ∀ value, value.Conforms type → value = .null ∨ ∃ a, True ∧ value = wrap a) :
    Legible type.cell (·.Conforms type) := by
  refine legible_nullable type (Text.legible_decimal_int.comp number injective) wrap
    (fun a _ => shown a) (fun a _ first => ?_) made
  obtain dash | digit := Text.decimal_int_digits _ 'N' (List.mem_of_mem_head? first)
  · cases dash
  · cases digit

-- Texts of columns with a mark between them tell the values apart, since the types tell how many
-- there are and what they look like.
theorem read_cells (label : String → List Char) (separator : Char) (mark : isMark separator = true)
    (fields : List Field) (legible : ∀ field ∈ fields, Legible field.2.cell (·.Conforms field.2))
    (values others : List Value) (conforms : ConformEach values fields)
    (otherConforms : ConformEach others fields) (rest behind : List Char) (ends : Ends rest)
    (otherEnds : Ends behind)
    (same : Text.join [separator] (cells label fields values) ++ rest =
      Text.join [separator] (cells label fields others) ++ behind) : values = others ∧ rest = behind := by
  induction fields generalizing values others with
  | nil =>
    cases conforms
    cases otherConforms
    exact ⟨rfl, same⟩
  | cons field fields ih =>
    obtain ⟨name, type⟩ := field
    cases conforms with
    | cons first more =>
      cases otherConforms with
      | cons otherFirst otherMore =>
        have read := (legible (name, type) (.head _)).read _ _ first otherFirst
        have later := ih (fun one member => legible one (.tail _ member)) _ _ more otherMore
        cases more with
        | nil =>
          cases otherMore
          simp only [cells, Text.join, List.append_assoc, List.append_cancel_left_eq] at same
          obtain ⟨here, left⟩ := read rest behind ends otherEnds same
          exact ⟨by rw [here], left⟩
        | cons next more =>
          cases otherMore with
          | cons otherNext otherMore =>
            simp only [cells, Text.join, List.append_assoc, List.append_cancel_left_eq,
              List.cons_append, List.nil_append] at same later
            obtain ⟨here, left⟩ := read _ _ (Text.ends_mark _ _ mark) (Text.ends_mark _ _ mark) same
            obtain ⟨those, leftBehind⟩ := later (List.cons.inj left).2
            exact ⟨by rw [here, those], leftBehind⟩

def Exact (type : DataType) : Prop :=
  ∀ part ∈ type.parts, part.kind ≠ .float ∧ part.kind ≠ .double

theorem parts_of_field (fields : List Field) (field : Field) (member : field ∈ fields)
    (part : DataType) (inside : part ∈ field.2.parts) : part ∈ (DataType.struct fields).parts := by
  suffices below : part ∈ partsOfAll fields by
    rw [parts]
    exact .tail _ below
  induction fields with
  | nil => cases member
  | cons first rest ih =>
    obtain ⟨name, type⟩ := first
    rw [partsOfAll, List.mem_append]
    cases member with
    | head => exact .inl inside
    | tail _ later => exact .inr (ih later)

mutual

theorem legible_cell (type : DataType) (exact : type.Exact) :
    Legible type.cell (·.Conforms type) := by
  match type with
  | .boolean =>
    refine legible_nullable _ Value.legible_flag .boolean (fun _ _ => by simp only [cell])
      (fun flag _ => by cases flag <;> decide) fun value conforms => ?_
    cases conforms with
    | null => exact .inl rfl
    | boolean flag => exact .inr ⟨flag, trivial, rfl⟩
  | .byte =>
    refine legible_integer .byte .byte Int8.toInt (fun _ _ => Int8.toInt_inj.mp)
      (fun _ => by simp only [cell]) fun value conforms => ?_
    cases conforms with
    | null => exact .inl rfl
    | byte number => exact .inr ⟨number, trivial, rfl⟩
  | .short =>
    refine legible_integer .short .short Int16.toInt (fun _ _ => Int16.toInt_inj.mp)
      (fun _ => by simp only [cell]) fun value conforms => ?_
    cases conforms with
    | null => exact .inl rfl
    | short number => exact .inr ⟨number, trivial, rfl⟩
  | .int =>
    refine legible_integer .int .int Int32.toInt (fun _ _ => Int32.toInt_inj.mp)
      (fun _ => by simp only [cell]) fun value conforms => ?_
    cases conforms with
    | null => exact .inl rfl
    | int number => exact .inr ⟨number, trivial, rfl⟩
  | .long =>
    refine legible_integer .long .long Int64.toInt (fun _ _ => Int64.toInt_inj.mp)
      (fun _ => by simp only [cell]) fun value conforms => ?_
    cases conforms with
    | null => exact .inl rfl
    | long number => exact .inr ⟨number, trivial, rfl⟩
  | .float => exact absurd rfl (exact .float (by simp [parts])).1
  | .double => exact absurd rfl (exact .double (by simp [parts])).2
  | .string =>
    refine legible_nullable _ (Text.legible_quoted.comp String.toList fun _ _ => String.toList_injective)
      .string (fun _ _ => by simp only [cell]) (fun text _ => by simp [Text.quoted])
      fun value conforms => ?_
    cases conforms with
    | null => exact .inl rfl
    | string text => exact .inr ⟨text, trivial, rfl⟩
  | .binary =>
    refine legible_nullable _ Bytes.legible_hex .binary (fun _ _ => by simp only [cell])
      (fun bytes _ => by simp) fun value conforms => ?_
    cases conforms with
    | null => exact .inl rfl
    | binary bytes => exact .inr ⟨bytes, trivial, rfl⟩
  | .list item =>
    have items := legible_cell item fun part member => exact part (by simp [parts, member])
    refine legible_nullable _ (items.enclosed '[' ']' (by decide) (by decide) (by decide)) .list
      (fun _ _ => by simp only [cell]) (fun items _ => by simp [Rendering.enclosed])
      fun value conforms => ?_
    cases conforms with
    | null => exact .inl rfl
    | list items _ each => exact .inr ⟨items, each, rfl⟩
  | .map key value =>
    have keys := legible_cell key fun part member => exact part (by simp [parts, member])
    have values := legible_cell value fun part member => exact part (by simp [parts, member])
    refine legible_nullable _ ((keys.pair values ':' (by decide)).enclosed '\x7b' '\x7d' (by decide)
        (by decide) (by decide)) .map (fun _ _ => by simp only [cell])
      (fun entries _ => by simp [Rendering.enclosed]) fun value conforms => ?_
    cases conforms with
    | null => exact .inl rfl
    | map entries _ _ keysConform valuesConform =>
      exact .inr ⟨entries, fun entry member =>
        ⟨keysConform entry member, valuesConform entry member⟩, rfl⟩
  | .struct fields =>
    have each := legible_fields fields fun field member part inside =>
      exact part (parts_of_field fields field member part inside)
    have members : Legible
        (fun members => Rendering.enclosed '\x7b' '\x7d' (cells nameLabel fields members))
        (ConformEach · fields) := by
      refine ⟨fun members _ => ⟨'\x7b', _, rfl, by decide⟩, ?_⟩
      intro members others conforms otherConforms rest behind ends otherEnds same
      simp only [Rendering.enclosed, List.cons_append, List.append_assoc, List.cons.injEq,
        true_and] at same
      obtain ⟨here, left⟩ := read_cells nameLabel ',' (by decide) fields each members others conforms
        otherConforms _ _ (Text.ends_mark _ _ (by decide)) (Text.ends_mark _ _ (by decide)) same
      exact ⟨here, (List.cons.inj left).2⟩
    refine legible_nullable _ members .struct (fun _ _ => by simp only [cell])
      (fun members _ => by simp [Rendering.enclosed]) fun value conforms => ?_
    cases conforms with
    | null => exact .inl rfl
    | struct members _ count each =>
      exact .inr ⟨members, conform_each_of_places members fields count each, rfl⟩

theorem legible_fields (fields : List Field) (exact : ∀ field ∈ fields, field.2.Exact) :
    ∀ field ∈ fields, Legible field.2.cell (·.Conforms field.2) := by
  match fields with
  | [] =>
    intro field member
    cases member
  | (name, type) :: rest =>
    intro field member
    cases member with
    | head => exact legible_cell type (exact (name, type) (.head _))
    | tail _ later =>
      exact legible_fields rest (fun one member => exact one (.tail _ member)) field later

end

end DataType

-- Over a valid tree every row has a line of its own cells. Where the tree is that of a schema without
-- floating-point numbers, the line tells the row.
theorem lines_are_unambiguous (types : TypeTree) (valid : types.Valid) :
    (∀ row : Row, row.width = types.columns.length →
      ∃ line, Rendering.line? types row = some line ∧
        (∀ c ∈ line, Text.breaksLine c = false) ∧
        line.count '\t' = types.columns.length - 1) ∧
    (∀ fields, types = .ofFields fields → (DataType.struct fields).Exact →
      ∀ row other : Row, row.Conforms fields → other.Conforms fields → row ≠ other →
        Rendering.line? types row ≠ Rendering.line? types other) := by
  refine ⟨fun row wide => ?_, ?_⟩
  · obtain ⟨line, shown, chars, tabs⟩ := Rendering.line_shown types valid row wide.ge
    refine ⟨line, shown, fun c member => ?_, tabs⟩
    obtain rfl | printable := chars c member
    · rfl
    · rw [← Bool.not_eq_true]
      intro breaks
      rw [Text.unprintable_of_breaks_line c breaks] at printable
      cases printable
  · rintro fields rfl exact row other conforms otherConforms apart same
    rw [Rendering.line_by_type fields valid row conforms,
      Rendering.line_by_type fields valid other otherConforms, Option.some.injEq] at same
    have legible := DataType.legible_fields fields fun field member part inside =>
      exact part (DataType.parts_of_field fields field member part inside)
    obtain ⟨values, _⟩ := DataType.read_cells (fun _ => []) '\t' (by decide) fields legible row.values
      other.values (Row.conform_each conforms) (Row.conform_each otherConforms) [] [] Text.ends_nil
      Text.ends_nil (by rw [List.append_nil, List.append_nil, same])
    obtain ⟨cells⟩ := row
    obtain ⟨otherCells⟩ := other
    exact apart (congrArg Row.mk values)

namespace Example

-- A list of one struct whose text spells the end of the struct and the start of another.
def spelledRow : Row :=
  ⟨[.int 1, .struct [.list [.struct [.int 2, .string "NULL\x7d,\t\x7b"]], .struct []],
    .map [(.string "a", .null), (.string "a", .long 3)]]⟩

def listedRow : Row :=
  ⟨[.int 1, .struct [.list [.struct [.int 2, .null], .struct [.null, .string "\n"]], .struct []],
    .map [(.null, .null)]]⟩

end Example

theorem spelled_row_has_its_own_line :
    (TypeTree.ofFields Example.nestedFields).Valid ∧
      (DataType.struct Example.nestedFields).Exact ∧
      Example.spelledRow.Conforms Example.nestedFields ∧
      Example.listedRow.Conforms Example.nestedFields ∧
      Example.spelledRow ≠ Example.listedRow ∧
      Rendering.line? (.ofFields Example.nestedFields) Example.spelledRow ≠
        Rendering.line? (.ofFields Example.nestedFields) Example.listedRow ∧
      ∃ line, Rendering.line? (.ofFields Example.nestedFields) Example.spelledRow = some line ∧
        (∀ c ∈ line, Text.breaksLine c = false) ∧ line.count '\t' = 2 := by
  have valid : (TypeTree.ofFields Example.nestedFields).Valid :=
    (TypeTree.valid_iff_numbered _).mpr (TypeTree.numbered_of_fields _ (by decide))
  have exact : (DataType.struct Example.nestedFields).Exact := by
    unfold DataType.Exact
    decide
  have conforms : Example.spelledRow.Conforms Example.nestedFields := by decide
  have otherConforms : Example.listedRow.Conforms Example.nestedFields := by decide
  have apart : Example.spelledRow ≠ Example.listedRow := by
    simp [Example.spelledRow, Example.listedRow]
  obtain ⟨shown, told⟩ := lines_are_unambiguous _ valid
  exact ⟨valid, exact, conforms, otherConforms, apart,
    told Example.nestedFields rfl exact _ _ conforms otherConforms apart, shown _ rfl⟩

end Columnar
