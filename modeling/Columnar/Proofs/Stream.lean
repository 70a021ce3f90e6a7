import Columnar.Proofs.Cbor.Readers
import Columnar.Value.Encoding

set_option autoImplicit false

namespace Columnar

open Cbor

namespace Value

mutual

def levels : Value → Nat
  | .binary _ => 2
  | .list items => 2 + levelsOfAll items
  | .map entries => 2 + levelsOfEntries entries
  | .struct members => 2 + levelsOfAll members
  | _ => 1

def levelsOfAll : List Value → Nat
  | [] => 0
  | value :: rest => max value.levels (levelsOfAll rest)

def levelsOfEntries : List (Value × Value) → Nat
  | [] => 0
  | (key, value) :: rest => max (1 + max key.levels value.levels) (levelsOfEntries rest)

end

theorem levels_of_all_lt_iff (values : List Value) (limit : Nat) (positive : 0 < limit) :
    levelsOfAll values < limit ↔ ∀ value ∈ values, value.levels < limit := by
  induction values with
  | nil => simp [levelsOfAll, positive]
  | cons value rest ih => simp only [levelsOfAll, Nat.max_lt, ih, List.forall_mem_cons]

theorem kind_named (kind : TypeKind) : kindNamed? (Bytes.ofText kind.name) = some (some kind) := by
  cases kind <;> simp [kindNamed?, Bytes.of_text_eq_iff, TypeKind.all, TypeKind.name]

theorem kind_name_short (kind : TypeKind) :
    (Bytes.ofText kind.name).length ≤ Reader.pieceSize := by
  cases kind <;> decide

theorem variant_under_name (octets : Reader Bytes) (values : Reader (List Value))
    (entries : Reader (List (Value × Value))) (kind : TypeKind) (item : Item) (rest : Bytes) :
    variant octets values entries ((underName kind item).encode ++ rest) =
      content octets values entries kind (item.encode ++ rest) := by
  simp only [underName, Item.encode, Item.encodeEntries, List.length_cons, List.length_nil,
    List.append_assoc, List.append_nil, Nat.zero_add, variant,
    Reader.variant_start_map]
  have named := Reader.name_encode kind.name (item.encode ++ rest) (kind_name_short kind)
  rw [Item.encode, List.append_assoc] at named
  simp only [named, kind_named]

theorem variant_null (octets : Reader Bytes) (values : Reader (List Value))
    (entries : Reader (List (Value × Value))) (rest : Bytes) :
    variant octets values entries (Value.null.toItem.encode ++ rest) = .ok (.null, rest) := by
  have short : (Bytes.ofText "Null").length ≤ Reader.pieceSize := by decide
  have start : Reader.variantStart ((Item.text "Null").encode ++ rest) =
      .ok ((Item.text "Null").encode ++ rest) := by
    rw [Item.encode, List.append_assoc]
    exact Reader.variant_start_text _ _ (by decide)
  have known : kindNamed? (Bytes.ofText "Null") = some none := by simp [kindNamed?]
  simp only [toItem, variant, start, Reader.name_encode "Null" rest short, known]

theorem too_deep_value (value : Value) (rest : Bytes) :
    tooDeep (value.toItem.encode ++ rest) = .error .tooDeep := by
  have named (kind : TypeKind) (item : Item) :
      tooDeep ((underName kind item).encode ++ rest) = .error .tooDeep := by
    simp only [underName, Item.encode, List.length_cons, List.length_nil, Nat.zero_add,
      List.append_assoc, tooDeep, Reader.variant_start_map]
  cases value with
  | null =>
    rw [toItem, Item.encode, List.append_assoc, tooDeep, Reader.variant_start_text _ _ (by decide)]
  | _ => exact named _ _

def octetsAt : Nat → Reader Bytes
  | 0 | 1 => Reader.listTooDeep some
  | _ + 2 => octets

def valuesAt : Nat → Reader (List Value)
  | 0 | 1 => Reader.listTooDeep ofByte?
  | depth + 2 => listOf (read depth)

def entriesAt : Nat → Reader (List (Value × Value))
  | 0 | 1 => Reader.listTooDeep ofByte?
  | 2 => listOf (Reader.pair fun _ _ => .error .tooDeep)
  | depth + 3 => listOf (Reader.pair (Reader.pairItems (read depth)))

theorem read_succ (depth : Nat) :
    read (depth + 1) =
      variant (octetsAt (depth + 1)) (valuesAt (depth + 1)) (entriesAt (depth + 1)) := by
  match depth with
  | 0 => rfl
  | 1 => rfl
  | _ + 2 => rfl

theorem octets_at (depth : Nat) (bytes rest : Bytes) (small : bytes.length < UInt64.size) :
    octetsAt depth ((Item.array (bytes.map fun byte => .unsigned byte.toNat)).encode ++ rest) =
      if 2 ≤ depth then .ok (bytes, rest) else .error .tooDeep := by
  match depth with
  | 0 | 1 =>
    rw [if_neg (by omega), Item.encode, List.length_map, List.append_assoc]
    exact Reader.list_array _ _ _ _ small
  | depth + 2 =>
    rw [if_pos (by omega)]
    refine Reader.list_takes some (by simpa using small) ?_ rest
    rw [List.forall₂_map_left_iff, List.forall₂_same]
    intro byte _ behind
    have read := Reader.natural_below_encode 256 byte.toNat behind (by decide) byte.toNat_lt
    simp only [Reader.mapped, read, UInt8.ofNat_toNat]

theorem mapped_integer (form : Int → Value) (low high number : Int) (rest : Bytes)
    (lowest : -(2 ^ 63) ≤ low) (highest : high < 2 ^ 63) (above : low ≤ number) (below : number ≤ high) :
    Reader.mapped form (Reader.integerWithin low high) ((Item.ofInt number).encode ++ rest) =
      .ok (form number, rest) := by
  have size : (UInt64.size : Int) = 2 ^ 64 := by decide
  have read := Reader.integer_within_encode low high number rest ⟨by omega, by omega⟩ ⟨above, below⟩
  simp only [Reader.mapped, read]

theorem read_boolean (depth : Nat) (flag : Bool) (rest : Bytes) :
    read (depth + 1) ((Value.boolean flag).toItem.encode ++ rest) = .ok (.boolean flag, rest) := by
  rw [read_succ, toItem, variant_under_name]
  simp only [content, Reader.mapped, Reader.boolean_encode]

theorem read_byte (depth : Nat) (number : Int8) (rest : Bytes) :
    read (depth + 1) ((Value.byte number).toItem.encode ++ rest) = .ok (.byte number, rest) := by
  rw [read_succ, toItem, variant_under_name, content, mapped_integer _ _ _ _ _ (by decide) (by decide)
    number.minValue_le_toInt number.toInt_le, Int8.ofInt_toInt]

theorem read_short (depth : Nat) (number : Int16) (rest : Bytes) :
    read (depth + 1) ((Value.short number).toItem.encode ++ rest) = .ok (.short number, rest) := by
  rw [read_succ, toItem, variant_under_name, content, mapped_integer _ _ _ _ _ (by decide) (by decide)
    number.minValue_le_toInt number.toInt_le, Int16.ofInt_toInt]

theorem read_int (depth : Nat) (number : Int32) (rest : Bytes) :
    read (depth + 1) ((Value.int number).toItem.encode ++ rest) = .ok (.int number, rest) := by
  rw [read_succ, toItem, variant_under_name, content, mapped_integer _ _ _ _ _ (by decide) (by decide)
    number.minValue_le_toInt number.toInt_le, Int32.ofInt_toInt]

theorem read_long (depth : Nat) (number : Int64) (rest : Bytes) :
    read (depth + 1) ((Value.long number).toItem.encode ++ rest) = .ok (.long number, rest) := by
  rw [read_succ, toItem, variant_under_name, content, mapped_integer _ _ _ _ _ (by decide) (by decide)
    number.minValue_le_toInt number.toInt_le, Int64.ofInt_toInt]

theorem read_float (depth : Nat) (number : Ieee.Single) (rest : Bytes) :
    read (depth + 1) ((Value.float number).toItem.encode ++ rest) = .ok (.float number, rest) := by
  rw [read_succ, toItem, variant_under_name]
  simp only [content, Reader.mapped, Reader.float_encode, Ieee.Single.toSingle_toDouble]

theorem read_double (depth : Nat) (number : Ieee.Double) (rest : Bytes) :
    read (depth + 1) ((Value.double number).toItem.encode ++ rest) = .ok (.double number, rest) := by
  rw [read_succ, toItem, variant_under_name]
  simp only [content, Reader.mapped, Reader.float_encode]

theorem length_under_name (kind : TypeKind) (item : Item) :
    item.encode.length ≤ (underName kind item).encode.length := by
  simp only [underName, Item.encode, Item.encodeEntries, List.length_append]
  omega

theorem length_array (items : List Item) :
    (Item.encodeAll items).length ≤ (Item.array items).encode.length := by
  simp only [Item.encode, List.length_append]
  omega

theorem length_to_items (values : List Value) : (toItems values).length = values.length := by
  induction values with
  | nil => rfl
  | cons value rest ih => simp [toItems, ih]

theorem length_entry_items (entries : List (Value × Value)) :
    (entryItems entries).length = entries.length := by
  induction entries with
  | nil => rfl
  | cons entry rest ih => simp [entryItems, ih]

theorem levels_positive (value : Value) : 1 ≤ value.levels := by
  cases value <;> simp only [levels] <;> omega

theorem array_content_small (kind : TypeKind) (items : List Item)
    (small : (underName kind (.array items)).encode.length < UInt64.size) :
    (Item.encodeAll items).length < UInt64.size ∧ items.length < UInt64.size := by
  have inside := length_under_name kind (.array items)
  have behind := length_array items
  have counted := Reader.length_le_encode_all items
  exact ⟨by omega, by omega⟩

theorem values_at (depth : Nat) (values : List Value) (rest : Bytes)
    (small : values.length < UInt64.size)
    (inner : ∀ left, depth = left + 2 →
      Reader.itemsCounted (read left) values.length [] (Item.encodeAll (toItems values) ++ rest) =
        if levelsOfAll values ≤ left then .ok (values, rest) else .error .tooDeep) :
    valuesAt depth ((Item.array (toItems values)).encode ++ rest) =
      if 2 + levelsOfAll values ≤ depth then .ok (values, rest) else .error .tooDeep := by
  rw [Item.encode, length_to_items, List.append_assoc]
  cases depth with
  | zero =>
    rw [if_neg (by omega)]
    exact Reader.list_array _ _ _ _ small
  | succ above =>
    cases above with
    | zero =>
      rw [if_neg (by omega)]
      exact Reader.list_array _ _ _ _ small
    | succ left =>
      rw [valuesAt, listOf, Reader.list_array _ _ _ _ small, Reader.items, inner left rfl]
      by_cases fits : levelsOfAll values ≤ left
      · rw [if_pos fits, if_pos (by omega)]
      · rw [if_neg fits, if_neg (by omega)]

theorem pair_too_deep (pair : Value × Value) (rest : Bytes) :
    Reader.pair (α := Value) (fun _ _ => .error .tooDeep)
      ((Item.array [pair.1.toItem, pair.2.toItem]).encode ++ rest) = .error .tooDeep := by
  rw [Item.encode, List.append_assoc]
  exact Reader.pair_array _ _ _ (by simp [UInt64.size])

theorem entries_at (depth : Nat) (entries : List (Value × Value)) (rest : Bytes)
    (small : entries.length < UInt64.size)
    (inner : ∀ left, depth = left + 3 →
      Reader.itemsCounted (Reader.pair (Reader.pairItems (read left))) entries.length []
          (Item.encodeAll (entryItems entries) ++ rest) =
        if levelsOfEntries entries ≤ left + 1 then .ok (entries, rest) else .error .tooDeep) :
    entriesAt depth ((Item.array (entryItems entries)).encode ++ rest) =
      if 2 + levelsOfEntries entries ≤ depth then .ok (entries, rest) else .error .tooDeep := by
  rw [Item.encode, length_entry_items, List.append_assoc]
  cases depth with
  | zero =>
    rw [if_neg (by omega)]
    exact Reader.list_array _ _ _ _ small
  | succ above =>
    cases above with
    | zero =>
      rw [if_neg (by omega)]
      exact Reader.list_array _ _ _ _ small
    | succ less =>
      cases less with
      | zero =>
        rw [entriesAt, listOf, Reader.list_array _ _ _ _ small, Reader.items]
        cases entries with
        | nil => rfl
        | cons entry others =>
          obtain ⟨key, value⟩ := entry
          have positive := levels_positive key
          rw [if_neg (by simp only [levelsOfEntries]; omega)]
          simp only [entryItems, Item.encodeAll, List.append_assoc, List.length_cons, Reader.itemsCounted]
          rw [pair_too_deep (key, value)]
      | succ left =>
        rw [entriesAt, listOf, Reader.list_array _ _ _ _ small, Reader.items, inner left rfl]
        by_cases fits : levelsOfEntries entries ≤ left + 1
        · rw [if_pos fits, if_pos (by omega)]
        · rw [if_neg fits, if_neg (by omega)]

theorem pair_items (left : Nat) (key value : Value) (rest : Bytes)
    (first : ∀ behind, read left (key.toItem.encode ++ behind) =
      if key.levels ≤ left then .ok (key, behind) else .error .tooDeep)
    (second : ∀ behind, read left (value.toItem.encode ++ behind) =
      if value.levels ≤ left then .ok (value, behind) else .error .tooDeep) :
    Reader.pair (Reader.pairItems (read left))
        ((Item.array [key.toItem, value.toItem]).encode ++ rest) =
      if max key.levels value.levels ≤ left then .ok ((key, value), rest) else .error .tooDeep := by
  rw [Item.encode, List.append_assoc, Reader.pair_array _ _ _ (by simp [UInt64.size])]
  simp only [Item.encodeAll, List.append_nil, List.append_assoc, Reader.pairItems, List.length_cons,
    List.length_nil, first]
  by_cases keyFits : key.levels ≤ left
  · simp only [if_pos keyFits, Option.map_some, second]
    by_cases valueFits : value.levels ≤ left
    · simp [keyFits, valueFits]
    · simp [valueFits]
  · simp [keyFits]

-- The induction is on the value. A list leaves two levels less to its items, and a pair one more.
mutual

theorem read_value (depth : Nat) (value : Value) (rest : Bytes)
    (small : value.toItem.encode.length < UInt64.size) :
    read depth (value.toItem.encode ++ rest) =
      if value.levels ≤ depth then .ok (value, rest) else .error .tooDeep := by
  cases depth with
  | zero =>
    have positive := levels_positive value
    rw [if_neg (by omega)]
    exact too_deep_value value rest
  | succ depth =>
    cases value with
    | null =>
      rw [read_succ, variant_null]
      simp [levels]
    | boolean flag => rw [read_boolean]; simp [levels]
    | byte number => rw [read_byte]; simp [levels]
    | short number => rw [read_short]; simp [levels]
    | int number => rw [read_int]; simp [levels]
    | long number => rw [read_long]; simp [levels]
    | float number => rw [read_float]; simp [levels]
    | double number => rw [read_double]; simp [levels]
    | string text =>
      have inside := length_under_name .string (.text text)
      have textSmall : (Bytes.ofText text).length < UInt64.size := by
        rw [toItem] at small
        simp only [Item.encode, List.length_append] at inside
        omega
      rw [read_succ, toItem, variant_under_name]
      simp only [content, Reader.mapped, Reader.text_encode text rest textSmall]
      simp [levels]
    | binary bytes =>
      rw [toItem] at small
      have bounds := array_content_small _ _ small
      rw [read_succ, toItem, variant_under_name]
      simp only [content, Reader.mapped, octets_at _ bytes rest (by simpa using bounds.2)]
      have levels : (Value.binary bytes).levels = 2 := by simp only [Value.levels]
      rw [levels]
      by_cases fits : 2 ≤ depth + 1
      · simp only [if_pos fits]
      · simp only [if_neg fits]
    | list items =>
      rw [toItem] at small
      have bounds := array_content_small _ _ small
      rw [length_to_items] at bounds
      rw [read_succ, toItem, variant_under_name]
      simp only [content, Reader.mapped]
      rw [values_at _ items rest bounds.2 fun left _ => by
        simpa using read_values left items [] rest bounds.1]
      have levels : (Value.list items).levels = 2 + levelsOfAll items := by simp only [Value.levels]
      rw [levels]
      by_cases fits : 2 + levelsOfAll items ≤ depth + 1
      · simp only [if_pos fits]
      · simp only [if_neg fits]
    | map entries =>
      rw [toItem] at small
      have bounds := array_content_small _ _ small
      rw [length_entry_items] at bounds
      rw [read_succ, toItem, variant_under_name]
      simp only [content, Reader.mapped]
      rw [entries_at _ entries rest bounds.2 fun left _ => by
        simpa using read_entries left entries [] rest bounds.1]
      have levels : (Value.map entries).levels = 2 + levelsOfEntries entries := by simp only [Value.levels]
      rw [levels]
      by_cases fits : 2 + levelsOfEntries entries ≤ depth + 1
      · simp only [if_pos fits]
      · simp only [if_neg fits]
    | struct members =>
      rw [toItem] at small
      have bounds := array_content_small _ _ small
      rw [length_to_items] at bounds
      rw [read_succ, toItem, variant_under_name]
      simp only [content, Reader.mapped]
      rw [values_at _ members rest bounds.2 fun left _ => by
        simpa using read_values left members [] rest bounds.1]
      have levels : (Value.struct members).levels = 2 + levelsOfAll members := by simp only [Value.levels]
      rw [levels]
      by_cases fits : 2 + levelsOfAll members ≤ depth + 1
      · simp only [if_pos fits]
      · simp only [if_neg fits]
termination_by sizeOf value

theorem read_values (depth : Nat) (values found : List Value) (rest : Bytes)
    (small : (Item.encodeAll (toItems values)).length < UInt64.size) :
    Reader.itemsCounted (read depth) values.length found (Item.encodeAll (toItems values) ++ rest) =
      if levelsOfAll values ≤ depth then .ok (found.reverse ++ values, rest)
      else .error .tooDeep := by
  cases values with
  | nil => simp [Reader.itemsCounted, toItems, Item.encodeAll, levelsOfAll]
  | cons value others =>
    simp only [toItems, Item.encodeAll, List.length_append] at small
    have first := read_value depth value (Item.encodeAll (toItems others) ++ rest) (by omega)
    have remaining := read_values depth others (value :: found) rest (by omega)
    simp only [toItems, Item.encodeAll, List.append_assoc, List.length_cons, Reader.itemsCounted, first]
    by_cases fits : value.levels ≤ depth
    · rw [if_pos fits]
      simp only [remaining, levelsOfAll, Nat.max_le, fits, true_and, List.reverse_cons,
        List.append_assoc, List.singleton_append]
    · rw [if_neg fits, if_neg (by simp only [levelsOfAll]; omega)]
termination_by sizeOf values

theorem read_entries (depth : Nat) (entries found : List (Value × Value)) (rest : Bytes)
    (small : (Item.encodeAll (entryItems entries)).length < UInt64.size) :
    Reader.itemsCounted (Reader.pair (Reader.pairItems (read depth))) entries.length found
        (Item.encodeAll (entryItems entries) ++ rest) =
      if levelsOfEntries entries ≤ depth + 1 then .ok (found.reverse ++ entries, rest)
      else .error .tooDeep := by
  match entries, small with
  | [], _ => simp [Reader.itemsCounted, entryItems, Item.encodeAll, levelsOfEntries]
  | (key, value) :: others, small =>
    simp only [entryItems, Item.encodeAll, Item.encode, List.length_append, List.append_nil] at small
    have first := pair_items depth key value (Item.encodeAll (entryItems others) ++ rest)
      (fun behind => read_value depth key behind (by omega))
      (fun behind => read_value depth value behind (by omega))
    have remaining := read_entries depth others ((key, value) :: found) rest (by omega)
    simp only [entryItems, Item.encodeAll, List.append_assoc, List.length_cons, Reader.itemsCounted, first]
    by_cases fits : max key.levels value.levels ≤ depth
    · have pairFits : 1 + max key.levels value.levels ≤ depth + 1 := by omega
      rw [if_pos fits]
      simp only [remaining, levelsOfEntries, Nat.max_le (b := levelsOfEntries others), pairFits, true_and,
        List.reverse_cons, List.append_assoc, List.singleton_append]
    · rw [if_neg fits, if_neg (by simp only [levelsOfEntries]; omega)]
termination_by sizeOf entries

end

theorem encode_stream_items (values : List Value) :
    encodeStream values = headBytes 4 values.length ++ Item.encodeAll (toItems values) := by
  have content : values.flatMap (fun value => value.toItem.encode) = Item.encodeAll (toItems values) := by
    induction values with
    | nil => rfl
    | cons value rest ih => rw [List.flatMap_cons, ih, toItems, Item.encodeAll]
  rw [encodeStream, content]

theorem decode_stream_encode (values : List Value) (rest : Bytes)
    (small : (encodeStream values).length < UInt64.size) :
    decodeStream (encodeStream values ++ rest) =
      if levelsOfAll values < depthLimit then .ok values else .error .tooDeep := by
  have counted := Reader.length_le_encode_all (toItems values)
  rw [encode_stream_items, List.length_append] at small
  rw [length_to_items] at counted
  have items := read_values (depthLimit - 1) values [] rest (by omega)
  have limit : levelsOfAll values ≤ depthLimit - 1 ↔ levelsOfAll values < depthLimit := by
    rw [depthLimit]
    omega
  rw [decodeStream, encode_stream_items, List.append_assoc, listOf,
    Reader.list_array _ _ _ _ (by omega), Reader.items, items]
  by_cases fits : levelsOfAll values < depthLimit
  · simp only [if_pos fits, if_pos (limit.mpr fits), List.reverse_nil, List.nil_append]
  · simp only [if_neg fits, if_neg (mt limit.mp fits)]

end Value

end Columnar
