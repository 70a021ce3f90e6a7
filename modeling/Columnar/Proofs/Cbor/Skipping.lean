import Columnar.Cbor.Skip
import Columnar.Proofs.Cbor.Readers

set_option autoImplicit false

namespace Columnar.Cbor

namespace Item

mutual

def nesting : Item → Nat
  | .array items => nestingOfAll items + 1
  | .map entries => nestingOfEntries entries + 1
  | _ => 0

def nestingOfAll : List Item → Nat
  | [] => 0
  | item :: rest => max item.nesting (nestingOfAll rest)

def nestingOfEntries : List (Item × Item) → Nat
  | [] => 0
  | (key, value) :: rest => max (max key.nesting value.nesting) (nestingOfEntries rest)

end

mutual

def Plain : Item → Prop
  | .unsigned number => number < UInt64.size
  | .negative number => number < UInt64.size
  | .simple number => number = 20 ∨ number = 21 ∨ number = 22
  | .array items => AllPlain items
  | .map entries => EntriesPlain entries
  | .bytes _ | .text _ | .float _ => True

def AllPlain : List Item → Prop
  | [] => True
  | item :: rest => item.Plain ∧ AllPlain rest

def EntriesPlain : List (Item × Item) → Prop
  | [] => True
  | (key, value) :: rest => key.Plain ∧ value.Plain ∧ EntriesPlain rest

end

end Item

namespace Reader

def inner? : Nat → Option (Reader Unit)
  | 0 => none
  | depth + 1 => some (skip depth)

theorem skip_eq (depth : Nat) : skip depth = skipWith (inner? depth) := by
  cases depth <;> rfl

theorem bytes_of_length_append (content rest : Bytes) :
    bytesOfLength content.length (content ++ rest) = .ok (content, rest) := by
  simp only [bytesOfLength, List.take_left', List.drop_left', Nat.lt_irrefl, if_false]

theorem read_simple_head (number : Nat) (rest : Bytes) (small : number < 24) :
    Head.read (headBytes 7 number ++ rest) = .ok (.simple number, rest) := by
  rw [headBytes, if_pos small]
  refine read_first 7 number (by omega) (by omega) rest rest (.number 0 number) _ ?_ rfl
  rw [Argument.read, if_pos small]

def skipEntry (depth : Nat) : Unit → Reader Unit := fun _ bytes =>
  match skip depth bytes with
  | .error fault => .error fault
  | .ok ((), behind) => skip depth behind

theorem skip_array (depth count : Nat) (rest : Bytes) (small : count < UInt64.size) :
    skip (depth + 1) (headBytes 4 count ++ rest) =
      entriesCounted (fun _ => skip depth) count () rest := by
  have read := read_head_bytes 4 count rest (.array (some count)) (by decide) small fun _ => rfl
  simp only [skip, skipWith, read, entries]

theorem skip_map (depth count : Nat) (rest : Bytes) (small : count < UInt64.size) :
    skip (depth + 1) (headBytes 5 count ++ rest) = entriesCounted (skipEntry depth) count () rest := by
  have read := read_head_bytes 5 count rest (.map (some count)) (by decide) small fun _ => rfl
  simp only [skip, skipWith, read, entries]
  rfl

theorem length_le_encode_entries (entries : List (Item × Item)) :
    entries.length ≤ (Item.encodeEntries entries).length := by
  induction entries with
  | nil => exact Nat.zero_le _
  | cons entry rest ih =>
    obtain ⟨key, value⟩ := entry
    have first := item_encode_nonempty key
    simp only [Item.encodeEntries, List.length_append, List.length_cons]
    omega

-- The induction is on the item. What is nested in it has a level less.
mutual

theorem skip_plain (item : Item) (depth : Nat) (rest : Bytes) (plain : item.Plain)
    (shallow : item.nesting ≤ depth) (small : item.encode.length < UInt64.size) :
    skip depth (item.encode ++ rest) = .ok ((), rest) := by
  match item with
  | .unsigned number =>
    have read := read_head_bytes 0 number rest (.unsigned number) (by decide)
      (by simpa only [Item.Plain] using plain) fun _ => rfl
    simp only [skip_eq, skipWith, Item.encode, read]
  | .negative number =>
    have read := read_head_bytes 1 number rest (.negative number) (by decide)
      (by simpa only [Item.Plain] using plain) fun _ => rfl
    simp only [skip_eq, skipWith, Item.encode, read]
  | .bytes content =>
    simp only [Item.encode, List.length_append] at small
    have read := read_head_bytes 2 content.length (content ++ rest) (.bytes (some content.length))
      (by decide) (by omega) fun _ => rfl
    simp only [skip_eq, skipWith, Item.encode, List.append_assoc, read, discard, mapped, bytesContent,
      bytes_of_length_append]
  | .text content =>
    simp only [Item.encode, List.length_append] at small
    have read := read_head_bytes 3 (Bytes.ofText content).length (Bytes.ofText content ++ rest)
      (.text (some (Bytes.ofText content).length)) (by decide) (by omega) fun _ => rfl
    simp only [skip_eq, skipWith, Item.encode, List.append_assoc, read, discard, mapped, textContent,
      text_of_length_append]
  | .simple number =>
    simp only [Item.Plain] at plain
    have known : 20 ≤ number ∧ number ≤ 23 := by omega
    simp only [skip_eq, skipWith, Item.encode, read_simple_head number rest (by omega), if_pos known]
  | .float number =>
    simp only [skip_eq, skipWith, Item.encode, read_float_bytes]
  | .array items =>
    simp only [Item.Plain] at plain
    simp only [Item.nesting] at shallow
    simp only [Item.encode, List.length_append] at small
    have counted := length_le_encode_all items
    obtain ⟨less, rfl⟩ : ∃ less, depth = less + 1 := ⟨depth - 1, by omega⟩
    rw [Item.encode, List.append_assoc, skip_array less items.length _ (by omega)]
    exact skip_all_plain items less rest plain (by omega) (by omega)
  | .map entries =>
    simp only [Item.Plain] at plain
    simp only [Item.nesting] at shallow
    simp only [Item.encode, List.length_append] at small
    have counted := length_le_encode_entries entries
    obtain ⟨less, rfl⟩ : ∃ less, depth = less + 1 := ⟨depth - 1, by omega⟩
    rw [Item.encode, List.append_assoc, skip_map less entries.length _ (by omega)]
    exact skip_entries_plain entries less rest plain (by omega) (by omega)

theorem skip_all_plain (items : List Item) (depth : Nat) (rest : Bytes) (plain : Item.AllPlain items)
    (shallow : Item.nestingOfAll items ≤ depth)
    (small : (Item.encodeAll items).length < UInt64.size) :
    entriesCounted (fun _ => skip depth) items.length () (Item.encodeAll items ++ rest) =
      .ok ((), rest) := by
  match items with
  | [] => rfl
  | item :: others =>
    simp only [Item.AllPlain] at plain
    simp only [Item.nestingOfAll] at shallow
    simp only [Item.encodeAll, List.length_append] at small
    have first := skip_plain item depth (Item.encodeAll others ++ rest) plain.1 (by omega) (by omega)
    simp only [Item.encodeAll, List.append_assoc, List.length_cons, entriesCounted, first]
    exact skip_all_plain others depth rest plain.2 (by omega) (by omega)

theorem skip_entries_plain (entries : List (Item × Item)) (depth : Nat) (rest : Bytes)
    (plain : Item.EntriesPlain entries) (shallow : Item.nestingOfEntries entries ≤ depth)
    (small : (Item.encodeEntries entries).length < UInt64.size) :
    entriesCounted (skipEntry depth) entries.length () (Item.encodeEntries entries ++ rest) =
      .ok ((), rest) := by
  match entries with
  | [] => rfl
  | (key, value) :: others =>
    simp only [Item.EntriesPlain] at plain
    simp only [Item.nestingOfEntries] at shallow
    simp only [Item.encodeEntries, List.length_append] at small
    have first := skip_plain key depth (value.encode ++ (Item.encodeEntries others ++ rest)) plain.1
      (by omega) (by omega)
    have second := skip_plain value depth (Item.encodeEntries others ++ rest) plain.2.1
      (by omega) (by omega)
    simp only [Item.encodeEntries, List.append_assoc, List.length_cons, entriesCounted, skipEntry,
      first, second]
    exact skip_entries_plain others depth rest plain.2.2 (by omega) (by omega)

end

end Reader

end Columnar.Cbor
