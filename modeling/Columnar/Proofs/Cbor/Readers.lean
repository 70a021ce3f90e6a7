import Columnar.Cbor.Record
import Columnar.Proofs.Cbor.Heads
import Mathlib.Data.List.Forall2

set_option autoImplicit false

namespace Columnar

theorem Bytes.of_text_eq_iff (a b : String) : ofText a = ofText b ↔ a = b := by
  constructor
  · intro same
    have texts := congrArg toText? same
    simpa only [toText_ofText, Option.some.injEq] using texts
  · intro same
    rw [same]

namespace Cbor

namespace Reader

theorem untagged_of_read (bytes rest : Bytes) (head : Head)
    (read : Head.read bytes = .ok (head, rest)) (plain : ∀ number, head ≠ .tag number) :
    untagged bytes = .ok (head, rest) := by
  unfold untagged
  split
  · rename_i fault failed
    rw [read] at failed
    cases failed
  · rename_i number behind tagged
    rw [read] at tagged
    cases tagged
    exact absurd rfl (plain number)
  · rename_i other behind _ found
    rw [read] at found
    cases found
    rfl

theorem variant_start_map (rest : Bytes) : variantStart (headBytes 5 1 ++ rest) = .ok rest := by
  have read : Head.read (headBytes 5 1 ++ rest) = .ok (.map (some 1), rest) :=
    read_head_bytes 5 1 rest _ (by decide) (by decide) fun _ => rfl
  unfold variantStart
  split <;> rename_i found <;> rw [read] at found <;> cases found
  · rfl
  · simp_all

theorem variant_start_text (length : Nat) (rest : Bytes) (small : length < UInt64.size) :
    variantStart (headBytes 3 length ++ rest) = .ok (headBytes 3 length ++ rest) := by
  have read : Head.read (headBytes 3 length ++ rest) = .ok (.text (some length), rest) :=
    read_head_bytes 3 length rest _ (by decide) small fun _ => rfl
  unfold variantStart
  split <;> rename_i found <;> rw [read] at found <;> cases found
  rename_i noText
  exact absurd rfl (noText (some length) rest)

theorem text_of_length_append (content : String) (rest : Bytes) :
    textOfLength (Bytes.ofText content).length (Bytes.ofText content ++ rest) =
      .ok (content, rest) := by
  simp only [textOfLength, List.take_left', List.drop_left', Nat.lt_irrefl, if_false,
    Bytes.toText_ofText]

theorem text_encode (content : String) (rest : Bytes)
    (small : (Bytes.ofText content).length < UInt64.size) :
    text ((Item.text content).encode ++ rest) = .ok (content, rest) := by
  have read := read_head_bytes 3 _ (Bytes.ofText content ++ rest)
    (.text (some (Bytes.ofText content).length)) (by decide) small fun _ => rfl
  rw [Item.encode, List.append_assoc, text, untagged_of_read _ _ _ read (by simp)]
  exact text_of_length_append content rest

theorem name_encode (content : String) (rest : Bytes)
    (short : (Bytes.ofText content).length ≤ pieceSize) :
    name ((Item.text content).encode ++ rest) = .ok (Bytes.ofText content, rest) := by
  have small : (Bytes.ofText content).length < UInt64.size := by
    rw [pieceSize] at short
    rw [UInt64.size]
    omega
  have read := read_head_bytes 3 _ (Bytes.ofText content ++ rest)
    (.text (some (Bytes.ofText content).length)) (by decide) small fun _ => rfl
  rw [Item.encode, List.append_assoc, name, untagged_of_read _ _ _ read (by simp)]
  simp only [if_pos short, mapped, text_of_length_append]

theorem boolean_encode (flag : Bool) (rest : Bytes) :
    boolean ((Item.ofBool flag).encode ++ rest) = .ok (flag, rest) := by
  rw [boolean, untagged_of_read _ _ _ (read_boolean_head flag rest) (by simp)]
  cases flag <;> rfl

theorem float_encode (number : Ieee.Double) (rest : Bytes) :
    float ((Item.float number).encode ++ rest) = .ok (number, rest) := by
  rw [Item.encode, float, untagged_of_read _ _ _ (read_float_bytes number rest) (by simp)]

theorem integer_encode (number : Int) (rest : Bytes)
    (within : -(UInt64.size : Int) ≤ number ∧ number < UInt64.size) :
    integer ((Item.ofInt number).encode ++ rest) = .ok (number, rest) := by
  cases number with
  | ofNat magnitude =>
    have read : Head.read ((Item.ofInt (.ofNat magnitude)).encode ++ rest) =
        .ok (.unsigned magnitude, rest) :=
      read_head_bytes 0 magnitude rest _ (by decide) (by simpa using within.2) fun _ => rfl
    unfold integer
    split <;> rename_i found <;> rw [read] at found <;> cases found <;> simp_all
  | negSucc magnitude =>
    have read : Head.read ((Item.ofInt (.negSucc magnitude)).encode ++ rest) =
        .ok (.negative magnitude, rest) :=
      read_head_bytes 1 magnitude rest _ (by decide) (by omega) fun _ => rfl
    unfold integer
    split <;> rename_i found <;> rw [read] at found <;> cases found <;> simp_all

theorem integer_within_encode (low high number : Int) (rest : Bytes)
    (within : -(UInt64.size : Int) ≤ number ∧ number < UInt64.size)
    (inside : low ≤ number ∧ number ≤ high) :
    integerWithin low high ((Item.ofInt number).encode ++ rest) = .ok (number, rest) := by
  simp only [integerWithin, checked, integer_encode number rest within, if_pos inside]

theorem natural_below_encode (bound number : Nat) (rest : Bytes) (bounded : bound ≤ UInt64.size)
    (small : number < bound) :
    naturalBelow bound ((Item.unsigned number).encode ++ rest) = .ok (number, rest) := by
  have read : integer ((Item.unsigned number).encode ++ rest) = .ok ((number : Int), rest) :=
    integer_encode number rest ⟨by omega, by omega⟩
  have inside : (0 : Int) ≤ number ∧ (number : Int) < bound := ⟨by omega, by omega⟩
  simp only [naturalBelow, checked, read, if_pos inside, Int.toNat_natCast]

theorem list_array {α : Type} (ofByte : UInt8 → Option α) (content : Option Nat → Reader (List α))
    (count : Nat) (rest : Bytes) (small : count < UInt64.size) :
    list ofByte content (headBytes 4 count ++ rest) = content (some count) rest := by
  have read : Head.read (headBytes 4 count ++ rest) = .ok (.array (some count), rest) :=
    read_head_bytes 4 count rest _ (by decide) small fun _ => rfl
  rw [list, untagged_of_read _ _ _ read (by simp)]

theorem pair_array {α : Type} (content : Option Nat → Reader (α × α)) (count : Nat) (rest : Bytes)
    (small : count < UInt64.size) :
    pair content (headBytes 4 count ++ rest) = content (some count) rest := by
  have read : Head.read (headBytes 4 count ++ rest) = .ok (.array (some count), rest) :=
    read_head_bytes 4 count rest _ (by decide) small fun _ => rfl
  rw [pair, untagged_of_read _ _ _ read (by simp)]

def Takes {α : Type} (reader : Reader α) (item : Item) (content : α) : Prop :=
  ∀ rest, reader (item.encode ++ rest) = .ok (content, rest)

theorem items_counted_takes {α : Type} {item : Reader α} {forms : List Item} {contents : List α}
    (each : List.Forall₂ (Takes item) forms contents) (read : List α) (rest : Bytes) :
    itemsCounted item forms.length read (Item.encodeAll forms ++ rest) =
      .ok (read.reverse ++ contents, rest) := by
  induction each generalizing read with
  | nil => simp [itemsCounted, Item.encodeAll]
  | @cons form content forms contents first others ih =>
    simp only [Item.encodeAll, List.append_assoc, List.length_cons, itemsCounted, first _]
    rw [ih (content :: read), List.reverse_cons, List.append_assoc, List.singleton_append]

theorem item_encode_nonempty (item : Item) : 0 < item.encode.length := by
  have head := head_bytes_nonempty
  cases item with
  | unsigned number => exact head 0 number
  | negative number => exact head 1 number
  | bytes content => simpa [Item.encode] using .inl (head 2 content.length)
  | text content => simpa [Item.encode] using .inl (head 3 (Bytes.ofText content).length)
  | array items => simpa [Item.encode] using .inl (head 4 items.length)
  | map entries => simpa [Item.encode] using .inl (head 5 entries.length)
  | simple number => exact head 7 number
  | float number =>
    simp only [Item.encode, floatBytes]
    split <;> (try split) <;> simp

theorem length_le_encode_all (items : List Item) : items.length ≤ (Item.encodeAll items).length := by
  induction items with
  | nil => simp
  | cons item items ih =>
    have first := item_encode_nonempty item
    simp only [Item.encodeAll, List.length_append, List.length_cons]
    omega

theorem list_takes {α : Type} (ofByte : UInt8 → Option α) {item : Reader α} {forms : List Item}
    {contents : List α} (small : forms.length < UInt64.size)
    (each : List.Forall₂ (Takes item) forms contents) :
    Takes (list ofByte (items item)) (.array forms) contents := by
  intro rest
  rw [Item.encode, List.append_assoc, list_array _ _ _ _ small]
  exact items_counted_takes each [] rest

end Reader

end Cbor

end Columnar
