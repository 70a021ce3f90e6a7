import Columnar.Proofs.Cbor.Rearranged

/-!
Records are read into a draft, entry by entry. Which fields the draft has does not depend on the
order of the entries, and an entry that is no field of the record leaves the draft as it was.
-/

set_option autoImplicit false

namespace Columnar.Cbor

namespace Reader

def Restores {α : Type} (reader : Reader α) (item : Item) (content : α) : Prop :=
  ∀ other, item.Rearranged other → other.encode.length < UInt64.size → Takes reader other content

theorem takes_all {α : Type} {item : Reader α} {form : α → Item} {contents : List α}
    {others : List Item} (each : ∀ content ∈ contents, Restores item (form content) content)
    (forms : List.Forall₂ Item.Rearranged (contents.map form) others)
    (small : (Item.encodeAll others).length < UInt64.size) :
    List.Forall₂ (Takes item) others contents := by
  induction contents generalizing others with
  | nil =>
    cases forms
    exact .nil
  | cons content rest ih =>
    rw [List.forall_mem_cons] at each
    cases forms with
    | cons first later =>
      rw [Item.encodeAll, List.length_append] at small
      exact .cons (each.1 _ first (by omega)) (ih each.2 later (by omega))

theorem restores_list {α : Type} (ofByte : UInt8 → Option α) {item : Reader α} {form : α → Item}
    {contents : List α} (each : ∀ content ∈ contents, Restores item (form content) content) :
    Restores (list ofByte (items item)) (.array (contents.map form)) contents := by
  intro array rearranged small
  obtain ⟨others, rfl, forms⟩ := rearranged.items_of_array
  have counted := length_le_encode_all others
  rw [Item.encode, List.length_append] at small
  exact list_takes ofByte (by omega) (takes_all each forms (by omega))

def given {α : Type} (filled : List String) (name : String) (value : α) : Option α :=
  if name ∈ filled then some value else none

theorem given_mem {α : Type} {filled : List String} {name : String} (value : α)
    (present : name ∈ filled) : given filled name value = some value :=
  if_pos present

theorem given_or_default {α : Type} {filled : List String} {name : String} {value default : α}
    (present : name ∈ filled ∨ value = default) : (given filled name value).getD default = value := by
  rw [given]
  split
  · rfl
  · exact (present.resolve_left ‹_›).symm

def Fills {σ : Type} (draft : List String → σ) (name : String) (read : σ → Reader σ)
    (content : Item) : Prop :=
  ∀ filled, name ∉ filled → Restores (read (draft filled)) content (draft (name :: filled))

def Knows {σ : Type} (draft : List String → σ) (known : Fields σ) (fields : List (String × Item)) :
    Prop :=
  List.Forall₂ (fun field record => field.1 = record.1 ∧
    (Bytes.ofText field.1).length ≤ pieceSize ∧ Fills draft field.1 field.2 record.2) known fields

theorem knows_once {α σ : Type} {draft : List String → σ} {name : String} {content : Item}
    {known : Fields σ} {fields : List (String × Item)} {old : σ → Option α} {store : σ → α → σ}
    {reader : Reader α} {value : α} (short : (Bytes.ofText name).length ≤ pieceSize)
    (held : ∀ filled, old (draft filled) = given filled name value)
    (stored : ∀ filled, store (draft filled) value = draft (name :: filled))
    (restored : Restores reader content value) (others : Knows draft known fields) :
    Knows draft ((name, fun draft => once (old draft) (store draft) reader) :: known)
      ((name, content) :: fields) := by
  refine .cons ⟨rfl, short, ?_⟩ others
  intro filled fresh item rearranged small rest
  have taken := restored item rearranged small rest
  simp only [held, given, if_neg fresh, once, mapped, taken, stored]

section Known

variable {σ : Type} {draft : List String → σ} {known : Fields σ} {fields : List (String × Item)}

theorem knows_names (knows : Knows draft known fields) : known.map (·.1) = fields.map (·.1) := by
  induction knows with
  | nil => rfl
  | cons first _ ih => rw [List.map_cons, List.map_cons, first.1, ih]

theorem knows_field (knows : Knows draft known fields) (distinct : (fields.map (·.1)).Nodup)
    {name : String} {content : Item} (member : (name, content) ∈ fields) :
    ∃ read, known.find? (fun field => field.1 = name) = some (name, read) ∧
      (Bytes.ofText name).length ≤ pieceSize ∧ Fills draft name read content := by
  induction knows with
  | nil => cases member
  | @cons field record known fields first others ih =>
    obtain ⟨same, short, fills⟩ := first
    rw [List.map_cons, List.nodup_cons] at distinct
    by_cases here : field.1 = name
    · obtain rfl | later := List.mem_cons.mp member
      · subst here
        exact ⟨field.2, List.find?_cons_of_pos (by simp), short, fills⟩
      · rw [← same, here] at distinct
        exact absurd (List.mem_map_of_mem (f := Prod.fst) later) distinct.1
    · obtain rfl | later := List.mem_cons.mp member
      · exact absurd same here
      · rw [List.find?_cons_of_neg (by simpa using here)]
        exact ih distinct.2 later

theorem field_entry_known (depth : Nat) (knows : Knows draft known fields)
    (distinct : (fields.map (·.1)).Nodup) {name : String} {content value : Item}
    (member : (name, content) ∈ fields) (rearranged : content.Rearranged value)
    (small : value.encode.length < UInt64.size) (filled : List String) (fresh : name ∉ filled)
    (rest : Bytes) :
    fieldEntry known depth (draft filled) ((Item.text name).encode ++ (value.encode ++ rest)) =
      .ok (draft (name :: filled), rest) := by
  obtain ⟨read, found, short, fills⟩ := knows_field knows distinct member
  have taken := fills filled fresh value rearranged small rest
  simp only [fieldEntry, name_encode name _ short, Bytes.of_text_eq_iff, found, taken]

theorem field_entry_foreign (depth : Nat) (knows : Knows draft known fields) {entry : Item × Item}
    (foreign : Item.Foreign (fields.map fun field => .text field.1) entry) (deep : 79 ≤ depth)
    (small : entry.2.encode.length < UInt64.size) (gathered : σ) (rest : Bytes) :
    fieldEntry known depth gathered (entry.1.encode ++ (entry.2.encode ++ rest)) =
      .ok (gathered, rest) := by
  obtain ⟨⟨name, key, unknown, short⟩, plain, shallow⟩ := foreign
  have unknown : known.find? (fun field => field.1 = name) = none := by
    rw [List.find?_eq_none]
    intro field member same
    refine unknown ?_
    have listed := List.mem_map_of_mem (f := Prod.fst) member
    rw [knows_names knows, of_decide_eq_true same] at listed
    obtain ⟨record, own, alike⟩ := List.mem_map.mp listed
    exact List.mem_map.mpr ⟨record, own, congrArg Item.text alike⟩
  have named := name_encode name (entry.2.encode ++ rest) (by rw [pieceSize]; omega)
  have skipped := skip_plain entry.2 depth rest plain (by omega) small
  simp only [key, fieldEntry, named, Bytes.of_text_eq_iff, unknown, mapped, skipped]

-- The induction is on the entries that are left. None of them is a field that the draft has.
theorem entries_counted_fielded (depth : Nat) (knows : Knows draft known fields)
    (distinct : (fields.map (·.1)).Nodup) (deep : 79 ≤ depth) (entries : List (Item × Item))
    (small : (Item.encodeEntries entries).length < UInt64.size) (filled : List String)
    (each : ∀ entry ∈ entries, (∃ name content, entry.1 = .text name ∧ (name, content) ∈ fields ∧
      content.Rearranged entry.2) ∨ Item.Foreign (fields.map fun field => .text field.1) entry)
    (once : (Item.fieldNames fields entries ++ filled).Nodup) (rest : Bytes) :
    entriesCounted (fieldEntry known depth) entries.length (draft filled)
        (Item.encodeEntries entries ++ rest) =
      .ok (draft ((Item.fieldNames fields entries).reverse ++ filled), rest) := by
  induction entries generalizing filled with
  | nil => rfl
  | cons entry entries ih =>
    rw [List.forall_mem_cons] at each
    obtain ⟨first, later⟩ := each
    simp only [Item.encodeEntries, List.length_append] at small
    simp only [Item.encodeEntries, List.append_assoc, List.length_cons, entriesCounted]
    obtain ⟨name, content, key, member, rearranged⟩ | foreign := first
    · have named := Item.field_name_mem (List.mem_map_of_mem (f := Prod.fst) member)
      rw [Item.fieldNames, List.map_cons, key, List.filterMap_cons_some named] at once ⊢
      have fresh : name ∉ filled := fun old =>
        (List.nodup_cons.mp once).1 (List.mem_append_right _ old)
      rw [field_entry_known depth knows distinct member rearranged (by omega) filled fresh]
      have moved := ih (by omega) (name :: filled) later (List.perm_middle.nodup_iff.mpr once)
      rw [List.reverse_cons, List.append_assoc, List.singleton_append]
      exact moved
    · have unnamed := Item.field_name_foreign foreign
      rw [Item.fieldNames, List.map_cons, List.filterMap_cons_none unnamed] at once ⊢
      rw [field_entry_foreign depth knows foreign deep (by omega)]
      exact ih (by omega) filled later once

variable (draft) in
theorem restores_fields {τ : Type} (depth : Nat) (knows : Knows draft known fields)
    (distinct : (fields.map (·.1)).Nodup) (deep : 79 ≤ depth) (complete : σ → Option τ) (result : τ)
    (completed : ∀ filled,
      (∀ field ∈ fields, field.1 ∈ filled ∨ field = ("field_names", .array [])) →
        complete (draft filled) = some result) :
    Restores (Reader.fields known depth (draft []) complete) (.record fields) result := by
  intro item rearranged small rest
  obtain ⟨entries, rfl, fielded⟩ := Item.fielded_of_record distinct rearranged
  rw [Item.encode, List.length_append] at small
  have counted := length_le_encode_entries entries
  have read := read_head_bytes 5 entries.length (Item.encodeEntries entries ++ rest)
    (.map (some entries.length)) (by decide) (by omega) fun _ => rfl
  have entered := untagged_of_read _ _ _ read (by simp)
  have content := entries_counted_fielded depth knows distinct deep entries (by omega) []
    fielded.each (by rw [List.append_nil]; exact fielded.distinct) rest
  have last := completed ((Item.fieldNames fields entries).reverse ++ []) (by
    intro field member
    rw [List.append_nil, List.mem_reverse]
    exact fielded.every field member)
  rw [Item.encode, List.append_assoc, Reader.fields, checked, record, entered]
  simp only [Reader.entries, content, last]

end Known

end Reader

end Columnar.Cbor
