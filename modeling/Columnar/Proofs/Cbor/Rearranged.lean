import Columnar.Proofs.Cbor.Skipping

/-!
Other forms of an item: in any of its records the entries in another order, entries with unknown keys
between them, and an empty list of field names left out.
-/

set_option autoImplicit false

namespace Columnar.Cbor.Item

structure Foreign (keys : List Item) (entry : Item × Item) : Prop where
  named : ∃ name, entry.1 = .text name ∧ Item.text name ∉ keys ∧ (Bytes.ofText name).length ≤ 255
  plain : entry.2.Plain
  shallow : entry.2.nesting < 80

mutual

inductive Rearranged : Item → Item → Prop where
  | same (item : Item) : Rearranged item item
  | array {items others : List Item} :
    List.Forall₂ Rearranged items others → Rearranged (.array items) (.array others)
  | map {entries kept extras others : List (Item × Item)} :
    Kept entries kept → (∀ extra ∈ extras, Foreign (entries.map (·.1)) extra) →
      others.Perm (kept ++ extras) → Rearranged (.map entries) (.map others)

inductive Kept : List (Item × Item) → List (Item × Item) → Prop where
  | nil : Kept [] []
  | entry {key value other : Item} {entries kept : List (Item × Item)} :
    Rearranged value other → Kept entries kept →
      Kept ((key, value) :: entries) ((key, other) :: kept)
  | omitted {entries kept : List (Item × Item)} :
    Kept entries kept → Kept ((.text "field_names", .array []) :: entries) kept

end

namespace Kept

theorem refl (entries : List (Item × Item)) : Kept entries entries := by
  induction entries with
  | nil => exact .nil
  | cons entry rest ih => exact .entry (.same entry.2) ih

theorem keys_sublist {entries kept : List (Item × Item)} (left : Kept entries kept) :
    (kept.map (·.1)).Sublist (entries.map (·.1)) := by
  induction entries generalizing kept with
  | nil =>
    cases left
    exact .slnil
  | cons entry rest ih =>
    cases left with
    | entry form others => exact (ih others).cons_cons _
    | omitted others => exact (ih others).cons _

theorem form_of_entry {entries kept : List (Item × Item)} (left : Kept entries kept) :
    ∀ entry ∈ kept, ∃ value, (entry.1, value) ∈ entries ∧ value.Rearranged entry.2 := by
  induction entries generalizing kept with
  | nil =>
    cases left
    simp
  | cons entry rest ih =>
    have later {others : List (Item × Item)} (left : Kept rest others) (other : Item × Item)
        (member : other ∈ others) :
        ∃ value, (other.1, value) ∈ entry :: rest ∧ value.Rearranged other.2 := by
      obtain ⟨value, found, form⟩ := ih left other member
      exact ⟨value, List.mem_cons_of_mem _ found, form⟩
    cases left with
    | entry form others =>
      rw [List.forall_mem_cons]
      exact ⟨⟨_, List.mem_cons_self, form⟩, later others⟩
    | omitted others => exact later others

theorem key_mem_or_omitted {entries kept : List (Item × Item)} (left : Kept entries kept) :
    ∀ entry ∈ entries, entry.1 ∈ kept.map (·.1) ∨ entry = (.text "field_names", .array []) := by
  induction entries generalizing kept with
  | nil => simp
  | cons entry rest ih =>
    rw [List.forall_mem_cons]
    cases left with
    | entry form others =>
      exact ⟨.inl List.mem_cons_self,
        fun other member => (ih others other member).imp_left (List.mem_cons_of_mem _)⟩
    | omitted others => exact ⟨.inr rfl, ih others⟩

end Kept

namespace Rearranged

theorem eq_of_unsigned {number : Nat} {item : Item} (rearranged : (unsigned number).Rearranged item) :
    item = .unsigned number := by
  cases rearranged
  rfl

theorem eq_of_text {content : String} {item : Item} (rearranged : (text content).Rearranged item) :
    item = .text content := by
  cases rearranged
  rfl

theorem eq_of_int {number : Int} {item : Item} (rearranged : (ofInt number).Rearranged item) :
    item = .ofInt number := by
  cases number with
  | ofNat magnitude => exact eq_of_unsigned rearranged
  | negSucc magnitude =>
    cases rearranged
    rfl

theorem items_of_array {items : List Item} {item : Item}
    (rearranged : (Item.array items).Rearranged item) :
    ∃ others, item = .array others ∧ List.Forall₂ Rearranged items others := by
  cases rearranged with
  | same => exact ⟨items, rfl, List.forall₂_same.mpr fun other _ => .same other⟩
  | array all => exact ⟨_, rfl, all⟩

theorem entries_of_map {entries : List (Item × Item)} {item : Item}
    (rearranged : (Item.map entries).Rearranged item) :
    ∃ kept extras others, item = .map others ∧ Kept entries kept ∧
      (∀ extra ∈ extras, Foreign (entries.map (·.1)) extra) ∧ others.Perm (kept ++ extras) := by
  cases rearranged with
  | same => exact ⟨entries, [], entries, rfl, .refl entries, by simp, by simp⟩
  | map kept foreign order => exact ⟨_, _, _, rfl, kept, foreign, order⟩

end Rearranged

def fieldName? (fields : List (String × Item)) : Item → Option String
  | .text name => if name ∈ fields.map (·.1) then some name else none
  | _ => none

theorem field_name_mem {fields : List (String × Item)} {name : String}
    (known : name ∈ fields.map (·.1)) : fieldName? fields (.text name) = some name :=
  if_pos known

theorem key_of_field_name {fields : List (String × Item)} {key : Item} {name : String}
    (found : fieldName? fields key = some name) : key = .text name := by
  cases key with
  | text other =>
    rw [fieldName?] at found
    split at found
    · rw [Option.some.inj found]
    · cases found
  | _ => cases found

def fieldNames (fields : List (String × Item)) (entries : List (Item × Item)) : List String :=
  (entries.map (·.1)).filterMap (fieldName? fields)

structure Fielded (fields : List (String × Item)) (entries : List (Item × Item)) : Prop where
  each : ∀ entry ∈ entries,
    (∃ name content, entry.1 = .text name ∧ (name, content) ∈ fields ∧ content.Rearranged entry.2) ∨
      Foreign (fields.map fun field => .text field.1) entry
  distinct : (fieldNames fields entries).Nodup
  every : ∀ field ∈ fields,
    field.1 ∈ fieldNames fields entries ∨ field = ("field_names", .array [])

theorem field_name_foreign {fields : List (String × Item)} {entry : Item × Item}
    (foreign : Foreign (fields.map fun field => .text field.1) entry) :
    fieldName? fields entry.1 = none := by
  obtain ⟨name, key, unknown, _⟩ := foreign.named
  rw [key]
  refine if_neg fun known => unknown ?_
  obtain ⟨field, found, same⟩ := List.mem_map.mp known
  exact List.mem_map.mpr ⟨field, found, congrArg Item.text same⟩

theorem field_names_foreign {fields : List (String × Item)} {extras : List (Item × Item)}
    (foreign : ∀ extra ∈ extras, Foreign (fields.map fun field => .text field.1) extra) :
    fieldNames fields extras = [] := by
  rw [fieldNames, List.filterMap_map, List.filterMap_eq_nil_iff]
  exact fun extra member => field_name_foreign (foreign extra member)

theorem field_names_nodup {fields : List (String × Item)} {entries : List (Item × Item)}
    (distinct : (entries.map (·.1)).Nodup) : (fieldNames fields entries).Nodup := by
  refine distinct.filterMap ?_
  intro key other name found alike
  rw [key_of_field_name found, key_of_field_name alike]

theorem fielded_of_record {fields : List (String × Item)} {item : Item}
    (distinct : (fields.map (·.1)).Nodup) (rearranged : (record fields).Rearranged item) :
    ∃ entries, item = .map entries ∧ Fielded fields entries := by
  obtain ⟨kept, extras, entries, rfl, left, foreign, order⟩ := rearranged.entries_of_map
  have keys := left.keys_sublist
  simp only [List.map_map, Function.comp_def] at foreign keys
  have names : (fieldNames fields entries).Perm (fieldNames fields kept) := by
    have mapped := (order.map (·.1)).filterMap (fieldName? fields)
    have others := field_names_foreign foreign
    rw [fieldNames] at others
    rwa [List.map_append, List.filterMap_append, others, List.append_nil] at mapped
  refine ⟨entries, rfl, ?_, ?_, ?_⟩
  · intro entry member
    obtain own | other := List.mem_append.mp (order.mem_iff.mp member)
    · obtain ⟨value, found, form⟩ := left.form_of_entry entry own
      obtain ⟨field, known, same⟩ := List.mem_map.mp found
      obtain ⟨key, content⟩ := Prod.mk.inj same
      exact .inl ⟨field.1, value, key.symm, by rwa [← content], form⟩
    · exact .inr (foreign entry other)
  · have keysDistinct : (fields.map fun field => Item.text field.1).Nodup := by
      have texts := distinct.map (f := Item.text) fun name other same => Item.text.inj same
      rwa [List.map_map] at texts
    exact names.nodup_iff.mpr (field_names_nodup (keys.nodup keysDistinct))
  · intro field member
    obtain present | omitted := left.key_mem_or_omitted _ (List.mem_map_of_mem member)
    · have known := field_name_mem (List.mem_map_of_mem (f := Prod.fst) member)
      exact .inl (names.mem_iff.mpr (List.mem_filterMap.mpr ⟨_, present, known⟩))
    · obtain ⟨key, content⟩ := Prod.mk.inj omitted
      exact .inr (Prod.ext (Item.text.inj key) content)

end Columnar.Cbor.Item
