import Columnar.Writer

set_option autoImplicit false

namespace Columnar

namespace Value

inductive Conforms : Value → DataType → Prop
  | null (type : DataType) : Conforms .null type
  | boolean (flag : Bool) : Conforms (.boolean flag) .boolean
  | byte (number : Int8) : Conforms (.byte number) .byte
  | short (number : Int16) : Conforms (.short number) .short
  | int (number : Int32) : Conforms (.int number) .int
  | long (number : Int64) : Conforms (.long number) .long
  | float (number : Ieee.Single) : Conforms (.float number) .float
  | double (number : Ieee.Double) : Conforms (.double number) .double
  | string (text : String) : Conforms (.string text) .string
  | binary (bytes : Bytes) : Conforms (.binary bytes) .binary
  | list (items : List Value) (type : DataType) (each : ∀ item ∈ items, Conforms item type) :
      Conforms (.list items) (.list type)
  | map (entries : List (Value × Value)) (keyType valueType : DataType)
      (keys : ∀ entry ∈ entries, Conforms entry.1 keyType)
      (values : ∀ entry ∈ entries, Conforms entry.2 valueType) :
      Conforms (.map entries) (.map keyType valueType)
  | struct (members : List Value) (fields : List Field) (count : members.length = fields.length)
      (each : ∀ (place : Nat) (member : Value) (field : Field), members[place]? = some member →
        fields[place]? = some field → Conforms member field.2) :
      Conforms (.struct members) (.struct fields)

theorem all_fit_iff (items : List Value) (type : DataType) :
    allFit items type = true ↔ ∀ item ∈ items, item.fits type = true := by
  induction items with
  | nil => simp [allFit]
  | cons item rest ih => simp [allFit, ih]

theorem entries_fit_iff (entries : List (Value × Value)) (keyType valueType : DataType) :
    entriesFit entries keyType valueType = true ↔
      ∀ entry ∈ entries, entry.1.fits keyType = true ∧ entry.2.fits valueType = true := by
  induction entries with
  | nil => simp [entriesFit]
  | cons entry rest ih => simp [entriesFit, ih]

theorem members_fit_iff (members : List Value) (fields : List Field) :
    membersFit members fields = true ↔ members.length = fields.length ∧
      ∀ (place : Nat) (member : Value) (field : Field), members[place]? = some member →
        fields[place]? = some field → member.fits field.2 = true := by
  induction members generalizing fields with
  | nil => cases fields <;> simp [membersFit]
  | cons first rest ih =>
    cases fields with
    | nil => simp [membersFit]
    | cons field others =>
      rw [membersFit, Bool.and_eq_true, ih others, List.length_cons, List.length_cons,
        Nat.add_right_cancel_iff]
      constructor
      · rintro ⟨here, count, behind⟩
        refine ⟨count, fun place member type cell typed => ?_⟩
        cases place with
        | zero =>
          simp only [List.getElem?_cons_zero, Option.some.injEq] at cell typed
          rw [← cell, ← typed]
          exact here
        | succ place => exact behind place member type cell typed
      · rintro ⟨count, each⟩
        exact ⟨each 0 first field rfl rfl, count, fun place => each (place + 1)⟩

theorem entry_smaller (entries : List (Value × Value)) (entry : Value × Value)
    (member : entry ∈ entries) :
    sizeOf entry.1 < sizeOf entries ∧ sizeOf entry.2 < sizeOf entries := by
  have less := List.sizeOf_lt_of_mem member
  rw [Prod.mk.sizeOf_spec] at less
  omega

theorem conforms_of_fits (value : Value) (type : DataType) (typed : value.fits type = true) :
    value.Conforms type := by
  cases value with
  | null => exact .null type
  | list items =>
    cases type with
    | list type =>
      rw [fits, all_fit_iff] at typed
      exact .list items type fun item member => conforms_of_fits item type (typed item member)
    | _ => simp [fits] at typed
  | map entries =>
    cases type with
    | map keyType valueType =>
      rw [fits, entries_fit_iff] at typed
      exact .map entries keyType valueType
        (fun entry member => conforms_of_fits entry.1 keyType (typed entry member).1)
        (fun entry member => conforms_of_fits entry.2 valueType (typed entry member).2)
    | _ => simp [fits] at typed
  | struct members =>
    cases type with
    | struct fields =>
      rw [fits, members_fit_iff] at typed
      refine .struct members fields typed.1 fun place member field cell here => ?_
      have inside := List.mem_of_getElem? cell
      exact conforms_of_fits member field.2 (typed.2 place member field cell here)
    | _ => simp [fits] at typed
  | boolean | byte | short | int | long | float | double | string | binary =>
    cases type <;> simp [fits] at typed
    constructor
termination_by sizeOf value
decreasing_by
  all_goals subst value
  · have less := List.sizeOf_lt_of_mem member
    rw [list.sizeOf_spec]
    omega
  · have less := entry_smaller entries entry member
    rw [map.sizeOf_spec]
    omega
  · have less := entry_smaller entries entry member
    rw [map.sizeOf_spec]
    omega
  · have less := List.sizeOf_lt_of_mem inside
    rw [struct.sizeOf_spec]
    omega

theorem fits_of_conforms {value : Value} {type : DataType} (conforms : value.Conforms type) :
    value.fits type = true := by
  induction conforms with
  | null | boolean | byte | short | int | long | float | double | string | binary => rw [fits]
  | list items type _ ih =>
    rw [fits, all_fit_iff]
    exact ih
  | map entries keyType valueType _ _ keys values =>
    rw [fits, entries_fit_iff]
    exact fun entry member => ⟨keys entry member, values entry member⟩
  | struct members fields count _ ih =>
    rw [fits, members_fit_iff]
    exact ⟨count, ih⟩

end Value

namespace Row

structure Conforms (fields : List Field) (row : Row) : Prop where
  width : row.width = fields.length
  cells : ∀ (column : Nat) (field : Field) (value : Value), fields[column]? = some field →
    row.get? column = some value → value.Conforms field.2

inductive Breaks (fields : List Field) (row : Row) : SchemaFault → Prop
  | width (wrong : row.width ≠ fields.length) :
      Breaks fields row (.rowWidth row.width fields.length)
  | cell (column : Nat) (field : Field) (value : Value) (wide : row.width = fields.length)
      (typed : fields[column]? = some field) (here : row.get? column = some value)
      (misfit : ¬ value.Conforms field.2)
      (earlier : ∀ (before : Nat) (field : Field) (value : Value), before < column →
        fields[before]? = some field → row.get? before = some value → value.Conforms field.2) :
      Breaks fields row (.misfit value field.1)

end Row

namespace Writer

theorem misfit_cases (fields : List Field) (values : List Value) :
    (misfit? fields values = none ∧
      ∀ (column : Nat) (field : Field) (value : Value), fields[column]? = some field →
        values[column]? = some value → value.Conforms field.2) ∨
    ∃ (column : Nat) (field : Field) (value : Value),
      misfit? fields values = some (.misfit value field.1) ∧ fields[column]? = some field ∧
        values[column]? = some value ∧ ¬ value.Conforms field.2 ∧
        ∀ (before : Nat) (field : Field) (value : Value), before < column →
          fields[before]? = some field → values[before]? = some value → value.Conforms field.2 := by
  induction fields generalizing values with
  | nil => exact .inl ⟨by simp [misfit?], fun column field value typed => by cases typed⟩
  | cons first others ih =>
    obtain ⟨name, type⟩ := first
    cases values with
    | nil => exact .inl ⟨by simp [misfit?], fun column field value _ cell => by cases cell⟩
    | cons head tail =>
      rw [misfit?]
      by_cases fitting : head.fits type = true
      · rw [if_pos fitting]
        have conforms := Value.conforms_of_fits head type fitting
        obtain ⟨faultless, all⟩ | ⟨column, field, value, found, typed, cell, misfit, earlier⟩ := ih tail
        · refine .inl ⟨faultless, fun column field value typed cell => ?_⟩
          cases column with
          | zero =>
            cases typed
            cases cell
            exact conforms
          | succ column => exact all column field value typed cell
        · refine .inr ⟨column + 1, field, value, found, typed, cell, misfit, ?_⟩
          intro before field value less typed cell
          cases before with
          | zero =>
            cases typed
            cases cell
            exact conforms
          | succ before => exact earlier before field value (by omega) typed cell
      · rw [if_neg fitting]
        refine .inr ⟨0, (name, type), head, rfl, rfl, rfl, ?_, fun _ _ _ less => by omega⟩
        exact fun conforms => fitting (Value.fits_of_conforms conforms)

theorem fault_cases (fields : List Field) (row : Row) :
    (fault? fields row = none ∧ row.Conforms fields) ∨
      ∃ fault, fault? fields row = some fault ∧ row.Breaks fields fault ∧ ¬ row.Conforms fields := by
  by_cases wide : row.width = fields.length
  · rw [fault?, if_neg (Decidable.not_not.mpr wide)]
    obtain ⟨faultless, all⟩ | ⟨column, field, value, found, typed, cell, misfit, earlier⟩ :=
      misfit_cases fields row.values
    · exact .inl ⟨faultless, wide, all⟩
    · refine .inr ⟨_, found, .cell column field value wide typed cell misfit earlier, ?_⟩
      exact fun conforms => misfit (conforms.cells column field value typed cell)
  · rw [fault?, if_pos wide]
    exact .inr ⟨_, rfl, .width wide, fun conforms => wide conforms.width⟩

theorem fault_none_iff (fields : List Field) (row : Row) :
    fault? fields row = none ↔ row.Conforms fields := by
  obtain ⟨faultless, conforms⟩ | ⟨fault, found, _, breaks⟩ := fault_cases fields row
  · exact iff_of_true faultless conforms
  · exact iff_of_false (by simp [found]) breaks

end Writer

instance (fields : List Field) (row : Row) : Decidable (row.Conforms fields) :=
  decidable_of_iff ((Writer.fault? fields row).isNone = true) (by
    rw [Option.isNone_iff_eq_none, Writer.fault_none_iff])

end Columnar
