import Columnar.Proofs.Stream

set_option autoImplicit false

namespace Columnar

namespace DataType

mutual

def nesting : DataType → Nat
  | .list item => item.nesting + 1
  | .map key value => max key.nesting value.nesting + 1
  | .struct fields => nestingOfAll fields + 1
  | _ => 0

def nestingOfAll : List (String × DataType) → Nat
  | [] => 0
  | (_, type) :: rest => max type.nesting (nestingOfAll rest)

end

mutual

def levels : DataType → Nat
  | .binary => 2
  | .list item => 2 + item.levels
  | .map key value => 2 + (1 + max key.levels value.levels)
  | .struct fields => 2 + levelsOfAll fields
  | _ => 1

def levelsOfAll : List (String × DataType) → Nat
  | [] => 0
  | (_, type) :: rest => max type.levels (levelsOfAll rest)

end

mutual

def deepest : DataType → Value
  | .binary => .binary []
  | .list item => .list [item.deepest]
  | .map key value => .map [(key.deepest, value.deepest)]
  | .struct fields => .struct (deepestOfAll fields)
  | _ => .null

def deepestOfAll : List (String × DataType) → List Value
  | [] => []
  | (_, type) :: rest => type.deepest :: deepestOfAll rest

end

-- A map adds the most: itself, the array of its pairs, and each pair. The two levels left over are
-- those of a byte string.
mutual

theorem levels_of_nesting (type : DataType) : type.levels ≤ 3 * type.nesting + 2 := by
  match type with
  | .list item =>
    have inside := levels_of_nesting item
    simp only [levels, nesting]
    omega
  | .map key value =>
    have keyInside := levels_of_nesting key
    have valueInside := levels_of_nesting value
    simp only [levels, nesting]
    omega
  | .struct fields =>
    have inside := levels_of_all_nesting fields
    simp only [levels, nesting]
    omega
  | .boolean | .byte | .short | .int | .long | .float | .double | .string | .binary =>
    simp only [levels]
    omega

theorem levels_of_all_nesting (fields : List (String × DataType)) :
    levelsOfAll fields ≤ 3 * nestingOfAll fields + 2 := by
  match fields with
  | [] =>
    simp only [levelsOfAll]
    omega
  | (_, type) :: rest =>
    have first := levels_of_nesting type
    have others := levels_of_all_nesting rest
    simp only [levelsOfAll, nestingOfAll]
    omega

end

theorem levels_positive (type : DataType) : 1 ≤ type.levels := by
  cases type <;> simp only [levels] <;> omega

mutual

theorem deepest_fits (type : DataType) : type.deepest.fits type = true := by
  match type with
  | .list item => simp only [deepest, Value.fits, Value.allFit, deepest_fits item, Bool.and_self]
  | .map key value =>
    simp only [deepest, Value.fits, Value.entriesFit, deepest_fits key, deepest_fits value,
      Bool.and_self]
  | .struct fields => simp only [deepest, Value.fits, deepest_of_all_fit fields]
  | .boolean | .byte | .short | .int | .long | .float | .double | .string | .binary =>
    simp only [deepest, Value.fits]

theorem deepest_of_all_fit (fields : List (String × DataType)) :
    Value.membersFit (deepestOfAll fields) fields = true := by
  match fields with
  | [] => simp only [deepestOfAll, Value.membersFit]
  | (_, type) :: rest =>
    simp only [deepestOfAll, Value.membersFit, deepest_fits type, deepest_of_all_fit rest,
      Bool.and_self]

end

mutual

theorem levels_of_deepest (type : DataType) : type.deepest.levels = type.levels := by
  match type with
  | .list item =>
    simp only [deepest, levels, Value.levels, Value.levelsOfAll, levels_of_deepest item,
      Nat.max_zero]
  | .map key value =>
    simp only [deepest, levels, Value.levels, Value.levelsOfEntries, levels_of_deepest key,
      levels_of_deepest value, Nat.max_zero]
  | .struct fields => simp only [deepest, levels, Value.levels, levels_of_all_deepest fields]
  | .boolean | .byte | .short | .int | .long | .float | .double | .string | .binary =>
    simp only [deepest, levels, Value.levels]

theorem levels_of_all_deepest (fields : List (String × DataType)) :
    Value.levelsOfAll (deepestOfAll fields) = levelsOfAll fields := by
  match fields with
  | [] => simp only [deepestOfAll, levelsOfAll, Value.levelsOfAll]
  | (_, type) :: rest =>
    simp only [deepestOfAll, levelsOfAll, Value.levelsOfAll, levels_of_deepest type,
      levels_of_all_deepest rest]

end

end DataType

namespace Value

mutual

theorem levels_of_fits (value : Value) (type : DataType) (fits : value.fits type = true) :
    value.levels ≤ type.levels := by
  match value, type with
  | .list items, .list item =>
    have inside := levels_of_all_fit items item (by simpa only [Value.fits] using fits)
    simp only [levels, DataType.levels]
    omega
  | .map entries, .map key value =>
    have inside := levels_of_entries_fit entries key value (by simpa only [Value.fits] using fits)
    simp only [levels, DataType.levels]
    omega
  | .struct members, .struct fields =>
    have inside := levels_of_members_fit members fields (by simpa only [Value.fits] using fits)
    simp only [levels, DataType.levels]
    omega
  | .binary _, .binary => simp only [levels, DataType.levels, Nat.le_refl]
  | .null, _ | .boolean _, _ | .byte _, _ | .short _, _ | .int _, _ | .long _, _ | .float _, _
  | .double _, _ | .string _, _ =>
    simp only [levels]
    exact DataType.levels_positive _

theorem levels_of_all_fit (items : List Value) (item : DataType) (fit : allFit items item = true) :
    levelsOfAll items ≤ item.levels := by
  match items with
  | [] =>
    simp only [levelsOfAll]
    omega
  | value :: rest =>
    simp only [allFit, Bool.and_eq_true] at fit
    have first := levels_of_fits value item fit.1
    have others := levels_of_all_fit rest item fit.2
    simp only [levelsOfAll]
    omega

theorem levels_of_entries_fit (entries : List (Value × Value)) (key value : DataType)
    (fit : entriesFit entries key value = true) :
    levelsOfEntries entries ≤ 1 + max key.levels value.levels := by
  match entries with
  | [] =>
    simp only [levelsOfEntries]
    omega
  | (first, second) :: rest =>
    simp only [entriesFit, Bool.and_eq_true] at fit
    have keyLevels := levels_of_fits first key fit.1.1
    have valueLevels := levels_of_fits second value fit.1.2
    have others := levels_of_entries_fit rest key value fit.2
    simp only [levelsOfEntries]
    omega

theorem levels_of_members_fit (members : List Value) (fields : List (String × DataType))
    (fit : membersFit members fields = true) :
    levelsOfAll members ≤ DataType.levelsOfAll fields := by
  match members, fields with
  | [], _ =>
    simp only [levelsOfAll]
    omega
  | member :: rest, [] => simp [membersFit] at fit
  | member :: rest, (_, type) :: fields =>
    simp only [membersFit, Bool.and_eq_true] at fit
    have first := levels_of_fits member type fit.1
    have others := levels_of_members_fit rest fields fit.2
    simp only [levelsOfAll, DataType.levelsOfAll]
    omega

end

end Value

end Columnar
