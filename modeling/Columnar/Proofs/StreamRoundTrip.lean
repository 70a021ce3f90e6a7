import Columnar.Proofs.Stream

set_option autoImplicit false

namespace Columnar

namespace Value

mutual

def nesting : Value → Nat
  | .list items => nestingOfAll items + 1
  | .map entries => nestingOfEntries entries + 1
  | .struct members => nestingOfAll members + 1
  | _ => 0

def nestingOfAll : List Value → Nat
  | [] => 0
  | value :: rest => max value.nesting (nestingOfAll rest)

def nestingOfEntries : List (Value × Value) → Nat
  | [] => 0
  | (key, value) :: rest => max (max key.nesting value.nesting) (nestingOfEntries rest)

end

-- A map costs the most: a level for itself, one for the array of its pairs, and one for the pair.
mutual

theorem levels_of_nesting (value : Value) : value.levels ≤ 3 * value.nesting + 2 := by
  match value with
  | .list items =>
    have inside := levels_of_all_nesting items
    simp only [levels, nesting]
    omega
  | .map entries =>
    have inside := levels_of_entries_nesting entries
    simp only [levels, nesting]
    omega
  | .struct members =>
    have inside := levels_of_all_nesting members
    simp only [levels, nesting]
    omega
  | .binary _ =>
    simp only [levels]
    omega
  | .null | .boolean _ | .byte _ | .short _ | .int _ | .long _ | .float _ | .double _ | .string _ =>
    simp only [levels]
    omega

theorem levels_of_all_nesting (values : List Value) :
    levelsOfAll values ≤ 3 * nestingOfAll values + 2 := by
  match values with
  | [] =>
    simp only [levelsOfAll]
    omega
  | value :: rest =>
    have first := levels_of_nesting value
    have others := levels_of_all_nesting rest
    simp only [levelsOfAll, nestingOfAll]
    omega

theorem levels_of_entries_nesting (entries : List (Value × Value)) :
    levelsOfEntries entries ≤ 3 * nestingOfEntries entries + 3 := by
  match entries with
  | [] =>
    simp only [levelsOfEntries]
    omega
  | (key, value) :: rest =>
    have first := levels_of_nesting key
    have second := levels_of_nesting value
    have others := levels_of_entries_nesting rest
    simp only [levelsOfEntries, nestingOfEntries]
    omega

end

end Value

-- A stream is a byte string in memory, so its length is a 64-bit number.
theorem streams_are_read_back_or_too_deep (values : List Value) (rest : Bytes)
    (small : (Value.encodeStream values).length < UInt64.size) :
    let decoded := Value.decodeStream (Value.encodeStream values ++ rest)
    (decoded = .ok values ∨ decoded = .error .tooDeep) ∧
      (decoded = .ok values ↔ ∀ value ∈ values, value.levels < Value.depthLimit) ∧
      ((∀ value ∈ values, value.nesting < 80) → decoded = .ok values) := by
  intro decoded
  have outcome : decoded =
      if Value.levelsOfAll values < Value.depthLimit then .ok values else .error .tooDeep :=
    Value.decode_stream_encode values rest small
  have reached := Value.levels_of_all_lt_iff values Value.depthLimit (by decide)
  have exactly : decoded = .ok values ↔ ∀ value ∈ values, value.levels < Value.depthLimit := by
    rw [← reached, outcome]
    by_cases fits : Value.levelsOfAll values < Value.depthLimit
    · simp [fits]
    · simp [fits]
  refine ⟨?_, exactly, ?_⟩
  · rw [outcome]
    by_cases fits : Value.levelsOfAll values < Value.depthLimit
    · exact .inl (if_pos fits)
    · exact .inr (if_neg fits)
  · intro flat
    rw [exactly]
    intro value member
    have levels := value.levels_of_nesting
    have nesting := flat value member
    rw [Value.depthLimit]
    omega

namespace Example

def mixedValues : List Value :=
  [.map [(.list [.long (-9223372036854775808), .byte 127], .struct [.null, .double .nan])],
    .binary [0, 23, 24, 255], .string "ü"]

end Example

theorem mixed_values_are_read_back :
    (Value.encodeStream Example.mixedValues).length < UInt64.size ∧
      (∀ value ∈ Example.mixedValues, value.nesting < 80) ∧
      Value.decodeStream (Value.encodeStream Example.mixedValues ++ [0xFF]) =
        .ok Example.mixedValues := by
  have small : (Value.encodeStream Example.mixedValues).length < UInt64.size := by decide +kernel
  have flat : ∀ value ∈ Example.mixedValues, value.nesting < 80 := by
    simp [Example.mixedValues, Value.nesting, Value.nestingOfAll, Value.nestingOfEntries]
  exact ⟨small, flat, (streams_are_read_back_or_too_deep Example.mixedValues [0xFF] small).2.2 flat⟩

end Columnar
