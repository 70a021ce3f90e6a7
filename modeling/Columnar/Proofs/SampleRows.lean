import Columnar.Command.Run
import Columnar.Proofs.Conforming
import Columnar.Proofs.WriterLayout

set_option autoImplicit false

namespace Columnar

section

variable {limit : Nat} {rows : List Row} {chunks : List (List Row)}

theorem Segmented.lengths (segmented : Segmented limit rows chunks) :
    chunks.map List.length = List.replicate (rows.length / limit) limit ++
      if rows.length % limit = 0 then [] else [rows.length % limit] := by
  obtain ⟨whole, filled, full⟩ := segmented
  obtain rfl | ⟨earlier, last, rfl⟩ := List.eq_nil_or_concat' chunks
  · rw [List.flatten_nil] at whole
    simp [← whole]
  rw [List.dropLast_concat] at full
  obtain ⟨_, most⟩ := filled last (by simp)
  have before : earlier.map List.length = List.replicate earlier.length limit := by
    rw [List.eq_replicate_iff, List.length_map]
    refine ⟨rfl, fun length member => ?_⟩
    obtain ⟨chunk, inside, same⟩ := List.mem_map.mp member
    rw [← same, full chunk inside]
  have total : rows.length = limit * earlier.length + last.length := by
    rw [← whole, List.flatten_append, List.flatten_singleton, List.length_append, List.length_flatten,
      before, List.sum_replicate_nat, Nat.mul_comm]
  rw [List.map_append, before, List.map_singleton, total]
  by_cases complete : last.length = limit
  · rw [complete, ← Nat.mul_succ, Nat.mul_div_cancel_left _ (by omega), Nat.mul_mod_right, if_pos rfl,
      List.append_nil, List.replicate_succ']
  · have short : last.length < limit := by omega
    rw [Nat.mul_add_div (by omega), Nat.div_eq_of_lt short, Nat.add_zero, Nat.mul_add_mod,
      Nat.mod_eq_of_lt short, if_neg (by omega)]

theorem Segmented.count (segmented : Segmented limit rows chunks) (positive : 0 < limit) :
    chunks.length = (rows.length + limit - 1) / limit := by
  have lengths := congrArg List.length segmented.lengths
  rw [List.length_map, List.length_append, List.length_replicate] at lengths
  have parts := Nat.div_add_mod rows.length limit
  have rest := Nat.mod_lt rows.length positive
  rw [lengths, eq_comm]
  by_cases exactly : rows.length % limit = 0
  · rw [if_pos exactly]
    have same : rows.length + limit - 1 = limit * (rows.length / limit) + (limit - 1) := by omega
    have little : (limit - 1) / limit = 0 := Nat.div_eq_of_lt (by omega)
    rw [same, Nat.mul_add_div positive, little, List.length_nil]
  · rw [if_neg exactly]
    have same : rows.length + limit - 1 =
        limit * (rows.length / limit + 1) + (rows.length % limit - 1) := by
      rw [Nat.mul_succ]
      omega
    have little : (rows.length % limit - 1) / limit = 0 := Nat.div_eq_of_lt (by omega)
    rw [same, Nat.mul_add_div positive, little, List.length_singleton]

end

theorem Cutting.segments_of_rows (fields : List Field) (current rows : List Row)
    (fit : ∀ row ∈ rows, Writer.fault? fields row = none) :
    segments fields current (rows.map .add) = [current ++ rows] := by
  induction rows generalizing current with
  | nil => rw [List.map_nil, segments, List.append_nil]
  | cons row rest ih =>
    rw [List.forall_mem_cons] at fit
    simp only [List.map_cons, segments, fit.1]
    rw [ih _ fit.2, List.append_assoc, List.singleton_append]

theorem Cutting.rows_segmented (fields : List Field) (limit : Nat) (positive : 0 < limit)
    (rows : List Row) (fit : ∀ row ∈ rows, Writer.fault? fields row = none) :
    Segmented limit rows (chunksOf fields limit (rows.map .add)) := by
  obtain ⟨groups, cut, segmented⟩ := run_segmented fields limit positive (rows.map .add) nothing [] [] []
    rfl (by simp) rfl positive
  rw [segments_of_rows fields [] rows fit, List.nil_append] at segmented
  cases segmented with
  | cons first behind =>
    cases behind
    rw [chunksOf, cut, List.nil_append, List.flatten_singleton]
    exact first

namespace Sample

def rowsFrom (number count : Nat) : List Row := (List.range' number count).map row

def chunks (limit count : Nat) : List (List Row) :=
  Cutting.chunksOf fields limit ((rowsFrom 0 count).map .add)

theorem tags_fit (number : Nat) : (tagsOf number).fits (.list .string) = true := by
  rw [tagsOf, Value.fits, Value.all_fit_iff]
  intro tag member
  obtain ⟨_, _, same⟩ := List.mem_map.mp member
  rw [← same]
  rfl

theorem name_fits (number : Nat) : (nameOf number).fits .string = true := by
  rw [nameOf]
  split <;> rfl

-- The casts lose digits, but never change the type.
theorem row_fits (number : Nat) : Writer.fault? fields (row number) = none := by
  simp only [Writer.fault?, Row.width, row, fields, Writer.misfit?, List.length_cons, List.length_nil,
    tags_fit, name_fits, scoreOf, Value.fits, Value.entriesFit, Value.membersFit, ne_eq,
    not_true_eq_false, if_false, if_true, Bool.and_self]

theorem rows_fit (number count : Nat) :
    ∀ row ∈ rowsFrom number count, Writer.fault? fields row = none := by
  intro row member
  obtain ⟨other, _, same⟩ := List.mem_map.mp member
  rw [← same]
  exact row_fits other

theorem chunks_segmented (limit count : Nat) (positive : 0 < limit) :
    Segmented limit ((List.range count).map row) (chunks limit count) := by
  have segmented := Cutting.rows_segmented fields limit positive _ (rows_fit 0 count)
  rwa [← chunks, rowsFrom, ← List.range_eq_range'] at segmented

end Sample

namespace Outcome

open Writer Layout

-- The induction is on how many rows are left to add; what is laid out so far carries it.
theorem add_samples_lay_out (count number : Nat) (writer : Writer) (cutting : Cutting)
    (sample : writer.fields = Sample.fields)
    (laidOut : LaidOut writer cutting.chunks cutting.waiting) :
    let cut := cutting.run Sample.fields writer.limit ((Sample.rowsFrom number count).map .add)
    ∃ full bytes, addSamples count number writer = .ok full ∧ Extends writer full bytes ∧
      LaidOut full cut.chunks cut.waiting := by
  induction count generalizing number writer cutting with
  | zero => exact ⟨writer, [], rfl, extends_refl writer, laidOut⟩
  | succ count ih =>
    have fits := Sample.row_fits number
    rw [← sample] at fits
    cases added : writer.add (Sample.row number) with
    | error failure =>
      have taken := (writer.add_is_ok_iff _).mpr fits
      rw [added] at taken
      cases taken
    | ok more =>
      obtain ⟨bytes, onward, moreOut⟩ := add_extends writer more cutting laidOut _ fits added
      have sameLimit : more.limit = writer.limit := by rw [limit, limit, onward.options]
      obtain ⟨full, others, all, further, fullOut⟩ := ih (number + 1) more _
        (onward.fields.trans sample) moreOut
      refine ⟨full, _, by rw [addSamples, added]; exact all, extends_trans onward further, ?_⟩
      rw [sameLimit] at fullOut
      simpa only [Sample.rowsFrom, List.range'_succ, List.map_cons, Cutting.run, Cutting.perform,
        Sample.row_fits] using fullOut

end Outcome

end Columnar
