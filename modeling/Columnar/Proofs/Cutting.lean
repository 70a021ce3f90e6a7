import Columnar.Writer
import Mathlib.Data.List.Forall2

set_option autoImplicit false

namespace Columnar

structure Cutting where
  chunks : List (List Row)
  waiting : List Row

-- The rows between two places where a cut is asked for, as chunks: all but the last of them full.
structure Segmented (limit : Nat) (rows : List Row) (chunks : List (List Row)) : Prop where
  whole : chunks.flatten = rows
  filled : ∀ chunk ∈ chunks, 0 < chunk.length ∧ chunk.length ≤ limit
  full : ∀ chunk ∈ chunks.dropLast, chunk.length = limit

namespace Cutting

def nothing : Cutting := ⟨[], []⟩

def rows (cutting : Cutting) : List Row := cutting.chunks.flatten ++ cutting.waiting

def gather (cutting : Cutting) (row : Row) : Cutting := ⟨cutting.chunks, cutting.waiting ++ [row]⟩

def flush (cutting : Cutting) : Cutting :=
  match cutting.waiting with
  | [] => cutting
  | first :: others => ⟨cutting.chunks ++ [first :: others], []⟩

def add (limit : Nat) (cutting : Cutting) (row : Row) : Cutting :=
  if limit ≤ (cutting.gather row).waiting.length then (cutting.gather row).flush
  else cutting.gather row

def perform (fields : List Field) (limit : Nat) (cutting : Cutting) : WriterCall → Cutting
  | .flush => cutting.flush
  | .add row =>
    match Writer.fault? fields row with
    | some _ => cutting
    | none => cutting.add limit row

def run (fields : List Field) (limit : Nat) (cutting : Cutting) : List WriterCall → Cutting
  | [] => cutting
  | call :: rest => run fields limit (cutting.perform fields limit call) rest

-- All chunks that calls cut; what waits behind the last call is one more.
def chunksOf (fields : List Field) (limit : Nat) (calls : List WriterCall) : List (List Row) :=
  (nothing.run fields limit calls).flush.chunks

-- The rows that calls add, as segments that end where the calls ask for a cut; `current` are the
-- rows of the first segment so far.
def segments (fields : List Field) (current : List Row) : List WriterCall → List (List Row)
  | [] => [current]
  | .flush :: rest => current :: segments fields [] rest
  | .add row :: rest =>
    match Writer.fault? fields row with
    | some _ => segments fields current rest
    | none => segments fields (current ++ [row]) rest

theorem flush_of_waiting (cutting : Cutting) (filled : cutting.waiting ≠ []) :
    cutting.flush = ⟨cutting.chunks ++ [cutting.waiting], []⟩ := by
  cases waiting : cutting.waiting with
  | nil => exact absurd waiting filled
  | cons first others => simp only [flush, waiting]

theorem flush_of_nothing (cutting : Cutting) (empty : cutting.waiting = []) :
    cutting.flush = cutting := by
  simp only [flush, empty]

theorem waiting_flush (cutting : Cutting) : cutting.flush.waiting = [] := by
  by_cases empty : cutting.waiting = []
  · rw [flush_of_nothing cutting empty, empty]
  · rw [flush_of_waiting cutting empty]

theorem rows_flush (cutting : Cutting) : cutting.flush.rows = cutting.rows := by
  by_cases empty : cutting.waiting = []
  · rw [flush_of_nothing cutting empty]
  · rw [flush_of_waiting cutting empty]
    simp only [rows, List.flatten_append, List.flatten_cons, List.flatten_nil, List.append_nil]

theorem rows_add (limit : Nat) (cutting : Cutting) (row : Row) :
    (cutting.add limit row).rows = cutting.rows ++ [row] := by
  have gathered : (cutting.gather row).rows = cutting.rows ++ [row] := by
    simp only [rows, gather, List.append_assoc]
  rw [add]
  split
  · rw [rows_flush, gathered]
  · exact gathered

section

variable (fields : List Field) (limit : Nat)

theorem flatten_chunks_of (calls : List WriterCall) :
    (chunksOf fields limit calls).flatten = (nothing.run fields limit calls).rows := by
  rw [chunksOf, ← rows_flush, rows, waiting_flush, List.append_nil]

theorem waiting_run (positive : 0 < limit) (cutting : Cutting) (short : cutting.waiting.length < limit)
    (calls : List WriterCall) : (cutting.run fields limit calls).waiting.length < limit := by
  induction calls generalizing cutting with
  | nil => exact short
  | cons call rest ih =>
    refine ih _ ?_
    have flushed (other : Cutting) : other.flush.waiting.length < limit := by
      rw [waiting_flush]
      exact positive
    cases call with
    | flush => exact flushed cutting
    | add row =>
      simp only [perform]
      split
      · exact short
      · rw [add]
        split
        · exact flushed _
        · omega

theorem flush_segmented (positive : 0 < limit) (cutting : Cutting) (earlier opened : List (List Row))
    (current : List Row) (chunks : cutting.chunks = earlier ++ opened)
    (full : ∀ chunk ∈ opened, chunk.length = limit)
    (sofar : opened.flatten ++ cutting.waiting = current) (short : cutting.waiting.length < limit) :
    ∃ group, cutting.flush.chunks = earlier ++ group ∧ Segmented limit current group := by
  by_cases empty : cutting.waiting = []
  · rw [flush_of_nothing cutting empty]
    rw [empty, List.append_nil] at sofar
    refine ⟨opened, chunks, sofar, fun chunk member => ?_, fun chunk member => ?_⟩
    · rw [full chunk member]
      exact ⟨positive, Nat.le_refl _⟩
    · exact full chunk (List.dropLast_subset _ member)
  · rw [flush_of_waiting cutting empty]
    have filled : 0 < cutting.waiting.length := List.length_pos_iff.mpr empty
    refine ⟨opened ++ [cutting.waiting], by rw [chunks, List.append_assoc], ?_, ?_, ?_⟩
    · rw [← sofar]
      simp only [List.flatten_append, List.flatten_cons, List.flatten_nil, List.append_nil]
    · intro chunk member
      cases List.mem_append.mp member with
      | inl before =>
        rw [full chunk before]
        exact ⟨positive, Nat.le_refl _⟩
      | inr last =>
        rw [List.mem_singleton.mp last]
        exact ⟨filled, Nat.le_of_lt short⟩
    · rw [List.dropLast_concat]
      exact full

-- The induction is on the calls. Of the segment at hand, `opened` are the chunks so far, all full.
theorem run_segmented (positive : 0 < limit) (calls : List WriterCall) (cutting : Cutting)
    (earlier opened : List (List Row)) (current : List Row)
    (chunks : cutting.chunks = earlier ++ opened) (full : ∀ chunk ∈ opened, chunk.length = limit)
    (sofar : opened.flatten ++ cutting.waiting = current) (short : cutting.waiting.length < limit) :
    ∃ groups, (cutting.run fields limit calls).flush.chunks = earlier ++ groups.flatten ∧
      List.Forall₂ (Segmented limit) (segments fields current calls) groups := by
  induction calls generalizing cutting earlier opened current with
  | nil =>
    obtain ⟨group, cut, segmented⟩ :=
      flush_segmented limit positive cutting earlier opened current chunks full sofar short
    exact ⟨[group], by rw [run, cut, List.flatten_singleton], .cons segmented .nil⟩
  | cons call rest ih =>
    cases call with
    | flush =>
      obtain ⟨group, cut, segmented⟩ :=
        flush_segmented limit positive cutting earlier opened current chunks full sofar short
      obtain ⟨groups, all, others⟩ := ih cutting.flush (earlier ++ group) [] []
        (by rw [cut, List.append_nil]) (by simp) (by rw [waiting_flush]; rfl)
        (by rw [waiting_flush]; exact positive)
      exact ⟨group :: groups, by rw [run, perform, all, List.flatten_cons, List.append_assoc],
        .cons segmented others⟩
    | add row =>
      simp only [run, segments, perform]
      split
      · exact ih cutting earlier opened current chunks full sofar short
      · by_cases complete : limit ≤ (cutting.gather row).waiting.length
        · -- One row more than fewer than the limit makes a full chunk.
          have exactly : (cutting.gather row).waiting.length = limit := by
            simp only [gather, List.length_append, List.length_singleton] at complete ⊢
            omega
          have nonempty : (cutting.gather row).waiting ≠ [] := by simp [gather]
          rw [add, if_pos complete, flush_of_waiting _ nonempty]
          refine ih _ earlier (opened ++ [(cutting.gather row).waiting]) _ ?_ ?_ ?_ positive
          · simp only [gather, chunks, List.append_assoc]
          · intro chunk member
            cases List.mem_append.mp member with
            | inl before => exact full chunk before
            | inr last => rw [List.mem_singleton.mp last, exactly]
          · rw [← sofar]
            simp [gather]
        · rw [add, if_neg complete]
          refine ih _ earlier opened _ chunks full ?_ (by omega)
          rw [← sofar, gather, List.append_assoc]

theorem rows_run (calls : List WriterCall) (cutting : Cutting) (before current : List Row)
    (sofar : cutting.rows = before ++ current) :
    (cutting.run fields limit calls).rows = before ++ (segments fields current calls).flatten := by
  induction calls generalizing cutting before current with
  | nil => rw [run, segments, List.flatten_singleton, sofar]
  | cons call rest ih =>
    cases call with
    | flush =>
      rw [run, perform, segments, List.flatten_cons, ← List.append_assoc, ← sofar]
      exact ih cutting.flush cutting.rows [] (by rw [rows_flush, List.append_nil])
    | add row =>
      simp only [run, segments, perform]
      split
      · exact ih cutting before current sofar
      · exact ih _ before (current ++ [row]) (by rw [rows_add, sofar, List.append_assoc])

end

end Cutting

end Columnar
