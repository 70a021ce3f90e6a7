import Columnar.Zstd.Stream

set_option autoImplicit false

namespace Columnar.Zstd

def plainHeader : Bytes := [0x00, 0x38]

def storedBlock (last : Bool) (content : Bytes) : Bytes :=
  BlockHeader.toBytes ⟨last, .stored, content.length⟩ ++ content

def storedBlocks (content : Bytes) : Bytes :=
  if content.length ≤ longestBlock then storedBlock true content
  else storedBlock false (content.take longestBlock) ++ storedBlocks (content.drop longestBlock)
termination_by content.length
decreasing_by simp only [List.length_drop, longestBlock] at *; omega

def deflate (content : Bytes) : Bytes := magic ++ plainHeader ++ storedBlocks content

theorem BlockHeader.read_to_bytes (header : BlockHeader) (rest : Bytes) (passed : Nat)
    (small : header.size < 1 <<< 21) :
    BlockHeader.read? ⟨header.toBytes ++ rest, passed⟩ = some (header, ⟨rest, passed + width⟩) := by
  obtain ⟨last, form, size⟩ := header
  replace small : size < 1 <<< 21 := small
  have codeSmall : form.code < 4 := by cases form <;> decide
  have flagSmall : (if last then 1 else 0) < 2 := by cases last <;> decide
  have word : ofBytes (toBytes ⟨last, form, size⟩) = ⟨last, form, size⟩ := by
    have bound : (if last then 1 else 0) + 2 * form.code + 8 * size < 1 <<< (8 * width) := by
      rw [width, Nat.shiftLeft_eq]
      omega
    have flag : ((if last then 1 else 0) == 1) = last := by cases last <;> rfl
    rw [ofBytes, toBytes, Bytes.ofLittle_little _ _ bound]
    rw [show ((if last then 1 else 0) + 2 * form.code + 8 * size) % 2 = if last then 1 else 0 by omega,
      show ((if last then 1 else 0) + 2 * form.code + 8 * size) / 2 % 4 = form.code by omega,
      show ((if last then 1 else 0) + 2 * form.code + 8 * size) / 8 = size by omega,
      flag, BlockForm.ofCode_code]
  have wide : (toBytes ⟨last, form, size⟩).length = width := Bytes.length_little _ _
  have taken := Source.take_append (toBytes ⟨last, form, size⟩) rest passed
  rw [wide] at taken
  rw [read?, taken, Option.map_some]
  simp only [word]

-- A stored block is never longer than the limit of a frame with a plain header.
theorem read_stored_block (terms : BlockTerms) (last : Bool) (content rest : Bytes) (passed : Nat)
    (state : FrameState) (fits : content.length ≤ terms.limit) (free : terms.capacity = none) :
    terms.readBody ⟨last, .stored, content.length⟩ state ⟨content ++ rest, passed⟩ =
      .ok (state.append content, ⟨rest, passed + content.length⟩) := by
  have width : ¬ terms.limit < BlockHeader.bodyWidth ⟨last, .stored, content.length⟩ := by
    simpa only [BlockHeader.bodyWidth] using Nat.not_lt.mpr fits
  have room : ¬ terms.room state.output.size < ((content ++ rest).take content.length).length := by
    simp only [BlockTerms.room, free, List.take_left]
    omega
  rw [BlockTerms.readBody, if_neg width]
  simp only [if_neg room, Source.take_append]

theorem append_output (state : FrameState) (bytes : Bytes) :
    (state.append bytes).output.toList = state.output.toList ++ bytes := by
  simp [FrameState.append]

theorem read_stored_blocks (terms : BlockTerms) (content rest : Bytes) (fuel passed : Nat)
    (state : FrameState) (limit : terms.limit = longestBlock) (free : terms.capacity = none)
    (unsized : terms.contentSize = none) (enough : (storedBlocks content).length < fuel) :
    ∃ output, terms.readBlocks fuel state ⟨storedBlocks content ++ rest, passed⟩ =
        .ok (output, ⟨rest, passed + (storedBlocks content).length⟩) ∧
      output.toList = state.output.toList ++ content := by
  induction content using storedBlocks.induct generalizing fuel passed state with
  | case1 content short =>
    obtain ⟨fuel, rfl⟩ : ∃ less, fuel = less + 1 := ⟨fuel - 1, by omega⟩
    have opened := BlockHeader.read_to_bytes ⟨true, .stored, content.length⟩ (content ++ rest) passed
      (by simp only [longestBlock] at short; simp only; omega)
    rw [storedBlocks, if_pos short, storedBlock, List.append_assoc]
    simp only [BlockTerms.readBlocks, opened]
    have wide : (BlockHeader.toBytes ⟨true, .stored, content.length⟩).length = BlockHeader.width :=
      Bytes.length_little _ _
    by_cases empty : content = []
    · subst empty
      exact ⟨state.output, by simpa [BlockHeader.bodyWidth] using wide.symm, by simp⟩
    · have filled : ¬ content.length = 0 := by simpa using empty
      have body := read_stored_block terms true content rest (passed + BlockHeader.width) state
        (by omega) free
      refine ⟨(state.append content).output, ?_, append_output state content⟩
      simp [BlockHeader.bodyWidth, empty, body, unsized, wide, Nat.add_assoc]
  | case2 content long ih =>
    obtain ⟨fuel, rfl⟩ : ∃ less, fuel = less + 1 := ⟨fuel - 1, by omega⟩
    have full : (content.take longestBlock).length = longestBlock := by
      rw [List.length_take]
      omega
    rw [storedBlocks, if_neg long, storedBlock] at enough ⊢
    have opened := BlockHeader.read_to_bytes ⟨false, .stored, (content.take longestBlock).length⟩
      (content.take longestBlock ++ (storedBlocks (content.drop longestBlock) ++ rest)) passed
      (by rw [full]; decide)
    have body := read_stored_block terms false (content.take longestBlock)
      (storedBlocks (content.drop longestBlock) ++ rest) (passed + BlockHeader.width) state
      (by omega) free
    have wide : (BlockHeader.toBytes ⟨false, .stored, (content.take longestBlock).length⟩).length =
        BlockHeader.width := Bytes.length_little _ _
    have something : ¬ (content.take longestBlock).length = 0 := by
      rw [full]
      decide
    simp only [List.length_append, wide] at enough
    obtain ⟨output, readOn, held⟩ := ih fuel
      (passed + BlockHeader.width + (content.take longestBlock).length)
      (state.append (content.take longestBlock)) (by omega)
    refine ⟨output, ?_, ?_⟩
    · simp only [List.append_assoc, BlockTerms.readBlocks, opened, BlockHeader.bodyWidth, something,
        and_false, if_false, body, Bool.not_false, if_true, readOn]
      simp only [List.length_append, wide, Nat.add_assoc]
    · rw [held, append_output, List.append_assoc, List.take_append_drop]

def plainFrame : FrameHeader := ⟨none, longestBlock, 0, false⟩

theorem read_plain_header (rest : Bytes) (passed : Nat) :
    FrameHeader.read maxWindowLog ⟨plainHeader ++ rest, passed⟩ =
      .ok (plainFrame, ⟨rest, passed + 2⟩) := by
  have flags := Source.take_append [0x00] ([0x38] ++ rest) passed
  have window := Source.take_append [0x38] rest (passed + 1)
  simp only [List.length_singleton, List.singleton_append] at flags window
  have noFlags : Bytes.ofLittle [0x00] = 0 := rfl
  simp only [FrameHeader.read, plainHeader, List.cons_append, List.nil_append, flags, noFlags,
    Nat.zero_div, Nat.zero_mod, FrameHeader.dictionaryWidth, FrameHeader.contentWidth, Nat.reduceBEq,
    Bool.false_eq_true, if_false, Nat.add_zero, window]
  rfl

theorem read_frame_stored (content rest : Bytes) (buffers : Buffers) (start : Source) (passed : Nat) :
    ∃ after, readFrame buffers start ⟨plainHeader ++ (storedBlocks content ++ rest), passed⟩ =
      .ok (content, ⟨rest, passed + 2 + (storedBlocks content).length⟩, after) := by
  have spread : plainFrame.atOnce start ⟨storedBlocks content ++ rest, passed + 2⟩ = false := rfl
  have window : ¬ windowLimit < plainFrame.keptWindow := by decide
  have knownDictionary : ¬ plainFrame.dictionary ≠ 0 := by decide
  obtain ⟨fitted, fit⟩ : ∃ fitted, buffers.fit
    (.needed plainFrame.keptWindow plainFrame.blockLimit plainFrame.contentSize) = fitted := ⟨_, rfl⟩
  have limit : (plainFrame.terms fitted).limit = longestBlock := by rfl
  obtain ⟨output, blocks, held⟩ := read_stored_blocks (plainFrame.terms fitted) content rest
    ((storedBlocks content ++ rest).length + 1) (passed + 2) .start limit rfl rfl
    (by rw [List.length_append]; omega)
  refine ⟨fitted, ?_⟩
  have body : plainFrame.readBlockwise fitted ⟨storedBlocks content ++ rest, passed + 2⟩ =
      .ok (content, ⟨rest, passed + 2 + (storedBlocks content).length⟩) := by
    rw [FrameHeader.readBlockwise, blocks]
    simp only [held, FrameHeader.close, plainFrame, FrameState.start, Bool.not_false, if_true,
      List.nil_append]
  rw [readFrame, read_plain_header]
  simp only [if_neg knownDictionary, spread, Bool.false_eq_true, if_false, if_neg window, fit, body,
    Except.map]

theorem inflate_deflate (content : Bytes) : inflate (deflate content) = .ok content := by
  obtain ⟨after, frame⟩ := read_frame_stored content [] Memory.start.current ⟨deflate content, 0⟩ 4
  rw [List.append_nil] at frame
  have opened := Source.take_append magic (plainHeader ++ storedBlocks content) 0
  have next : readNext .start ⟨deflate content, 0⟩ =
      .ok (content, ⟨[], 4 + 2 + (storedBlocks content).length⟩,
        { Memory.start with current := after }) := by
    have starts : (deflate content).take 4 = magic := by
      rw [deflate, List.append_assoc]
      rfl
    have taken : Source.take? ⟨deflate content, 0⟩ 4 =
        some (magic, ⟨plainHeader ++ storedBlocks content, 4⟩) := by
      rw [deflate, List.append_assoc]
      exact opened
    rw [readNext]
    simp only [starts, taken, frame]
    rfl
  rw [inflate, readFrames, next]
  simp

-- The encoder of the program itself: whatever the level, frames hold their content as it is.
def storedFrames : Encoder where
  encode _ raw := deflate raw
  inflates _ raw := inflate_deflate raw

end Columnar.Zstd
