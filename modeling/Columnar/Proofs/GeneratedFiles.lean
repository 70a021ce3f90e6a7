import Columnar.Proofs.WrittenCommands

set_option autoImplicit false

namespace Columnar

namespace Outcome

open Writer

theorem samples_left (files made : FileSystem) (path : Path) (rows : Nat) (options : WriterOptions)
    (writer : Writer) (creates : create files path Sample.fields options = .ok (writer, made)) :
    ∃ full content, addSamples rows 0 writer = .ok full ∧
      (full.close made).2.root = made.root ∧ (full.close made).2.home = made.home ∧
      (full.close made).2.openFile path = .ok (.regular content) ∧
      content.length = (full.close made).1 ∧
      (content.length < UInt64.size →
        (options.compressor.kind = .zstd → Layout.Measured Sample.fields options
          (Sample.chunks (max options.stripeRows 1) rows)) →
        ∃ last, last.fields = Sample.fields ∧ last.options = options ∧
          Left (full.close made).2 path content last
            (Sample.chunks (max options.stripeRows 1) rows)) := by
  obtain ⟨filled, sample, same, going, found⟩ := create_going files made path _ options writer creates
  obtain ⟨full, _, added, onward, laidOut⟩ :=
    add_samples_lay_out rows 0 writer .nothing sample going.laidOut
  rw [← onward.file] at found
  obtain ⟨content, located, total, bytes, lastOut, sameFields, sameOptions⟩ :=
    close_located made path full _ ⟨laidOut, extends_settled going.settled onward⟩ found
  rw [← Cutting.chunksOf, ← Sample.chunks, limit, same] at lastOut
  rw [onward.fields, sample] at sameFields
  rw [onward.options, same] at sameOptions
  refine ⟨full, content, added, made.write_at_root _ _ _, made.write_at_home _ _ _, located, total,
    fun small encoded => ⟨full.flush, sameFields, sameOptions, located, bytes, lastOut, small, ?_, ?_, ?_⟩⟩
  · rw [sameFields]
    exact filled
  · rw [sameFields]
    decide
  · refine measured full.flush _ lastOut ?_ ?_ ?_
    · rw [sameFields]
      exact filled
    · rw [← bytes, content.length_toBytes]
      exact small
    · rw [sameFields, sameOptions]
      exact encoded

section

variable (encoder : Zstd.Encoder)

theorem generate_created (files made : FileSystem) (clock : Int64) (path : Path)
    (rows stripeRows : Nat) (compression : String) (deterministic : Bool) (kind : Compression)
    (accepts : Compression.ofSetting compression = .ok kind) (writer full : Writer)
    (creates : create files path Sample.fields
      (sampleOptions encoder clock stripeRows kind deterministic) = .ok (writer, made))
    (added : addSamples rows 0 writer = .ok full) :
    generate encoder files clock path rows stripeRows compression deterministic =
      ⟨.done, [],
        ["gen: " ++ Text.natText rows ++ " rows, " ++ Text.natText (full.close made).1 ++
          " bytes -> " ++ path.text], (full.close made).2⟩ := by
  simp only [generate, accepts, creates, added]

theorem generate_cases (files : FileSystem) (clock : Int64) (path : Path) (rows stripeRows : Nat)
    (compression : String) (deterministic : Bool) :
    (∃ failure,
      generate encoder files clock path rows stripeRows compression deterministic =
        failed files failure ∧
      (Compression.ofSetting compression = .error failure ∨
        ∃ fault, files.create path = .error fault ∧ failure = .io fault)) ∨
    ∃ kind writer made, Compression.ofSetting compression = .ok kind ∧
      create files path Sample.fields (sampleOptions encoder clock stripeRows kind deterministic) =
        .ok (writer, made) := by
  cases accepts : Compression.ofSetting compression with
  | error failure => exact .inl ⟨failure, by simp only [generate, accepts], .inl rfl⟩
  | ok kind =>
    cases creates : create files path Sample.fields
        (sampleOptions encoder clock stripeRows kind deterministic) with
    | ok pair => exact .inr ⟨kind, pair.1, pair.2, rfl, creates⟩
    | error failure =>
      refine .inl ⟨failure, by simp only [generate, accepts, creates], .inr ?_⟩
      simp only [create, Sample.fields, List.isEmpty_cons, Bool.false_eq_true, if_false] at creates
      cases opens : files.create path with
      | ok pair => simp [opens] at creates
      | error fault =>
        simp only [opens, Except.error.injEq] at creates
        exact ⟨fault, rfl, creates.symm⟩

end

end Outcome

-- Every sample row is taken, so generating fails only over its setting or its path. What it leaves
-- is read back in full, unless words cannot tell how long the file is or what was compressed for it.
theorem generated_rows_are_read_back (encoder : Zstd.Encoder) (files : FileSystem) (clock : Int64)
    (path : Path) (rows stripeRows : Nat) (compression : String) (deterministic : Bool) :
    (∀ number, Writer.fault? Sample.fields (Sample.row number) = none) ∧
    (∀ failure,
      (Outcome.generate encoder files clock path rows stripeRows compression deterministic).ending =
        .failed failure →
      Compression.ofSetting compression = .error failure ∨
        ∃ fault, files.create path = .error fault ∧ failure = .io fault) ∧
    ∀ output notes written,
      Outcome.generate encoder files clock path rows stripeRows compression deterministic =
        ⟨.done, output, notes, written⟩ →
      ∃ kind length, Compression.ofSetting compression = .ok kind ∧
        written.length path = .ok length ∧
        notes = ["gen: " ++ Text.natText rows ++ " rows, " ++ Text.natText length ++ " bytes -> " ++
          path.text] ∧
        (length < UInt64.size →
          (kind = .zstd → Layout.Measured Sample.fields
            (Outcome.sampleOptions encoder clock stripeRows kind deterministic)
            (Sample.chunks (max stripeRows 1) rows)) →
          ReadInFull written path Sample.fields kind (max stripeRows 1) rows Sample.row) := by
  refine ⟨Sample.row_fits, ?_⟩
  obtain ⟨failure, fails, cause⟩ | ⟨kind, writer, made, accepts, creates⟩ :=
    Outcome.generate_cases encoder files clock path rows stripeRows compression deterministic
  · rw [fails]
    refine ⟨fun other ends => ?_, fun output notes written generates => ?_⟩
    · cases ends
      exact cause
    · cases generates
  · obtain ⟨full, content, added, _, _, located, total, leaves⟩ :=
      Outcome.samples_left files made path rows _ writer creates
    rw [Outcome.generate_created encoder files made clock path rows stripeRows compression deterministic
      kind accepts writer full creates added]
    refine ⟨fun other ends => ?_, fun output notes written generates => ?_⟩
    · cases ends
    · cases generates
      refine ⟨kind, content.length, accepts, ?_, by rw [total], fun small encoded => ?_⟩
      · rw [FileSystem.length, located]
        rfl
      · obtain ⟨last, sample, same, left⟩ := leaves small encoded
        have positive : 0 < max stripeRows 1 := by omega
        have told := Writer.left_read_in_full left (by rw [sample]; decide) positive
          (Sample.chunks_segmented _ rows positive)
        rwa [sample, same] at told

namespace Example

def plainOptions (stripeRows : Nat) : WriterOptions :=
  Outcome.sampleOptions Zstd.storedFrames 0 stripeRows .stored true

theorem samples_added :
    ∃ full, Outcome.addSamples 3 0 (.start 0 Sample.fields (plainOptions 2)) = .ok full ∧
      (full.close made).1 < UInt64.size := by
  refine ⟨_, rfl, ?_⟩
  rw [Writer.close_length, Writer.length_ending]
  decide +kernel

def linked : FileSystem := ⟨.directory [("t", .file 0), ("l", .link "t")], [], #[.empty]⟩

section

variable {files : FileSystem} (root : files.root = linked.root) (home : files.home = linked.home)
include root home

theorem locate_link (wanted : LastName) (place : Place)
    (walked : files.walk wanted FileSystem.linkLimit [] linked.root ["l"] = .ok place) :
    files.locate "l" wanted = .ok place := by
  have plain : FileSystem.pathFault? "l" = none := by decide
  have starts : files.startOf "l" = [] := home
  have names : Path.names "l" = [("l" : Path)] := by decide
  simp only [FileSystem.locate, plain, FileSystem.walkFrom, starts, root, FileNode.below?, names,
    List.reverse_nil, walked]

theorem link_leads (wanted : LastName) (follows : wanted ≠ .itself) :
    files.locate "l" wanted = .ok (.found ["t"] (.file 0)) := by
  refine locate_link root home wanted _ ?_
  have unlike : ¬ (([] : List Path).isEmpty = true ∧ wanted = .itself) := fun both => follows both.2
  have onward : files.walk wanted FileSystem.linkLimit [] linked.root ["l"] =
      files.walk wanted 39 [] linked.root ["t"] := by
    rw [linked, FileSystem.walk_down (by decide) (by decide) (by simp) (by decide)]
    simp only [List.lookup_cons, if_neg unlike, FileSystem.linkLimit]
    rfl
  rw [onward, linked, FileSystem.walk_down (by decide) (by decide) (by simp) (by decide)]
  simp only [List.lookup_cons, BEq.rfl]
  rw [FileSystem.walk]
  rfl

theorem link_itself : files.node "l" .itself = .ok (.link "t") := by
  have walked : files.walk .itself FileSystem.linkLimit [] linked.root ["l"] =
      .ok (.found ["l"] (.link "t")) := by
    rw [linked, FileSystem.walk_down (by decide) (by decide) (by simp) (by decide)]
    rfl
  rw [FileSystem.node, locate_link root home .itself _ walked]

end

end Example

-- Three rows in stripes of two, under a name of the compression in capitals.
theorem three_rows_are_read_back :
    ∃ output notes written length,
      Outcome.generate Zstd.storedFrames .empty 0 "t" 3 2 " NONE " true = ⟨.done, output, notes, written⟩ ∧
      written.length "t" = .ok length ∧ length < UInt64.size ∧
      ReadInFull written "t" Sample.fields .stored 2 3 Sample.row ∧
      ∃ splits, Outcome.count written .standard ["t"] 8 =
        ⟨.done, [Outcome.countLine 3 1 splits], [], written⟩ := by
  have accepts : Compression.ofSetting " NONE " = .ok .stored := by rfl
  have creates := Example.empty_file_created Sample.fields (Example.plainOptions 2) rfl
  obtain ⟨full, added, small⟩ := Example.samples_added
  have generates := Outcome.generate_created Zstd.storedFrames .empty _ 0 "t" 3 2 " NONE " true .stored
    accepts _ full creates added
  obtain ⟨_, _, done⟩ := generated_rows_are_read_back Zstd.storedFrames .empty 0 "t" 3 2 " NONE " true
  obtain ⟨kind, length, known, measured, _, told⟩ := done _ _ _ generates
  rw [accepts, Except.ok.injEq] at known
  subst known
  obtain ⟨other, content, again, root, home, located, total, _⟩ :=
    Outcome.samples_left .empty _ "t" 3 _ _ creates
  rw [added, Except.ok.injEq] at again
  subst again
  have same : length = (full.close Example.made).1 := by
    rw [FileSystem.length, located] at measured
    cases measured
    exact total
  have whole := told (by rw [same]; exact small) (fun zstd => by cases zstd)
  have node := FileSystem.node_at_home (full.close Example.made).2 _ "t" 0 .itself home root rfl rfl
    (by decide) rfl (by decide) (by decide) (by decide)
  obtain ⟨splits, _, counted⟩ := whole.counted .standard [] 8 rfl (by simp [node])
  exact ⟨_, _, _, length, generates, measured, by rw [same]; exact small, whole, _, counted⟩

theorem row_at_a_link_is_not_counted :
    ∃ notes written,
      Outcome.generate Zstd.storedFrames Example.linked 0 "l" 1 1 "none" true = ⟨.done, [], notes, written⟩ ∧
      Outcome.count written .standard ["l"] 8 =
        ⟨.done, ["0 rows in 0 file(s), 0 split(s)"], [], written⟩ := by
  have located := @Example.link_leads Example.linked rfl rfl .file (by decide)
  have creates : Writer.create Example.linked "l" Sample.fields (Example.plainOptions 1) =
      .ok (.start 0 Sample.fields (Example.plainOptions 1), Example.linked.put 0 .empty) := by
    simp only [Writer.create, FileSystem.create, FileSystem.openForWriting, located]
    rfl
  obtain ⟨full, content, added, root, home, opened, _⟩ :=
    Outcome.samples_left Example.linked _ "l" 1 _ _ creates
  rw [FileSystem.put_root] at root
  rw [FileSystem.put_home] at home
  have generates := Outcome.generate_created Zstd.storedFrames Example.linked _ 0 "l" 1 1 "none" true
    .stored rfl _ full creates added
  obtain ⟨id, opens⟩ := FileSystem.open_path_regular _ "l" content opened
  have listed := Listing.list_link _ "l" "t" id (Example.link_itself root home) opens
  have words : Outcome.countLine 0 0 0 = "0 rows in 0 file(s), 0 split(s)" := by decide +kernel
  have counted := Outcome.count_nothing _ .standard ["l"] 8 listed
  rw [words] at counted
  exact ⟨_, _, generates, counted⟩

end Columnar
