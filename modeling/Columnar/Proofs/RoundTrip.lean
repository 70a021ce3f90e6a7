import Columnar.Proofs.AcceptedFiles
import Columnar.Proofs.FileSystem.Created
import Columnar.Proofs.WrittenStripes

set_option autoImplicit false

namespace Columnar

namespace Writer

open Layout

theorem start_laid_out (file : Nat) (fields : List Field) (options : WriterOptions) :
    LaidOut (start file fields options) [] [] := by
  refine ⟨?_, rfl, rfl, ?_, rfl, rfl, ?_⟩
  · simp [start, content, bodyBytes]
  · simp only [start, columns_of_nothing, List.map_replicate, List.reverse_nil, List.map_const']
  · intro row member
    cases member

theorem create_going (files made : FileSystem) (path : Path) (fields : List Field)
    (options : WriterOptions) (writer : Writer)
    (creates : create files path fields options = .ok (writer, made)) :
    fields ≠ [] ∧ writer.fields = fields ∧ writer.options = options ∧ Going made writer [] [] ∧
      ∀ after : FileSystem, after.root = made.root → after.home = made.home →
        after.openPath path = .ok (.file writer.file) := by
  simp only [create, FileSystem.create] at creates
  by_cases empty : fields.isEmpty = true
  · rw [if_pos empty] at creates
    cases creates
  · rw [if_neg empty] at creates
    cases opens : files.openForWriting path with
    | error fault => simp [opens, Except.map] at creates
    | ok pair =>
      obtain ⟨id, opened⟩ := pair
      simp only [opens, Except.map, Except.ok.injEq, Prod.mk.injEq] at creates
      obtain ⟨rfl, rfl⟩ := creates
      refine ⟨?_, rfl, rfl, ⟨start_laid_out id fields options, ?_⟩, ?_⟩
      · simpa using empty
      · refine ⟨?_, Nat.le_refl _⟩
        simp only [start, FileSystem.put_contents, List.take_zero]
        rfl
      · intro after root home
        rw [FileSystem.put_root] at root
        rw [FileSystem.put_home] at home
        exact FileSystem.open_for_writing_opens files opened path id opens after root home

theorem run_lays_out (files made left : FileSystem) (path : Path) (fields : List Field)
    (options : WriterOptions) (writer last : Writer)
    (creates : create files path fields options = .ok (writer, made)) (calls : List WriterCall)
    (rows : List Row) (ran : writer.run made calls = (rows, last, left)) :
    fields ≠ [] ∧ last.fields = fields ∧ last.options = options ∧
      Going left last (Cutting.nothing.run fields (max options.stripeRows 1) calls).chunks
        (Cutting.nothing.run fields (max options.stripeRows 1) calls).waiting ∧
      (Cutting.nothing.run fields (max options.stripeRows 1) calls).rows = rows ∧
      ∀ after : FileSystem, after.root = left.root → after.home = left.home →
        after.openPath path = .ok (.file last.file) := by
  obtain ⟨filled, sameFields, sameOptions, going, found⟩ := create_going files made path fields options
    writer creates
  obtain ⟨gone, onward, taken⟩ := run_going made writer .nothing going calls
  rw [limit, sameFields, sameOptions] at gone taken
  rw [ran] at gone onward taken
  refine ⟨filled, onward.fields.trans sameFields, onward.options.trans sameOptions, gone, taken,
    fun after root home => ?_⟩
  rw [onward.file]
  exact found after (root.trans onward.root) (home.trans onward.home)

theorem close_located (files : FileSystem) (path : Path) (writer : Writer) (cutting : Cutting)
    (going : Going files writer cutting.chunks cutting.waiting)
    (found : ∀ after : FileSystem, after.root = files.root → after.home = files.home →
      after.openPath path = .ok (.file writer.file)) :
    ∃ content, (writer.close files).2.openFile path = .ok (.regular content) ∧
      content.length = (writer.close files).1 ∧
      content.toBytes = writer.flush.content ++ writer.flush.ending ∧
      LaidOut writer.flush cutting.flush.chunks [] ∧
      writer.flush.fields = writer.fields ∧ writer.flush.options = writer.options := by
  obtain ⟨laidOut, sameFields, sameOptions, holds, long, root, home⟩ :=
    close_holds files writer cutting going
  refine ⟨_, ?_, ?_, holds, laidOut, sameFields, sameOptions⟩
  · rw [FileSystem.openFile, found _ root home]
    rfl
  · rw [← Content.length_toBytes, holds]
    exact long.symm

theorem close_lays_out (files made left closed : FileSystem) (path : Path) (fields : List Field)
    (options : WriterOptions) (writer last : Writer)
    (creates : create files path fields options = .ok (writer, made)) (calls : List WriterCall)
    (rows : List Row) (ran : writer.run made calls = (rows, last, left)) (length : Nat)
    (closes : last.close left = (length, closed)) :
    ∃ content, closed.openFile path = .ok (.regular content) ∧ content.length = length ∧
      content.toBytes = last.flush.content ++ last.flush.ending ∧
      LaidOut last.flush (Cutting.chunksOf fields (max options.stripeRows 1) calls) [] ∧
      last.flush.fields = fields ∧ last.flush.options = options := by
  obtain ⟨_, sameFields, sameOptions, gone, _, found⟩ := run_lays_out files made left path fields
    options writer last creates calls rows ran
  obtain ⟨content, located, total, bytes, laidOut, finalFields, finalOptions⟩ :=
    close_located left path last _ gone found
  rw [closes] at located total
  exact ⟨content, located, total, bytes, laidOut, finalFields.trans sameFields,
    finalOptions.trans sameOptions⟩

-- What a writer leaves at a path when it is closed: its stripes, and what ends them.
structure Left (files : FileSystem) (path : Path) (content : Content) (last : Writer)
    (chunks : List (List Row)) : Prop where
  located : files.openFile path = .ok (.regular content)
  bytes : content.toBytes = last.content ++ last.ending
  laidOut : LaidOut last chunks []
  small : content.length < UInt64.size
  filled : last.fields ≠ []
  nodes : (TypeTree.ofFields last.fields).nodes.length < UInt32.size
  measured : Measured last.fields last.options chunks

theorem close_leaves (files made closed left : FileSystem) (path : Path) (fields : List Field)
    (options : WriterOptions) (writer last : Writer)
    (creates : create files path fields options = .ok (writer, made))
    (nodes : (TypeTree.ofFields fields).nodes.length < UInt32.size) (calls : List WriterCall)
    (rows : List Row) (ran : writer.run made calls = (rows, last, left)) (length : Nat)
    (closes : last.close left = (length, closed)) (small : length < UInt64.size)
    (encoded : options.compressor.kind = .zstd →
      Measured fields options (Cutting.chunksOf fields (max options.stripeRows 1) calls)) :
    ∃ content final chunks, Left closed path content final chunks ∧ final.fields = fields ∧
      content.length = length ∧ chunks.flatten = rows := by
  obtain ⟨filled, _, _, _, taken, _⟩ := run_lays_out files made left path fields options writer last
    creates calls rows ran
  obtain ⟨content, located, total, bytes, laidOut, finalFields, finalOptions⟩ := close_lays_out files
    made left closed path fields options writer last creates calls rows ran length closes
  rw [← finalFields] at filled nodes
  have whole : (last.flush.content ++ last.flush.ending).length < UInt64.size := by
    rw [← bytes, content.length_toBytes, total]
    exact small
  have fit := measured last.flush _ laidOut filled whole (by
    rw [finalFields, finalOptions]
    exact encoded)
  rw [← total] at small
  exact ⟨content, last.flush, _, ⟨located, bytes, laidOut, small, filled, nodes, fit⟩, finalFields,
    total, (Cutting.flatten_chunks_of _ _ _).trans taken⟩

section

variable {files : FileSystem} {path : Path} {content : Content} {last : Writer}
  {chunks : List (List Row)}

def container (last : Writer) (path : Path) (length : Nat) : Container :=
  ⟨path, length,
    Container.postscriptOf (last.footer.encode last.options.compressor)
      last.options.compressor.kind, last.footer⟩

theorem left_opens (left : Left files path content last chunks) :
    Container.openPath files path = .ok (last.container path content.length) := by
  have total := congrArg List.length left.bytes
  rw [content.length_toBytes, List.length_append] at total
  have small := left.small
  have placed : last.position = last.content.length := left.laidOut.position
  have started : last.content.take magic.length = magic := by
    rw [left.laidOut.content, List.take_left' rfl]
  have valid := footer_valid last chunks left.laidOut (Nat.le_of_lt left.nodes) left.measured.rows
    (by omega)
  have encoded := left.measured.footer
  rw [← laid_out_footer last chunks left.laidOut] at encoded
  have contentLength : last.footer.contentLength.toNat = last.content.length := by
    rw [← placed]
    exact UInt64.toNat_ofNat_of_lt' (by omega)
  have opened := Container.of_file_assembled path last.footer last.options.compressor left.bytes started
    valid (fun _ => encoded) contentLength small
  simp only [Container.openPath, left.located]
  exact opened

theorem left_in_range (left : Left files path content last chunks)
    (accepted : Container.Accepted files path (last.container path content.length) content) :
    last.footer.stripesInRange 0 content.length = last.footer.stripes := by
  have checked := (Footer.valid_iff_checked last.footer).mp accepted.valid
  have total := congrArg List.length left.bytes
  rw [content.length_toBytes, List.length_append] at total
  have small := left.small
  have ends := last.length_ending
  have placed : last.position = last.content.length := left.laidOut.position
  have contentLength : last.footer.contentLength.toNat = last.content.length := by
    rw [← placed]
    exact UInt64.toNat_ofNat_of_lt' (by omega)
  have stop : (UInt64.ofNat content.length).toNat = content.length := UInt64.toNat_ofNat_of_lt' small
  have all := Container.all_stripes_in_range accepted 0 (UInt64.ofNat content.length) (Nat.zero_le _)
    (UInt64.le_iff_toNat_le.mpr (Nat.zero_le _)) (by
      intro stripe isLast
      have inside := StripeInfo.ordered_inside _ _ _ _ checked.ordered stripe
        (List.mem_of_getLast? isLast)
      rw [StripeInfo.stop] at inside
      rw [UInt64.lt_iff_toNat_lt, stop]
      omega)
  rw [stop] at all
  exact all

theorem left_scans (left : Left files path content last chunks)
    (accepted : Container.Accepted files path (last.container path content.length) content)
    (settings : Settings) (reader : RecordReader)
    (made : RecordReader.ofContainer files (last.container path content.length) settings 0
      content.length = .ok reader) (all : reader.inclusion = .all) (scan : Scan) :
    Drains (RecordReader.next files) reader scan ↔
      scan = (StripeRows.scan (.regular content) last.options.compressor.kind
        (List.replicate last.fields.length true)
        (stripesFrom last.options.compressor last.fields.length magic.length
          chunks)).mapFailure (RecordReader.withPath path) := by
  have drains := RecordReader.drains_of_container files (last.container path content.length) settings 0
    content.length _ reader accepted.located made scan
  have types : (last.container path content.length).types = .ofFields last.fields := rfl
  have flags : Inclusion.all.topLevel (.ofFields last.fields) =
      List.replicate last.fields.length true := by
    rw [List.eq_replicate_iff, Inclusion.length_top_level, TypeTree.length_columns_of_fields]
    exact ⟨rfl, Inclusion.top_level_of_all _⟩
  have range : (last.container path content.length).footer.stripesInRange 0 content.length =
      stripesFrom last.options.compressor last.fields.length magic.length chunks := by
    rw [← left.laidOut.stripes]
    exact left_in_range left accepted
  rw [all, types, flags, range] at drains
  exact drains

theorem left_wide (left : Left files path content last chunks) :
    ∀ row ∈ chunks.flatten, row.width = last.fields.length := by
  intro row member
  exact (fault_none_width last.fields row
    (left.laidOut.fit row (by rw [List.append_nil]; exact member))).1

theorem left_shallow (left : Left files path content last chunks) :
    ((∀ rows ∈ chunks, Shallow (columnsOf last.fields.length rows)) →
      StripeRows.scan (.regular content) last.options.compressor.kind
        (List.replicate last.fields.length true)
        (stripesFrom last.options.compressor last.fields.length magic.length
          chunks) = ⟨chunks.flatten, none⟩) ∧
    ((StripeRows.scan (.regular content) last.options.compressor.kind
        (List.replicate last.fields.length true)
        (stripesFrom last.options.compressor last.fields.length magic.length
          chunks)).failure = none →
      ∀ rows ∈ chunks, Shallow (columnsOf last.fields.length rows)) := by
  have bytes := left.bytes
  rw [left.laidOut.content, List.append_assoc] at bytes
  exact StripeRows.scan_written last.fields.length (List.length_pos_iff.mpr left.filled)
    (TypeTree.fields_small last.fields (Nat.le_of_lt left.nodes)) chunks (left_wide left)
    left.measured.toCounted magic last.ending bytes left.small

theorem left_read_back (left : Left files path content last chunks)
    (accepted : Container.Accepted files path (last.container path content.length) content)
    (settings : Settings) (reader : RecordReader)
    (made : RecordReader.ofContainer files (last.container path content.length) settings 0
      content.length = .ok reader) (all : reader.inclusion = .all) :
    (∀ read, Drains (RecordReader.next files) reader ⟨read, none⟩ → read = chunks.flatten) ∧
      ((∀ field ∈ last.fields, field.2.nesting < 80) →
        ∀ scan, Drains (RecordReader.next files) reader scan ↔ scan = ⟨chunks.flatten, none⟩) := by
  obtain ⟨scans, clean⟩ := left_shallow left
  refine ⟨fun read drains => ?_, fun flat scan => ?_⟩
  · have same := (left_scans left accepted settings reader made all _).mp drains
    simp only [Scan.mapFailure, Scan.mk.injEq] at same
    rw [same.1, scans (clean (Option.map_eq_none_iff.mp same.2.symm))]
  · rw [left_scans left accepted settings reader made all, scans]
    · exact Iff.rfl
    · intro rows member
      refine columns_shallow last.fields rows ?_ flat
      intro row inside
      exact left.laidOut.fit row (by
        rw [List.append_nil]
        exact List.mem_flatten.mpr ⟨rows, member, inside⟩)

theorem left_ready (left : Left files path content last chunks) (settings : Settings)
    (plain : settings.readColumns = none) :
    ∃ reader, RecordReader.openSplit files settings ⟨path, 0, content.length⟩ = .ok reader ∧
      Container.Accepted files path (last.container path content.length) content ∧
      RecordReader.ofContainer files (last.container path content.length) settings 0 content.length =
        .ok reader ∧
      reader.inclusion = .all := by
  have opens := left_opens left
  obtain ⟨other, accepted⟩ := Container.open_path_accepts files path _ opens
  have same := accepted.located
  rw [left.located] at same
  cases same
  have parsed : settings.ordinals = .ok [] := by rw [Settings.ordinals, plain]
  obtain ⟨reader, ready, includes⟩ := RecordReader.of_container_opens files path _ content accepted
    settings [] parsed 0 content.length
  have split := RecordReader.open_split_of_container files path _ opens settings 0 content.length
    reader ready
  exact ⟨reader, split, accepted, ready, Inclusion.of_no_ordinals _ _ includes⟩

theorem left_reads (left : Left files path content last chunks) (settings : Settings)
    (plain : settings.readColumns = none) :
    ∃ reader, RecordReader.openSplit files settings ⟨path, 0, content.length⟩ = .ok reader ∧
      (∀ read, Drains (RecordReader.next files) reader ⟨read, none⟩ → read = chunks.flatten) ∧
      ((∀ field ∈ last.fields, field.2.nesting < 80) →
        ∀ scan, Drains (RecordReader.next files) reader scan ↔ scan = ⟨chunks.flatten, none⟩) := by
  obtain ⟨reader, split, accepted, made, all⟩ := left_ready left settings plain
  exact ⟨reader, split, left_read_back left accepted settings reader made all⟩

end

end Writer

namespace Example

def fields : List Field := [("id", .long), ("tags", .list .string)]

def options : WriterOptions := ⟨2, plain, 0⟩

def rows : List Row :=
  [⟨[.long 5, .null]⟩, ⟨[.null, .list [.string "x", .null]]⟩, ⟨[.long (-1), .list []]⟩]

def calls : List WriterCall :=
  [.add ⟨[.long 5, .null]⟩, .add ⟨[.null]⟩, .flush,
    .add ⟨[.null, .list [.string "x", .null]]⟩, .add ⟨[.long (-1), .list []]⟩]

def made : FileSystem := ⟨.directory [("t", .file 0)], [], #[.empty]⟩

theorem empty_file_created (fields : List Field) (options : WriterOptions)
    (filled : fields.isEmpty = false) :
    Writer.create .empty "t" fields options = .ok (.start 0 fields options, made) := by
  have walked : FileSystem.empty.walk .file FileSystem.linkLimit [] (.directory []) ["t"] =
      .ok (.absent [] "t") := by
    rw [FileSystem.walk_down (by decide) (by decide) (by simp) (by decide)]
    rfl
  have located : FileSystem.empty.locate "t" .file = .ok (.absent [] "t") := walked
  simp only [Writer.create, FileSystem.create, FileSystem.openForWriting, located, filled]
  rfl

theorem run_leaves (files : FileSystem) (writer : Writer) (calls : List WriterCall) (rows : List Row)
    (ran : (writer.run files calls).1 = rows)
    (small : ((writer.run files calls).2.1.close (writer.run files calls).2.2).1 < UInt64.size) :
    ∃ last left, writer.run files calls = (rows, last, left) ∧ (last.close left).1 < UInt64.size :=
  ⟨_, _, Prod.ext ran rfl, small⟩

theorem rows_written :
    ∃ writer last left,
      Writer.create .empty "t" fields options = .ok (writer, made) ∧
      writer.run made calls = (rows, last, left) ∧ (last.close left).1 < UInt64.size := by
  have ran : ((Writer.start 0 fields options).run made calls).1 = rows := by rfl
  obtain ⟨last, left, whole, small⟩ := run_leaves made (.start 0 fields options) calls rows ran (by
    rw [Writer.close_length, Writer.length_ending]
    decide +kernel)
  exact ⟨_, last, left, empty_file_created fields options rfl, whole, small⟩

theorem rows_left :
    ∃ files content last chunks, Writer.Left files "t" content last chunks ∧
      last.fields = fields ∧ chunks.flatten = rows := by
  obtain ⟨writer, last, left, creates, ran, small⟩ := rows_written
  obtain ⟨content, final, chunks, leaves, sameFields, _, flat⟩ := Writer.close_leaves .empty made
    (last.close left).2 left "t" fields options writer last creates (by decide) calls rows ran _ rfl
    small nofun
  exact ⟨_, content, final, chunks, leaves, sameFields, flat⟩

end Example

-- Whatever is written, and however it is cut into stripes, the closed file is read back.
theorem written_rows_are_read_back (files made left closed : FileSystem) (path : Path)
    (fields : List Field) (options : WriterOptions) (writer last : Writer)
    (creates : Writer.create files path fields options = .ok (writer, made))
    (nodes : (TypeTree.ofFields fields).nodes.length < UInt32.size) (calls : List WriterCall)
    (rows : List Row) (ran : writer.run made calls = (rows, last, left)) (length : Nat)
    (closes : last.close left = (length, closed)) (small : length < UInt64.size)
    (encoded : options.compressor.kind = .zstd →
      Layout.Measured fields options (Cutting.chunksOf fields (max options.stripeRows 1) calls))
    (settings : Settings) (plain : settings.readColumns = none) :
    ∃ container reader,
      Container.openPath closed path = .ok container ∧
      container.length = length ∧
      RecordReader.openSplit closed settings ⟨path, 0, length⟩ = .ok reader ∧
      (∀ read, Drains (RecordReader.next closed) reader ⟨read, none⟩ → read = rows) ∧
      ((∀ field ∈ fields, field.2.nesting < 80) →
        ∀ scan, Drains (RecordReader.next closed) reader scan ↔ scan = ⟨rows, none⟩) := by
  obtain ⟨content, final, chunks, leaves, sameFields, total, flat⟩ := Writer.close_leaves files made
    closed left path fields options writer last creates nodes calls rows ran length closes small encoded
  have opens := Writer.left_opens leaves
  obtain ⟨reader, split, back⟩ := Writer.left_reads leaves settings plain
  rw [total] at opens split
  rw [flat, sameFields] at back
  exact ⟨_, reader, opens, rfl, split, back⟩

theorem rows_of_two_stripes_are_read_back :
    ∃ writer last left length closed reader,
      Writer.create .empty "t" Example.fields Example.options = .ok (writer, Example.made) ∧
      (TypeTree.ofFields Example.fields).nodes.length < UInt32.size ∧
      writer.run Example.made Example.calls = (Example.rows, last, left) ∧
      last.close left = (length, closed) ∧ length < UInt64.size ∧
      RecordReader.openSplit closed .standard ⟨"t", 0, length⟩ = .ok reader ∧
      ∀ scan, Drains (RecordReader.next closed) reader scan ↔ scan = ⟨Example.rows, none⟩ := by
  obtain ⟨writer, last, left, creates, ran, small⟩ := Example.rows_written
  have nodes : (TypeTree.ofFields Example.fields).nodes.length < UInt32.size := by decide
  obtain ⟨container, reader, _, _, opens, _, back⟩ := written_rows_are_read_back .empty Example.made
    left (last.close left).2 "t" Example.fields Example.options writer last creates nodes Example.calls
    Example.rows ran (last.close left).1 rfl small nofun .standard rfl
  exact ⟨writer, last, left, _, _, reader, creates, nodes, ran, rfl, small, opens, back (by decide)⟩

end Columnar
