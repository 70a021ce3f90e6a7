import Columnar.Proofs.CountedRows
import Columnar.Proofs.LineShape
import Columnar.Proofs.ListedFile
import Columnar.Proofs.SampleRows
import Columnar.Proofs.WrittenFile

set_option autoImplicit false

namespace Columnar

namespace Outcome

def countLine (rows files splits : Nat) : String :=
  Text.natText rows ++ " rows in " ++ Text.natText files ++ " file(s), " ++ Text.natText splits ++
    " split(s)"

theorem count_nothing (files : FileSystem) (settings : Settings) (roots : List Path)
    (wanted : Nat) (listed : Listing.list files roots = .ok []) :
    count files settings roots wanted = ⟨.done, [countLine 0 0 0], [], files⟩ := by
  obtain ⟨groups, plans, nothing⟩ := SplitPlan.plan_tiles files settings [] wanted [] rfl
  cases nothing
  simp only [count, planned, listed, plans, Except.map]
  rfl

theorem count_opened {files : FileSystem} {path : Path} {container : Container}
    (opens : Container.openPath files path = .ok container)
    (listed : Listing.list files [path] = .ok [path]) (settings : Settings) (ordinals : List Nat)
    (parsed : settings.ordinals = .ok ordinals) (small : container.length < UInt64.size)
    (clean : container.ScansClean files settings ∨
      container.ScansClean files { settings with readColumns := none }) (wanted : Nat) :
    ∃ splits, SplitPlan.plan files settings [path] wanted = .ok splits ∧
      count files settings [path] wanted =
        ⟨.done, [countLine container.rowCount 1 splits.length], [], files⟩ := by
  have opened : [path].map (Container.openPath files) = [container].map .ok := by
    rw [List.map_singleton, List.map_singleton, opens]
  obtain ⟨each, known⟩ := SplitPlan.lengths_of_opened files [path] _ opened
  obtain ⟨groups, planned, tiled⟩ := SplitPlan.plan_tiles files settings [path] wanted _ known
  rw [List.forall₂_map_left_iff] at tiled
  have counted := count_tiled_files ordinals parsed _ _ groups each
    (List.forall_mem_singleton.mpr ⟨small, clean⟩) tiled
  refine ⟨groups.flatten, planned, ?_⟩
  simp only [count, Outcome.planned, listed, planned, Except.map, counted, List.map_cons, List.map_nil,
    List.sum_cons, List.sum_nil, Nat.add_zero, List.length_singleton, countLine]

theorem lines_shown (types : TypeTree) (valid : types.Valid) (rows : List Row)
    (wide : ∀ row ∈ rows, types.columns.length ≤ row.width) :
    ∃ output, lines types rows = (output, none) ∧
      output.map some = rows.map (fun row => (Rendering.line? types row).map String.ofList) ∧
      ∀ line ∈ output, '\n' ∉ line.toList := by
  induction rows with
  | nil => exact ⟨[], rfl, rfl, by simp⟩
  | cons row rest ih =>
    rw [List.forall_mem_cons] at wide
    obtain ⟨line, shown, printable, _⟩ := Rendering.line_shown types valid row wide.1
    obtain ⟨output, others, same, single⟩ := ih wide.2
    refine ⟨String.ofList line :: output, by simp only [lines, shown, others], ?_, ?_⟩
    · simp only [List.map_cons, shown, Option.map_some, same]
    · refine List.forall_mem_cons.mpr ⟨fun broken => ?_, single⟩
      rw [String.toList_ofList] at broken
      obtain tab | plain := printable '\n' broken
      · cases tab
      · cases plain

end Outcome

namespace Writer

open Layout

section

variable {files : FileSystem} {path : Path} {content : Content} {last : Writer}
  {chunks : List (List Row)}

theorem left_counts (left : Left files path content last chunks) :
    (last.container path content.length).rowCount = chunks.flatten.length ∧
      last.footer.stripes.map (fun stripe => stripe.rows.toNat) = chunks.map List.length := by
  have total := congrArg List.length left.bytes
  rw [content.length_toBytes, List.length_append, ← left.laidOut.position] at total
  have small := left.small
  obtain ⟨_, rows, _⟩ := footer_counts last chunks left.laidOut left.measured.rows (by omega)
  obtain ⟨_, stored⟩ := laid_out_stripes content last chunks left.laidOut left.filled
    left.measured.toCounted left.bytes small
  refine ⟨rows, ?_⟩
  rw [← List.forall₂_eq_eq_eq, List.forall₂_map_left_iff, List.forall₂_map_right_iff]
  exact stored.imp fun stripe chunk stores => stores.counted

theorem left_described (left : Left files path content last chunks) :
    Outcome.describe files path =
      ⟨.done,
        ["schema:      " ++ (TypeTree.ofFields last.fields).text,
          "rows:        " ++ Text.natText chunks.flatten.length,
          "compression: " ++ last.options.compressor.kind.label, "writer:      " ++ name,
          "length:      " ++ Text.natText content.length] ++
          last.footer.stripes.zipIdx.map fun (stripe, number) => Outcome.stripeLine number stripe,
        [], files⟩ := by
  simp only [Outcome.describe, left_opens left, (left_counts left).1]
  rfl

variable (flat : ∀ field ∈ last.fields, field.2.nesting < 80)
include flat

theorem left_ahead (left : Left files path content last chunks) (settings : Settings)
    (plain : settings.readColumns = none) :
    ∃ reader, RecordReader.openSplit files settings ⟨path, 0, content.length⟩ = .ok reader ∧
      reader.types = .ofFields last.fields ∧ reader.ahead files = ⟨chunks.flatten, none⟩ := by
  obtain ⟨reader, opens, accepted, made, all⟩ := left_ready left settings plain
  obtain ⟨ready, _⟩ := RecordReader.open_split_ready files settings _ reader opens
  obtain ⟨_, _, _, started⟩ := RecordReader.start_of_container accepted made
  refine ⟨reader, opens, by rw [started]; rfl, ?_⟩
  obtain ⟨_, drains⟩ := left_read_back left accepted settings reader made all
  exact (drains flat _).mp (drains_ahead (RecordReader.next_foretold files) reader ready)

theorem left_shown (left : Left files path content last chunks) (settings : Settings)
    (plain : settings.readColumns = none) :
    ∃ output reader,
      Outcome.scan files settings path 0 none none none =
        ⟨.done, output, [Outcome.scanNote chunks.flatten.length reader], files⟩ ∧
      output.map some = chunks.flatten.map (fun row =>
        (Rendering.line? (.ofFields last.fields) row).map String.ofList) ∧
      ∀ line ∈ output, '\n' ∉ line.toList := by
  obtain ⟨reader, opens, types, ahead⟩ := left_ahead flat left settings plain
  obtain ⟨ready, enough⟩ := RecordReader.open_split_ready files settings _ reader opens
  obtain ⟨failure, rows⟩ := Outcome.drain_ahead files (Outcome.callLimit reader) reader reader.slot []
    ready enough
  rw [ahead, List.append_nil] at rows
  rw [ahead] at failure
  have valid := (TypeTree.valid_iff_numbered _).mpr
    (TypeTree.numbered_of_fields last.fields (Nat.le_of_lt left.nodes))
  obtain ⟨output, shown, same, single⟩ := Outcome.lines_shown (.ofFields last.fields) valid
    chunks.flatten (fun row member => by
      rw [TypeTree.length_columns_of_fields, left_wide left row member])
  refine ⟨output, (Outcome.drainAll files reader none).reader, ?_, same, single⟩
  have length : files.length path = .ok content.length := by
    rw [FileSystem.length, left.located]
    rfl
  simp only [Outcome.scan, Outcome.withColumns, Outcome.lengthFrom, length, Nat.sub_zero, opens,
    Outcome.scanWith, Outcome.drainAll, rows, failure, List.reverse_reverse, List.length_reverse, types,
    shown, Option.or_none, RecordReader.close_succeeds]

theorem left_counted (left : Left files path content last chunks)
    (listed : Listing.list files [path] = .ok [path]) (settings : Settings) (ordinals : List Nat)
    (parsed : settings.ordinals = .ok ordinals) (wanted : Nat) :
    ∃ splits, SplitPlan.plan files settings [path] wanted = .ok splits ∧
      Outcome.count files settings [path] wanted =
        ⟨.done, [Outcome.countLine chunks.flatten.length 1 splits.length], [], files⟩ := by
  have opens := left_opens left
  have clean : (last.container path content.length).ScansClean files
      { settings with readColumns := none } := by
    obtain ⟨reader, ready, accepted, made, all⟩ :=
      left_ready left { settings with readColumns := none } rfl
    obtain ⟨_, drains⟩ := left_read_back left accepted _ reader made all
    exact ⟨reader, _, ready, (drains flat _).mpr rfl⟩
  have counted := Outcome.count_opened opens listed settings ordinals parsed left.small (.inr clean)
    wanted
  rwa [(left_counts left).1] at counted

end

end Writer

structure ReadInFull (files : FileSystem) (path : Path) (fields : List Field) (kind : Compression)
    (limit count : Nat) (row : Nat → Row) : Prop where
  described : ∃ (length : Nat) (stripes : List StripeInfo),
    Outcome.describe files path =
      ⟨.done,
        ["schema:      " ++ (TypeTree.ofFields fields).text, "rows:        " ++ Text.natText count,
          "compression: " ++ kind.label, "writer:      " ++ Writer.name,
          "length:      " ++ Text.natText length] ++
          stripes.zipIdx.map fun (stripe, number) => Outcome.stripeLine number stripe,
        [], files⟩ ∧
    stripes.length = (count + limit - 1) / limit ∧
    stripes.map (fun stripe => stripe.rows.toNat) = List.replicate (count / limit) limit ++
      if count % limit = 0 then [] else [count % limit]
  scanned : ∀ settings : Settings, settings.readColumns = none → ∃ output reader,
    Outcome.scan files settings path 0 none none none =
      ⟨.done, output, [Outcome.scanNote count reader], files⟩ ∧
    output.map some = (List.range count).map (fun number =>
      (Rendering.line? (.ofFields fields) (row number)).map String.ofList) ∧
    ∀ line ∈ output, '\n' ∉ line.toList
  counted : ∀ (settings : Settings) (ordinals : List Nat) (wanted : Nat),
    settings.ordinals = .ok ordinals →
    (∀ target, files.node path .itself ≠ .ok (.link target)) →
    ∃ splits, SplitPlan.plan files settings [path] wanted = .ok splits ∧
      Outcome.count files settings [path] wanted =
        ⟨.done, [Outcome.countLine count 1 splits.length], [], files⟩
  -- A link to the file is not followed where files are listed.
  passed : ∀ (settings : Settings) (wanted : Nat) (target : Path),
    files.node path .itself = .ok (.link target) →
    Outcome.count files settings [path] wanted = ⟨.done, [Outcome.countLine 0 0 0], [], files⟩

theorem Writer.left_read_in_full {files : FileSystem} {path : Path} {content : Content}
    {last : Writer} {chunks : List (List Row)} (left : Left files path content last chunks)
    (flat : ∀ field ∈ last.fields, field.2.nesting < 80) {limit count : Nat} {row : Nat → Row}
    (positive : 0 < limit) (segmented : Segmented limit ((List.range count).map row) chunks) :
    ReadInFull files path last.fields last.options.compressor.kind limit count row := by
  have rows : chunks.flatten.length = count := by
    rw [segmented.whole, List.length_map, List.length_range]
  have lengths := segmented.lengths
  have stripes := segmented.count positive
  rw [List.length_map, List.length_range] at lengths stripes
  obtain ⟨id, opens⟩ := FileSystem.open_path_regular files path content left.located
  refine ⟨?described, fun settings plain => ?scanned,
    fun settings ordinals wanted parsed unlinked => ?counted,
    fun settings wanted target linked => ?passed⟩
  case described =>
    have counts := (left_counts left).2
    have described := left_described left
    rw [rows] at described
    refine ⟨content.length, last.footer.stripes, described, ?_, counts.trans lengths⟩
    have same := congrArg List.length counts
    rwa [List.length_map, List.length_map, stripes] at same
  case scanned =>
    have shown := left_shown flat left settings plain
    rw [rows, segmented.whole, List.map_map] at shown
    exact shown
  case counted =>
    obtain here | ⟨target, linked⟩ := FileSystem.node_itself files path id opens
    · have counted := left_counted flat left (Listing.list_file files path id here) settings ordinals
        parsed wanted
      rwa [rows] at counted
    · exact absurd linked (unlinked target)
  case passed =>
    exact Outcome.count_nothing files settings [path] wanted
      (Listing.list_link files path target id linked opens)

end Columnar
