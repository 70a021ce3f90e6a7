import Columnar.Proofs.RoundTrip

set_option autoImplicit false

namespace Columnar

def LoadedStripe.keep (flags : List Bool) (columns : List (Option (List Value))) :
    List (Option (List Value)) :=
  List.zipWith (fun flag column => if flag then column else none) flags columns

def Row.keep (flags : List Bool) (row : Row) : Row :=
  ⟨List.zipWith (fun flag value => if flag then value else .null) flags row.values⟩

namespace LoadedStripe

variable {flags : List Bool} {columns : List (Option (List Value))}

theorem keep_set_flagged (place : Nat) (values : List Value) (set : flags[place]? = some true) :
    keep flags (columns.set place (some values)) = (keep flags columns).set place (some values) := by
  apply List.ext_getElem?
  intro other
  simp only [keep, List.getElem?_zipWith, List.getElem?_set, List.length_zipWith]
  by_cases same : place = other
  · have short := (List.getElem?_eq_some_iff.mp set).1
    subst same
    by_cases inside : place < columns.length
    · have both : place < min flags.length columns.length := by omega
      simp [set, inside, both]
    · have outside : ¬ place < min flags.length columns.length := by omega
      simp [inside, outside]
  · simp [same]

theorem keep_set_unflagged (place : Nat) (values : List Value) (unset : flags[place]? = some false) :
    keep flags (columns.set place (some values)) = keep flags columns := by
  apply List.ext_getElem?
  intro other
  simp only [keep, List.getElem?_zipWith, List.getElem?_set]
  by_cases same : place = other
  · subst same
    by_cases inside : place < columns.length
    · simp [unset, inside]
    · simp [unset, inside]
  · simp [same]

theorem keep_nothing (wide : List Bool) (same : flags.length = wide.length) :
    keep flags (wide.map fun _ => none) = flags.map fun _ => none := by
  apply List.ext_getElem?
  intro place
  simp only [keep, List.getElem?_zipWith, List.getElem?_map]
  by_cases inside : place < flags.length
  · simp [List.getElem?_eq_getElem inside, List.getElem?_eq_getElem (same ▸ inside)]
  · simp [List.getElem?_eq_none_iff.mpr (Nat.le_of_not_lt inside)]

theorem cells_of_keep (place : Nat) :
    cellsAt (keep flags columns) place =
      List.zipWith (fun flag value => if flag then value else .null) flags (cellsAt columns place) := by
  simp only [cellsAt, keep, List.map_zipWith, List.zipWith_map_right]
  congr 1
  funext flag column
  cases flag <;> simp

theorem rows_of_keep (left : Nat) :
    rows ⟨keep flags columns, left⟩ = (rows ⟨columns, left⟩).map (Row.keep flags) := by
  simp only [rows, List.map_map, cells_of_keep]
  apply List.map_congr_left
  intro place _
  rfl

end LoadedStripe

namespace StripeRows

open LoadedStripe

section

variable {file : OpenFile} {compression : Compression} {wide narrow : List Bool}

theorem read_streams_keep (stripe : StripeInfo) (streams : List StreamInfo)
    (columns found : List (Option (List Value))) (same : narrow.length = wide.length)
    (all : ∀ flag ∈ wide, flag = true)
    (read : readStreams file compression stripe wide streams columns = .ok found) :
    readStreams file compression stripe narrow streams (keep narrow columns) =
      .ok (keep narrow found) := by
  induction streams generalizing columns with
  | nil =>
    simp only [readStreams, Except.ok.injEq] at read
    rw [readStreams, read]
  | cons stream streams ih =>
    obtain ⟨unset, _⟩ | ⟨values, wanted, content, rest⟩ := read_streams_cons _ _ _ _ _ _ _ _ read
    · cases all _ (List.mem_of_getElem? unset)
    · have short := (List.getElem?_eq_some_iff.mp wanted).1
      have others := ih _ rest
      have here : narrow[stream.column.toNat]? = some narrow[stream.column.toNat] :=
        List.getElem?_eq_getElem (by omega)
      rw [readStreams]
      cases flag : narrow[stream.column.toNat] with
      | false =>
        rw [flag] at here
        rw [keep_set_unflagged _ _ here] at others
        simp only [here, others]
      | true =>
        rw [flag] at here
        rw [keep_set_flagged _ _ here] at others
        simp only [here, content, others]

theorem load_keep (stripe : StripeInfo) (loaded : LoadedStripe) (same : narrow.length = wide.length)
    (all : ∀ flag ∈ wide, flag = true) (loads : load file compression wide stripe = .ok loaded) :
    load file compression narrow stripe = .ok ⟨keep narrow loaded.columns, loaded.rowsLeft⟩ := by
  obtain ⟨read, left, present⟩ := load_columns file compression wide stripe loaded loads
  have kept := read_streams_keep stripe stripe.streams _ _ same all read
  rw [keep_nothing wide same] at kept
  simp only [load, kept, left]
  by_cases empty : stripe.rows.toNat = 0
  · rw [if_pos empty]
  · rw [if_neg empty]
    have complete : missingColumn? narrow (keep narrow loaded.columns) = none := by
      have wideNone := (missing_column_none_iff wide loaded.columns).mp (present empty)
      rw [missing_column_none_iff]
      intro place column wanted found
      simp only [keep, List.getElem?_zipWith, wanted] at found
      have short := (List.getElem?_eq_some_iff.mp wanted).1
      have wideHere : wide[place]? = some true := by
        rw [List.getElem?_eq_getElem (same ▸ short), all _ (List.getElem_mem _)]
      cases here : loaded.columns[place]? with
      | none => simp [here] at found
      | some values =>
        simp only [here, if_true, Option.some.injEq] at found
        rw [← found]
        exact wideNone place values wideHere here
    simp only [complete]

theorem scan_keep (stripes : List StripeInfo) (same : narrow.length = wide.length)
    (all : ∀ flag ∈ wide, flag = true)
    (clean : (scan file compression wide stripes).failure = none) :
    scan file compression narrow stripes =
      ⟨(scan file compression wide stripes).rows.map (Row.keep narrow), none⟩ := by
  induction stripes with
  | nil => rfl
  | cons stripe stripes ih =>
    simp only [scan] at clean ⊢
    cases loads : load file compression wide stripe with
    | error failure => simp [loads, Scan.failed] at clean
    | ok loaded =>
      simp only [loads, Scan.behind] at clean ⊢
      have kept := load_keep stripe loaded same all loads
      simp only [kept, ih clean, rows_of_keep, List.map_append]

end

theorem scan_width (file : OpenFile) (compression : Compression) (included : List Bool)
    (stripes : List StripeInfo) (row : Row)
    (member : row ∈ (scan file compression included stripes).rows) : row.width = included.length := by
  induction stripes with
  | nil => simp [scan, Scan.nothing] at member
  | cons stripe stripes ih =>
    simp only [scan] at member
    cases loads : load file compression included stripe with
    | error failure => simp [loads, Scan.failed] at member
    | ok loaded =>
      simp only [loads, Scan.behind] at member
      cases List.mem_append.mp member with
      | inl here =>
        obtain ⟨place, _, cells⟩ := List.mem_map.mp here
        rw [← cells, Row.width, cellsAt, List.length_map, load_length _ _ _ _ _ loads]
      | inr later => exact ih later

end StripeRows

namespace Row

theorem get_keep (flags : List Bool) (row : Row) (column : Nat) (flag : Bool)
    (here : flags[column]? = some flag) (inside : column < row.width) :
    (row.keep flags).get? column = if flag then row.get? column else some .null := by
  have cell : row.values[column]? = some row.values[column] := List.getElem?_eq_getElem inside
  simp only [get?, keep, List.getElem?_zipWith, here, cell]
  cases flag <;> rfl

theorem keep_nothing (row : Row) (flags : List Bool) (same : row.width = flags.length)
    (cleared : ∀ flag ∈ flags, flag = false) : row.keep flags = .blank flags.length := by
  simp only [keep, blank, Row.mk.injEq]
  apply List.ext_getElem?
  intro column
  rw [List.getElem?_zipWith, List.getElem?_replicate]
  by_cases inside : column < flags.length
  · have unset := cleared flags[column] (List.getElem_mem inside)
    have within : column < row.values.length := by
      rw [width] at same
      omega
    simp [List.getElem?_eq_getElem within, unset, inside]
  · simp [inside]

end Row

namespace Inclusion

theorem top_level_at (inclusion : Inclusion) (tree : TypeTree) (column : Nat) (id : UInt32)
    (found : tree.columns[column]? = some id) :
    (inclusion.topLevel tree)[column]? = some (inclusion.includes id) := by
  rw [topLevel, List.getElem?_map, found, Option.map_some]

theorem schema_flags (fields : List Field) (numbered : (TypeTree.ofFields fields).Numbered)
    (ordinals : List Nat) (inclusion : Inclusion)
    (includes : ofProjection (.ofFields fields)
      (Projection.ofOrdinals ordinals (.ofFields fields)) = .ok inclusion)
    (column : Nat) (inside : column < fields.length) :
    (inclusion.topLevel (.ofFields fields))[column]? = some true ↔
      ordinals = [] ∨ column ∈ ordinals := by
  have short : column < (TypeTree.ofFields fields).columns.length := by
    rw [TypeTree.length_columns_of_fields]
    exact inside
  have found := List.getElem?_eq_getElem short
  rw [top_level_at inclusion _ column _ found, Option.some.injEq]
  by_cases empty : ordinals = []
  · subst empty
    simp only [of_no_ordinals _ inclusion includes, Inclusion.includes, true_or]
  · simp only [empty, false_or]
    exact schema_columns_included fields numbered ordinals empty inclusion includes column _ found

theorem flags_past_last (tree : TypeTree) (numbered : tree.Numbered) (ordinals : List Nat)
    (asked : ordinals ≠ []) (past : ∀ ordinal ∈ ordinals, tree.columns.length ≤ ordinal)
    (inclusion : Inclusion)
    (includes : ofProjection tree (Projection.ofOrdinals ordinals tree) = .ok inclusion) :
    ∀ flag ∈ inclusion.topLevel tree, flag = false := by
  intro flag member
  obtain ⟨id, column, same⟩ := List.mem_map.mp member
  rw [← same]
  exact no_columns_included numbered ordinals asked past inclusion includes id column

end Inclusion

namespace RecordReader

theorem projected_rows (files : FileSystem) (path : Path) (container : Container)
    (content : Content) (accepted : Container.Accepted files path container content)
    (plain settings : Settings) (start length : Nat) (full projected : RecordReader)
    (fullMade : ofContainer files container plain start length = .ok full)
    (made : ofContainer files container settings start length = .ok projected)
    (includesAll : full.inclusion = .all) (rows : List Row)
    (fullDrains : Drains (next files) full ⟨rows, none⟩) :
    (∀ scan, Drains (next files) projected scan ↔
      scan = ⟨rows.map (Row.keep (projected.inclusion.topLevel container.types)), none⟩) ∧
    ∀ row ∈ rows, row.width = container.types.columns.length := by
  have located := accepted.located
  rw [← accepted.named] at located
  have fullScan := (drains_of_container files container plain start length _ _ located fullMade
    _).mp fullDrains
  have projectedScan := drains_of_container files container settings start length _ _ located made
  simp only [includesAll, Scan.mapFailure, Scan.mk.injEq] at fullScan
  have clean := Option.map_eq_none_iff.mp fullScan.2.symm
  have same : (projected.inclusion.topLevel container.types).length =
      (Inclusion.all.topLevel container.types).length := by
    rw [Inclusion.length_top_level, Inclusion.length_top_level]
  have kept := StripeRows.scan_keep (container.footer.stripesInRange start length) same
    (Inclusion.top_level_of_all container.types) clean
  rw [← fullScan.1] at kept
  refine ⟨?_, ?_⟩
  · intro scan
    rw [projectedScan scan, kept]
    rfl
  · intro row member
    rw [fullScan.1] at member
    rw [StripeRows.scan_width _ _ _ _ row member, Inclusion.length_top_level]

end RecordReader

theorem projected_scan_nulls_other_columns (files : FileSystem) (path : Path) (container : Container)
    (opens : Container.openPath files path = .ok container) (settings : Settings)
    (ordinals : List Nat) (parsed : settings.ordinals = .ok ordinals) (start length : Nat)
    (full : RecordReader)
    (fullOpens : RecordReader.openSplit files { settings with readColumns := none }
      ⟨path, start, length⟩ = .ok full)
    (rows : List Row) (fullDrains : Drains (RecordReader.next files) full ⟨rows, none⟩) :
    ∃ projected projectedRows flags,
      RecordReader.openSplit files settings ⟨path, start, length⟩ = .ok projected ∧
      flags = projected.inclusion.topLevel container.types ∧
      (∀ scan, Drains (RecordReader.next files) projected scan ↔ scan = ⟨projectedRows, none⟩) ∧
      projectedRows.length = rows.length ∧
      (∀ (place : Nat) (row projectedRow : Row), rows[place]? = some row →
        projectedRows[place]? = some projectedRow →
        projectedRow.width = container.types.columns.length ∧
        ∀ column < container.types.columns.length,
          projectedRow.get? column =
            if flags[column]? = some true then row.get? column else some .null) ∧
      (∀ fields, container.types = .ofFields fields →
        ∀ column < fields.length,
          (flags[column]? = some true ↔ ordinals = [] ∨ column ∈ ordinals)) ∧
      (ordinals = [] ↔ ∀ text, settings.readColumns = some text →
        ∀ c ∈ text.toList, c = ',' ∨ Text.isBlank c = true) ∧
      (ordinals ≠ [] → (∀ ordinal ∈ ordinals, container.types.columns.length ≤ ordinal) →
        projectedRows = List.replicate rows.length (.blank container.types.columns.length)) := by
  obtain ⟨content, accepted⟩ := Container.open_path_accepts files path container opens
  have checked := (Footer.valid_iff_checked container.footer).mp accepted.valid
  have numbered := (TypeTree.valid_iff_numbered container.types).mp checked.types
  obtain ⟨projected, made, includes⟩ := RecordReader.of_container_opens files path container content
    accepted settings ordinals parsed start length
  obtain ⟨all, allMade, allIncludes⟩ := RecordReader.of_container_opens files path container content
    accepted { settings with readColumns := none } [] rfl start length
  have allOpens := RecordReader.open_split_of_container files path container opens _ start length all
    allMade
  rw [allOpens, Except.ok.injEq] at fullOpens
  rw [← fullOpens] at fullDrains
  obtain ⟨scans, widths⟩ := RecordReader.projected_rows files path container content accepted _ settings
    start length all projected allMade made
    (Inclusion.of_no_ordinals _ _ allIncludes) rows fullDrains
  have flagCount := Inclusion.length_top_level projected.inclusion container.types
  refine ⟨projected, _, projected.inclusion.topLevel container.types, ?_, rfl, scans, by simp, ?_, ?_,
    settings.ordinals_eq_nil_iff ordinals parsed, ?_⟩
  · exact RecordReader.open_split_of_container files path container opens settings start length
      projected made
  · intro place row projectedRow found projectedFound
    rw [List.getElem?_map, found, Option.map_some, Option.some.injEq] at projectedFound
    have width := widths row (List.mem_of_getElem? found)
    rw [← projectedFound]
    refine ⟨?_, ?_⟩
    · rw [Row.width] at width
      rw [Row.width, Row.keep, List.length_zipWith, width, flagCount, Nat.min_self]
    · intro column inside
      rw [← flagCount] at inside
      have here := List.getElem?_eq_getElem inside
      rw [Row.get_keep _ row column _ here (by omega), here]
      simp only [Option.some.injEq]
  · intro fields types
    rw [types] at numbered includes ⊢
    exact Inclusion.schema_flags fields numbered ordinals projected.inclusion includes
  · intro asked past
    have unset := Inclusion.flags_past_last _ numbered ordinals asked past projected.inclusion includes
    rw [← List.map_const', ← flagCount]
    apply List.map_congr_left
    intro row member
    exact Row.keep_nothing row _ (by rw [flagCount, widths row member]) unset

theorem second_column_is_kept :
    ∃ (files : FileSystem) (container : Container) (settings : Settings) (full : RecordReader),
      Container.openPath files "t" = .ok container ∧ settings.ordinals = .ok [1] ∧
      RecordReader.openSplit files { settings with readColumns := none } ⟨"t", 0, container.length⟩ =
        .ok full ∧
      Drains (RecordReader.next files) full ⟨Example.rows, none⟩ ∧
      ∃ projected projectedRows,
        RecordReader.openSplit files settings ⟨"t", 0, container.length⟩ = .ok projected ∧
        (∀ scan, Drains (RecordReader.next files) projected scan ↔ scan = ⟨projectedRows, none⟩) ∧
        projectedRows.length = 3 ∧
        ∀ (place : Nat) (row projectedRow : Row), Example.rows[place]? = some row →
          projectedRows[place]? = some projectedRow →
          projectedRow.get? 0 = some .null ∧ projectedRow.get? 1 = row.get? 1 := by
  obtain ⟨files, content, last, chunks, left, fields, flat⟩ := Example.rows_left
  have opens := Writer.left_opens left
  have parsed : ({ Settings.standard with readColumns := some "1" } : Settings).ordinals = .ok [1] := by
    rfl
  obtain ⟨full, fullOpens, _, back⟩ := Writer.left_reads left .standard rfl
  have drains := (back (by rw [fields]; decide) _).mpr rfl
  rw [flat] at drains
  have types : (last.container "t" content.length).types = .ofFields Example.fields := by
    rw [← fields]
    rfl
  obtain ⟨projected, projectedRows, flags, projects, _, scans, count, cells, chosen, _, _⟩ :=
    projected_scan_nulls_other_columns files "t" _ opens _ [1] parsed 0 content.length full fullOpens
      Example.rows drains
  refine ⟨files, _, _, full, opens, parsed, fullOpens, drains, projected, projectedRows, projects, scans,
    count, ?_⟩
  intro place row projectedRow found projectedFound
  have wide : (last.container "t" content.length).types.columns.length = 2 := by
    rw [types, TypeTree.length_columns_of_fields]
    rfl
  have here := (cells place row projectedRow found projectedFound).2
  have first := chosen Example.fields types 0 (by decide)
  have second := chosen Example.fields types 1 (by decide)
  simp only [List.mem_singleton, List.cons_ne_nil, false_or, zero_ne_one, iff_false] at first
  simp only [List.mem_singleton, List.cons_ne_nil, false_or, iff_true] at second
  rw [wide] at here
  rw [here 0 (by decide), here 1 (by decide), if_neg first, if_pos second]
  exact ⟨rfl, rfl⟩

end Columnar
