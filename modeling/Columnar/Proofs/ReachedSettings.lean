import Columnar.Proofs.DecimalText

set_option autoImplicit false

namespace Columnar

namespace Ordinals

theorem pieces_text (ordinals : List Nat) : pieces (text ordinals) = ordinals.map Text.decimal := by
  have uncut : ∀ piece ∈ ordinals.map Text.decimal, ',' ∉ piece := by
    intro piece member comma
    obtain ⟨ordinal, _, rfl⟩ := List.mem_map.mp member
    exact absurd ((Text.decimal_digits ordinal).2.1 ',' comma) (by decide)
  rw [pieces, text, String.toList_ofList, Text.pieces_eq_split, Text.join_eq_intercalate]
  cases ordinals with
  | nil => rfl
  | cons first rest =>
    have trimmed : ((first :: rest).map Text.decimal).map Text.trim = (first :: rest).map Text.decimal := by
      rw [List.map_map]
      exact List.map_congr_left fun ordinal _ => Text.trim_decimal ordinal
    rw [List.splitOn_intercalate _ uncut (by simp), trimmed, List.filter_eq_self]
    intro piece member
    obtain ⟨ordinal, _, rfl⟩ := List.mem_map.mp member
    simpa using (Text.decimal_digits ordinal).1

theorem parse_text (ordinals : List Nat) (small : ∀ ordinal ∈ ordinals, ordinal < UInt64.size) :
    parse (text ordinals) = .ok ordinals := by
  rw [parse, pieces_text, numbers_iff, List.forall₂_map_left_iff, List.forall₂_same]
  exact fun ordinal member => Text.size_decimal ordinal (small ordinal member)

end Ordinals

-- Only which ordinals are listed counts, not in which order nor how often.
theorem Projection.of_ordinals_alike (first second : List Nat) (tree : TypeTree)
    (alike : ∀ ordinal, ordinal ∈ first ↔ ordinal ∈ second) :
    ofOrdinals first tree = ofOrdinals second tree :=
  means_unique {ordinal | ordinal ∈ second} tree.columns _ _
    (of_ordinals_means first tree _ alike) (of_ordinals_means second tree _ fun _ => Iff.rfl)

inductive SettingsCall where
  | set (key value : String)
  | apply (pair : String)
  | setReadColumns (ordinals : List UInt64)

namespace Settings

def changed (settings : Settings) : SettingsCall → Except Failure Settings
  | .set key value => settings.set key value
  | .apply pair => settings.apply pair
  | .setReadColumns ordinals => .ok (settings.setReadColumns (ordinals.map UInt64.toNat))

-- A step on settings. One that fails leaves them as far as it had come.
abbrev Step := EStateM Failure Settings Unit

def enter (key value : String) : Step :=
  if key = Ordinals.settingKey then do
    let _ ← ofExcept (Ordinals.parse value)
    modify fun settings => { settings with readColumns := some value }
  else if key = minSplitSizeKey then do
    let size ← ofExcept (sizeOf? key value)
    modify fun settings => { settings with minSplitSize := size }
  else if key = blockSizeKey then do
    let size ← ofExcept (sizeOf? key value)
    modify fun settings => { settings with blockSize := max size 1 }
  else throw (.setting key .unknownKey)

def perform : SettingsCall → Step
  | .set key value => enter key value
  | .apply pair =>
    match Text.cut? '=' pair.toList with
    | none => throw (.setting pair .noEquals)
    | some (key, value) => enter (String.ofList (Text.trim key)) (String.ofList (Text.trim value))
  | .setReadColumns ordinals =>
    modify fun settings =>
      { settings with readColumns := some (Ordinals.text (ordinals.map UInt64.toNat)) }

def after (settings : Settings) : List SettingsCall → Settings
  | [] => settings
  | call :: calls =>
    match perform call settings with
    | .ok () next => after next calls
    | .error _ left => after left calls

def replay (settings : Settings) : List String → Settings → Except Failure Settings
  | [], made => .ok made
  | key :: keys, made =>
    match settings.get? key with
    | none => settings.replay keys made
    | some value =>
      match made.set key value with
      | .error failure => .error failure
      | .ok more => settings.replay keys more

theorem enter_eq (settings : Settings) (key value : String) :
    enter key value settings =
      match settings.set key value with
      | .ok next => .ok () next
      | .error failure => .error failure settings := by
  rw [enter, set]
  split
  · cases Ordinals.parse value <;> rfl
  · split
    · cases sizeOf? key value <;> rfl
    · split
      · cases sizeOf? key value <;> rfl
      · rfl

theorem perform_eq (settings : Settings) (call : SettingsCall) :
    perform call settings =
      match settings.changed call with
      | .ok next => .ok () next
      | .error failure => .error failure settings := by
  cases call with
  | set key value => exact enter_eq settings key value
  | apply pair =>
    rw [perform, changed, apply]
    cases Text.cut? '=' pair.toList with
    | none => rfl
    | some parts => exact enter_eq settings _ _
  | setReadColumns ordinals => rfl

structure Usable (settings : Settings) : Prop where
  columns : ∃ ordinals, settings.ordinals = .ok ordinals
  floor : settings.minSplitSize < UInt64.size
  block : 1 ≤ settings.blockSize ∧ settings.blockSize < UInt64.size

theorem size_of_small (key value : String) (size : Nat) (read : sizeOf? key value = .ok size) :
    size < UInt64.size := by
  rw [sizeOf?] at read
  cases spelled : Text.size? value.toList with
  | error cause => simp only [spelled, reduceCtorEq] at read
  | ok number =>
    simp only [spelled, Except.ok.injEq] at read
    obtain ⟨_, _, _, _, _, _, _, small⟩ := (Text.size_iff _ number).mp spelled
    rw [← read]
    exact small

theorem size_of_text (key : String) (size : Nat) (small : size < UInt64.size) :
    sizeOf? key (Text.natText size) = .ok size := by
  rw [sizeOf?, Text.natText, String.toList_ofList, Text.size_decimal size small]

theorem ok_of_map {α β : Type} {result : Except Failure α} {form : α → β} {made : β}
    (done : result.map form = .ok made) : ∃ found, result = .ok found ∧ form found = made := by
  cases result with
  | error failure => cases done
  | ok found => exact ⟨found, rfl, Except.ok.inj done⟩

theorem set_cases (settings next : Settings) (key value : String)
    (done : settings.set key value = .ok next) :
    (key = Ordinals.settingKey ∧ (∃ ordinals, Ordinals.parse value = .ok ordinals) ∧
      next = { settings with readColumns := some value }) ∨
    (key = minSplitSizeKey ∧ ∃ size, sizeOf? key value = .ok size ∧
      next = { settings with minSplitSize := size }) ∨
    (key = blockSizeKey ∧ ∃ size, sizeOf? key value = .ok size ∧
      next = { settings with blockSize := max size 1 }) := by
  rw [set] at done
  by_cases columns : key = Ordinals.settingKey
  · rw [if_pos columns] at done
    obtain ⟨ordinals, parsed, same⟩ := ok_of_map done
    exact .inl ⟨columns, ⟨ordinals, parsed⟩, same.symm⟩
  rw [if_neg columns] at done
  by_cases floor : key = minSplitSizeKey
  · rw [if_pos floor] at done
    obtain ⟨size, read, same⟩ := ok_of_map done
    exact .inr (.inl ⟨floor, size, read, same.symm⟩)
  rw [if_neg floor] at done
  by_cases block : key = blockSizeKey
  · rw [if_pos block] at done
    obtain ⟨size, read, same⟩ := ok_of_map done
    exact .inr (.inr ⟨block, size, read, same.symm⟩)
  · rw [if_neg block] at done
    cases done

theorem set_keeps (settings next : Settings) (usable : settings.Usable) (key value : String)
    (done : settings.set key value = .ok next) : next.Usable := by
  obtain ⟨_, parsed, rfl⟩ | ⟨_, size, read, rfl⟩ | ⟨_, size, read, rfl⟩ :=
    set_cases settings next key value done
  · exact ⟨parsed, usable.floor, usable.block⟩
  · exact ⟨usable.columns, size_of_small key value size read, usable.block⟩
  · have small := size_of_small key value size read
    have limit : 1 < UInt64.size := by decide
    exact ⟨usable.columns, usable.floor, Nat.le_max_right _ _, Nat.max_lt.mpr ⟨small, limit⟩⟩

theorem ordinals_of_columns (settings : Settings) (ordinals : List UInt64) :
    (settings.setReadColumns (ordinals.map UInt64.toNat)).ordinals =
      .ok (ordinals.map UInt64.toNat) := by
  rw [Settings.ordinals, setReadColumns]
  refine Ordinals.parse_text _ fun ordinal member => ?_
  obtain ⟨word, _, rfl⟩ := List.mem_map.mp member
  exact word.toNat_lt

theorem changed_keeps (settings next : Settings) (usable : settings.Usable) (call : SettingsCall)
    (done : settings.changed call = .ok next) : next.Usable := by
  cases call with
  | set key value => exact set_keeps settings next usable key value done
  | apply pair =>
    rw [changed, apply] at done
    cases cut : Text.cut? '=' pair.toList with
    | none => simp only [cut, reduceCtorEq] at done
    | some parts =>
      simp only [cut] at done
      exact set_keeps settings next usable _ _ done
  | setReadColumns ordinals =>
    rw [changed, Except.ok.injEq] at done
    rw [← done]
    exact ⟨⟨_, ordinals_of_columns settings ordinals⟩, usable.floor, usable.block⟩

theorem after_keeps (settings : Settings) (usable : settings.Usable) (calls : List SettingsCall) :
    (settings.after calls).Usable := by
  induction calls generalizing settings with
  | nil => exact usable
  | cons call calls ih =>
    rw [after, perform_eq]
    cases done : settings.changed call with
    | error failure => exact ih settings usable
    | ok next => exact ih next (changed_keeps settings next usable call done)

theorem standard_usable : standard.Usable :=
  ⟨⟨[], rfl⟩, by decide, by decide⟩

theorem eq_of_get (first second : Settings) (same : ∀ key, first.get? key = second.get? key) :
    first = second := by
  have columns := same Ordinals.settingKey
  have floor := same minSplitSizeKey
  have block := same blockSizeKey
  have apart : minSplitSizeKey ≠ Ordinals.settingKey ∧ blockSizeKey ≠ Ordinals.settingKey ∧
      blockSizeKey ≠ minSplitSizeKey := by decide
  simp only [get?, if_true, if_neg apart.1, if_neg apart.2.1, if_neg apart.2.2, Option.some.injEq,
    Text.natText, String.ofList_inj] at columns floor block
  obtain ⟨firstColumns, firstFloor, firstBlock⟩ := first
  obtain ⟨secondColumns, secondFloor, secondBlock⟩ := second
  simp only at columns floor block
  rw [columns, Text.decimal_injective _ _ floor, Text.decimal_injective _ _ block]

theorem set_told (settings made : Settings) (usable : settings.Usable) (key value : String)
    (told : settings.get? key = some value) :
    ∃ more, made.set key value = .ok more ∧ more.get? key = some value ∧
      ∀ other, other ≠ key → more.get? other = made.get? other := by
  have apart : minSplitSizeKey ≠ Ordinals.settingKey ∧ blockSizeKey ≠ Ordinals.settingKey ∧
      blockSizeKey ≠ minSplitSizeKey := by decide
  rw [get?] at told
  by_cases columns : key = Ordinals.settingKey
  · subst columns
    rw [if_pos rfl] at told
    obtain ⟨ordinals, parsed⟩ := usable.columns
    simp only [Settings.ordinals, told] at parsed
    refine ⟨{ made with readColumns := some value }, ?_, ?_, fun other unlike => ?_⟩
    · rw [set, if_pos rfl, parsed]
      rfl
    · rw [get?, if_pos rfl]
    · simp only [get?, if_neg unlike]
  rw [if_neg columns] at told
  by_cases floor : key = minSplitSizeKey
  · subst floor
    rw [if_pos rfl, Option.some.injEq] at told
    subst told
    refine ⟨{ made with minSplitSize := settings.minSplitSize }, ?_, ?_, fun other unlike => ?_⟩
    · rw [set, if_neg columns, if_pos rfl, size_of_text _ _ usable.floor]
      rfl
    · rw [get?, if_neg columns, if_pos rfl]
    · simp only [get?, if_neg unlike]
  rw [if_neg floor] at told
  by_cases block : key = blockSizeKey
  · subst block
    rw [if_pos rfl, Option.some.injEq] at told
    subst told
    refine ⟨{ made with blockSize := settings.blockSize }, ?_, ?_, fun other unlike => ?_⟩
    · rw [set, if_neg columns, if_neg floor, if_pos rfl, size_of_text _ _ usable.block.2, Except.map,
        Nat.max_eq_left usable.block.1]
    · rw [get?, if_neg columns, if_neg floor, if_pos rfl]
    · simp only [get?, if_neg unlike]
  · rw [if_neg block] at told
    cases told

-- The induction is on the keys that are still to be set; the others tell what they told before.
theorem replay_told (settings made : Settings) (usable : settings.Usable) (keys : List String) :
    ∃ done, settings.replay keys made = .ok done ∧
      (∀ key ∈ keys, ∀ value, settings.get? key = some value → done.get? key = some value) ∧
      ∀ key, key ∉ keys ∨ settings.get? key = none → done.get? key = made.get? key := by
  induction keys generalizing made with
  | nil => exact ⟨made, rfl, by simp, fun _ _ => rfl⟩
  | cons first rest ih =>
    cases told : settings.get? first with
    | none =>
      obtain ⟨done, replayed, set, kept⟩ := ih made
      refine ⟨done, by rw [replay, told]; exact replayed, ?_, ?_⟩
      · intro key member value has
        cases member with
        | head => rw [told] at has; cases has
        | tail _ later => exact set key later value has
      · intro key apart
        refine kept key (apart.imp_left fun outside => ?_)
        exact fun inside => outside (List.mem_cons_of_mem first inside)
    | some value =>
      obtain ⟨more, placed, here, others⟩ := set_told settings made usable first value told
      obtain ⟨done, replayed, set, kept⟩ := ih more
      refine ⟨done, by rw [replay, told]; simp only [placed, replayed], ?_, ?_⟩
      · intro key member other has
        by_cases later : key ∈ rest
        · exact set key later other has
        · obtain rfl : key = first := by simpa [later] using member
          rw [kept key (.inl later), here, ← has, told]
      · intro key apart
        have unlike : key ≠ first := by
          rintro rfl
          rcases apart with outside | untold
          · exact outside List.mem_cons_self
          · rw [told] at untold
            cases untold
        rw [kept key (apart.imp_left fun outside inside => outside (List.mem_cons_of_mem first inside)),
          others key unlike]

theorem untold_standard (settings : Settings) (key : String) (untold : settings.get? key = none) :
    standard.get? key = none := by
  by_cases columns : key = Ordinals.settingKey
  · rw [columns]
    rfl
  rw [get?, if_neg columns] at untold ⊢
  by_cases floor : key = minSplitSizeKey
  · rw [if_pos floor] at untold
    cases untold
  rw [if_neg floor] at untold ⊢
  by_cases block : key = blockSizeKey
  · rw [if_pos block] at untold
    cases untold
  · rw [if_neg block]

theorem replay_all (settings : Settings) (usable : settings.Usable) (keys : List String)
    (all : ∀ key value, settings.get? key = some value → key ∈ keys) :
    settings.replay keys standard = .ok settings := by
  obtain ⟨done, replayed, set, kept⟩ := replay_told settings standard usable keys
  rw [replayed, eq_of_get done settings fun key => ?_]
  cases told : settings.get? key with
  | some value => exact set key (all key value told) value told
  | none => rw [kept key (.inr told), untold_standard settings key told]

end Settings

-- Whatever was asked of settings, in place and with whatever arguments.
theorem reached_settings_stay_usable (calls : List SettingsCall) :
    let settings := Settings.standard.after calls
    (∀ call,
      (∃ next, settings.changed call = .ok next ∧ Settings.perform call settings = .ok () next) ∨
      ∃ failure, settings.changed call = .error failure ∧
        Settings.perform call settings = .error failure settings) ∧
    1 ≤ settings.blockSize ∧
    (∀ tree : TypeTree, tree.Valid → ∃ projection, settings.projection tree = .ok projection) ∧
    (∀ keys : List String, (∀ key value, settings.get? key = some value → key ∈ keys) →
      settings.replay keys .standard = .ok settings) ∧
    ∀ ordinals : List UInt64, ∃ next,
      Settings.perform (.setReadColumns ordinals) settings = .ok () next ∧
      ∀ (tree : TypeTree) (wanted : List Nat), tree.Valid →
        (∀ ordinal, ordinal ∈ wanted ↔ ∃ word ∈ ordinals, word.toNat = ordinal) →
        next.projection tree = .ok (Projection.ofOrdinals wanted tree) := by
  intro settings
  have usable := Settings.after_keeps .standard Settings.standard_usable calls
  refine ⟨fun call => ?_, usable.block.1, fun tree _ => ?_, Settings.replay_all settings usable, ?_⟩
  · rw [Settings.perform_eq]
    cases settings.changed call with
    | ok next => exact .inl ⟨next, rfl, rfl⟩
    | error failure => exact .inr ⟨failure, rfl, rfl⟩
  · obtain ⟨ordinals, parsed⟩ := usable.columns
    exact ⟨_, by rw [Settings.projection_eq, parsed]; rfl⟩
  · intro ordinals
    refine ⟨_, rfl, fun tree wanted _ asked => ?_⟩
    have read := Settings.ordinals_of_columns settings ordinals
    rw [Settings.setReadColumns] at read
    rw [Settings.projection_eq, read, Except.map,
      Projection.of_ordinals_alike wanted (ordinals.map UInt64.toNat) tree (by simpa using asked)]

namespace Example

-- Pairs and keys that are refused, between others that are not; a block of no bytes becomes one byte.
def settingsCalls : List SettingsCall :=
  [.apply " hive.io.file.readcolumn.ids = 1, +07 ", .set "dwrf.block.size" "0", .apply "no pair",
    .set "mapred.min.split.size" "lots", .apply "hive.io.file.readcolumn.ids=1,x", .set "" "1"]

def reachedSettings : Settings := ⟨some "1, +07", 16384, 1⟩

end Example

theorem refused_calls_leave_settings_usable :
    Settings.standard.after Example.settingsCalls = Example.reachedSettings ∧
      Example.reachedSettings.replay ["dwrf.block.size", "hive.io.file.readcolumn.ids",
        "mapred.min.split.size"] .standard = .ok Example.reachedSettings ∧
      Example.pairTree.Valid ∧
      ∃ next, Settings.perform (.setReadColumns [1, 7, 1]) Example.reachedSettings = .ok () next ∧
        next.projection Example.pairTree = .ok (Projection.ofOrdinals [7, 1] Example.pairTree) := by
  have reached : Settings.standard.after Example.settingsCalls = Example.reachedSettings := by rfl
  have valid : Example.pairTree.Valid := by rfl
  obtain ⟨_, _, _, replays, projects⟩ := reached_settings_stay_usable Example.settingsCalls
  rw [reached] at replays projects
  obtain ⟨next, done, projected⟩ := projects [1, 7, 1]
  refine ⟨reached, replays _ fun key value told => ?_, valid, next, done,
    projected Example.pairTree [7, 1] valid fun ordinal => ?_⟩
  · simp only [Settings.get?] at told
    simp only [List.mem_cons, List.not_mem_nil, or_false]
    by_contra unlisted
    simp_all [Ordinals.settingKey, Settings.minSplitSizeKey, Settings.blockSizeKey]
  · simp [eq_comm, or_comm]

end Columnar
