import Columnar.Settings
import Mathlib.Data.List.Forall2
import Mathlib.Data.List.TakeWhile

set_option autoImplicit false

namespace Columnar

namespace Text

theorem flatten_pieces {α : Type} [DecidableEq α] (separator : α) (text : List α) :
    (pieces separator text).flatten = text.filter fun c => c ≠ separator := by
  induction text with
  | nil => rfl
  | cons first rest ih =>
    rw [pieces]
    by_cases cut : first = separator
    · rw [if_pos cut, List.flatten_cons, List.nil_append, ih, List.filter_cons_of_neg (by simpa using cut)]
    · rw [if_neg cut, List.filter_cons_of_pos (by simpa using cut), ← ih]
      cases pieces separator rest with
      | nil => rfl
      | cons head tail => rfl

theorem pieces_eq_split {α : Type} [DecidableEq α] (separator : α) (text : List α) :
    pieces separator text = text.splitOn separator := by
  induction text with
  | nil => rfl
  | cons first rest ih =>
    rw [pieces, ih, List.splitOn, List.splitOn, List.splitOnP_cons_eq_if_modifyHead]
    by_cases cut : first = separator
    · rw [if_pos cut, if_pos (by simpa using cut)]
    · rw [if_neg cut, if_neg (by simpa using cut)]
      cases found : rest.splitOnP (fun c => c == separator) with
      | nil => exact absurd found (List.splitOnP_ne_nil _ _)
      | cons piece more => rfl

-- Whether a text is another one with blanks around it, which neither starts nor ends with a blank.
def Trimmed (text inner : List Char) : Prop :=
  ∃ before after, text = before ++ (inner ++ after) ∧
    (∀ c ∈ before, isBlank c = true) ∧ (∀ c ∈ after, isBlank c = true) ∧
    (∀ c ∈ inner.head?, isBlank c = false) ∧ ∀ c ∈ inner.getLast?, isBlank c = false

theorem trim_start_blanks (blanks rest : List Char) (blank : ∀ c ∈ blanks, isBlank c = true) :
    trimStart (blanks ++ rest) = trimStart rest := by
  rw [trimStart, List.dropWhile_append_of_pos blank, trimStart]

theorem trim_start_kept (text : List Char) (starts : ∀ c ∈ text.head?, isBlank c = false) :
    trimStart text = text := by
  cases text with
  | nil => rfl
  | cons first rest =>
    rw [trimStart, List.dropWhile_cons_of_neg (by simp [starts first rfl])]

theorem trim_start_head (text : List Char) (c : Char) (first : c ∈ (trimStart text).head?) :
    isBlank c = false := by
  have unlike := List.head?_dropWhile_not isBlank text
  rw [trimStart] at first
  rw [first] at unlike
  exact unlike

theorem trim_start_split (text : List Char) :
    ∃ blanks, text = blanks ++ trimStart text ∧ ∀ c ∈ blanks, isBlank c = true :=
  ⟨text.takeWhile isBlank, (List.takeWhile_append_dropWhile ..).symm,
    fun _ member => List.mem_takeWhile_imp member⟩

theorem trimmed_trim (text : List Char) : Trimmed text (trim text) := by
  obtain ⟨before, front, early⟩ := trim_start_split text
  obtain ⟨after, back, late⟩ := trim_start_split (trimStart text).reverse
  have split : trimStart text = trim text ++ after.reverse := by
    rw [trim, ← List.reverse_append, ← back, List.reverse_reverse]
  refine ⟨before, after.reverse, ?_, early, fun c member => late c (List.mem_reverse.mp member), ?_, ?_⟩
  · rw [← split]
    exact front
  · intro c first
    refine trim_start_head text c ?_
    rw [split, List.head?_append, first]
    rfl
  · intro c last
    rw [trim, List.getLast?_reverse] at last
    exact trim_start_head _ c last

theorem trim_of_trimmed (text inner : List Char) (trimmed : Trimmed text inner) : trim text = inner := by
  obtain ⟨before, after, rfl, early, late, starts, ends⟩ := trimmed
  have behind : ∀ c ∈ after.reverse, isBlank c = true := fun c member =>
    late c (List.mem_reverse.mp member)
  rw [trim, trim_start_blanks before _ early]
  cases inner with
  | nil =>
    have cut := trim_start_blanks after [] late
    rw [List.append_nil] at cut
    rw [List.nil_append, cut]
    rfl
  | cons first rest =>
    rw [trim_start_kept (first :: rest ++ after) starts, List.reverse_append,
      trim_start_blanks _ _ behind, trim_start_kept, List.reverse_reverse]
    intro c last
    rw [List.head?_reverse] at last
    exact ends c last

theorem trimmed_iff (text inner : List Char) : Trimmed text inner ↔ trim text = inner := by
  constructor
  · exact trim_of_trimmed text inner
  · rintro rfl
    exact trimmed_trim text

theorem trim_eq_nil_iff (text : List Char) : trim text = [] ↔ ∀ c ∈ text, isBlank c = true := by
  rw [← trimmed_iff]
  constructor
  · rintro ⟨before, after, rfl, early, late, _⟩ c member
    rw [List.nil_append, List.mem_append] at member
    exact member.elim (early c) (late c)
  · intro blank
    exact ⟨text, [], by simp, blank, by simp, by simp, by simp⟩

end Text

namespace Ordinals

theorem pieces_eq_nil_iff (text : String) :
    pieces text = [] ↔ ∀ c ∈ text.toList, c = ',' ∨ Text.isBlank c = true := by
  have inside (c : Char) : c ∈ (Text.pieces ',' text.toList).flatten ↔ c ∈ text.toList ∧ c ≠ ',' := by
    rw [Text.flatten_pieces, List.mem_filter, decide_eq_true_iff]
  have blank : pieces text = [] ↔
      ∀ piece ∈ Text.pieces ',' text.toList, ∀ c ∈ piece, Text.isBlank c = true := by
    rw [pieces, List.filter_eq_nil_iff]
    simp only [List.forall_mem_map, Bool.not_eq_true', Bool.not_eq_false, List.isEmpty_iff,
      Text.trim_eq_nil_iff]
  rw [blank]
  constructor
  · intro all c member
    by_cases cut : c = ','
    · exact .inl cut
    · obtain ⟨piece, listed, here⟩ := List.mem_flatten.mp ((inside c).mpr ⟨member, cut⟩)
      exact .inr (all piece listed c here)
  · intro only piece listed c here
    have found := (inside c).mp (List.mem_flatten.mpr ⟨piece, listed, here⟩)
    exact (only c found.1).resolve_left found.2

theorem numbers_iff (pieces : List (List Char)) (ordinals : List Nat) :
    numbers pieces = .ok ordinals ↔
      List.Forall₂ (fun piece ordinal => Text.size? piece = .ok ordinal) pieces ordinals := by
  induction pieces generalizing ordinals with
  | nil => simp [numbers, eq_comm]
  | cons piece rest ih =>
    rw [numbers, List.forall₂_cons_left_iff]
    cases size : Text.size? piece with
    | error cause => simp
    | ok number =>
      cases others : numbers rest with
      | error failure =>
        simp only [others, reduceCtorEq, false_iff] at ih
        simp [ih, Except.map]
      | ok found =>
        simp only [others, Except.ok.injEq] at ih
        simp [← ih, Except.map, @eq_comm _ ordinals]

theorem parse_separators (text : String)
    (only : ∀ c ∈ text.toList, c = ',' ∨ Text.isBlank c = true) : parse text = .ok [] := by
  rw [parse, (pieces_eq_nil_iff text).mpr only]
  rfl

end Ordinals

-- A blank list has no pieces, so it asks for all columns like every list without ordinals.
theorem Projection.of_setting_text (text : String) (tree : TypeTree) :
    ofSetting (some text) tree = (Ordinals.parse text).map fun ordinals => ofOrdinals ordinals tree := by
  rw [ofSetting]
  by_cases blank : (Text.trim text.toList).isEmpty = true
  · have parsed := Ordinals.parse_separators text fun c member =>
      .inr ((Text.trim_eq_nil_iff text.toList).mp (List.isEmpty_iff.mp blank) c member)
    rw [if_pos blank, parsed]
    rfl
  · rw [if_neg blank]

namespace Settings

def ordinals (settings : Settings) : Except Failure (List Nat) :=
  match settings.readColumns with
  | none => .ok []
  | some text => Ordinals.parse text

theorem ordinals_eq_nil_iff (settings : Settings) (ordinals : List Nat)
    (parsed : settings.ordinals = .ok ordinals) :
    ordinals = [] ↔ ∀ text, settings.readColumns = some text →
      ∀ c ∈ text.toList, c = ',' ∨ Text.isBlank c = true := by
  rw [Settings.ordinals] at parsed
  cases asked : settings.readColumns with
  | none =>
    simp only [asked, Except.ok.injEq] at parsed
    simp [← parsed]
  | some text =>
    simp only [asked] at parsed
    have length := ((Ordinals.numbers_iff _ ordinals).mp parsed).length_eq
    have empty : ordinals = [] ↔ Ordinals.pieces text = [] := by
      rw [← List.length_eq_zero_iff, ← length, List.length_eq_zero_iff]
    rw [empty, Ordinals.pieces_eq_nil_iff]
    constructor
    · intro only other same
      cases same
      exact only
    · intro only
      exact only text rfl

theorem projection_eq (settings : Settings) (tree : TypeTree) :
    settings.projection tree =
      settings.ordinals.map fun ordinals => Projection.ofOrdinals ordinals tree := by
  simp only [projection, ordinals]
  cases settings.readColumns with
  | none => rfl
  | some text => exact Projection.of_setting_text text tree

theorem projection_fails_alike (settings : Settings) (tree : TypeTree) (failure : Failure) :
    settings.projection tree = .error failure ↔ settings.ordinals = .error failure := by
  rw [projection_eq]
  cases settings.ordinals with
  | error other => simp [Except.map]
  | ok ordinals => simp [Except.map]

end Settings

end Columnar
