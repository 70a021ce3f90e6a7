import Columnar.Proofs.ConfiguredOrdinals
import Columnar.Proofs.Marking
import Mathlib.Data.Nat.Digits.Defs
import Mathlib.Data.Set.Basic

set_option autoImplicit false

namespace Columnar

namespace Text

def value (digits : List Char) : Nat := Nat.ofDigits 10 (digits.reverse.map fun c => c.toNat - 48)

def Spells (text : List Char) (number : Nat) : Prop :=
  ∃ sign digits, text = sign ++ digits ∧ (sign = [] ∨ sign = ['+']) ∧ digits ≠ [] ∧
    (∀ c ∈ digits, c.isDigit = true) ∧ number = value digits ∧ number < 2 ^ 64

theorem digit_iff (c : Char) (digit : Nat) :
    digit? c = some digit ↔ c.isDigit = true ∧ digit = c.toNat - 48 := by
  have decimal : ('0' ≤ c && c ≤ '9') = c.isDigit := rfl
  rw [digit?, decimal]
  by_cases isDigit : c.isDigit = true
  · simp [isDigit, eq_comm]
  · simp [isDigit]

theorem value_cons (first : Char) (rest : List Char) :
    value (first :: rest) = (first.toNat - 48) * 10 ^ rest.length + value rest := by
  rw [value, List.reverse_cons, List.map_append, Nat.ofDigits_append, List.map_singleton,
    Nat.ofDigits_singleton, List.length_map, List.length_reverse, value, Nat.mul_comm, Nat.add_comm]

-- The induction is on the digits; what was read before them moves up a place with each.
theorem append_digits_iff (before : Nat) (digits : List Char) (number : Nat)
    (small : before < sizeLimit) :
    appendDigits before digits = .ok number ↔
      (∀ c ∈ digits, c.isDigit = true) ∧ number = before * 10 ^ digits.length + value digits ∧
        number < sizeLimit := by
  induction digits generalizing before with
  | nil =>
    have zero : value [] = 0 := rfl
    simp only [appendDigits, Except.ok.injEq, List.length_nil, Nat.pow_zero, Nat.mul_one, zero,
      Nat.add_zero, List.not_mem_nil, false_imp_iff, implies_true, true_and]
    constructor
    · rintro rfl
      exact ⟨rfl, small⟩
    · exact fun same => same.1.symm
  | cons first rest ih =>
    rw [appendDigits, List.forall_mem_cons, value_cons, List.length_cons, Nat.pow_succ]
    cases read : digit? first with
    | none =>
      have other : ¬ first.isDigit = true := fun isDigit => by
        rw [(digit_iff first _).mpr ⟨isDigit, rfl⟩] at read
        cases read
      simp [other]
    | some digit =>
      obtain ⟨isDigit, rfl⟩ := (digit_iff first digit).mp read
      have moved : before * (10 ^ rest.length * 10) +
            ((first.toNat - 48) * 10 ^ rest.length + value rest) =
          (before * 10 + (first.toNat - 48)) * 10 ^ rest.length + value rest := by ring
      simp only [isDigit, true_and, moved]
      by_cases fits : before * 10 + (first.toNat - 48) < sizeLimit
      · rw [if_pos fits]
        exact ih _ fits
      · have place : 0 < 10 ^ rest.length := Nat.pow_pos (by decide)
        have least := Nat.le_mul_of_pos_right (before * 10 + (first.toNat - 48)) place
        rw [if_neg fits]
        simp only [reduceCtorEq, false_iff, not_and]
        intro _ same
        omega

theorem size_iff (text : List Char) (number : Nat) : size? text = .ok number ↔ Spells text number := by
  have limit : sizeLimit = 2 ^ 64 := rfl
  have whole (digits : List Char) := append_digits_iff 0 digits number (by decide)
  simp only [Nat.zero_mul, Nat.zero_add, limit] at whole
  have plus : ¬ '+'.isDigit = true := by decide
  constructor
  · intro read
    rw [size?.eq_def] at read
    split at read
    · cases read
    · cases read
    · rename_i digits filled
      obtain ⟨all, same, fits⟩ := (whole _).mp read
      exact ⟨['+'], digits, rfl, .inr rfl, filled, all, same, fits⟩
    · rename_i filled _ _
      obtain ⟨all, same, fits⟩ := (whole _).mp read
      exact ⟨[], text, rfl, .inl rfl, filled, all, same, fits⟩
  · rintro ⟨sign, digits, rfl, rfl | rfl, filled, all, same, fits⟩
    · cases digits with
      | nil => exact absurd rfl filled
      | cons first rest =>
        have unsigned : first ≠ '+' := by
          rintro rfl
          exact plus (all '+' List.mem_cons_self)
        rw [List.nil_append, size?]
        · exact (whole _).mpr ⟨all, same, fits⟩
        · simp
        · simp [unsigned]
        · simp [unsigned]
    · rw [List.singleton_append, size?]
      · exact (whole _).mpr ⟨all, same, fits⟩
      · exact filled

end Text

namespace Ordinals

def Denotes (piece : List Char) (ordinal : Nat) : Prop :=
  ∃ inner, Text.Trimmed piece inner ∧ Text.Spells inner ordinal

def Sound (piece : List Char) : Prop := Text.Trimmed piece [] ∨ ∃ ordinal, Denotes piece ordinal

def denoted (text : String) : Set Nat :=
  {ordinal | ∃ piece ∈ text.toList.splitOn ',', Denotes piece ordinal}

theorem denotes_iff (piece : List Char) (ordinal : Nat) :
    Denotes piece ordinal ↔ Text.size? (Text.trim piece) = .ok ordinal := by
  simp only [Denotes, Text.trimmed_iff, Text.size_iff, exists_eq_left']

theorem sound_iff (piece : List Char) :
    Sound piece ↔ Text.trim piece = [] ∨ ∃ ordinal, Text.size? (Text.trim piece) = .ok ordinal := by
  simp only [Sound, Text.trimmed_iff, denotes_iff]

def filled (pieces : List (List Char)) : List (List Char) :=
  (pieces.map Text.trim).filter fun piece => !piece.isEmpty

theorem pieces_eq_filled (text : String) : pieces text = filled (text.toList.splitOn ',') := by
  rw [pieces, Text.pieces_eq_split, filled]

theorem filled_blank (piece : List Char) (rest : List (List Char)) (blank : Text.trim piece = []) :
    filled (piece :: rest) = filled rest := by
  simp [filled, blank]

theorem filled_more (piece : List Char) (rest : List (List Char)) (kept : Text.trim piece ≠ []) :
    filled (piece :: rest) = Text.trim piece :: filled rest := by
  simp [filled, kept]

theorem mem_filled (inner : List Char) (pieces : List (List Char)) :
    inner ∈ filled pieces ↔ inner ≠ [] ∧ ∃ piece ∈ pieces, Text.trim piece = inner := by
  rw [filled, List.mem_filter, List.mem_map, and_comm]
  simp

def Stops (pieces : List (List Char)) (failure : Failure) : Prop :=
  ∃ before bad after inner cause, pieces = before ++ bad :: after ∧
    (∀ piece ∈ before, Sound piece) ∧ ¬ Sound bad ∧ Text.Trimmed bad inner ∧
    Text.size? inner = .error cause ∧
    failure = .setting settingKey (.size (String.ofList inner) cause)

theorem stops_later (piece : List Char) (rest : List (List Char)) (failure : Failure)
    (sound : Sound piece) (stops : Stops rest failure) : Stops (piece :: rest) failure := by
  obtain ⟨before, bad, after, inner, cause, rfl, early, found⟩ := stops
  exact ⟨piece :: before, bad, after, inner, cause, rfl, List.forall_mem_cons.mpr ⟨sound, early⟩,
    found⟩

theorem stops_of_numbers (pieces : List (List Char)) (failure : Failure)
    (stopped : numbers (filled pieces) = .error failure) : Stops pieces failure := by
  induction pieces with
  | nil => cases stopped
  | cons piece rest ih =>
    by_cases blank : Text.trim piece = []
    · rw [filled_blank piece rest blank] at stopped
      exact stops_later piece rest failure ((sound_iff piece).mpr (.inl blank)) (ih stopped)
    · rw [filled_more piece rest blank, numbers] at stopped
      cases read : Text.size? (Text.trim piece) with
      | error cause =>
        simp only [read, Except.error.injEq] at stopped
        have unsound : ¬ Sound piece := by simp [sound_iff, blank, read]
        exact ⟨[], piece, rest, _, cause, rfl, by simp, unsound, Text.trimmed_trim piece, read,
          stopped.symm⟩
      | ok ordinal =>
        refine stops_later piece rest failure ((sound_iff piece).mpr (.inr ⟨ordinal, read⟩)) (ih ?_)
        cases later : numbers (filled rest) with
        | error other =>
          simp only [read, later, Except.map, Except.error.injEq] at stopped
          rw [stopped]
        | ok ordinals => simp only [read, later, Except.map, reduceCtorEq] at stopped

theorem numbers_of_stops (pieces : List (List Char)) (failure : Failure)
    (stops : Stops pieces failure) : numbers (filled pieces) = .error failure := by
  obtain ⟨before, bad, after, inner, cause, rfl, sound, unsound, trimmed, failed, rfl⟩ := stops
  obtain rfl := Text.trim_of_trimmed bad inner trimmed
  induction before with
  | nil =>
    have kept : Text.trim bad ≠ [] := fun blank => unsound ((sound_iff bad).mpr (.inl blank))
    rw [List.nil_append, filled_more bad after kept, numbers, failed]
  | cons piece before ih =>
    obtain ⟨here, others⟩ := List.forall_mem_cons.mp sound
    rw [List.cons_append]
    by_cases blank : Text.trim piece = []
    · rw [filled_blank piece _ blank, ih others]
    · obtain ⟨ordinal, read⟩ := ((sound_iff piece).mp here).resolve_left blank
      rw [filled_more piece _ blank, numbers, read, ih others]
      rfl

theorem mem_numbers (inners : List (List Char)) (ordinals : List Nat)
    (read : List.Forall₂ (fun inner ordinal => Text.size? inner = .ok ordinal) inners ordinals)
    (ordinal : Nat) : ordinal ∈ ordinals ↔ ∃ inner ∈ inners, Text.size? inner = .ok ordinal := by
  induction read with
  | nil => simp
  | cons here _ ih => simp [ih, here, eq_comm]

theorem size_of_numbers (inners : List (List Char)) (ordinals : List Nat)
    (read : List.Forall₂ (fun inner ordinal => Text.size? inner = .ok ordinal) inners ordinals)
    (inner : List Char) (member : inner ∈ inners) : ∃ ordinal, Text.size? inner = .ok ordinal := by
  induction read with
  | nil => cases member
  | cons here _ ih =>
    cases member with
    | head => exact ⟨_, here⟩
    | tail _ later => exact ih later

theorem parse_stops_iff (text : String) (failure : Failure) :
    parse text = .error failure ↔ Stops (text.toList.splitOn ',') failure := by
  rw [parse, pieces_eq_filled]
  exact ⟨stops_of_numbers _ failure, numbers_of_stops _ failure⟩

theorem mem_parse (text : String) (ordinals : List Nat) (parsed : parse text = .ok ordinals)
    (ordinal : Nat) : ordinal ∈ ordinals ↔ ordinal ∈ denoted text := by
  rw [parse, pieces_eq_filled, numbers_iff] at parsed
  rw [mem_numbers _ _ parsed]
  simp only [denoted, Set.mem_ofPred_eq, denotes_iff, mem_filled]
  constructor
  · rintro ⟨inner, ⟨_, piece, member, rfl⟩, read⟩
    exact ⟨piece, member, read⟩
  · rintro ⟨piece, member, read⟩
    refine ⟨_, ⟨fun blank => ?_, piece, member, rfl⟩, read⟩
    rw [blank] at read
    cases read

theorem parse_succeeds_iff (text : String) :
    (∃ ordinals, parse text = .ok ordinals) ↔ ∀ piece ∈ text.toList.splitOn ',', Sound piece := by
  constructor
  · rintro ⟨ordinals, parsed⟩ piece member
    rw [parse, pieces_eq_filled, numbers_iff] at parsed
    rw [sound_iff]
    by_cases blank : Text.trim piece = []
    · exact .inl blank
    · exact .inr (size_of_numbers _ ordinals parsed _ ((mem_filled _ _).mpr ⟨blank, piece, member, rfl⟩))
  · intro sound
    cases parsed : parse text with
    | ok ordinals => exact ⟨ordinals, rfl⟩
    | error failure =>
      obtain ⟨before, bad, after, _, _, split, _, unsound, _⟩ :=
        (parse_stops_iff text failure).mp parsed
      exact absurd (sound bad (by rw [split]; simp)) unsound

end Ordinals

namespace Projection

def Means (wanted : Set Nat) (columns : List UInt32) : Projection → Prop
  | .all => wanted = ∅
  | .columns ids => (∃ ordinal ∈ wanted, ordinal < columns.length) ∧ ids.Pairwise (· < ·) ∧
    ∀ id, id ∈ ids ↔ ∃ ordinal ∈ wanted, columns[ordinal]? = some id
  | .missing => wanted.Nonempty ∧ ∀ ordinal ∈ wanted, columns.length ≤ ordinal

theorem ascending_unique (first second : List UInt32) (firstAscends : first.Pairwise (· < ·))
    (secondAscends : second.Pairwise (· < ·)) (same : ∀ id, id ∈ first ↔ id ∈ second) :
    first = second := by
  have distinct (ids : List UInt32) (ascends : ids.Pairwise (· < ·)) : ids.Nodup :=
    ascends.imp fun less => UInt32.ne_of_lt less
  have reordered : first.Perm second :=
    (List.perm_ext_iff_of_nodup (distinct first firstAscends) (distinct second secondAscends)).mpr same
  exact reordered.eq_of_pairwise (fun _ _ _ _ less more => absurd more (UInt32.lt_asymm less))
    firstAscends secondAscends

theorem means_unique (wanted : Set Nat) (columns : List UInt32) (first second : Projection)
    (firstMeans : first.Means wanted columns) (secondMeans : second.Means wanted columns) :
    first = second := by
  cases first with
  | all =>
    subst firstMeans
    cases second with
    | all => rfl
    | columns ids => simp [Means] at secondMeans
    | missing => simp [Means] at secondMeans
  | columns ids =>
    obtain ⟨⟨ordinal, asked, inside⟩, ascends, members⟩ := firstMeans
    cases second with
    | all =>
      rw [secondMeans] at asked
      exact absurd asked (Set.notMem_empty ordinal)
    | columns others =>
      obtain ⟨_, othersAscend, otherMembers⟩ := secondMeans
      rw [ascending_unique ids others ascends othersAscend fun id => by rw [members, otherMembers]]
    | missing => exact absurd inside (Nat.not_lt.mpr (secondMeans.2 ordinal asked))
  | missing =>
    obtain ⟨⟨ordinal, asked⟩, outside⟩ := firstMeans
    cases second with
    | all =>
      rw [secondMeans] at asked
      exact absurd asked (Set.notMem_empty ordinal)
    | columns ids =>
      obtain ⟨⟨other, otherAsked, inside⟩, _⟩ := secondMeans
      exact absurd inside (Nat.not_lt.mpr (outside other otherAsked))
    | missing => rfl

theorem of_ordinals_means (ordinals : List Nat) (tree : TypeTree) (wanted : Set Nat)
    (asked : ∀ ordinal, ordinal ∈ ordinals ↔ ordinal ∈ wanted) :
    (ofOrdinals ordinals tree).Means wanted tree.columns := by
  have members (id : UInt32) : id ∈ idSet (columnsAt ordinals 0 tree.columns) ↔
      ∃ ordinal ∈ wanted, tree.columns[ordinal]? = some id := by
    simp only [mem_id_set, mem_columns_at, Nat.zero_add, asked, and_comm]
  rw [ofOrdinals]
  cases ordinals with
  | nil =>
    refine Set.eq_empty_of_forall_notMem fun ordinal member => ?_
    exact List.not_mem_nil ((asked ordinal).mpr member)
  | cons first rest =>
    rw [if_neg (by simp)]
    cases ids : idSet (columnsAt (first :: rest) 0 tree.columns) with
    | nil =>
      refine ⟨⟨first, (asked first).mp List.mem_cons_self⟩, fun ordinal member => ?_⟩
      by_contra inside
      have column := List.getElem?_eq_getElem (Nat.not_le.mp inside)
      have listed := (members _).mpr ⟨ordinal, member, column⟩
      rw [ids] at listed
      cases listed
    | cons id others =>
      have ascends := id_set_ascending (columnsAt (first :: rest) 0 tree.columns)
      rw [ids] at ascends members
      obtain ⟨ordinal, member, column⟩ := (members id).mp List.mem_cons_self
      exact ⟨⟨ordinal, member, (List.getElem?_eq_some_iff.mp column).1⟩, ascends, members⟩

end Projection

theorem ordinal_lists_mean_sets (tree : TypeTree) (valid : tree.Valid) :
    ∃ root rest, tree.nodes = root :: rest ∧
      (∀ text : String, (∃ projection, Projection.ofSetting (some text) tree = .ok projection) ↔
        ∀ piece ∈ text.toList.splitOn ',', Ordinals.Sound piece) ∧
      (∀ (text : String) (failure : Failure),
        Projection.ofSetting (some text) tree = .error failure ↔
          Ordinals.Stops (text.toList.splitOn ',') failure) ∧
      (∀ (text : String) (projection : Projection),
        Projection.ofSetting (some text) tree = .ok projection →
          projection.Means (Ordinals.denoted text) root.children) ∧
      ∀ (first second : String) (firstRead secondRead : Projection),
        Projection.ofSetting (some first) tree = .ok firstRead →
        Projection.ofSetting (some second) tree = .ok secondRead →
        Ordinals.denoted first = Ordinals.denoted second → firstRead = secondRead := by
  obtain ⟨root, rest, nodes, _⟩ := ((TypeTree.valid_iff_numbered tree).mp valid).rooted
  have meaning (text : String) (projection : Projection)
      (read : Projection.ofSetting (some text) tree = .ok projection) :
      projection.Means (Ordinals.denoted text) root.children := by
    rw [Projection.of_setting_text] at read
    cases parsed : Ordinals.parse text with
    | error failure => simp only [parsed, Except.map, reduceCtorEq] at read
    | ok ordinals =>
      simp only [parsed, Except.map, Except.ok.injEq] at read
      rw [← read, ← TypeTree.columns_of_root root rest nodes]
      exact Projection.of_ordinals_means ordinals tree _ (Ordinals.mem_parse text ordinals parsed)
  refine ⟨root, rest, nodes, fun text => ?_, fun text failure => ?_, meaning, ?_⟩
  · rw [← Ordinals.parse_succeeds_iff, Projection.of_setting_text]
    cases Ordinals.parse text <;> simp [Except.map]
  · rw [← Ordinals.parse_stops_iff, Projection.of_setting_text]
    cases Ordinals.parse text <;> simp [Except.map]
  · intro first second firstRead secondRead firstParsed secondParsed same
    have firstMeans := meaning first firstRead firstParsed
    rw [same] at firstMeans
    exact Projection.means_unique _ root.children firstRead secondRead firstMeans
      (meaning second secondRead secondParsed)

namespace Example

def pairTree : TypeTree := .ofFields [⟨"id", .int⟩, ⟨"place", .struct [⟨"x", .float⟩, ⟨"y", .float⟩]⟩]

end Example

theorem padded_list_means_a_column :
    Example.pairTree.Valid ∧
      Projection.ofSetting (some " +01,,7 ,1") Example.pairTree = .ok (.columns [2]) ∧
      (Projection.columns [2]).Means (Ordinals.denoted " +01,,7 ,1") [1, 2] := by
  have valid : Example.pairTree.Valid := by rfl
  have read : Projection.ofSetting (some " +01,,7 ,1") Example.pairTree = .ok (.columns [2]) := by rfl
  obtain ⟨root, rest, nodes, _, _, means, _⟩ := ordinal_lists_mean_sets Example.pairTree valid
  have columns : root.children = [1, 2] := by
    rw [← TypeTree.columns_of_root root rest nodes]
    decide
  have found := means _ _ read
  rw [columns] at found
  exact ⟨valid, read, found⟩

end Columnar
