import Columnar.Proofs.PrintableText
import Columnar.Rendering

/-!
Legible texts: texts that tell things apart, and where they end, whatever stands behind them. Words
without marks are legible, and so are quoted texts, pairs and series of legible texts.
-/

set_option autoImplicit false

namespace Columnar

namespace Text

def isMark (c : Char) : Bool := [',', ':', ']', '\x7d', '\t'].contains c

def Ends (rest : List Char) : Prop := ∀ c ∈ rest.head?, isMark c = true

theorem ends_nil : Ends [] := by
  intro c first
  cases first

theorem ends_mark (c : Char) (rest : List Char) (mark : isMark c = true) : Ends (c :: rest) := by
  intro other first
  rw [List.head?_cons, Option.mem_some] at first
  rw [← first]
  exact mark

-- Whether the texts of some things are filled, and equal only for equal things where marks end them.
structure Legible {α : Type} (text : α → List Char) (among : α → Prop) : Prop where
  starts : ∀ a, among a → ∃ c rest, text a = c :: rest ∧ isMark c = false
  read : ∀ a b, among a → among b → ∀ rest other, Ends rest → Ends other →
    text a ++ rest = text b ++ other → a = b ∧ rest = other

theorem words_split (a b rest other : List Char) (plain : ∀ c ∈ a, isMark c = false)
    (otherPlain : ∀ c ∈ b, isMark c = false) (ends : Ends rest) (otherEnds : Ends other)
    (same : a ++ rest = b ++ other) : a = b ∧ rest = other := by
  induction a generalizing b with
  | nil =>
    cases b with
    | nil => exact ⟨rfl, same⟩
    | cons d b =>
      have mark := ends d (by rw [← List.nil_append rest, same]; rfl)
      rw [otherPlain d (.head _)] at mark
      cases mark
  | cons c a ih =>
    cases b with
    | nil =>
      have mark := otherEnds c (by rw [← List.nil_append other, ← same]; rfl)
      rw [plain c (.head _)] at mark
      cases mark
    | cons d b =>
      rw [List.cons_append, List.cons_append, List.cons.injEq] at same
      obtain ⟨here, behind⟩ := ih b (fun e member => plain e (.tail _ member))
        (fun e member => otherPlain e (.tail _ member)) same.2
      exact ⟨by rw [same.1, here], behind⟩

section

variable {α β : Type} {text : α → List Char} {among : α → Prop}

theorem legible_words (filled : ∀ a, among a → text a ≠ [])
    (plain : ∀ a, among a → ∀ c ∈ text a, isMark c = false)
    (injective : ∀ a b, among a → among b → text a = text b → a = b) : Legible text among := by
  refine ⟨fun a inside => ?_, fun a b inside otherInside rest other ends otherEnds same => ?_⟩
  · cases word : text a with
    | nil => exact absurd word (filled a inside)
    | cons c rest => exact ⟨c, rest, rfl, plain a inside c (by rw [word]; exact .head _)⟩
  · obtain ⟨words, behind⟩ := words_split _ _ rest other (plain a inside) (plain b otherInside) ends
      otherEnds same
    exact ⟨injective a b inside otherInside words, behind⟩

theorem Legible.comp (legible : Legible text among) (form : β → α)
    (injective : ∀ a b, form a = form b → a = b) :
    Legible (fun b => text (form b)) (fun b => among (form b)) := by
  refine ⟨fun b inside => legible.starts _ inside, ?_⟩
  intro a b inside otherInside rest other ends otherEnds same
  obtain ⟨forms, behind⟩ := legible.read _ _ inside otherInside rest other ends otherEnds same
  exact ⟨injective a b forms, behind⟩

theorem Legible.insert (legible : Legible text among) (one : α) (first : Char) (word : List Char)
    (shown : text one = first :: word) (plain : isMark first = false)
    (apart : ∀ a, among a → (text a).head? ≠ some first) :
    Legible text (fun a => a = one ∨ among a) := by
  have never (a : α) (inside : among a) (rest other : List Char) :
      text a ++ rest ≠ text one ++ other := by
    intro same
    obtain ⟨c, more, start, _⟩ := legible.starts a inside
    have heads := congrArg List.head? same
    rw [start, shown, List.cons_append, List.cons_append, List.head?_cons, List.head?_cons] at heads
    exact apart a inside (by rw [start, List.head?_cons, heads])
  refine ⟨?_, ?_⟩
  · rintro a (rfl | inside)
    · exact ⟨first, word, shown, plain⟩
    · exact legible.starts a inside
  · rintro a b (rfl | inside) (rfl | otherInside) rest other ends otherEnds same
    · exact ⟨rfl, List.append_cancel_left same⟩
    · exact absurd same.symm (never b otherInside other rest)
    · exact absurd same (never a inside rest other)
    · exact legible.read a b inside otherInside rest other ends otherEnds same

theorem Legible.image (legible : Legible text among) (wrap : α → β) (shown : β → List Char)
    (same : ∀ a, among a → shown (wrap a) = text a) :
    Legible shown (fun b => ∃ a, among a ∧ b = wrap a) := by
  refine ⟨?_, ?_⟩
  · rintro b ⟨a, inside, rfl⟩
    rw [same a inside]
    exact legible.starts a inside
  · rintro b c ⟨a, inside, rfl⟩ ⟨other, otherInside, rfl⟩ rest behind ends otherEnds equal
    rw [same a inside, same other otherInside] at equal
    obtain ⟨here, left⟩ := legible.read a other inside otherInside rest behind ends otherEnds equal
    exact ⟨by rw [here], left⟩

theorem Legible.narrow (legible : Legible text among) {fewer : α → Prop}
    (inside : ∀ a, fewer a → among a) : Legible text fewer :=
  ⟨fun a member => legible.starts a (inside a member),
    fun a b member otherMember => legible.read a b (inside a member) (inside b otherMember)⟩

theorem Legible.pair {other : β → List Char} {others : β → Prop} (legible : Legible text among)
    (second : Legible other others) (mark : Char) (marks : isMark mark = true) :
    Legible (fun pair : α × β => text pair.1 ++ mark :: other pair.2)
      (fun pair => among pair.1 ∧ others pair.2) := by
  refine ⟨?_, ?_⟩
  · rintro ⟨a, b⟩ ⟨inside, _⟩
    obtain ⟨c, rest, start, plain⟩ := legible.starts a inside
    exact ⟨c, _, by rw [start]; rfl, plain⟩
  · rintro ⟨a, b⟩ ⟨c, d⟩ ⟨inside, _⟩ ⟨otherInside, _⟩ rest behind ends otherEnds same
    simp only [List.append_assoc, List.cons_append] at same
    obtain ⟨keys, between⟩ := legible.read a c inside otherInside _ _ (ends_mark _ _ marks)
      (ends_mark _ _ marks) same
    rw [List.cons.injEq] at between
    obtain ⟨values, left⟩ := second.read b d (by assumption) (by assumption) rest behind ends otherEnds
      between.2
    exact ⟨by rw [keys, values], left⟩

theorem join_cons (separator : Char) (first : List Char) (rest : List (List Char)) :
    join [separator] (first :: rest) = first ++ rest.flatMap (separator :: ·) := by
  induction rest generalizing first with
  | nil => simp [join]
  | cons next more ih => simp [join, ih]

theorem Legible.read_rest (legible : Legible text among) (closing : Char)
    (closes : isMark closing = true) (other : closing ≠ ',') (items others : List α)
    (each : ∀ item ∈ items, among item) (otherEach : ∀ item ∈ others, among item)
    (rest behind : List Char)
    (same : (items.map text).flatMap (',' :: ·) ++ closing :: rest =
      (others.map text).flatMap (',' :: ·) ++ closing :: behind) :
    items = others ∧ rest = behind := by
  have ends (items : List α) (rest : List Char) :
      Ends ((items.map text).flatMap (',' :: ·) ++ closing :: rest) := by
    cases items with
    | nil => exact ends_mark closing rest closes
    | cons item items => exact ends_mark ',' _ (by decide)
  induction items generalizing others with
  | nil =>
    cases others with
    | nil => exact ⟨rfl, (List.cons.inj same).2⟩
    | cons item others => exact absurd (List.cons.inj same).1 other
  | cons item items ih =>
    cases others with
    | nil => exact absurd (List.cons.inj same).1.symm other
    | cons next others =>
      simp only [List.map_cons, List.flatMap_cons, List.cons_append, List.append_assoc, List.cons.injEq,
        true_and] at same
      obtain ⟨first, later⟩ := legible.read item next (each item (.head _)) (otherEach next (.head _))
        _ _ (ends items rest) (ends others behind) same
      obtain ⟨those, left⟩ := ih others (fun one member => each one (.tail _ member))
        (fun one member => otherEach one (.tail _ member)) later
      exact ⟨by rw [first, those], left⟩

theorem Legible.enclosed (legible : Legible text among) (opening closing : Char)
    (opens : isMark opening = false) (closes : isMark closing = true) (other : closing ≠ ',') :
    Legible (fun items : List α => Rendering.enclosed opening closing (items.map text))
      (fun items => ∀ item ∈ items, among item) := by
  refine ⟨fun items _ => ⟨opening, _, rfl, opens⟩, ?_⟩
  intro items others each otherEach rest behind _ _ same
  have inner : join [','] (items.map text) ++ closing :: rest =
      join [','] (others.map text) ++ closing :: behind := by
    simpa [Rendering.enclosed] using same
  -- A text does not start with a mark, so a series with a text in it is not taken for the empty one.
  have filled (item : α) (inside : among item) (more left right : List Char) :
      text item ++ more ++ closing :: left ≠ closing :: right := by
    intro equal
    obtain ⟨c, word, start, plain⟩ := legible.starts item inside
    rw [start] at equal
    rw [(List.cons.inj equal).1, closes] at plain
    cases plain
  cases items with
  | nil =>
    cases others with
    | nil => exact ⟨rfl, (List.cons.inj inner).2⟩
    | cons item others =>
      rw [List.map_cons, join_cons] at inner
      exact absurd inner.symm (filled item (otherEach item (.head _)) _ _ _)
  | cons item items =>
    cases others with
    | nil =>
      rw [List.map_cons, join_cons] at inner
      exact absurd inner (filled item (each item (.head _)) _ _ _)
    | cons next others =>
      have all := legible.read_rest closing closes other (item :: items) (next :: others) each otherEach
        rest behind (by
          rw [List.map_cons, List.map_cons, join_cons, join_cons] at inner
          rw [List.map_cons, List.map_cons, List.flatMap_cons, List.flatMap_cons, List.cons_append,
            List.cons_append, List.cons_append, List.cons_append, inner])
      exact all

end

theorem hex_digits_injective (a b : Nat) (same : hexDigits a = hexDigits b) : a = b := by
  have digits : ∀ a b : Fin 16, a.val.digitChar = b.val.digitChar → a = b := by decide
  induction a using Nat.strongRecOn generalizing b with
  | ind a lower =>
    simp only [hexDigits] at lower same
    rw [Nat.toDigits_eq_if (n := a) (by decide), Nat.toDigits_eq_if (n := b) (by decide)] at same
    have long (number : Nat) := Nat.length_toDigits_pos (b := 16) (n := number)
    by_cases single : a < 16
    · by_cases otherSingle : b < 16
      · rw [if_pos single, if_pos otherSingle, List.cons.injEq] at same
        exact congrArg Fin.val (digits ⟨a, single⟩ ⟨b, otherSingle⟩ same.1)
      · rw [if_pos single, if_neg otherSingle] at same
        have lengths := congrArg List.length same
        have more := long (b / 16)
        simp only [List.length_singleton, List.length_append] at lengths
        omega
    · by_cases otherSingle : b < 16
      · rw [if_neg single, if_pos otherSingle] at same
        have lengths := congrArg List.length same
        have more := long (a / 16)
        simp only [List.length_singleton, List.length_append] at lengths
        omega
      · rw [if_neg single, if_neg otherSingle] at same
        obtain ⟨front, last⟩ := List.append_inj' same rfl
        have high := lower (a / 16) (by omega) (b / 16) front
        have low := digits ⟨a % 16, Nat.mod_lt _ (by decide)⟩ ⟨b % 16, Nat.mod_lt _ (by decide)⟩
          (List.cons.inj last).1
        rw [Fin.mk.injEq] at low
        omega

theorem hex_digit_plain (c : Char) (hex : isHexDigit c = true) : isMark c = false := by
  have code := hex_digit_code c hex
  simp only [isMark, List.contains_eq_mem, List.mem_cons, List.not_mem_nil, or_false,
    decide_eq_false_iff_not, not_or]
  refine ⟨?_, ?_, ?_, ?_, ?_⟩ <;> rintro rfl <;> revert code <;> decide

theorem quoted_char_split (c d : Char) (rest other : List Char)
    (same : quotedChar c ++ rest = quotedChar d ++ other) : c = d ∧ rest = other := by
  obtain ⟨shown, _, slash, _⟩ | ⟨letter, shown, _, short, means⟩ | shown := quoted_char_cases c <;>
    obtain ⟨otherShown, _, otherSlash, _⟩ | ⟨otherLetter, otherShown, _, otherShort, otherMeans⟩ |
      otherShown := quoted_char_cases d <;>
    rw [shown, otherShown] at same <;>
    simp only [List.cons_append, List.nil_append, List.cons.injEq, List.append_assoc, true_and] at same
  case inl.inl => exact same
  case inl.inr.inl | inl.inr.inr => exact absurd same.1 slash
  case inr.inl.inl | inr.inr.inl => exact absurd same.1.symm otherSlash
  case inr.inl.inr.inl => exact ⟨by rw [← means, ← otherMeans, same.1], same.2⟩
  case inr.inl.inr.inr => exact absurd same.1 short
  case inr.inr.inr.inl => exact absurd same.1.symm otherShort
  case inr.inr.inr.inr =>
    obtain ⟨digits, behind⟩ := words_split _ _ ('\x7d' :: rest) ('\x7d' :: other)
      (fun e member => hex_digit_plain e (hex_digits_are _ e member))
      (fun e member => hex_digit_plain e (hex_digits_are _ e member))
      (ends_mark _ _ (by decide)) (ends_mark _ _ (by decide)) same
    exact ⟨Char.toNat_inj.mp (hex_digits_injective _ _ digits), (List.cons.inj behind).2⟩

theorem quoted_char_opens (c : Char) (rest other : List Char) : quotedChar c ++ rest ≠ '"' :: other := by
  intro same
  obtain ⟨shown, _, _, quote⟩ | ⟨letter, shown, _⟩ | shown := quoted_char_cases c <;>
    rw [shown] at same
  · exact quote (List.cons.inj same).1
  · cases (List.cons.inj same).1
  · cases (List.cons.inj same).1

theorem quoted_split (text other rest behind : List Char)
    (same : quoted text ++ rest = quoted other ++ behind) : text = other ∧ rest = behind := by
  simp only [quoted, List.append_assoc, List.cons_append, List.nil_append, List.cons.injEq,
    true_and] at same
  induction text generalizing other with
  | nil =>
    cases other with
    | nil => exact ⟨rfl, (List.cons.inj same).2⟩
    | cons d other =>
      rw [List.flatMap_cons, List.append_assoc] at same
      exact absurd same.symm (quoted_char_opens d _ _)
  | cons c text ih =>
    cases other with
    | nil =>
      rw [List.flatMap_cons, List.append_assoc] at same
      exact absurd same (quoted_char_opens c _ _)
    | cons d other =>
      rw [List.flatMap_cons, List.flatMap_cons, List.append_assoc, List.append_assoc] at same
      obtain ⟨first, later⟩ := quoted_char_split c d _ _ same
      obtain ⟨others, left⟩ := ih other later
      exact ⟨by rw [first, others], left⟩

theorem legible_quoted : Legible quoted (fun _ => True) :=
  ⟨fun _ _ => ⟨'"', _, rfl, by decide⟩, fun text other _ _ rest behind _ _ same =>
    quoted_split text other rest behind same⟩

theorem decimal_int_digits (number : Int) :
    ∀ c ∈ decimalInt number, c = '-' ∨ c.isDigit = true := by
  cases number with
  | ofNat number => exact fun c member => .inr ((decimal_digits number).2.1 c member)
  | negSucc number =>
    intro c member
    cases member with
    | head => exact .inl rfl
    | tail _ later => exact .inr ((decimal_digits _).2.1 c later)

theorem decimal_int_injective (a b : Int) (same : decimalInt a = decimalInt b) : a = b := by
  have unsigned (number negative : Nat) : decimal number ≠ '-' :: decimal (negative + 1) := by
    intro equal
    have digit := (decimal_digits number).2.1 '-' (by rw [equal]; exact .head _)
    cases digit
  cases a with
  | ofNat a =>
    cases b with
    | ofNat b => exact congrArg _ (decimal_injective a b same)
    | negSucc b => exact absurd same (unsigned a b)
  | negSucc a =>
    cases b with
    | ofNat b => exact absurd same.symm (unsigned b a)
    | negSucc b =>
      have numbers := decimal_injective _ _ (List.cons.inj same).2
      exact congrArg _ (Nat.succ.inj numbers)

theorem legible_decimal_int : Legible decimalInt (fun _ => True) := by
  refine legible_words ?_ ?_ fun a b _ _ => decimal_int_injective a b
  · intro number _ empty
    cases number with
    | ofNat number => exact (decimal_digits number).1 empty
    | negSucc number => cases empty
  · intro number _ c member
    obtain rfl | digit := decimal_int_digits number c member
    · decide
    · refine hex_digit_plain c ?_
      simp only [isHexDigit, Bool.or_eq_true]
      exact .inl digit

end Text

namespace Bytes

theorem hex_injective (first second : Bytes) (same : hex first = hex second) : first = second := by
  have digits : ∀ a b : Fin 16, hexDigit a.val = hexDigit b.val → a = b := by decide
  have halves (a b : UInt8) (high : hexDigit (a.toNat / 16) = hexDigit (b.toNat / 16))
      (low : hexDigit (a.toNat % 16) = hexDigit (b.toNat % 16)) : a = b := by
    have small := a.toNat_lt
    have otherSmall := b.toNat_lt
    have highs := digits ⟨a.toNat / 16, by omega⟩ ⟨b.toNat / 16, by omega⟩ high
    have lows := digits ⟨a.toNat % 16, by omega⟩ ⟨b.toNat % 16, by omega⟩ low
    rw [Fin.mk.injEq] at highs lows
    exact UInt8.toNat_inj.mp (by omega)
  have chars := String.ofList_injective same
  induction first generalizing second with
  | nil =>
    cases second with
    | nil => rfl
    | cons byte second => cases chars
  | cons byte first ih =>
    cases second with
    | nil => cases chars
    | cons other second =>
      simp only [List.flatMap_cons, List.cons_append, List.nil_append, List.cons.injEq] at chars
      obtain ⟨high, low, rest⟩ := chars
      rw [halves byte other high low, ih second (by rw [hex, hex, rest]) rest]

theorem legible_hex : Text.Legible (fun bytes : Bytes => '0' :: 'x' :: (hex bytes).toList)
    (fun _ => True) := by
  refine Text.legible_words (fun _ _ empty => by cases empty) ?_ ?_
  · intro bytes _ c member
    simp only [List.mem_cons] at member
    obtain rfl | rfl | inside := member
    · decide
    · decide
    · exact Text.hex_digit_plain c (hex_is bytes c inside)
  · intro first second _ _ same
    simp only [List.cons.injEq, true_and] at same
    exact hex_injective first second (String.toList_injective same)

end Bytes

theorem Value.legible_flag : Text.Legible Value.flagText (fun _ => True) := by
  refine Text.legible_words ?_ ?_ ?_
  · intro flag _
    cases flag <;> decide
  · intro flag _ c member
    have plain : (flagText flag).all (fun c => !Text.isMark c) = true := by cases flag <;> decide
    simpa using List.all_eq_true.mp plain c member
  · intro first second _ _
    revert first second
    decide

end Columnar
