import Columnar.Proofs.DecimalText
import Columnar.Value.Text

set_option autoImplicit false

namespace Columnar

namespace Text

def Printable (text : List Char) : Prop := ∀ c ∈ text, isUnprintable c = false

def breaksLine (c : Char) : Bool :=
  ['\n', '\x0b', '\x0c', '\r', '\x85', '\u2028', '\u2029'].contains c

theorem tab_unprintable : isUnprintable '\t' = true := by decide +kernel

theorem unprintable_of_breaks_line (c : Char) (breaks : breaksLine c = true) :
    isUnprintable c = true := by
  simp only [breaksLine, List.contains_eq_mem, List.mem_cons, List.not_mem_nil, or_false,
    decide_eq_true_eq] at breaks
  rcases breaks with rfl | rfl | rfl | rfl | rfl | rfl | rfl <;> decide +kernel

def isPlain (c : Char) : Bool := 32 ≤ c.toNat && c.toNat < 127

theorem printable_plain (c : Char) (plain : isPlain c = true) : isUnprintable c = false := by
  have apart : ∀ range ∈ unprintableLow, range.2 < 32 ∨ 127 ≤ range.1 := by decide +kernel
  simp only [isPlain, Bool.and_eq_true, decide_eq_true_eq] at plain
  simp only [isUnprintable, if_pos (show c.toNat < 0x1000 by omega), List.any_eq_false]
  intro range member
  have sides := apart range member
  simp only [Bool.and_eq_true, decide_eq_true_eq]
  omega

theorem printable_digit (c : Char) (digit : c.isDigit = true) : isUnprintable c = false := by
  have code := Char.isDigit_iff_toNat.mp digit
  have low : '0'.toNat = 48 := rfl
  have high : '9'.toNat = 57 := rfl
  refine printable_plain c ?_
  simp only [isPlain, Bool.and_eq_true, decide_eq_true_eq]
  omega

theorem printable_word (text : List Char) (plain : text.all isPlain = true) : Printable text :=
  fun c member => printable_plain c (List.all_eq_true.mp plain c member)

theorem printable_nil : Printable [] := by
  intro c member
  cases member

theorem printable_cons {c : Char} {text : List Char} (first : isUnprintable c = false)
    (rest : Printable text) : Printable (c :: text) := by
  intro other member
  cases member with
  | head => exact first
  | tail _ later => exact rest other later

theorem printable_append {first second : List Char} (left : Printable first)
    (right : Printable second) : Printable (first ++ second) := by
  intro c member
  cases List.mem_append.mp member with
  | inl before => exact left c before
  | inr behind => exact right c behind

theorem mem_join (separator : List Char) (texts : List (List Char)) (c : Char)
    (member : c ∈ join separator texts) : c ∈ separator ∨ ∃ text ∈ texts, c ∈ text := by
  induction texts with
  | nil => cases member
  | cons text rest ih =>
    cases rest with
    | nil => exact .inr ⟨text, .head _, member⟩
    | cons next more =>
      simp only [join, List.mem_append] at member
      obtain (here | between) | behind := member
      · exact .inr ⟨text, .head _, here⟩
      · exact .inl between
      · obtain between | ⟨other, found, inside⟩ := ih behind
        · exact .inl between
        · exact .inr ⟨other, .tail _ found, inside⟩

theorem printable_join {separator : List Char} (texts : List (List Char))
    (between : Printable separator) (each : ∀ text ∈ texts, Printable text) :
    Printable (join separator texts) := by
  intro c member
  obtain here | ⟨text, found, inside⟩ := mem_join separator texts c member
  · exact between c here
  · exact each text found c inside

theorem printable_decimal (number : Nat) : Printable (decimal number) :=
  fun c member => printable_digit c ((decimal_digits number).2.1 c member)

theorem printable_decimal_int (number : Int) : Printable (decimalInt number) := by
  cases number with
  | ofNat number => exact printable_decimal number
  | negSucc number => exact printable_cons (printable_plain '-' (by decide)) (printable_decimal _)

def isHexDigit (c : Char) : Bool := ('0' ≤ c && c ≤ '9') || ('a' ≤ c && c ≤ 'f')

theorem hex_digits_are (number : Nat) : ∀ c ∈ hexDigits number, isHexDigit c = true := by
  have all : ∀ digit : Fin 16, isHexDigit digit.val.digitChar = true := by decide +kernel
  induction number using Nat.strongRecOn with
  | ind number lower =>
    intro c member
    rw [hexDigits, Nat.toDigits_eq_if (by decide)] at member
    by_cases single : number < 16
    · rw [if_pos single, List.mem_singleton] at member
      rw [member]
      exact all ⟨number, single⟩
    · rw [if_neg single, List.mem_append, List.mem_singleton] at member
      obtain before | last := member
      · exact lower (number / 16) (by omega) c before
      · rw [last]
        exact all ⟨number % 16, Nat.mod_lt _ (by decide)⟩

theorem hex_digit_code (c : Char) (hex : isHexDigit c = true) :
    (48 ≤ c.toNat ∧ c.toNat ≤ 57) ∨ (97 ≤ c.toNat ∧ c.toNat ≤ 102) := by
  simp only [isHexDigit, Bool.or_eq_true, Bool.and_eq_true, decide_eq_true_eq, Char.le_def,
    UInt32.le_iff_toNat_le] at hex
  exact hex

theorem printable_hex_digit (c : Char) (hex : isHexDigit c = true) : isUnprintable c = false := by
  have code := hex_digit_code c hex
  refine printable_plain c ?_
  simp only [isPlain, Bool.and_eq_true, decide_eq_true_eq]
  omega

theorem printable_hex_digits (number : Nat) : Printable (hexDigits number) :=
  fun c member => printable_hex_digit c (hex_digits_are number c member)

def letterMeans (letter : Char) : Char :=
  if letter = '0' then '\x00'
  else if letter = 't' then '\t'
  else if letter = 'r' then '\r'
  else if letter = 'n' then '\n'
  else letter

theorem quoted_char_cases (c : Char) :
    (quotedChar c = [c] ∧ isUnprintable c = false ∧ c ≠ '\\' ∧ c ≠ '"') ∨
    (∃ letter, quotedChar c = ['\\', letter] ∧ isPlain letter = true ∧ letter ≠ 'u' ∧
      letterMeans letter = c) ∨
    quotedChar c = '\\' :: 'u' :: '\x7b' :: (hexDigits c.toNat ++ ['\x7d']) := by
  unfold quotedChar
  split
  · next zero => exact .inr (.inl ⟨'0', rfl, by decide, by decide, zero.symm⟩)
  split
  · next tab => exact .inr (.inl ⟨'t', rfl, by decide, by decide, tab.symm⟩)
  split
  · next back => exact .inr (.inl ⟨'r', rfl, by decide, by decide, back.symm⟩)
  split
  · next line => exact .inr (.inl ⟨'n', rfl, by decide, by decide, line.symm⟩)
  split
  · next quote => exact .inr (.inl ⟨'"', rfl, by decide, by decide, quote.symm⟩)
  split
  · next slash => exact .inr (.inl ⟨'\\', rfl, by decide, by decide, slash.symm⟩)
  split
  · exact .inr (.inr rfl)
  · next noQuote noSlash seen => exact .inl ⟨rfl, by simpa using seen, noSlash, noQuote⟩

theorem printable_quoted_char (c : Char) : Printable (quotedChar c) := by
  obtain ⟨shown, seen, _⟩ | ⟨letter, shown, plain, _⟩ | shown := quoted_char_cases c <;> rw [shown]
  · exact printable_cons seen printable_nil
  · exact printable_word _ (by simpa using ⟨by decide, plain⟩)
  · exact printable_append (printable_word ['\\', 'u', '\x7b'] (by decide))
      (printable_append (printable_hex_digits _) (printable_word _ (by decide)))

theorem printable_quoted (text : List Char) : Printable (quoted text) := by
  have mark : Printable ['"'] := printable_word _ (by decide)
  refine printable_append (printable_append mark ?_) mark
  intro c member
  obtain ⟨inner, _, inside⟩ := List.mem_flatMap.mp member
  exact printable_quoted_char inner c inside

end Text

theorem Bytes.hex_is (bytes : Bytes) : ∀ c ∈ (Bytes.hex bytes).toList, Text.isHexDigit c = true := by
  have all : ∀ nibble : Fin 16, Text.isHexDigit (hexDigit nibble.val) = true := by decide +kernel
  intro c member
  simp only [hex, String.toList_ofList, List.mem_flatMap, List.mem_cons, List.not_mem_nil,
    or_false] at member
  obtain ⟨byte, _, high | low⟩ := member
  · rw [high]
    exact all ⟨byte.toNat / 16, by have small := byte.toNat_lt; omega⟩
  · rw [low]
    exact all ⟨byte.toNat % 16, Nat.mod_lt _ (by decide)⟩

namespace Ieee

open Text (Printable printable_append printable_cons printable_nil printable_plain printable_word)

theorem printable_positional (showsFraction : Bool) (digits : List Char) (exponent : Int)
    (printable : Printable digits) : Printable (positional showsFraction digits exponent) := by
  have zeros (count : Nat) : Printable (List.replicate count '0') := by
    intro c member
    rw [(List.mem_replicate.mp member).2]
    exact printable_plain _ (by decide)
  unfold positional
  split
  · refine printable_append (printable_append printable (zeros _)) ?_
    cases showsFraction <;> exact printable_word _ (by decide)
  · simp only
    split
    · exact printable_append (fun c member => printable c (List.mem_of_mem_take member))
        (printable_cons (printable_plain _ (by decide)) fun c member =>
          printable c (List.mem_of_mem_drop member))
    · exact printable_cons (printable_plain _ (by decide))
        (printable_cons (printable_plain _ (by decide)) (printable_append (zeros _) printable))

theorem printable_scientific (digits : List Char) (first : Int) (printable : Printable digits) :
    Printable (scientific digits first) := by
  have exponent : Printable ('e' :: Text.decimalInt first) :=
    printable_cons (printable_plain _ (by decide)) (Text.printable_decimal_int first)
  unfold scientific
  split
  · exact printable_nil
  · next digit => exact printable_cons (printable digit (.head _)) exponent
  · next digit rest _ =>
      have others : Printable rest := fun c member => printable c (.tail _ member)
      exact printable_cons (printable digit (.head _))
        (printable_cons (printable_plain _ (by decide)) (printable_append others exponent))

theorem printable_decimal_form (style : NumberStyle) (decimal : Decimal) :
    Printable (style.decimal decimal) := by
  have digits := Text.printable_decimal decimal.digits
  simp only [NumberStyle.decimal]
  split
  · exact printable_scientific _ _ digits
  · exact printable_positional _ _ _ digits

theorem printable_number (style : NumberStyle) (format : Format) (reading : Reading) :
    Printable (style.text format reading) := by
  cases reading with
  | nan =>
    simp only [NumberStyle.text]
    exact printable_word _ (by decide)
  | number negative magnitude =>
    have sign : Printable (if negative then ['-'] else []) := by
      cases negative <;> exact printable_word _ (by decide)
    simp only [NumberStyle.text]
    split
    · exact printable_append sign (printable_word _ (by decide))
    split
    · refine printable_append sign ?_
      cases style.showsFraction <;> exact printable_word _ (by decide)
    · exact printable_append sign (printable_decimal_form style _)

end Ieee

namespace Value

open Text (Printable printable_append printable_cons printable_join printable_plain printable_word)

theorem printable_flag (flag : Bool) : Printable (flagText flag) := by
  cases flag <;> exact printable_word _ (by decide)

theorem printable_named (name : String) (content : List Char)
    (word : name.toList.all Text.isPlain = true) (inside : Printable content) :
    Printable (named name content) :=
  printable_append
    (printable_append (printable_word _ word) (printable_cons (printable_plain _ (by decide)) inside))
    (printable_word _ (by decide))

theorem printable_bracketed (texts : List (List Char)) (each : ∀ text ∈ texts, Printable text) :
    Printable (bracketed texts) :=
  printable_append (printable_cons (printable_plain _ (by decide))
    (printable_join texts (printable_word _ (by decide)) each))
    (printable_word _ (by decide))

mutual

theorem printable_chars (value : Value) : Printable value.chars := by
  match value with
  | .null => exact printable_word _ (by decide)
  | .boolean flag => exact printable_named _ _ (by decide +kernel) (printable_flag flag)
  | .byte number | .short number | .int number | .long number =>
    exact printable_named _ _ (by decide +kernel) (Text.printable_decimal_int _)
  | .float number | .double number =>
    exact printable_named _ _ (by decide +kernel) (Ieee.printable_number _ _ _)
  | .string text => exact printable_named _ _ (by decide +kernel) (Text.printable_quoted _)
  | .binary bytes =>
    refine printable_named _ _ (by decide +kernel) (printable_bracketed _ fun text member => ?_)
    obtain ⟨byte, _, same⟩ := List.mem_map.mp member
    rw [← same]
    exact Text.printable_decimal _
  | .list items =>
    exact printable_named _ _ (by decide +kernel) (printable_bracketed _ (printable_all_chars items))
  | .map entries =>
    exact printable_named _ _ (by decide +kernel)
      (printable_bracketed _ (printable_entry_chars entries))
  | .struct members =>
    exact printable_named _ _ (by decide +kernel) (printable_bracketed _ (printable_all_chars members))

theorem printable_all_chars (values : List Value) : ∀ text ∈ allChars values, Printable text := by
  match values with
  | [] =>
    intro text member
    cases member
  | value :: rest =>
    intro text member
    cases member with
    | head => exact printable_chars value
    | tail _ later => exact printable_all_chars rest text later

theorem printable_entry_chars (entries : List (Value × Value)) :
    ∀ text ∈ entryChars entries, Printable text := by
  match entries with
  | [] =>
    intro text member
    cases member
  | (key, value) :: rest =>
    intro text member
    cases member with
    | head =>
      exact printable_append (printable_append (printable_append
        (printable_cons (printable_plain _ (by decide)) (printable_chars key))
          (printable_word _ (by decide))) (printable_chars value)) (printable_word _ (by decide))
    | tail _ later => exact printable_entry_chars rest text later

end

end Value

end Columnar
