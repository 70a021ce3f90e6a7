import Columnar.Proofs.Ieee.Exact
import Mathlib.Data.Nat.Log

set_option autoImplicit false

namespace Columnar.Ieee

namespace Format

theorem quotient_bounds (numerator denominator : Nat) :
    numerator / denominator ≤ quotient numerator denominator ∧
      quotient numerator denominator ≤ numerator / denominator + 1 := by
  simp only [quotient]
  split <;> omega

theorem quotient_mono (less more denominator : Nat) (ordered : less ≤ more) :
    quotient less denominator ≤ quotient more denominator := by
  have whole : less / denominator ≤ more / denominator := Nat.div_le_div_right ordered
  by_cases same : less / denominator = more / denominator
  · -- With the same whole part, the greater rest decides.
    have lessSplit := Nat.div_add_mod less denominator
    have moreSplit := Nat.div_add_mod more denominator
    rw [← same] at moreSplit
    simp only [quotient, ← same]
    split <;> split <;> omega
  · have below := (quotient_bounds less denominator).2
    have above := (quotient_bounds more denominator).1
    omega

theorem units_mono (format : Format) (less more : Nat) (ordered : less ≤ more) :
    format.units less ≤ format.units more := by
  have positive : 0 < 2 ^ format.fractionBits := Nat.two_pow_pos _
  rcases magnitude_cases format less with lessSmall | ⟨shift, fraction, small, split⟩
  · rw [units_subnormal format less lessSmall]
    rcases magnitude_cases format more with moreSmall | ⟨shift, fraction, small, split⟩
    · rw [units_subnormal format more moreSmall]
      exact ordered
    · rw [split, units_normal format shift fraction small]
      have grown := Nat.le_mul_of_pos_right (2 ^ format.fractionBits + fraction) (Nat.two_pow_pos shift)
      omega
  · rcases magnitude_cases format more with moreSmall | ⟨wider, rest, restSmall, moreSplit⟩
    · have normal : 2 ^ format.fractionBits ≤ (shift + 1) * 2 ^ format.fractionBits :=
        Nat.le_mul_of_pos_left _ (Nat.succ_pos _)
      omega
    · rw [split, moreSplit] at ordered
      rw [split, moreSplit, units_normal format shift fraction small,
        units_normal format wider rest restSmall]
      have exponents : shift ≤ wider := by
        by_contra deeper
        have apart : (wider + 1 + 1) * 2 ^ format.fractionBits ≤ (shift + 1) * 2 ^ format.fractionBits :=
          Nat.mul_le_mul_right _ (by omega)
        rw [Nat.add_mul _ 1] at apart
        omega
      by_cases same : shift = wider
      · subst same
        exact Nat.mul_le_mul_right _ (by omega)
      · -- A greater exponent makes up for any fraction.
        have powers : 2 ^ (shift + 1) ≤ 2 ^ wider := Nat.pow_le_pow_right (by decide) (by omega)
        calc (2 ^ format.fractionBits + fraction) * 2 ^ shift
            ≤ (2 ^ format.fractionBits * 2) * 2 ^ shift := Nat.mul_le_mul_right _ (by omega)
          _ = 2 ^ format.fractionBits * 2 ^ (shift + 1) := by ring
          _ ≤ 2 ^ format.fractionBits * 2 ^ wider := Nat.mul_le_mul_left _ powers
          _ ≤ (2 ^ format.fractionBits + rest) * 2 ^ wider := Nat.mul_le_mul_right _ (by omega)

-- The exponent that rounding chooses for a quotient keeps its whole part within one bit more than
-- a fraction has; a nonzero exponent also makes it fill the fraction.
theorem chosen_shift (bits scaled denominator : Nat) (positive : 0 < denominator) :
    scaled < denominator * 2 ^ (bits + 1 + ((scaled / denominator).log2 - bits)) ∧
      ((scaled / denominator).log2 - bits ≠ 0 →
        denominator * 2 ^ (bits + ((scaled / denominator).log2 - bits)) ≤ scaled) := by
  have above : scaled / denominator < 2 ^ ((scaled / denominator).log2 + 1) := Nat.lt_log2_self
  refine ⟨?_, fun filled => ?_⟩
  · have wider : 2 ^ ((scaled / denominator).log2 + 1) ≤
        2 ^ (bits + 1 + ((scaled / denominator).log2 - bits)) :=
      Nat.pow_le_pow_right (by decide) (by omega)
    rw [Nat.mul_comm]
    exact (Nat.div_lt_iff_lt_mul positive).mp (Nat.lt_of_lt_of_le above wider)
  · have nonzero : scaled / denominator ≠ 0 := by
      intro zero
      rw [zero] at filled
      simp at filled
    have below := Nat.log2_self_le nonzero
    have exponent : bits + ((scaled / denominator).log2 - bits) = (scaled / denominator).log2 := by
      omega
    rw [exponent, Nat.mul_comm]
    exact (Nat.le_div_iff_mul_le positive).mp below

theorem quotient_low (bits scaled denominator shift : Nat)
    (below : scaled < denominator * 2 ^ (bits + 1 + shift)) :
    quotient scaled (denominator <<< shift) ≤ 2 ^ (bits + 1) := by
  have whole : scaled / (denominator <<< shift) < 2 ^ (bits + 1) := by
    apply Nat.div_lt_of_lt_mul
    rw [Nat.shiftLeft_eq, Nat.mul_assoc, ← Nat.pow_add, Nat.add_comm shift]
    exact below
  have bound := (quotient_bounds scaled (denominator <<< shift)).2
  omega

theorem quotient_high (bits scaled denominator shift : Nat) (positive : 0 < denominator)
    (above : denominator * 2 ^ (bits + shift) ≤ scaled) :
    2 ^ bits ≤ quotient scaled (denominator <<< shift) := by
  refine Nat.le_trans ?_ (quotient_bounds scaled (denominator <<< shift)).1
  rw [Nat.shiftLeft_eq, Nat.le_div_iff_mul_le (by positivity)]
  have regroup : 2 ^ bits * (denominator * 2 ^ shift) = denominator * 2 ^ (bits + shift) := by
    rw [Nat.pow_add]
    ring
  rw [regroup]
  exact above

theorem round_mono (format : Format) (less more denominator : Nat) (positive : 0 < denominator)
    (ordered : less ≤ more) :
    format.round less denominator ≤ format.round more denominator := by
  have scaled : less * format.scale ≤ more * format.scale := Nat.mul_le_mul_right _ ordered
  have logs : (less * format.scale / denominator).log2 ≤ (more * format.scale / denominator).log2 := by
    rw [Nat.log2_eq_log_two, Nat.log2_eq_log_two]
    exact Nat.log_mono_right (Nat.div_le_div_right scaled)
  obtain ⟨lessBelow, _⟩ := chosen_shift format.fractionBits (less * format.scale) denominator positive
  obtain ⟨_, moreAbove⟩ := chosen_shift format.fractionBits (more * format.scale) denominator positive
  simp only [round]
  apply min_le_min_right
  generalize narrow : (less * format.scale / denominator).log2 - format.fractionBits = low at *
  generalize wide : (more * format.scale / denominator).log2 - format.fractionBits = high at *
  have shifts : low ≤ high := by omega
  by_cases same : low = high
  · rw [same]
    exact Nat.add_le_add_left (quotient_mono _ _ _ scaled) _
  · have first := quotient_low format.fractionBits _ denominator low lessBelow
    have second := quotient_high format.fractionBits _ denominator high positive
      (moreAbove (by omega))
    have apart : (low + 1) * 2 ^ format.fractionBits ≤ high * 2 ^ format.fractionBits :=
      Nat.mul_le_mul_right _ (by omega)
    rw [Nat.add_mul, Nat.one_mul] at apart
    rw [Nat.pow_succ] at first
    rw [Nat.shiftLeft_eq low, Nat.shiftLeft_eq high]
    omega

theorem quotient_scaled (factor numerator denominator : Nat) (positive : 0 < factor) :
    quotient (factor * numerator) (factor * denominator) = quotient numerator denominator := by
  have whole : factor * numerator / (factor * denominator) = numerator / denominator :=
    Nat.mul_div_mul_left _ _ positive
  have rest : factor * numerator % (factor * denominator) = factor * (numerator % denominator) :=
    Nat.mul_mod_mul_left _ _ _
  have half : factor * denominator < 2 * (factor * (numerator % denominator)) ↔
      denominator < 2 * (numerator % denominator) := by
    rw [Nat.mul_left_comm, Nat.mul_lt_mul_left positive]
  have tie : 2 * (factor * (numerator % denominator)) = factor * denominator ↔
      2 * (numerator % denominator) = denominator := by
    rw [Nat.mul_left_comm, Nat.mul_right_inj (Nat.ne_of_gt positive)]
  simp only [quotient, whole, rest, half, tie]

theorem round_scaled (format : Format) (factor numerator denominator : Nat) (positive : 0 < factor) :
    format.round (factor * numerator) (factor * denominator) = format.round numerator denominator := by
  simp only [round]
  rw [Nat.mul_assoc, Nat.mul_div_mul_left _ _ positive]
  generalize (numerator * format.scale / denominator).log2 - format.fractionBits = shift
  rw [Nat.shiftLeft_eq (factor * denominator), Nat.mul_assoc, ← Nat.shiftLeft_eq,
    quotient_scaled _ _ _ positive]

theorem round_mono_cross (format : Format) (a b c d : Nat) (bPositive : 0 < b) (dPositive : 0 < d)
    (ordered : a * d ≤ c * b) : format.round a b ≤ format.round c d := by
  calc format.round a b
      = format.round (d * a) (d * b) := (format.round_scaled d a b dPositive).symm
    _ ≤ format.round (b * c) (d * b) := by
      apply format.round_mono _ _ _ (Nat.mul_pos dPositive bPositive)
      rw [Nat.mul_comm d, Nat.mul_comm b]
      exact ordered
    _ = format.round c d := by rw [Nat.mul_comm d, format.round_scaled b c d bPositive]

theorem round_finite (format : Format) (numerator denominator : Nat) :
    format.round numerator denominator ≤ format.infinity :=
  Nat.min_le_right _ _

theorem round_zero (format : Format) (denominator : Nat) : format.round 0 denominator = 0 := by
  simp [round, quotient]

theorem scale_positive (format : Format) : 0 < format.scale := by
  rw [scale, Nat.shiftLeft_eq]
  positivity

theorem round_of_same (format : Format) (magnitude number : Nat) (positive : 0 < number)
    (one : format.units magnitude = format.scale) (finite : magnitude ≤ format.infinity) :
    format.round number number = magnitude := by
  refine format.round_exact magnitude number number ?_ positive finite
  rw [one, Nat.mul_comm]

theorem units_round_whole (significand shift factor : Nat)
    (short : significand < 2 ^ (double.fractionBits + 1)) (near : shift ≤ double.fractionBits + 1)
    (positive : 0 < factor) :
    double.units (double.round (factor * (significand * 2 ^ shift)) factor) =
      significand * 2 ^ shift * double.scale := by
  obtain ⟨power, scale, size⟩ : ∃ power, double.scale = 2 ^ power ∧ power = 1074 :=
    ⟨1074, by decide +kernel, rfl⟩
  obtain ⟨magnitude, units, bound⟩ := double.units_of_short significand (shift + power) short
  have whole : double.units magnitude = significand * 2 ^ shift * double.scale := by
    rw [units, scale, Nat.pow_add, Nat.mul_assoc]
  have finite : magnitude ≤ double.infinity := by
    have room : (shift + power + 2) * 2 ^ double.fractionBits ≤ 2047 * 2 ^ double.fractionBits := by
      apply Nat.mul_le_mul_right
      simp only [double] at near
      omega
    have infinity : double.infinity = 2047 * 2 ^ double.fractionBits := by decide +kernel
    omega
  rw [double.round_exact magnitude _ factor _ positive finite, whole]
  rw [whole]
  ring

end Format

theorem whole_as_double_small (number : Nat) (small : number < 2 ^ (Format.double.fractionBits + 1)) :
    wholeAsDouble number = number := by
  have shift : number.log2 - Format.double.fractionBits = 0 := by
    by_cases zero : number = 0
    · simp [zero]
    · have bits := (Nat.log2_lt zero).mpr small
      omega
  have kept := Format.quotient_exact number 1 Nat.one_pos
  rw [Nat.mul_one] at kept
  simp only [wholeAsDouble, shift, Nat.shiftLeft_zero, kept]

theorem whole_as_double_positive (number : Nat) (positive : 0 < number) : 0 < wholeAsDouble number := by
  have below := Nat.log2_self_le (Nat.ne_of_gt positive)
  have power : 2 ^ (number.log2 - Format.double.fractionBits) ≤ number :=
    Nat.le_trans (Nat.pow_le_pow_right (by decide) (Nat.sub_le _ _)) below
  have filled : 0 < number / 2 ^ (number.log2 - Format.double.fractionBits) :=
    Nat.div_pos power (Nat.two_pow_pos _)
  have kept := (Format.quotient_bounds number (2 ^ (number.log2 - Format.double.fractionBits))).1
  simp only [wholeAsDouble, Nat.shiftLeft_eq, Nat.one_mul]
  exact Nat.mul_pos (Nat.lt_of_lt_of_le filled kept) (Nat.two_pow_pos _)

theorem whole_as_double_mono (less more : Nat) (ordered : less ≤ more) :
    wholeAsDouble less ≤ wholeAsDouble more := by
  obtain ⟨lessBelow, _⟩ := Format.chosen_shift Format.double.fractionBits less 1 Nat.one_pos
  obtain ⟨_, moreAbove⟩ := Format.chosen_shift Format.double.fractionBits more 1 Nat.one_pos
  have logs : less.log2 ≤ more.log2 := by
    rw [Nat.log2_eq_log_two, Nat.log2_eq_log_two]
    exact Nat.log_mono_right ordered
  rw [Nat.div_one] at lessBelow moreAbove
  simp only [wholeAsDouble]
  generalize narrow : less.log2 - Format.double.fractionBits = low at *
  generalize wide : more.log2 - Format.double.fractionBits = high at *
  rw [Nat.shiftLeft_eq, Nat.shiftLeft_eq _ high]
  by_cases same : low = high
  · rw [same]
    exact Nat.mul_le_mul_right _ (Format.quotient_mono _ _ _ ordered)
  · have first := Format.quotient_low Format.double.fractionBits less 1 low lessBelow
    have second := Format.quotient_high Format.double.fractionBits more 1 high Nat.one_pos
      (moreAbove (by omega))
    have powers : 2 ^ (low + 1) ≤ 2 ^ high := Nat.pow_le_pow_right (by decide) (by omega)
    calc Format.quotient less (1 <<< low) * 2 ^ low
        ≤ 2 ^ (Format.double.fractionBits + 1) * 2 ^ low := Nat.mul_le_mul_right _ first
      _ = 2 ^ Format.double.fractionBits * 2 ^ (low + 1) := by ring
      _ ≤ 2 ^ Format.double.fractionBits * 2 ^ high := Nat.mul_le_mul_left _ powers
      _ ≤ Format.quotient more (1 <<< high) * 2 ^ high := Nat.mul_le_mul_right _ second

namespace Reading

def AtMost (a b : Reading) : Prop := ∃ low high, a.rank = some low ∧ b.rank = some high ∧ low ≤ high

theorem at_most_trans {a b c : Reading} (first : a.AtMost b) (second : b.AtMost c) : a.AtMost c := by
  obtain ⟨low, middle, lowRank, middleRank, below⟩ := first
  obtain ⟨other, high, otherRank, highRank, above⟩ := second
  rw [middleRank, Option.some.injEq] at otherRank
  exact ⟨low, high, lowRank, highRank, by omega⟩

theorem at_most_refl {a b : Reading} (number : a.AtMost b) : a.AtMost a := by
  obtain ⟨low, _, lowRank, _, _⟩ := number
  exact ⟨low, low, lowRank, lowRank, Int.le_refl low⟩

theorem rank_of_number (a : Reading) (number : a ≠ .nan) : ∃ place, a.rank = some place := by
  cases a with
  | nan => exact absurd rfl number
  | number negative magnitude => exact ⟨_, rfl⟩

theorem at_most_of_not_below {a b : Reading} (aNumber : a ≠ .nan) (bNumber : b ≠ .nan)
    (unordered : ¬ b.below a = true) : a.AtMost b := by
  obtain ⟨low, lowRank⟩ := rank_of_number a aNumber
  obtain ⟨high, highRank⟩ := rank_of_number b bNumber
  refine ⟨low, high, lowRank, highRank, ?_⟩
  simp only [below, lowRank, highRank, decide_eq_true_eq] at unordered
  omega

theorem not_below_of_at_most {a b : Reading} (ordered : a.AtMost b) : ¬ b.below a = true := by
  obtain ⟨low, high, lowRank, highRank, place⟩ := ordered
  simp only [below, lowRank, highRank, decide_eq_true_eq]
  omega

end Reading

end Columnar.Ieee
