import Columnar.Ieee.Number
import Mathlib.Tactic.Positivity
import Mathlib.Tactic.Ring

set_option autoImplicit false

namespace Columnar.Ieee

namespace Format

theorem units_subnormal (format : Format) (magnitude : Nat)
    (small : magnitude < 2 ^ format.fractionBits) : format.units magnitude = magnitude := by
  have noExponent : magnitude / 2 ^ format.fractionBits = 0 := Nat.div_eq_of_lt small
  simp only [units, Nat.shiftRight_eq_div_pow, noExponent, if_pos, Nat.shiftLeft_eq, Nat.one_mul]
  exact Nat.mod_eq_of_lt small

theorem units_normal (format : Format) (shift fraction : Nat)
    (small : fraction < 2 ^ format.fractionBits) :
    format.units ((shift + 1) * 2 ^ format.fractionBits + fraction) =
      (2 ^ format.fractionBits + fraction) * 2 ^ shift := by
  have positive : 0 < 2 ^ format.fractionBits := Nat.two_pow_pos _
  have exponent : ((shift + 1) * 2 ^ format.fractionBits + fraction) / 2 ^ format.fractionBits
      = shift + 1 := by
    rw [Nat.add_comm, Nat.add_mul_div_right _ _ positive, Nat.div_eq_of_lt small, Nat.zero_add]
  have remainder : ((shift + 1) * 2 ^ format.fractionBits + fraction) % 2 ^ format.fractionBits
      = fraction := by
    rw [Nat.add_comm, Nat.add_mul_mod_self_right, Nat.mod_eq_of_lt small]
  simp only [units, Nat.shiftRight_eq_div_pow, Nat.shiftLeft_eq, Nat.one_mul, exponent, remainder,
    Nat.add_one_ne_zero, if_false, Nat.add_sub_cancel]

theorem magnitude_cases (format : Format) (magnitude : Nat) :
    magnitude < 2 ^ format.fractionBits ∨
      ∃ shift fraction, fraction < 2 ^ format.fractionBits ∧
        magnitude = (shift + 1) * 2 ^ format.fractionBits + fraction := by
  have positive : 0 < 2 ^ format.fractionBits := Nat.two_pow_pos _
  by_cases small : magnitude < 2 ^ format.fractionBits
  · exact .inl small
  · right
    have exponent : 0 < magnitude / 2 ^ format.fractionBits :=
      Nat.div_pos (Nat.le_of_not_lt small) positive
    refine ⟨magnitude / 2 ^ format.fractionBits - 1, magnitude % 2 ^ format.fractionBits,
      Nat.mod_lt _ positive, ?_⟩
    rw [Nat.sub_add_cancel exponent]
    exact (Nat.div_add_mod' _ _).symm

theorem quotient_exact (whole denominator : Nat) (positive : 0 < denominator) :
    quotient (whole * denominator) denominator = whole := by
  simp only [quotient, Nat.mul_div_cancel _ positive, Nat.mul_mod_left]
  rw [if_neg]
  omega

theorem log2_normal (bits fraction shift : Nat) (small : fraction < 2 ^ bits) :
    ((2 ^ bits + fraction) * 2 ^ shift).log2 = bits + shift := by
  have positive : 0 < 2 ^ bits := Nat.two_pow_pos _
  apply (Nat.log2_eq_iff (by positivity)).mpr
  constructor
  · rw [Nat.pow_add]
    exact Nat.mul_le_mul_right _ (Nat.le_add_right _ _)
  · rw [Nat.add_right_comm, Nat.pow_add, Nat.pow_succ]
    exact Nat.mul_lt_mul_of_pos_right (by omega) (Nat.two_pow_pos _)

-- Rounding depends on the exact number of units alone, and the units of a magnitude give it back.
theorem round_exact (format : Format) (magnitude numerator denominator : Nat)
    (exact : numerator * format.scale = format.units magnitude * denominator)
    (positive : 0 < denominator) (finite : magnitude ≤ format.infinity) :
    format.round numerator denominator = magnitude := by
  simp only [round, exact, Nat.mul_div_cancel _ positive]
  rcases magnitude_cases format magnitude with small | ⟨shift, fraction, small, split⟩
  · rw [units_subnormal format magnitude small]
    have low : magnitude.log2 - format.fractionBits = 0 := by
      by_cases zero : magnitude = 0
      · simp [zero]
      · have below := (Nat.log2_lt zero).mpr small
        omega
    rw [low, Nat.shiftLeft_zero, Nat.zero_shiftLeft, Nat.zero_add, quotient_exact _ _ positive]
    exact Nat.min_eq_left finite
  · have units := units_normal format shift fraction small
    rw [← split] at units
    rw [units, log2_normal _ _ _ small, Nat.add_sub_cancel_left]
    have regroup : (2 ^ format.fractionBits + fraction) * 2 ^ shift * denominator =
        (2 ^ format.fractionBits + fraction) * (denominator <<< shift) := by
      rw [Nat.shiftLeft_eq]
      ring
    have wide : 0 < denominator <<< shift := by
      rw [Nat.shiftLeft_eq]
      positivity
    rw [regroup, quotient_exact _ _ wide, Nat.shiftLeft_eq]
    have same : shift * 2 ^ format.fractionBits + (2 ^ format.fractionBits + fraction) = magnitude := by
      rw [split]
      ring
    rw [same]
    exact Nat.min_eq_left finite

theorem units_of_short (format : Format) (significand shift : Nat)
    (short : significand < 2 ^ (format.fractionBits + 1)) :
    ∃ magnitude, format.units magnitude = significand * 2 ^ shift ∧
      magnitude < (shift + 2) * 2 ^ format.fractionBits := by
  induction shift generalizing significand with
  | zero =>
    by_cases small : significand < 2 ^ format.fractionBits
    · refine ⟨significand, by rw [units_subnormal format _ small]; simp, ?_⟩
      omega
    · rw [Nat.pow_succ] at short
      have fractionSmall : significand - 2 ^ format.fractionBits < 2 ^ format.fractionBits := by omega
      refine ⟨(0 + 1) * 2 ^ format.fractionBits + (significand - 2 ^ format.fractionBits), ?_, by omega⟩
      rw [units_normal format 0 _ fractionSmall]
      congr 1
      omega
  | succ shift ih =>
    by_cases small : significand < 2 ^ format.fractionBits
    · -- One factor of two still fits into the significand.
      obtain ⟨magnitude, units, bound⟩ := ih (significand * 2) (by rw [Nat.pow_succ]; omega)
      refine ⟨magnitude, by rw [units, Nat.pow_succ]; ring, ?_⟩
      exact Nat.lt_of_lt_of_le bound (Nat.mul_le_mul_right _ (by omega))
    · rw [Nat.pow_succ] at short
      have fractionSmall : significand - 2 ^ format.fractionBits < 2 ^ format.fractionBits := by omega
      refine ⟨(shift + 1 + 1) * 2 ^ format.fractionBits + (significand - 2 ^ format.fractionBits), ?_, ?_⟩
      · rw [units_normal format (shift + 1) _ fractionSmall]
        congr 1
        omega
      · have split : (shift + 1 + 2) * 2 ^ format.fractionBits
            = (shift + 1 + 1) * 2 ^ format.fractionBits + 2 ^ format.fractionBits := by ring
        omega

theorem units_eq_short (format : Format) (magnitude : Nat) :
    ∃ significand shift, format.units magnitude = significand * 2 ^ shift ∧
      significand < 2 ^ (format.fractionBits + 1) ∧ shift * 2 ^ format.fractionBits ≤ magnitude := by
  rcases magnitude_cases format magnitude with small | ⟨shift, fraction, small, split⟩
  · refine ⟨magnitude, 0, by rw [units_subnormal format _ small]; simp, ?_, by simp⟩
    rw [Nat.pow_succ]
    omega
  · refine ⟨2 ^ format.fractionBits + fraction, shift, by rw [split, units_normal format _ _ small], ?_, ?_⟩
    · rw [Nat.pow_succ]
      omega
    · rw [split]
      have grown : shift * 2 ^ format.fractionBits ≤ (shift + 1) * 2 ^ format.fractionBits :=
        Nat.mul_le_mul_right _ (Nat.le_succ _)
      omega

end Format

-- How many more powers of two double precision has below one.
def extraPowers : Nat := 925

theorem single_scale_double : Format.double.scale = Format.single.scale * 2 ^ extraPowers := by
  decide +kernel

-- Double precision has room for every finite single: more exponents and longer fractions.
theorem widen_exact (magnitude : Nat) (finite : magnitude < Format.single.infinity) :
    ∃ wide, wide < Format.double.infinity ∧
      Format.double.round (Format.single.units magnitude) Format.single.scale = wide ∧
      Format.single.round (Format.double.units wide) Format.double.scale = magnitude := by
  obtain ⟨significand, shift, unitsEq, short, low⟩ := Format.single.units_eq_short magnitude
  have shiftSmall : shift < 255 := by
    have bound : magnitude < 255 * 2 ^ Format.single.fractionBits := by
      simpa [Format.single, Format.infinity, Nat.shiftLeft_eq] using finite
    by_contra large
    have : 255 * 2 ^ Format.single.fractionBits ≤ shift * 2 ^ Format.single.fractionBits :=
      Nat.mul_le_mul_right _ (by omega)
    omega
  have fits : significand < 2 ^ (Format.double.fractionBits + 1) :=
    Nat.lt_of_lt_of_le short (Nat.pow_le_pow_right (by decide) (by decide))
  obtain ⟨wide, wideUnits, wideBound⟩ := Format.double.units_of_short significand (shift + extraPowers) fits
  have wideFinite : wide < Format.double.infinity := by
    refine Nat.lt_of_lt_of_le wideBound ?_
    have room : (shift + extraPowers + 2) * 2 ^ Format.double.fractionBits
        ≤ 2047 * 2 ^ Format.double.fractionBits :=
      Nat.mul_le_mul_right _ (by rw [extraPowers]; omega)
    simpa [Format.double, Format.infinity, Nat.shiftLeft_eq] using room
  have scalePositive : 0 < Format.single.scale := by
    rw [Format.scale, Nat.shiftLeft_eq]
    positivity
  have relation : Format.single.units magnitude * Format.double.scale
      = Format.double.units wide * Format.single.scale := by
    rw [unitsEq, wideUnits, single_scale_double, Nat.pow_add]
    ring
  refine ⟨wide, wideFinite, ?_, ?_⟩
  · exact Format.double.round_exact wide _ _ relation scalePositive (Nat.le_of_lt wideFinite)
  · apply Format.single.round_exact magnitude _ _ relation.symm _ (Nat.le_of_lt finite)
    rw [single_scale_double]
    exact Nat.mul_pos scalePositive (Nat.two_pow_pos _)

theorem Double.bits_ofBits (bits : UInt64)
    (number : ¬ Format.double.infinity < bits.toNat % (1 <<< 63)) : (Double.ofBits bits).bits = bits := by
  rw [Double.ofBits, dif_neg number]

theorem Double.ofBits_bits (x : Double) : Double.ofBits x.bits = x := by
  unfold Double.ofBits
  split
  · rename_i isNan
    obtain ⟨bits, one_nan⟩ := x
    have same : bits = 0x7FF8000000000000 := one_nan isNan
    subst same
    rfl
  · rfl

theorem Single.ofBits_bits (x : Single) : Single.ofBits x.bits = x := by
  unfold Single.ofBits
  split
  · rename_i isNan
    obtain ⟨bits, one_nan⟩ := x
    have same : bits = 0x7FC00000 := one_nan isNan
    subst same
    rfl
  · rfl

theorem Double.reading_ofReading (negative : Bool) (magnitude : Nat)
    (known : magnitude ≤ Format.double.infinity) :
    (Double.ofReading (.number negative magnitude)).reading = .number negative magnitude := by
  have signBit : Format.double.signBit = 2 ^ 63 := by decide
  have infinity : Format.double.infinity = 0x7FF0000000000000 := by decide
  rw [infinity] at known
  let sign := if negative then 2 ^ 63 else 0
  have signCases : sign = 0 ∧ negative = false ∨ sign = 2 ^ 63 ∧ negative = true := by
    cases negative <;> simp [sign]
  have toNat : (UInt64.ofNat (magnitude + sign)).toNat = magnitude + sign :=
    UInt64.toNat_ofNat_of_lt' (by rw [UInt64.size]; omega)
  have low : (magnitude + sign) % 2 ^ 63 = magnitude := by omega
  have notNan : ¬ Format.double.infinity < (UInt64.ofNat (magnitude + sign)).toNat % (1 <<< 63) := by
    rw [toNat, infinity, Nat.shiftLeft_eq, Nat.one_mul, low]
    omega
  have flag : decide (2 ^ 63 ≤ magnitude + sign) = negative := by
    rcases signCases with ⟨zero, plain⟩ | ⟨high, signed⟩
    · rw [plain, decide_eq_false_iff_not]
      omega
    · rw [signed, decide_eq_true_eq]
      omega
  rw [Double.reading, Double.ofReading, signBit, Double.bits_ofBits _ notNan, toNat, Format.reading,
    signBit, low, if_neg (by omega), flag]

theorem Double.reading_nan : Double.nan.reading = .nan := by decide

theorem Single.ofReading_reading (x : Single) : Single.ofReading x.reading = x := by
  have signBit : Format.single.signBit = 2 ^ 31 := by decide
  have bound : x.bits.toNat < 2 ^ 32 := x.bits.toNat_lt
  by_cases isNan : Format.single.infinity < x.bits.toNat % (1 <<< 31)
  · have bits := x.one_nan isNan
    have reading : x.reading = .nan := by
      simp only [Single.reading, Format.reading, signBit]
      rw [if_pos (by simpa [Nat.shiftLeft_eq] using isNan)]
    rw [reading, Single.ofReading, ← Single.ofBits_bits x, bits]
    rfl
  · have reading : x.reading = .number (decide (2 ^ 31 ≤ x.bits.toNat)) (x.bits.toNat % 2 ^ 31) := by
      simp only [Single.reading, Format.reading, signBit]
      rw [if_neg (by simpa [Nat.shiftLeft_eq] using isNan)]
    have whole : x.bits.toNat % 2 ^ 31 + (if decide (2 ^ 31 ≤ x.bits.toNat) = true then 2 ^ 31 else 0)
        = x.bits.toNat := by
      by_cases large : 2 ^ 31 ≤ x.bits.toNat
      · simp only [large, decide_true, if_true]
        omega
      · simp only [large, decide_false, Bool.false_eq_true, if_false]
        omega
    rw [reading, Single.ofReading, signBit, whole]
    rw [UInt32.ofNat_toNat, Single.ofBits_bits]

theorem Single.toSingle_toDouble (x : Single) : x.toDouble.toSingle = x := by
  have back := Single.ofReading_reading x
  cases reading : x.reading with
  | nan =>
    rw [reading] at back
    rw [Single.toDouble, reading, Reading.convert, Double.ofReading, Double.toSingle,
      Double.reading_nan]
    exact back
  | number negative magnitude =>
    rw [reading] at back
    have known : magnitude ≤ Format.single.infinity := by
      simp only [Single.reading, Format.reading] at reading
      split at reading
      · simp at reading
      · simp only [Reading.number.injEq] at reading
        omega
    by_cases infinite : magnitude = Format.single.infinity
    · rw [Single.toDouble, reading, Reading.convert, if_pos infinite, Double.toSingle,
        Double.reading_ofReading _ _ (Nat.le_refl _), Reading.convert, if_pos rfl, ← infinite]
      exact back
    · obtain ⟨wide, wideFinite, widened, narrowed⟩ := widen_exact magnitude (by omega)
      rw [Single.toDouble, reading, Reading.convert, if_neg infinite, widened, Double.toSingle,
        Double.reading_ofReading _ _ (Nat.le_of_lt wideFinite), Reading.convert,
        if_neg (Nat.ne_of_lt wideFinite), narrowed]
      exact back

end Columnar.Ieee
