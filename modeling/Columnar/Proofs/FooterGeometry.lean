import Columnar.Proofs.ContainerFormat
import Columnar.Proofs.StreamBytes

set_option autoImplicit false

namespace Columnar

namespace StripeInfo

theorem total_rows_sum (stripes : List StripeInfo) :
    totalRows stripes = (stripes.map (·.rows.toNat)).sum := by
  induction stripes with
  | nil => rfl
  | cons stripe rest ih => rw [totalRows, ih, List.map_cons, List.sum_cons]

-- The end of the last stripe is all that the checks keep in mind. It is behind the ends of all
-- stripes before, so neighbours that follow each other put every two stripes apart.
theorem ordered_iff_apart (columns high low : Nat) (stripes : List StripeInfo) :
    Ordered columns high low stripes ↔
      stripes.Pairwise (fun first second => first.stop ≤ second.offset.toNat) ∧
        ∀ stripe ∈ stripes, low ≤ stripe.offset.toNat ∧ stripe.stop ≤ high ∧
          ∀ stream ∈ stripe.streams, stream.fits columns stripe.length.toNat = true := by
  induction stripes generalizing low with
  | nil => simp [Ordered]
  | cons stripe rest ih =>
    rw [Ordered, ih, List.pairwise_cons, List.forall_mem_cons]
    constructor
    · rintro ⟨above, below, fit, apart, behind⟩
      refine ⟨⟨fun other later => (behind other later).1, apart⟩, ⟨above, below, fit⟩, ?_⟩
      intro other later
      obtain ⟨after, others⟩ := behind other later
      rw [stop] at after
      exact ⟨by omega, others⟩
    · rintro ⟨⟨first, apart⟩, ⟨above, below, fit⟩, behind⟩
      exact ⟨above, below, fit, apart, fun other later => ⟨first other later, (behind other later).2⟩⟩

end StripeInfo

namespace Footer

structure Geometry (footer : Footer) : Prop where
  apart : footer.stripes.Pairwise fun first second => first.stop ≤ second.offset.toNat
  inside : ∀ stripe ∈ footer.stripes,
    magic.length ≤ stripe.offset.toNat ∧ stripe.stop ≤ footer.contentLength.toNat ∧
      stripe.stop < UInt64.size
  streams : ∀ stripe ∈ footer.stripes, ∀ stream ∈ stripe.streams,
    stream.offset.toNat + stream.length.toNat ≤ stripe.length.toNat ∧
      stream.offset.toNat + stream.length.toNat < UInt64.size ∧
      stream.column.toNat < footer.types.columns.length
  counted : (footer.stripes.map (·.rows.toNat)).sum = footer.rowCount.toNat

theorem checked_iff_geometry (footer : Footer) (types : footer.types.Valid) :
    footer.Checked ↔ footer.Geometry := by
  have ordered := StripeInfo.ordered_iff_apart footer.types.columns.length
    footer.contentLength.toNat magic.length footer.stripes
  constructor
  · intro checked
    obtain ⟨apart, each⟩ := ordered.mp checked.ordered
    refine ⟨apart, ?_, ?_, ?_⟩
    · intro stripe member
      obtain ⟨above, below, _⟩ := each stripe member
      have word := footer.contentLength.toNat_lt
      exact ⟨above, below, by rw [UInt64.size]; omega⟩
    · intro stripe member stream below
      have fits := (each stripe member).2.2 stream below
      have word := stripe.length.toNat_lt
      simp only [StreamInfo.fits, Bool.and_eq_true, decide_eq_true_eq] at fits
      exact ⟨fits.2, by rw [UInt64.size]; omega, fits.1⟩
    · rw [← StripeInfo.total_rows_sum, checked.counted]
  · intro geometry
    refine ⟨types, ordered.mpr ⟨geometry.apart, ?_⟩, ?_⟩
    · intro stripe member
      obtain ⟨above, below, _⟩ := geometry.inside stripe member
      refine ⟨above, below, ?_⟩
      intro stream down
      obtain ⟨fits, _, known⟩ := geometry.streams stripe member stream down
      simp only [StreamInfo.fits, Bool.and_eq_true, decide_eq_true_eq]
      exact ⟨known, fits⟩
    · rw [StripeInfo.total_rows_sum, geometry.counted]

theorem stripes_in_range_infix (footer : Footer) (checked : footer.Checked) (offset length : Nat) :
    footer.stripesInRange offset length <:+: footer.stripes := by
  have selected : footer.stripesInRange offset length =
      footer.stripes.filter (StripeInfo.startsWithin offset (rangeStop offset length)) := rfl
  rw [selected]
  by_cases sorted : offset ≤ rangeStop offset length
  · have below : rangeStop offset length ≤ UInt64.size := by
      rw [rangeStop]
      omega
    have all : footer.stripes.filter (StripeInfo.startsWithin 0 UInt64.size) = footer.stripes := by
      rw [List.filter_eq_self]
      intro stripe _
      rw [StripeInfo.starts_within_iff]
      exact ⟨Nat.zero_le _, stripe.offset.toNat_lt⟩
    have front := StripeInfo.filter_adjacent _ _ _ 0 offset UInt64.size footer.stripes checked.ordered
      (Nat.zero_le _) (by omega)
    have back := StripeInfo.filter_adjacent _ _ _ offset (rangeStop offset length) UInt64.size
      footer.stripes checked.ordered sorted below
    rw [all, back] at front
    exact ⟨_, _, by rw [List.append_assoc]; exact front.symm⟩
  · have unselected : footer.stripes.filter
        (StripeInfo.startsWithin offset (rangeStop offset length)) = [] := by
      rw [List.filter_eq_nil_iff]
      intro stripe _
      rw [StripeInfo.starts_within_iff]
      omega
    rw [unselected]
    exact List.nil_infix

end Footer

theorem footer_checks_fix_the_geometry (footer : Footer) (types : footer.types.Valid) :
    (footer.Valid ↔ footer.Geometry) ∧
      (footer.Valid →
        (∀ stripe ∈ footer.stripes, ∀ stream ∈ stripe.streams,
          let start := stripe.offset.toNat + stream.offset.toNat
          (stripe.offset + stream.offset).toNat = start ∧ magic.length ≤ start ∧
            start + stream.length.toNat ≤ footer.contentLength.toNat ∧
            ∀ content : Content, footer.contentLength.toNat ≤ content.length →
              (OpenFile.regular content).bytes start stream.length.toNat =
                .ok (stream.bytesIn content stripe)) ∧
        ∀ offset length, footer.stripesInRange offset length <:+: footer.stripes) := by
  have sound := (Footer.valid_iff_checked footer).trans (footer.checked_iff_geometry types)
  refine ⟨sound, ?_⟩
  intro valid
  refine ⟨?_, footer.stripes_in_range_infix ((Footer.valid_iff_checked footer).mp valid)⟩
  have geometry := sound.mp valid
  intro stripe member stream below start
  obtain ⟨above, ends, word⟩ := geometry.inside stripe member
  obtain ⟨fits, _, _⟩ := geometry.streams stripe member stream below
  rw [StripeInfo.stop] at ends word
  have whole : (stripe.offset + stream.offset).toNat = start := by
    rw [UInt64.toNat_add]
    exact Nat.mod_eq_of_lt (by rw [UInt64.size] at word; omega)
  refine ⟨whole, by omega, by omega, ?_⟩
  intro content long
  exact OpenFile.bytes_inside content start stream.length.toNat (by omega)

theorem gapped_footer_geometry :
    Example.gappedFooter.types.Valid ∧ Example.gappedFooter.Valid ∧ Example.gappedFooter.Geometry ∧
      Example.gappedFooter.stripesInRange 4 100 = [Example.rowStripe] ∧
      [Example.rowStripe] <:+: Example.gappedFooter.stripes := by
  have types : Example.gappedFooter.types.Valid := rfl
  obtain ⟨sound, fixed⟩ := footer_checks_fix_the_geometry Example.gappedFooter types
  have valid : Example.gappedFooter.Valid := rfl
  have selected : Example.gappedFooter.stripesInRange 4 100 = [Example.rowStripe] := rfl
  have run := (fixed valid).2 4 100
  rw [selected] at run
  exact ⟨types, valid, sound.mp valid, selected, run⟩

end Columnar
