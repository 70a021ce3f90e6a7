import Columnar.Footer

set_option autoImplicit false

namespace Columnar

namespace StripeInfo

def Ordered (columns high : Nat) : Nat → List StripeInfo → Prop
  | _, [] => True
  | low, stripe :: rest =>
    low ≤ stripe.offset.toNat ∧ stripe.stop ≤ high ∧
      (∀ stream ∈ stripe.streams, stream.fits columns stripe.length.toNat = true) ∧
      Ordered columns high stripe.stop rest

theorem fault_none_iff (stripe : StripeInfo) (index columns low high : Nat) :
    stripe.fault? index columns low high = none ↔
      low ≤ stripe.offset.toNat ∧ stripe.stop ≤ high ∧
        ∀ stream ∈ stripe.streams, stream.fits columns stripe.length.toNat = true := by
  simp only [fault?]
  by_cases outside : stripe.offset.toNat < low ∨ high < stripe.stop
  · rw [if_pos outside]
    constructor
    · intro clean
      cases clean
    · rintro ⟨above, below, _⟩
      omega
  · rw [if_neg outside]
    have within : low ≤ stripe.offset.toNat ∧ stripe.stop ≤ high := by omega
    have streams : (stripe.streams.find? fun stream => !stream.fits columns stripe.length.toNat) = none ↔
        ∀ stream ∈ stripe.streams, stream.fits columns stripe.length.toNat = true := by
      simp only [List.find?_eq_none, Bool.not_eq_true', Bool.not_eq_false]
    cases found : stripe.streams.find? fun stream => !stream.fits columns stripe.length.toNat with
    | none => simpa [within] using streams.mp found
    | some stream =>
      rw [found] at streams
      constructor
      · intro clean
        cases clean
      · rintro ⟨_, _, fit⟩
        cases streams.mpr fit

theorem first_fault_none_iff (columns high index low : Nat) (stripes : List StripeInfo) :
    firstFault? columns high index low stripes = none ↔ Ordered columns high low stripes := by
  induction stripes generalizing index low with
  | nil => simp [firstFault?, Ordered]
  | cons stripe stripes ih =>
    have first := fault_none_iff stripe index columns low high
    rw [firstFault?, Ordered]
    cases fault : stripe.fault? index columns low high with
    | none =>
      simp only [ih]
      have facts := first.mp fault
      exact ⟨fun rest => ⟨facts.1, facts.2.1, facts.2.2, rest⟩, fun all => all.2.2.2⟩
    | some fault' =>
      rw [fault] at first
      constructor
      · intro clean
        cases clean
      · rintro ⟨above, below, fit, _⟩
        cases first.mpr ⟨above, below, fit⟩

theorem ordered_above (columns high low : Nat) (stripes : List StripeInfo)
    (ordered : Ordered columns high low stripes) (stripe : StripeInfo) (member : stripe ∈ stripes) :
    low ≤ stripe.offset.toNat := by
  induction stripes generalizing low with
  | nil => cases member
  | cons first rest ih =>
    obtain ⟨above, _, _, others⟩ := ordered
    cases member with
    | head => exact above
    | tail _ later =>
      have behind := ih first.stop others later
      rw [stop] at behind
      omega

theorem ordered_inside (columns high low : Nat) (stripes : List StripeInfo)
    (ordered : Ordered columns high low stripes) (stripe : StripeInfo) (member : stripe ∈ stripes) :
    stripe.stop ≤ high ∧
      ∀ stream ∈ stripe.streams, stream.fits columns stripe.length.toNat = true := by
  induction stripes generalizing low with
  | nil => cases member
  | cons first rest ih =>
    obtain ⟨_, below, fit, others⟩ := ordered
    cases member with
    | head => exact ⟨below, fit⟩
    | tail _ later => exact ih first.stop others later

theorem ordered_last (columns high low : Nat) (stripes : List StripeInfo)
    (ordered : Ordered columns high low stripes) (final : StripeInfo)
    (last : stripes.getLast? = some final) (stripe : StripeInfo) (member : stripe ∈ stripes) :
    stripe.offset.toNat ≤ final.offset.toNat := by
  induction stripes generalizing low with
  | nil => cases member
  | cons first rest ih =>
    obtain ⟨_, _, _, others⟩ := ordered
    cases rest with
    | nil =>
      simp only [List.getLast?_singleton, Option.some.injEq] at last
      simp only [List.mem_singleton] at member
      exact Nat.le_of_eq (by rw [member, last])
    | cons second rest =>
      rw [List.getLast?_cons_cons] at last
      cases member with
      | head =>
        have behind := ordered_above columns high stripe.stop _ others final
          (List.mem_of_getLast? last)
        rw [stop] at behind
        omega
      | tail _ later => exact ih first.stop others last later

def startsWithin (start stop : Nat) (stripe : StripeInfo) : Bool :=
  start ≤ stripe.offset.toNat && stripe.offset.toNat < stop

theorem starts_within_iff (start stop : Nat) (stripe : StripeInfo) :
    stripe.startsWithin start stop = true ↔ start ≤ stripe.offset.toNat ∧ stripe.offset.toNat < stop := by
  simp [startsWithin]

theorem late_behind (columns high low middle : Nat) (stripe : StripeInfo) (rest : List StripeInfo)
    (ordered : Ordered columns high low (stripe :: rest)) (late : middle ≤ stripe.offset.toNat)
    (other : StripeInfo) (member : other ∈ stripe :: rest) : middle ≤ other.offset.toNat := by
  cases member with
  | head => exact late
  | tail _ later =>
    have behind := ordered_above columns high stripe.stop rest ordered.2.2.2 other later
    rw [stop] at behind
    omega

theorem filter_adjacent (columns high low start middle stop : Nat) (stripes : List StripeInfo)
    (ordered : Ordered columns high low stripes) (first : start ≤ middle) (second : middle ≤ stop) :
    stripes.filter (startsWithin start stop) =
      stripes.filter (startsWithin start middle) ++ stripes.filter (startsWithin middle stop) := by
  induction stripes generalizing low with
  | nil => rfl
  | cons stripe rest ih =>
    have split := ih stripe.stop ordered.2.2.2
    by_cases early : stripe.offset.toNat < middle
    · have notLate : stripe.startsWithin middle stop = false := by
        rw [Bool.eq_false_iff, ne_eq, starts_within_iff]
        omega
      have same : stripe.startsWithin start stop = stripe.startsWithin start middle := by
        rw [Bool.eq_iff_iff, starts_within_iff, starts_within_iff]
        omega
      simp only [List.filter_cons, same, notLate, split]
      cases stripe.startsWithin start middle <;> simp
    · have late := late_behind columns high low middle stripe rest ordered (Nat.not_lt.mp early)
      have nothing : (stripe :: rest).filter (startsWithin start middle) = [] := by
        rw [List.filter_eq_nil_iff]
        intro other member
        have above := late other member
        rw [starts_within_iff]
        omega
      rw [nothing, List.nil_append]
      apply List.filter_congr
      intro other member
      have above := late other member
      rw [Bool.eq_iff_iff, starts_within_iff, starts_within_iff]
      omega

end StripeInfo

namespace Footer

structure Checked (footer : Footer) : Prop where
  types : footer.types.Valid
  ordered : StripeInfo.Ordered footer.types.columns.length footer.contentLength.toNat magic.length
    footer.stripes
  counted : StripeInfo.totalRows footer.stripes = footer.rowCount.toNat

theorem valid_iff_checked (footer : Footer) : footer.Valid ↔ footer.Checked := by
  have stripes := StripeInfo.first_fault_none_iff footer.types.columns.length
    footer.contentLength.toNat 0 magic.length footer.stripes
  simp only [Valid, check]
  cases types : footer.types.check with
  | error fault =>
    constructor
    · intro valid
      cases valid
    · intro checked
      have sound := checked.types
      rw [TypeTree.Valid, types] at sound
      cases sound
  | ok sound =>
    cases faults : StripeInfo.firstFault? footer.types.columns.length footer.contentLength.toNat 0
        magic.length footer.stripes with
    | some fault =>
      rw [faults] at stripes
      constructor
      · intro valid
        simp at valid
      · intro checked
        cases stripes.mpr checked.ordered
    | none =>
      by_cases counted : StripeInfo.totalRows footer.stripes = footer.rowCount.toNat
      · simp only [if_pos counted, true_iff]
        exact ⟨types, stripes.mp faults, counted⟩
      · simp only [if_neg counted]
        constructor
        · intro valid
          cases valid
        · intro checked
          exact absurd checked.counted counted

theorem stripes_in_range_below (footer : Footer) (start length : Nat)
    (fits : start + length < UInt64.size) :
    footer.stripesInRange start length =
      footer.stripes.filter (StripeInfo.startsWithin start (start + length)) := by
  have ends : rangeStop start length = start + length := by
    rw [rangeStop]
    omega
  rw [stripesInRange, ends]
  rfl

theorem stripes_in_range_eq (footer : Footer) (start stop : UInt64) (sorted : start ≤ stop) :
    footer.stripesInRange start.toNat (stop.toNat - start.toNat) =
      footer.stripes.filter (StripeInfo.startsWithin start.toNat stop.toNat) := by
  have low : start.toNat ≤ stop.toNat := UInt64.le_iff_toNat_le.mp sorted
  have whole : start.toNat + (stop.toNat - start.toNat) = stop.toNat := by omega
  have fits : start.toNat + (stop.toNat - start.toNat) < UInt64.size := by
    rw [whole]
    exact stop.toNat_lt
  rw [stripes_in_range_below footer _ _ fits, whole]

end Footer

end Columnar
