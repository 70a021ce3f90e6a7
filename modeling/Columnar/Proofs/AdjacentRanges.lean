import Columnar.Proofs.RoundTrip

set_option autoImplicit false

namespace Columnar

def Container.Scans (files : FileSystem) (container : Container) (inclusion : Inclusion)
    (start stop : UInt64) (scan : Scan) : Prop :=
  ∃ reader, SplitReader.openRange files container start.toNat (stop.toNat - start.toNat) inclusion =
      .ok reader ∧
    Drains (SplitReader.advanceInto (StripeRows.source files)) reader scan

namespace Container

def scanOf (container : Container) (content : Content) (inclusion : Inclusion)
    (start stop : UInt64) : Scan :=
  StripeRows.scan (.regular content) container.compression (inclusion.topLevel container.types)
    (container.footer.stripesInRange start.toNat (stop.toNat - start.toNat))

theorem scans_iff (files : FileSystem) (path : Path) (container : Container) (content : Content)
    (accepted : Accepted files path container content) (inclusion : Inclusion)
    (start stop : UInt64) (scan : Scan) :
    Scans files container inclusion start stop scan ↔
      scan = scanOf container content inclusion start stop := by
  have located := accepted.located
  rw [← accepted.named] at located
  obtain ⟨reader, opens⟩ := open_range_succeeds accepted start.toNat
    (stop.toNat - start.toNat) inclusion
  have drained := SplitReader.drains_range files container _ _ inclusion _ reader located opens scan
  constructor
  · rintro ⟨other, otherOpens, drains⟩
    rw [opens] at otherOpens
    cases otherOpens
    exact drained.mp drains
  · intro same
    exact ⟨reader, opens, drained.mpr same⟩

section

variable {files : FileSystem} {path : Path} {container : Container} {content : Content}

theorem scan_of_adjacent (accepted : Accepted files path container content) (inclusion : Inclusion)
    (start middle stop : UInt64) (first : start ≤ middle) (second : middle ≤ stop) :
    scanOf container content inclusion start stop =
      (scanOf container content inclusion start middle).followedBy
        (scanOf container content inclusion middle stop) := by
  have checked := (Footer.valid_iff_checked container.footer).mp accepted.valid
  have parts := StripeInfo.filter_adjacent _ _ _ start.toNat middle.toNat stop.toNat
    container.footer.stripes checked.ordered (UInt64.le_iff_toNat_le.mp first)
    (UInt64.le_iff_toNat_le.mp second)
  have whole : start ≤ stop := UInt64.le_trans first second
  simp only [scanOf, Footer.stripes_in_range_eq _ _ _ whole, Footer.stripes_in_range_eq _ _ _ first,
    Footer.stripes_in_range_eq _ _ _ second, parts, StripeRows.scan_append]

theorem scan_of_nothing (container : Container) (content : Content) (inclusion : Inclusion)
    (place : UInt64) : scanOf container content inclusion place place = .nothing := by
  have nothing : container.footer.stripes.filter (StripeInfo.startsWithin place.toNat place.toNat) = [] := by
    rw [List.filter_eq_nil_iff]
    intro stripe _
    rw [StripeInfo.starts_within_iff]
    omega
  rw [scanOf, Footer.stripes_in_range_eq _ _ _ (UInt64.le_refl place), nothing]
  rfl

theorem le_last_cut (first : UInt64) (cuts : List UInt64)
    (sorted : (first :: cuts).Pairwise (· ≤ ·)) : first ≤ (first :: cuts).getLast (by simp) := by
  cases List.mem_cons.mp (List.getLast_mem (List.cons_ne_nil first cuts)) with
  | inl same => exact UInt64.le_of_eq same.symm
  | inr later => exact (List.pairwise_cons.mp sorted).1 _ later

-- The induction is on the cut points: the first range is followed by all that is behind it.
theorem scan_of_cuts (accepted : Accepted files path container content) (inclusion : Inclusion)
    (first : UInt64) (cuts : List UInt64) (sorted : (first :: cuts).Pairwise (· ≤ ·)) :
    Scan.joined (((first :: cuts).zip cuts).map fun range =>
        scanOf container content inclusion range.1 range.2) =
      scanOf container content inclusion first ((first :: cuts).getLast (by simp)) := by
  induction cuts generalizing first with
  | nil => exact (scan_of_nothing container content inclusion first).symm
  | cons second cuts ih =>
    rw [List.pairwise_cons] at sorted
    have step : first ≤ second := sorted.1 second (by simp)
    have rest := le_last_cut second cuts sorted.2
    have others := ih second sorted.2
    simp only [List.zip_cons_cons, List.map_cons, Scan.joined, List.foldr_cons] at others ⊢
    rw [others, List.getLast_cons (List.cons_ne_nil second cuts)]
    exact (scan_of_adjacent accepted inclusion first second _ step rest).symm

theorem scan_of_all_length (accepted : Accepted files path container content) (inclusion : Inclusion)
    (start stop : UInt64) (early : start.toNat ≤ magic.length) (sorted : start ≤ stop)
    (late : ∀ stripe, container.footer.stripes.getLast? = some stripe → stripe.offset < stop)
    (clean : (scanOf container content inclusion start stop).failure = none) :
    (scanOf container content inclusion start stop).rows.length = container.rowCount := by
  have checked := (Footer.valid_iff_checked container.footer).mp accepted.valid
  have all := all_stripes_in_range accepted start stop early sorted late
  simp only [scanOf, all] at clean ⊢
  rw [StripeRows.scan_length _ _ _ _ clean, checked.counted]
  rfl

end

end Container

theorem adjacent_ranges_scan_once (files : FileSystem) (path : Path) (container : Container)
    (opens : Container.openPath files path = .ok container) (inclusion : Inclusion)
    (first : UInt64) (cuts : List UInt64) (sorted : (first :: cuts).Pairwise (· ≤ ·)) :
    ∃ scanned : UInt64 → UInt64 → Scan,
      (∀ start stop scan, container.Scans files inclusion start stop scan ↔ scan = scanned start stop) ∧
      ∀ last pieces whole, last = (first :: cuts).getLast (by simp) →
        pieces = ((first :: cuts).zip cuts).map (fun range => scanned range.1 range.2) →
        whole = scanned first last →
        Scan.joined pieces = whole ∧
        ((∀ piece ∈ pieces, piece.failure = none) ↔ whole.failure = none) ∧
        (whole.failure = none →
          (pieces.map Scan.rows).flatten = whole.rows ∧
          (first ≤ 3 →
            (∀ stripe, container.footer.stripes.getLast? = some stripe → stripe.offset < last) →
            whole.rows.length = container.rowCount)) := by
  obtain ⟨content, accepted⟩ := Container.open_path_accepts files path container opens
  refine ⟨Container.scanOf container content inclusion, ?_, ?_⟩
  · intro start stop scan
    exact Container.scans_iff files path container content accepted inclusion start stop scan
  · intro last pieces whole isLast arePieces isWhole
    have joined : Scan.joined pieces = whole := by
      rw [arePieces, isWhole, isLast]
      exact Container.scan_of_cuts accepted inclusion first cuts sorted
    have clean := Scan.joined_failure pieces
    rw [joined] at clean
    refine ⟨joined, clean.symm, ?_⟩
    intro unfailed
    refine ⟨?_, ?_⟩
    · rw [← Scan.joined_rows pieces (clean.mp unfailed), joined]
    · intro early late
      have start : first.toNat ≤ magic.length := UInt64.le_iff_toNat_le.mp early
      have ends : first ≤ last := by
        rw [isLast]
        exact Container.le_last_cut first cuts sorted
      rw [isWhole] at unfailed ⊢
      exact Container.scan_of_all_length accepted inclusion first last start ends late unfailed

theorem two_ranges_scan_as_one :
    ∃ files container, Container.openPath files "t" = .ok container ∧
      [(0 : UInt64), 20, 1000].Pairwise (· ≤ ·) ∧
      ∃ scanned : UInt64 → UInt64 → Scan,
        (∀ start stop scan, container.Scans files .all start stop scan ↔ scan = scanned start stop) ∧
        (scanned 0 20).followedBy ((scanned 20 1000).followedBy .nothing) = scanned 0 1000 := by
  obtain ⟨files, content, last, chunks, left, _, _⟩ := Example.rows_left
  have opens := Writer.left_opens left
  have sorted : [(0 : UInt64), 20, 1000].Pairwise (· ≤ ·) := by decide
  obtain ⟨scanned, scans, joins⟩ := adjacent_ranges_scan_once files "t" _ opens .all 0 [20, 1000] sorted
  exact ⟨files, _, opens, sorted, scanned, scans, (joins 1000 _ _ rfl rfl rfl).1⟩

end Columnar
