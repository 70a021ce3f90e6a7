import Columnar.Proofs.SafeReading

set_option autoImplicit false

namespace Columnar

def StreamInfo.bytesIn (content : Content) (stripe : StripeInfo) (stream : StreamInfo) : Bytes :=
  (content.toBytes.drop (stripe.offset.toNat + stream.offset.toNat)).take stream.length.toNat

namespace StripeInfo

def Shows (file : OpenFile) (content : Content) (included : List Bool) (stripe : StripeInfo) : Prop :=
  ∀ stream ∈ stripe.streams, included[stream.column.toNat]? = some true →
    file.bytes (stripe.offset.toNat + stream.offset.toNat) stream.length.toNat =
      .ok (stream.bytesIn content stripe)

end StripeInfo

namespace StripeRows

variable {content : Content} {included : List Bool} {stripe : StripeInfo}

theorem shows_within {columns : Nat} (within : Within content columns stripe)
    (included : List Bool) : stripe.Shows (.regular content) content included := by
  intro stream member _
  have fits := within.streams stream member
  have inside := within.stop
  rw [StripeInfo.stop] at inside
  simp only [StreamInfo.fits, Bool.and_eq_true, decide_eq_true_eq] at fits
  exact OpenFile.bytes_inside content _ _ (by omega)

variable {file other : OpenFile} {compression : Compression}

theorem read_streams_shown (streams : List StreamInfo) (columns : List (Option (List Value)))
    (same : ∀ stream ∈ streams, included[stream.column.toNat]? = some true →
      file.bytes (stripe.offset.toNat + stream.offset.toNat) stream.length.toNat =
        other.bytes (stripe.offset.toNat + stream.offset.toNat) stream.length.toNat) :
    readStreams file compression stripe included streams columns =
      readStreams other compression stripe included streams columns := by
  induction streams generalizing columns with
  | nil => rfl
  | cons stream streams ih =>
    have others := fun columns => ih columns fun one member => same one (by simp [member])
    rw [readStreams, readStreams]
    cases wanted : included[stream.column.toNat]? with
    | none => rfl
    | some flag =>
      cases flag with
      | false => exact others columns
      | true =>
        have read : readStream file compression stripe stream =
            readStream other compression stripe stream := by
          rw [readStream, readStream, same stream (by simp) wanted]
        simp only [read, others]

theorem load_shown (first : stripe.Shows file content included)
    (second : stripe.Shows other content included) :
    load file compression included stripe = load other compression included stripe := by
  rw [load, load, read_streams_shown stripe.streams _ fun stream member wanted =>
    (first stream member wanted).trans (second stream member wanted).symm]

end StripeRows

end Columnar
