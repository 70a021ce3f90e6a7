import Columnar.Failure
import Columnar.Zstd.Stream

set_option autoImplicit false

namespace Columnar

namespace Compression

def ofSetting (name : String) : Except Failure Compression :=
  match ofName? name with
  | some kind => .ok kind
  | none => .error (.setting "compression" (.unknownCodec (plainName name)))

def inflate (kind : Compression) (stored : Bytes) : Except Failure Bytes :=
  match kind with
  | .stored => .ok stored
  | .zstd =>
    match Zstd.inflate stored with
    | .error fault => .error (.codec (.zstd fault))
    | .ok raw => .ok raw

def decompress (kind : Compression) (stored : Bytes) (length : Nat) : Except Failure Bytes :=
  match kind.inflate stored with
  | .error failure => .error failure
  | .ok raw =>
    if raw.length = length then .ok raw
    else .error (.codec (.inflatedLength kind raw.length length))

end Compression

-- How the streams and the footer of a file are stored. No level is below the first.
structure Compressor where
  kind : Compression
  level : Int
  encoder : Zstd.Encoder

namespace Compressor

def compress (compressor : Compressor) (raw : Bytes) : Bytes :=
  match compressor.kind with
  | .stored => raw
  | .zstd => compressor.encoder.encode (max compressor.level 1) raw

theorem compress_stored (compressor : Compressor) (stored : compressor.kind = .stored)
    (raw : Bytes) : compressor.compress raw = raw := by
  rw [compress, stored]

-- What is stored as it is has the length of its stored form; of an encoder nothing of the kind holds.
theorem raw_small (compressor : Compressor) (raw : Bytes) {limit : Nat}
    (small : (compressor.compress raw).length < limit)
    (encoded : compressor.kind = .zstd → raw.length < limit) : raw.length < limit := by
  cases kind : compressor.kind with
  | stored => rwa [compressor.compress_stored kind] at small
  | zstd => exact encoded kind

theorem inflate_compress (compressor : Compressor) (raw : Bytes) :
    compressor.kind.inflate (compressor.compress raw) = .ok raw := by
  obtain ⟨kind, level, encoder⟩ := compressor
  cases kind with
  | stored => rfl
  | zstd => simp only [Compression.inflate, compress, encoder.inflates]

theorem decompress_compress (compressor : Compressor) (raw : Bytes) :
    compressor.kind.decompress (compressor.compress raw) raw.length = .ok raw := by
  simp only [Compression.decompress, inflate_compress, if_true]

end Compressor

end Columnar
