set_option autoImplicit false

namespace Columnar.Zstd

inductive Fault where
  | incomplete
  | unknownFrame
  | unsupported
  | windowTooLarge
  | dictionary
  | corrupted
  | checksum
  | oldEdition
deriving DecidableEq, Repr

def Fault.message : Fault → String
  | .incomplete => "incomplete frame"
  | .unknownFrame => "Unknown frame descriptor"
  | .unsupported => "Unsupported frame parameter"
  | .windowTooLarge => "Frame requires too much memory for decoding"
  | .dictionary => "Dictionary mismatch"
  | .corrupted => "Data corruption detected"
  | .checksum => "Restored data doesn't match checksum"
  | .oldEdition => "Version not supported"

end Columnar.Zstd
