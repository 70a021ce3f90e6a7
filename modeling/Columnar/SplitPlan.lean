import Columnar.FileSystem
import Columnar.Settings

set_option autoImplicit false

namespace Columnar

structure Split where
  path : Path
  start : Nat
  length : Nat
deriving DecidableEq, Repr

namespace Split

def text (split : Split) : String :=
  split.path.text ++ ":" ++ Text.natText split.start ++ "+" ++ Text.natText split.length

def whole (files : FileSystem) (path : Path) : Except Failure Split :=
  match files.length path with
  | .error fault => .error (.io fault)
  | .ok length => .ok ⟨path, 0, length⟩

end Split

structure SplitSize where
  bytes : Nat
  positive : 0 < bytes

namespace SplitPlan

-- A split may be longer than planned by this factor before another is cut off: 1.1.
def slop : Ieee.Double := .ofBits 0x3FF199999999999A

-- Whether what remains is cut once more; the quotient is that of doubles.
def cutsAgain (remaining size : Nat) : Bool :=
  slop.reading.below
    (Ieee.Double.ofRatio (Ieee.wholeAsDouble remaining) (Ieee.wholeAsDouble size)).reading

theorem difference_less (whole part rest : Nat) (positive : 0 < part)
    (left : difference whole part = .ok rest) : rest < whole := by
  simp only [difference] at left
  by_cases fits : part ≤ whole
  · rw [if_pos fits, Except.ok.injEq] at left
    omega
  · rw [if_neg fits] at left
    cases left

-- The splits of a file from `start` on, where `again` tells whether what remains is cut. Every cut
-- leaves less.
def cut (again : Nat → Nat → Bool) (path : Path) (size : SplitSize) (start remaining : Nat) :
    Except Failure (List Split) :=
  if again remaining size.bytes then
    match _left : difference remaining size.bytes with
    | .error failure => .error failure
    | .ok rest =>
      (cut again path size (start + size.bytes) rest).map (⟨path, start, size.bytes⟩ :: ·)
  else if remaining = 0 then .ok []
  else .ok [⟨path, start, remaining⟩]
termination_by remaining
decreasing_by exact difference_less remaining size.bytes rest size.positive _left

-- The splits of a file; an empty file has one, empty too.
def ofFile (path : Path) (length : Nat) (size : SplitSize) : Except Failure (List Split) :=
  if length = 0 then .ok [⟨path, 0, 0⟩] else cut cutsAgain path size 0 length

def ofFiles (size : SplitSize) : List (Path × Nat) → Except Failure (List Split)
  | [] => .ok []
  | (path, length) :: rest =>
    match ofFile path length size with
    | .error failure => .error failure
    | .ok splits => (ofFiles size rest).map (splits ++ ·)

def lengthOf (files : FileSystem) (path : Path) : Except Failure Nat :=
  match files.openFile path with
  | .error fault => .error (.io fault)
  | .ok .directory => .error (.io (.notAFile path))
  | .ok file => .ok file.length

def lengths (files : FileSystem) : List Path → Except Failure (List (Path × Nat))
  | [] => .ok []
  | path :: rest =>
    match lengthOf files path with
    | .error failure => .error failure
    | .ok length => (lengths files rest).map ((path, length) :: ·)

def totalLength : List (Path × Nat) → Nat
  | [] => 0
  | (_, length) :: rest => length + totalLength rest

def sizeFor (settings : Settings) (share : Nat) : SplitSize where
  bytes := max (min share settings.blockSize) settings.splitFloor
  positive := Nat.lt_of_lt_of_le
    (Nat.lt_of_lt_of_le Nat.one_pos (Nat.le_max_right settings.minSplitSize 1)) (Nat.le_max_right _ _)

def plan (files : FileSystem) (settings : Settings) (paths : List Path) (wanted : Nat) :
    Except Failure (List Split) :=
  match lengths files paths with
  | .error failure => .error failure
  | .ok sized =>
    match evenShare (totalLength sized) (max wanted 1) with
    | .error failure => .error failure
    | .ok share => ofFiles (sizeFor settings share) sized

end SplitPlan

end Columnar
