import Columnar.Cbor.Head
import Columnar.Text.Utf8

/-!
Readers: functions that take expected data off the front of CBOR bytes. Tags in front of an item
are ignored, and lengths may be stated or left to a stop code.
-/

set_option autoImplicit false

namespace Columnar.Cbor

abbrev Reader (α : Type) := Bytes → Except Fault (α × Bytes)

namespace Reader

def mapped {α β : Type} (form : α → β) (reader : Reader α) : Reader β := fun bytes =>
  match reader bytes with
  | .error fault => .error fault
  | .ok (content, rest) => .ok (form content, rest)

def checked {α β : Type} (form : α → Option β) (reader : Reader α) : Reader β := fun bytes =>
  match reader bytes with
  | .error fault => .error fault
  | .ok (content, rest) =>
    match form content with
    | none => .error .unexpected
    | some result => .ok (result, rest)

def untagged (bytes : Bytes) : Except Fault (Head × Bytes) :=
  match _read : Head.read bytes with
  | .error fault => .error fault
  | .ok (.tag _, rest) => untagged rest
  | .ok (head, rest) => .ok (head, rest)
termination_by bytes.length
decreasing_by exact Head.length_read _read

-- Texts are read in pieces of this size, and names are no longer than one.
def pieceSize : Nat := 4096

-- What stops the reading of a text whose bytes end too early: a broken character in a complete
-- piece, or the end. The last three bytes of a piece may still start a character.
def shortTextFault : Nat → Bytes → Fault
  | 0, _ => .ended
  | fuel + 1, bytes =>
    let piece := bytes.take pieceSize
    if piece.length < pieceSize then .ended
    else
      let whole := Utf8.wellFormedLength piece
      if whole + 3 < pieceSize then .malformed else shortTextFault fuel (bytes.drop whole)

def textOfLength (length : Nat) : Reader String := fun bytes =>
  let content := bytes.take length
  if content.length < length then .error (shortTextFault (content.length + 1) content)
  else
    match Bytes.toText? content with
    | none => .error .malformed
    | some text => .ok (text, bytes.drop length)

def textSegments : Nat → Nat → List String → Reader (List String)
  | 0, _, _, _ => .error .ended
  | fuel + 1, depth, read, bytes =>
    match Head.read bytes with
    | .error fault => .error fault
    | .ok (.stop, rest) =>
      if depth ≤ 1 then .ok (read.reverse, rest) else textSegments fuel (depth - 1) read rest
    | .ok (.text none, rest) => textSegments fuel (depth + 1) read rest
    | .ok (.text (some length), rest) =>
      match textOfLength length rest with
      | .error fault => .error fault
      | .ok (text, behind) => textSegments fuel depth (text :: read) behind
    | .ok _ => .error .malformed

def textContent : Option Nat → Reader String
  | some length => textOfLength length
  | none => fun bytes =>
    match textSegments (bytes.length + 1) 1 [] bytes with
    | .error fault => .error fault
    | .ok (texts, rest) => .ok (String.join texts, rest)

def bytesOfLength (length : Nat) : Reader Bytes := fun bytes =>
  let content := bytes.take length
  if content.length < length then .error .ended else .ok (content, bytes.drop length)

def bytesSegments : Nat → Nat → List Bytes → Reader (List Bytes)
  | 0, _, _, _ => .error .ended
  | fuel + 1, depth, read, bytes =>
    match Head.read bytes with
    | .error fault => .error fault
    | .ok (.stop, rest) =>
      if depth ≤ 1 then .ok (read.reverse, rest) else bytesSegments fuel (depth - 1) read rest
    | .ok (.bytes none, rest) => bytesSegments fuel (depth + 1) read rest
    | .ok (.bytes (some length), rest) =>
      match bytesOfLength length rest with
      | .error fault => .error fault
      | .ok (content, behind) => bytesSegments fuel depth (content :: read) behind
    | .ok _ => .error .malformed

def bytesContent : Option Nat → Reader Bytes
  | some length => bytesOfLength length
  | none => fun bytes =>
    match bytesSegments (bytes.length + 1) 1 [] bytes with
    | .error fault => .error fault
    | .ok (segments, rest) => .ok (segments.flatten, rest)

def significant (bytes : Bytes) : Except Fault Bytes :=
  let digits := bytes.dropWhile (· == 0)
  if 16 < digits.length then .error .unexpected else .ok digits

-- One segment of such a number, behind the bytes already read. It is read sixteen bytes at a
-- time, and too many significant bytes are noticed before a later end.
def bigSegment (read : Bytes) (length : Nat) : Reader Bytes := fun bytes =>
  let content := bytes.take length
  if content.length < length then
    match significant (read ++ content.take (content.length / 16 * 16)) with
    | .error fault => .error fault
    | .ok _ => .error .ended
  else
    match significant (read ++ content) with
    | .error fault => .error fault
    | .ok digits => .ok (digits, bytes.drop length)

def bigSegments : Nat → Nat → Bytes → Reader Bytes
  | 0, _, _, _ => .error .ended
  | fuel + 1, depth, read, bytes =>
    match Head.read bytes with
    | .error fault => .error fault
    | .ok (.stop, rest) =>
      if depth ≤ 1 then .ok (read, rest) else bigSegments fuel (depth - 1) read rest
    | .ok (.bytes none, rest) => bigSegments fuel (depth + 1) read rest
    | .ok (.bytes (some length), rest) =>
      match bigSegment read length rest with
      | .error fault => .error fault
      | .ok (digits, behind) => bigSegments fuel depth digits behind
    | .ok _ => .error .malformed

def bigNumber : Reader Nat := fun bytes =>
  match Head.read bytes with
  | .error fault => .error fault
  | .ok (.bytes (some length), rest) => mapped Bytes.ofBig (bigSegment [] length) rest
  | .ok (.bytes none, rest) => mapped Bytes.ofBig (bigSegments (rest.length + 1) 1 []) rest
  | .ok _ => .error .unexpected

def integer (bytes : Bytes) : Except Fault (Int × Bytes) :=
  match _read : Head.read bytes with
  | .error fault => .error fault
  | .ok (.unsigned number, rest) => .ok (Int.ofNat number, rest)
  | .ok (.negative number, rest) => .ok (Int.negSucc number, rest)
  | .ok (.tag 2, rest) => mapped Int.ofNat bigNumber rest
  | .ok (.tag 3, rest) => mapped Int.negSucc bigNumber rest
  | .ok (.tag _, rest) => integer rest
  | .ok _ => .error .unexpected
termination_by bytes.length
decreasing_by exact Head.length_read _read

def integerWithin (low high : Int) : Reader Int :=
  checked (fun (number : Int) =>
    if low ≤ number ∧ number ≤ high then some number else none) integer

def naturalBelow (bound : Nat) : Reader Nat :=
  checked (fun (number : Int) =>
    if 0 ≤ number ∧ number < bound then some number.toNat else none) integer

def boolean : Reader Bool := fun bytes =>
  match untagged bytes with
  | .error fault => .error fault
  | .ok (.simple 20, rest) => .ok (false, rest)
  | .ok (.simple 21, rest) => .ok (true, rest)
  | .ok _ => .error .unexpected

def float : Reader Ieee.Double := fun bytes =>
  match untagged bytes with
  | .error fault => .error fault
  | .ok (.float number, rest) => .ok (number, rest)
  | .ok _ => .error .unexpected

def text : Reader String := fun bytes =>
  match untagged bytes with
  | .error fault => .error fault
  | .ok (.text length, rest) => textContent length rest
  | .ok _ => .error .unexpected

def name : Reader Bytes := fun bytes =>
  match untagged bytes with
  | .error fault => .error fault
  | .ok (.text (some length), rest) =>
    if length ≤ pieceSize then mapped Bytes.ofText (textOfLength length) rest
    else .error .unexpected
  | .ok (.bytes (some length), rest) =>
    if length ≤ pieceSize then bytesOfLength length rest else .error .unexpected
  | .ok _ => .error .unexpected

def stop? (bytes : Bytes) : Except Fault (Option Bytes) :=
  match Head.read bytes with
  | .error fault => .error fault
  | .ok (.stop, rest) => .ok (some rest)
  | .ok _ => .ok none

def itemsCounted {α : Type} (item : Reader α) : Nat → List α → Reader (List α)
  | 0, read, bytes => .ok (read.reverse, bytes)
  | count + 1, read, bytes =>
    match item bytes with
    | .error fault => .error fault
    | .ok (content, rest) => itemsCounted item count (content :: read) rest

-- Items up to a stop code. Each takes a byte or more, so `fuel` need not exceed the bytes.
def itemsUntilStop {α : Type} (item : Reader α) : Nat → List α → Reader (List α)
  | 0, _, _ => .error .ended
  | fuel + 1, read, bytes =>
    match stop? bytes with
    | .error fault => .error fault
    | .ok (some rest) => .ok (read.reverse, rest)
    | .ok none =>
      match item bytes with
      | .error fault => .error fault
      | .ok (content, rest) => itemsUntilStop item fuel (content :: read) rest

def items {α : Type} (item : Reader α) : Option Nat → Reader (List α)
  | some count => itemsCounted item count []
  | none => fun bytes => itemsUntilStop item (bytes.length + 1) [] bytes

-- A list: an array whose items `content` reads, or a byte string for which every byte is an
-- item.
def list {α : Type} (ofByte : UInt8 → Option α) (content : Option Nat → Reader (List α)) :
    Reader (List α) := fun bytes =>
  match untagged bytes with
  | .error fault => .error fault
  | .ok (.array count, rest) => content count rest
  | .ok (.bytes length, rest) => checked (fun read => read.mapM ofByte) (bytesContent length) rest
  | .ok _ => .error .unexpected

def listTooDeep {α : Type} (ofByte : UInt8 → Option α) : Reader (List α) :=
  list ofByte fun _ _ => .error .tooDeep

-- The first two items of an array behind its head. Items after them are not looked at.
def pairItems {α : Type} (item : Reader α) (count : Option Nat) : Reader (α × α) := fun bytes =>
  let next (left : Option Nat) (bytes : Bytes) : Except Fault (α × Bytes) :=
    match left with
    | some 0 => .error .unexpected
    | some _ => item bytes
    | none =>
      match stop? bytes with
      | .error fault => .error fault
      | .ok (some _) => .error .unexpected
      | .ok none => item bytes
  match next count bytes with
  | .error fault => .error fault
  | .ok (first, rest) =>
    match next (count.map (· - 1)) rest with
    | .error fault => .error fault
    | .ok (second, behind) => .ok ((first, second), behind)

def pair {α : Type} (content : Option Nat → Reader (α × α)) : Reader (α × α) := fun bytes =>
  match untagged bytes with
  | .error fault => .error fault
  | .ok (.array count, rest) => content count rest
  | .ok (.bytes length, rest) => checked (fun _ => none) (bytesContent length) rest
  | .ok _ => .error .unexpected

def entriesCounted {σ : Type} (entry : σ → Reader σ) : Nat → σ → Reader σ
  | 0, gathered, bytes => .ok (gathered, bytes)
  | count + 1, gathered, bytes =>
    match entry gathered bytes with
    | .error fault => .error fault
    | .ok (more, rest) => entriesCounted entry count more rest

def entriesUntilStop {σ : Type} (entry : σ → Reader σ) : Nat → σ → Reader σ
  | 0, _, _ => .error .ended
  | fuel + 1, gathered, bytes =>
    match stop? bytes with
    | .error fault => .error fault
    | .ok (some rest) => .ok (gathered, rest)
    | .ok none =>
      match entry gathered bytes with
      | .error fault => .error fault
      | .ok (more, rest) => entriesUntilStop entry fuel more rest

def entries {σ : Type} (entry : σ → Reader σ) (gathered : σ) : Option Nat → Reader σ
  | some count => entriesCounted entry count gathered
  | none => fun bytes => entriesUntilStop entry (bytes.length + 1) gathered bytes

def record {σ : Type} (entry : σ → Reader σ) (empty : σ) : Reader σ := fun bytes =>
  match untagged bytes with
  | .error fault => .error fault
  | .ok (.map count, rest) => entries entry empty count rest
  | .ok _ => .error .unexpected

def variantStart (bytes : Bytes) : Except Fault Bytes :=
  match _read : Head.read bytes with
  | .error fault => .error fault
  | .ok (.tag _, rest) => variantStart rest
  | .ok (.map (some 1), rest) => .ok rest
  | .ok (.text _, _) => .ok bytes
  | .ok _ => .error .unexpected
termination_by bytes.length
decreasing_by exact Head.length_read _read

end Reader

end Columnar.Cbor
