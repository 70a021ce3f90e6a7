import Columnar.Reading.RowSource

set_option autoImplicit false

namespace Columnar

structure Scan where
  rows : List Row
  failure : Option Failure

namespace Scan

def nothing : Scan := ⟨[], none⟩

def failed (failure : Failure) : Scan := ⟨[], some failure⟩

def behind (rows : List Row) (scan : Scan) : Scan := ⟨rows ++ scan.rows, scan.failure⟩

-- One scan after another. Nothing follows a failure.
def followedBy (first second : Scan) : Scan :=
  match first.failure with
  | none => behind first.rows second
  | some _ => first

def joined (scans : List Scan) : Scan := scans.foldr followedBy nothing

theorem behind_behind (first second : List Row) (scan : Scan) :
    behind first (behind second scan) = behind (first ++ second) scan := by
  simp only [behind, List.append_assoc]

theorem behind_followed_by (rows : List Row) (first second : Scan) :
    (behind rows first).followedBy second = behind rows (first.followedBy second) := by
  obtain ⟨firstRows, failure⟩ := first
  cases failure with
  | none => simp only [followedBy, behind, List.append_assoc]
  | some failure => simp only [followedBy, behind]

theorem joined_failure (scans : List Scan) :
    (joined scans).failure = none ↔ ∀ scan ∈ scans, scan.failure = none := by
  induction scans with
  | nil => simp [joined, nothing]
  | cons scan scans ih =>
    simp only [joined, List.foldr_cons] at ih ⊢
    obtain ⟨rows, failure⟩ := scan
    cases failure with
    | none => simp [followedBy, behind, ih]
    | some failure => simp [followedBy]

theorem joined_rows (scans : List Scan) (clean : ∀ scan ∈ scans, scan.failure = none) :
    (joined scans).rows = (scans.map Scan.rows).flatten := by
  induction scans with
  | nil => rfl
  | cons scan scans ih =>
    have first := clean scan (by simp)
    have others := ih fun other member => clean other (by simp [member])
    simp only [joined] at others
    simp only [joined, List.foldr_cons, followedBy, first, behind, others, List.map_cons,
      List.flatten_cons]

def mapFailure (form : Failure → Failure) (scan : Scan) : Scan := ⟨scan.rows, scan.failure.map form⟩

end Scan

inductive Drains {σ : Type} (next : σ → Row → Polled σ) : σ → Scan → Prop
  | stop (source : σ) (slot : Row) (ends : (next source slot).more = .ok false) :
    Drains next source .nothing
  | fail (source : σ) (slot : Row) (failure : Failure) (fault : (next source slot).more = .error failure) :
    Drains next source (.failed failure)
  | row (source : σ) (slot : Row) (scan : Scan) (more : (next source slot).more = .ok true)
    (rest : Drains next (next source slot).source scan) :
    Drains next source (.behind [(next source slot).slot] scan)

-- Whether a scan tells what each step of a source does, and what is ahead after the step.
def Foretells {σ : Type} (next : σ → Row → Polled σ) (sound : σ → Prop) (ahead : σ → Scan) : Prop :=
  ∀ source slot, sound source →
    ((next source slot).more = .ok false ∧ ahead source = .nothing) ∨
    (∃ failure, (next source slot).more = .error failure ∧ ahead source = .failed failure) ∨
    ((next source slot).more = .ok true ∧ sound (next source slot).source ∧
      ahead source = .behind [(next source slot).slot] (ahead (next source slot).source))

section

variable {σ : Type} {next : σ → Row → Polled σ} {sound : σ → Prop} {ahead : σ → Scan}

theorem drains_only_ahead (foretells : Foretells next sound ahead) (source : σ) (scan : Scan)
    (drains : Drains next source scan) (good : sound source) : scan = ahead source := by
  induction drains with
  | stop source slot ends =>
    obtain ⟨_, same⟩ | ⟨_, fault, _⟩ | ⟨more, _, _⟩ := foretells source slot good
    · exact same.symm
    · rw [ends] at fault
      cases fault
    · rw [ends] at more
      cases more
  | fail source slot failure fault =>
    obtain ⟨ends, _⟩ | ⟨other, otherFault, same⟩ | ⟨more, _, _⟩ := foretells source slot good
    · rw [fault] at ends
      cases ends
    · rw [fault] at otherFault
      cases otherFault
      exact same.symm
    · rw [fault] at more
      cases more
  | row source slot scan more rest ih =>
    obtain ⟨ends, _⟩ | ⟨_, fault, _⟩ | ⟨_, goodAfter, same⟩ := foretells source slot good
    · rw [more] at ends
      cases ends
    · rw [more] at fault
      cases fault
    · rw [same, ih goodAfter]

theorem drains_ahead (foretells : Foretells next sound ahead) (source : σ) (good : sound source) :
    Drains next source (ahead source) := by
  generalize count : (ahead source).rows.length = left
  induction left generalizing source with
  | zero =>
    obtain ⟨ends, same⟩ | ⟨failure, fault, same⟩ | ⟨_, _, same⟩ := foretells source default good
    · rw [same]
      exact .stop source default ends
    · rw [same]
      exact .fail source default failure fault
    · rw [same, Scan.behind] at count
      simp at count
  | succ left ih =>
    obtain ⟨_, same⟩ | ⟨failure, _, same⟩ | ⟨more, goodAfter, same⟩ := foretells source default good
    · rw [same, Scan.nothing] at count
      cases count
    · rw [same, Scan.failed] at count
      cases count
    · rw [same, Scan.behind] at count
      rw [same]
      exact .row source default _ more (ih _ goodAfter (by simpa using count))

theorem drains_iff (foretells : Foretells next sound ahead) (source : σ) (good : sound source)
    (scan : Scan) : Drains next source scan ↔ scan = ahead source := by
  constructor
  · intro drains
    exact drains_only_ahead foretells source scan drains good
  · intro same
    rw [same]
    exact drains_ahead foretells source good

end

end Columnar
