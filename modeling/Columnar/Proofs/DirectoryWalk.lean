import Columnar.Listing
import Columnar.Proofs.FileSystem.Plain
import Mathlib.Data.List.Nodup

set_option autoImplicit false

namespace Columnar

namespace Bytes

theorem first_byte (char : Char) :
    ∃ first behind, String.utf8EncodeChar char = first :: behind ∧
      (first.toNat = char.toNat ∨ 128 ≤ first.toNat ∧ 128 ≤ char.toNat) := by
  have value : char.val.toNat = char.toNat := rfl
  rw [String.utf8EncodeChar, value]
  by_cases ascii : char.toNat ≤ 127
  · rw [if_pos ascii]
    exact ⟨_, _, rfl, .inl (UInt8.toNat_ofNat_of_lt' (Nat.lt_of_le_of_lt ascii (by decide)))⟩
  rw [if_neg ascii]
  split
  · exact ⟨_, _, rfl, .inr ⟨by rw [UInt8.toNat_ofNat']; omega, by omega⟩⟩
  split
  · exact ⟨_, _, rfl, .inr ⟨by rw [UInt8.toNat_ofNat']; omega, by omega⟩⟩
  · exact ⟨_, _, rfl, .inr ⟨by rw [UInt8.toNat_ofNat']; omega, by omega⟩⟩

theorem head_of_text_iff (text : String) (mark : Char) (ascii : mark.toNat < 128) :
    (ofText text).head? = some (UInt8.ofNat mark.toNat) ↔ text.toList.head? = some mark := by
  obtain ⟨chars, rfl⟩ : ∃ chars, text = String.ofList chars := ⟨text.toList, String.ofList_toList.symm⟩
  rw [ofText, String.toUTF8, String.toByteArray_ofList, String.toList_ofList]
  cases chars with
  | nil => simp [List.utf8Encode]
  | cons char rest =>
    obtain ⟨first, behind, bytes, place⟩ := first_byte char
    have small : (UInt8.ofNat mark.toNat).toNat = mark.toNat :=
      UInt8.toNat_ofNat_of_lt' (Nat.lt_trans ascii (by decide))
    simp only [List.utf8Encode, List.flatMap_cons, bytes, List.cons_append, List.data_toByteArray,
      List.head?_cons, Option.some.injEq]
    rw [← UInt8.toNat_inj, small, ← Char.toNat_inj]
    omega

theorem of_text_to_text (bytes : Bytes) (text : String) (spelled : toText? bytes = some text) :
    ofText text = bytes := by
  rw [toText?, String.fromUTF8?] at spelled
  split at spelled
  · cases spelled
    simp [ofText, String.toUTF8, String.fromUTF8]
  · cases spelled

end Bytes

namespace Path

-- Whether a name starts with neither a point nor an underscore.
def Visible (name : Path) : Prop :=
  name.bytes.head? ≠ some 0x2E ∧ name.bytes.head? ≠ some 0x5F

instance (name : Path) : Decidable name.Visible :=
  inferInstanceAs (Decidable (name.bytes.head? ≠ some 0x2E ∧ name.bytes.head? ≠ some 0x5F))

def Spelled (name : Path) : Prop := ¬ name.Visible → (Bytes.toText? name.bytes).isSome

theorem spelled_of_text (text : String) : (ofText text).Spelled := by
  intro _
  rw [ofText, Bytes.toText_ofText]
  rfl

end Path

namespace FileNode

-- Whether the names that a walk of a tree comes by are texts where they start with a point or an
-- underscore.
inductive Spelled : FileNode → Prop
  | file (id : Nat) : Spelled (.file id)
  | directory (entries : List (Path × FileNode)) (names : ∀ entry ∈ entries, entry.1.Spelled)
    (below : ∀ entry ∈ entries, entry.1.Visible → Spelled entry.2) : Spelled (.directory entries)
  | link (target : Path) : Spelled (.link target)

def Shows (node : FileNode) (place : List Path) (found : FileNode) : Prop :=
  node.below? place = some found ∧ ∀ name ∈ place, Path.Visible name

def ShowsFile (node : FileNode) (place : List Path) : Prop := ∃ id, node.Shows place (.file id)

def ShowsDirectory (node : FileNode) (place : List Path) : Prop :=
  ∃ entries, node.Shows place (.directory entries)

theorem shows_nil (node found : FileNode) : node.Shows [] found ↔ found = node := by
  simp [Shows, below?, eq_comm]

theorem shows_cons (entries : List (Path × FileNode)) (name : Path) (rest : List Path)
    (found : FileNode) :
    (FileNode.directory entries).Shows (name :: rest) found ↔
      Path.Visible name ∧ ∃ child, entries.lookup name = some child ∧ child.Shows rest found := by
  simp only [Shows, below?, child?, FileNode.entries, List.forall_mem_cons]
  cases entries.lookup name with
  | none => simp
  | some child =>
    simp only [Option.some.injEq, exists_eq_left']
    exact and_left_comm

theorem file_shows (id : Nat) (place : List Path) (found : FileNode) :
    (FileNode.file id).Shows place found ↔ place = [] ∧ found = .file id := by
  cases place with
  | nil => simp [shows_nil]
  | cons name rest => simp [Shows, below?, child?, FileNode.entries]

theorem shows_key (entries : List (Path × FileNode)) (name : Path) (rest : List Path)
    (found : FileNode) (shows : (FileNode.directory entries).Shows (name :: rest) found) :
    name ∈ entries.map Prod.fst := by
  obtain ⟨_, child, looked, _⟩ := (shows_cons _ _ _ _).mp shows
  exact List.mem_map_of_mem (mem_of_lookup looked)

theorem shows_behind (name : Path) (node : FileNode) (rest : List (Path × FileNode))
    (fresh : name ∉ rest.map Prod.fst) (first : Path) (place : List Path) (found : FileNode) :
    (FileNode.directory ((name, node) :: rest)).Shows (first :: place) found ↔
      (first = name ∧ Path.Visible name ∧ node.Shows place found) ∨
        (FileNode.directory rest).Shows (first :: place) found := by
  by_cases same : first = name
  · subst same
    have unseen : ¬ (FileNode.directory rest).Shows (first :: place) found :=
      fun shows => fresh (shows_key _ _ _ _ shows)
    simp [shows_cons, unseen]
  · simp [shows_cons, List.lookup_cons, same, beq_false_of_ne same]

end FileNode

namespace Listing

theorem hidden_iff (name : Path) (spelled : name.Spelled) :
    isHidden name = false ↔ name.Visible := by
  rw [isHidden]
  cases read : Bytes.toText? name.bytes with
  | none =>
    refine iff_of_true rfl (by_contra fun unseen => ?_)
    have spells := spelled unseen
    rw [read] at spells
    cases spells
  | some text =>
    have same := Bytes.of_text_to_text name.bytes text read
    have point : name.bytes.head? = some 0x2E ↔ text.toList.head? = some '.' := by
      rw [← same]
      exact Bytes.head_of_text_iff text '.' (by decide)
    have underscore : name.bytes.head? = some 0x5F ↔ text.toList.head? = some '_' := by
      rw [← same]
      exact Bytes.head_of_text_iff text '_' (by decide)
    simp only [Path.Visible, Ne, point, underscore]
    cases text.toList.head? <;> simp

-- A name that is no text is shown, whatever it starts with.
example : isHidden ⟨[0x2E, 0xFF]⟩ = false := by decide

-- What a walk of a node gives: the paths of the files that show in it, each once, or the path of a
-- directory that shows, a path too long to be read.
inductive Gathers (path : Path) (node : FileNode) : Except IoFault (List Path) → Prop
  | found (places : List (List Path)) (apart : places.Nodup)
    (exact : ∀ place, place ∈ places ↔ node.ShowsFile place)
    (short : ∀ place, node.ShowsDirectory place →
      (Path.below path place).length < Path.lengthLimit) :
    Gathers path node (.ok (places.map (Path.below path)))
  | long (place : List Path) (reads : node.ShowsDirectory place)
    (long : Path.lengthLimit ≤ (Path.below path place).length) :
    Gathers path node (.error (.walking (Path.below path place) .nameTooLong))

section

variable {path name : Path} {node : FileNode} {rest : List (Path × FileNode)}

theorem gathers_nil (short : path.length < Path.lengthLimit) :
    Gathers path (.directory []) (.ok []) := by
  refine .found [] List.nodup_nil (fun place => ?_) (fun place => ?_)
  · cases place with
    | nil => simp [FileNode.ShowsFile, FileNode.shows_nil]
    | cons first more => simp [FileNode.ShowsFile, FileNode.shows_cons]
  · cases place with
    | nil => exact fun _ => short
    | cons first more => simp [FileNode.ShowsDirectory, FileNode.shows_cons]

theorem gathers_hidden (hidden : ¬ Path.Visible name) (fresh : name ∉ rest.map Prod.fst)
    (result : Except IoFault (List Path)) (others : Gathers path (.directory rest) result) :
    Gathers path (.directory ((name, node) :: rest)) result := by
  have files (place : List Path) :
      (FileNode.directory ((name, node) :: rest)).ShowsFile place ↔
        (FileNode.directory rest).ShowsFile place := by
    cases place with
    | nil => simp [FileNode.ShowsFile, FileNode.shows_nil]
    | cons first more => simp [FileNode.ShowsFile, FileNode.shows_behind name node rest fresh, hidden]
  have directories (place : List Path) :
      (FileNode.directory ((name, node) :: rest)).ShowsDirectory place ↔
        (FileNode.directory rest).ShowsDirectory place := by
    cases place with
    | nil => simp [FileNode.ShowsDirectory, FileNode.shows_nil]
    | cons first more =>
      simp [FileNode.ShowsDirectory, FileNode.shows_behind name node rest fresh, hidden]
  cases others with
  | found places apart exact short =>
    exact .found places apart (fun place => (exact place).trans (files place).symm)
      (fun place reads => short place ((directories place).mp reads))
  | long place reads long => exact .long place ((directories place).mpr reads) long

theorem gathers_visible (visible : Path.Visible name) (fresh : name ∉ rest.map Prod.fst)
    (short : path.length < Path.lengthLimit) (result more : Except IoFault (List Path))
    (inside : Gathers (Path.join path name) node result) (others : Gathers path (.directory rest) more) :
    Gathers path (.directory ((name, node) :: rest))
      (result.bind fun found => more.map (found ++ ·)) := by
  have behind := FileNode.shows_behind name node rest fresh
  cases inside with
  | long place reads long =>
    obtain ⟨entries, shows⟩ := reads
    exact .long (name :: place) ⟨entries, (behind _ _ _).mpr (.inl ⟨rfl, visible, shows⟩)⟩ long
  | found places apart exact shorter =>
    cases others with
    | long place reads long =>
      cases place with
      | nil => exact absurd long (Nat.not_le_of_lt short)
      | cons first place =>
        obtain ⟨entries, shows⟩ := reads
        exact .long (first :: place) ⟨entries, (behind _ _ _).mpr (.inr shows)⟩ long
    | found others otherApart otherExact otherShort =>
      have paths : places.map (Path.below (Path.join path name)) ++ others.map (Path.below path) =
          (places.map (name :: ·) ++ others).map (Path.below path) := by
        rw [List.map_append, List.map_map]
        rfl
      simp only [Except.bind, Except.map, paths]
      refine .found _ ?_ (fun place => ?_) (fun place reads => ?_)
      · refine List.nodup_append'.mpr ⟨apart.map List.cons_injective, otherApart, ?_⟩
        intro place here there
        obtain ⟨below, _, same⟩ := List.mem_map.mp here
        subst same
        obtain ⟨id, shows⟩ := (otherExact _).mp there
        exact fresh (FileNode.shows_key _ _ _ _ shows)
      · rw [List.mem_append, List.mem_map, otherExact]
        cases place with
        | nil => simp [FileNode.ShowsFile, FileNode.shows_nil]
        | cons first place =>
          simp only [List.cons.injEq, exact, FileNode.ShowsFile, behind, visible, true_and, exists_or,
            exists_and_left]
          constructor
          · rintro (⟨below, shows, same, rfl⟩ | shows)
            · exact .inl ⟨same.symm, shows⟩
            · exact .inr shows
          · rintro (⟨same, shows⟩ | shows)
            · exact .inl ⟨place, shows, same.symm, rfl⟩
            · exact .inr shows
      · obtain ⟨entries, shows⟩ := reads
        cases place with
        | nil => exact short
        | cons first place =>
          obtain ⟨rfl, _, inside⟩ | before := (behind _ _ _).mp shows
          · exact shorter place ⟨entries, inside⟩
          · exact otherShort (first :: place) ⟨entries, before⟩

theorem gathers_files_in (short : path.length < Path.lengthLimit)
    (entries : List (Path × FileNode)) (apart : (entries.map Prod.fst).Nodup)
    (spelled : ∀ entry ∈ entries, entry.1.Spelled)
    (each : ∀ entry ∈ entries, entry.1.Visible →
      ∀ path, Gathers path entry.2 (filesAt path entry.2)) :
    Gathers path (.directory entries) (filesIn path entries) := by
  induction entries with
  | nil => exact gathers_nil short
  | cons entry rest ih =>
    obtain ⟨name, node⟩ := entry
    obtain ⟨fresh, apart⟩ := List.nodup_cons.mp apart
    obtain ⟨here, spelled⟩ := List.forall_mem_cons.mp spelled
    obtain ⟨first, others⟩ := List.forall_mem_cons.mp each
    have behind := ih apart spelled others
    rw [filesIn]
    cases hidden : isHidden name with
    | true =>
      have unseen : ¬ Path.Visible name := by simp [← hidden_iff name here, hidden]
      exact gathers_hidden unseen fresh _ behind
    | false =>
      have visible := (hidden_iff name here).mp hidden
      have gathers := gathers_visible visible fresh short _ _ (first visible (Path.join path name)) behind
      cases found : filesAt (Path.join path name) node <;>
        simpa only [found, Except.bind, Bool.false_eq_true, if_false] using gathers

end

theorem gathers_files_at (node : FileNode) (plain : node.Plain) (spelled : node.Spelled) (path : Path) :
    Gathers path node (filesAt path node) := by
  induction plain generalizing path with
  | file id =>
    rw [filesAt]
    refine .found [[]] (List.nodup_singleton []) (fun place => ?_) (fun place reads => ?_)
    · simp [FileNode.ShowsFile, FileNode.file_shows]
    · simp [FileNode.ShowsDirectory, FileNode.file_shows] at reads
  | directory entries apart proper below each =>
    rw [filesAt]
    by_cases long : Path.lengthLimit ≤ path.length
    · rw [if_pos long]
      exact .long [] ⟨entries, (FileNode.shows_nil ..).mpr rfl⟩ long
    · rw [if_neg long]
      cases spelled with
      | directory _ names inside =>
        exact gathers_files_in (Nat.lt_of_not_le long) entries apart names fun entry member visible path =>
          each entry member (inside entry member visible) path

end Listing

end Columnar
