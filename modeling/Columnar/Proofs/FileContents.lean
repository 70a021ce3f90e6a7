import Columnar.Proofs.FileSystem.Created
import Columnar.Proofs.SafeReading

set_option autoImplicit false

namespace Columnar

theorem Ordinals.numbers_failure (pieces : List (List Char)) (failure : Failure)
    (fails : numbers pieces = .error failure) : ∃ fault, failure = .setting settingKey fault := by
  induction pieces with
  | nil => cases fails
  | cons piece rest ih =>
    rw [numbers] at fails
    cases size : Text.size? piece with
    | error cause =>
      simp only [size] at fails
      cases fails
      exact ⟨_, rfl⟩
    | ok number =>
      simp only [size] at fails
      cases others : numbers rest with
      | error other =>
        simp only [others, Except.map] at fails
        cases fails
        exact ih others
      | ok found =>
        simp only [others, Except.map] at fails
        cases fails

theorem Settings.ordinals_failure (settings : Settings) (failure : Failure)
    (fails : settings.ordinals = .error failure) :
    ∃ fault, failure = .setting Ordinals.settingKey fault := by
  rw [ordinals] at fails
  cases asked : settings.readColumns with
  | none =>
    simp only [asked] at fails
    cases fails
  | some text =>
    simp only [asked] at fails
    exact Ordinals.numbers_failure _ failure fails

theorem HeaderProbe.is_ours_iff (content : Content) :
    (ofBytes (content.slice 0 size)).isOurs = true ↔ content.toBytes.take magic.length = magic := by
  have header : (ofBytes (content.slice 0 size)).header = content.toBytes.take size := by
    rw [ofBytes, content.slice_eq, List.drop_zero, List.take_take, Nat.min_self]
  rw [isOurs, header, List.isPrefixOf_iff_prefix, List.prefix_iff_eq_take, List.take_take]
  have short : min magic.length size = magic.length := by decide
  rw [short]
  exact eq_comm

namespace RecordReader

variable {files : FileSystem} {path : Path} {content : Content}

theorem explain_regular (stored : files.openFile path = .ok (.regular content)) (failure : Failure) :
    explain files path failure =
      if content.toBytes.take magic.length = magic then .reading path failure
      else .notThisFormat path (content.toBytes.take HeaderProbe.size) := by
  have probe : HeaderProbe.ofPath files path =
      .ok (.ofBytes (content.slice 0 HeaderProbe.size)) := by
    simp only [HeaderProbe.ofPath, stored, OpenFile.readUpTo]
  have ours := HeaderProbe.is_ours_iff content
  simp only [explain, probe]
  by_cases started : content.toBytes.take magic.length = magic
  · rw [if_pos (ours.mpr started), if_pos started]
  · rw [if_neg (mt ours.mp started), if_neg started]
    rw [HeaderProbe.ofBytes, content.slice_eq, List.drop_zero, List.take_take, Nat.min_self]

theorem open_split_refused (stored : files.openFile path = .ok (.regular content))
    (settings : Settings) (start length : Nat) (failure : Failure)
    (refused : Container.openPath files path = .error failure) :
    failure.isStructural = true ∧
      openSplit files settings ⟨path, start, length⟩ =
        .error (if content.toBytes.take magic.length = magic then .reading path failure
          else .notThisFormat path (content.toBytes.take HeaderProbe.size)) := by
  have structural : failure.isStructural = true := by
    simp only [Container.openPath, stored] at refused
    obtain ⟨other, failed, structural⟩ | ⟨container, opened, _⟩ :=
      Container.of_file_regular path content
    · rw [failed] at refused
      cases refused
      exact structural
    · rw [opened] at refused
      cases refused
  refine ⟨structural, ?_⟩
  simp only [openSplit, openRange, refused, if_pos structural, explain_regular stored failure]

theorem open_split_misconfigured (settings : Settings) (start length : Nat) (container : Container)
    (opened : Container.openPath files path = .ok container) (failure : Failure)
    (misconfigured : settings.ordinals = .error failure) :
    (∃ fault, failure = .setting Ordinals.settingKey fault) ∧
      openSplit files settings ⟨path, start, length⟩ = .error (.reading path failure) := by
  obtain ⟨fault, same⟩ := settings.ordinals_failure failure misconfigured
  refine ⟨⟨fault, same⟩, ?_⟩
  have plain : ¬ failure.isStructural = true := by
    rw [same]
    exact Bool.false_ne_true
  have projected := (settings.projection_fails_alike container.types failure).mpr misconfigured
  simp only [openSplit, openRange, opened, ofContainer, projected, if_neg plain]

theorem open_split_accepted (settings : Settings) (start length : Nat) (container : Container)
    (opened : Container.openPath files path = .ok container) (ordinals : List Nat)
    (parsed : settings.ordinals = .ok ordinals) :
    ∃ reader, openSplit files settings ⟨path, start, length⟩ = .ok reader := by
  obtain ⟨content, accepted⟩ := Container.open_path_accepts files path container opened
  obtain ⟨reader, made, _⟩ := of_container_opens files path container content accepted settings ordinals
    parsed start length
  exact ⟨reader, open_split_of_container files path container opened settings start length reader made⟩

theorem container_of_open_split (settings : Settings) (split : Split) (reader : RecordReader)
    (opens : openSplit files settings split = .ok reader) :
    ∃ container, Container.openPath files split.path = .ok container ∧
      ofContainer files container settings split.start split.length = .ok reader := by
  simp only [openSplit, openRange] at opens
  cases opened : Container.openPath files split.path with
  | error failure =>
    simp only [opened] at opens
    by_cases structural : failure.isStructural = true
    · rw [if_pos structural] at opens
      cases opens
    · rw [if_neg structural] at opens
      cases opens
  | ok container =>
    simp only [opened] at opens
    cases made : ofContainer files container settings split.start split.length with
    | error failure =>
      simp only [made] at opens
      by_cases structural : failure.isStructural = true
      · rw [if_pos structural] at opens
        cases opens
      · rw [if_neg structural] at opens
        cases opens
    | ok other =>
      simp only [made] at opens
      cases opens
      exact ⟨container, rfl, made⟩

-- What opening a reader gives for a file that starts with the magic: the failure that the file
-- itself makes, or else the one that the settings make, or a reader.
def Diagnosed (files : FileSystem) (path : Path) (settings : Settings)
    (opened : Except Failure RecordReader) : Prop :=
  match Container.openPath files path, settings.ordinals with
  | .error cause, _ => cause.isStructural = true ∧ opened = .error (.reading path cause)
  | .ok _, .error cause =>
    (∃ fault, cause = .setting Ordinals.settingKey fault) ∧ opened = .error (.reading path cause)
  | .ok _, .ok _ => ∃ reader, opened = .ok reader

theorem open_split_diagnosed (stored : files.openFile path = .ok (.regular content))
    (started : content.toBytes.take magic.length = magic) (settings : Settings)
    (start length : Nat) :
    Diagnosed files path settings (openSplit files settings ⟨path, start, length⟩) := by
  rw [Diagnosed]
  cases opened : Container.openPath files path with
  | error cause =>
    have refused := open_split_refused stored settings start length cause opened
    rw [if_pos started] at refused
    exact refused
  | ok container =>
    cases parsed : settings.ordinals with
    | error cause =>
      exact open_split_misconfigured settings start length container opened cause parsed
    | ok ordinals => exact open_split_accepted settings start length container opened ordinals parsed

theorem open_split_foreign (stored : files.openFile path = .ok (.regular content))
    (foreign : content.toBytes.take magic.length ≠ magic) (settings : Settings)
    (start length : Nat) :
    openSplit files settings ⟨path, start, length⟩ =
      .error (.notThisFormat path (content.toBytes.take HeaderProbe.size)) := by
  cases opened : Container.openPath files path with
  | error failure =>
    have refused := open_split_refused stored settings start length failure opened
    rw [refused.2, if_neg foreign]
  | ok container =>
    obtain ⟨bytes, accepted⟩ := Container.open_path_accepts files path container opened
    have same := accepted.located
    rw [stored] at same
    cases same
    exact absurd accepted.started foreign

theorem open_split_safe (stored : files.openFile path = .ok (.regular content))
    (settings : Settings) (start length : Nat) (reader : RecordReader)
    (opens : openSplit files settings ⟨path, start, length⟩ = .ok reader) :
    Safe files content ⟨path, start, length⟩ False reader := by
  obtain ⟨container, opened, made⟩ := container_of_open_split settings _ reader opens
  obtain ⟨bytes, accepted⟩ := Container.open_path_accepts files path container opened
  have same := accepted.located
  rw [stored] at same
  cases same
  exact of_container_safe files path container content accepted settings start length reader made

theorem opens_iff_accepted (start length : Nat) :
    (Container.openPath files path).isOk = true ↔
      ∃ reader, openSplit files .standard ⟨path, start, length⟩ = .ok reader := by
  constructor
  · intro accepted
    cases opened : Container.openPath files path with
    | error failure =>
      rw [opened] at accepted
      cases accepted
    | ok container => exact open_split_accepted .standard start length container opened [] rfl
  · rintro ⟨reader, opens⟩
    obtain ⟨container, opened, _⟩ := container_of_open_split .standard _ reader opens
    rw [opened]
    rfl

end RecordReader

namespace Example

def entries : List (Path × FileNode) := [("text", .file 0), ("cut", .file 1)]

def smallFiles : FileSystem :=
  ⟨.directory entries, [], #[.ofBytes [104, 105], .ofBytes magic]⟩

theorem small_file_located (name : Path) (id : Nat) (stands : entries.lookup name = some (.file id))
    (moves : ¬ Path.staysHere name = true) (down : name ≠ "..")
    (short : ¬ Path.nameLimit < name.length) :
    smallFiles.walk .target FileSystem.linkLimit [] smallFiles.root [name] =
      .ok (.found [name] (.file id)) := by
  rw [smallFiles, FileSystem.walk_down moves down (by simp) short]
  simp only [stands]
  rw [FileSystem.walk]
  rfl

end Example

-- Nothing in a regular file makes a reader fail for anything but its structure or the settings.
theorem regular_files_are_classified (files : FileSystem) :
    (∀ path content settings start length, files.openFile path = .ok (.regular content) →
      start + length < UInt64.size →
      let opened := RecordReader.openSplit files settings ⟨path, start, length⟩
      (content.toBytes.take magic.length ≠ magic →
        opened = .error (.notThisFormat path (content.toBytes.take 40))) ∧
      (content.toBytes.take magic.length = magic →
        RecordReader.Diagnosed files path settings opened) ∧
      ∀ reader calls slot, opened = .ok reader →
        (.close ∉ calls → ∀ failure,
          ((reader.after files calls).next files slot).more = .error failure →
            ∃ cause, failure = .reading path cause ∧ cause.isStructural = true) ∧
        (.close ∈ calls → ((reader.after files calls).next files slot).more = .error .closed) ∧
        ((reader.after files calls).close files).1 = .ok () ∧
        start ≤ (reader.after files calls).position ∧
        (reader.after files calls).position < UInt64.size) ∧
    (∀ paths start length, paths ≠ [] →
      (allOpen files paths = true ↔
        ∀ path ∈ paths, ∃ reader,
          RecordReader.openSplit files .standard ⟨path, start, length⟩ = .ok reader)) := by
  refine ⟨?_, ?_⟩
  · intro path content settings start length stored fits
    refine ⟨?_, ?_, ?_⟩
    · intro foreign
      exact RecordReader.open_split_foreign stored foreign settings start length
    · intro started
      exact RecordReader.open_split_diagnosed stored started settings start length
    · intro reader calls slot opens
      have safe := RecordReader.after_safe
        (RecordReader.open_split_safe stored settings start length reader opens) calls
      rw [false_or] at safe
      have outcome := RecordReader.next_outcome safe slot
      have inside := RecordReader.position_inside safe
      refine ⟨outcome.2, outcome.1, (RecordReader.close_safe safe).1, inside.1, ?_⟩
      simp only at inside
      omega
  · intro paths start length filled
    have present : paths.isEmpty = false := by simpa using filled
    simp only [allOpen, present, Bool.not_false, Bool.true_and, List.all_eq_true]
    constructor
    · intro all path member
      exact (RecordReader.opens_iff_accepted start length).mp (all path member)
    · intro all path member
      exact (RecordReader.opens_iff_accepted start length).mpr (all path member)

theorem small_files_are_classified :
    Example.smallFiles.openFile "text" = .ok (.regular (.ofBytes [104, 105])) ∧
      Example.smallFiles.openFile "cut" = .ok (.regular (.ofBytes magic)) ∧
      RecordReader.openSplit Example.smallFiles .standard ⟨"text", 0, 2⟩ =
        .error (.notThisFormat "text" [104, 105]) ∧
      RecordReader.Diagnosed Example.smallFiles "cut" .standard
        (RecordReader.openSplit Example.smallFiles .standard ⟨"cut", 0, 3⟩) ∧
      (allOpen Example.smallFiles ["text"] = true ↔
        ∀ path ∈ (["text"] : List Path), ∃ reader,
          RecordReader.openSplit Example.smallFiles .standard ⟨path, 0, 2⟩ = .ok reader) := by
  have text : Example.smallFiles.openFile "text" = .ok (.regular (.ofBytes [104, 105])) := by
    have located : Example.smallFiles.locate "text" .target = .ok (.found [("text" : Path)] (.file 0)) :=
      Example.small_file_located "text" 0 rfl (by decide) (by decide) (by decide)
    simp only [FileSystem.openFile, FileSystem.openPath, FileSystem.node, located]
    rfl
  have cut : Example.smallFiles.openFile "cut" = .ok (.regular (.ofBytes magic)) := by
    have located : Example.smallFiles.locate "cut" .target = .ok (.found [("cut" : Path)] (.file 1)) :=
      Example.small_file_located "cut" 1 rfl (by decide) (by decide) (by decide)
    simp only [FileSystem.openFile, FileSystem.openPath, FileSystem.node, located]
    rfl
  obtain ⟨classified, validated⟩ := regular_files_are_classified Example.smallFiles
  exact ⟨text, cut, (classified "text" _ .standard 0 2 text (by decide)).1 (by decide),
    (classified "cut" _ .standard 0 3 cut (by decide)).2.1 (by decide), validated ["text"] 0 2 (by simp)⟩

end Columnar
