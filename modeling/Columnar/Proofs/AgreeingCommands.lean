import Columnar.Proofs.GeneratedFiles
import Columnar.Proofs.LimitedScan

set_option autoImplicit false

namespace Columnar

namespace Outcome

section

variable {files : FileSystem} {path : Path} {container : Container}

theorem validate_opened (opens : Container.openPath files path = .ok container)
    (listed : Listing.list files [path] = .ok [path]) :
    validate files [path] = ⟨.done, ["valid: 1 file(s)"], [], files⟩ := by
  have sound : allOpen files [path] = true := by
    rw [allOpen, List.all_cons, opens]
    rfl
  have words : "valid: " ++ Text.natText [path].length ++ " file(s)" = "valid: 1 file(s)" := by
    rw [List.length_singleton]
    decide +kernel
  simp only [validate, listed, sound, if_true, words]

theorem validate_nothing (listed : Listing.list files [path] = .ok []) :
    validate files [path] = ⟨.refused, ["invalid: 0 file(s) checked"], [], files⟩ := by
  have words : "invalid: " ++ Text.natText 0 ++ " file(s) checked" = "invalid: 0 file(s) checked" := by
    decide +kernel
  simp only [validate, listed]
  exact congrArg (fun line => (⟨.refused, [line], [], files⟩ : Outcome)) words

theorem scan_done_iff (opens : Container.openPath files path = .ok container) (settings : Settings)
    (ordinals : List Nat) (parsed : settings.ordinals = .ok ordinals) :
    (scan files settings path 0 none none none).ending = .done ↔
      container.ScansClean files settings := by
  obtain ⟨content, accepted⟩ := Container.open_path_accepts files path container opens
  obtain ⟨reader, opened, ready, shows⟩ := scan_of_container opens settings settings none rfl ordinals
    parsed 0 none
  rw [Option.getD_none, Nat.sub_zero] at opened
  rw [(shows none).ending, Scan.upTo, Container.ScansClean, accepted.named, opened]
  have drained := drains_iff (RecordReader.next_foretold files) reader ready
  constructor
  · intro ends
    refine ⟨reader, (reader.ahead files).rows, rfl, (drained _).mpr ?_⟩
    cases fails : (reader.ahead files).failure with
    | none => rw [← fails]
    | some failure =>
      rw [fails] at ends
      cases ends
  · rintro ⟨other, rows, same, drains⟩
    cases same
    rw [← (drained _).mp drains]
    rfl

end

end Outcome

-- A link to the file is opened by its path, but not listed.
theorem commands_agree_on_files (files : FileSystem) (path : Path) (container : Container)
    (opens : Container.openPath files path = .ok container) :
    ((∀ target, files.node path .itself ≠ .ok (.link target)) →
      Outcome.validate files [path] = ⟨.done, ["valid: 1 file(s)"], [], files⟩ ∧
      ∀ (settings : Settings) (ordinals : List Nat) (wanted : Nat),
        settings.ordinals = .ok ordinals → container.length < UInt64.size →
        ((Outcome.scan files settings path 0 none none none).ending = .done ∨
          (Outcome.scan files { settings with readColumns := none } path 0 none none none).ending =
            .done) →
        ∃ splits, SplitPlan.plan files settings [path] wanted = .ok splits ∧
          Outcome.count files settings [path] wanted =
            ⟨.done, [Outcome.countLine container.rowCount 1 splits.length], [], files⟩) ∧
    (∀ target, files.node path .itself = .ok (.link target) →
      Outcome.validate files [path] = ⟨.refused, ["invalid: 0 file(s) checked"], [], files⟩ ∧
      ∀ (settings : Settings) (wanted : Nat),
        Outcome.count files settings [path] wanted =
          ⟨.done, [Outcome.countLine 0 0 0], [], files⟩) := by
  obtain ⟨content, accepted⟩ := Container.open_path_accepts files path container opens
  obtain ⟨id, handle⟩ := FileSystem.open_path_regular files path content accepted.located
  refine ⟨fun unlinked => ?_, fun target linked => ?_⟩
  · obtain here | ⟨target, linked⟩ := FileSystem.node_itself files path id handle
    · have listed := Listing.list_file files path id here
      refine ⟨Outcome.validate_opened opens listed, ?_⟩
      intro settings ordinals wanted parsed small clean
      rw [Outcome.scan_done_iff opens settings ordinals parsed,
        Outcome.scan_done_iff opens { settings with readColumns := none } [] rfl] at clean
      exact Outcome.count_opened opens listed settings ordinals parsed small clean wanted
    · exact absurd linked (unlinked target)
  · have listed := Listing.list_link files path target id linked handle
    exact ⟨Outcome.validate_nothing listed, fun settings wanted =>
      Outcome.count_nothing files settings [path] wanted listed⟩

namespace Example

def linkedBody : FileSystem := ⟨linked.root, [], #[bodyContent gappedBody]⟩

theorem linked_body_handle : linkedBody.openPath "l" = .ok (.file 0) := by
  have leads := @link_leads linkedBody rfl rfl .target (by decide)
  simp only [FileSystem.openPath, FileSystem.node, leads]

theorem linked_body_located : linkedBody.openFile "l" = .ok (.regular (bodyContent gappedBody)) := by
  rw [FileSystem.openFile, linked_body_handle]
  rfl

theorem linked_body_opens :
    Container.openPath linkedBody "l" = .ok { container gappedBody with path := "l" } := by
  rw [Container.open_path_regular _ "l" _ linked_body_located]
  exact Container.opens_assembled "l" (body_assembled gappedBody rfl)

theorem gapped_rows_scanned (files : FileSystem) (path : Path)
    (opens : Container.openPath files path = .ok { container gappedBody with path })
    (located : files.openFile path = .ok (.regular (bodyContent gappedBody))) :
    (Outcome.scan files .standard path 0 none none none).ending = .done := by
  obtain ⟨content, accepted⟩ := Container.open_path_accepts files path _ opens
  have same := accepted.located
  rw [located, Except.ok.injEq, OpenFile.regular.injEq] at same
  subst same
  have small : (container gappedBody).length < UInt64.size := by decide +kernel
  rw [Outcome.scan_done_iff opens .standard [] rfl]
  exact (Container.scans_clean_iff opens accepted small .standard [] rfl .all rfl).mpr
    gapped_stripes_decode

theorem count_line_of_nothing : Outcome.countLine 0 0 0 = "0 rows in 0 file(s), 0 split(s)" := by
  decide +kernel

end Example

theorem row_is_counted_by_its_name :
    Container.openPath (Example.bodyFiles Example.gappedBody) "t" =
        .ok (Example.container Example.gappedBody) ∧
      Outcome.validate (Example.bodyFiles Example.gappedBody) ["t"] =
        ⟨.done, ["valid: 1 file(s)"], [], Example.bodyFiles Example.gappedBody⟩ ∧
      (∃ splits, Outcome.count (Example.bodyFiles Example.gappedBody) .standard ["t"] 3 =
        ⟨.done, [Outcome.countLine 1 1 splits], [], Example.bodyFiles Example.gappedBody⟩) ∧
      Example.linkedBody.node "l" .itself = .ok (.link "t") ∧
      Outcome.count Example.linkedBody .standard ["l"] 3 =
        ⟨.done, ["0 rows in 0 file(s), 0 split(s)"], [], Example.linkedBody⟩ := by
  have opens := Example.body_opens Example.gappedBody rfl
  have node : (Example.bodyFiles Example.gappedBody).node "t" .itself = .ok (.file 0) :=
    FileSystem.node_at_home _ _ "t" 0 .itself rfl rfl rfl (by decide) rfl rfl (by decide) (by decide)
      (by decide)
  have scanned := Example.gapped_rows_scanned _ "t" opens (Example.body_located Example.gappedBody)
  obtain ⟨named, _⟩ := commands_agree_on_files _ "t" _ opens
  obtain ⟨valid, counts⟩ := named (by simp [node])
  obtain ⟨splits, _, counted⟩ := counts .standard [] 3 rfl (by decide +kernel) (.inl scanned)
  have linked : Example.linkedBody.node "l" .itself = .ok (.link "t") := Example.link_itself rfl rfl
  obtain ⟨_, passed⟩ := commands_agree_on_files _ "l" _ Example.linked_body_opens
  have passed := (passed "t" linked).2 .standard 3
  rw [Example.count_line_of_nothing] at passed
  exact ⟨opens, valid, ⟨splits.length, counted⟩, linked, passed⟩

-- The file at the link has a row that is scanned, but it is neither valid nor counted.
theorem link_is_scanned_but_not_counted :
    ∃ container : Container, Container.openPath Example.linkedBody "l" = .ok container ∧
      container.rowCount = 1 ∧
      (Outcome.scan Example.linkedBody .standard "l" 0 none none none).ending = .done ∧
      Outcome.validate Example.linkedBody ["l"] =
        ⟨.refused, ["invalid: 0 file(s) checked"], [], Example.linkedBody⟩ ∧
      Outcome.count Example.linkedBody .standard ["l"] 8 =
        ⟨.done, ["0 rows in 0 file(s), 0 split(s)"], [], Example.linkedBody⟩ := by
  have opens := Example.linked_body_opens
  have listed := Listing.list_link Example.linkedBody "l" "t" 0 (Example.link_itself rfl rfl)
    Example.linked_body_handle
  have counted := Outcome.count_nothing Example.linkedBody .standard ["l"] 8 listed
  rw [Example.count_line_of_nothing] at counted
  exact ⟨_, opens, rfl, Example.gapped_rows_scanned _ "l" opens Example.linked_body_located,
    Outcome.validate_nothing listed, counted⟩

end Columnar
