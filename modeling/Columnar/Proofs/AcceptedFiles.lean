import Columnar.Proofs.ConfiguredOrdinals
import Columnar.Proofs.Marking
import Columnar.Proofs.Opening
import Columnar.Proofs.ReaderScan
import Columnar.Proofs.StripeDirectory

set_option autoImplicit false

namespace Columnar

namespace Container

variable {files : FileSystem} {path : Path} {container : Container} {content : Content}

theorem open_rows (accepted : Accepted files path container content) (offset length : Nat)
    (inclusion : Inclusion) :
    ∃ handle, files.view handle = .regular content ∧
      StripeRows.openRange files container offset length inclusion =
        .ok ⟨some handle, container.compression, container.footer.stripesInRange offset length,
          inclusion.topLevel container.types, none, 0,
          StripeInfo.totalRows (container.footer.stripesInRange offset length)⟩ := by
  have checked := (Footer.valid_iff_checked container.footer).mp accepted.valid
  have types := checked.types
  have located := accepted.located
  rw [← accepted.named] at located
  simp only [TypeTree.Valid, TypeTree.check] at types
  simp only [FileSystem.openFile] at located
  simp only [StripeRows.openRange, Inclusion.topLevel, TypeTree.columns, TypeTree.columns?,
    Container.types]
  cases root : container.footer.types.root? with
  | none => simp [root] at types
  | some node =>
    cases path : files.openPath container.path with
    | error fault => simp [path, Except.map] at located
    | ok handle =>
      simp only [path, Except.map, Except.ok.injEq] at located
      exact ⟨handle, located, rfl⟩

theorem open_range_succeeds (accepted : Accepted files path container content) (offset length : Nat)
    (inclusion : Inclusion) :
    ∃ reader, SplitReader.openRange files container offset length inclusion = .ok reader := by
  obtain ⟨handle, _, opens⟩ := open_rows accepted offset length inclusion
  exact ⟨_, by rw [SplitReader.openRange, opens]⟩

theorem all_stripes_in_range (accepted : Accepted files path container content) (start stop : UInt64)
    (early : start.toNat ≤ magic.length) (sorted : start ≤ stop)
    (late : ∀ stripe, container.footer.stripes.getLast? = some stripe → stripe.offset < stop) :
    container.footer.stripesInRange start.toNat (stop.toNat - start.toNat) =
      container.footer.stripes := by
  have checked := (Footer.valid_iff_checked container.footer).mp accepted.valid
  rw [Footer.stripes_in_range_eq _ _ _ sorted, List.filter_eq_self]
  intro stripe member
  rw [StripeInfo.starts_within_iff]
  have above := StripeInfo.ordered_above _ _ _ _ checked.ordered stripe member
  cases last : container.footer.stripes.getLast? with
  | none =>
    rw [List.getLast?_eq_none_iff] at last
    simp [last] at member
  | some final =>
    have behind := StripeInfo.ordered_last _ _ _ _ checked.ordered final last stripe member
    have before := UInt64.lt_iff_toNat_lt.mp (late final last)
    omega

end Container

namespace Inclusion

theorem length_top_level (inclusion : Inclusion) (tree : TypeTree) :
    (inclusion.topLevel tree).length = tree.columns.length := by
  rw [topLevel, List.length_map]

theorem top_level_of_all (tree : TypeTree) : ∀ flag ∈ Inclusion.all.topLevel tree, flag = true := by
  intro flag member
  obtain ⟨id, _, same⟩ := List.mem_map.mp member
  exact same.symm

theorem of_no_ordinals (tree : TypeTree) (inclusion : Inclusion)
    (includes : ofProjection tree (Projection.ofOrdinals [] tree) = .ok inclusion) :
    inclusion = .all := by
  simp only [Projection.ofOrdinals, List.isEmpty_nil, if_true, ofProjection, Except.ok.injEq] at includes
  exact includes.symm

end Inclusion

namespace RecordReader

theorem start_of_container {files : FileSystem} {path : Path} {container : Container}
    {content : Content} (accepted : Container.Accepted files path container content)
    {settings : Settings} {start length : Nat} {reader : RecordReader}
    (made : ofContainer files container settings start length = .ok reader) :
    ∃ handle inclusion, files.view handle = .regular content ∧
      reader = ⟨.start ⟨some handle, container.compression,
          container.footer.stripesInRange start length, inclusion.topLevel container.types, none, 0,
          StripeInfo.totalRows (container.footer.stripesInRange start length)⟩
        start length inclusion container.types.columns.length, container.types, container.path⟩ := by
  obtain ⟨inclusion, inner, ranged, same⟩ := range_of_container made
  obtain ⟨handle, shown, opens⟩ := Container.open_rows accepted start length inclusion
  simp only [SplitReader.openRange, opens, Except.ok.injEq] at ranged
  exact ⟨handle, inclusion, shown, by rw [same, ranged]⟩

theorem of_container_opens (files : FileSystem) (path : Path) (container : Container)
    (content : Content) (accepted : Container.Accepted files path container content)
    (settings : Settings) (ordinals : List Nat) (parsed : settings.ordinals = .ok ordinals)
    (start length : Nat) :
    ∃ reader, ofContainer files container settings start length = .ok reader ∧
      Inclusion.ofProjection container.types (Projection.ofOrdinals ordinals container.types) =
        .ok reader.inclusion := by
  have checked := (Footer.valid_iff_checked container.footer).mp accepted.valid
  have numbered := (TypeTree.valid_iff_numbered container.types).mp checked.types
  obtain ⟨inclusion, includes⟩ := Inclusion.of_projection_succeeds numbered
    (Projection.ofOrdinals ordinals container.types)
  obtain ⟨inner, opens⟩ := Container.open_range_succeeds accepted start length inclusion
  have projected := settings.projection_eq container.types
  rw [parsed] at projected
  simp only [Except.map] at projected
  refine ⟨⟨inner, container.types, container.path⟩, ?_, ?_⟩
  · simp only [ofContainer, projected, includes, opens]
  · rw [includes, RecordReader.inclusion, SplitReader.open_range_inclusion _ _ _ _ _ _ opens]

theorem open_split_of_container (files : FileSystem) (path : Path) (container : Container)
    (opens : Container.openPath files path = .ok container) (settings : Settings)
    (start length : Nat) (reader : RecordReader)
    (made : ofContainer files container settings start length = .ok reader) :
    openSplit files settings ⟨path, start, length⟩ = .ok reader := by
  simp only [openSplit, openRange, opens, made]

end RecordReader

end Columnar
