import Columnar.Proofs.Assembled
import Columnar.Proofs.FileSystem.Created
import Columnar.TypeTree.Flatten

set_option autoImplicit false

namespace Columnar

namespace FileSystem

def single (name : Path) (content : Content) : FileSystem :=
  ⟨.directory [(name, .file 0)], [], #[content]⟩

theorem open_path_single (name : Path) (content : Content) (plain : pathFault? name = none)
    (alone : Path.names name = [name]) (relative : Path.isAbsolute name = false)
    (moves : ¬ Path.staysHere name = true) (down : name ≠ "..")
    (short : ¬ Path.nameLimit < name.length) :
    (single name content).openPath name = .ok (.file 0) := by
  have stands : List.lookup name [(name, FileNode.file 0)] = some (.file 0) := by simp
  have located := node_at_home (single name content) _ name 0 .target rfl rfl stands plain alone relative
    moves down short
  simp only [openPath, located]

end FileSystem

namespace Container

theorem open_path_regular (files : FileSystem) (path : Path) (content : Content)
    (located : files.openFile path = .ok (.regular content)) :
    openPath files path = ofFile path (.regular content) := by
  simp only [openPath, located]

theorem of_file_iff (path : Path) (content : Content) (container : Container) :
    ofFile path (.regular content) = .ok container ↔
      container.path = path ∧ container.length = content.length ∧ ∃ body stored,
        Assembled content.toBytes body stored container.postscript container.footer := by
  constructor
  · intro opened
    obtain ⟨named, sized, _⟩ := of_file_read path container opened
    exact ⟨named, sized, assembled_of_file path container opened⟩
  · rintro ⟨named, sized, body, stored, assembled⟩
    rw [opens_assembled path assembled, ← named, ← sized]

end Container

-- The last part says that every footer with sound stripes can be put behind a body.
theorem opens_iff_assembled (files : FileSystem) (path : Path) (content : Content)
    (located : files.openFile path = .ok (.regular content)) :
    (∀ container, Container.openPath files path = .ok container ↔
      container.path = path ∧ container.length = content.length ∧ ∃ body stored,
        Container.Assembled content.toBytes body stored container.postscript container.footer) ∧
    (∀ body stored postscript footer otherBody otherStored otherPostscript otherFooter,
      Container.Assembled content.toBytes body stored postscript footer →
      Container.Assembled content.toBytes otherBody otherStored otherPostscript otherFooter →
      body = otherBody ∧ stored = otherStored ∧ postscript = otherPostscript ∧
        footer = otherFooter) ∧
    (∀ (body : Bytes) (footer : Footer) (compressor : Compressor) (postscript : Postscript),
      footer.Valid → (compressor.kind = .zstd → footer.toItem.encode.length < UInt64.size) →
      footer.contentLength.toNat = magic.length + body.length →
      postscript.compression = compressor.kind → postscript.version.toNat ≤ 1 →
      postscript.footerLength.toNat = (footer.encode compressor).length →
      postscript.footerHash = Blake3.hash (footer.encode compressor) →
      content.toBytes = magic ++ body ++ footer.encode compressor ++ postscript.trailer →
      Container.openPath files path = .ok ⟨path, content.length, postscript, footer⟩) := by
  rw [Container.open_path_regular files path content located]
  refine ⟨?_, ?_, ?_⟩
  · exact Container.of_file_iff path content
  · intro body stored postscript footer otherBody otherStored otherPostscript otherFooter first second
    exact Container.assembled_once first second
  · intro body footer compressor postscript valid encoded placed compressed known sized hashed whole
    exact Container.opens_assembled path (Container.assembled_of_parts content.toBytes body footer
      compressor postscript valid encoded placed compressed known sized hashed whole)

namespace Example

-- A stripe without rows, a byte that belongs to nothing, and a stripe of one row.
def emptyStripe : StripeInfo := ⟨3, 1, 0, [⟨0, 0, 1, 1⟩]⟩

def rowStripe : StripeInfo := ⟨5, 14, 1, [⟨0, 0, 8, 8⟩, ⟨1, 8, 6, 6⟩]⟩

def gappedBody : Bytes :=
  [0x80, 0xAA, 0x81, 0xA1, 0x64, 0x4C, 0x6F, 0x6E, 0x67, 0x05, 0x81, 0x64, 0x4E, 0x75, 0x6C, 0x6C]

def gappedFooter : Footer :=
  ⟨19, .ofFields [("x", .long), ("y", .long)], [emptyStripe, rowStripe], 1, ⟨0, ""⟩⟩

theorem gapped_footer_valid : gappedFooter.Valid := rfl

def storedFooter : Bytes := gappedFooter.encode plain

theorem stored_footer_small : storedFooter.length < UInt64.size := by decide +kernel

def postscript : Postscript := Container.postscriptOf storedFooter .stored

def assembled (body : Bytes) : Bytes := magic ++ body ++ storedFooter ++ postscript.trailer

def bodyContent (body : Bytes) : Content := .ofBytes (assembled body)

def bodyFiles (body : Bytes) : FileSystem := .single "t" (bodyContent body)

def container (body : Bytes) : Container :=
  ⟨"t", (bodyContent body).length, postscript, gappedFooter⟩

theorem single_handle (content : Content) :
    (FileSystem.single "t" content).openPath "t" = .ok (.file 0) :=
  FileSystem.open_path_single "t" _ (by decide) rfl rfl (by decide) (by decide) (by decide)

theorem single_located (content : Content) :
    (FileSystem.single "t" content).openFile "t" = .ok (.regular content) := by
  rw [FileSystem.openFile, single_handle]
  rfl

theorem body_handle (body : Bytes) : (bodyFiles body).openPath "t" = .ok (.file 0) :=
  single_handle (bodyContent body)

theorem body_located (body : Bytes) :
    (bodyFiles body).openFile "t" = .ok (.regular (bodyContent body)) :=
  single_located (bodyContent body)

theorem stored_assembled (footer : Footer) (body : Bytes) (valid : footer.Valid)
    (small : (footer.encode plain).length < UInt64.size)
    (placed : footer.contentLength.toNat = magic.length + body.length) :
    let stored := footer.encode plain
    let postscript := Container.postscriptOf stored .stored
    Container.Assembled (Content.ofBytes (magic ++ body ++ stored ++ postscript.trailer)).toBytes body
      stored postscript footer := by
  intro stored postscript
  have sized : postscript.footerLength.toNat = stored.length := UInt64.toNat_ofNat_of_lt' small
  have hashed : postscript.footerHash = Blake3.hash stored := by
    simp only [postscript, Container.postscriptOf]
  exact Container.assembled_of_parts _ body footer plain postscript valid (fun zstd => by cases zstd)
    placed rfl (Nat.le_refl 1) sized hashed (Content.bytes_of_bytes _)

theorem body_assembled (body : Bytes) (long : body.length = gappedBody.length) :
    Container.Assembled (bodyContent body).toBytes body storedFooter postscript gappedFooter := by
  have placed : gappedFooter.contentLength.toNat = magic.length + body.length := by
    rw [long]
    decide
  exact stored_assembled gappedFooter body gapped_footer_valid stored_footer_small placed

theorem body_opens (body : Bytes) (long : body.length = gappedBody.length) :
    Container.openPath (bodyFiles body) "t" = .ok (container body) := by
  rw [Container.open_path_regular _ "t" _ (body_located body)]
  exact Container.opens_assembled "t" (body_assembled body long)

end Example

theorem gapped_file_opens :
    (Example.bodyFiles Example.gappedBody).openFile "t" =
        .ok (.regular (Example.bodyContent Example.gappedBody)) ∧
      Container.openPath (Example.bodyFiles Example.gappedBody) "t" =
        .ok (Example.container Example.gappedBody) := by
  have located := Example.body_located Example.gappedBody
  obtain ⟨opens, _, _⟩ := opens_iff_assembled _ "t" _ located
  exact ⟨located, (opens _).mpr ⟨rfl, rfl, Example.gappedBody, Example.storedFooter,
    Example.body_assembled Example.gappedBody rfl⟩⟩

end Columnar
