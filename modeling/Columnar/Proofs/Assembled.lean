import Columnar.Proofs.FooterCodec
import Columnar.Proofs.PostscriptCodec
import Columnar.Zstd.StoredFrames

set_option autoImplicit false

namespace Columnar

namespace Container

-- How a file is put together. The footer tells where the body ends.
structure Assembled (bytes body stored : Bytes) (postscript : Postscript) (footer : Footer) :
    Prop where
  bytes : bytes = magic ++ body ++ stored ++ postscript.trailer
  known : postscript.version.toNat ≤ Postscript.currentVersion
  sized : postscript.footerLength.toNat = stored.length
  hashed : postscript.footerHash = Blake3.hash stored
  decoded : Footer.decode stored postscript.compression = .ok footer
  placed : footer.contentLength.toNat = magic.length + body.length

def postscriptOf (stored : Bytes) (kind : Compression) : Postscript :=
  ⟨UInt64.ofNat stored.length, kind, 1, Blake3.hash stored, Blake3.length_hash stored⟩

section

variable {content : Content} {front : Bytes} {postscript : Postscript} {footer : Footer}

theorem footer_start_before (bytes : content.toBytes = front ++ postscript.trailer)
    (room : magic.length + postscript.footerLength.toNat ≤ front.length) :
    footerStart content.length postscript =
      .ok (front.length - postscript.footerLength.toNat) := by
  have total : content.length = front.length + (Postscript.size + 1) := by
    rw [← content.length_toBytes, bytes, List.length_append, Postscript.length_trailer]
  simp only [footerStart, difference_of_le content.length (Postscript.size + 1) (by omega),
    difference_of_le (content.length - (Postscript.size + 1)) magic.length (by omega)]
  rw [if_neg (by omega), difference_of_le _ _ (by omega), Except.ok.injEq]
  omega

theorem footer_start_crowded (bytes : content.toBytes = front ++ postscript.trailer)
    (long : magic.length ≤ front.length)
    (crowded : front.length < magic.length + postscript.footerLength.toNat) :
    ∃ fault, footerStart content.length postscript = .error (.format fault) := by
  have total : content.length = front.length + (Postscript.size + 1) := by
    rw [← content.length_toBytes, bytes, List.length_append, Postscript.length_trailer]
  simp only [footerStart, difference_of_le content.length (Postscript.size + 1) (by omega),
    difference_of_le (content.length - (Postscript.size + 1)) magic.length (by omega)]
  rw [if_pos (by omega)]
  exact ⟨_, rfl⟩

-- The footer is what stands right before the postscript, as long as that says.
theorem read_footer_before (start stored : Bytes)
    (bytes : content.toBytes = start ++ stored ++ postscript.trailer)
    (long : magic.length ≤ start.length)
    (sized : postscript.footerLength.toNat = stored.length) :
    readFooter (.regular content) content.length postscript = .ok footer ↔
      postscript.footerHash = Blake3.hash stored ∧
        Footer.decode stored postscript.compression = .ok footer ∧
        footer.contentLength.toNat = start.length := by
  have total : content.length = start.length + stored.length + (Postscript.size + 1) := by
    rw [← content.length_toBytes, bytes, List.length_append, List.length_append,
      Postscript.length_trailer]
  have found : footerStart content.length postscript = .ok start.length := by
    rw [footer_start_before bytes (by rw [List.length_append]; omega), List.length_append, sized,
      Nat.add_sub_cancel]
  have read : (OpenFile.regular content).bytes start.length stored.length = .ok stored := by
    rw [OpenFile.bytes_inside content start.length stored.length (by omega), bytes,
      List.append_assoc, List.drop_left' rfl, List.take_left' rfl]
  simp only [readFooter, found, sized, read]
  by_cases hashed : Blake3.hash stored = postscript.footerHash
  · rw [if_neg (Decidable.not_not.mpr hashed)]
    cases decoded : Footer.decode stored postscript.compression with
    | error failure => simp
    | ok other =>
      by_cases placed : other.contentLength.toNat = start.length
      · simp only [if_pos placed, hashed, Except.ok.injEq, true_and]
        constructor
        · intro same
          exact ⟨same, same ▸ placed⟩
        · exact And.left
      · simp only [if_neg placed, reduceCtorEq, Except.ok.injEq, false_iff]
        rintro ⟨_, same, there⟩
        exact placed (same ▸ there)
  · rw [if_pos hashed]
    simp [Ne.symm hashed]

theorem read_footer_splits (bytes : content.toBytes = front ++ postscript.trailer)
    (long : magic.length ≤ front.length)
    (read : readFooter (.regular content) content.length postscript = .ok footer) :
    ∃ start stored, front = start ++ stored ∧ magic.length ≤ start.length ∧
      postscript.footerLength.toNat = stored.length := by
  by_cases room : magic.length + postscript.footerLength.toNat ≤ front.length
  · refine ⟨front.take (front.length - postscript.footerLength.toNat), front.drop _,
      (List.take_append_drop _ _).symm, ?_, ?_⟩
    · rw [List.length_take]
      omega
    · rw [List.length_drop]
      omega
  · obtain ⟨fault, failed⟩ := footer_start_crowded bytes long (Nat.lt_of_not_le room)
    simp only [readFooter, failed] at read
    cases read

end

section

variable {content : Content} {body stored : Bytes} {postscript : Postscript} {footer : Footer}

theorem of_file_reads (path : Path) (postscript : Postscript) (footer : Footer)
    (read : Postscript.ofFile (.regular content) content.length = .ok postscript)
    (started : content.toBytes.take magic.length = magic)
    (directory : readFooter (.regular content) content.length postscript = .ok footer) :
    ofFile path (.regular content) = .ok ⟨path, content.length, postscript, footer⟩ := by
  have sized : (OpenFile.regular content).length = content.length := rfl
  have long : magic.length ≤ content.length := by
    have taken := congrArg List.length started
    rw [List.length_take, content.length_toBytes] at taken
    omega
  have header : (OpenFile.regular content).bytes 0 magic.length = .ok magic := by
    rw [OpenFile.bytes_inside content 0 magic.length (by omega), List.drop_zero, started]
  simp only [ofFile, sized, read, header, directory, ne_eq, not_true_eq_false, if_false]

theorem of_file_read (path : Path) (container : Container)
    (opened : ofFile path (.regular content) = .ok container) :
    container.path = path ∧ container.length = content.length ∧
      Postscript.ofFile (.regular content) content.length = .ok container.postscript ∧
      content.toBytes.take magic.length = magic ∧
      readFooter (.regular content) content.length container.postscript = .ok container.footer := by
  have sized : (OpenFile.regular content).length = content.length := rfl
  have started : content.toBytes.take magic.length = magic := by
    obtain ⟨failure, failed, _⟩ | ⟨_, _, _, _, _, started⟩ := of_file_regular path content
    · rw [failed] at opened
      cases opened
    · exact started
  simp only [ofFile, sized] at opened
  cases read : Postscript.ofFile (.regular content) content.length with
  | error failure => simp [read] at opened
  | ok postscript =>
    simp only [read] at opened
    cases header : (OpenFile.regular content).bytes 0 magic.length with
    | error failure => simp [header] at opened
    | ok start =>
      simp only [header] at opened
      by_cases other : start ≠ magic
      · rw [if_pos other] at opened
        cases opened
      · rw [if_neg other] at opened
        cases directory : readFooter (.regular content) content.length postscript with
        | error failure => simp [directory] at opened
        | ok footer =>
          simp only [directory, Except.ok.injEq] at opened
          rw [← opened]
          exact ⟨rfl, rfl, rfl, started, directory⟩

theorem opens_assembled (path : Path)
    (assembled : Assembled content.toBytes body stored postscript footer) :
    ofFile path (.regular content) = .ok ⟨path, content.length, postscript, footer⟩ := by
  obtain ⟨bytes, known, sized, hashed, decoded, placed⟩ := assembled
  have long : magic.length ≤ (magic ++ body).length := by
    rw [List.length_append]
    omega
  refine of_file_reads path postscript footer ?_ ?_ ?_
  · refine Postscript.of_file_iff.mpr ⟨magic ++ body ++ stored, bytes, ?_, known⟩
    rw [List.length_append]
    omega
  · rw [bytes, List.append_assoc, List.append_assoc, List.take_left' rfl]
  · exact (read_footer_before (magic ++ body) stored bytes long sized).mpr
      ⟨hashed, decoded, by rw [placed, List.length_append]⟩

theorem assembled_of_file (path : Path) (container : Container)
    (opened : ofFile path (.regular content) = .ok container) :
    ∃ body stored,
      Assembled content.toBytes body stored container.postscript container.footer := by
  obtain ⟨_, _, read, started, directory⟩ := of_file_read path container opened
  obtain ⟨front, bytes, room, known⟩ := Postscript.of_file_iff.mp read
  obtain ⟨start, stored, same, long, sized⟩ := read_footer_splits bytes room directory
  rw [same] at bytes
  obtain ⟨hashed, decoded, placed⟩ := (read_footer_before start stored bytes long sized).mp directory
  have head : start = magic ++ start.drop magic.length := by
    have taken : start.take magic.length = magic := by
      rw [bytes, List.append_assoc, List.take_append_of_le_length long] at started
      exact started
    conv => lhs; rw [← List.take_append_drop magic.length start, taken]
  refine ⟨start.drop magic.length, stored, ?_, known, sized, hashed, decoded, ?_⟩
  · rw [← head]
    exact bytes
  · rw [placed, List.length_drop]
    omega

-- From the end on, each part tells where the one before it ends.
theorem assembled_once {bytes otherBody otherStored : Bytes} {otherPostscript : Postscript}
    {otherFooter : Footer} (first : Assembled bytes body stored postscript footer)
    (second : Assembled bytes otherBody otherStored otherPostscript otherFooter) :
    body = otherBody ∧ stored = otherStored ∧ postscript = otherPostscript ∧
      footer = otherFooter := by
  have whole := first.bytes.symm.trans second.bytes
  obtain ⟨fronts, trailers⟩ := List.append_inj' whole
    (by rw [Postscript.length_trailer, Postscript.length_trailer])
  have postscripts := Postscript.trailer_injective _ _ first.known second.known trailers
  subst postscripts
  obtain ⟨starts, footers⟩ := List.append_inj' fronts (by rw [← first.sized, second.sized])
  have bodies := List.append_cancel_left starts
  subst bodies footers
  have decoded := first.decoded
  rw [second.decoded, Except.ok.injEq] at decoded
  exact ⟨rfl, rfl, rfl, decoded.symm⟩

theorem assembled_of_parts (bytes body : Bytes) (footer : Footer) (compressor : Compressor)
    (postscript : Postscript) (valid : footer.Valid)
    (encoded : compressor.kind = .zstd → footer.toItem.encode.length < UInt64.size)
    (placed : footer.contentLength.toNat = magic.length + body.length)
    (compressed : postscript.compression = compressor.kind)
    (known : postscript.version.toNat ≤ Postscript.currentVersion)
    (sized : postscript.footerLength.toNat = (footer.encode compressor).length)
    (hashed : postscript.footerHash = Blake3.hash (footer.encode compressor))
    (whole : bytes = magic ++ body ++ footer.encode compressor ++ postscript.trailer) :
    Assembled bytes body (footer.encode compressor) postscript footer := by
  have small : footer.toItem.encode.length < UInt64.size :=
    compressor.raw_small _ (sized ▸ postscript.footerLength.toNat_lt) encoded
  refine ⟨whole, known, sized, hashed, ?_, placed⟩
  rw [compressed]
  exact footer.decode_encode compressor small valid

theorem of_file_assembled (path : Path) (footer : Footer) (compressor : Compressor)
    (bytes : content.toBytes = body ++
      (footer.encode compressor ++ (postscriptOf (footer.encode compressor) compressor.kind).trailer))
    (started : body.take magic.length = magic) (valid : footer.Valid)
    (encoded : compressor.kind = .zstd → footer.toItem.encode.length < UInt64.size)
    (placed : footer.contentLength.toNat = body.length) (small : content.length < UInt64.size) :
    ofFile path (.regular content) =
      .ok ⟨path, content.length, postscriptOf (footer.encode compressor) compressor.kind, footer⟩ := by
  have total := congrArg List.length bytes
  rw [content.length_toBytes, List.length_append, List.length_append] at total
  have head : body = magic ++ body.drop magic.length := by
    conv => lhs; rw [← List.take_append_drop magic.length body, started]
  have count := congrArg List.length head
  rw [List.length_append] at count
  have stated : (postscriptOf (footer.encode compressor) compressor.kind).footerLength.toNat =
      (footer.encode compressor).length := UInt64.toNat_ofNat_of_lt' (by omega)
  refine opens_assembled path (assembled_of_parts content.toBytes (body.drop magic.length) footer
    compressor _ valid encoded (by omega) rfl (Nat.le_refl 1) stated rfl ?_)
  rw [← head, bytes, List.append_assoc]

end

end Container

namespace Example

-- A compressor that leaves its encoder alone.
def plain : Compressor := ⟨.stored, 0, Zstd.storedFrames⟩

end Example

end Columnar
