import Columnar.Container

set_option autoImplicit false

namespace Columnar

theorem difference_of_le (whole part : Nat) (less : part ≤ whole) :
    difference whole part = .ok (whole - part) := by
  simp only [difference, if_pos less]

namespace Content

theorem bytes_of_bytes (bytes : Bytes) : (ofBytes bytes).toBytes = bytes := by
  simp [ofBytes, toBytes]

theorem last_byte (content : Content) (filled : 0 < content.length) :
    ∃ front last, content.toBytes = front ++ [last] ∧ content.length = front.length + 1 := by
  have count := content.length_toBytes
  have nonempty : content.toBytes ≠ [] := List.ne_nil_of_length_pos (by omega)
  refine ⟨_, _, (List.dropLast_concat_getLast nonempty).symm, ?_⟩
  rw [List.length_dropLast, count]
  omega

end Content

namespace OpenFile

theorem bytes_inside (content : Content) (offset count : Nat)
    (inside : offset + count ≤ content.length) :
    (OpenFile.regular content).bytes offset count =
      .ok ((content.toBytes.drop offset).take count) := by
  by_cases nothing : count = 0
  · simp [bytes, read, nothing]
  · have long : ¬ ((content.toBytes.drop offset).take count).length < count := by
      rw [List.length_take, List.length_drop, content.length_toBytes]
      omega
    simp only [bytes, read, if_neg nothing, readUpTo, content.slice_eq, if_neg long]

theorem last_bytes_inside (content : Content) (before count : Nat) (short : count ≤ before)
    (inside : before ≤ content.length) :
    (OpenFile.regular content).lastBytes content.length before count =
      .ok ((content.toBytes.drop (content.length - before)).take count) := by
  simp only [lastBytes, difference_of_le _ _ inside]
  exact bytes_inside content (content.length - before) count (by omega)

end OpenFile

namespace Postscript

theorem of_file_last (content : Content) (front : Bytes) (last : UInt8)
    (bytes : content.toBytes = front ++ [last]) (room : magic.length ≤ front.length) :
    ofFile (.regular content) content.length =
      if front.length < magic.length + last.toNat then
        .error (.format (.postscriptRange last.toNat content.length))
      else if last.toNat ≠ size then .error (.format (.postscriptLength last.toNat))
      else (parse (front.drop (front.length - size))).mapError .format := by
  have total : content.length = front.length + 1 := by
    rw [← content.length_toBytes, bytes, List.length_append, List.length_singleton]
  have final : (OpenFile.regular content).lastBytes content.length 1 1 = .ok [last] := by
    rw [OpenFile.last_bytes_inside content 1 1 (by omega) (by omega), bytes,
      List.drop_left' (by omega), List.take_of_length_le (by simp)]
  have stated : Bytes.ofLittle [last] = last.toNat := by simp [Bytes.ofLittle]
  simp only [ofFile, final, stated]
  rw [if_neg (by omega)]
  by_cases long : front.length < magic.length + last.toNat
  · rw [if_pos long, if_pos (by omega)]
  · rw [if_neg long, if_neg (by omega)]
    by_cases usual : last.toNat = size
    · have tail : (OpenFile.regular content).lastBytes content.length (1 + last.toNat) size =
          .ok (front.drop (front.length - size)) := by
        rw [OpenFile.last_bytes_inside content (1 + last.toNat) size (by omega) (by omega), bytes,
          List.drop_append_of_le_length (by omega), List.take_left' (by rw [List.length_drop]; omega),
          show content.length - (1 + last.toNat) = front.length - size by omega]
      rw [if_neg (Decidable.not_not.mpr usual), if_neg (Decidable.not_not.mpr usual)]
      cases parsed : parse (front.drop (front.length - size)) <;> simp only [tail, parsed] <;> rfl
    · rw [if_pos usual, if_pos usual]

theorem of_file_regular (content : Content) :
    (∃ fault, ofFile (.regular content) content.length = .error (.format fault)) ∨
    (∃ postscript, ofFile (.regular content) content.length = .ok postscript ∧
      size + 1 + magic.length ≤ content.length) := by
  by_cases small : content.length < magic.length + 1
  · exact .inl ⟨_, by rw [ofFile, if_pos small]⟩
  · obtain ⟨front, last, bytes, total⟩ := content.last_byte (by omega)
    rw [of_file_last content front last bytes (by omega)]
    by_cases long : front.length < magic.length + last.toNat
    · exact .inl ⟨_, if_pos long⟩
    · by_cases usual : last.toNat = size
      · rw [if_neg long, if_neg (Decidable.not_not.mpr usual)]
        cases parse (front.drop (front.length - size)) with
        | error fault => exact .inl ⟨fault, rfl⟩
        | ok postscript => exact .inr ⟨postscript, rfl, by omega⟩
      · exact .inl ⟨_, by rw [if_neg long, if_pos usual]⟩

end Postscript

theorem Footer.decode_cases (stored : Bytes) (kind : Compression) :
    (∃ failure, decode stored kind = .error failure ∧ failure.isStructural = true) ∨
    (∃ footer, decode stored kind = .ok footer ∧ footer.Valid) := by
  have inflated : (∃ fault, kind.inflate stored = .error (.codec fault)) ∨
      ∃ raw, kind.inflate stored = .ok raw := by
    cases kind with
    | stored => exact .inr ⟨stored, rfl⟩
    | zstd =>
      simp only [Compression.inflate]
      cases Zstd.inflate stored with
      | error fault => exact .inl ⟨_, rfl⟩
      | ok raw => exact .inr ⟨raw, rfl⟩
  obtain ⟨fault, failed⟩ | ⟨raw, inflated⟩ := inflated
  · exact .inl ⟨.codec fault, by simp only [decode, failed], rfl⟩
  · simp only [decode, inflated]
    cases reader depthLimit raw with
    | error cause => exact .inl ⟨_, rfl, rfl⟩
    | ok read =>
      obtain ⟨footer, rest⟩ := read
      cases checked : footer.check with
      | error fault => exact .inl ⟨.format fault, by simp only [checked], rfl⟩
      | ok _ => exact .inr ⟨footer, by simp only [checked], checked⟩

namespace Container

theorem footer_start_cases (length : Nat) (postscript : Postscript)
    (long : Postscript.size + 1 + magic.length ≤ length) :
    (∃ fault, footerStart length postscript = .error (.format fault)) ∨
    (∃ start, footerStart length postscript = .ok start ∧
      start + postscript.footerLength.toNat + Postscript.size + 1 = length ∧ magic.length ≤ start) := by
  simp only [footerStart, difference_of_le length (Postscript.size + 1) (by omega),
    difference_of_le (length - (Postscript.size + 1)) magic.length (by omega)]
  by_cases crowded :
      length - (Postscript.size + 1) - magic.length < postscript.footerLength.toNat
  · exact .inl ⟨_, by rw [if_pos crowded]⟩
  · rw [if_neg crowded, difference_of_le _ _ (by omega)]
    exact .inr ⟨_, rfl, by omega, by omega⟩

theorem read_footer_cases (content : Content) (postscript : Postscript)
    (long : Postscript.size + 1 + magic.length ≤ content.length) :
    (∃ failure, readFooter (.regular content) content.length postscript = .error failure ∧
      failure.isStructural = true) ∨
    (∃ footer, readFooter (.regular content) content.length postscript = .ok footer ∧
      footer.Valid ∧ footer.contentLength.toNat ≤ content.length) := by
  obtain ⟨fault, failed⟩ | ⟨start, found, stop, _⟩ := footer_start_cases content.length postscript long
  · exact .inl ⟨.format fault, by simp only [readFooter, failed], rfl⟩
  · have stored := OpenFile.bytes_inside content start postscript.footerLength.toNat (by omega)
    simp only [readFooter, found, stored]
    generalize (content.toBytes.drop start).take postscript.footerLength.toNat = bytes
    by_cases damaged : Blake3.hash bytes ≠ postscript.footerHash
    · exact .inl ⟨_, by rw [if_pos damaged], rfl⟩
    · rw [if_neg damaged]
      obtain ⟨failure, failed, structural⟩ | ⟨footer, decoded, valid⟩ :=
        Footer.decode_cases bytes postscript.compression
      · exact .inl ⟨failure, by simp only [failed], structural⟩
      · by_cases placed : footer.contentLength.toNat = start
        · exact .inr ⟨footer, by simp only [decoded, if_pos placed], valid, by omega⟩
        · exact .inl ⟨.format (.footerPosition start footer.contentLength.toNat),
            by simp only [decoded, if_neg placed], rfl⟩

theorem of_file_regular (path : Path) (content : Content) :
    (∃ failure, ofFile path (.regular content) = .error failure ∧ failure.isStructural = true) ∨
    (∃ container, ofFile path (.regular content) = .ok container ∧ container.path = path ∧
      container.footer.Valid ∧ container.footer.contentLength.toNat ≤ content.length ∧
      content.toBytes.take magic.length = magic) := by
  have sized : (OpenFile.regular content).length = content.length := rfl
  obtain ⟨fault, failed⟩ | ⟨postscript, found, long⟩ := Postscript.of_file_regular content
  · exact .inl ⟨.format fault, by simp only [ofFile, sized, failed], rfl⟩
  · have start := OpenFile.bytes_inside content 0 magic.length (by omega)
    rw [List.drop_zero] at start
    simp only [ofFile, sized, found, start]
    by_cases other : content.toBytes.take magic.length ≠ magic
    · exact .inl ⟨_, by rw [if_pos other], rfl⟩
    · rw [if_neg other]
      obtain ⟨failure, failed, structural⟩ | ⟨footer, read, valid, inside⟩ :=
        read_footer_cases content postscript long
      · exact .inl ⟨failure, by simp only [failed], structural⟩
      · exact .inr ⟨⟨path, content.length, postscript, footer⟩, by simp only [read], rfl, valid,
          inside, Decidable.not_not.mp other⟩

theorem of_directory (path : Path) : ofFile path .directory = .error (.io .isADirectory) := rfl

structure Accepted (files : FileSystem) (path : Path) (container : Container) (content : Content) :
    Prop where
  located : files.openFile path = .ok (.regular content)
  named : container.path = path
  valid : container.footer.Valid
  inside : container.footer.contentLength.toNat ≤ content.length
  started : content.toBytes.take magic.length = magic

theorem open_path_accepts (files : FileSystem) (path : Path) (container : Container)
    (opens : openPath files path = .ok container) :
    ∃ content, Accepted files path container content := by
  simp only [openPath] at opens
  cases located : files.openFile path with
  | error fault => simp [located] at opens
  | ok file =>
    simp only [located] at opens
    cases file with
    | directory =>
      rw [of_directory] at opens
      cases opens
    | regular content =>
      obtain ⟨failure, failed, _⟩ | ⟨found, read, named, valid, inside, started⟩ :=
        of_file_regular path content
      · rw [failed] at opens
        cases opens
      · rw [read] at opens
        cases opens
        exact ⟨content, located, named, valid, inside, started⟩

end Container

end Columnar
