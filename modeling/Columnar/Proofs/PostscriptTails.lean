import Columnar.Proofs.PostscriptCodec
import Mathlib.Data.Set.Function

set_option autoImplicit false

namespace Columnar

namespace Postscript

-- Whether bytes are no postscript for a fault, and for none that is looked for before it.
inductive Unread (bytes : Bytes) : FormatFault → Prop
  | size (other : bytes.length ≠ size) : Unread bytes (.postscriptSize bytes.length)
  | magic (sized : bytes.length = size) (other : bytes.drop (size - magic.length) ≠ magic) :
    Unread bytes .postscriptMagic
  | kind (byte : UInt8) (sized : bytes.length = size)
    (ended : bytes.drop (size - magic.length) = magic) (here : bytes[8]? = some byte)
    (unknown : ∀ kind : Compression, kind.byte ≠ byte) : Unread bytes (.compressionKind byte.toNat)
  | version (kind : Compression) (sized : bytes.length = size)
    (ended : bytes.drop (size - magic.length) = magic) (here : bytes[8]? = some kind.byte)
    (newer : currentVersion < Bytes.ofLittle ((bytes.drop 9).take 2)) :
    Unread bytes (.newerVersion (Bytes.ofLittle ((bytes.drop 9).take 2)))

inductive Untailed (bytes : Bytes) : FormatFault → Prop
  | small (short : bytes.length < magic.length + 1) : Untailed bytes (.fileTooSmall bytes.length)
  | range (front : Bytes) (last : UInt8) (ends : bytes = front ++ [last])
    (room : magic.length ≤ front.length) (crowded : front.length < magic.length + last.toNat) :
    Untailed bytes (.postscriptRange last.toNat bytes.length)
  | length (front : Bytes) (last : UInt8) (ends : bytes = front ++ [last])
    (room : magic.length + last.toNat ≤ front.length) (other : last.toNat ≠ size) :
    Untailed bytes (.postscriptLength last.toNat)
  | fields (front middle : Bytes) (fault : FormatFault)
    (ends : bytes = front ++ (middle ++ [UInt8.ofNat size])) (sized : middle.length = size)
    (room : magic.length ≤ front.length) (unread : Unread middle fault) : Untailed bytes fault

theorem parse_numbered (bytes : Bytes) (byte : UInt8) (fault : FormatFault)
    (sized : bytes.length = size) (ended : bytes.drop (size - magic.length) = magic)
    (here : bytes[8]? = some byte) :
    parse bytes = .error fault ↔
      (Compression.ofByte? byte = none ∧ fault = .compressionKind byte.toNat) ∨
      (∃ kind, Compression.ofByte? byte = some kind ∧
        currentVersion < Bytes.ofLittle ((bytes.drop 9).take 2) ∧
        fault = .newerVersion (Bytes.ofLittle ((bytes.drop 9).take 2))) := by
  have ninth : (bytes.drop 8).headD 0 = byte := by
    rw [List.headD_eq_head?_getD, List.head?_drop, here, Option.getD_some]
  rw [parse, dif_pos sized, if_neg (Decidable.not_not.mpr ended), parseFields, ninth]
  cases known : Compression.ofByte? byte with
  | none => simp [eq_comm]
  | some kind =>
    by_cases newer : currentVersion < Bytes.ofLittle ((bytes.drop 9).take 2)
    · simp [newer, eq_comm]
    · simp [newer]

theorem unread_of_parse (bytes : Bytes) (fault : FormatFault) (failed : parse bytes = .error fault) :
    Unread bytes fault := by
  by_cases sized : bytes.length = size
  · by_cases ended : bytes.drop (size - magic.length) = magic
    · obtain ⟨byte, here⟩ : ∃ byte, bytes[8]? = some byte :=
        ⟨_, List.getElem?_eq_getElem (by rw [sized]; decide)⟩
      obtain ⟨unknown, rfl⟩ | ⟨kind, known, newer, rfl⟩ :=
        (parse_numbered bytes byte fault sized ended here).mp failed
      · refine .kind byte sized ended here fun kind same => ?_
        rw [← same, Compression.ofByte_byte] at unknown
        cases unknown
      · rw [← Compression.byte_of_ofByte known] at here
        exact .version kind sized ended here newer
    · rw [parse, dif_pos sized, if_pos ended, Except.error.injEq] at failed
      rw [← failed]
      exact .magic sized ended
  · rw [parse, dif_neg sized, Except.error.injEq] at failed
    rw [← failed]
    exact .size sized

theorem parse_of_unread (bytes : Bytes) (fault : FormatFault) (unread : Unread bytes fault) :
    parse bytes = .error fault := by
  cases unread with
  | size other => rw [parse, dif_neg other]
  | magic sized other => rw [parse, dif_pos sized, if_pos other]
  | kind byte sized ended here unknown =>
    refine (parse_numbered bytes byte _ sized ended here).mpr (.inl ⟨?_, rfl⟩)
    rw [Option.eq_none_iff_forall_ne_some]
    exact fun kind known => unknown kind (Compression.byte_of_ofByte known)
  | version kind sized ended here newer =>
    exact (parse_numbered bytes kind.byte _ sized ended here).mpr
      (.inr ⟨kind, Compression.ofByte_byte kind, newer, rfl⟩)

theorem untailed_of_file (content : Content) (failure : Failure)
    (failed : ofFile (.regular content) content.length = .error failure) :
    ∃ fault, failure = .format fault ∧ Untailed content.toBytes fault := by
  have count := content.length_toBytes
  by_cases small : content.length < magic.length + 1
  · rw [ofFile, if_pos small, Except.error.injEq] at failed
    rw [← count] at failed small
    exact ⟨_, failed.symm, .small small⟩
  · obtain ⟨front, last, bytes, total⟩ := content.last_byte (by omega)
    rw [of_file_last content front last bytes (by omega)] at failed
    by_cases crowded : front.length < magic.length + last.toNat
    · rw [if_pos crowded, Except.error.injEq, ← count] at failed
      exact ⟨_, failed.symm, .range front last bytes (by omega) crowded⟩
    · rw [if_neg crowded] at failed
      by_cases usual : last.toNat = size
      · rw [if_neg (Decidable.not_not.mpr usual)] at failed
        cases parsed : parse (front.drop (front.length - size)) with
        | ok postscript =>
          rw [parsed] at failed
          cases failed
        | error fault =>
          rw [parsed] at failed
          refine ⟨fault, (Except.error.inj failed).symm, .fields (front.take (front.length - size)) _
            fault ?_ (by rw [List.length_drop]; omega) (by rw [List.length_take]; omega)
            (unread_of_parse _ _ parsed)⟩
          rw [← List.append_assoc, List.take_append_drop, bytes, ← usual, UInt8.ofNat_toNat]
      · rw [if_pos usual, Except.error.injEq] at failed
        exact ⟨_, failed.symm, .length front last bytes (by omega) usual⟩

theorem of_file_of_untailed (content : Content) (fault : FormatFault)
    (untailed : Untailed content.toBytes fault) :
    ofFile (.regular content) content.length = .error (.format fault) := by
  have count := content.length_toBytes
  cases untailed with
  | small short =>
    rw [count] at short ⊢
    rw [ofFile, if_pos short]
  | range front last ends room crowded =>
    rw [of_file_last content front last ends room, if_pos crowded, count]
  | length front last ends room other =>
    rw [of_file_last content front last ends (by omega), if_neg (by omega), if_pos other]
  | fields front middle fault ends sized room unread =>
    have fixed : size = 46 := rfl
    have stated : (UInt8.ofNat size).toNat = size := rfl
    rw [← List.append_assoc] at ends
    rw [of_file_last content (front ++ middle) _ ends (by rw [List.length_append]; omega),
      List.drop_left' (by rw [List.length_append]; omega), List.length_append, if_neg (by omega),
      if_neg (Decidable.not_not.mpr stated), parse_of_unread middle fault unread]
    rfl

theorem of_file_fails_iff (content : Content) (failure : Failure) :
    ofFile (.regular content) content.length = .error failure ↔
      ∃ fault, failure = .format fault ∧ Untailed content.toBytes fault := by
  constructor
  · exact untailed_of_file content failure
  · rintro ⟨fault, rfl, untailed⟩
    exact of_file_of_untailed content fault untailed

theorem take_trailer (postscript : Postscript) : postscript.trailer.take size = postscript.toBytes := by
  rw [trailer, List.take_left' postscript.length_to_bytes]

theorem drop_last_trailer (postscript : Postscript) :
    postscript.trailer.dropLast = postscript.toBytes := List.dropLast_concat

end Postscript

theorem postscripts_are_read_as_written :
    Set.BijOn (fun postscript : Postscript => postscript.trailer.take 46)
        {postscript | postscript.version.toNat ≤ 1}
        {bytes | ∃ postscript, Postscript.parse bytes = .ok postscript} ∧
      (∀ postscript : Postscript, postscript.version.toNat ≤ 1 →
        Postscript.parse (postscript.trailer.take 46) = .ok postscript) ∧
      (∀ (bytes : Bytes) (postscript : Postscript), Postscript.parse bytes = .ok postscript →
        bytes.length = 46 ∧ bytes = postscript.trailer.dropLast ∧ postscript.version.toNat ≤ 1) ∧
      ∀ content : Content,
        (∀ postscript, Postscript.ofFile (.regular content) content.length = .ok postscript ↔
          ∃ front, content.toBytes = front ++ postscript.trailer ∧ 3 ≤ front.length ∧
            postscript.version.toNat ≤ 1) ∧
        ∀ failure, Postscript.ofFile (.regular content) content.length = .error failure ↔
          ∃ fault, failure = .format fault ∧ Postscript.Untailed content.toBytes fault := by
  have back (postscript : Postscript) (known : postscript.version.toNat ≤ 1) :
      Postscript.parse (postscript.trailer.take 46) = .ok postscript := by
    rw [show 46 = Postscript.size from rfl, Postscript.take_trailer]
    exact Postscript.parse_to_bytes postscript known
  refine ⟨⟨?_, ?_, ?_⟩, back, ?_, fun content => ⟨fun postscript => ?_, ?_⟩⟩
  · exact fun postscript known => ⟨postscript, back postscript known⟩
  · intro first firstKnown second secondKnown same
    have parsed := back first firstKnown
    simp only at same
    rw [same, back second secondKnown, Except.ok.injEq] at parsed
    exact parsed.symm
  · rintro bytes ⟨postscript, parsed⟩
    obtain ⟨same, known⟩ := (Postscript.parse_iff bytes postscript).mp parsed
    exact ⟨postscript, known, by rw [same]; exact Postscript.take_trailer postscript⟩
  · intro bytes postscript parsed
    obtain ⟨same, known⟩ := (Postscript.parse_iff bytes postscript).mp parsed
    rw [postscript.drop_last_trailer, same]
    exact ⟨postscript.length_to_bytes, rfl, known⟩
  · exact Postscript.of_file_iff
  · exact Postscript.of_file_fails_iff content

namespace Example

def sevens : Postscript := ⟨321, .zstd, 1, List.replicate 32 7, by decide⟩

end Example

theorem tails_are_told_apart :
    Postscript.parse (Example.sevens.trailer.take 46) = .ok Example.sevens ∧
      Postscript.ofFile (.regular (.ofBytes (magic ++ Example.sevens.trailer)))
        (Content.ofBytes (magic ++ Example.sevens.trailer)).length = .ok Example.sevens ∧
      Postscript.ofFile (.regular (.ofBytes (magic ++ [200]))) 4 =
        .error (.format (.postscriptRange 200 4)) := by
  obtain ⟨_, back, _, files⟩ := postscripts_are_read_as_written
  refine ⟨back Example.sevens (by decide), ?_, ?_⟩
  · exact ((files _).1 Example.sevens).mpr
      ⟨magic, Content.bytes_of_bytes _, by decide, by decide⟩
  · refine ((files (.ofBytes (magic ++ [200]))).2 _).mpr ⟨_, rfl, ?_⟩
    rw [Content.bytes_of_bytes]
    exact .range magic 200 rfl (by decide) (by decide)

end Columnar
