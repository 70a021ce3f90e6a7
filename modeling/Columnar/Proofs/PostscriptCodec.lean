import Columnar.Proofs.Opening

set_option autoImplicit false

namespace Columnar

namespace Bytes

theorem ofLittle_small (width : Nat) (bytes : Bytes) (long : bytes.length = width) :
    ofLittle bytes < 1 <<< (8 * width) := by
  subst long
  induction bytes with
  | nil => decide
  | cons byte bytes ih =>
    have digit := byte.toNat_lt
    rw [Nat.shiftLeft_eq] at ih ⊢
    rw [ofLittle, List.length_cons, Nat.mul_succ, Nat.pow_add]
    omega

theorem little_ofLittle (width : Nat) (bytes : Bytes) (long : bytes.length = width) :
    little width (ofLittle bytes) = bytes := by
  subst long
  induction bytes with
  | nil => rfl
  | cons byte bytes ih =>
    have digit := byte.toNat_lt
    have low : (byte.toNat + 256 * ofLittle bytes) % 256 = byte.toNat := by omega
    have high : (byte.toNat + 256 * ofLittle bytes) / 256 = ofLittle bytes := by omega
    rw [ofLittle, List.length_cons, little, low, high, ih, UInt8.ofNat_toNat]

end Bytes

namespace Postscript

theorem length_to_bytes (postscript : Postscript) : postscript.toBytes.length = size := by
  simp only [toBytes, List.length_append, Bytes.length_little, List.length_singleton,
    postscript.hash_length]
  rfl

theorem length_trailer (postscript : Postscript) : postscript.trailer.length = size + 1 := by
  rw [trailer, List.length_append, length_to_bytes]
  rfl

theorem parse_to_bytes (postscript : Postscript) (known : postscript.version.toNat ≤ currentVersion) :
    parse postscript.toBytes = .ok postscript := by
  obtain ⟨footerLength, compression, version, hash, long⟩ := postscript
  have word : (Bytes.little 8 footerLength.toNat).length = 8 := Bytes.length_little _ _
  have half : (Bytes.little 2 version.toNat).length = 2 := Bytes.length_little _ _
  have sized := length_to_bytes ⟨footerLength, compression, version, hash, long⟩
  have whole : toBytes ⟨footerLength, compression, version, hash, long⟩ =
      Bytes.little 8 footerLength.toNat ++ (compression.byte :: (Bytes.little 2 version.toNat ++
        (hash ++ magic))) := by
    simp only [toBytes, List.append_assoc, List.cons_append, List.nil_append]
  have first : (toBytes ⟨footerLength, compression, version, hash, long⟩).take 8 =
      Bytes.little 8 footerLength.toNat := by
    rw [whole, List.take_left' word]
  have behind : (toBytes ⟨footerLength, compression, version, hash, long⟩).drop 8 =
      compression.byte :: (Bytes.little 2 version.toNat ++ (hash ++ magic)) := by
    rw [whole, List.drop_left' word]
  have versionPart : ((toBytes ⟨footerLength, compression, version, hash, long⟩).drop 9).take 2 =
      Bytes.little 2 version.toNat := by
    rw [← List.drop_drop (i := 1) (j := 8), behind, List.drop_succ_cons, List.drop_zero,
      List.take_left' half]
  have hashPart : (toBytes ⟨footerLength, compression, version, hash, long⟩).drop 11 =
      hash ++ magic := by
    rw [← List.drop_drop (i := 3) (j := 8), behind, List.drop_succ_cons, List.drop_left' half]
  have magicPart : (toBytes ⟨footerLength, compression, version, hash, long⟩).drop
      (size - magic.length) = magic := by
    rw [show size - magic.length = 11 + 32 from rfl, ← List.drop_drop, hashPart,
      List.drop_left' long]
  have lengthRead : Bytes.ofLittle (Bytes.little 8 footerLength.toNat) = footerLength.toNat :=
    Bytes.ofLittle_little _ _ footerLength.toNat_lt
  have versionRead : Bytes.ofLittle (Bytes.little 2 version.toNat) = version.toNat :=
    Bytes.ofLittle_little _ _ version.toNat_lt
  simp only at known
  rw [parse, dif_pos sized, if_neg (by simpa using magicPart)]
  simp only [parseFields, behind, List.headD_cons, Compression.ofByte_byte, versionPart, versionRead,
    first, lengthRead, if_neg (Nat.not_lt.mpr known), UInt64.ofNat_toNat, UInt16.ofNat_toNat, hashPart,
    List.take_left' long]

theorem parsed_fields (bytes : Bytes) (postscript : Postscript)
    (parsed : parse bytes = .ok postscript) :
    bytes.take 8 = Bytes.little 8 postscript.footerLength.toNat ∧
      (bytes.drop 8).take 1 = [postscript.compression.byte] ∧
      (bytes.drop 9).take 2 = Bytes.little 2 postscript.version.toNat ∧
      (bytes.drop 11).take 32 = postscript.footerHash ∧ bytes.drop 43 = magic ∧
      postscript.version.toNat ≤ currentVersion := by
  rw [parse] at parsed
  by_cases sized : bytes.length = size
  · rw [dif_pos sized] at parsed
    by_cases ended : bytes.drop (size - magic.length) = magic
    · rw [if_neg (Decidable.not_not.mpr ended), parseFields] at parsed
      have length : bytes.length = 46 := sized
      cases known : Compression.ofByte? ((bytes.drop 8).headD 0) with
      | none =>
        simp only [known] at parsed
        cases parsed
      | some compression =>
        simp only [known] at parsed
        by_cases newer : currentVersion < Bytes.ofLittle ((bytes.drop 9).take 2)
        · simp [newer] at parsed
        · have word : (bytes.take 8).length = 8 := by
            rw [List.length_take]
            omega
          have half : ((bytes.drop 9).take 2).length = 2 := by
            rw [List.length_take, List.length_drop]
            omega
          have lengthKept := UInt64.toNat_ofNat_of_lt' (Bytes.ofLittle_small 8 _ word)
          have versionKept := UInt16.toNat_ofNat_of_lt' (Bytes.ofLittle_small 2 _ half)
          rw [if_neg newer, Except.ok.injEq] at parsed
          rw [← parsed]
          simp only [lengthKept, versionKept, Bytes.little_ofLittle 8 _ word,
            Bytes.little_ofLittle 2 _ half, Compression.byte_of_ofByte known, true_and]
          refine ⟨?_, ended, Nat.not_lt.mp newer⟩
          rw [List.drop_eq_getElem_cons (by omega)]
          rfl
    · rw [if_pos ended] at parsed
      cases parsed
  · rw [dif_neg sized] at parsed
    cases parsed

-- Every byte of a postscript is in one of its fields, so the fields give all of it back.
theorem to_bytes_of_parse (bytes : Bytes) (postscript : Postscript)
    (parsed : parse bytes = .ok postscript) : bytes = postscript.toBytes := by
  obtain ⟨length, compression, version, hash, ended, _⟩ := parsed_fields bytes postscript parsed
  calc
    bytes = bytes.take 8 ++ ((bytes.drop 8).take 1 ++ ((bytes.drop 9).take 2 ++
        ((bytes.drop 11).take 32 ++ bytes.drop 43))) := by
      rw [show bytes.drop 43 = (bytes.drop 11).drop 32 by rw [List.drop_drop],
        List.take_append_drop,
        show bytes.drop 11 = (bytes.drop 9).drop 2 by rw [List.drop_drop],
        List.take_append_drop,
        show bytes.drop 9 = (bytes.drop 8).drop 1 by rw [List.drop_drop],
        List.take_append_drop, List.take_append_drop]
    _ = postscript.toBytes := by
      rw [length, compression, version, hash, ended]
      simp only [toBytes, List.append_assoc]

theorem parse_iff (bytes : Bytes) (postscript : Postscript) :
    parse bytes = .ok postscript ↔
      bytes = postscript.toBytes ∧ postscript.version.toNat ≤ currentVersion := by
  constructor
  · intro parsed
    exact ⟨to_bytes_of_parse bytes postscript parsed,
      (parsed_fields bytes postscript parsed).2.2.2.2.2⟩
  · rintro ⟨same, known⟩
    rw [same]
    exact parse_to_bytes postscript known

theorem trailer_injective (first second : Postscript)
    (firstKnown : first.version.toNat ≤ currentVersion)
    (secondKnown : second.version.toNat ≤ currentVersion)
    (same : first.trailer = second.trailer) : first = second := by
  have bytes : first.toBytes = second.toBytes := List.append_cancel_right same
  have parsed := parse_to_bytes first firstKnown
  rw [bytes, parse_to_bytes second secondKnown, Except.ok.injEq] at parsed
  exact parsed.symm

section

variable {content : Content} {postscript : Postscript}

theorem of_file_ending (front middle : Bytes) (last : UInt8)
    (bytes : content.toBytes = front ++ (middle ++ [last])) (sized : middle.length = size) :
    ofFile (.regular content) content.length = .ok postscript ↔
      last.toNat = size ∧ magic.length ≤ front.length ∧ parse middle = .ok postscript := by
  have wide : magic.length = 3 := rfl
  have fixed : size = 46 := rfl
  rw [← List.append_assoc] at bytes
  rw [of_file_last content (front ++ middle) last bytes (by rw [List.length_append]; omega),
    List.drop_left' (by rw [List.length_append]; omega), List.length_append]
  by_cases usual : last.toNat = size
  · by_cases long : magic.length ≤ front.length
    · rw [if_neg (by omega), if_neg (Decidable.not_not.mpr usual)]
      cases parse middle with
      | error fault => exact ⟨nofun, nofun⟩
      | ok found =>
        exact ⟨fun same => ⟨usual, long, congrArg _ (Except.ok.inj same)⟩,
          fun same => congrArg _ (Except.ok.inj same.2.2)⟩
    · rw [if_pos (by omega)]
      simp [long]
  · rw [if_pos usual]
    split <;> simp [usual]

theorem of_file_iff :
    ofFile (.regular content) content.length = .ok postscript ↔
      ∃ front, content.toBytes = front ++ postscript.trailer ∧ magic.length ≤ front.length ∧
        postscript.version.toNat ≤ currentVersion := by
  constructor
  · intro read
    have long : size + 1 + magic.length ≤ content.length := by
      obtain ⟨fault, failed⟩ | ⟨_, _, long⟩ := of_file_regular content
      · rw [failed] at read
        cases read
      · exact long
    obtain ⟨whole, last, ends, total⟩ := content.last_byte (by omega)
    have sized : (whole.drop (whole.length - size)).length = size := by
      rw [List.length_drop]
      omega
    have bytes : content.toBytes =
        whole.take (whole.length - size) ++ (whole.drop (whole.length - size) ++ [last]) := by
      rw [← List.append_assoc, List.take_append_drop, ends]
    obtain ⟨stated, room, parsed⟩ := (of_file_ending _ _ last bytes sized).mp read
    obtain ⟨fields, known⟩ := (parse_iff _ postscript).mp parsed
    have ending : last = UInt8.ofNat size := by rw [← stated, UInt8.ofNat_toNat]
    refine ⟨_, ?_, room, known⟩
    rw [bytes, fields, ending, trailer]
  · rintro ⟨front, bytes, room, known⟩
    exact (of_file_ending front _ _ bytes postscript.length_to_bytes).mpr
      ⟨rfl, room, parse_to_bytes postscript known⟩

end

end Postscript

end Columnar
