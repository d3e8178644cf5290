import Cantil.Firmware.Ca.Crl
import Cantil.Library.CrlReader

namespace Cantil.Ca
open Library Library.Der DerWrite Crl
open Library.Crl (elements signatureElements)

/-- What the list says, as the format has it. -/
def crlContents (issuer : Bytes) (thisUpdate nextUpdate : UInt64) (entries : List CrlEntry)
    (number : UInt32) : Contents where
  algorithm := elements [(asn1Oid, oidEcdsaSha256)]
  issuer := issuer
  thisUpdate := timeElement thisUpdate
  nextUpdate := timeElement nextUpdate
  entries := entries.map fun entry => (entry.serial, timeElement entry.revokedAtUnix)
  number := number.toNat

theorem nothing_writes : Writes (fun buf => .ok (buf, 0)) [] := by
  intro buf
  simp

theorem writeTime_writes (secs : UInt64) : Writes (writeTime secs) (elements [timeElement secs]) := by
  rw [elements_cons, elements_nil, List.append_nil]
  exact (derRaw_writes _).wrap _

theorem writeAlgEcdsaSha256_writes :
    Writes writeAlgEcdsaSha256 (elements [(0x30, elements [(asn1Oid, oidEcdsaSha256)])]) := by
  exact (derOid_writes _).wrap _

theorem writeSerialInt_writes {serial : Bytes} (sized : 0 < serial.length ∧ serial.length ≤ 20) :
    Writes (writeSerialInt serial) (tlv asn1Integer (positive serial)) := by
  have nonempty : serial ≠ [] := List.ne_nil_of_length_pos sized.1
  intro buf
  rw [← ((derRaw_writes serial).sign nonempty).wrap asn1Integer buf, writeSerialInt, if_neg (by omega)]

/-- Every serial of the entries has the length of a serial. -/
def Sized (entries : List CrlEntry) : Prop :=
  ∀ entry ∈ entries, 0 < entry.serial.length ∧ entry.serial.length ≤ 20

variable {entries : List CrlEntry} {magnitude rawSig : Bytes}

theorem writeRevokedEntries_writes (sized : Sized entries) :
    Writes (writeRevokedEntries entries) (elements (entries.map fun entry =>
      entryElement (entry.serial, timeElement entry.revokedAtUnix))) := by
  induction entries with
  | nil => exact nothing_writes
  | cons entry rest ih =>
    have here := sized entry List.mem_cons_self
    have later := ih fun other held => sized other (List.mem_cons_of_mem entry held)
    exact later.andThen (((writeTime_writes _).andThen (writeSerialInt_writes here)).wrap _)

theorem writeRevokedCertificates_writes (sized : Sized entries) :
    Writes (writeRevokedCertificates entries) (elements (revoked (entries.map fun entry =>
      (entry.serial, timeElement entry.revokedAtUnix)))) := by
  unfold writeRevokedCertificates revoked
  by_cases none : entries = []
  · subst none
    exact nothing_writes
  · rw [if_neg none, if_neg (by simpa using none), elements_cons, elements_nil, List.append_nil,
      List.map_map]
    exact (writeRevokedEntries_writes sized).wrap _

theorem writeCrlExtensions_writes (number : UInt32) :
    Writes (writeCrlExtensions number) (elements [(0xA0, extensions number.toNat)]) := by
  simp only [extensions, elements_cons, elements_nil, List.append_nil]
  exact (((((derInt_writes number).wrap _).andThen (derOid_writes _)).wrap _).wrap _).wrap _

/-- The signed part is the one of the format. -/
theorem writeTbsCertList_writes (issuer : Bytes) (thisUpdate nextUpdate : UInt64) (sized : Sized entries)
    (number : UInt32) :
    Writes (writeTbsCertList (tlv 0x30 issuer) thisUpdate nextUpdate entries number)
      (crlContents issuer thisUpdate nextUpdate entries number).signedPart := by
  have all := (((((((writeCrlExtensions_writes number).andThen
    (writeRevokedCertificates_writes sized)).andThen (writeTime_writes nextUpdate)).andThen
    (writeTime_writes thisUpdate)).andThen (derRaw_writes (tlv 0x30 issuer))).andThen
    writeAlgEcdsaSha256_writes).andThen (derInt_writes 1)).wrap asn1Sequence
  have one : positive (minimalBytes (1 : UInt32).toNat) = [1] := by
    unfold minimalBytes
    rfl
  rw [one] at all
  have shape : (crlContents issuer thisUpdate nextUpdate entries number).signedPart =
      tlv asn1Sequence (tlv asn1Integer [1] ++ (elements [(0x30, elements [(asn1Oid, oidEcdsaSha256)])] ++
        (tlv 0x30 issuer ++ (elements [timeElement thisUpdate] ++ (elements [timeElement nextUpdate] ++
        (elements (revoked (entries.map fun entry => (entry.serial, timeElement entry.revokedAtUnix))) ++
        elements [(0xA0, extensions number.toNat)])))))) := by
    simp [Contents.signedPart, Contents.fields, crlContents, elements_append,
      elements_cons, elements_nil, asn1Sequence, asn1Integer]
  rw [shape]
  exact all

/-- The buffer holds the text and the space that the text leaves. -/
structure Holds (capacity : Nat) (text : Bytes) (buf : DerBuf) : Prop where
  out : buf.out = text
  space : buf.space + text.length = capacity

/-- A writer that succeeds prepended its encoding. -/
theorem Holds.write {capacity : Nat} {text encoding : Bytes} {buf after : DerBuf} {writer : Writer}
    {count : Nat} (holds : Holds capacity text buf) (writes : Writes writer encoding)
    (outcome : chkAdd (writer buf) = .ok (after, count)) :
    Holds capacity (encoding ++ text) after ∧ count = encoding.length := by
  rw [writes buf] at outcome
  by_cases room : encoding.length ≤ buf.space
  · rw [if_pos room] at outcome
    obtain ⟨rfl, rfl⟩ := Prod.mk.inj (Except.ok.inj outcome)
    refine ⟨⟨by rw [holds.out], ?_⟩, rfl⟩
    have whole := holds.space
    simp only [List.length_append]
    omega
  · rw [if_neg room] at outcome
    cases outcome

/-- The whole text, or it is longer than the buffer. -/
def Assembles (capacity : Nat) (whole : Bytes) : Except Errno Bytes → Prop
  | .ok text => text = whole ∧ whole.length ≤ capacity
  | .error errno => (errno = .derBufTooSmall ∨ errno = .enomem) ∧ capacity < whole.length

section Assembly

variable {capacity : Nat} {text whole : Bytes} {buf : DerBuf}

theorem Holds.then_write {writer : Writer} {encoding : Bytes} {next : DerBuf × Nat → Except Errno Bytes}
    (holds : Holds capacity text buf) (writes : Writes writer encoding)
    (part : (encoding ++ text).length ≤ whole.length)
    (later : ∀ after, Holds capacity (encoding ++ text) after →
      Assembles capacity whole (next (after, encoding.length))) :
    Assembles capacity whole (chkAdd (writer buf) >>= next) := by
  rcases wrote : chkAdd (writer buf) with errno | ⟨after, count⟩
  · have space := holds.space
    rw [writes buf] at wrote
    rw [List.length_append] at part
    split_ifs at wrote with room
    · cases wrote
    · obtain rfl := Except.error.inj wrote
      exact ⟨.inl rfl, by omega⟩
  · obtain ⟨held, rfl⟩ := holds.write writes wrote
    exact later after held

theorem Holds.then_prepend {bytes : Bytes} {next : DerBuf → Except Errno Bytes} (holds : Holds capacity text buf)
    (part : (bytes ++ text).length ≤ whole.length)
    (later : ∀ after, Holds capacity (bytes ++ text) after → Assembles capacity whole (next after)) :
    Assembles capacity whole (prepend bytes buf >>= next) := by
  have space := holds.space
  rw [List.length_append] at part
  unfold prepend
  split_ifs with room
  · exact ⟨.inr rfl, by omega⟩
  · refine later _ ⟨by rw [holds.out], ?_⟩
    rw [List.length_append]
    show buf.space - bytes.length + _ = _
    omega

end Assembly

/-- The assembled list is the one of the format, if it fits. -/
theorem assembleCrl_assembles (tbs sigDer : Bytes) (capacity : Nat) :
    Assembles capacity
      (tlv 0x30 (tbs ++ elements [(0x30, elements [(asn1Oid, oidEcdsaSha256)]), (0x03, 0 :: sigDer)]))
      (assembleCrl tbs sigDer capacity) := by
  have start : Holds capacity [] ⟨capacity, []⟩ := ⟨rfl, rfl⟩
  have content : tbs ++ elements [(0x30, elements [(asn1Oid, oidEcdsaSha256)]), (0x03, 0 :: sigDer)] =
      tbs ++ (elements [(0x30, elements [(asn1Oid, oidEcdsaSha256)])] ++ ([asn1BitString] ++
        (lengthBytes (sigDer.length + 1) ++ ([0x00] ++ (sigDer ++ []))))) := by
    simp [elements_cons, elements_nil, tlv, asn1BitString]
  have size : (tbs ++ (elements [(0x30, elements [(asn1Oid, oidEcdsaSha256)])] ++ ([asn1BitString] ++
        (lengthBytes (sigDer.length + 1) ++ ([0x00] ++ (sigDer ++ [])))))).length =
      sigDer.length + 1 + (lengthBytes (sigDer.length + 1)).length + [asn1BitString].length +
        (elements [(0x30, elements [(asn1Oid, oidEcdsaSha256)])]).length + tbs.length := by
    simp only [List.length_append, List.length_singleton, List.length_nil]
    omega
  rw [content, tlv, size]
  refine start.then_write (derRaw_writes sigDer) ?_ fun _ signed => signed.then_prepend ?_ fun _ padded =>
    padded.then_write (derLen_writes _) ?_ fun _ measured => measured.then_write (derTag_writes _) ?_ fun _ tagged =>
    tagged.then_write writeAlgEcdsaSha256_writes ?_ fun _ named => named.then_prepend ?_ fun _ listed =>
    listed.then_write (derLen_writes _) ?_ fun _ headed => headed.then_write (derTag_writes _) ?_ fun _ complete => ?_
  case refine_9 =>
    have space := complete.space
    dsimp only
    rw [complete.out, List.take_of_length_le]
    · exact ⟨rfl, Nat.le.intro ((Nat.add_comm _ _).trans space)⟩
    · simp only [List.length_append, List.length_singleton, List.length_nil]
      omega
  all_goals
    simp only [List.length_append, List.length_cons, List.length_nil]
    omega

/-- The encoding part of `build_crl_der`. -/
def encodeCrl (issuerRaw : Bytes) (thisUpdate nextUpdate : UInt64) (entries : List CrlEntry) (crlNumber : UInt32)
    (rawSig : Bytes) (capacity : Nat) : Except Errno Bytes :=
  match writeTbsCertList issuerRaw thisUpdate nextUpdate entries crlNumber ⟨certDerMax, []⟩ with
  | .error .bufTooSmall => .error .enomem
  | .error .invalidData => .error .eio
  | .ok (tbs, _) => do
      let sigDer ← encodeSignature rawSig
      assembleCrl tbs.out sigDer capacity

theorem stripZeros_shortest (some : magnitude ≠ []) :
    stripZeros magnitude = minimalBytes (bigEndianValue magnitude) ∧
      (stripZeros magnitude).length ≤ magnitude.length := by
  fun_induction stripZeros magnitude with
  | case1 second rest ih =>
    obtain ⟨same, short⟩ := ih (List.cons_ne_nil _ _)
    refine ⟨?_, Nat.le_succ_of_le short⟩
    rw [same]
    simp [bigEndianValue]
  | case2 bytes whole =>
    refine ⟨(minimalBytes_bigEndianValue ?_).symm, Nat.le_refl _⟩
    obtain ⟨first, rest, rfl⟩ := List.exists_cons_of_ne_nil some
    rcases rest with _ | ⟨second, rest⟩
    · exact .inr rfl
    · exact .inl fun zero => whole second rest (congrArg (· :: second :: rest) zero)

theorem derMpint_writes (some : magnitude ≠ []) : Writes (derMpint magnitude)
    (tlv asn1Integer (positive (minimalBytes (bigEndianValue magnitude)))) := by
  have shortest := (stripZeros_shortest some).1
  have writes := (derRaw_writes (stripZeros magnitude)).sign (shortest ▸ minimalBytes_ne_nil _)
  rw [shortest] at writes
  have wrapped := writes.wrap asn1Integer
  rw [← shortest] at wrapped
  rwa [← shortest]

/-- The element of a number of at most 32 octets. -/
theorem mpint_length (some : magnitude ≠ []) (narrow : magnitude.length ≤ 32) :
    (tlv asn1Integer (positive (minimalBytes (bigEndianValue magnitude)))).length ≤ 35 := by
  obtain ⟨shortest, short⟩ := stripZeros_shortest some
  have signed : (positive (stripZeros magnitude)).length ≤ (stripZeros magnitude).length + 1 := by
    unfold positive
    split_ifs <;> simp
  rw [← shortest, tlv, lengthBytes, if_pos (by omega)]
  simp only [List.length_cons, List.length_append, List.length_nil]
  omega

/-- The signature as a list of two numbers. -/
def signatureText (rawSig : Bytes) : Bytes :=
  elements (signatureElements (bigEndianValue (rawSig.take 32)) (bigEndianValue (rawSig.drop 32)))

/-- The buffer of the signature is large enough. -/
theorem encodeSignature_ok (sized : rawSig.length = 64) :
    encodeSignature rawSig = .ok (signatureText rawSig) ∧ (signatureText rawSig).length ≤ 80 := by
  have first : (rawSig.take 32).length = 32 := by simp [sized]
  have second : (rawSig.drop 32).length = 32 := by simp [sized]
  have firstSome : rawSig.take 32 ≠ [] := List.ne_nil_of_length_pos (by omega)
  have secondSome : rawSig.drop 32 ≠ [] := List.ne_nil_of_length_pos (by omega)
  have writes := ((derMpint_writes secondSome).andThen (derMpint_writes firstSome)).wrap asn1Sequence
  have room := mpint_length firstSome (by omega)
  have more := mpint_length secondSome (by omega)
  have text : signatureText rawSig = tlv asn1Sequence
      (tlv asn1Integer (positive (minimalBytes (bigEndianValue (rawSig.take 32)))) ++
        tlv asn1Integer (positive (minimalBytes (bigEndianValue (rawSig.drop 32))))) := by
    simp [signatureText, signatureElements, elements_cons, elements_nil, asn1Sequence, asn1Integer]
  have short : (signatureText rawSig).length ≤ 80 := by
    rw [text, tlv, lengthBytes, if_pos (by rw [List.length_append]; omega)]
    simp only [List.length_cons, List.length_append, List.length_nil]
    omega
  refine ⟨?_, short⟩
  rw [encodeSignature, writes, ← text, if_pos short, List.append_nil]
  rfl

variable (issuer : Bytes) (thisUpdate nextUpdate : UInt64)

/-- The list as it is signed and sent. -/
def crlText (entries : List CrlEntry) (crlNumber : UInt32) (rawSig : Bytes) : Bytes :=
  (crlContents issuer thisUpdate nextUpdate entries crlNumber).encode (signatureText rawSig)

/-- The signed part and the list fit their buffers. -/
def CrlFits (entries : List CrlEntry) (crlNumber : UInt32) (rawSig : Bytes) (capacity : Nat) : Prop :=
  (crlContents issuer thisUpdate nextUpdate entries crlNumber).signedPart.length ≤ certDerMax ∧
    (crlText issuer thisUpdate nextUpdate entries crlNumber rawSig).length ≤ capacity

/-- What fits the scratch buffer has short lengths throughout. -/
theorem crlText_length {issuer : Bytes} {thisUpdate nextUpdate : UInt64} {crlNumber : UInt32}
    (fits : (crlContents issuer thisUpdate nextUpdate entries crlNumber).signedPart.length ≤ certDerMax)
    (signed : rawSig.length = 64) :
    (crlText issuer thisUpdate nextUpdate entries crlNumber rawSig).length < 2 ^ 32 := by
  have short := (encodeSignature_ok signed).2
  have header (count : Nat) : (lengthBytes count).length ≤ 5 := by
    unfold lengthBytes
    split_ifs <;> simp [bigEndian_length]
  have outer := header ((crlContents issuer thisUpdate nextUpdate entries crlNumber).signedPart ++
    elements [(0x30, elements [(asn1Oid, oidEcdsaSha256)]), (0x03, 0 :: signatureText rawSig)]).length
  have bits := header (0 :: signatureText rawSig).length
  have algorithm : (tlv 0x30 (elements [(asn1Oid, oidEcdsaSha256)])).length = 12 := by decide
  have limit : certDerMax = 2048 := rfl
  simp only [crlText, Contents.encode, tlv, List.length_cons, List.length_append, elements_cons,
    elements_nil, crlContents, List.length_nil] at *
  omega

theorem encodeCrl_outcome (sized : Sized entries) (crlNumber : UInt32) (signed : rawSig.length = 64) (capacity : Nat) :
    match encodeCrl (tlv 0x30 issuer) thisUpdate nextUpdate entries crlNumber rawSig capacity with
    | .error errno => (errno = .enomem ∨ errno = .derBufTooSmall) ∧
        ¬ CrlFits issuer thisUpdate nextUpdate entries crlNumber rawSig capacity
    | .ok crl => CrlFits issuer thisUpdate nextUpdate entries crlNumber rawSig capacity ∧
        crl = crlText issuer thisUpdate nextUpdate entries crlNumber rawSig := by
  have writes := writeTbsCertList_writes issuer thisUpdate nextUpdate sized crlNumber ⟨certDerMax, []⟩
  rw [encodeCrl, writes]
  by_cases scratch : (crlContents issuer thisUpdate nextUpdate entries crlNumber).signedPart.length ≤ certDerMax
  · rw [if_pos scratch]
    rw [List.append_nil, (encodeSignature_ok signed).1]
    have outcome := assembleCrl_assembles (crlContents issuer thisUpdate nextUpdate entries crlNumber).signedPart
      (signatureText rawSig) capacity
    show match assembleCrl _ _ capacity with | .error errno => _ | .ok crl => _
    split
    · rename_i errno failed
      rw [failed] at outcome
      exact ⟨outcome.1.symm, fun fits => Nat.not_lt.mpr fits.2 outcome.2⟩
    · rename_i crl assembled
      rw [assembled] at outcome
      exact ⟨⟨scratch, outcome.2⟩, outcome.1⟩
  · rw [if_neg scratch]
    exact ⟨.inl rfl, fun fits => scratch fits.1⟩

end Cantil.Ca
