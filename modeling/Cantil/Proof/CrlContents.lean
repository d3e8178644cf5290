import Cantil.Firmware.Ca.Frames
import Cantil.Firmware.PlainBackend
import Cantil.Proof.CrlEncoding

namespace Cantil.Ca
open Library Library.Der DerWrite

/-- The record under the serial that the directory names. -/
def issuedRecord (device : Device) (name : Bytes) : Option (Bytes × IssuedMeta) := do
  let serial ← decodeName name
  let record ← (readIssuedMeta serial device).1.toOption
  return (serial, record)

def issuedRecords (device : Device) : List (Bytes × IssuedMeta) :=
  device.fs.certDirs.filterMap (issuedRecord device)

/-- The slot issued the certificate, and it is revoked. -/
def IssuedMeta.isRevokedBy (record : IssuedMeta) (slot : Slot) : Bool :=
  record.issuerSlot = slot ∧ record.flags &&& issuedFlagRevoked ≠ 0

/-- The revoked certificates in the directory's order. -/
def revokedRecords (device : Device) (slot : Slot) : List (Bytes × IssuedMeta) :=
  (issuedRecords device).filter fun issued => issued.2.isRevokedBy slot

/-- An unknown time of revocation is that of the list. -/
def crlEntry (thisUpdate : UInt64) (issued : Bytes × IssuedMeta) : CrlEntry :=
  ⟨issued.1, if issued.2.revokedAtUnix ≠ 0 then issued.2.revokedAtUnix else thisUpdate⟩

variable {name serial : Bytes}

/-- A directory names a serial of 1 to 20 octets. -/
theorem decodeName_sized (decoded : decodeName name = some serial) : 0 < serial.length ∧ serial.length ≤ 20 := by
  unfold decodeName at decoded
  split_ifs at decoded with shape
  have double := hexBytes_length decoded
  omega

variable (device : Device) (slot : Slot) (thisUpdate : UInt64)

/-- A visit adds a revoked record while there is room. -/
theorem crlCollectCb_eq (serial : Bytes) (context : CrlContext) :
    ∃ next, crlCollectCb slot thisUpdate serial context device = (.ok (next, false), device) ∧
      next.entries = match (readIssuedMeta serial device).1 with
        | .error _ => context.entries
        | .ok record =>
          if record.isRevokedBy slot ∧ context.entries.length < crlMaxRevoked then
            context.entries ++ [crlEntry thisUpdate (serial, record)]
          else context.entries := by
  rcases outcome : readIssuedMeta serial device with ⟨error | record, after⟩
  · obtain rfl := Op.read_state outcome
    exact ⟨context, by simp [crlCollectCb, Op.bind_apply, outcome], rfl⟩
  · obtain rfl := Op.read_state outcome
    simp only [crlCollectCb, Op.bind_apply, Op.attempt_apply, outcome, IssuedMeta.isRevokedBy]
    by_cases other : record.issuerSlot ≠ slot
    · exact ⟨context, by simp [other], by simp [other]⟩
    · by_cases valid : record.flags &&& issuedFlagRevoked = 0
      · exact ⟨context, by simp [other, valid], by simp [valid]⟩
      · by_cases full : crlMaxRevoked ≤ context.entries.length
        · exact ⟨{ context with overflow := true }, by simp [other, valid, full],
            by simp [Nat.not_lt.mpr full]⟩
        · refine ⟨{ context with entries := context.entries ++ [crlEntry thisUpdate (serial, record)] },
            by simp [other, valid, full, crlEntry], ?_⟩
          simp [other, valid, Nat.lt_of_not_le full]

/-- The collector keeps the first entries that it has room for. -/
theorem iterNames_collect (names : List Bytes) (context : CrlContext)
    (bounded : context.entries.length ≤ crlMaxRevoked) :
    ∃ final, iterNames (crlCollectCb slot thisUpdate) names context device = (.ok final, device) ∧
      final.entries = (context.entries ++ ((names.filterMap (issuedRecord device)).filter
        fun issued => issued.2.isRevokedBy slot).map (crlEntry thisUpdate)).take crlMaxRevoked := by
  induction names generalizing context with
  | nil => exact ⟨context, rfl, by simp [List.take_of_length_le bounded]⟩
  | cons name rest ih =>
    rcases decoded : decodeName name with _ | serial
    · obtain ⟨final, visited, held⟩ := ih context bounded
      have skipped : issuedRecord device name = none := by simp [issuedRecord, decoded]
      refine ⟨final, by simpa [iterNames, decoded] using visited, ?_⟩
      rw [held, List.filterMap_cons_none skipped]
    · obtain ⟨next, collected, entries⟩ := crlCollectCb_eq device slot thisUpdate serial context
      have onward : iterNames (crlCollectCb slot thisUpdate) (name :: rest) context device =
          iterNames (crlCollectCb slot thisUpdate) rest next device := by
        simp [iterNames, decoded, Op.bind_apply, collected]
      rw [onward]
      rcases read : (readIssuedMeta serial device).1 with error | record
      · have skipped : issuedRecord device name = none := by
          simp [issuedRecord, decoded, read, Except.toOption]
        simp only [read] at entries
        rw [List.filterMap_cons_none skipped, ← entries]
        exact ih next (entries ▸ bounded)
      · have found : issuedRecord device name = some (serial, record) := by
          simp [issuedRecord, decoded, read, Except.toOption]
        simp only [read] at entries
        rw [List.filterMap_cons_some found]
        by_cases revoked : record.isRevokedBy slot
        · rw [List.filter_cons, if_pos revoked, List.map_cons]
          by_cases room : context.entries.length < crlMaxRevoked
          · rw [if_pos ⟨revoked, room⟩] at entries
            rw [List.append_cons, ← entries]
            exact ih next (by rw [entries, List.length_append]; exact room)
          · have full : context.entries.length = crlMaxRevoked := by omega
            rw [if_neg (by simp [room])] at entries
            rw [List.take_left' full]
            obtain ⟨final, visited, held⟩ := ih next (entries ▸ bounded)
            exact ⟨final, visited, by rw [held, entries, List.take_left' full]⟩
        · rw [List.filter_cons, if_neg revoked]
          rw [if_neg (by simp [revoked])] at entries
          rw [← entries]
          exact ih next (entries ▸ bounded)

/-- The collector of the whole directory. -/
theorem storageIssuedCertsIter_collect :
    ∃ final, storageIssuedCertsIter (crlCollectCb slot thisUpdate) ⟨[], false⟩ device =
        (.ok final, device) ∧
      final.entries = ((revokedRecords device slot).take crlMaxRevoked).map (crlEntry thisUpdate) := by
  obtain ⟨final, visited, held⟩ := iterNames_collect device slot thisUpdate device.fs.certDirs
    ⟨[], false⟩ (Nat.zero_le _)
  refine ⟨final, visited, ?_⟩
  rw [held, List.map_take]
  rfl

theorem revokedRecords_sized : Sized (((revokedRecords device slot).take crlMaxRevoked).map (crlEntry thisUpdate)) := by
  intro entry listed
  obtain ⟨issued, held, rfl⟩ := List.mem_map.mp listed
  have present := List.mem_of_mem_filter (List.mem_of_mem_take held)
  obtain ⟨name, _, found⟩ := List.mem_filterMap.mp present
  simp only [issuedRecord, Option.bind_eq_bind, Option.bind_eq_some_iff, Option.pure_def,
    Option.some.injEq] at found
  obtain ⟨serial, decoded, record, _, rfl⟩ := found
  exact decodeName_sized decoded

/-- The subject is found as an element, right before its end. -/
def SubjectInPlace (wolf : WolfReader) : Prop :=
  ∀ der cert, wolf.parseCert der = some cert → ∃ before after,
    der = before ++ (tlv 0x30 cert.subjectRaw ++ after) ∧
      cert.subjectStart + cert.subjectRaw.length = (before ++ tlv 0x30 cert.subjectRaw).length

/-- The header that the code looks for is the one of the element. -/
theorem fillSubjectDer_eq {cert : DecodedCert} {before after : Bytes}
    (ends : cert.subjectStart + cert.subjectRaw.length = (before ++ tlv 0x30 cert.subjectRaw).length)
    (filled : fillSubjectDer cert (before ++ (tlv 0x30 cert.subjectRaw ++ after)) ≠ []) :
    fillSubjectDer cert (before ++ (tlv 0x30 cert.subjectRaw ++ after)) = tlv 0x30 cert.subjectRaw := by
  have whole : (tlv 0x30 cert.subjectRaw).length =
      1 + (lengthBytes cert.subjectRaw.length).length + cert.subjectRaw.length := by
    simp only [tlv, List.length_cons, List.length_append]
    omega
  rw [List.length_append] at ends
  simp only [fillSubjectDer] at filled ⊢
  generalize headed : (if cert.subjectRaw.length < 0x80 then 2 else if cert.subjectRaw.length ≤ 0xFF then 3
    else if cert.subjectRaw.length ≤ 0xFFFF then 4 else 5) = header at filled ⊢
  split_ifs at filled ⊢ with bounds marked
  · exact absurd rfl filled
  · exact absurd rfl filled
  · have header_eq : header = 1 + (lengthBytes cert.subjectRaw.length).length := by
      simp only [certparseSubjectMax] at bounds
      rw [← headed]
      unfold lengthBytes
      split_ifs <;> simp
      omega
    have starts : cert.subjectStart - header = before.length := by omega
    rw [starts, List.drop_left, header_eq, ← whole, List.take_left]

theorem subjectDer_element {wolf : WolfReader} (inPlace : SubjectInPlace wolf) {der : Bytes}
    {parsed : ParsedCert} (read : certparseCert wolf der = .ok parsed) (filled : parsed.subjectDer ≠ []) :
    ∃ content, parsed.subjectDer = tlv 0x30 content := by
  unfold certparseCert at read
  split_ifs at read
  split at read
  · cases read
  · rename_i cert decoded
    obtain ⟨before, after, rfl, ends⟩ := inPlace der cert decoded
    obtain rfl := Except.ok.inj read
    exact ⟨cert.subjectRaw, fillSubjectDer_eq ends filled⟩

section Building

variable {config : Config} {crypto : Crypto} {env : Env} {slot : Slot} {nowUnix : UInt64} {capacity : Nat}
  {device : Device} {crl : Bytes}

/-- A list encodes what was collected, subject and number. -/
theorem buildCrlDer_iff :
    (buildCrlDer config crypto env slot nowUnix capacity device).1 = .ok crl ↔
      ∃ context issuerCert issuer buf privkey rawSig,
      storageIssuedCertsIter (crlCollectCb slot nowUnix) ⟨[], false⟩ device = (.ok context, device) ∧
      (storageSlotCertRead slot certDerMax device).1 = .ok issuerCert ∧
      certparseCert crypto.toWolfReader issuerCert = .ok issuer ∧ issuer.subjectDer ≠ [] ∧
      writeTbsCertList issuer.subjectDer nowUnix (nowUnix + UInt64.ofNat config.crlValiditySec) context.entries
        (crlNumberShown (storageSlotCrlNumberRead slot device).1) ⟨certDerMax, []⟩ = .ok buf ∧
      (loadSlotPrivkey crypto env slot device).1 = .ok privkey ∧
      env.sign privkey (crypto.sha256 buf.1.out) = .ok rawSig ∧ rawSig.length = 64 ∧
      encodeCrl issuer.subjectDer nowUnix (nowUnix + UInt64.ofNat config.crlValiditySec) context.entries
        (crlNumberShown (storageSlotCrlNumberRead slot device).1) rawSig capacity = .ok crl := by
  constructor
  · intro built
    obtain ⟨context, collected, _⟩ := storageIssuedCertsIter_collect device slot nowUnix
    unfold buildCrlDer at built
    rw [Op.bind_of_ok collected] at built
    obtain ⟨stored, reading, built⟩ := Op.read_ok built
    obtain rfl := Except.ok.inj reading
    obtain ⟨issuerCert, read, built⟩ := Op.read_ok built
    rcases parsed : certparseCert crypto.toWolfReader issuerCert with _ | issuer
    · simp only [parsed] at built
      cases built
    simp only [parsed] at built
    obtain ⟨filled, built⟩ := Op.ensure_bind_ok built
    rcases wrote : writeTbsCertList issuer.subjectDer nowUnix (nowUnix + UInt64.ofNat config.crlValiditySec)
      context.entries (crlNumberShown (storageSlotCrlNumberRead slot device).1) ⟨certDerMax, []⟩ with
      (_ | _) | buf
    · simp only [wrote] at built
      cases built
    · simp only [wrote] at built
      cases built
    simp only [wrote] at built
    obtain ⟨privkey, loaded, built⟩ := Op.read_ok built
    rcases signed : env.sign privkey (crypto.sha256 buf.1.out) with _ | rawSig
    · simp only [signed] at built
      cases built
    simp only [signed] at built
    obtain ⟨sized, built⟩ := Op.ensure_bind_ok built
    obtain ⟨sigDer, encoded, built⟩ := Op.read_ok built
    refine ⟨context, issuerCert, issuer, buf, privkey, rawSig, collected, read, parsed, filled, wrote, loaded, signed,
      sized, ?_⟩
    rw [encodeCrl, wrote]
    rw [show encodeSignature rawSig = .ok sigDer from encoded]
    exact built
  · rintro ⟨context, issuerCert, issuer, buf, privkey, rawSig, collected, read, parsed, filled, wrote, loaded, signed,
      sized, encoded⟩
    have text := (encodeSignature_ok sized).1
    rw [encodeCrl, wrote, text] at encoded
    rw [buildCrlDer, Op.bind_of_ok collected, Op.read_ok_iff]
    refine ⟨_, rfl, Op.read_ok_iff.mpr ⟨issuerCert, read, ?_⟩⟩
    simp only [parsed]
    refine Op.read_ok_iff.mpr ⟨(), Op.ensure_ok.mpr filled, ?_⟩
    simp only [wrote]
    refine Op.read_ok_iff.mpr ⟨privkey, loaded, ?_⟩
    simp only [signed]
    exact Op.read_ok_iff.mpr ⟨(), Op.ensure_ok.mpr sized, Op.read_ok_iff.mpr ⟨_, text, encoded⟩⟩

/-- A built list reads as the slot's revocations and number. -/
theorem buildCrlDer_ok (inPlace : SubjectInPlace crypto.toWolfReader)
    (built : (buildCrlDer config crypto env slot nowUnix capacity device).1 = .ok crl) :
    Crl.read crl = some ⟨((revokedRecords device slot).take crlMaxRevoked).map
      fun issued => bigEndianValue issued.1,
      (crlNumberShown (storageSlotCrlNumberRead slot device).1).toNat⟩ := by
  obtain ⟨context, _, issuer, _, _, rawSig, collected, _, parsed, filled, _, _, _, signed, encoded⟩ :=
    buildCrlDer_iff.mp built
  obtain ⟨_, same, held⟩ := storageIssuedCertsIter_collect device slot nowUnix
  obtain rfl := Except.ok.inj (congrArg Prod.fst (collected.symm.trans same))
  have sized := revokedRecords_sized device slot nowUnix
  rw [← held] at sized
  obtain ⟨name, subject⟩ := subjectDer_element inPlace parsed filled
  have outcome := encodeCrl_outcome name nowUnix (nowUnix + UInt64.ofNat config.crlValiditySec) sized
    (crlNumberShown (storageSlotCrlNumberRead slot device).1) signed capacity
  rw [← subject, encoded] at outcome
  obtain ⟨fits, rfl⟩ := outcome
  rw [crlText, Crl.read_encode _ _ (crlText_length fits.1 signed)]
  simp [crlContents, held, Function.comp_def, crlEntry]

end Building

theorem hexName_of_decodeName (decoded : decodeName name = some serial) : hexName serial = name := by
  unfold decodeName at decoded
  split_ifs at decoded
  exact hexName_hexBytes decoded

theorem issuedRecord_name {device : Device} {issued : Bytes × IssuedMeta}
    (found : issuedRecord device name = some issued) : hexName issued.1 = name := by
  simp only [issuedRecord, Option.bind_eq_bind, Option.bind_eq_some_iff, Option.pure_def,
    Option.some.injEq] at found
  obtain ⟨serial, decoded, record, _, rfl⟩ := found
  exact hexName_of_decodeName decoded

/-- No serial is listed twice. -/
theorem issuedRecords_nodup : ((issuedRecords device).map Prod.fst).Nodup := by
  have inOrder (names : List Bytes) : (((names.filterMap (issuedRecord device)).map Prod.fst).map
      hexName).Sublist names := by
    induction names with
    | nil => exact List.Sublist.refl []
    | cons name rest ih =>
      rcases found : issuedRecord device name with _ | issued
      · rw [List.filterMap_cons_none found]
        exact ih.cons name
      · rw [List.filterMap_cons_some found, List.map_cons, List.map_cons, issuedRecord_name found]
        exact ih.cons_cons name
  exact ((inOrder device.fs.certDirs).nodup device.fs.certDirs_nodup).of_map hexName

theorem revokedRecords_nodup : ((revokedRecords device slot).map Prod.fst).Nodup :=
  (List.filter_sublist.map Prod.fst).nodup (issuedRecords_nodup device)

end Cantil.Ca

namespace Cantil.Dispatcher
open Library Ca
open Protocol (Command)

variable {config : Config} {crypto : Crypto} {env : Env} {device : Device}

/-- A successful reply carries the list that was built. -/
theorem serve_getCrl_ok {data : Bytes} {resp : RespData}
    (answered : (serve config crypto env Command.getCrl.code data device).1 = .ok (.reply ⟨.ok, resp⟩)) :
    ∃ crl, resp = RespData.of crl ∧
      (caGetCrl config crypto env (slotArg data) (u64Arg 4 data) respCapacity device).1 = .ok crl := by
  unfold serve at answered
  rcases Protocol.dispatch_code config env.gestureState (conditions env device) Command.getCrl with
    ⟨err, failed, refused⟩ | admitted
  · simp_all [refusal]
  · rw [admitted] at answered
    simp only [handle, handleGetCrl] at answered
    split_ifs at answered
    · simp [refusal] at answered
    · simp [refusal] at answered
    · rw [Op.bind_apply, Op.attempt_apply] at answered
      rcases built : (caGetCrl config crypto env (slotArg data) (u64Arg 4 data) respCapacity device).1 with
        error | crl
      · rw [built] at answered
        cases error <;> simp [refusal] at answered
      · rw [built] at answered
        simpa using answered.symm

theorem caGetCrl_ok {slot : Slot} {nowUnix : UInt64} {capacity : Nat} {crl : Bytes}
    (got : (caGetCrl config crypto env slot nowUnix capacity device).1 = .ok crl) :
    (buildCrlDer config crypto env slot nowUnix capacity device).1 = .ok crl := by
  simp only [caGetCrl, Op.read_ok_iff, Op.ensure_ok, exists_const] at got
  obtain ⟨_, _, _, _, _, _, _, _, _, got⟩ := got
  exact got

/-- What a client reads out of a successful reply. -/
theorem read_getCrl {data : Bytes} {resp : RespData} (inPlace : SubjectInPlace crypto.toWolfReader)
    (answered : (serve config crypto env Command.getCrl.code data device).1 = .ok (.reply ⟨.ok, resp⟩))
    (stale : Bytes) :
    Crl.read (RespData.bytes stale resp) = some ⟨((revokedRecords device (slotArg data)).take crlMaxRevoked).map
      fun issued => bigEndianValue issued.1,
      (crlNumberShown (storageSlotCrlNumberRead (slotArg data) device).1).toNat⟩ := by
  obtain ⟨crl, rfl, got⟩ := serve_getCrl_ok answered
  rw [RespData.bytes_of]
  exact buildCrlDer_ok inPlace (caGetCrl_ok got)

/-- `GET_CRL` lists the slot's first 64 revoked certificates. -/
theorem getCrl_lists_revoked (config : Config) (crypto : Crypto) (env : Env) (device : Device)
    (data stale : Bytes) (resp : RespData) (inPlace : SubjectInPlace crypto.toWolfReader)
    (answered : (serve config crypto env Command.getCrl.code data device).1 = .ok (.reply ⟨.ok, resp⟩)) :
    ((revokedRecords device (slotArg data)).map Prod.fst).Nodup ∧
      (Crl.read (RespData.bytes stale resp)).map Crl.View.serials =
        some (((revokedRecords device (slotArg data)).take 64).map fun issued => bigEndianValue issued.1) := by
  refine ⟨revokedRecords_nodup device (slotArg data), ?_⟩
  rw [read_getCrl inPlace answered]
  rfl

/-- The plain reader finds the fixed name at the front. -/
theorem plainCrypto_subjectInPlace : SubjectInPlace plainCrypto.toWolfReader := by
  intro der cert decoded
  simp only [plainCrypto] at decoded
  split_ifs at decoded with shape
  obtain rfl := Option.some.inj decoded
  refine ⟨[], der.drop 4, ?_, rfl⟩
  show der = plainName ++ der.drop 4
  rw [← shape.2, List.take_append_drop]

/-- The list of slot 0 at the start of 2026. -/
def crlRequest : Bytes := [0, 0, 0, 0] ++ bigEndian 8 signCsrNotBeforeUnix

/-- The octets of a reply, whatever its code. -/
def replyData : Except Errno Answer → RespData
  | .ok (.reply reply) => reply.data
  | _ => RespData.none

/-- The root signs one request and revokes the certificate. -/
def revokedDevice : Device :=
  Trace.run (step .default plainCrypto) provisionedDevice
    [request 3 .signCsr (plainPoint (List.replicate 32 9)), request 4 .revokeCert (8 :: List.replicate 8 3)]

def revokedCrl : RespData :=
  replyData (serve .default plainCrypto (plainEnv 5) Command.getCrl.code crlRequest revokedDevice).1

/-- The certificate that was revoked is the one that is listed. -/
theorem revokedDevice_listed :
    (revokedRecords revokedDevice caSlot).map Prod.fst = [List.replicate 8 3] ∧
      (Crl.read (RespData.bytes [] revokedCrl)).map Crl.View.serials =
        some (((revokedRecords revokedDevice caSlot).take 64).map fun issued => bigEndianValue issued.1) :=
  ⟨by decide +kernel,
    (getCrl_lists_revoked .default plainCrypto (plainEnv 5) revokedDevice crlRequest [] revokedCrl
      plainCrypto_subjectInPlace (by decide +kernel)).2⟩

/-- The record of a revoked certificate of slot 0. -/
def revokedMeta : IssuedMeta :=
  { Issue.record ⟨[1], [], caSlot, []⟩ with version := issuedMetaVersion, flags := issuedFlagRevoked }

def crowdedNames : List Bytes := (List.range 65).map fun index => hexName [UInt8.ofNat (index + 1)]

theorem crowdedNames_nodup : crowdedNames.Nodup := by
  decide +kernel

/-- Slot 0 is ready and has revoked 65 certificates. -/
def crowdedDevice : Device where
  fs := {
    files
      | .issued name .metadata => if crowdedNames.contains name then some revokedMeta.bytes else none
      | .slot 0 .key => some (List.replicate 32 1)
      | .slot 0 .cert => some (plainCert (plainPoint (List.replicate 32 1)))
      | _ => none
    certDirs := crowdedNames
    certDirs_nodup := crowdedNames_nodup
    listed := by
      intro name file present
      cases file with
      | cert => cases present
      | metadata =>
        by_contra missing
        simp [missing] at present }
  volume := .valid
  provisioned := true

def crowdedCrl : RespData :=
  replyData (serve .default plainCrypto (plainEnv 5) Command.getCrl.code crlRequest crowdedDevice).1

/-- With 65 revoked certificates the list leaves one out. -/
theorem crowdedDevice_truncates :
    (∀ name ∈ crowdedDevice.fs.certDirs, (issuedRecord crowdedDevice name).isSome) ∧
      (serve .default plainCrypto (plainEnv 5) Command.getCrl.code crlRequest crowdedDevice).1 =
        .ok (.reply ⟨.ok, crowdedCrl⟩) ∧
      (Crl.read (RespData.bytes [] crowdedCrl)).map Crl.View.serials ≠
        some ((revokedRecords crowdedDevice caSlot).map fun issued => bigEndianValue issued.1) := by
  decide +kernel

end Cantil.Dispatcher
