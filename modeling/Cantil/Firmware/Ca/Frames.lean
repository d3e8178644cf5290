import Cantil.Firmware.Ca.Crl

namespace Cantil.Ca
open Library

/-! What only reads. -/

section Readers

variable (config : Config) (crypto : Crypto) (serial : Bytes) (env : Env) (slot : Slot)

instance : Op.Reader (metaRead slot) := by
  unfold metaRead
  infer_instance

instance : Op.Reader (readIssuedMeta serial) := by
  unfold readIssuedMeta
  infer_instance

instance : Op.Reader (loadSlotPrivkey crypto env slot) := by
  unfold loadSlotPrivkey
  infer_instance

/-- The key is read from its own file. -/
theorem loadSlotPrivkey_congr {crypto : Crypto} {env : Env} {slot : Slot} {device after : Device}
    (key : after.fs.files (.slot slot .key) = device.fs.files (.slot slot .key)) :
    (loadSlotPrivkey crypto env slot after).1 = (loadSlotPrivkey crypto env slot device).1 := by
  rcases derive : env.storageKeyDerive with error | _
  · simp [loadSlotPrivkey, Op.bind_apply, derive]
  rcases held : device.fs.files (.slot slot .key) with _ | blob
  · simp [loadSlotPrivkey, Op.bind_apply, derive, storageKeyRead, readFile, key, held]
  rcases opened : crypto.decryptBlob (blob.take keyBlobMax) with error | privkey
  · simp [loadSlotPrivkey, Op.bind_apply, derive, storageKeyRead, readFile, key, held, opened]
  · by_cases size : privkey.length = 32 <;>
      simp [loadSlotPrivkey, Op.bind_apply, derive, storageKeyRead, readFile, key, held, opened, Op.ensure, size]

instance : Op.Reader (genSerial env) := by
  refine .read fun bytes => ?_
  split <;> infer_instance

instance : Op.Reader (deriveSlotPubkey crypto env slot) := by
  unfold deriveSlotPubkey
  infer_instance

instance : Op.Reader (loadIssuerX509Params slot) := by
  unfold loadIssuerX509Params
  infer_instance

theorem loadIssuerX509Params_congr {slot : Slot} {device after : Device}
    (params : after.fs.files (.slot slot .x509Data) = device.fs.files (.slot slot .x509Data)) :
    (loadIssuerX509Params slot after).1 = (loadIssuerX509Params slot device).1 := by
  rcases held : device.fs.files (.slot slot .x509Data) with _ | data <;>
    simp [loadIssuerX509Params, Op.bind_apply, storageSlotX509Read, readFile, params, held]

instance : Op.Reader (caReady) := by
  unfold caReady
  infer_instance

instance : Op.Reader (protectedWithCert slot) := by
  refine .read fun outcome => ?_
  split <;> infer_instance

instance (slots : List Slot) : Op.Reader (firstFreeSlot slots) := by
  induction slots with
  | nil => exact .fail _
  | cons slot rest ih =>
    unfold firstFreeSlot
    infer_instance

instance (csr : Bytes) (capacity : Nat) : Op.Reader (prepareCsrIssue config crypto env slot csr capacity) :=
  .read fun _ => .read fun _ => .read fun _ => .read fun _ => .read fun _ => .read fun _ => .read fun _ =>
    .read fun _ => inferInstance

instance (load : Op Device Errno X509Params) [Op.Reader load] : Op.Reader (prepareKeyIssue.orNotFound load) := by
  refine .read fun outcome => ?_
  split <;> infer_instance

instance (issuerSlot subjectSlot : Slot) :
    Op.Reader (prepareKeyIssue config crypto env issuerSlot subjectSlot) :=
  .read fun _ => .read fun _ => .read fun _ => .read fun _ => .read fun _ => .read fun _ => .read fun _ =>
    .read fun _ => .read fun _ => .read fun _ => .read fun _ => inferInstance

instance (thisUpdate : UInt64) (context : CrlContext) : Op.Reader (crlCollectCb slot thisUpdate serial context) := by
  refine .read fun outcome => ?_
  split <;> infer_instance

instance (nowUnix : UInt64) (capacity : Nat) :
    Op.Reader (buildCrlDer config crypto env slot nowUnix capacity) := by
  refine .read fun _ => .read fun _ => .read fun _ => ?_
  split
  · infer_instance
  · refine .read fun _ => ?_
    dsimp only
    split
    · infer_instance
    · infer_instance
    · refine .read fun _ => ?_
      split <;> infer_instance

instance (nowUnix : UInt64) (capacity : Nat) : Op.Reader (caGetCrl config crypto env slot nowUnix capacity) :=
  .read fun _ => .read fun _ => .read fun _ => .read fun _ => inferInstance

end Readers

/-! What writes respects every preorder that its writes respect. -/

section Writers

variable {relation : Device → Device → Prop} [IsPreorder Device relation]
variable {config : Config} {crypto : Crypto} {env : Env} {slot : Slot}
variable {serial : Bytes}

theorem setProvisioned_sameOutside (touched : Path → Prop) :
    Op.Respects (SameOutside touched) setProvisioned :=
  fun _ _ _ => rfl

theorem createKey_respects (key : Writable relation env.toFaults (.slot slot .key))
    (metadata : Writable relation env.toFaults (.slot slot .metadata)) (record : SlotMeta) :
    Op.Respects relation (createKey env slot record) :=
  .read fun _ => .read fun _ =>
    .read fun _ => (key.write _).bind fun _ => metadata.write _

theorem createKey_frame (env : Env) (slot : Slot) (record : SlotMeta) (device : Device) :
    SameOutside (fun path => path = .slot slot .key ∨ path = .slot slot .metadata) device
      (createKey env slot record device).2 :=
  createKey_respects (writable_of_touched (.inl rfl)) (writable_of_touched (.inr rfl)) record device

/-- A CA key goes into an empty slot of a volume that may mint. -/
theorem caProvision_related {device : Device} {keyType : UInt8} (marked : Op.Respects relation setProvisioned)
    (creates : device.fs.files (.slot caSlot .key) = none → mayMint device = true →
      relation device (createKey env caSlot (slotMetaOf (normalizeKeyType keyType) 1 1) device).2) :
    relation device (caProvision env keyType device).2 := by
  refine Op.relates_ensure fun _ => Op.relates_reader fun _ looked => Op.relates_ensure fun absent => ?_
  refine Op.relates_reader fun _ asked => Op.relates_ensure fun allowed => ?_
  obtain rfl := Except.ok.inj looked
  obtain rfl := Except.ok.inj asked
  exact Op.relates_bind (creates (by simpa using absent) allowed) fun _ between _ => marked between

/-- Parameters that pass are stored, and the slot signs itself. -/
theorem caPushKeyX509_related {device : Device} {data : Bytes}
    (stores : ∀ params, data.length ≠ 0 ∧ data.length ≤ x509DataMax → (protectedWithCert slot device).1 = .ok false →
      x509Parse data = .ok params →
      relation device ((do
        storageSlotX509Write env.toFaults slot data
        buildSelfSignedCert config crypto env slot params
        let _ ← (storageSlotChainDelete env.toFaults slot).attempt : Op Device Errno Unit) device).2) :
    relation device (caPushKeyX509 config crypto env slot data device).2 := by
  apply Op.relates_ensure
  intro size
  apply Op.relates_reader
  intro protection looked
  apply Op.relates_ensure
  rintro rfl
  apply Op.relates_reader
  intro params parsed
  exact stores params size looked parsed

theorem replaceChain_respects (inside : Writable relation env.toFaults (.slot slot .chain))
    (chain : Bytes) :
    Op.Respects relation (replaceChain env slot chain) := by
  unfold replaceChain
  split
  · exact inside.write _
  · exact (storageSlotChainDelete_respects inside).attempt.bind fun _ => .pure _

theorem caPushCert_respects (cert : Writable relation env.toFaults (.slot caSlot .cert))
    (chain : Writable relation env.toFaults (.slot caSlot .chain)) (der extra : Bytes) :
    Op.Respects relation (caPushCert env der extra) :=
  (cert.write _).bind fun _ => replaceChain_respects chain _

/-- A certificate over its slot's key is stored. -/
theorem caPushKeyCert_related {device : Device} {der extra : Bytes}
    (stores : ∀ parsed pub, slot < config.maxKeySlots → (device.fs.files (.slot slot .key)).isSome →
      certparseCert crypto.toWolfReader der = .ok parsed → (deriveSlotPubkey crypto env slot device).1 = .ok pub →
      parsed.pubkey = some pub →
      relation device ((do
        storageSlotCertWrite env.toFaults slot der
        replaceChain env slot extra : Op Device Errno Unit) device).2) :
    relation device (caPushKeyCert config crypto env slot der extra device).2 := by
  apply Op.relates_ensure
  intro _
  apply Op.relates_ensure
  intro inside
  apply Op.relates_reader
  intro _ looked
  obtain rfl := Except.ok.inj looked
  apply Op.relates_ensure
  intro present
  apply Op.relates_reader
  intro _ _
  apply Op.relates_ensure
  intro _
  apply Op.relates_reader
  intro parsed read
  apply Op.relates_ensure
  intro _
  apply Op.relates_reader
  intro pub derives
  apply Op.relates_ensure
  intro matched
  exact stores parsed pub inside present read derives matched

theorem caDeleteKey_respects (deleted : Op.Respects relation (storageSlotDelete env.toFaults slot)) :
    Op.Respects relation (caDeleteKey config env slot) := by
  refine .read fun _ => .read fun _ => ?_
  refine .read fun _ => .read fun _ => ?_
  refine .read fun outcome => ?_
  split
  · exact .read fun _ => deleted
  · exact deleted

/-- Refused, or the slot is unprotected, keyed and not 0. -/
theorem caDeleteKey_cases (config : Config) (env : Env) (slot : Slot) (device : Device) :
    (caDeleteKey config env slot device).2 = device ∨
      slot ≠ caSlot ∧ (device.fs.files (.slot slot .key)).isSome ∧
        (∀ record, (metaRead slot device).1 = .ok record → record.isProtected = 0) ∧
        (caDeleteKey config env slot device).2 = (storageSlotDelete env.toFaults slot device).2 := by
  by_cases numbered : slot ≠ caSlot
  · by_cases inside : slot < config.maxKeySlots
    · rcases present : device.fs.files (.slot slot .key) with _ | blob
      · simp [caDeleteKey, Op.bind_apply, Op.ensure, numbered, inside, present]
      · rcases read : metaRead slot device with ⟨error | record, between⟩
        · obtain rfl := Op.read_state read
          simp [caDeleteKey, Op.bind_apply, Op.ensure, numbered, inside, present, read]
        · obtain rfl := Op.read_state read
          by_cases free : record.isProtected = 0
          · simp [caDeleteKey, Op.bind_apply, Op.ensure, numbered, inside, present,
              read, free]
          · simp [caDeleteKey, Op.bind_apply, Op.ensure, numbered, inside, present,
              read, free]
    · simp [caDeleteKey, Op.bind_apply, Op.ensure, numbered, inside]
  · simp [caDeleteKey, Op.bind_apply, Op.ensure, numbered]

theorem caGenKeyCsr_respects (csr : Writable relation env.toFaults (.slot slot .csr))
    (subjectDn : Bytes) :
    Op.Respects relation (caGenKeyCsr config crypto env slot subjectDn) :=
  .read fun _ => .read fun _ =>
    .read fun _ => .read fun _ =>
    .read fun _ => .read fun _ =>
    .read fun _ => csr.write _

/-- A serial names the directory of its certificate or none. -/
theorem hexPath_eq_ok {file : IssuedFile} {path : Path} (named : hexPath serial file = .ok path) :
    path = .issued (hexName serial) file := by
  unfold hexPath at named
  split_ifs at named
  exact (Except.ok.inj named).symm

theorem storageIssuedMetaWrite_respects (inside : Writable relation env.toFaults (.issued (hexName serial) .metadata))
    (blob : Bytes) : Op.Respects relation (storageIssuedMetaWrite env.toFaults serial blob) := by
  intro device
  unfold storageIssuedMetaWrite
  rcases named : hexPath serial .metadata with error | path
  · exact refl device
  · obtain rfl := hexPath_eq_ok named
    exact inside.write blob device

theorem persistIssue_respects {issue : Issue}
    (inside : ∀ file, Writable relation env.toFaults (.issued (hexName issue.serial) file)) :
    Op.Respects relation (persistIssue env issue) :=
  Op.Respects.bind (.read fun _ => (inside .cert).write _) fun _ =>
    storageIssuedMetaWrite_respects (inside .metadata) _

theorem caSignCsrSlot_respects
    (issued : ∀ name file, Writable relation env.toFaults (.issued name file)) (csr : Bytes)
    (capacity : Nat) :
    Op.Respects relation (caSignCsrSlot config crypto env slot csr capacity) := by
  refine .read fun outcome => ?_
  split
  · exact .pure _
  · exact (persistIssue_respects (issued _)).attempt.bind fun _ => .pure _

theorem caRevokeCert_respects (record : Writable relation env.toFaults (.issued (hexName serial) .metadata))
    (number : ∀ slot, Writable relation env.toFaults (.slot slot .crlNumber)) (nowUnix : UInt64) :
    Op.Respects relation (caRevokeCert env serial nowUnix) :=
  .read fun _ => .read fun _ =>
    .read fun _ => .read fun _ =>
    (storageIssuedMetaWrite_respects record _).bind fun _ =>
    .read fun _ =>
    ((number _).write _).attempt.bind fun _ => .pure _

section Pair

variable (cert : Writable relation env.toFaults (.slot slot .cert))
variable (chain : Writable relation env.toFaults (.slot slot .chain))
include cert

theorem buildSelfSignedCert_respects (params : X509Params) :
    Op.Respects relation (buildSelfSignedCert config crypto env slot params) :=
  .read fun _ => .read fun _ =>
    .read fun _ => .read fun _ => cert.write _

include chain

theorem caPushKeyX509_respects (x509 : Writable relation env.toFaults (.slot slot .x509Data)) (data : Bytes) :
    Op.Respects relation (caPushKeyX509 config crypto env slot data) := by
  intro device
  apply caPushKeyX509_related
  intro params _ _ _
  exact ((x509.write _).bind fun _ => (buildSelfSignedCert_respects cert _).bind fun _ =>
    (storageSlotChainDelete_respects chain).attempt.bind fun _ => .pure _) device

theorem caPushKeyCert_respects (der extra : Bytes) :
    Op.Respects relation (caPushKeyCert config crypto env slot der extra) := by
  intro device
  apply caPushKeyCert_related
  intro parsed pub _ _ _ _ _
  exact ((cert.write _).bind fun _ => replaceChain_respects chain _) device

theorem caSignKeySlot_respects (issued : ∀ name file, Writable relation env.toFaults (.issued name file))
    (issuer : Slot) : Op.Respects relation (caSignKeySlot config crypto env issuer slot) :=
  .read fun _ => (cert.write _).bind fun _ =>
    (storageSlotChainDelete_respects chain).attempt.bind fun _ => persistIssue_respects (issued _)

end Pair

/-- A record may be written back with more flags. -/
def Remarks (relation : Device → Device → Prop) (faults : Faults) (bits : UInt8) : Prop :=
  ∀ device serial record, (readIssuedMeta serial device).1 = .ok record →
    relation device (storageIssuedMetaWrite faults serial
      { record with flags := record.flags ||| bits : IssuedMeta }.bytes device).2

theorem remarks_of_writable (records : ∀ name, Writable relation env.toFaults (.issued name .metadata))
    (bits : UInt8) : Remarks relation env.toFaults bits :=
  fun device _ _ _ => storageIssuedMetaWrite_respects (records _) _ device

/-- A selected record may be written back with its flag. -/
def Selects (relation : Device → Device → Prop) (faults : Faults)
    (selected : IssuedMeta → Prop) (flag : UInt8) : Prop :=
  ∀ device serial record, (readIssuedMeta serial device).1 = .ok record → selected record → record.flags &&& flag = 0 →
    relation device (storageIssuedMetaWrite faults serial
      { record with flags := record.flags ||| flag : IssuedMeta }.bytes device).2

/-- The time of the certificate is over. -/
def IssuedMeta.Ended (nowUnix : UInt64) (record : IssuedMeta) : Prop :=
  record.notAfterUnix ≠ 0 ∧ record.notAfterUnix ≤ nowUnix

theorem expireCb_selects {nowUnix : UInt64}
    (marks : Selects relation env.toFaults (·.Ended nowUnix) issuedFlagExpired) (serial : Bytes)
    (context : ExpireContext) : Op.Respects relation (expireCb env nowUnix serial context) := by
  intro device
  refine Op.relates_reader fun outcome read => ?_
  cases outcome with
  | error => exact refl device
  | ok record =>
    dsimp only
    split_ifs with unlimited marked early
    · exact refl device
    · exact refl device
    · exact refl device
    · refine Op.relates_bind (marks device serial record (Except.ok.inj read)
        ⟨unlimited, UInt64.not_lt.mp early⟩ (not_not.mp marked)) fun written between _ => ?_
      cases written <;> exact refl between

theorem caAutoExpire_selects {nowUnix : UInt64}
    (marks : Selects relation env.toFaults (·.Ended nowUnix) issuedFlagExpired) :
    Op.Respects relation (caAutoExpire env nowUnix) := by
  refine .read fun _ => ?_
  refine (storageIssuedCertsIter_respects (expireCb_selects marks) _).bind fun context => ?_
  split
  · exact .fail _
  · exact .pure _

theorem caAutoExpire_respects (marks : Remarks relation env.toFaults issuedFlagExpired)
    (nowUnix : UInt64) : Op.Respects relation (caAutoExpire env nowUnix) :=
  caAutoExpire_selects fun device serial record read _ _ => marks device serial record read

theorem propagateProtectedCb_selects
    (marks : Selects relation env.toFaults (·.issuerSlot = slot) issuedFlagProtected) (serial : Bytes)
    (count : UInt32) : Op.Respects relation (propagateProtectedCb env slot serial count) := by
  intro device
  refine Op.relates_reader fun outcome read => ?_
  cases outcome with
  | error => exact refl device
  | ok record =>
    dsimp only
    split_ifs with other marked
    · exact refl device
    · exact refl device
    · refine Op.relates_bind (marks device serial record (Except.ok.inj read) (not_not.mp other)
        (not_not.mp marked)) fun written between _ => ?_
      cases written <;> exact refl between

variable (metadata : Writable relation env.toFaults (.slot slot .metadata))

include metadata

theorem caProtectSlot_selects {protectIssued : Bool}
    (marks : protectIssued = true → Selects relation env.toFaults (·.issuerSlot = slot) issuedFlagProtected) :
    Op.Respects relation (caProtectSlot config env slot protectIssued) := by
  refine .read fun _ => .read fun _ => ?_
  refine .read fun _ => .read fun _ => ?_
  refine (metadata.write _).bind fun _ => ?_
  split
  · exact (storageIssuedCertsIter_respects (propagateProtectedCb_selects (marks ‹_›)) _).bind fun _ => .pure _
  · exact .pure _

theorem caProtectSlot_respects
    (marks : Remarks relation env.toFaults issuedFlagProtected) (protectIssued : Bool) :
    Op.Respects relation (caProtectSlot config env slot protectIssued) :=
  caProtectSlot_selects metadata fun _ device serial record read _ _ => marks device serial record read

theorem caUnprotectSlot_respects :
    Op.Respects relation (caUnprotectSlot config env slot) :=
  .read fun _ => .read fun _ =>
    .read fun _ => .read fun _ =>
    metadata.write _

omit metadata

/-- A new key goes into the first free slot of a minting volume. -/
theorem caGenKey_related {device : Device} {keyType : UInt8}
    (creates : ∀ free, (firstFreeSlot (keySlots config) device).1 = .ok free → mayMint device = true →
      relation device (createKey env free (slotMetaOf keyTypeP256 0 0) device).2) :
    relation device (caGenKey config env keyType device).2 := by
  refine Op.relates_ensure fun _ => Op.relates_reader fun _ asked => Op.relates_ensure fun allowed => ?_
  refine Op.relates_reader fun free found => ?_
  obtain rfl := Except.ok.inj asked
  exact Op.relates_bind (creates free found allowed) fun _ between _ => refl between

/-- A boot marks the device, and restores slot 0's certificate. -/
theorem caInit_related {device : Device} (marked : Op.Respects relation setProvisioned)
    (signs : ∀ params, (storageKeyRead caSlot keyBlobMax device).1 ≠ .ok [] →
      device.fs.files (.slot caSlot .cert) = none →
      (loadIssuerX509Params caSlot { device with provisioned := true }).1 = .ok params →
      relation { device with provisioned := true }
        (buildSelfSignedCert config crypto env caSlot params { device with provisioned := true }).2) :
    relation device (caInit config crypto env device).2 := by
  refine Op.relates_reader fun outcome read => ?_
  split
  · refine Op.relates_bind (marked device) fun _ between set => ?_
    obtain rfl := (Prod.mk.inj set).2
    refine Op.relates_reader fun present looked => ?_
    obtain rfl := Except.ok.inj looked
    split_ifs with held
    · exact refl _
    · refine Op.relates_reader fun outcome loaded => ?_
      split
      · exact signs _ (by rw [Except.ok.inj read]; simp) (by simpa using held) (Except.ok.inj loaded)
      · exact refl _
  · exact refl device

theorem caInit_respects (cert : Writable relation env.toFaults (.slot caSlot .cert))
    (marked : Op.Respects relation setProvisioned) :
    Op.Respects relation (caInit config crypto env) :=
  fun _ => caInit_related marked fun params _ _ _ => buildSelfSignedCert_respects cert params _

/-- A boot builds no certificate when slot 0 holds one. -/
theorem caInit_of_cert (device : Device) (present : (device.fs.files (.slot caSlot .cert)).isSome) :
    (caInit config crypto env device).2.fs = device.fs := by
  rcases read : storageKeyRead caSlot keyBlobMax device with ⟨_ | _ | ⟨head, tail⟩, after⟩
  all_goals
    obtain rfl : device = after := congrArg Prod.snd read
    simp [caInit, Op.bind_apply, read, setProvisioned, storageSlotCertExists, fileExists, present]

end Writers

/-! The records of the issued certificates. -/

section Records

/-- The record in a directory of `/certs`. -/
def recordAt (device : Device) (name : Bytes) : Option IssuedMeta :=
  (device.fs.files (.issued name .metadata)).bind fun blob =>
    (parseIssuedMeta (blob.take (issuedMetaSize + 8))).toOption

variable {serial : Bytes} {device : Device} {record : IssuedMeta}

/-- A serial is read in the directory of its text. -/
theorem readIssuedMeta_named (short : serial.length * 2 + 20 < pathMaxLen) (device : Device) :
    (readIssuedMeta serial device).1.toOption = recordAt device (hexName serial) := by
  have path : hexPath serial .metadata = .ok (.issued (hexName serial) .metadata) := by
    rw [hexPath, if_neg (by omega), if_neg (by omega)]
  rcases held : device.fs.files (.issued (hexName serial) .metadata) with _ | blob
  · simp [readIssuedMeta, storageIssuedMetaRead, Op.bind_apply, path, readFile, held, recordAt, Except.toOption]
  · rcases parsed : parseIssuedMeta (blob.take (issuedMetaSize + 8)) with error | record
    · simp [readIssuedMeta, storageIssuedMetaRead, Op.bind_apply, path, readFile, held, recordAt, parsed,
        Except.toOption]
    · simp [readIssuedMeta, storageIssuedMetaRead, Op.bind_apply, path, readFile, held, recordAt, parsed,
        Except.toOption]

theorem readIssuedMeta_toOption (short : serial.length ≤ 20) (device : Device) :
    (readIssuedMeta serial device).1.toOption = recordAt device (hexName serial) :=
  readIssuedMeta_named (by simp only [pathMaxLen]; omega) device

variable (read : (readIssuedMeta serial device).1 = .ok record)
include read

/-- A serial that is read has its record in its directory. -/
theorem recordAt_of_read :
    hexPath serial .metadata = .ok (.issued (hexName serial) .metadata) ∧
      recordAt device (hexName serial) = some record := by
  obtain ⟨buf, loaded, parsed⟩ := Op.read_ok read
  obtain ⟨path, named, loaded⟩ := Op.read_ok loaded
  obtain rfl := hexPath_eq_ok named
  refine ⟨named, ?_⟩
  obtain ⟨blob, held, rfl⟩ := readFile_ok loaded
  have parsed : parseIssuedMeta (blob.take _) = .ok record := parsed
  simp [recordAt, held, parsed, Except.toOption]

/-- A record is upgraded when it is read. -/
theorem readIssuedMeta_version : record.version = issuedMetaVersion := by
  obtain ⟨buf, _, parsed⟩ := Op.read_ok read
  exact (parseIssuedMeta_ok parsed).1

theorem storageIssuedMetaWrite_of_read (faults : Faults) (blob : Bytes) :
    storageIssuedMetaWrite faults serial blob = writeFile faults (.issued (hexName serial) .metadata) blob := by
  rw [storageIssuedMetaWrite, (recordAt_of_read read).1]
  rfl

/-- A record written back untorn is the new or the old one. -/
theorem rewriteRecord_recordAt {faults : Faults} {updated : IssuedMeta}
    (untorn : ∀ kept, faults.write (.issued (hexName serial) .metadata) ≠ .short (some kept))
    (current : updated.version = issuedMetaVersion) :
    (storageIssuedMetaWrite faults serial updated.bytes device).1 = .ok () ∧
        recordAt (storageIssuedMetaWrite faults serial updated.bytes device).2 (hexName serial) = some updated ∨
      recordAt (storageIssuedMetaWrite faults serial updated.bytes device).2 (hexName serial) = some record := by
  have held := (recordAt_of_read read).2
  rw [storageIssuedMetaWrite_of_read read]
  rcases writeFile_state faults (.issued (hexName serial) .metadata) updated.bytes device with
    same | made | ⟨content, stored, ⟨done, rfl⟩ | rfl | ⟨kept, torn, _⟩⟩
  · rw [same]
    exact .inr held
  · rw [made]
    exact .inr (by simpa [recordAt] using held)
  · rw [writeFile_done done]
    have fits : updated.bytes.take (issuedMetaSize + 8) = updated.bytes :=
      List.take_of_length_le (by rw [updated.bytes_length]; omega)
    exact .inl ⟨rfl, by simp [recordAt, fits, parseIssuedMeta_bytes updated current, Except.toOption]⟩
  · rw [stored]
    refine .inr ?_
    rcases file : device.fs.files (.issued (hexName serial) .metadata) with _ | blob
    · simp [recordAt, file] at held
    · simpa [recordAt, file] using held
  · exact absurd torn (untorn kept)

end Records

end Cantil.Ca
