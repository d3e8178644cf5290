import Cantil.Firmware.Effects
import Cantil.Firmware.PlainBackend

namespace Cantil.Dispatcher
open Library Ca

variable (crypto : Crypto) (device : Device)

/-- The private key of a slot as the code loads it. -/
def storedKey (slot : Slot) : Except Errno Bytes := do
  let blob ← (storageKeyRead slot keyBlobMax device).1
  crypto.decryptBlob blob

/-- The certificate carries the slot's public key. -/
def CertFits (slot : Slot) (der : Bytes) : Prop :=
  ∃ priv pub parsed, storedKey crypto device slot = .ok priv ∧ crypto.pubkeyFromPrivkey priv = .ok pub ∧
    certparseCert crypto.toWolfReader der = .ok parsed ∧ parsed.pubkey = some pub

/-- A slot's key and certificate belong together. -/
def KeysAgree : Prop :=
  ∀ slot der, (device.fs.files (.slot slot .key)).isSome → device.fs.files (.slot slot .cert) = some der →
    CertFits crypto device slot der

/-- The public point that a key argument stands for. -/
def KeyArg.Point : KeyArg → Bytes → Prop
  | .priv scalar, point => crypto.pubkeyFromPrivkey scalar = .ok point
  | .pub held, point => held = point

/-- The medium obeys, and certificates are read with their key. -/
structure Faultless (crypto : Crypto) (env : Env) : Prop where
  write : ∀ path, env.write path = .done
  unlink : ∀ path, env.unlink path = none
  buildCert : ∀ spec der, env.buildCert spec = .ok der → ∃ point parsed,
    KeyArg.Point crypto spec.subjectKey point ∧
      certparseCert crypto.toWolfReader der = .ok parsed ∧ parsed.pubkey = some point

/-- What is pushed for slot 0 is a certificate of its key. -/
def PushesFitting (config : Config) (crypto : Crypto) (device : Device) (event : Event) : Prop :=
  match executes config device event with
  | some (_, .pushCaCert, data) => CertFits crypto device caSlot data
  | _ => True

/-- Every certificate of a slot fits its key. -/
def CertsFit : Prop :=
  ∀ slot der, device.fs.files (.slot slot .cert) = some der → CertFits crypto device slot der

/-- The keys stay, and a certificate that changes fits its key. -/
def KeepsFit (before after : Device) : Prop :=
  (∀ slot, after.fs.files (.slot slot .key) = before.fs.files (.slot slot .key)) ∧
    ∀ slot, after.fs.files (.slot slot .cert) = before.fs.files (.slot slot .cert) ∨
      ∃ der, after.fs.files (.slot slot .cert) = some der ∧ CertFits crypto before slot der

variable {der : Bytes}

section Fits

variable {crypto : Crypto} {before after : Device} {slot : Slot}

/-- Whether a certificate fits depends on the key file alone. -/
theorem CertFits.of_key (fits : CertFits crypto before slot der)
    (same : after.fs.files (.slot slot .key) = before.fs.files (.slot slot .key)) :
    CertFits crypto after slot der := by
  obtain ⟨priv, pub, parsed, stored, rest⟩ := fits
  refine ⟨priv, pub, parsed, ?_, rest⟩
  rw [← stored]
  simp only [storedKey, storageKeyRead, readFile, Op.reads_apply, same]

/-- A certificate fits only where there is a key. -/
theorem CertFits.key (fits : CertFits crypto before slot der) :
    (before.fs.files (.slot slot .key)).isSome := by
  obtain ⟨priv, _, _, stored, _⟩ := fits
  rcases held : before.fs.files (.slot slot .key) with _ | blob
  · simp [storedKey, storageKeyRead, readFile, held, bind, Except.bind] at stored
  · rfl

instance : IsPreorder Device (KeepsFit crypto) where
  refl _ := ⟨fun _ => rfl, fun _ => .inl rfl⟩
  trans first second third earlier later := by
    refine ⟨fun slot => (later.1 slot).trans (earlier.1 slot), fun slot => ?_⟩
    rcases later.2 slot with same | ⟨der, held, fits⟩
    · rcases earlier.2 slot with unchanged | ⟨der, held, fits⟩
      · exact .inl (same.trans unchanged)
      · exact .inr ⟨der, same.trans held, fits⟩
    · exact .inr ⟨der, held, fits.of_key (earlier.1 slot).symm⟩

theorem KeepsFit.certsFit (kept : KeepsFit crypto before after) (fit : CertsFit crypto before) :
    CertsFit crypto after := by
  intro slot der present
  rcases kept.2 slot with same | ⟨found, held, fits⟩
  · exact (fit slot der (same ▸ present)).of_key (kept.1 slot)
  · obtain rfl : found = der := Option.some.inj (held.symm.trans present)
    exact fits.of_key (kept.1 slot)

/-- The path is no key and no certificate of a slot. -/
def OffKeys (path : Path) : Prop := ∀ slot, path ≠ .slot slot .key ∧ path ≠ .slot slot .cert

theorem keepsFit_of_sameOutside (same : SameOutside OffKeys before after) : KeepsFit crypto before after := by
  refine ⟨fun slot => same _ fun off => (off slot).1 rfl, fun slot => .inl ?_⟩
  exact same _ fun off => (off slot).2 rfl

variable {faults : Faults}

theorem writable_of_offKeys {path : Path} (off : OffKeys path) :
    Writable (KeepsFit crypto) faults path :=
  (writable_of_touched off).mono fun _ _ => keepsFit_of_sameOutside

theorem offKeys_issued (name : Bytes) (file : IssuedFile) :
    Writable (KeepsFit crypto) faults (.issued name file) :=
  writable_of_offKeys (by simp [OffKeys])

theorem offKeys_slot (slot : Slot) {file : SlotFile} (other : file ≠ .key ∧ file ≠ .cert) :
    Writable (KeepsFit crypto) faults (.slot slot file) :=
  writable_of_offKeys (by simp [OffKeys, other])

/-- A fitting certificate may be written. -/
theorem writeCert_keepsFit (written : faults.write (.slot slot .cert) = .done)
    (fits : CertFits crypto device slot der) :
    KeepsFit crypto device (writeFile faults (.slot slot .cert) der device).2 := by
  rw [writeFile_done written]
  refine ⟨fun other => by simp, fun other => ?_⟩
  by_cases here : other = slot
  · subst here
    exact .inr ⟨der, by simp, fits⟩
  · exact .inl (by simp [here])

end Fits

section Commands

variable {config : Config} {crypto : Crypto} {env : Env} {device : Device} {slot : Slot}

variable {priv : Bytes}

theorem storedKey_of_load (loaded : (loadSlotPrivkey crypto env slot device).1 = .ok priv) :
    storedKey crypto device slot = .ok priv := by
  simp only [loadSlotPrivkey, Op.read_ok_iff, Op.ensure_ok, exists_const] at loaded
  obtain ⟨_, _, blob, read, found, opened, _, loaded⟩ := loaded
  obtain rfl : found = priv := Except.ok.inj loaded
  have reads : (storageKeyRead slot keyBlobMax device).1 = .ok blob := read
  have opens : crypto.decryptBlob blob = .ok found := opened
  simp [storedKey, reads, bind, Except.bind, opens]

variable {pub : Bytes}

theorem storedKey_of_derive (derived : (deriveSlotPubkey crypto env slot device).1 = .ok pub) :
    ∃ priv, storedKey crypto device slot = .ok priv ∧ crypto.pubkeyFromPrivkey priv = .ok pub := by
  obtain ⟨priv, loaded, derived⟩ := Op.read_ok derived
  obtain ⟨point, computed, derived⟩ := Op.read_ok derived
  obtain ⟨_, derived⟩ := Op.ensure_bind_ok derived
  obtain rfl : point = pub := Except.ok.inj derived
  exact ⟨priv, storedKey_of_load loaded, computed⟩

variable {spec : CertSpec}

/-- A new key goes into a slot without a certificate. -/
theorem createKey_certsFit (fit : CertsFit crypto device)
    (absent : device.fs.files (.slot slot .key) = none) (record : SlotMeta) :
    CertsFit crypto (createKey env slot record device).2 := by
  have same := createKey_frame env slot record device
  intro other der present
  rw [same _ (by simp)] at present
  have fits := fit other der present
  have different : other ≠ slot := by
    rintro rfl
    have held := fits.key
    rw [absent] at held
    cases held
  exact fits.of_key (same _ (by simp [different]))

theorem caProvision_certsFit (keyType : UInt8) :
    Op.Respects (Op.Keeps (CertsFit crypto)) (caProvision env keyType) := fun _ =>
  caProvision_related (fun _ => id) fun absent _ fit => createKey_certsFit fit absent _

theorem firstFreeSlot_absent {slots : List Slot} {free : Slot}
    (found : (firstFreeSlot slots device).1 = .ok free) : device.fs.files (.slot free .key) = none := by
  induction slots with
  | nil => cases found
  | cons slot rest ih =>
    obtain ⟨taken, looked, found⟩ := Op.read_ok found
    cases taken with
    | true => exact ih found
    | false =>
      obtain rfl : slot = free := Except.ok.inj found
      simpa using looked

theorem caGenKey_certsFit (keyType : UInt8) :
    Op.Respects (Op.Keeps (CertsFit crypto)) (caGenKey config env keyType) := fun _ =>
  caGenKey_related fun _ found _ fit => createKey_certsFit fit (firstFreeSlot_absent found) _

/-- Removing a chain touches neither key nor certificate. -/
theorem storageSlotChainDelete_keepsFit :
    Op.Respects (KeepsFit crypto) (storageSlotChainDelete env.toFaults slot) :=
  storageSlotChainDelete_respects (offKeys_slot slot (by decide))

theorem replaceChain_keepsFit (chain : Bytes) :
    Op.Respects (KeepsFit crypto) (replaceChain env slot chain) :=
  replaceChain_respects (offKeys_slot slot (by decide)) chain

variable (faultless : Faultless crypto env)
include faultless

/-- A certificate built for a slot's private key fits the slot. -/
theorem Faultless.certFits_priv (stored : storedKey crypto device slot = .ok priv)
    (subject : spec.subjectKey = .priv priv) (built : env.buildCert spec = .ok der) :
    CertFits crypto device slot der := by
  obtain ⟨point, parsed, stands, read, held⟩ := faultless.buildCert spec der built
  rw [subject] at stands
  exact ⟨priv, point, parsed, stored, stands, read, held⟩

theorem Faultless.certFits_pub (stored : storedKey crypto device slot = .ok priv)
    (point : crypto.pubkeyFromPrivkey priv = .ok pub) (subject : spec.subjectKey = .pub pub)
    (built : env.buildCert spec = .ok der) : CertFits crypto device slot der := by
  obtain ⟨found, parsed, stands, read, held⟩ := faultless.buildCert spec der built
  rw [subject] at stands
  obtain rfl : pub = found := stands
  exact ⟨priv, pub, parsed, stored, point, read, held⟩

theorem buildSelfSignedCert_keepsFit (params : X509Params) :
    Op.Respects (KeepsFit crypto) (buildSelfSignedCert config crypto env slot params) := by
  intro device
  refine Op.relates_ensure fun _ => ?_
  refine Op.relates_reader fun priv loaded => ?_
  refine Op.relates_reader fun serial _ => ?_
  refine Op.relates_reader fun der built => ?_
  exact writeCert_keepsFit device (faultless.write _)
    (faultless.certFits_priv (storedKey_of_load loaded) rfl built)

theorem caPushKeyX509_keepsFit (data : Bytes) :
    Op.Respects (KeepsFit crypto) (caPushKeyX509 config crypto env slot data) := by
  have stored : Op.Respects (KeepsFit crypto) (storageSlotX509Write env.toFaults slot data) :=
    (offKeys_slot slot (by decide)).write data
  intro device
  apply caPushKeyX509_related
  intro params _ _ _
  exact (stored.bind fun _ => (buildSelfSignedCert_keepsFit faultless params).bind fun _ =>
    storageSlotChainDelete_keepsFit.attempt.bind fun _ => .pure _) device

theorem caPushKeyCert_keepsFit (cert chain : Bytes) :
    Op.Respects (KeepsFit crypto) (caPushKeyCert config crypto env slot cert chain) := by
  intro device
  apply caPushKeyCert_related
  intro parsed pub _ _ read derived matched
  obtain ⟨priv, stored, point⟩ := storedKey_of_derive derived
  refine Op.relates_bind (writeCert_keepsFit device (faultless.write _) ?_) fun _ between _ =>
    replaceChain_keepsFit chain between
  exact ⟨priv, pub, parsed, stored, point, read, matched⟩

theorem caSignKeySlot_keepsFit (issuer : Slot) :
    Op.Respects (KeepsFit crypto) (caSignKeySlot config crypto env issuer slot) := by
  intro device
  refine Op.relates_reader fun issue prepared => ?_
  obtain ⟨_, _, _, _, _, _, _, _, derived, built, _, _⟩ := prepareKeyIssue_iff.mp prepared
  obtain ⟨priv, stored, point⟩ := storedKey_of_derive derived
  have persisted : Op.Respects (KeepsFit crypto) (persistIssue env issue) :=
    persistIssue_respects (offKeys_issued _)
  refine Op.relates_bind ?_ fun _ between _ =>
    (storageSlotChainDelete_keepsFit.attempt.bind fun _ => persisted) between
  exact writeCert_keepsFit device (faultless.write _) (faultless.certFits_pub stored point rfl built)

theorem caPushCert_keepsFit {cert : Bytes}
    (fits : CertFits crypto device caSlot cert) (chain : Bytes) :
    KeepsFit crypto device (caPushCert env cert chain device).2 :=
  Op.relates_bind (writeCert_keepsFit device (faultless.write _) fits) fun _ between _ =>
    replaceChain_keepsFit chain between

theorem caInit_keepsFit :
    Op.Respects (KeepsFit crypto) (caInit config crypto env) :=
  fun _ => caInit_related (fun _ => ⟨fun _ => rfl, fun _ => .inl rfl⟩) fun params _ _ _ =>
    buildSelfSignedCert_keepsFit faultless params _

/-- A deleted slot holds no certificate. -/
theorem storageSlotDelete_certsFit :
    Op.Respects (Op.Keeps (CertsFit crypto)) (storageSlotDelete env.toFaults slot) := by
  intro device fit other der present
  have same := storageSlotDelete_frame env.toFaults slot device
  by_cases here : other = slot
  · subst here
    rw [storageSlotDelete_files faultless.unlink] at present
    cases present
  · rw [same _ (by simpa using here)] at present
    exact (fit other der present).of_key (same _ (by simpa using here))

theorem boot_certsFit (fit : CertsFit crypto device) (volume : VolumeState) :
    CertsFit crypto (boot config crypto env volume device).2 :=
  (caInit_keepsFit faultless { device with provisioned := false, volume }).certsFit fit

/-- Certificates stay fitting if a pushed one fits. -/
theorem Effect.certsFit {data : Bytes} {command : Protocol.Command} {after : Device}
    (effect : Effect config crypto env data device command after)
    (pushed : command = .pushCaCert → CertFits crypto device caSlot data) (fit : CertsFit crypto device) :
    CertsFit crypto after := by
  have general (plain : command ∈ framedCommands ∧ ∀ file ∈ slotFiles command, file ≠ .key ∧ file ≠ .cert) :
      CertsFit crypto after :=
    KeepsFit.certsFit (effect.related plain.1 (fun file inside slot => offKeys_slot slot (plain.2 file inside))
      (fun _ => offKeys_issued) fun _ => ⟨fun _ => rfl, fun _ => .inl rfl⟩) fit
  cases effect with
  | refused => exact fit
  | signKeySlot long => exact (caSignKeySlot_keepsFit faultless _ device).certsFit fit
  | pushCaCert => exact (caPushCert_keepsFit faultless (pushed rfl) _).certsFit fit
  | genKey => exact caGenKey_certsFit _ device fit
  | deleteKey => exact caDeleteKey_respects (storageSlotDelete_certsFit faultless) device fit
  | pushKeyCert cert chain => exact (caPushKeyCert_keepsFit faultless cert chain device).certsFit fit
  | pushKeyX509 => exact (caPushKeyX509_keepsFit faultless _ device).certsFit fit
  | provisionCa => exact caProvision_certsFit _ device fit
  | resetDevice wiped done =>
    refine boot_certsFit faultless (fun slot der present => ?_) _
    rw [storageSecureWipe_files faultless.unlink done] at present
    cases present
  | elsewhere _ bonds =>
    have same : SameOutside OffKeys device { device with fs := device.fs.withClients bonds } :=
      withClients_sameOutside (by simp [OffKeys]) device bonds
    exact (keepsFit_of_sameOutside same).certsFit fit
  | _ => exact general (by decide)

end Commands

section Runs

variable {config : Config} {crypto : Crypto} {device : Device} {event : Event}

theorem step_certsFit (faultless : Faultless crypto event.env)
    (pushed : PushesFitting config crypto device event) (fit : CertsFit crypto device) :
    CertsFit crypto (step config crypto device event) := by
  rcases step_cases config crypto device event with same | ⟨env, command, data, runs, effect⟩ |
    ⟨env, volume, rfl, booted⟩
  · rw [same]
    exact fit
  · rw [executes_env runs] at faultless
    rw [PushesFitting, runs] at pushed
    refine effect.certsFit faultless ?_ fit
    rintro rfl
    exact pushed
  · exact boot_certsFit faultless fit volume

theorem CertsFit.keysAgree (fit : CertsFit crypto device) : KeysAgree crypto device :=
  fun slot der _ present => fit slot der present

/-- A pushed certificate is stored as it came, next to the key. -/
theorem caPushCert_files {env : Env} (device : Device) (faultless : Faultless crypto env) (cert : Bytes) :
    (caPushCert env cert [] device).2.fs.files (.slot caSlot .cert) = some cert ∧
      (caPushCert env cert [] device).2.fs.files (.slot caSlot .key) =
        device.fs.files (.slot caSlot .key) := by
  have wrote : storageSlotCertWrite env.toFaults caSlot cert device = _ :=
    writeFile_done (faultless.write _) cert device
  have chain (between : Device) :
      SameOutside (Path.slot caSlot .chain = ·) between (replaceChain env caSlot [] between).2 :=
    replaceChain_respects (writable_of_touched rfl) [] between
  rw [caPushCert, Op.bind_of_ok wrote, chain _ _ (by simp), chain _ _ (by simp)]
  simp

/-- Agreement survives exactly when a pushed certificate fits. -/
theorem keysAgree_step_iff (faultless : Faultless crypto event.env) (fit : CertsFit crypto device) :
    KeysAgree crypto (step config crypto device event) ↔ PushesFitting config crypto device event := by
  constructor
  · intro agree
    unfold PushesFitting
    split
    · rename_i env data runs
      have held := key_of_pushCaCert runs
      rw [executes_env runs] at faultless
      obtain ⟨stored, kept⟩ := caPushCert_files device faultless data
      have after : step config crypto device event = (caPushCert env data [] device).2 := by
        rw [step_of_executes runs]
        refine Op.bind_state (fun outcome => ?_) device
        split <;> exact .pure _
      rw [after] at agree
      exact (agree caSlot data (by rw [kept]; exact held) stored).of_key kept.symm
    · trivial
  · exact fun pushed => (step_certsFit faultless pushed fit).keysAgree

/-- Keys and certificates agree if pushes to slot 0 fit. -/
theorem run_keysAgree_iff (config : Config) (crypto : Crypto) (start : Device) (events : List Event)
    (blank : start.fs = Fs.empty) (faultless : ∀ event ∈ events, Faultless crypto event.env) :
    (∀ visit ∈ Trace.visits (step config crypto) start events,
        KeysAgree crypto (step config crypto visit.1 visit.2)) ↔
      ∀ visit ∈ Trace.visits (step config crypto) start events,
        PushesFitting config crypto visit.1 visit.2 := by
  have initial : CertsFit crypto start := by
    intro slot der present
    rw [blank] at present
    cases present
  exact Trace.forall_visits_iff (step config crypto) (CertsFit crypto)
    (fun device event => KeysAgree crypto (step config crypto device event)) (PushesFitting config crypto)
    start events (fun _ event inside fit => keysAgree_step_iff (faultless event inside) fit)
    (fun _ event inside fit pushed => step_certsFit (faultless event inside) pushed fit) initial

end Runs

/-- The plain certificate is read back with its point. -/
theorem plainCert_read {point : Bytes} (size : point.length = 65) (uncompressed : point.head? = some 0x04) :
    ∃ parsed, certparseCert plainCrypto.toWolfReader (plainCert point) = .ok parsed ∧
      parsed.pubkey = some point := by
  have decoded : plainCrypto.parseCert (plainCert point) = some (plainDecoded point) := by
    simp [plainCrypto, plainCert, plainName, size]
  rw [certparseCert, if_neg (by simp [plainCert, plainName]), decoded]
  simp [extractPubkey, plainDecoded, size, uncompressed]

theorem plainEnv_faultless (random : UInt8) : Faultless plainCrypto (plainEnv random) where
  write _ := rfl
  unlink _ := rfl
  buildCert spec der built := by
    simp only [plainEnv] at built
    split_ifs at built with shape
    obtain rfl := Except.ok.inj built
    obtain ⟨parsed, read, held⟩ := plainCert_read shape.1 shape.2
    refine ⟨_, parsed, ?_, read, held⟩
    cases spec.subjectKey <;> rfl

/-- The provisioning of a root leaves all in agreement. -/
theorem provisioning_keysAgree :
    blankDevice.fs = Fs.empty ∧ ∀ visit ∈ Trace.visits (step .default plainCrypto) blankDevice provisioning,
      KeysAgree plainCrypto (step .default plainCrypto visit.1 visit.2) := by
  have faultless : ∀ event ∈ provisioning, Faultless plainCrypto event.env := by
    intro event inside
    simp only [provisioning, List.mem_cons, List.not_mem_nil, or_false] at inside
    rcases inside with rfl | rfl
    · exact plainEnv_faultless 1
    · exact plainEnv_faultless 2
  refine ⟨rfl, (run_keysAgree_iff .default plainCrypto blankDevice provisioning rfl faultless).mpr ?_⟩
  intro visit visited
  simp only [provisioning, Trace.visits_cons, Trace.visits_nil, List.mem_cons, List.not_mem_nil,
    or_false] at visited
  have provisions : executes .default blankDevice (request 1 .provisionCa []) =
      some (plainEnv 1, .provisionCa, []) :=
    (executes_request _ _ _ _).mpr ⟨by decide +kernel, rfl⟩
  have parameters : executes .default (step .default plainCrypto blankDevice (request 1 .provisionCa []))
      (request 2 .pushKeyX509 ([0, 0, 0, 0] ++ plainParams)) =
      some (plainEnv 2, .pushKeyX509, [0, 0, 0, 0] ++ plainParams) :=
    (executes_request _ _ _ _).mpr ⟨by decide +kernel, rfl⟩
  rcases visited with rfl | rfl
  · simp only [PushesFitting, provisions]
  · simp only [PushesFitting, parameters]

/-- Any octets become slot 0's certificate, without a fault. -/
theorem pushCaCert_breaks_agreement :
    Faultless plainCrypto (plainEnv 3) ∧
      ¬ KeysAgree plainCrypto
        (step .default plainCrypto provisionedDevice (request 3 .pushCaCert [1, 2, 3])) := by
  refine ⟨plainEnv_faultless 3, fun agree => ?_⟩
  have stored : (step .default plainCrypto provisionedDevice
      (request 3 .pushCaCert [1, 2, 3])).fs.files (.slot caSlot .cert) = some [1, 2, 3] := by
    decide +kernel
  obtain ⟨_, _, parsed, _, _, read, _⟩ := agree caSlot [1, 2, 3] (by decide +kernel) stored
  have refused : certparseCert plainCrypto.toWolfReader [1, 2, 3] = .error .einval := by decide
  cases read

end Cantil.Dispatcher
