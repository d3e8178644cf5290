import Cantil.Proof.Issuance

namespace Cantil.Ca
open Library

/-- A change to the store, or a failing check. -/
inductive Update where
  | write (path : Path) (data : Bytes)
  | dropChain (slot : Slot)
  | refuse (error : Errno)

namespace Update

variable (faults : Faults) (update : Update) (device : Device)

def run : Update → Op Device Errno Unit
  | .write path data => writeFile faults path data
  | .dropChain slot => do let _ ← (storageSlotChainDelete faults slot).attempt
  | .refuse error => .fail error

/-- The file that an update may change. -/
def Touches : Update → Path → Prop
  | .write path _, other => other = path
  | .dropChain slot, other => other = .slot slot .chain
  | .refuse _, _ => False

/-- The command stops here with an error. -/
def Fails : Update → Prop
  | .write path _ => faults.write path ≠ .done ∧ faults.write path ≠ .uncommitted
  | .dropChain _ => False
  | .refuse _ => True

/-- The files hold already what the update leaves in them. -/
def Idle : Update → Prop
  | .write path data =>
    match faults.write path with
    | .done => device.fs.files path = some data
    | .mkdirFailed _ => True
    -- The directory is made before the file is opened.
    | .openFailed _ => ∀ name file, path = .issued name file → name ∈ device.fs.certDirs
    | .short (some kept) => device.fs.files path = some (data.take kept)
    | .short none | .uncommitted => device.fs.files path ≠ none
  | .dropChain slot => device.fs.files (.slot slot .chain) = none ∨ faults.unlink (.slot slot .chain) ≠ none
  | .refuse _ => True

/-- One after the other, up to the first failure. -/
def runAll (faults : Faults) : List Update → Op Device Errno Unit
  | [] => pure ()
  | update :: rest => do
      update.run faults
      runAll faults rest

/-- Up to a failing update, itself included, all are idle. -/
def Clean (faults : Faults) (device : Device) : List Update → Prop
  | [] => True
  | update :: rest => (update.Fails faults → update.Idle faults device) ∧
      (¬ update.Fails faults → (∃ later ∈ rest, later.Fails faults) →
        update.Idle faults device ∧ Clean faults device rest)

theorem runAll_single : runAll faults [update] = update.run faults := by
  funext device
  simp only [runAll, Op.bind_apply]
  rcases update.run faults device with ⟨_ | _, _⟩ <;> rfl

theorem run_error : (∃ error, (update.run faults device).1 = .error error) ↔ update.Fails faults := by
  cases update with
  | write path data =>
    rcases outcome : faults.write path with _ | error | error | (_ | kept) | _ <;>
      simp [run, Fails, writeFile, outcome]
  | dropChain slot => simp [run, Fails, Op.bind_apply]
  | refuse error => simp [run, Fails]

theorem runAll_error (updates : List Update) (device : Device) :
    (∃ error, (runAll faults updates device).1 = .error error) ↔ ∃ update ∈ updates, update.Fails faults := by
  induction updates generalizing device with
  | nil => simp [runAll]
  | cons update rest ih =>
    have here := run_error faults update device
    rw [List.exists_mem_cons_iff, ← here, runAll, Op.bind_apply]
    rcases outcome : update.run faults device with ⟨error | _, between⟩
    · simp
    · simp [ih between]

variable {faults : Faults} {device : Device}

theorem run_respects {touched : Path → Prop} (inside : ∀ path, update.Touches path → touched path) :
    Op.Respects (SameOutside touched) (update.run faults) := by
  cases update with
  | write path data => exact writeFile_respects (inside path rfl) data
  | dropChain slot =>
    exact (storageSlotChainDelete_respects (writable_of_touched (inside _ rfl))).attempt.bind fun _ =>
      .pure _
  | refuse error => exact .fail error

theorem runAll_respects {touched : Path → Prop} {updates : List Update}
    (inside : ∀ update ∈ updates, ∀ path, update.Touches path → touched path) :
    Op.Respects (SameOutside touched) (runAll faults updates) := by
  induction updates with
  | nil => exact .pure ()
  | cons update rest ih =>
    obtain ⟨here, later⟩ := List.forall_mem_cons.mp inside
    exact (run_respects update here).bind fun _ => ih later

/-- A file that holds the data stays as it is. -/
theorem put_eq_self_iff {fs : Fs} {path : Path} {data : Bytes} (place : Nat) :
    fs.put place path data = fs ↔ fs.files path = some data := by
  constructor
  · intro same
    rw [← same, Fs.put_files, Function.update_self]
  · intro held
    have files : (fs.put place path data).files = fs.files := by
      rw [Fs.put_files, ← held, Function.update_eq_self]
    have dirs : (fs.put place path data).certDirs = fs.certDirs := by
      cases path with
      | issued name file => simp [Fs.put, Fs.mkdirP, fs.listed name file (by simp [held])]
      | slot number file => rfl
      | client id file => rfl
    obtain ⟨_, _, _, _⟩ := fs
    simp only [Fs.put, Fs.mk.injEq] at files dirs ⊢
    exact ⟨files, dirs⟩

theorem mkdirP_eq_self_iff {fs : Fs} {path : Path} (place : Nat) :
    fs.mkdirP place path = fs ↔ ∀ name file, path = .issued name file → name ∈ fs.certDirs := by
  cases path with
  | issued name file =>
    constructor
    · intro same other _ named
      obtain ⟨rfl, _⟩ := Path.issued.inj named
      rw [← same, Fs.mem_mkdirP]
      exact .inl rfl
    · intro listed
      rw [Fs.mkdirP, dif_pos (listed name file rfl)]
  | slot number file => simp [Fs.mkdirP]
  | client id file => simp [Fs.mkdirP]

/-- Idle updates are those that leave the device as it is. -/
theorem run_eq_self_iff (update : Update) : (update.run faults device).2 = device ↔ update.Idle faults device := by
  have setFs (fs : Fs) : { device with fs := fs } = device ↔ fs = device.fs := by
    cases device
    simp
  cases update with
  | write path data =>
    rcases held : device.fs.files path with _ | content <;>
      rcases outcome : faults.write path with _ | error | error | (_ | kept) | _ <;>
      simp [run, Idle, writeFile, outcome, setFs, put_eq_self_iff, mkdirP_eq_self_iff, held]
  | dropChain slot =>
    simp only [run, Idle, Op.bind_apply, Op.attempt_apply, Op.pure_apply, storageSlotChainDelete_state, unlinkFile]
    split_ifs with missing
    · simp [missing]
    · rcases faults.unlink (.slot slot .chain) with _ | error
      · simp only [setFs, missing, ne_eq, not_true, or_self, iff_false]
        intro same
        exact missing (by rw [← same]; simp [Fs.removeIf])
      · simp
  | refuse error => exact iff_of_true rfl trivial

/-- A successful update is idle if its files stay. -/
theorem idle_of_files {update : Update} (succeeds : ¬ update.Fails faults)
    (same : ∀ path, update.Touches path → (update.run faults device).2.fs.files path = device.fs.files path) :
    update.Idle faults device := by
  cases update with
  | write path data =>
    have held := same path rfl
    rcases outcome : faults.write path with _ | error | error | (_ | kept) | _ <;>
      simp only [run, Fails, Idle, writeFile, outcome, Fs.put_files, Function.update_self] at succeeds held ⊢
    case done => exact held.symm
    case uncommitted => exact held ▸ Option.some_ne_none _
    all_goals simp at succeeds
  | dropChain slot =>
    by_contra busy
    obtain ⟨present, removable⟩ := not_or.mp busy
    have held := same _ rfl
    simp only [run, Op.bind_apply, Op.attempt_apply, Op.pure_apply, storageSlotChainDelete_state, unlinkFile,
      if_neg present, not_not.mp removable] at held
    exact present (by rw [← held]; simp [Fs.removeIf])
  | refuse error => trivial

/-- Updates of different files fail cleanly if clean. -/
theorem failsCleanly_runAll {updates : List Update}
    (apart : updates.Pairwise fun first second => ∀ path, first.Touches path → ¬ second.Touches path) :
    Op.FailsCleanly (runAll faults updates) device ↔ Clean faults device updates := by
  induction updates with
  | nil => exact iff_of_true (Op.failsCleanly_of_ok rfl) trivial
  | cons update rest ih =>
    obtain ⟨first, others⟩ := List.pairwise_cons.mp apart
    have fails := run_error faults update device
    rcases outcome : update.run faults device with ⟨error | _, between⟩
    · have stops : runAll faults (update :: rest) device = (.error error, between) := Op.bind_of_error outcome
      have failing : update.Fails faults := fails.mp ⟨error, by rw [outcome]⟩
      have leaves : (update.run faults device).2 = device ↔ _ := run_eq_self_iff update
      rw [outcome] at leaves
      simp only [Op.FailsCleanly, stops, Clean, ← leaves, failing, true_implies, not_true, false_implies,
        and_true, Except.error.injEq, forall_eq']
    · have goes : runAll faults (update :: rest) device = runAll faults rest between := Op.bind_of_ok outcome
      have succeeds : ¬ update.Fails faults := by
        rw [← fails, outcome]
        simp
      constructor
      · intro clean
        refine ⟨fun failing => absurd failing succeeds, fun _ later => ?_⟩
        obtain ⟨error, failed⟩ := (runAll_error faults rest between).mpr later
        have back := clean error (by rw [goes]; exact failed)
        rw [goes] at back
        have idle : update.Idle faults device := idle_of_files succeeds fun path touched => by
          have kept : Op.Respects (SameOutside (· ≠ path)) (runAll faults rest) := runAll_respects
            fun other held target touches same => first other held path touched (same ▸ touches)
          rw [outcome, ← kept between path fun different => different rfl, back]
        have same : between = device := by simpa [outcome] using (run_eq_self_iff update).mpr idle
        refine ⟨idle, (ih others).mp fun error failed => ?_⟩
        rw [same] at goes
        rw [← goes]
        exact clean error (by rw [goes]; exact failed)
      · intro clean error failed
        rw [goes] at failed ⊢
        obtain ⟨idle, rest⟩ := clean.2 succeeds ((runAll_error faults rest between).mp ⟨error, failed⟩)
        obtain rfl : between = device := by simpa [outcome] using (run_eq_self_iff update).mpr idle
        exact (ih others).mpr rest error failed

end Update

open Update (Clean runAll runAll_single failsCleanly_runAll)

section Commands

variable (config : Config) (crypto : Crypto) (env : Env)

/-- What `build_self_signed_cert` does before its write. -/
def prepareSelfCert (slot : Slot) (params : X509Params) : Op Device Errno Bytes := do
  .ensure (slot < config.maxKeySlots) .einval
  let privkey ← loadSlotPrivkey crypto env slot
  let serial ← genSerial env
  .lift (env.buildCert (selfSpec params privkey serial))

/-- What `ca_push_key_x509` asks before its first write. -/
structure X509Accepted (device : Device) (slot : Slot) (data : Bytes) (params : X509Params) : Prop where
  sized : data.length ≠ 0 ∧ data.length ≤ x509DataMax
  replaceable : (protectedWithCert slot device).1 = .ok false
  parsed : x509Parse data = .ok params

/-- What `ca_push_key_cert` asks before its first write. -/
structure CertAccepted (device : Device) (slot : Slot) (cert : Bytes) : Prop where
  filled : cert.length ≠ 0
  inside : slot < config.maxKeySlots
  keyed : (device.fs.files (.slot slot .key)).isSome = true
  replaceable : (protectedWithCert slot device).1 = .ok false
  matching : ∃ parsed pubkey, certparseCert crypto.toWolfReader cert = .ok parsed ∧ parsed.pubkey = some pubkey ∧
    (deriveSlotPubkey crypto env slot device).1 = .ok pubkey

/-- Slot, key, random generator and writer give a certificate. -/
structure SelfCert (device : Device) (slot : Slot) (params : X509Params) (der : Bytes) : Prop where
  inside : slot < config.maxKeySlots
  built : ∃ privkey serial, (loadSlotPrivkey crypto env slot device).1 = .ok privkey ∧
    (genSerial env device).1 = .ok serial ∧ env.buildCert (selfSpec params privkey serial) = .ok der

def x509Updates (slot : Slot) (data der : Bytes) : List Update :=
  [.write (.slot slot .x509Data) data, .write (.slot slot .cert) der, .dropChain slot]

def certUpdates (slot : Slot) (cert chain : Bytes) : List Update :=
  [.write (.slot slot .cert) cert, if chain.length > 0 then .write (.slot slot .chain) chain else .dropChain slot]

def signUpdates (subject : Slot) (issue : Issue) : List Update :=
  [.write (.slot subject .cert) issue.der, .dropChain subject,
    .write (.issued (hexName issue.serial) .cert) issue.der,
    .write (.issued (hexName issue.serial) .metadata) issue.record.bytes]

variable {config crypto env} {device : Device} {slot : Slot}

instance (params : X509Params) : Op.Reader (prepareSelfCert config crypto env slot params) := by
  unfold prepareSelfCert
  infer_instance

theorem prepareSelfCert_congr {after : Device} (params : X509Params)
    (key : after.fs.files (.slot slot .key) = device.fs.files (.slot slot .key)) :
    (prepareSelfCert config crypto env slot params after).1 =
      (prepareSelfCert config crypto env slot params device).1 := by
  have loads (state : Device) : loadSlotPrivkey crypto env slot state =
      ((loadSlotPrivkey crypto env slot state).1, state) :=
    Op.read_eq rfl
  have draws (state : Device) : genSerial env state = ((genSerial env state).1, state) :=
    Op.read_eq rfl
  have drawn : (genSerial env after).1 = (genSerial env device).1 := by
    rcases random : env.trng 8 with error | ⟨_ | ⟨first, rest⟩, sized⟩ <;> simp [genSerial, Op.bind_apply, random]
  by_cases inside : slot < config.maxKeySlots
  · simp only [prepareSelfCert, Op.bind_apply, Op.ensure, if_pos inside, Op.pure_apply]
    rw [loads after, loads device, loadSlotPrivkey_congr key]
    rcases (loadSlotPrivkey crypto env slot device).1 with error | privkey
    · rfl
    · dsimp only
      rw [draws after, draws device, drawn]
      rcases (genSerial env device).1 with error | serial <;> rfl
  · simp [prepareSelfCert, Op.bind_apply, Op.ensure, inside]

theorem prepareSelfCert_ok {params : X509Params} {der : Bytes} :
    (prepareSelfCert config crypto env slot params device).1 = .ok der ↔
      SelfCert config crypto env device slot params der := by
  simp only [prepareSelfCert, Op.read_ok_iff, Op.ensure_ok, exists_const, Op.lift_apply]
  constructor
  · rintro ⟨inside, privkey, loaded, serial, drawn, built⟩
    exact ⟨inside, privkey, serial, loaded, drawn, built⟩
  · rintro ⟨inside, privkey, serial, loaded, drawn, built⟩
    exact ⟨inside, privkey, loaded, serial, drawn, built⟩

/-- What `ca_push_key_x509` does behind its checks. -/
def storeX509 (config : Config) (crypto : Crypto) (env : Env) (slot : Slot) (data : Bytes) (params : X509Params) :
    Op Device Errno Unit := do
  storageSlotX509Write env.toFaults slot data
  buildSelfSignedCert config crypto env slot params
  let _ ← (storageSlotChainDelete env.toFaults slot).attempt

/-- Parameters are stored before the slot is looked at. -/
theorem storeX509_updates (data : Bytes) (params : X509Params) (device : Device) :
    storeX509 config crypto env slot data params device =
      runAll env.toFaults (.write (.slot slot .x509Data) data ::
        match (prepareSelfCert config crypto env slot params device).1 with
        | .ok der => [.write (.slot slot .cert) der, .dropChain slot]
        | .error error => [.refuse error]) device := by
  have built : buildSelfSignedCert config crypto env slot params =
      prepareSelfCert config crypto env slot params >>= storageSlotCertWrite env.toFaults slot := by
    simp only [prepareSelfCert, Op.bind_assoc]
    rfl
  rcases wrote : writeFile env.toFaults (.slot slot .x509Data) data device with ⟨error | _, between⟩
  · exact (Op.bind_of_error wrote).trans (Op.bind_of_error wrote).symm
  · refine (Op.bind_of_ok wrote).trans (Eq.trans ?_ (Op.bind_of_ok wrote).symm)
    have key : between.fs.files (.slot slot .key) = device.fs.files (.slot slot .key) := by
      have kept : SameOutside (· ≠ .slot slot .key) device
        (writeFile env.toFaults (.slot slot .x509Data) data device).2 :=
        writeFile_respects (by simp) data device
      rw [wrote] at kept
      exact kept _ (fun different => different rfl)
    have prepared : prepareSelfCert config crypto env slot params between = _ :=
      Op.read_eq (prepareSelfCert_congr params key)
    rw [built, Op.bind_assoc, Op.bind_apply, prepared]
    rcases (prepareSelfCert config crypto env slot params device).1 with error | der
    · rfl
    · rfl

/-- Refused parameters have to be stored already. -/
theorem clean_refused {update : Update} {error : Errno} :
    Clean env.toFaults device [update, .refuse error] ↔ update.Idle env.toFaults device := by
  simp [Clean, Update.Fails, Update.Idle]

theorem caPushKeyX509_cleanly {data : Bytes} : Op.FailsCleanly (caPushKeyX509 config crypto env slot data) device ↔
    ∀ params, X509Accepted device slot data params →
      Op.FailsCleanly (storeX509 config crypto env slot data params) device := by
  simp only [caPushKeyX509, Op.failsCleanly_reader_iff, Op.ensure_ok, Op.lift_apply]
  constructor
  · intro clean params accepted
    exact clean () accepted.sized false accepted.replaceable () rfl params accepted.parsed
  · rintro clean _ sized _ replaceable _ rfl params parsed
    exact clean params ⟨sized, replaceable, parsed⟩

theorem caPushKeyCert_cleanly {cert chain : Bytes} :
    Op.FailsCleanly (caPushKeyCert config crypto env slot cert chain) device ↔
      (CertAccepted config crypto env device slot cert →
        Op.FailsCleanly (runAll env.toFaults (certUpdates slot cert chain)) device) := by
  have updates : (do storageSlotCertWrite env.toFaults slot cert
                     replaceChain env slot chain) = runAll env.toFaults (certUpdates slot cert chain) := by
    rw [certUpdates, runAll, runAll_single]
    unfold replaceChain
    split_ifs <;> rfl
  simp only [caPushKeyCert, Op.failsCleanly_reader_iff, Op.ensure_ok, Op.lift_apply, updates]
  constructor
  · rintro clean ⟨filled, inside, keyed, replaceable, parsed, pubkey, read, same, derived⟩
    exact clean () filled () inside true (congrArg _ keyed) () rfl false replaceable () rfl parsed read ()
      (by simp [same]) pubkey derived () same
  · rintro clean _ filled _ inside _ keyed _ rfl _ replaceable _ rfl parsed read _ _ pubkey derived _ same
    exact clean ⟨filled, inside, Except.ok.inj keyed, replaceable, parsed, pubkey, read, same, derived⟩

/-- A failure changes nothing exactly when updates are idle. -/
theorem slot_updates_iff (config : Config) (crypto : Crypto) (env : Env) (device : Device) :
    (∀ slot data, Op.FailsCleanly (caPushKeyX509 config crypto env slot data) device ↔
      ∀ params, X509Accepted device slot data params →
        ((∀ der, ¬ SelfCert config crypto env device slot params der) →
          (Update.write (.slot slot .x509Data) data).Idle env.toFaults device) ∧
        ∀ der, SelfCert config crypto env device slot params der →
          Clean env.toFaults device (x509Updates slot data der)) ∧
    (∀ slot cert chain, Op.FailsCleanly (caPushKeyCert config crypto env slot cert chain) device ↔
      (CertAccepted config crypto env device slot cert → Clean env.toFaults device (certUpdates slot cert chain))) ∧
    ∀ issuer subject, Op.FailsCleanly (caSignKeySlot config crypto env issuer subject) device ↔
      ∀ issue, KeyIssue config crypto env device issuer subject issue →
        Clean env.toFaults device (signUpdates subject issue) := by
  refine ⟨fun slot data => ?_, fun slot cert chain => ?_, fun issuer subject => ?_⟩
  · refine caPushKeyX509_cleanly.trans (forall_congr' fun params => imp_congr_right fun _ => ?_)
    simp only [← prepareSelfCert_ok]
    rw [Op.FailsCleanly, storeX509_updates]
    rcases (prepareSelfCert config crypto env slot params device).1 with error | der
    · exact (failsCleanly_runAll (by simp [Update.Touches])).trans (clean_refused.trans (by simp))
    · exact (failsCleanly_runAll (by simp [Update.Touches])).trans (by simp [x509Updates])
  · refine caPushKeyCert_cleanly.trans (imp_congr_right fun _ => failsCleanly_runAll ?_)
    unfold certUpdates
    split_ifs <;> simp [Update.Touches]
  · rw [caSignKeySlot, Op.failsCleanly_reader_iff]
    refine forall_congr' fun issue => ?_
    rw [← prepareKeyIssue_iff]
    refine imp_congr_right fun prepared => ?_
    have short : issue.serial.length ≤ 20 := by
      rw [genSerial_length (prepareKeyIssue_drawn prepared)]
      decide
    have updates : (do
        storageSlotCertWrite env.toFaults subject issue.der
        let _ ← (storageSlotChainDelete env.toFaults subject).attempt
        persistIssue env issue) = runAll env.toFaults (signUpdates subject issue) := by
      rw [persistIssue_eq short, signUpdates, runAll, runAll, runAll, runAll_single]
      rfl
    rw [updates, failsCleanly_runAll]
    simp [signUpdates, Update.Touches]

end Commands

end Cantil.Ca

namespace Cantil.Dispatcher
open Library Ca
open Protocol (Command)

/-- Slot 1 has a key and the name `A`, slot 2 is empty. -/
def namedDevice : Device := Trace.run (step .default plainCrypto) blankDevice
  [request 1 .provisionCa [], request 2 .genKey [], request 3 .pushKeyX509 ([0, 0, 0, 1] ++ plainParams)]

/-- The parameters of the name `B`. -/
def otherParams : Bytes := [0x0E, 0x42, 1, 0xFF, 0, 0, 1, 66, 0, 0, 0, 0, 0]

/-- Failing pushes rename the issuer and fill an empty slot. -/
theorem refused_push_renames :
    let failing := caPushKeyX509 .default plainCrypto
      { plainEnv 4 with trng := fun _ => .error .eio } 1 otherParams namedDevice
    let refused := caPushKeyX509 .default plainCrypto (plainEnv 4) 2 otherParams namedDevice
    failing.1 = .error .eio ∧ (loadIssuerX509Params 1 namedDevice).1.map X509Params.cn = .ok [65] ∧
      (loadIssuerX509Params 1 failing.2).1.map X509Params.cn = .ok [66] ∧
      refused.1 = .error .enoent ∧ namedDevice.fs.files (.slot 2 .x509Data) = none ∧
      refused.2.fs.files (.slot 2 .x509Data) = some otherParams := by
  decide +kernel

end Cantil.Dispatcher
