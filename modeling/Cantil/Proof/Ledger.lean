import Cantil.Proof.Issuance

namespace Cantil.Dispatcher
open Library Ca
open Protocol (Command)

/-- The store as a ledger of slots and issued certificates. -/
@[ext] structure Ledger where
  key : Slot → Option Bytes
  cert : Slot → Option Bytes
  chain : Slot → Option Bytes
  issued : Bytes → Option Bytes
  issuer : Bytes → Option Slot

namespace Ledger

def empty : Ledger := ⟨fun _ => none, fun _ => none, fun _ => none, fun _ => none, fun _ => none⟩

variable (ledger : Ledger) (slot : Slot)

/-- A certificate is filed under its serial, with its issuer. -/
def file (issue : Issue) : Ledger :=
  { ledger with
    issued := Function.update ledger.issued (hexName issue.serial) (some issue.der)
    issuer := Function.update ledger.issuer (hexName issue.serial) (some issue.issuerSlot) }

/-- Another certificate, with or without a chain. -/
def install (der : Bytes) (chain : Option Bytes) : Ledger :=
  { ledger with
    cert := Function.update ledger.cert slot (some der)
    chain := Function.update ledger.chain slot chain }

def allocate (blob : Bytes) : Ledger :=
  { ledger with key := Function.update ledger.key slot (some blob) }

def release : Ledger :=
  { ledger with
    key := Function.update ledger.key slot none
    cert := Function.update ledger.cert slot none
    chain := Function.update ledger.chain slot none }

/-- The slot holds the private key. -/
def Holds (crypto : Crypto) (slot : Slot) (privkey : Bytes) : Prop :=
  ∃ blob, ledger.key slot = some blob ∧ crypto.decryptBlob (blob.take keyBlobMax) = .ok privkey

end Ledger

def ledgerOf (device : Device) : Ledger where
  key slot := device.fs.files (.slot slot .key)
  cert slot := device.fs.files (.slot slot .cert)
  chain slot := device.fs.files (.slot slot .chain)
  issued name := device.fs.files (.issued name .cert)
  issuer name := (recordAt device name).map (·.issuerSlot)

/-! How the files of the store make up the ledger. -/

variable {record : IssuedMeta}

section Files

variable {device : Device} {place : Nat} {slot : Slot} {data : Bytes}

theorem ledgerOf_congr {before after : Device} (same : after.fs.files = before.fs.files) :
    ledgerOf after = ledgerOf before := by
  simp only [ledgerOf, recordAt, same]

theorem ledgerOf_blank (blank : device.fs = Fs.empty) : ledgerOf device = .empty := by
  simp [ledgerOf, Ledger.empty, recordAt, blank, Fs.empty]

theorem ledgerOf_put_cert :
    ledgerOf { device with fs := device.fs.put place (.slot slot .cert) data } =
      (ledgerOf device).install slot data ((ledgerOf device).chain slot) := by
  simp [ledgerOf, Ledger.install, recordAt, funext_iff, Function.update_apply]

theorem ledgerOf_put_key :
    ledgerOf { device with fs := device.fs.put place (.slot slot .key) data } =
      (ledgerOf device).allocate slot data := by
  simp [ledgerOf, Ledger.allocate, recordAt, funext_iff, Function.update_apply]

variable {name : Bytes}

theorem ledgerOf_put_issued :
    ledgerOf { device with fs := device.fs.put place (.issued name .cert) data } =
      { ledgerOf device with issued := Function.update (ledgerOf device).issued name (some data) } := by
  simp [ledgerOf, recordAt, funext_iff, Function.update_apply]

theorem ledgerOf_put_record
    (stored : recordAt { device with fs := device.fs.put place (.issued name .metadata) data } name = some record) :
    ledgerOf { device with fs := device.fs.put place (.issued name .metadata) data } =
      { ledgerOf device with
        issuer := Function.update (ledgerOf device).issuer name (some record.issuerSlot) } := by
  ext1
  case issuer =>
    funext other
    by_cases here : other = name
    · subst here
      simp only [ledgerOf, stored, Function.update_self, Option.map_some]
    · simp [ledgerOf, recordAt, here]
  all_goals simp [ledgerOf]

theorem ledgerOf_unlink_chain :
    ledgerOf { device with fs := device.fs.removeIf (· = .slot slot .chain) } =
      { ledgerOf device with chain := Function.update (ledgerOf device).chain slot none } := by
  ext1
  case chain =>
    funext other
    by_cases here : other = slot
    · simp [ledgerOf, Fs.removeIf, here]
    · simp [ledgerOf, Fs.removeIf, here]
  all_goals simp [ledgerOf, Fs.removeIf, recordAt]

end Files

/-- The ledger stays as it is. -/
def SameLedger (before after : Device) : Prop := ledgerOf after = ledgerOf before

instance : IsPreorder Device SameLedger where
  refl _ := rfl
  trans _ _ _ first second := Eq.trans second first

/-- The medium does what it is asked. -/
structure Reliable (faults : Faults) : Prop where
  write : ∀ path, faults.write path = .done
  unlink : ∀ path, faults.unlink path = none

/-- The file is not part of the ledger. -/
def OffLedger : Path → Prop
  | .slot _ file => file ≠ .key ∧ file ≠ .cert ∧ file ≠ .chain
  | .issued _ _ => False
  | .client _ _ => True

variable {serial : Bytes}

section Frame

variable {faults : Faults} {before after : Device}

theorem sameLedger_of_sameOutside (same : SameOutside OffLedger before after) : SameLedger before after := by
  have slots (slot : Slot) {file : SlotFile} (kept : file = .key ∨ file = .cert ∨ file = .chain) :
      after.fs.files (.slot slot file) = before.fs.files (.slot slot file) := by
    apply same
    rintro ⟨notKey, notCert, notChain⟩
    rcases kept with rfl | rfl | rfl
    · exact notKey rfl
    · exact notCert rfl
    · exact notChain rfl
  have issued (name : Bytes) (file : IssuedFile) :
      after.fs.files (.issued name file) = before.fs.files (.issued name file) := same _ id
  ext1
  · exact funext fun slot => slots slot (.inl rfl)
  · exact funext fun slot => slots slot (.inr (.inl rfl))
  · exact funext fun slot => slots slot (.inr (.inr rfl))
  · exact funext fun name => issued name .cert
  · simp only [ledgerOf, recordAt, issued]

theorem writable_sameLedger {path : Path} (off : OffLedger path) : Writable SameLedger faults path := by
  have inside : Writable (SameOutside OffLedger) faults path := writable_of_touched off
  exact ⟨fun data device => sameLedger_of_sameOutside (inside.write data device),
    fun device => sameLedger_of_sameOutside (inside.unlink device)⟩

theorem offLedger_slot (slot : Slot) {file : SlotFile} (off : file ≠ .key ∧ file ≠ .cert ∧ file ≠ .chain) :
    Writable SameLedger faults (.slot slot file) := writable_sameLedger off

/-- A record written back for the same issuer. -/
theorem rewriteRecord_sameLedger {device : Device}
    (reliable : Reliable faults) (read : (readIssuedMeta serial device).1 = .ok record) (updated : IssuedMeta)
    (version : updated.version = record.version) (kept : updated.issuerSlot = record.issuerSlot) :
    SameLedger device (storageIssuedMetaWrite faults serial updated.bytes device).2 := by
  have held := (recordAt_of_read read).2
  have current := version.trans (readIssuedMeta_version read)
  have fits : updated.bytes.take (issuedMetaSize + 8) = updated.bytes :=
    List.take_of_length_le (by rw [updated.bytes_length]; omega)
  have stored : recordAt
      { device with fs := device.fs.put faults.place (.issued (hexName serial) .metadata) updated.bytes }
      (hexName serial) = some updated := by
    simp [recordAt, fits, parseIssuedMeta_bytes updated current, Except.toOption]
  have column : (ledgerOf device).issuer (hexName serial) = some record.issuerSlot := by
    simp [ledgerOf, held]
  rw [storageIssuedMetaWrite_of_read read, writeFile_done (reliable.write _)]
  unfold SameLedger
  rw [ledgerOf_put_record stored, kept, ← column, Function.update_eq_self]

theorem remarks_sameLedger (reliable : Reliable faults) (bits : UInt8) : Remarks SameLedger faults bits := by
  intro device serial record read
  exact rewriteRecord_sameLedger reliable read _ rfl rfl

theorem caRevokeCert_sameLedger {env : Env} (reliable : Reliable env.toFaults) (serial : Bytes) (nowUnix : UInt64) :
    Op.Respects SameLedger (caRevokeCert env serial nowUnix) := by
  intro device
  apply Op.relates_ensure
  intro _
  apply Op.relates_reader
  intro record read
  apply Op.relates_ensure
  intro _
  apply Op.relates_ensure
  intro _
  have number : Op.Respects SameLedger (do
      let number ← (storageSlotCrlNumberRead record.issuerSlot).attempt
      let _ ← (storageSlotCrlNumberWrite env.toFaults record.issuerSlot (number.toOption.getD 0 + 1)).attempt) :=
    .read fun _ =>
      ((offLedger_slot record.issuerSlot (by decide)).write _).attempt.bind fun _ => .pure _
  refine Op.relates_bind ?_ fun _ between _ => number between
  exact rewriteRecord_sameLedger reliable read _ rfl rfl

end Frame

/-! What the commands enter into the ledger. -/

/-- The serial that the next certificate gets. -/
def Draws (env : Env) (serial : Bytes) : Prop := ∀ device, (genSerial env device).1 = .ok serial

theorem draws_of_genSerial {env : Env} {device : Device}
    (drawn : (genSerial env device).1 = .ok serial) : Draws env serial := by
  intro other
  rw [← drawn, genSerial, Op.bind_apply, Op.bind_apply]
  rcases env.trng 8 with error | ⟨_ | ⟨first, rest⟩, sized⟩
  · rfl
  · rfl
  · rfl

/-- The slot's key signs under the drawn serial. -/
structure Minted (config : Config) (crypto : Crypto) (env : Env) (ledger : Ledger) (slot : Slot)
    (serial der : Bytes) : Prop where
  inside : slot < config.maxKeySlots
  drawn : Draws env serial
  built : ∃ spec, ledger.Holds crypto slot spec.issuerPriv ∧ spec.serial = serial ∧ env.buildCert spec = .ok der

variable {issue : Issue} {wiped : Device}

section Commands

variable {config : Config} {crypto : Crypto} {env : Env} {device : Device} {slot : Slot}

variable {privkey : Bytes}

theorem holds_of_load (loaded : (loadSlotPrivkey crypto env slot device).1 = .ok privkey) :
    (ledgerOf device).Holds crypto slot privkey := by
  simp only [loadSlotPrivkey, Op.read_ok_iff, Op.ensure_ok, exists_const] at loaded
  obtain ⟨_, _, content, read, _, decrypted, _, loaded⟩ := loaded
  obtain rfl := Except.ok.inj loaded
  obtain ⟨blob, held, rfl⟩ := readFile_ok read
  exact ⟨blob, held, decrypted⟩

theorem minted_of_ready {params : X509Params} {der : Bytes} {spec : CertSpec}
    (ready : IssuerReady config crypto env device slot params privkey serial)
    (key : spec.issuerPriv = privkey) (named : spec.serial = serial) (built : env.buildCert spec = .ok der) :
    Minted config crypto env (ledgerOf device) slot serial der :=
  ⟨ready.inside, draws_of_genSerial ready.serial, spec, key ▸ holds_of_load ready.privkey, named, built⟩

theorem minted_of_prepareCsr {csr : Bytes} {capacity : Nat}
    (prepared : (prepareCsrIssue config crypto env slot csr capacity device).1 = .ok issue) :
    Minted config crypto env (ledgerOf device) issue.issuerSlot issue.serial issue.der := by
  obtain ⟨_, _, params, privkey, subject, ready, _, built, _, rfl, _⟩ := prepareCsrIssue_iff.mp prepared
  exact minted_of_ready ready rfl rfl built

/-- The record is written after the certificate was swapped. -/
theorem installIssue_eq (env : Env) (subject : Slot) (issue : Issue) :
    (do storageSlotCertWrite env.toFaults subject issue.der
        let _ ← (storageSlotChainDelete env.toFaults subject).attempt
        persistIssue env issue) =
      ((do storageSlotCertWrite env.toFaults subject issue.der
           let _ ← (storageSlotChainDelete env.toFaults subject).attempt : Op Device Errno Unit) >>=
        fun _ => persistIssue env issue) := by
  rw [Op.bind_assoc]
  rfl

/-- A self-signed certificate is written last, or not at all. -/
theorem buildSelfSignedCert_minted (config : Config) (crypto : Crypto) (env : Env) (slot : Slot) (device : Device)
    (params : X509Params) :
    (∃ error, buildSelfSignedCert config crypto env slot params device = (.error error, device)) ∨
      ∃ serial der, Minted config crypto env (ledgerOf device) slot serial der ∧
        buildSelfSignedCert config crypto env slot params device =
          storageSlotCertWrite env.toFaults slot der device := by
  unfold buildSelfSignedCert
  rcases Op.read_cases (.ensure (slot < config.maxKeySlots) _) _ device with failed | ⟨_, passed, same⟩
  · exact .inl failed
  have inside : slot < config.maxKeySlots := (Op.ensure_eq_ok.mp (Prod.ext passed rfl)).1
  rw [same]
  rcases Op.read_cases (loadSlotPrivkey crypto env slot) _ device with failed | ⟨privkey, loaded, same⟩
  · exact .inl failed
  rw [same]
  rcases Op.read_cases (genSerial env) _ device with failed | ⟨serial, drawn, same⟩
  · exact .inl failed
  rw [same]
  rcases Op.read_cases (.lift _) _ device with failed | ⟨der, built, same⟩
  · exact .inl failed
  · exact .inr ⟨serial, der, ⟨inside, draws_of_genSerial drawn, _, holds_of_load loaded, rfl, built⟩, same⟩

variable (reliable : Reliable env.toFaults)
include reliable

theorem persistIssue_file (short : issue.serial.length ≤ 20) (device : Device) :
    ledgerOf (persistIssue env issue device).2 = (ledgerOf device).file issue := by
  rw [persistIssue_eq short, Op.bind_of_ok (writeFile_done (reliable.write _) issue.der device),
    writeFile_done (reliable.write _), ledgerOf_put_record (recordAt_put issue env.place _), ledgerOf_put_issued]
  rfl

/-- The chain is gone. -/
theorem chainDelete_ledger (device : Device) :
    ledgerOf (storageSlotChainDelete env.toFaults slot device).2 =
      { ledgerOf device with chain := Function.update (ledgerOf device).chain slot none } := by
  rw [storageSlotChainDelete_state, unlinkFile]
  split_ifs with absent
  · have column : (ledgerOf device).chain slot = none := absent
    rw [← column, Function.update_eq_self]
  · rw [reliable.unlink]
    exact ledgerOf_unlink_chain

/-- A replaced certificate takes its chain along. -/
theorem swapCert_install (slot : Slot) (der : Bytes) (device : Device) :
    ∃ after, (do
      storageSlotCertWrite env.toFaults slot der
      let _ ← (storageSlotChainDelete env.toFaults slot).attempt : Op Device Errno Unit) device = (.ok (), after) ∧
        ledgerOf after = (ledgerOf device).install slot der none := by
  have wrote : storageSlotCertWrite env.toFaults slot der device = _ :=
    writeFile_done (reliable.write _) der device
  refine ⟨_, by rw [Op.bind_of_ok wrote, Op.bind_apply]; rfl, ?_⟩
  rw [chainDelete_ledger reliable, ledgerOf_put_cert]
  simp [Ledger.install]

/-- A new key is entered into its slot, or nothing is. -/
theorem createKey_ledger (slot : Slot) (record : SlotMeta) (device : Device) :
    ledgerOf (createKey env slot record device).2 = ledgerOf device ∨
      ∃ blob, ledgerOf (createKey env slot record device).2 = (ledgerOf device).allocate slot blob := by
  have failed {error : Errno} (same : createKey env slot record device = (.error error, device)) :
      ledgerOf (createKey env slot record device).2 = ledgerOf device := by rw [same]
  unfold createKey at failed ⊢
  rcases Op.read_cases (.lift env.storageKeyDerive) _ device with ⟨_, stopped⟩ | ⟨_, _, same⟩
  · exact .inl (failed stopped)
  rw [same] at failed ⊢
  rcases Op.read_cases (.lift env.keygen) _ device with ⟨_, stopped⟩ | ⟨privkey, _, same⟩
  · exact .inl (failed stopped)
  rw [same] at failed ⊢
  rcases Op.read_cases (.lift (env.encryptBlob privkey)) _ device with ⟨_, stopped⟩ | ⟨blob, _, same⟩
  · exact .inl (failed stopped)
  have wrote : storageKeyWrite env.toFaults slot blob device = _ := writeFile_done (reliable.write _) blob device
  have noted (between : Device) : SameLedger between (metaWrite env.toFaults slot record between).2 :=
    (offLedger_slot slot (by decide)).write record.bytes between
  rw [same, Op.bind_of_ok wrote, noted, ledgerOf_put_key]
  exact .inr ⟨blob, rfl⟩

theorem storageSlotDelete_release (slot : Slot) (device : Device) :
    ledgerOf (storageSlotDelete env.toFaults slot device).2 = (ledgerOf device).release slot := by
  have same := storageSlotDelete_frame env.toFaults slot device
  have column (file : SlotFile) :
      (fun other => (storageSlotDelete env.toFaults slot device).2.fs.files (.slot other file)) =
        Function.update (fun other => device.fs.files (.slot other file)) slot none := by
    funext other
    by_cases here : other = slot
    · rw [here, storageSlotDelete_files reliable.unlink, Function.update_self]
    · rw [Function.update_of_ne here, same _ (by simpa using here)]
  have issued (name : Bytes) (file : IssuedFile) :
      (storageSlotDelete env.toFaults slot device).2.fs.files (.issued name file) =
        device.fs.files (.issued name file) := same _ (by simp)
  simp only [ledgerOf, Ledger.release, column, issued, recordAt]

theorem storageSecureWipe_ledger (done : storageSecureWipe env.toFaults device = (.ok (), wiped)) :
    ledgerOf wiped = .empty := by
  have gone := storageSecureWipe_files reliable.unlink done
  simp only [ledgerOf, Ledger.empty, recordAt, gone, Option.bind_none, Option.map_none]

end Commands

/-- The slot that the next key gets. -/
def Ledger.nextSlot (ledger : Ledger) (config : Config) : Option Slot :=
  (keySlots config).find? fun slot => (ledger.key slot).isNone

/-- What one event enters while the medium obeys. -/
inductive Transition (config : Config) (crypto : Crypto) (device : Device) (event : Event) : Ledger → Prop
  | steady : Transition config crypto device event (ledgerOf device)
  | signed {env : Env} {command : Command} {data : Bytes} {issue : Issue}
      (runs : executes config device event = some (env, command, data))
      (answers : command = .signCsr ∨ command = .signCsrSlot)
      (minted : Minted config crypto env (ledgerOf device) issue.issuerSlot issue.serial issue.der) :
      Transition config crypto device event ((ledgerOf device).file issue)
  | crossSigned {env : Env} {data : Bytes} {issue : Issue}
      (runs : executes config device event = some (env, .signKeySlot, data))
      (issuer : issue.issuerSlot = slotArg data)
      (keyed : (ledgerOf device).key (slotArg (data.drop 4)) ≠ none)
      (minted : Minted config crypto env (ledgerOf device) issue.issuerSlot issue.serial issue.der) :
      Transition config crypto device event
        (((ledgerOf device).install (slotArg (data.drop 4)) issue.der none).file issue)
  | selfSigned {env : Env} {data serial der : Bytes}
      (runs : executes config device event = some (env, .pushKeyX509, data))
      (minted : Minted config crypto env (ledgerOf device) (slotArg data) serial der) :
      Transition config crypto device event ((ledgerOf device).install (slotArg data) der none)
  | booted {env : Env} {volume : VolumeState} {serial der : Bytes} (boots : event = .powerCycle env volume)
      (absent : (ledgerOf device).cert caSlot = none)
      (minted : Minted config crypto env (ledgerOf device) caSlot serial der) :
      Transition config crypto device event
        ((ledgerOf device).install caSlot der ((ledgerOf device).chain caSlot))
  | caPushed {env : Env} {data : Bytes} (runs : executes config device event = some (env, .pushCaCert, data)) :
      Transition config crypto device event ((ledgerOf device).install caSlot data none)
  | pushed {env : Env} {data : Bytes} (runs : executes config device event = some (env, .pushKeyCert, data))
      (keyed : (ledgerOf device).key (slotArg data) ≠ none) :
      Transition config crypto device event ((ledgerOf device).install (slotArg data) (pushedCert data)
        (if pushedChain data = [] then none else some (pushedChain data)))
  | provisioned {env : Env} {data blob : Bytes}
      (runs : executes config device event = some (env, .provisionCa, data))
      (absent : (ledgerOf device).key caSlot = none) :
      Transition config crypto device event ((ledgerOf device).allocate caSlot blob)
  | generated {env : Env} {data blob : Bytes} {slot : Slot}
      (runs : executes config device event = some (env, .genKey, data))
      (free : (ledgerOf device).nextSlot config = some slot) :
      Transition config crypto device event ((ledgerOf device).allocate slot blob)
  | deleted {env : Env} {data : Bytes} (runs : executes config device event = some (env, .deleteKey, data))
      (other : slotArg data ≠ caSlot) :
      Transition config crypto device event ((ledgerOf device).release (slotArg data))
  | wiped {env : Env} {data : Bytes} (runs : executes config device event = some (env, .resetDevice, data)) :
      Transition config crypto device event .empty

section Transitions

variable {config : Config} {crypto : Crypto} {env : Env} {device : Device} {data : Bytes} {event : Event}

theorem firstFreeSlot_find {slots : List Slot} {free : Slot} (found : (firstFreeSlot slots device).1 = .ok free) :
    slots.find? (fun slot => ((ledgerOf device).key slot).isNone) = some free := by
  induction slots with
  | nil => cases found
  | cons slot rest ih =>
    obtain ⟨taken, looked, found⟩ := Op.read_ok found
    obtain rfl := Except.ok.inj looked
    have column : (ledgerOf device).key slot = device.fs.files (.slot slot .key) := rfl
    cases held : device.fs.files (.slot slot .key) with
    | none =>
      rw [held] at found
      obtain rfl : slot = free := Except.ok.inj found
      simp [column, held]
    | some blob =>
      rw [held] at found
      simpa [column, held] using ih found

/-- The ledger stays as it is or becomes one of the allowed ones. -/
def Moves (allowed : Ledger → Prop) (before after : Device) : Prop :=
  SameLedger before after ∨ allowed (ledgerOf after)

instance (allowed : Ledger → Prop) : IsPreorder Device (Moves allowed) where
  refl device := .inl (refl device)
  trans _ _ _ first second := by
    rcases second with same | moved
    · rcases first with earlier | moved
      · exact .inl (IsTrans.trans _ _ _ earlier same)
      · exact .inr (same ▸ moved)
    · exact .inr moved

variable {allowed : Ledger → Prop} {slot : Slot}

variable (reliable : Reliable env.toFaults)

include reliable

theorem caPushKeyX509_moves
    (signed : ∀ serial der, Minted config crypto env (ledgerOf device) slot serial der →
      allowed ((ledgerOf device).install slot der none)) (content : Bytes) :
    Moves allowed device (caPushKeyX509 config crypto env slot content device).2 := by
  apply caPushKeyX509_related
  intro params _ _ _
  have kept : SameLedger device (storageSlotX509Write env.toFaults slot content device).2 :=
    (offLedger_slot slot (by decide)).write content device
  refine Op.relates_bind (.inl kept) fun _ between wrote => ?_
  rw [wrote] at kept
  rcases buildSelfSignedCert_minted config crypto env slot between params with
    ⟨error, failed⟩ | ⟨serial, der, minted, built⟩
  · rw [Op.bind_of_error failed]
    exact refl between
  · rw [Op.bind_apply, built, ← Op.bind_apply]
    obtain ⟨after, swapped, ledger⟩ := swapCert_install reliable slot der between
    rw [kept] at minted ledger
    rw [swapped]
    exact .inr (ledger ▸ signed serial der minted)

theorem caGenKey_moves
    (generated : ∀ free blob, (ledgerOf device).nextSlot config = some free →
      allowed ((ledgerOf device).allocate free blob)) (keyType : UInt8) :
    Moves allowed device (caGenKey config env keyType device).2 := by
  refine caGenKey_related fun free found _ => ?_
  rcases createKey_ledger reliable free (slotMetaOf keyTypeP256 0 0) device with same | ⟨blob, moved⟩
  · exact .inl same
  · exact .inr (moved ▸ generated free blob (firstFreeSlot_find found))

theorem caProvision_moves
    (generated : ∀ blob, (ledgerOf device).key caSlot = none → allowed ((ledgerOf device).allocate caSlot blob))
    (keyType : UInt8) : Moves allowed device (caProvision env keyType device).2 := by
  refine caProvision_related (fun _ => .inl rfl) fun absent _ => ?_
  rcases createKey_ledger reliable caSlot (slotMetaOf (normalizeKeyType keyType) 1 1) device with
    same | ⟨blob, moved⟩
  · exact .inl same
  · exact .inr (moved ▸ generated blob absent)

theorem caDeleteKey_moves
    (deleted : slot ≠ caSlot → allowed ((ledgerOf device).release slot)) :
    Moves allowed device (caDeleteKey config env slot device).2 := by
  rcases caDeleteKey_cases config env slot device with same | ⟨other, _, _, removed⟩
  · rw [same]
    exact refl device
  · rw [removed]
    exact .inr (storageSlotDelete_release reliable slot device ▸ deleted other)

/-- The certificate is replaced, with the chain that came along. -/
theorem replacePair_ledger (slot : Slot) (cert chain : Bytes) (device : Device) :
    ledgerOf ((do
      storageSlotCertWrite env.toFaults slot cert
      replaceChain env slot chain : Op Device Errno Unit) device).2 =
        (ledgerOf device).install slot cert (if chain = [] then none else some chain) := by
  unfold replaceChain
  by_cases empty : chain = []
  · obtain ⟨after, swapped, ledger⟩ := swapCert_install reliable slot cert device
    subst empty
    simp only [List.length_nil, gt_iff_lt, Nat.lt_irrefl, if_false, if_true]
    rw [swapped]
    exact ledger
  · have first : storageSlotCertWrite env.toFaults slot cert device = _ :=
      writeFile_done (reliable.write _) cert device
    have second (between : Device) : storageSlotChainWrite env.toFaults slot chain between = _ :=
      writeFile_done (reliable.write _) chain between
    rw [if_pos (List.length_pos_iff.mpr empty), if_neg empty, Op.bind_of_ok first, second]
    simp [ledgerOf, Ledger.install, recordAt, funext_iff, Function.update_apply]

theorem caPushKeyCert_moves {cert chain : Bytes}
    (pushed : (ledgerOf device).key slot ≠ none →
      allowed ((ledgerOf device).install slot cert (if chain = [] then none else some chain))) :
    Moves allowed device (caPushKeyCert config crypto env slot cert chain device).2 := by
  apply caPushKeyCert_related
  intro _ _ _ present _ _ _
  have keyed : (ledgerOf device).key slot ≠ none := Option.isSome_iff_ne_none.mp present
  exact .inr (replacePair_ledger reliable slot cert chain device ▸ pushed keyed)

section Boot

variable (signed : ∀ serial der, (ledgerOf device).cert caSlot = none →
  Minted config crypto env (ledgerOf device) caSlot serial der →
    allowed ((ledgerOf device).install caSlot der ((ledgerOf device).chain caSlot)))
include signed

/-- A boot certifies slot 0 when it has a key only. -/
theorem caInit_moves : Moves allowed device (caInit config crypto env device).2 := by
  refine caInit_related (fun _ => .inl rfl) fun params _ absent _ => ?_
  rcases buildSelfSignedCert_minted config crypto env caSlot { device with provisioned := true } params with
    ⟨error, failed⟩ | ⟨serial, der, minted, built⟩
  · rw [failed]
    exact .inl rfl
  · have wrote : storageSlotCertWrite env.toFaults caSlot der { device with provisioned := true } = _ :=
      writeFile_done (reliable.write _) der _
    rw [built, wrote]
    exact .inr (ledgerOf_put_cert ▸ signed serial der absent minted)

/-- A boot finds the ledger as it was. -/
theorem boot_moves (volume : VolumeState) : Moves allowed device (boot config crypto env volume device).2 := by
  have found : ledgerOf { device with provisioned := false, volume } = ledgerOf device := ledgerOf_congr rfl
  have moved : Moves allowed { device with provisioned := false, volume }
      (boot config crypto env volume device).2 := caInit_moves reliable (found ▸ signed)
  exact IsTrans.trans device { device with provisioned := false, volume } _ (.inl found) moved

end Boot

theorem wiped_moves (done : storageSecureWipe env.toFaults device = (.ok (), wiped)) (cleared : allowed .empty) :
    Moves allowed device (boot config crypto env wiped.volume wiped).2 := by
  have blank := storageSecureWipe_ledger reliable done
  have still : Moves allowed wiped (boot config crypto env wiped.volume wiped).2 := by
    apply boot_moves reliable
    rintro serial der _ ⟨_, _, _, ⟨blob, held, _⟩, _⟩
    rw [blank] at held
    cases held
  exact IsTrans.trans device wiped _ (.inr (blank ▸ cleared)) still

omit reliable

variable {command : Command}

/-- The commands whose effect says all that is needed. -/
theorem Effect.moves {after : Device}
    (effect : Effect config crypto env data device command after) (reliable : Reliable env.toFaults)
    (runs : executes config device event = some (env, command, data))
    (other : command ≠ .signCsr ∧ command ≠ .signCsrSlot ∧ command ≠ .signKeySlot ∧ command ≠ .pushKeyCert) :
    Moves (Transition config crypto device event) device after := by
  have marks (bits : UInt8) : Remarks SameLedger env.toFaults bits := remarks_sameLedger reliable bits
  cases effect with
  | refused => exact refl device
  | signCsr => exact absurd rfl other.1
  | signCsrSlot => exact absurd rfl other.2.1
  | signKeySlot long => exact absurd rfl other.2.2.1
  | pushCaCert => exact .inr (replacePair_ledger reliable caSlot data [] device ▸ .caPushed runs)
  | autoExpire => exact .inl (caAutoExpire_respects (marks _) _ device)
  | revokeCert serial nowUnix => exact .inl (caRevokeCert_sameLedger reliable serial nowUnix device)
  | genKey => exact caGenKey_moves reliable (fun _ _ free => .generated runs free) _
  | protectSlot => exact .inl (caProtectSlot_respects (offLedger_slot _ (by decide)) (marks _) _ device)
  | unprotectSlot => exact .inl (caUnprotectSlot_respects (offLedger_slot _ (by decide)) device)
  | deleteKey => exact caDeleteKey_moves reliable fun notRoot => .deleted runs notRoot
  | genKeyCsr => exact .inl (caGenKeyCsr_respects (offLedger_slot _ (by decide)) _ device)
  | pushKeyCert cert chain => exact absurd rfl other.2.2.2
  | pushKeyX509 => exact caPushKeyX509_moves reliable (fun _ _ minted => .selfSigned runs minted) _
  | provisionCa => exact caProvision_moves reliable (fun _ absent => .provisioned runs absent) _
  | resetDevice wiped done => exact wiped_moves reliable done (.wiped runs)
  | elsewhere _ bonds =>
    have same : SameOutside OffLedger device { device with fs := device.fs.withClients bonds } :=
      withClients_sameOutside (fun _ _ => trivial) device bonds
    exact .inl (sameLedger_of_sameOutside same)

theorem signs_minted (signed : signs config crypto env data device command = some issue) :
    Minted config crypto env (ledgerOf device) issue.issuerSlot issue.serial issue.der := by
  cases command
  case signCsr => exact minted_of_prepareCsr (toOption_eq_some.mp signed)
  case signCsrSlot =>
    simp only [signs] at signed
    split_ifs at signed
    exact minted_of_prepareCsr (toOption_eq_some.mp signed)
  case signKeySlot =>
    simp only [signs] at signed
    split_ifs at signed
    obtain ⟨_, _, params, privkey, _, _, ready, _, _, built, issuer, _⟩ :=
      prepareKeyIssue_iff.mp (toOption_eq_some.mp signed)
    rw [issuer]
    exact minted_of_ready ready rfl rfl built
  all_goals cases signed

theorem signKeySlot_slots (signed : signs config crypto env data device .signKeySlot = some issue) :
    issue.issuerSlot = slotArg data ∧ (ledgerOf device).key (slotArg (data.drop 4)) ≠ none := by
  simp only [signs] at signed
  split_ifs at signed
  obtain ⟨_, keyed, _, _, _, _, _, _, _, _, issuer, _⟩ := prepareKeyIssue_iff.mp (toOption_eq_some.mp signed)
  exact ⟨issuer, Option.isSome_iff_ne_none.mp keyed⟩

/-- Every handler enters what its command stands for, or nothing. -/
theorem handle_moves (reliable : Reliable env.toFaults)
    (runs : executes config device event = some (env, command, data)) :
    Moves (Transition config crypto device event) device (handle config crypto env data command device).2 := by
  have filed {issue : Issue} (signed : signs config crypto env data device command = some issue) (between : Device) :
      ledgerOf (persistIssue env issue between).2 = (ledgerOf between).file issue :=
    persistIssue_file reliable (signs_short signed) between
  by_cases csr : command = .signCsr
  · subst csr
    cases signed : signs config crypto env data device .signCsr with
    | none =>
      rw [handle, handleSignCsr_unsigned signed]
      exact refl device
    | some issue =>
      rw [handle, handleSignCsr_signed signed]
      exact .inr (filed signed device ▸ .signed runs (.inl rfl) (signs_minted signed))
  by_cases csrSlot : command = .signCsrSlot
  · subst csrSlot
    cases signed : signs config crypto env data device .signCsrSlot with
    | none =>
      obtain ⟨_, _, refused⟩ := handleSignCsrSlot_unsigned signed
      rw [handle, refused]
      exact refl device
    | some issue =>
      rw [handle, handleSignCsrSlot_signed signed]
      exact .inr (filed signed device ▸ .signed runs (.inr rfl) (signs_minted signed))
  by_cases keySlot : command = .signKeySlot
  · subst keySlot
    cases signed : signs config crypto env data device .signKeySlot with
    | none =>
      obtain ⟨_, _, refused⟩ := handleSignKeySlot_unsigned signed
      rw [handle, refused]
      exact refl device
    | some issue =>
      obtain ⟨issuer, keyed⟩ := signKeySlot_slots signed
      obtain ⟨after, swapped, ledger⟩ := swapCert_install reliable (slotArg (data.drop 4)) issue.der device
      rw [handle, handleSignKeySlot_signed signed]
      rw [installIssue_eq, Op.bind_of_ok swapped]
      refine .inr ?_
      rw [filed signed, ledger]
      exact .crossSigned runs issuer keyed (signs_minted signed)
  by_cases push : command = .pushKeyCert
  · subst push
    rw [handle]
    rcases handlePushKeyCert_state config crypto env data device with refused | pushed
    · rw [refused]
      exact refl device
    · rw [pushed]
      exact caPushKeyCert_moves reliable fun keyed => .pushed runs keyed
  exact (handle_effect command).moves reliable runs ⟨csr, csrSlot, keySlot, push⟩

/-- A faultless step is a transition of the ledger. -/
theorem step_transition (config : Config) (crypto : Crypto) (device : Device) (event : Event)
    (reliable : Reliable event.env.toFaults) :
    Transition config crypto device event (ledgerOf (step config crypto device event)) := by
  have moved : Moves (Transition config crypto device event) device (step config crypto device event) := by
    rcases step_cases config crypto device event with same | ⟨env, command, data, runs, _⟩ |
      ⟨env, volume, rfl, booted⟩
    · rw [same]
      exact refl device
    · rw [executes_env runs] at reliable
      rw [step_of_executes runs]
      exact handle_moves reliable runs
    · exact boot_moves reliable (fun _ _ absent minted => .booted rfl absent minted) volume
  rcases moved with same | entered
  · rw [same]
    exact .steady
  · exact entered

end Transitions

end Cantil.Dispatcher
