import Cantil.Firmware.Ca.SessionCert
import Cantil.Firmware.Session

namespace Cantil.SessionSlot
open Library Ca
open Dispatcher (Answer refusal slotArg)
open Protocol (Err)

def sessionCertDerMax : Nat := 2048

def ephemeralCertMax : Nat := 1024

def sessionMetaVersion : UInt8 := 1

def sessionMetaFlagCaSigned : UInt8 := 0x01

/-- The build constant, and whether a boot insists on it. -/
structure Build where
  constant : Bytes
  strict : Bool
  deriving DecidableEq, Repr

/-- An identity that lives in RAM only. -/
structure Ephemeral where
  priv : Bytes
  pub : Bytes
  cert : Bytes
  deriving DecidableEq, Repr

structure SlotState where
  files : SessionFile → Option Bytes
  ephemeral : Option Ephemeral
  inRecovery : Bool

/-- The device with its session slot. -/
structure Machine where
  device : Device
  slot : SlotState

def SlotState.blank : SlotState := ⟨fun _ => none, none, false⟩

/-- The file holds the content from now on, or is gone. -/
def Machine.withFile (machine : Machine) (file : SessionFile) (content : Option Bytes) : Machine :=
  { machine with slot := { machine.slot with files := Function.update machine.slot.files file content } }

abbrev SlotOp (Value : Type) := Op Machine Errno Value

/-- The CA works on its own part of the machine. -/
def onDevice {Value : Type} (op : Op Device Errno Value) : SlotOp Value := fun machine =>
  ((op machine.device).1, { machine with device := (op machine.device).2 })

/-- The outcome of a write and what the file holds then. -/
def writeContent (outcome : WriteOutcome) (old : Option Bytes) (data : Bytes) : Except Errno Unit × Option Bytes :=
  match outcome with
  | .done => (.ok (), some data)
  | .mkdirFailed error => (.error error, old)
  | .openFailed error => (.error error, old)
  | .short (some kept) => (.error .eio, some (data.take kept))
  | .short none => (.error .eio, some (old.getD []))
  | .uncommitted => (.ok (), some (old.getD []))

variable (config : Config) (crypto : Crypto) (env : SessionEnv) (build : Build) (data : Bytes)

def storageSessionWrite (file : SessionFile) (data : Bytes) : SlotOp Unit := fun machine =>
  let (result, content) := writeContent (env.sessionWrite file) (machine.slot.files file) data
  (result, machine.withFile file content)

/-- A read fills the caller's buffer and cuts what does not fit. -/
def storageSessionRead (file : SessionFile) (capacity : Nat) : SlotOp Bytes := .reads fun machine =>
  match machine.slot.files file with
  | none => .error .enoent
  | some data => .ok (data.take capacity)

def storageSessionCertExists : SlotOp Bool := .reads fun machine => .ok (machine.slot.files .cert).isSome

/-- A chain that is not there counts as deleted. -/
def storageSessionChainDelete : SlotOp Unit := fun machine =>
  match machine.slot.files .chain, env.chainUnlink with
  | none, _ => (.ok (), machine)
  | some _, some error => (.error error, machine)
  | some _, none => (.ok (), machine.withFile .chain none)

/-- The record of the session slot. -/
structure SessionMeta where
  version : UInt8
  flags : UInt8
  reserved : UInt8 × UInt8
  initUnix : UInt64
  x25519Pub : Bytes
  x25519Pub_length : x25519Pub.length = 32
  deriving DecidableEq, Repr

def sessionMetaSize : Nat := 44

def SessionMeta.bytes (record : SessionMeta) : Bytes :=
  [record.version, record.flags, record.reserved.1, record.reserved.2] ++
    (littleEndian 8 record.initUnix.toNat ++ record.x25519Pub)

def SessionMeta.ofBytes (buf : Bytes) : SessionMeta where
  version := buf.getD 0 0
  flags := buf.getD 1 0
  reserved := (buf.getD 2 0, buf.getD 3 0)
  initUnix := UInt64.ofNat (littleEndianValue (fieldAt 4 8 buf))
  x25519Pub := padTo 32 (fieldAt 12 32 buf)
  x25519Pub_length := padTo_length _ _

def parseSessionMeta (buf : Bytes) : Except Errno SessionMeta :=
  if buf.length ≠ sessionMetaSize ∨ buf.getD 0 0 ≠ sessionMetaVersion then .error .einval else .ok (.ofBytes buf)

def readSessionMeta : SlotOp SessionMeta := do
  let buf ← storageSessionRead .metadata sessionMetaSize
  .lift (parseSessionMeta buf)

def storageSessionMetaWrite (record : SessionMeta) : SlotOp Unit :=
  storageSessionWrite env .metadata record.bytes

/-- A volatile identity hides the stored one. -/
def sessionSlotGetPubkey : SlotOp Bytes := do
  match ← .reads fun machine => .ok machine.slot.ephemeral with
  | some identity => return identity.pub
  | none => return (← readSessionMeta).x25519Pub

/-- What `session_slot_get_cert` chooses from. -/
def SlotState.sessionCert (slot : SlotState) : Dispatcher.SessionCert :=
  ⟨slot.ephemeral.map Ephemeral.cert, slot.files .cert⟩

def hexUpper (byte : UInt8) : Bytes :=
  let digit (value : Nat) : UInt8 := UInt8.ofNat (if value < 10 then 48 + value else 55 + value)
  [digit (byte.toNat / 16), digit (byte.toNat % 16)]

/-- The text `Cantil`. -/
def cantilName : Bytes := [0x43, 0x61, 0x6E, 0x74, 0x69, 0x6C]

/-- The name ends in the device identifier of eight bytes. -/
def deriveCn (deviceId : Option Bytes) : Bytes :=
  match deviceId with
  | some id => if id.length = 8 then cantilName ++ (0x2D :: id.flatMap hexUpper) else cantilName
  | none => cantilName

/-- The stored signing key of the identity. -/
def loadIdentityKey : SlotOp Bytes := do
  let enc ← storageSessionRead .idKey keyBlobLen
  .lift env.storageKeyDerive
  let idPriv ← .lift (crypto.decryptBlob enc)
  .ensure (idPriv.length = 32) .eio
  return idPriv

/-- A certificate that a CA signed is replaced by force only. -/
def checkResignAllowed (flags : UInt8) (force : Bool) : SlotOp Unit :=
  .ensure (flags &&& sessionMetaFlagCaSigned = 0 ∨ force = true) .eexist

/-- `session_slot_sign_from_slot` before its first write. -/
def prepareSign (issuerSlot : Slot) (force : Bool) : SlotOp (SessionMeta × Bytes) := do
  .ensure ((← storageSessionCertExists) = true) .enoent
  let record ← readSessionMeta
  checkResignAllowed record.flags force
  let idPriv ← loadIdentityKey crypto env
  let cert ← onDevice (caSignSessionCert config crypto env issuerSlot build.constant (deriveCn env.deviceId) idPriv
    record.x25519Pub)
  return (record, cert)

/-- The record marks a certificate that a CA signed. -/
def SessionMeta.marked (record : SessionMeta) (caSigned : Bool) : SessionMeta :=
  { record with
    flags := if caSigned then record.flags ||| sessionMetaFlagCaSigned
      else record.flags &&& ~~~sessionMetaFlagCaSigned }

/-- The stored chain stays. -/
def installSigned (record : SessionMeta) (cert : Bytes) : SlotOp Unit := do
  storageSessionWrite env .cert cert
  storageSessionMetaWrite env (record.marked true)

def sessionSlotSignFromSlot (issuerSlot : Slot) (force : Bool) : SlotOp Unit := do
  let prepared ← prepareSign config crypto env build issuerSlot force
  installSigned env prepared.1 prepared.2

/-- The chain is stored, or cleared when none is given. -/
def replaceSessionChain (chain : Bytes) : SlotOp Unit :=
  if chain.length > 0 then storageSessionWrite env .chain chain else storageSessionChainDelete env

/-- `session_slot_push_cert` before its first write. -/
def preparePush (cert chain : Bytes) (force : Bool) : SlotOp (SessionMeta × Bool) := do
  .ensure (cert.length ≠ 0) .einval
  .ensure ((← storageSessionCertExists) = true) .enoent
  let record ← readSessionMeta
  checkResignAllowed record.flags force
  let x25519Pub ← sessionSlotGetPubkey
  let idPriv ← loadIdentityKey crypto env
  let idPub ← .lift (crypto.pubkeyFromPrivkey idPriv)
  .ensure (idPub.length = 65) .eio
  let caSigned ← .lift (caValidatePushedSessionCert crypto.toWolfReader cert chain idPub x25519Pub build.constant)
  return (record, caSigned)

def installPushed (record : SessionMeta) (cert chain : Bytes) (caSigned : Bool) : SlotOp Unit := do
  storageSessionWrite env .cert cert
  replaceSessionChain env chain
  storageSessionMetaWrite env (record.marked caSigned)

def sessionSlotPushCert (cert chain : Bytes) (force : Bool) : SlotOp Unit := do
  let prepared ← preparePush crypto env build cert chain force
  installPushed env prepared.1 cert chain prepared.2

/-- A failure to store the request is not reported. -/
def sessionSlotGetCsr : SlotOp Bytes := do
  .ensure ((← storageSessionCertExists) = true) .enoent
  let x25519Pub ← sessionSlotGetPubkey
  let idPriv ← loadIdentityKey crypto env
  let csr ← onDevice (caBuildSessionCsr env build.constant (deriveCn env.deviceId) idPriv x25519Pub)
  let _ ← (storageSessionWrite env .csr csr).attempt
  return csr

/-- The volatile key pair, or the stored one. -/
def loadStaticKeypair : SlotOp (Bytes × Bytes) := do
  match ← .reads fun machine => .ok machine.slot.ephemeral with
  | some identity => return (identity.priv, identity.pub)
  | none =>
    let blob ← storageSessionRead .key keyBlobLen
    .lift env.storageKeyDerive
    let priv ← .lift (crypto.decryptBlob blob)
    .ensure (priv.length = 32) .einval
    return (priv, ← sessionSlotGetPubkey)

def setRecovery : SlotOp Unit := fun machine =>
  (.ok (), { machine with slot := { machine.slot with inRecovery := true } })

def setEphemeral (identity : Option Ephemeral) : SlotOp Unit := fun machine =>
  (.ok (), { machine with slot := { machine.slot with ephemeral := identity } })

/-- A strict build enters recovery on a mismatch. -/
def verifySessionIdentity (wolf : WolfReader) (build : Build) : SlotOp Unit := do
  match ← (storageSessionRead .cert sessionCertDerMax).attempt with
  | .error error => if build.strict then setRecovery else .fail error
  | .ok cert =>
    if (caSessionCertMatchesConstant wolf cert build.constant).toOption = some true then pure ()
    else if build.strict then setRecovery
    else pure ()

def keygenScalar : SlotOp Bytes := do
  let idPriv ← .lift env.keygen
  .ensure (idPriv.length = 32) .eio
  return idPriv

/-- A Noise key pair, a signing key, and their certificate. -/
structure Identity where
  pair : { pair : Bytes × Bytes // pair.2.length = 32 }
  idPriv : Bytes
  cert : Bytes

def prepareIdentity : SlotOp Identity := do
  let pair ← .lift env.dhKeygen
  let idPriv ← keygenScalar env
  let cert ← onDevice (caBuildSessionCert env build.constant (deriveCn env.deviceId) idPriv pair.1.2)
  return ⟨pair, idPriv, cert⟩

/-- The identity is minted into RAM, and nothing is written. -/
def sessionSlotInitEphemeral : SlotOp Unit := do
  let fresh ← prepareIdentity env build
  .ensure (fresh.cert.length ≤ ephemeralCertMax) .enomem
  setEphemeral (some ⟨fresh.pair.1.1, fresh.pair.1.2, fresh.cert⟩)

def Identity.record (fresh : Identity) : SessionMeta :=
  ⟨sessionMetaVersion, 0, (0, 0), 0, fresh.pair.1.2, fresh.pair.2⟩

/-- The four files of a new identity. -/
def storeIdentity (fresh : Identity) : SlotOp Unit := do
  .lift env.storageKeyDerive
  storageSessionWrite env .key (← .lift (env.encryptBlob fresh.pair.1.1))
  storageSessionWrite env .idKey (← .lift (env.encryptBlob fresh.idPriv))
  storageSessionWrite env .cert fresh.cert
  storageSessionMetaWrite env fresh.record

def sessionSlotMint : SlotOp Unit := do
  let fresh ← prepareIdentity env build
  storeIdentity env fresh

/-- Without the right to mint the identity is in RAM. -/
def sessionSlotInit (wolf : WolfReader) (env : SessionEnv) (build : Build) : SlotOp Unit := do
  setEphemeral none
  if (← .reads fun machine => .ok machine.device.volume) = .mismatch then sessionSlotInitEphemeral env build
  else if ← storageSessionCertExists then verifySessionIdentity wolf build
  else if ← onDevice storageVolumeMayMint then sessionSlotMint env build
  else sessionSlotInitEphemeral env build

/-! The commands of the session slot. -/

/-- A request that is not confirmed changes nothing. -/
def confirmed (action : SlotOp Answer) : SlotOp Answer :=
  if env.confirm = .ok then action else return refusal env.confirm

/-- The codes of the two commands that replace the certificate. -/
def sessionErr : Except Errno Unit → Err
  | .ok () => .ok
  | .error .enoent => .notFound
  | .error .eexist => .invalidArgs
  | .error .einval => .invalidArgs
  | .error .enomem => .storage
  | .error _ => .crypto

def handleSignSessionFromSlot : SlotOp Answer := do
  if data.length < 5 then return refusal .invalidArgs
  if slotArg data ≥ config.maxKeySlots then return refusal .invalidArgs
  confirmed env do
    let result ← (sessionSlotSignFromSlot config crypto env build (slotArg data) (data.getD 4 0 ≠ 0)).attempt
    return refusal (sessionErr result)

/-- The certificate of a push, behind flag and length. -/
def pushedCert : Bytes := fieldAt 3 (bigEndianValue (fieldAt 1 2 data)) data

/-- All that follows the certificate. -/
def pushedChain : Bytes := data.drop (3 + bigEndianValue (fieldAt 1 2 data))

def handlePushSessionCert : SlotOp Answer := do
  if data.length < 3 then return refusal .invalidArgs
  if 3 + bigEndianValue (fieldAt 1 2 data) > data.length then return refusal .invalidArgs
  confirmed env do
    let result ← (sessionSlotPushCert crypto env build (pushedCert data) (pushedChain data) (data.headD 0 ≠ 0)).attempt
    return refusal (sessionErr result)

def handleGetSessionCsr : SlotOp Answer := do
  match ← (sessionSlotGetCsr crypto env build).attempt with
  | .ok csr => return .reply ⟨.ok, Dispatcher.RespData.of csr⟩
  | .error .enoent => return refusal .notFound
  | .error .einval => return refusal .invalidArgs
  | .error .enomem => return refusal .storage
  | .error _ => return refusal .crypto

/-- What the slot brings to a handshake. -/
def handshakeInputs (machine : Machine) (poolUsed : Bool) (ephemeralKeypair : Except Errno (Bytes × Bytes))
    (expectedClientPub : Option Bytes) : Session.Inputs where
  poolUsed
  staticKeypair := (loadStaticKeypair crypto env machine).1
  ephemeralKeypair
  slotCert := machine.slot.sessionCert
  chainFile := machine.slot.files .chain
  expectedClientPub

/-! What happens before the first write only reads. -/

section Readers

instance {Value : Type} (op : Op Device Errno Value) [Op.Reader op] : Op.Reader (onDevice op) where
  kept machine := by rw [onDevice, Op.Reader.kept machine.device]

instance (file : SessionFile) (capacity : Nat) : Op.Reader (storageSessionRead file capacity) := .reads _

instance : Op.Reader storageSessionCertExists := .reads _

instance : Op.Reader (readSessionMeta) := by
  unfold readSessionMeta
  infer_instance

instance : Op.Reader sessionSlotGetPubkey := by
  refine .read fun identity => ?_
  split <;> infer_instance

instance (flags : UInt8) (force : Bool) : Op.Reader (checkResignAllowed flags force) := by
  unfold checkResignAllowed
  infer_instance

instance : Op.Reader (loadIdentityKey crypto env) := by
  unfold loadIdentityKey
  infer_instance

instance (issuerSlot : Slot) (force : Bool) :
    Op.Reader (prepareSign config crypto env build issuerSlot force) :=
  .read fun _ => .read fun _ => .read fun _ => .read fun _ => inferInstance

instance (cert chain : Bytes) (force : Bool) :
    Op.Reader (preparePush crypto env build cert chain force) :=
  .read fun _ => .read fun _ => .read fun _ => .read fun _ =>
    .read fun _ => .read fun _ => .read fun _ => .read fun _ => inferInstance

instance : Op.Reader (keygenScalar env) := by
  unfold keygenScalar
  infer_instance

instance : Op.Reader (prepareIdentity env build) :=
  .read fun _ => .read fun _ => inferInstance

end Readers

/-- The record that the slot holds, as far as it can be read. -/
def SlotState.record (slot : SlotState) : Option SessionMeta := do
  let buf ← slot.files .metadata
  (parseSessionMeta (buf.take sessionMetaSize)).toOption

variable {machine : Machine} {record : SessionMeta}

theorem readSessionMeta_eq_ok :
    (readSessionMeta machine).1 = .ok record ↔ machine.slot.record = some record := by
  rw [readSessionMeta, Op.bind_apply, storageSessionRead, Op.reads_apply, SlotState.record]
  rcases machine.slot.files .metadata with _ | buf
  · simp
  · simp [toOption_eq_some]

/-- Without a volatile identity the key is the record's. -/
theorem sessionSlotGetPubkey_eq_ok {pub : Bytes} (plain : machine.slot.ephemeral = none) :
    (sessionSlotGetPubkey machine).1 = .ok pub ↔
      ∃ record, machine.slot.record = some record ∧ record.x25519Pub = pub := by
  rw [sessionSlotGetPubkey, Op.bind_apply, Op.reads_apply, plain]
  constructor
  · intro known
    obtain ⟨record, read, rest⟩ := Op.read_ok known
    exact ⟨record, readSessionMeta_eq_ok.mp read, Except.ok.inj rest⟩
  · rintro ⟨record, found, rfl⟩
    have read := Op.read_eq (readSessionMeta_eq_ok.mpr found)
    dsimp only
    rw [Op.bind_of_ok read]
    rfl

theorem SessionMeta.bytes_length (record : SessionMeta) : record.bytes.length = sessionMetaSize := by
  simp [SessionMeta.bytes, record.x25519Pub_length, sessionMetaSize]

/-- The packed layout keeps every field. -/
theorem SessionMeta.ofBytes_bytes (record : SessionMeta) : SessionMeta.ofBytes record.bytes = record := by
  obtain ⟨version, flags, reserved, initUnix, pub, pubFull⟩ := record
  have pubKept := padTo_of_length pubFull
  simp only [SessionMeta.ofBytes, SessionMeta.bytes, List.cons_append, List.nil_append]
  simp [fieldAt_cons, fieldAt_skip, fieldAt_here, fieldAt_all, pubFull, ofNat_littleEndian64, pubKept]

/-- A current record is read back as it was written. -/
theorem parseSessionMeta_bytes (current : record.version = sessionMetaVersion) :
    parseSessionMeta (record.bytes.take sessionMetaSize) = .ok record := by
  have long := record.bytes_length
  have whole : record.bytes.take sessionMetaSize = record.bytes := List.take_of_length_le (Nat.le_of_eq long)
  have front : record.bytes.getD 0 0 = sessionMetaVersion := current
  have sound : ¬ (record.bytes.length ≠ sessionMetaSize ∨ record.bytes.getD 0 0 ≠ sessionMetaVersion) := by
    rw [long, front]
    simp
  rw [whole, parseSessionMeta, if_neg sound, record.ofBytes_bytes]

theorem record_version {slot : SlotState} (found : slot.record = some record) :
    record.version = sessionMetaVersion := by
  obtain ⟨buf, _, parsed⟩ := Option.bind_eq_some_iff.mp found
  have ok := toOption_eq_some.mp parsed
  unfold parseSessionMeta at ok
  split_ifs at ok with bad
  obtain rfl := Except.ok.inj ok
  simp only [not_or, not_not] at bad
  exact bad.2

/-! Commands whose writes succeed. -/

/-- A new identity's certificate was made for its Noise key. -/
theorem prepareIdentity_built {env : SessionEnv} {build : Build} {fresh : Identity}
    (made : (prepareIdentity env build machine).1 = .ok fresh) :
    ∃ spec, env.buildSessionCert spec = .ok fresh.cert ∧ spec.x25519 = fresh.pair.1.2 := by
  obtain ⟨pair, _, made⟩ := Op.read_ok made
  obtain ⟨idPriv, _, made⟩ := Op.read_ok made
  obtain ⟨cert, built, made⟩ := Op.read_ok made
  obtain rfl := Except.ok.inj made
  exact caBuildSessionCert_built built

/-- Certificate, chain and record are the same. -/
structure SameIdentity (before after : SlotState) : Prop where
  cert : after.files .cert = before.files .cert
  chain : after.files .chain = before.files .chain
  record : after.record = before.record

/-- An identity in RAM is minted, or nothing changes. -/
theorem sessionSlotInitEphemeral_cases (machine : Machine) :
    (sessionSlotInitEphemeral env build machine).2 = machine ∨
      ∃ identity spec, env.buildSessionCert spec = .ok identity.cert ∧ spec.x25519 = identity.pub ∧
        identity.cert.length ≤ ephemeralCertMax ∧ (sessionSlotInitEphemeral env build machine).2 =
          { machine with slot := { machine.slot with ephemeral := some identity } } := by
  rcases Op.read_cases (prepareIdentity env build) (fun fresh => do
      .ensure (fresh.cert.length ≤ ephemeralCertMax) .enomem
      setEphemeral (some ⟨fresh.pair.1.1, fresh.pair.1.2, fresh.cert⟩)) machine with
    ⟨error, failed⟩ | ⟨fresh, prepared, rest⟩
  · exact .inl (by rw [sessionSlotInitEphemeral, failed])
  · obtain ⟨spec, built, bound⟩ := prepareIdentity_built prepared
    rw [sessionSlotInitEphemeral, rest]
    by_cases fits : fresh.cert.length ≤ ephemeralCertMax
    · right
      refine ⟨⟨fresh.pair.1.1, fresh.pair.1.2, fresh.cert⟩, spec, built, bound, fits, ?_⟩
      have passed : (Op.ensure (fresh.cert.length ≤ ephemeralCertMax) Errno.enomem : SlotOp Unit) machine =
          (.ok (), machine) := Op.ensure_eq_ok.mpr ⟨fits, rfl⟩
      rw [Op.bind_of_ok passed]
      rfl
    · left
      rw [Op.ensure, if_neg fits]
      rfl

/-- The check changes the recovery mode at most. -/
theorem verifySessionIdentity_same (wolf : WolfReader) (build : Build) (machine : Machine) :
    let after := (verifySessionIdentity wolf build machine).2
    after.device = machine.device ∧ after.slot.ephemeral = machine.slot.ephemeral ∧
      SameIdentity machine.slot after.slot := by
  have stays : machine.device = machine.device ∧ machine.slot.ephemeral = machine.slot.ephemeral ∧
      SameIdentity machine.slot machine.slot := ⟨rfl, rfl, rfl, rfl, rfl⟩
  unfold verifySessionIdentity
  rw [Op.bind_apply, Op.attempt_apply, storageSessionRead, Op.reads_apply]
  rcases machine.slot.files .cert with _ | cert
  · split_ifs
    · exact ⟨rfl, rfl, rfl, rfl, rfl⟩
    · exact stays
  · dsimp only
    split_ifs
    · exact stays
    · exact ⟨rfl, rfl, rfl, rfl, rfl⟩
    · exact stays

/-- The volatile identity is dropped before the volume decides. -/
theorem sessionSlotInit_eq (wolf : WolfReader) (env : SessionEnv) (build : Build) (machine : Machine) :
    sessionSlotInit wolf env build machine =
      (if machine.device.volume = .mismatch then sessionSlotInitEphemeral env build
        else if (machine.slot.files .cert).isSome then verifySessionIdentity wolf build
        else if mayMint machine.device then sessionSlotMint env build
        else sessionSlotInitEphemeral env build)
        { machine with slot := { machine.slot with ephemeral := none } } := by
  simp only [sessionSlotInit, Op.bind_apply, setEphemeral, Op.reads_apply]
  split_ifs with _ stored mints
  · rfl
  all_goals simp only [Op.bind_apply, storageSessionCertExists, Op.reads_apply, stored, if_true]
  all_goals simp [Op.bind_apply, onDevice, storageVolumeMayMint, mints]

section Writes

/-- Every write and every removal of the session slot succeeds. -/
def WritesSucceed (env : SessionEnv) : Prop := (∀ file, env.sessionWrite file = .done) ∧ env.chainUnlink = none

variable {env : SessionEnv}

variable (succeeds : WritesSucceed env)
include succeeds

theorem storageSessionWrite_done (file : SessionFile) (data : Bytes) (machine : Machine) :
    storageSessionWrite env file data machine = (.ok (), machine.withFile file (some data)) := by
  simp only [storageSessionWrite, succeeds.1 file, writeContent]

theorem replaceSessionChain_done (chain : Bytes) (machine : Machine) :
    replaceSessionChain env chain machine =
      (.ok (), machine.withFile .chain (if chain.length > 0 then some chain else none)) := by
  unfold replaceSessionChain
  split_ifs
  · exact storageSessionWrite_done succeeds .chain chain machine
  · unfold storageSessionChainDelete
    rcases stored : machine.slot.files .chain with _ | old
    · have kept : Function.update machine.slot.files .chain none = machine.slot.files := by
        rw [← stored]
        exact Function.update_eq_self _ _
      simp only [Machine.withFile, kept]
    · simp only [succeeds.2]

/-- A certificate signed on the device leaves the chain. -/
theorem sessionSlotSignFromSlot_cases (issuerSlot : Slot) (force : Bool) (machine : Machine) :
    (∃ error, sessionSlotSignFromSlot config crypto env build issuerSlot force machine = (.error error, machine)) ∨
      ∃ record cert spec, machine.slot.record = some record ∧ (machine.slot.files .cert).isSome ∧
        env.buildSessionCert spec = .ok cert ∧ spec.x25519 = record.x25519Pub ∧
        sessionSlotSignFromSlot config crypto env build issuerSlot force machine = (.ok (),
          (machine.withFile .cert (some cert)).withFile .metadata (some (record.marked true).bytes)) := by
  rcases Op.read_cases (prepareSign config crypto env build issuerSlot force)
      (fun prepared => installSigned env prepared.1 prepared.2) machine with
    ⟨error, failed⟩ | ⟨⟨record, cert⟩, prepared, rest⟩
  · exact .inl ⟨error, failed⟩
  · right
    simp only [prepareSign, Op.read_ok_iff, Op.ensure_ok, exists_const] at prepared
    obtain ⟨present, exist, stored, found, read, _, _, idPriv, _, made, built, prepared⟩ := prepared
    obtain ⟨rfl, rfl⟩ := Prod.mk.inj (Except.ok.inj prepared)
    obtain ⟨spec, written, bound⟩ := caSignSessionCert_built built
    refine ⟨found, made, spec, readSessionMeta_eq_ok.mp read, (Except.ok.inj exist).trans stored, written, bound, ?_⟩
    have first := storageSessionWrite_done succeeds .cert made machine
    rw [sessionSlotSignFromSlot, rest, installSigned, Op.bind_of_ok first]
    exact storageSessionWrite_done succeeds .metadata _ _

/-- A pushed certificate comes with its chain. -/
theorem sessionSlotPushCert_cases (cert chain : Bytes) (force : Bool) (machine : Machine) :
    (∃ error, sessionSlotPushCert crypto env build cert chain force machine = (.error error, machine)) ∨
      ∃ record pub idPub caSigned, machine.slot.record = some record ∧ (machine.slot.files .cert).isSome ∧
        (sessionSlotGetPubkey machine).1 = .ok pub ∧
        caValidatePushedSessionCert crypto.toWolfReader cert chain idPub pub build.constant = .ok caSigned ∧
        sessionSlotPushCert crypto env build cert chain force machine = (.ok (),
          ((machine.withFile .cert (some cert)).withFile .chain
            (if chain.length > 0 then some chain else none)).withFile
            .metadata (some (record.marked caSigned).bytes)) := by
  rcases Op.read_cases (preparePush crypto env build cert chain force)
      (fun prepared => installPushed env prepared.1 cert chain prepared.2) machine with
    ⟨error, failed⟩ | ⟨⟨record, caSigned⟩, prepared, rest⟩
  · exact .inl ⟨error, failed⟩
  · right
    simp only [preparePush, Op.read_ok_iff, Op.ensure_ok, exists_const] at prepared
    obtain ⟨_, present, exist, stored, found, read, _, _, pub, known, idPriv, _, idPub, _, _, signed, accepted,
      prepared⟩ := prepared
    obtain ⟨rfl, rfl⟩ := Prod.mk.inj (Except.ok.inj prepared)
    refine ⟨found, pub, idPub, signed, readSessionMeta_eq_ok.mp read, (Except.ok.inj exist).trans stored, known,
      accepted, ?_⟩
    have first := storageSessionWrite_done succeeds .cert cert machine
    have second := replaceSessionChain_done succeeds chain (machine.withFile .cert (some cert))
    rw [sessionSlotPushCert, rest, installPushed, Op.bind_of_ok first, Op.bind_of_ok second]
    exact storageSessionWrite_done succeeds .metadata _ _

/-- All is stored, or a failure comes before the certificate. -/
theorem storeIdentity_cases (fresh : Identity) (machine : Machine) : let after := (storeIdentity env fresh machine).2
    after.device = machine.device ∧ after.slot.ephemeral = machine.slot.ephemeral ∧
      (SameIdentity machine.slot after.slot ∨ (after.slot.files .cert = some fresh.cert ∧
        after.slot.files .chain = machine.slot.files .chain ∧ after.slot.record = some fresh.record)) := by
  have read : (parseSessionMeta (fresh.record.bytes.take sessionMetaSize)).toOption = some fresh.record := by
    rw [parseSessionMeta_bytes rfl]
    rfl
  rcases derived : env.storageKeyDerive with error | _
  · simp only [storeIdentity, derived, Op.bind_apply, Op.lift_apply]
    exact ⟨trivial, trivial, .inl ⟨rfl, rfl, rfl⟩⟩
  · rcases scalar : env.encryptBlob fresh.pair.1.1 with error | blob
    · simp only [storeIdentity, derived, scalar, Op.bind_apply, Op.lift_apply]
      exact ⟨trivial, trivial, .inl ⟨rfl, rfl, rfl⟩⟩
    · rcases signing : env.encryptBlob fresh.idPriv with error | idBlob
      · simp only [storeIdentity, derived, scalar, signing, Op.bind_apply, Op.lift_apply,
          storageSessionWrite_done succeeds]
        exact ⟨rfl, rfl, .inl ⟨rfl, rfl, rfl⟩⟩
      · simp only [storeIdentity, derived, scalar, signing, Op.bind_apply, Op.lift_apply,
          storageSessionWrite_done succeeds, storageSessionMetaWrite]
        exact ⟨rfl, rfl, .inr ⟨rfl, rfl, read⟩⟩

/-- The first boot stores an identity, or stops before. -/
theorem sessionSlotMint_cases (build : Build) (machine : Machine) : let after := (sessionSlotMint env build machine).2
    after.device = machine.device ∧ after.slot.ephemeral = machine.slot.ephemeral ∧
      (SameIdentity machine.slot after.slot ∨
        ∃ cert record spec, env.buildSessionCert spec = .ok cert ∧ spec.x25519 = record.x25519Pub ∧
          after.slot.files .cert = some cert ∧ after.slot.files .chain = machine.slot.files .chain ∧
          after.slot.record = some record) := by
  rcases Op.read_cases (prepareIdentity env build) (storeIdentity env) machine with
    ⟨error, failed⟩ | ⟨fresh, prepared, rest⟩
  · rw [sessionSlotMint, failed]
    exact ⟨rfl, rfl, .inl ⟨rfl, rfl, rfl⟩⟩
  · obtain ⟨spec, built, bound⟩ := prepareIdentity_built prepared
    obtain ⟨device, ephemeral, stored⟩ := storeIdentity_cases succeeds fresh machine
    rw [sessionSlotMint, rest]
    refine ⟨device, ephemeral, stored.imp_right ?_⟩
    rintro ⟨cert, chain, record⟩
    exact ⟨fresh.cert, fresh.record, spec, built, bound, cert, chain, record⟩

/-- No volatile identity, a new one, or the first stored one. -/
theorem sessionSlotInit_cases (wolf : WolfReader) (build : Build) (machine : Machine) :
    let after := (sessionSlotInit wolf env build machine).2
    after.device = machine.device ∧
      ((after.slot.ephemeral = none ∧ SameIdentity machine.slot after.slot) ∨
        (∃ identity spec, env.buildSessionCert spec = .ok identity.cert ∧ spec.x25519 = identity.pub ∧
          identity.cert.length ≤ ephemeralCertMax ∧ after.slot.ephemeral = some identity ∧
          (machine.device.volume = .mismatch ∨ machine.slot.files .cert = none) ∧
          SameIdentity machine.slot after.slot) ∨
        ∃ cert record spec, env.buildSessionCert spec = .ok cert ∧ spec.x25519 = record.x25519Pub ∧
          after.slot.ephemeral = none ∧ machine.slot.files .cert = none ∧ after.slot.files .cert = some cert ∧
          after.slot.files .chain = machine.slot.files .chain ∧ after.slot.record = some record) := by
  rw [sessionSlotInit_eq]
  have blank := sessionSlotInitEphemeral_cases env build
    { machine with slot := { machine.slot with ephemeral := none } }
  split_ifs with foreign stored mints
  · rcases blank with same | ⟨identity, spec, built, bound, short, changed⟩
    · rw [same]
      exact ⟨rfl, .inl ⟨rfl, rfl, rfl, rfl⟩⟩
    · rw [changed]
      exact ⟨rfl, .inr (.inl ⟨identity, spec, built, bound, short, rfl, .inl foreign, rfl, rfl, rfl⟩)⟩
  · obtain ⟨device, ephemeral, same⟩ := verifySessionIdentity_same wolf build
      { machine with slot := { machine.slot with ephemeral := none } }
    exact ⟨device, .inl ⟨ephemeral, same.cert, same.chain, same.record⟩⟩
  all_goals have absent : machine.slot.files .cert = none := Option.not_isSome_iff_eq_none.mp stored
  · obtain ⟨device, ephemeral, outcome⟩ := sessionSlotMint_cases succeeds build
      { machine with slot := { machine.slot with ephemeral := none } }
    rcases outcome with same | ⟨cert, record, spec, built, bound, held, chain, recorded⟩
    · exact ⟨device, .inl ⟨ephemeral, same.cert, same.chain, same.record⟩⟩
    · exact ⟨device, .inr (.inr ⟨cert, record, spec, built, bound, ephemeral, absent, held, chain, recorded⟩)⟩
  · rcases blank with same | ⟨identity, spec, built, bound, short, changed⟩
    · rw [same]
      exact ⟨rfl, .inl ⟨rfl, rfl, rfl, rfl⟩⟩
    · rw [changed]
      exact ⟨rfl, .inr (.inl ⟨identity, spec, built, bound, short, rfl, .inr absent, rfl, rfl, rfl⟩)⟩

end Writes

end Cantil.SessionSlot
