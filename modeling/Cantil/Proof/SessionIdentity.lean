import Cantil.Firmware.PlainBackend
import Cantil.Firmware.SessionSlot

namespace Cantil.SessionIdentity
open Library Ca SessionSlot Session
open Protocol (Command)

/-- A request, an init, a boot, or another command. -/
inductive Event where
  | request (env : SessionEnv) (cmd : UInt32) (data : Bytes)
  | init (env : SessionEnv)
  | reboot (env : SessionEnv) (volume : VolumeState)
  | elsewhere (fs : Fs) (provisioned : Bool)

def Event.env : Event → Option SessionEnv
  | .request env _ _ => some env
  | .init env => some env
  | .reboot env _ => some env
  | .elsewhere _ _ => none

variable (config : Config) (crypto : Crypto) (env : SessionEnv) (build : Build) (machine : Machine)

/-- The gates of the dispatcher, with the recovery mode of the slot. -/
def admission (cmd : UInt32) : Protocol.Dispatch :=
  Protocol.dispatch config env.gestureState
    { Dispatcher.conditions env.toEnv machine.device with inRecovery := machine.slot.inRecovery } cmd

/-- A boot forgets what was in RAM. -/
def rebooted (volume : VolumeState) (machine : Machine) :
    Machine where
  device := (Dispatcher.boot config crypto env.toEnv volume machine.device).2
  slot := { machine.slot with ephemeral := none, inRecovery := false }

def push (data : Bytes) : SlotOp Unit :=
  sessionSlotPushCert crypto env build (pushedCert data) (pushedChain data) (data.headD 0 ≠ 0)

def sign (data : Bytes) : SlotOp Unit :=
  sessionSlotSignFromSlot config crypto env build (Dispatcher.slotArg data) (data.getD 4 0 ≠ 0)

def step : Event → Machine
  | .request env cmd data =>
    match admission config env machine cmd with
    | .executed .pushSessionCert => (handlePushSessionCert crypto env build data machine).2
    | .executed .signSessionFromSlot => (handleSignSessionFromSlot config crypto env build data machine).2
    | _ => machine
  | .init env => (sessionSlotInit crypto.toWolfReader env build machine).2
  | .reboot env volume =>
    (sessionSlotInit crypto.toWolfReader env build (rebooted config crypto env volume machine)).2
  | .elsewhere fs provisioned => { machine with device := { machine.device with fs, provisioned } }

/-- The certificate can be read and binds the Noise key. -/
def Certifies (wolf : WolfReader) (cert pub : Bytes) : Prop :=
  ∃ parsed, certparseCert wolf cert = .ok parsed ∧ parsed.x25519 = some pub

/-- What the collector takes from the stored chain. -/
def takenCerts : Option Bytes → List Bytes
  | none => []
  | some chain => splitStoredChain (sessionChainMaxCerts - 1) (chain.take sessionChainDerMax)

/-- The certificates of a chain, as far as it is well formed. -/
def pushedCerts (chain : Bytes) : List Bytes := splitStoredChain chain.length chain

/-- The first binds the key, with a path above it. -/
def ServesChain : Prop :=
  ∀ env poolUsed ephemeralKeypair expectedClientPub leaf rest,
    localCerts (handshakeInputs crypto env machine poolUsed ephemeralKeypair expectedClientPub) = leaf :: rest →
    (∀ pair, (loadStaticKeypair crypto env machine).1 = .ok pair → Certifies crypto.toWolfReader leaf pair.2) ∧
      (rest ≠ [] → verifyParts crypto.toWolfReader leaf rest = .ok ())

/-- Certificates bind their key, and the files can be written. -/
def Event.Sound (event : Event) : Prop :=
  ∀ env, event.env = some env → WritesSucceed env ∧
    ∀ spec cert, env.buildSessionCert spec = .ok cert → Certifies crypto.toWolfReader cert spec.x25519

/-- What the writer makes fits the leaf buffer of a handshake. -/
def BuildsShort : Prop :=
  ∀ spec cert, env.buildSessionCert spec = .ok cert → cert.length ≤ sessionLeafDerMax

/-- What the collector takes is a path above the leaf. -/
def Chained (wolf : WolfReader) (cert : Bytes) (chain : Option Bytes) : Prop :=
  takenCerts chain = [] ∨ verifyParts wolf cert (takenCerts chain) = .ok ()

/-- The collector takes what was checked for a signed leaf, or a path. -/
def ChainFits (wolf : WolfReader) (cert chain : Bytes) : Prop :=
  ((certparseCert wolf cert).map ParsedCert.selfSigned = .ok false ∧
    splitPushedChain certparseMaxChain chain = .ok (takenCerts (some chain))) ∨ Chained wolf cert (some chain)

/-- A push fits, and no new identity meets a stale chain. -/
def Meets : Event → Prop
  | .request env cmd data =>
    (admission config env machine cmd = .executed .pushSessionCert → (push crypto env build data machine).1 = .ok () →
      (pushedCert data).length ≤ sessionLeafDerMax ∧
        ChainFits crypto.toWolfReader (pushedCert data) (pushedChain data)) ∧
    (admission config env machine cmd = .executed .signSessionFromSlot →
      (sign config crypto env build data machine).1 = .ok () →
      BuildsShort env ∧ takenCerts (machine.slot.files .chain) = [])
  | .init env => BuildsShort env ∧
      (machine.device.volume = .mismatch → takenCerts (machine.slot.files .chain) = [])
  | .reboot env volume => BuildsShort env ∧
      ((rebooted config crypto env volume machine).device.volume = .mismatch →
        takenCerts (machine.slot.files .chain) = [])
  | .elsewhere _ _ => True

/-- Certificate, record and chain belong together. -/
structure Matching (wolf : WolfReader) (slot : SlotState) : Prop where
  stored : ∀ cert, slot.files .cert = some cert → cert.length ≤ sessionLeafDerMax ∧
    Chained wolf cert (slot.files .chain) ∧ ∃ record, slot.record = some record ∧ Certifies wolf cert record.x25519Pub
  bare : slot.files .cert = none → slot.files .chain = none

/-- An identity in RAM hides no stored one that could be used. -/
def Unhidden : Prop :=
  ∀ identity, machine.slot.ephemeral = some identity →
    machine.device.volume = .mismatch ∨ machine.slot.files .cert = none

/-- An identity in RAM is complete and stands alone. -/
structure Coherent (wolf : WolfReader) (machine : Machine) : Prop extends Matching wolf machine.slot where
  unhidden : Unhidden machine
  alone : ∀ identity, machine.slot.ephemeral = some identity →
    identity.cert.length ≤ sessionLeafDerMax ∧ takenCerts (machine.slot.files .chain) = [] ∧
    Certifies wolf identity.cert identity.pub

variable {chain : Bytes}

/-- The collector takes every certificate of a chain that fits. -/
theorem takenCerts_eq_pushedCerts :
    takenCerts (some chain) = pushedCerts chain ↔
      (pushedCerts chain).length ≤ sessionChainMaxCerts - 1 ∧
        (pushedCerts chain).flatten.length ≤ sessionChainDerMax :=
  splitStoredChain_cut_iff (Nat.le_refl _)

variable {cert : Bytes}

theorem ChainFits.chained {wolf : WolfReader} {idPub x25519 constant : Bytes} {caSigned : Bool}
    (accepted : caValidatePushedSessionCert wolf cert chain idPub x25519 constant = .ok caSigned)
    (fits : ChainFits wolf cert chain) : Chained wolf cert (some chain) := by
  rcases fits with ⟨signed, taken⟩ | chained
  · obtain ⟨leaf, parsed, _, _, verified⟩ := caValidatePushedSessionCert_ok accepted
    rw [parsed] at signed
    obtain ⟨parts, split, path⟩ := verified (Except.ok.inj signed)
    obtain rfl := Except.ok.inj (split.symm.trans taken)
    exact .inr path
  · exact chained

section Steps

variable {config : Config} {crypto : Crypto} {build : Build} {machine : Machine}
variable {env : SessionEnv}

/-- Every body but two runs only on a volume of this device. -/
theorem volume_of_admitted {cmd : UInt32} {command : Command}
    (admitted : admission config env machine cmd = .executed command)
    (gated : command.code ≠ Command.deviceStatus.code ∧ command.code ≠ Command.updateFirmware.code) :
    machine.device.volume ≠ .mismatch := by
  have passed := (Protocol.gate_eq_none_iff.mp (Protocol.dispatch_eq_executed admitted).1).2.1
  unfold Protocol.volumeGate at passed
  split_ifs at passed with blocked
  intro foreign
  exact blocked ⟨by simp [Dispatcher.conditions, foreign], gated⟩

/-- Nothing, or an admitted push or signature. -/
theorem step_request (config : Config) (crypto : Crypto) (build : Build) (machine : Machine) (env : SessionEnv)
    (cmd : UInt32) (data : Bytes) :
    let after := step config crypto build machine (.request env cmd data)
    after = machine ∨
      (admission config env machine cmd = .executed .pushSessionCert ∧ after = (push crypto env build data machine).2) ∨
      (admission config env machine cmd = .executed .signSessionFromSlot ∧
        after = (sign config crypto env build data machine).2) := by
  simp only [step]
  split
  · rename_i admitted
    unfold handlePushSessionCert confirmed
    split_ifs <;> first | exact .inl rfl | exact .inr (.inl ⟨admitted, rfl⟩)
  · rename_i admitted
    unfold handleSignSessionFromSlot confirmed
    split_ifs <;> first | exact .inl rfl | exact .inr (.inr ⟨admitted, rfl⟩)
  · exact .inl rfl

theorem unhidden_of_plain (plain : machine.slot.ephemeral = none) : Unhidden machine := by
  intro identity volatile
  rw [plain] at volatile
  cases volatile

/-- A stored certificate here is not hidden. -/
theorem Unhidden.ephemeral_eq_none (unhidden : Unhidden machine) (trusted : machine.device.volume ≠ .mismatch)
    (present : (machine.slot.files .cert).isSome) : machine.slot.ephemeral = none := by
  cases volatile : machine.slot.ephemeral with
  | none => rfl
  | some identity =>
    rcases unhidden identity volatile with foreign | absent
    · exact absurd foreign trusted
    · rw [absent] at present
      cases present

variable {wolf : WolfReader} {record : SessionMeta}

/-- A stored identity is coherent unless hidden. -/
theorem coherent_of_stored
    (held : machine.slot.files .cert = some cert) (recorded : machine.slot.record = some record)
    (short : cert.length ≤ sessionLeafDerMax) (bound : Certifies wolf cert record.x25519Pub)
    (chained : Chained wolf cert (machine.slot.files .chain)) (plain : machine.slot.ephemeral = none) :
    Coherent wolf machine where
  stored other other_held := by
    obtain rfl := Option.some.inj (held.symm.trans other_held)
    exact ⟨short, chained, record, recorded, bound⟩
  bare absent := by
    rw [held] at absent
    cases absent
  unhidden := unhidden_of_plain plain
  alone identity volatile := by
    rw [plain] at volatile
    cases volatile

variable {before after : SlotState}

/-- A marked record is read back with the Noise key that it had. -/
theorem record_of_marked {caSigned : Bool}
    (found : before.record = some record) (held : after.files .metadata = some (record.marked caSigned).bytes) :
    after.record = some (record.marked caSigned) := by
  have current : record.version = sessionMetaVersion := record_version found
  have read : parseSessionMeta ((record.marked caSigned).bytes.take sessionMetaSize) = .ok (record.marked caSigned) :=
    parseSessionMeta_bytes current
  rw [SlotState.record, held]
  exact toOption_eq_some.mpr read

/-- An empty chain serves like a missing one. -/
theorem takenCerts_stored (chain : Bytes) :
    takenCerts (if chain.length > 0 then some chain else none) = takenCerts (some chain) := by
  split_ifs with given
  · rfl
  · obtain rfl := List.eq_nil_of_length_eq_zero (Nat.eq_zero_of_not_pos given)
    rfl

variable {data : Bytes}

theorem Matching.of_same (same : SameIdentity before after)
    (matching : Matching wolf before) : Matching wolf after where
  stored cert held := by
    rw [same.chain, same.record]
    exact matching.stored cert (same.cert.symm.trans held)
  bare absent := by
    rw [same.chain]
    exact matching.bare (same.cert.symm.trans absent)

variable (succeeds : WritesSucceed env)
variable (binds : ∀ spec cert, env.buildSessionCert spec = .ok cert → Certifies crypto.toWolfReader cert spec.x25519)
include succeeds

theorem push_coherent (trusted : machine.device.volume ≠ .mismatch)
    (fits : (push crypto env build data machine).1 = .ok () → (pushedCert data).length ≤ sessionLeafDerMax ∧
      ChainFits crypto.toWolfReader (pushedCert data) (pushedChain data))
    (coherent : Coherent crypto.toWolfReader machine) :
    Coherent crypto.toWolfReader (push crypto env build data machine).2 := by
  rcases sessionSlotPushCert_cases crypto build succeeds (pushedCert data) (pushedChain data) (data.headD 0 ≠ 0)
      machine with ⟨error, failed⟩ | ⟨record, pub, idPub, caSigned, found, present, known, accepted, done⟩
  · rw [push, failed]
    exact coherent
  · have plain := coherent.unhidden.ephemeral_eq_none trusted present
    obtain ⟨leaf, parsed, ⟨_, binding, _⟩, _⟩ := caValidatePushedSessionCert_ok accepted
    obtain ⟨read, same, rfl⟩ := (sessionSlotGetPubkey_eq_ok plain).mp known
    obtain rfl := Option.some.inj (found.symm.trans same)
    obtain ⟨short, room⟩ := fits (congrArg Prod.fst done)
    rw [push, done]
    refine coherent_of_stored rfl (record_of_marked found rfl) short ⟨leaf, parsed, binding⟩ ?_ plain
    show Chained _ _ (if (pushedChain data).length > 0 then some (pushedChain data) else none)
    rw [Chained, takenCerts_stored]
    exact room.chained accepted

/-- An identity in RAM is made only where none is usable. -/
theorem init_unhidden (wolf : WolfReader) (build : Build) (machine : Machine) :
    Unhidden (sessionSlotInit wolf env build machine).2 := by
  obtain ⟨device, outcome⟩ := sessionSlotInit_cases succeeds wolf build machine
  rcases outcome with ⟨plain, _⟩ | ⟨_, _, _, _, _, _, hides, same⟩ | ⟨_, _, _, _, _, plain, _⟩
  · exact unhidden_of_plain plain
  · intro identity _
    rw [device, same.cert]
    exact hides
  · exact unhidden_of_plain plain

include binds

theorem sign_coherent (trusted : machine.device.volume ≠ .mismatch)
    (fits : (sign config crypto env build data machine).1 = .ok () →
      BuildsShort env ∧ takenCerts (machine.slot.files .chain) = [])
    (coherent : Coherent crypto.toWolfReader machine) :
    Coherent crypto.toWolfReader (sign config crypto env build data machine).2 := by
  rcases sessionSlotSignFromSlot_cases config crypto build succeeds (Dispatcher.slotArg data) (data.getD 4 0 ≠ 0)
      machine with ⟨error, failed⟩ | ⟨record, cert, spec, found, present, built, bound, done⟩
  · rw [sign, failed]
    exact coherent
  · have plain := coherent.unhidden.ephemeral_eq_none trusted present
    obtain ⟨short, alone⟩ := fits (congrArg Prod.fst done)
    have certified : Certifies crypto.toWolfReader cert record.x25519Pub := by
      rw [← bound]
      exact binds spec cert built
    rw [sign, done]
    exact coherent_of_stored rfl (record_of_marked found rfl) (short spec cert built) certified (.inl alone) plain

theorem init_coherent (short : BuildsShort env)
    (alone : machine.device.volume = .mismatch → takenCerts (machine.slot.files .chain) = [])
    (matching : Matching crypto.toWolfReader machine.slot) :
    Coherent crypto.toWolfReader (sessionSlotInit crypto.toWolfReader env build machine).2 := by
  obtain ⟨_, outcome⟩ := sessionSlotInit_cases succeeds crypto.toWolfReader build machine
  rcases outcome with ⟨plain, same⟩ | ⟨identity, spec, built, bound, _, volatile, hides, same⟩ |
    ⟨cert, record, spec, built, bound, plain, absent, held, chain, recorded⟩
  · refine ⟨matching.of_same same, init_unhidden succeeds _ build machine, fun identity volatile => ?_⟩
    rw [plain] at volatile
    cases volatile
  · refine ⟨matching.of_same same, init_unhidden succeeds _ build machine, fun other other_volatile => ?_⟩
    obtain rfl := Option.some.inj (volatile.symm.trans other_volatile)
    rw [same.chain, ← bound]
    refine ⟨short spec _ built, ?_, binds spec _ built⟩
    rcases hides with foreign | absent
    · exact alone foreign
    · rw [matching.bare absent]
      rfl
  · have certified : Certifies crypto.toWolfReader cert record.x25519Pub := by
      rw [← bound]
      exact binds spec cert built
    refine coherent_of_stored held recorded (short spec cert built) certified (.inl ?_) plain
    rw [chain, matching.bare absent]
    rfl

omit succeeds binds

/-- Events that meet the condition keep the identity coherent. -/
theorem step_coherent (config : Config) (crypto : Crypto) (build : Build) (machine : Machine) (event : Event)
    (sound : event.Sound crypto) (met : Meets config crypto build machine event)
    (coherent : Coherent crypto.toWolfReader machine) :
    Coherent crypto.toWolfReader (step config crypto build machine event) := by
  cases event with
  | request env cmd data =>
    obtain ⟨succeeds, binds⟩ := sound env rfl
    rcases step_request config crypto build machine env cmd data with same | ⟨admitted, pushed⟩ | ⟨admitted, signed⟩
    · rw [same]
      exact coherent
    · rw [pushed]
      exact push_coherent succeeds (volume_of_admitted admitted (by decide)) (met.1 admitted) coherent
    · rw [signed]
      exact sign_coherent succeeds binds (volume_of_admitted admitted (by decide)) (met.2 admitted) coherent
  | init env =>
    obtain ⟨succeeds, binds⟩ := sound env rfl
    exact init_coherent succeeds binds met.1 met.2 coherent.toMatching
  | reboot env volume =>
    obtain ⟨succeeds, binds⟩ := sound env rfl
    have same : SameIdentity machine.slot (rebooted config crypto env volume machine).slot := ⟨rfl, rfl, rfl⟩
    exact init_coherent succeeds binds met.1 met.2 (coherent.toMatching.of_same same)
  | elsewhere fs provisioned => exact ⟨coherent.toMatching, coherent.unhidden, coherent.alone⟩

/-- Without a volatile identity, the static key is the record's. -/
theorem loadStaticKeypair_recorded {pair : Bytes × Bytes} (plain : machine.slot.ephemeral = none)
    (loaded : (loadStaticKeypair crypto env machine).1 = .ok pair) :
    ∃ record, machine.slot.record = some record ∧ record.x25519Pub = pair.2 := by
  rw [loadStaticKeypair, Op.bind_apply, Op.reads_apply, plain] at loaded
  simp only [Op.read_ok_iff, Op.ensure_ok, exists_const] at loaded
  obtain ⟨blob, _, _, _, priv, _, _, pub, known, loaded⟩ := loaded
  obtain rfl := Except.ok.inj loaded
  exact (sessionSlotGetPubkey_eq_ok plain).mp known

variable {poolUsed : Bool} {ephemeralKeypair : Except Errno (Bytes × Bytes)} {expectedClientPub : Option Bytes}

/-- A stored certificate that fits is taken, with its chain. -/
theorem localCerts_stored (plain : machine.slot.ephemeral = none) :
    localCerts (handshakeInputs crypto env machine poolUsed ephemeralKeypair expectedClientPub) =
      match machine.slot.files .cert with
      | none => []
      | some cert => cert.take sessionLeafDerMax :: takenCerts (machine.slot.files .chain) := by
  simp only [localCerts, collectLocalCerts, handshakeInputs, SlotState.sessionCert, plain,
    Option.map_none, Dispatcher.sessionSlotGetCert]
  cases machine.slot.files .cert with
  | none => rfl
  | some cert => cases machine.slot.files .chain <;> rfl

theorem localCerts_volatile
    {identity : Ephemeral} (volatile : machine.slot.ephemeral = some identity)
    (short : identity.cert.length ≤ sessionLeafDerMax) :
    localCerts (handshakeInputs crypto env machine poolUsed ephemeralKeypair expectedClientPub) =
      identity.cert :: takenCerts (machine.slot.files .chain) := by
  simp only [localCerts, collectLocalCerts, handshakeInputs, SlotState.sessionCert, volatile,
    Option.map_some, Dispatcher.sessionSlotGetCert, if_neg (Nat.not_lt.mpr short)]
  cases machine.slot.files .chain <;> rfl

theorem Coherent.serves (coherent : Coherent crypto.toWolfReader machine) : ServesChain crypto machine := by
  intro env poolUsed ephemeralKeypair expectedClientPub leaf rest served
  cases volatile : machine.slot.ephemeral with
  | none =>
    rw [localCerts_stored volatile] at served
    cases held : machine.slot.files .cert with
    | none =>
      rw [held] at served
      cases served
    | some cert =>
      obtain ⟨short, chained, record, recorded, certified⟩ := coherent.stored cert held
      rw [held] at served
      obtain ⟨rfl, rfl⟩ := List.cons.inj served
      rw [List.take_of_length_le short]
      refine ⟨fun pair loaded => ?_, chained.resolve_left⟩
      obtain ⟨found, same, known⟩ := loadStaticKeypair_recorded volatile loaded
      obtain rfl := Option.some.inj (recorded.symm.trans same)
      rw [← known]
      exact certified
  | some identity =>
    obtain ⟨short, alone, certified⟩ := coherent.alone identity volatile
    rw [localCerts_volatile volatile short, alone] at served
    obtain ⟨rfl, rfl⟩ := List.cons.inj served
    refine ⟨fun pair loaded => ?_, fun more => absurd rfl more⟩
    rw [loadStaticKeypair, Op.bind_apply, Op.reads_apply, volatile] at loaded
    obtain rfl := Except.ok.inj loaded
    exact certified

end Steps

/-- What is served is a chain where events meet this. -/
theorem run_serves_chain (config : Config) (crypto : Crypto) (build : Build) {start : Machine}
    (blank : start.slot = SlotState.blank) {events : List Event} (sound : ∀ event ∈ events, event.Sound crypto)
    (met : ∀ visit ∈ Trace.visits (step config crypto build) start events, Meets config crypto build visit.1 visit.2)
    {before after : List Event} (split : events = before ++ after) :
    ServesChain crypto (Trace.run (step config crypto build) start before) := by
  have initial : Coherent crypto.toWolfReader start := by
    constructor
    · rw [blank]
      exact ⟨fun cert held => (nomatch held), fun _ => rfl⟩
    · exact unhidden_of_plain (by rw [blank]; rfl)
    · intro identity volatile
      rw [blank] at volatile
      cases volatile
  have coherent := Trace.prefix_invariant _ (Coherent crypto.toWolfReader) _ _ (step_coherent config crypto build) sound
    met initial split
  exact coherent.serves

/-- A plain leaf names its signer in front of the Noise key. -/
def plainLeaf (signer : UInt8) (x25519 : Bytes) : Bytes := 0x30 :: 33 :: signer :: x25519

/-- One octet that is its name and its key. -/
def plainCa (name : UInt8) : Bytes := [0x30, 1, name]

def plainIdentityPriv : Bytes := List.replicate 32 5

/-- The signature is the key of the signer. -/
def slotCrypto : Crypto :=
  { Dispatcher.plainCrypto with
    parseCert := fun der =>
      match der with
      | 0x30 :: 33 :: signer :: x25519 => some
          { Dispatcher.plainDecoded (Dispatcher.plainPoint plainIdentityPriv) with
            issuerRaw := [signer], selfSigned := signer = 5, isCa := false
            extensions := oidSessionX25519 ++ (0x04 :: 0x20 :: x25519) }
      | [0x30, 1, name] => some
          { Dispatcher.plainDecoded [name] with subjectRaw := [name], issuerRaw := [name] }
      | _ => none
    checkCertSigPubKey := fun der key _ => der.getD 2 0 = key.headD 0 }

def slotEnv : SessionEnv :=
  { Dispatcher.plainEnv 5 with
    sessionWrite := fun _ => .done
    chainUnlink := none
    dhKeygen := .ok ⟨(List.replicate 32 3, List.replicate 32 3), rfl⟩
    buildSessionCert := fun spec =>
      if spec.x25519.length = 32 then .ok (plainLeaf (spec.issuerPriv.headD 0) spec.x25519) else .error .einval
    buildSessionCsr := fun _ _ _ _ => .ok []
    deviceId := none }

/-- The parameters of an identity that is no CA. -/
def slotBuild : Build := ⟨[0x0E, 0x42, 0, 0xFF, 0, 0, 1, 65, 0, 0, 0, 0, 0], false⟩

def slotStart : Machine := ⟨Dispatcher.provisionedDevice, SlotState.blank⟩

/-- A certificate of the CA 9 with a chain above it. -/
def pushData (chain : Bytes) : Bytes := [0, 0, 35] ++ plainLeaf 9 (List.replicate 32 3) ++ chain

def slotPush : Event := .request slotEnv Command.pushSessionCert.code (pushData (plainCa 9))

/-- The CA of slot 0 signs the identity by force. -/
def slotSign : Event := .request slotEnv Command.signSessionFromSlot.code [0, 0, 0, 0, 1]

theorem slotEnv_writesSucceed : WritesSucceed slotEnv := ⟨fun _ => rfl, rfl⟩

theorem slotEnv_builds {spec : SessionCertSpec} (built : slotEnv.buildSessionCert spec = .ok cert) :
    spec.x25519.length = 32 ∧ cert = plainLeaf (spec.issuerPriv.headD 0) spec.x25519 := by
  by_cases sized : spec.x25519.length = 32
  · exact ⟨sized, (Except.ok.inj ((if_pos sized).symm.trans built)).symm⟩
  · cases (if_neg sized).symm.trans built

/-- The Noise key is found behind the identifier. -/
theorem certifies_plainLeaf (signer : UInt8) {x25519 : Bytes} (sized : x25519.length = 32) :
    Certifies slotCrypto.toWolfReader (plainLeaf signer x25519) x25519 := by
  refine ⟨_, rfl, ?_⟩
  have found : findBytes oidSessionX25519 (oidSessionX25519 ++ (0x04 :: 0x20 :: x25519)) =
      some (0x04 :: 0x20 :: x25519) := rfl
  have value : findBytes [0x04, 0x20] (0x04 :: 0x20 :: x25519) = some x25519 := rfl
  simp only [extractX25519, found, value, Option.bind_eq_bind, Option.bind_some, sized, lt_irrefl, if_false]
  rw [List.take_of_length_le (Nat.le_of_eq sized)]

theorem slotEnv_sound {event : Event} (same : event.env = some slotEnv) : event.Sound slotCrypto := by
  intro env found
  obtain rfl := Option.some.inj (same.symm.trans found)
  refine ⟨slotEnv_writesSucceed, fun spec cert built => ?_⟩
  obtain ⟨sized, rfl⟩ := slotEnv_builds built
  exact certifies_plainLeaf _ sized

theorem slotEnv_short : BuildsShort slotEnv := by
  intro spec cert built
  obtain ⟨sized, rfl⟩ := slotEnv_builds built
  simp only [plainLeaf, List.length_cons, sized]
  decide

/-- A pushed chain outlives the certificate it came with. -/
theorem stale_chain_served :
    let events := [Event.init slotEnv, slotPush, slotSign]
    let machine := Trace.run (step .default slotCrypto slotBuild) slotStart events
    (∀ event ∈ events, event.Sound slotCrypto) ∧
      localCerts (handshakeInputs slotCrypto slotEnv machine false (.error .eio) none) =
        [plainLeaf 1 (List.replicate 32 3), plainCa 9] ∧
      ¬ ServesChain slotCrypto machine := by
  have served : localCerts (handshakeInputs slotCrypto slotEnv
      (Trace.run (step .default slotCrypto slotBuild) slotStart [Event.init slotEnv, slotPush, slotSign]) false
      (.error .eio) none) = [plainLeaf 1 (List.replicate 32 3), plainCa 9] := by decide +kernel
  refine ⟨?_, served, ?_⟩
  · intro event listed
    simp only [List.mem_cons, List.not_mem_nil, or_false] at listed
    rcases listed with rfl | rfl | rfl <;> exact slotEnv_sound rfl
  · intro serves
    have path := (serves slotEnv false (.error .eio) none _ _ served).2 (by decide)
    revert path
    decide +kernel

/-- A pushed chain is served as it is, also after a reboot. -/
theorem pushed_chain_served :
    let events := [Event.init slotEnv, slotPush, Event.reboot slotEnv .valid]
    let machine := Trace.run (step .default slotCrypto slotBuild) slotStart events
    localCerts (handshakeInputs slotCrypto slotEnv machine false (.error .eio) none) =
        [plainLeaf 9 (List.replicate 32 3), plainCa 9] ∧
      ServesChain slotCrypto machine := by
  refine ⟨by decide +kernel, run_serves_chain .default slotCrypto slotBuild rfl ?_ ?_ (List.append_nil _).symm⟩
  · intro event listed
    simp only [List.mem_cons, List.not_mem_nil, or_false] at listed
    rcases listed with rfl | rfl | rfl <;> exact slotEnv_sound rfl
  · intro visit visited
    simp only [Trace.visits_cons, Trace.visits_nil, List.mem_cons, List.not_mem_nil, or_false] at visited
    rcases visited with rfl | rfl | rfl
    · exact ⟨slotEnv_short, fun foreign => absurd foreign (by decide +kernel)⟩
    · refine ⟨fun _ _ => ⟨by decide +kernel, .inl (by decide +kernel)⟩, fun admitted => absurd admitted ?_⟩
      decide +kernel
    · exact ⟨slotEnv_short, fun foreign => absurd foreign (by decide +kernel)⟩

end Cantil.SessionIdentity
