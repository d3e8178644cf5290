import Cantil.Firmware.Effects
import Cantil.Proof.SessionIdentity

namespace Cantil.SessionIdentity
open Library Ca SessionSlot

/-- The order in which a new identity is written. -/
def writeOrder : SessionFile → Nat
  | .key => 0
  | .idKey => 1
  | .cert => 2
  | .metadata => 3
  | .csr => 4
  | .chain => 4

/-- The power goes after so many writes. -/
def cutAfter (count : Nat) (env : SessionEnv) : SessionEnv :=
  { env with sessionWrite := fun file => if writeOrder file < count then .done else .mkdirFailed .eio }

def identityWrites (fresh : Identity) (blob idBlob : Bytes) : List (SessionFile × Bytes) :=
  [(.key, blob), (.idKey, idBlob), (.cert, fresh.cert), (.metadata, fresh.record.bytes)]

def applyWrites (machine : Machine) (writes : List (SessionFile × Bytes)) : Machine :=
  writes.foldl (fun machine write => machine.withFile write.1 (some write.2)) machine

/-- A first boot cut by a power loss, and the next boot. -/
def bootAgain (config : Config) (crypto : Crypto) (build : Build) (first second : SessionEnv) (count : Nat)
    (machine : Machine) : Machine :=
  let cut := (sessionSlotInit crypto.toWolfReader (cutAfter count first) build machine).2
  (sessionSlotInit crypto.toWolfReader second build (rebooted config crypto second cut.device.volume cut)).2

/-- Key pairs match, blobs open, and certificates bind their key. -/
structure Works (publicKey : Bytes → Bytes) (crypto : Crypto) (build : Build) (env : SessionEnv) : Prop where
  derive : env.storageKeyDerive = .ok ()
  random : ∃ bytes, env.trng 8 = .ok bytes
  pair : ∃ pair, env.dhKeygen = .ok pair ∧ pair.1.1.length = 32 ∧ publicKey pair.1.1 = pair.1.2
  scalar : ∃ idPriv, env.keygen = .ok idPriv ∧ idPriv.length = 32
  sealing : ∀ plain : Bytes, plain.length = 32 →
    ∃ blob, env.encryptBlob plain = .ok blob ∧ blob.length ≤ keyBlobLen ∧ crypto.decryptBlob blob = .ok plain
  params : ∃ params, sessionParams build.constant (deriveCn env.deviceId) = .ok params
  certificate : ∀ spec, spec.x25519.length = 32 → ∃ cert, env.buildSessionCert spec = .ok cert ∧
    cert.length ≤ Session.sessionLeafDerMax ∧ Certifies crypto.toWolfReader cert spec.x25519

/-- Every handshake has a key pair bound by its certificate. -/
def ServesOneIdentity (publicKey : Bytes → Bytes) (crypto : Crypto) (machine : Machine) : Prop :=
  ∀ env : SessionEnv, env.storageKeyDerive = .ok () →
    ∃ pair, (loadStaticKeypair crypto env machine).1 = .ok pair ∧ publicKey pair.1 = pair.2 ∧
      ∀ poolUsed ephemeralKeypair expectedClientPub, ∃ leaf rest,
        Session.localCerts (handshakeInputs crypto env machine poolUsed ephemeralKeypair expectedClientPub) =
            leaf :: rest ∧ Certifies crypto.toWolfReader leaf pair.2

/-- The four files of one identity. -/
structure Stored (publicKey : Bytes → Bytes) (crypto : Crypto) (slot : SlotState) : Prop where
  durable : slot.ephemeral = none
  holds : ∃ blob priv cert record, slot.files .key = some blob ∧ blob.length ≤ keyBlobLen ∧
    crypto.decryptBlob blob = .ok priv ∧ priv.length = 32 ∧ slot.files .cert = some cert ∧
    cert.length ≤ Session.sessionLeafDerMax ∧ slot.record = some record ∧ publicKey priv = record.x25519Pub ∧
    Certifies crypto.toWolfReader cert record.x25519Pub

section Serving

variable {publicKey : Bytes → Bytes} {crypto : Crypto} {machine : Machine}

theorem Stored.serves (stored : Stored publicKey crypto machine.slot) : ServesOneIdentity publicKey crypto machine := by
  intro env derived
  obtain ⟨blob, priv, cert, record, key, small, opened, long, held, short, found, agrees, binds⟩ := stored.holds
  have pub : (sessionSlotGetPubkey machine).1 = .ok record.x25519Pub :=
    (sessionSlotGetPubkey_eq_ok stored.durable).mpr ⟨record, found, rfl⟩
  refine ⟨(priv, record.x25519Pub), ?_, agrees, ?_⟩
  · have whole : blob.take keyBlobLen = blob := List.take_of_length_le small
    have known := Op.read_eq pub
    simp only [loadStaticKeypair, Op.bind_apply, Op.reads_apply, stored.durable, storageSessionRead, key, whole,
      Op.lift_apply, derived, opened, Op.ensure, if_pos long, Op.pure_apply, known]
  · intro poolUsed ephemeralKeypair expectedClientPub
    refine ⟨cert, takenCerts (machine.slot.files .chain), ?_, binds⟩
    rw [localCerts_stored stored.durable, held]
    dsimp only
    rw [List.take_of_length_le short]

/-- Without its record the identity cannot be loaded. -/
theorem not_serves_of_metadata_none (env : SessionEnv) (derived : env.storageKeyDerive = .ok ())
    (durable : machine.slot.ephemeral = none) (lost : machine.slot.files .metadata = none) :
    ¬ ServesOneIdentity publicKey crypto machine := by
  intro serves
  obtain ⟨pair, loaded, _⟩ := serves env derived
  obtain ⟨record, found, _⟩ := loadStaticKeypair_recorded durable loaded
  rw [SlotState.record, lost] at found
  cases found

end Serving

section Boots

variable {publicKey : Bytes → Bytes} {crypto : Crypto} {build : Build} {env : SessionEnv} {machine : Machine}

theorem Works.cut (works : Works publicKey crypto build env) (count : Nat) :
    Works publicKey crypto build (cutAfter count env) :=
  ⟨works.derive, works.random, works.pair, works.scalar, works.sealing, works.params, works.certificate⟩

/-- A backend that answers makes a matching identity. -/
theorem prepareIdentity_of_works (works : Works publicKey crypto build env) (machine : Machine) :
    ∃ fresh, prepareIdentity env build machine = (.ok fresh, machine) ∧ fresh.pair.1.1.length = 32 ∧
      publicKey fresh.pair.1.1 = fresh.pair.1.2 ∧ fresh.idPriv.length = 32 ∧
      fresh.cert.length ≤ Session.sessionLeafDerMax ∧ Certifies crypto.toWolfReader fresh.cert fresh.pair.1.2 := by
  obtain ⟨bytes, random⟩ := works.random
  obtain ⟨pair, paired, long, agrees⟩ := works.pair
  obtain ⟨idPriv, generated, full⟩ := works.scalar
  obtain ⟨params, parsed⟩ := works.params
  have made : ∃ serial, genSerial env.toEnv machine.device = (.ok serial, machine.device) := by
    obtain ⟨bytes, _⟩ := bytes
    simp only [genSerial, Op.bind_apply, Op.lift_apply, random]
    cases bytes <;> exact ⟨_, rfl⟩
  obtain ⟨serial, drawn⟩ := made
  obtain ⟨cert, built, short, binds⟩ := works.certificate {
    subjectKey := .priv idPriv
    issuerPriv := idPriv
    subjectDn := paramsToDn params
    issuerDn := paramsToDn params
    serial
    notBefore := notBeforeBase
    notAfter := computeNotAfter params.validityDays
    emitBc := false
    isCa := false
    pathLen := some 0
    keyUsage := params.keyUsage
    x25519 := pair.1.2 } pair.2
  refine ⟨⟨pair, idPriv, cert⟩, ?_, long, agrees, full, short, binds⟩
  simp only [prepareIdentity, keygenScalar, onDevice, caBuildSessionCert, Op.bind_apply, Op.lift_apply, paired,
    generated, Op.ensure, if_pos full, Op.pure_apply, parsed, drawn, built]

/-- What is stored when the power goes is a prefix of the writes. -/
theorem storeIdentity_cut {fresh : Identity} {blob idBlob : Bytes} (derived : env.storageKeyDerive = .ok ())
    (scalar : env.encryptBlob fresh.pair.1.1 = .ok blob) (signing : env.encryptBlob fresh.idPriv = .ok idBlob)
    (count : Nat) (machine : Machine) :
    (storeIdentity (cutAfter count env) fresh machine).2 =
      applyWrites machine ((identityWrites fresh blob idBlob).take count) := by
  rcases count with _ | _ | _ | _ | count
  all_goals
    simp [storeIdentity, cutAfter, Op.bind_apply, Op.lift_apply, derived, scalar, signing, storageSessionWrite,
      storageSessionMetaWrite, writeOrder, writeContent, applyWrites, identityWrites, Machine.withFile]

theorem trusted_of_mayMint {device : Device} (mints : mayMint device = true) : device.volume ≠ .mismatch := by
  intro foreign
  rw [mayMint, foreign] at mints
  cases mints

/-- A first boot goes on to mint, and loses its power there. -/
theorem sessionSlotInit_cut (works : Works publicKey crypto build env) (mints : mayMint machine.device = true)
    (first : machine.slot.files .cert = none) (count : Nat) :
    ∃ fresh blob idBlob, fresh.pair.1.1.length = 32 ∧ publicKey fresh.pair.1.1 = fresh.pair.1.2 ∧
      fresh.cert.length ≤ Session.sessionLeafDerMax ∧ Certifies crypto.toWolfReader fresh.cert fresh.pair.1.2 ∧
      blob.length ≤ keyBlobLen ∧ crypto.decryptBlob blob = .ok fresh.pair.1.1 ∧
      (sessionSlotInit crypto.toWolfReader (cutAfter count env) build machine).2 =
        applyWrites { machine with slot := { machine.slot with ephemeral := none } }
          ((identityWrites fresh blob idBlob).take count) := by
  have home := trusted_of_mayMint mints
  obtain ⟨fresh, prepared, long, agrees, full, short, binds⟩ := prepareIdentity_of_works (works.cut count)
    { machine with slot := { machine.slot with ephemeral := none } }
  obtain ⟨blob, scalar, small, opened⟩ := works.sealing fresh.pair.1.1 long
  obtain ⟨idBlob, signing, _, _⟩ := works.sealing fresh.idPriv full
  refine ⟨fresh, blob, idBlob, long, agrees, short, binds, small, opened, ?_⟩
  rw [sessionSlotInit_eq, if_neg home, first, if_neg (by simp), if_pos mints, sessionSlotMint, Op.bind_of_ok prepared,
    storeIdentity_cut works.derive scalar signing]

/-- Successful writes are those of a cut that comes too late. -/
theorem cutAfter_of_writes (succeeds : WritesSucceed env) : cutAfter 5 env = env := by
  have done : (fun file => if writeOrder file < 5 then .done else .mkdirFailed .eio) = env.sessionWrite := by
    funext file
    rw [succeeds.1 file]
    cases file <;> rfl
  rw [cutAfter, done]

theorem verifySessionIdentity_files (wolf : WolfReader) (build : Build) (machine : Machine) :
    (verifySessionIdentity wolf build machine).2.slot.files = machine.slot.files ∧
      (verifySessionIdentity wolf build machine).2.slot.ephemeral = machine.slot.ephemeral := by
  unfold verifySessionIdentity
  rw [Op.bind_apply, Op.attempt_apply, storageSessionRead, Op.reads_apply]
  cases machine.slot.files .cert <;> dsimp only <;> split_ifs <;> exact ⟨rfl, rfl⟩

/-- All four files of an identity whose parts belong together. -/
theorem stored_of_writes {fresh : Identity} {blob idBlob : Bytes} (long : fresh.pair.1.1.length = 32)
    (agrees : publicKey fresh.pair.1.1 = fresh.pair.1.2) (short : fresh.cert.length ≤ Session.sessionLeafDerMax)
    (binds : Certifies crypto.toWolfReader fresh.cert fresh.pair.1.2) (small : blob.length ≤ keyBlobLen)
    (opened : crypto.decryptBlob blob = .ok fresh.pair.1.1) (durable : machine.slot.ephemeral = none) :
    Stored publicKey crypto (applyWrites machine (identityWrites fresh blob idBlob)).slot where
  durable := durable
  holds := by
    have read : (parseSessionMeta (fresh.record.bytes.take sessionMetaSize)).toOption = some fresh.record := by
      rw [parseSessionMeta_bytes rfl]
      rfl
    exact ⟨blob, fresh.pair.1.1, fresh.cert, fresh.record, rfl, small, opened, long, rfl, short, read, agrees, binds⟩

/-- A boot keeps session files and the right to mint. -/
theorem rebooted_mayMint (config : Config) (crypto : Crypto) (env : SessionEnv) (machine : Machine) :
    mayMint (rebooted config crypto env machine.device.volume machine).device = mayMint machine.device := by
  have outside : SameOutside (· = .slot caSlot .cert) machine.device
      (rebooted config crypto env machine.device.volume machine).device :=
    Dispatcher.boot_related (fun _ _ => rfl) (writable_of_touched rfl) fun _ _ _ => rfl
  have volume : SameVolume machine.device (rebooted config crypto env machine.device.volume machine).device :=
    Dispatcher.boot_related rfl (writable_sameVolume _ _) fun _ => rfl
  have key := outside (.slot 0 .key) (by decide)
  simp only [mayMint, key, show _ = _ from volume]

/-- A boot that mints leaves the four files. -/
theorem init_stores (works : Works publicKey crypto build env) (succeeds : WritesSucceed env)
    (mints : mayMint machine.device = true) (first : machine.slot.files .cert = none) :
    Stored publicKey crypto (sessionSlotInit crypto.toWolfReader env build machine).2.slot := by
  obtain ⟨fresh, blob, idBlob, long, agrees, short, binds, small, opened, after⟩ :=
    sessionSlotInit_cut works mints first 5
  rw [cutAfter_of_writes succeeds] at after
  rw [after]
  exact stored_of_writes long agrees short binds small opened rfl

/-- A boot that finds a certificate changes no file. -/
theorem init_keeps (wolf : WolfReader) (env : SessionEnv) (build : Build) (trusted : machine.device.volume ≠ .mismatch)
    (named : (machine.slot.files .cert).isSome) :
    (sessionSlotInit wolf env build machine).2.slot.files = machine.slot.files ∧
      (sessionSlotInit wolf env build machine).2.slot.ephemeral = none := by
  rw [sessionSlotInit_eq, if_neg trusted, if_pos named]
  exact verifySessionIdentity_files wolf build { machine with slot := { machine.slot with ephemeral := none } }

theorem Stored.of_files {before after : SlotState} (stored : Stored publicKey crypto before)
    (files : after.files = before.files) (durable : after.ephemeral = none) : Stored publicKey crypto after where
  durable := durable
  holds := by
    rw [SlotState.record, files]
    exact stored.holds

theorem applyWrites_device (machine : Machine) (writes : List (SessionFile × Bytes)) :
    (applyWrites machine writes).device = machine.device := by
  induction writes generalizing machine with
  | nil => rfl
  | cons write rest ih => exact ih (machine.withFile write.1 (some write.2))

theorem applyWrites_files (machine : Machine) (writes : List (SessionFile × Bytes)) {file : SessionFile}
    (other : ∀ write ∈ writes, write.1 ≠ file) :
      (applyWrites machine writes).slot.files file = machine.slot.files file := by
  induction writes generalizing machine with
  | nil => rfl
  | cons write rest ih =>
    rw [List.forall_mem_cons] at other
    have later := ih (machine.withFile write.1 (some write.2)) other.2
    exact later.trans (Function.update_of_ne other.1.symm _ _)

/-- Only a cut between certificate and record spoils it. -/
theorem bootAgain_serves_iff (config : Config) {first second : SessionEnv} (begun : Works publicKey crypto build first)
    (works : Works publicKey crypto build second) (succeeds : WritesSucceed second)
    (mints : mayMint machine.device = true) (unnamed : machine.slot.files .cert = none)
    (unrecorded : machine.slot.files .metadata = none) (count : Nat) :
    ServesOneIdentity publicKey crypto (bootAgain config crypto build first second count machine) ↔ count ≠ 3 := by
  obtain ⟨fresh, blob, idBlob, long, agrees, short, binds, small, opened, cut⟩ :=
    sessionSlotInit_cut begun mints unnamed count
  set start : Machine := { machine with slot := { machine.slot with ephemeral := none } }
  set between := applyWrites start ((identityWrites fresh blob idBlob).take count) with stopped
  set again := rebooted config crypto second between.device.volume between with restarted
  have result : bootAgain config crypto build first second count machine =
      (sessionSlotInit crypto.toWolfReader second build again).2 := by
    rw [bootAgain, cut]
  have device : between.device = machine.device := applyWrites_device _ _
  have files : again.slot.files = between.slot.files := rfl
  have mintsAgain : mayMint again.device = true := by
    rw [rebooted_mayMint, device]
    exact mints
  rw [result]
  by_cases early : count ≤ 2
  · -- Without a certificate the second boot starts over.
    have still : again.slot.files .cert = none := by
      rw [files, applyWrites_files _ _ ?_]
      · exact unnamed
      · intro write listed
        have front : write ∈ (identityWrites fresh blob idBlob).take 2 :=
          List.take_subset_take_left _ early listed
        rcases List.mem_pair.mp front with rfl | rfl <;> simp
    exact iff_of_true (init_stores works succeeds mintsAgain still).serves (by omega)
  · -- With one it takes the slot as it is.
    obtain ⟨rest, rfl⟩ : ∃ rest, count = rest + 3 := ⟨count - 3, by omega⟩
    have named : (again.slot.files .cert).isSome := by
      rw [files, stopped]
      rcases rest with _ | rest
      · rfl
      · rw [List.take_of_length_le (by simp [identityWrites])]
        rfl
    obtain ⟨kept, durable⟩ := init_keeps crypto.toWolfReader second build (trusted_of_mayMint mintsAgain) named
    rcases rest with _ | rest
    · have lost : (sessionSlotInit crypto.toWolfReader second build again).2.slot.files .metadata = none := by
        rw [kept, files]
        exact unrecorded
      exact iff_of_false (not_serves_of_metadata_none second works.derive durable lost) (by simp)
    · have complete : Stored publicKey crypto between.slot := by
        rw [stopped, List.take_of_length_le (by simp [identityWrites])]
        exact stored_of_writes long agrees short binds small opened rfl
      exact iff_of_true (complete.of_files (kept.trans files) durable).serves (by omega)

end Boots

/-- A formatted volume on which nothing was ever stored. -/
def firstBoot : Machine := ⟨Dispatcher.blankDevice, SlotState.blank⟩

/-- The plain public key is the private one. -/
theorem slotEnv_works : Works id slotCrypto slotBuild slotEnv where
  derive := rfl
  random := ⟨_, rfl⟩
  pair := ⟨_, rfl, rfl, rfl⟩
  scalar := ⟨_, rfl, rfl⟩
  sealing plain sized := ⟨plain, rfl, sized.trans_le (by decide), rfl⟩
  params := ⟨_, rfl⟩
  certificate spec sized := by
    refine ⟨plainLeaf (spec.issuerPriv.headD 0) spec.x25519, if_pos sized, ?_, certifies_plainLeaf _ sized⟩
    simp only [plainLeaf, List.length_cons, sized]
    decide

/-- A cut before the certificate costs nothing. -/
theorem firstBoot_cut_early :
    ServesOneIdentity id slotCrypto (bootAgain .default slotCrypto slotBuild slotEnv slotEnv 2 firstBoot) :=
  (bootAgain_serves_iff .default slotEnv_works slotEnv_works slotEnv_writesSucceed rfl rfl rfl 2).mpr (by decide)

/-- No later boot completes what the cut behind the certificate left. -/
theorem firstBoot_cut_behind_cert :
    (Works id slotCrypto slotBuild slotEnv ∧ WritesSucceed slotEnv ∧ mayMint firstBoot.device = true) ∧
      ¬ ServesOneIdentity id slotCrypto (bootAgain .default slotCrypto slotBuild slotEnv slotEnv 3 firstBoot) := by
  refine ⟨⟨slotEnv_works, slotEnv_writesSucceed, rfl⟩, not_serves_of_metadata_none slotEnv rfl ?_ ?_⟩
  · exact rfl
  · exact rfl

end Cantil.SessionIdentity
