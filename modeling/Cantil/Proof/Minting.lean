import Cantil.Firmware.Appliance
import Cantil.Proof.Responses

namespace Cantil
open Library SessionSlot

/-- The files of the store that hold a key or name a client. -/
def Secret : Path → Prop
  | .slot _ .key => True
  | .client _ .pubkey => True
  | _ => False

/-- A volume that may hold no new secret gets none. -/
structure Guarded (before after : Device) : Prop where
  volume : after.volume = before.volume
  mint : mayMint after = mayMint before
  secrets : mayMint before = false → ∀ path, Secret path → before.fs.files path = none → after.fs.files path = none

instance : IsPreorder Device Guarded where
  refl _ := ⟨rfl, rfl, fun _ _ _ absent => absent⟩
  trans _ _ _ first second :=
    ⟨second.volume.trans first.volume, second.mint.trans first.mint, fun unmintable path inside absent =>
      second.secrets (first.mint.trans unmintable) path inside (first.secrets unmintable path inside absent)⟩

/-- Files are written and none is removed. -/
structure Grows (before after : Device) : Prop where
  volume : after.volume = before.volume
  files : ∀ path, (before.fs.files path).isSome → (after.fs.files path).isSome

instance : IsPreorder Device Grows where
  refl _ := ⟨rfl, fun _ present => present⟩
  trans _ _ _ first second :=
    ⟨second.volume.trans first.volume, fun path present => second.files path (first.files path present)⟩

section Devices

variable {before after : Device} {faults : Faults}

theorem mayMint_congr (volume : after.volume = before.volume)
    (key : (after.fs.files (.slot 0 .key)).isSome = (before.fs.files (.slot 0 .key)).isSome) :
    mayMint after = mayMint before := by
  unfold mayMint
  rw [volume, key]

/-- A foreign volume holds no new secret. -/
theorem mayMint_mismatch (foreign : before.volume = .mismatch) : mayMint before = false := by
  unfold mayMint
  rw [foreign]

theorem guarded_of_same (volume : after.volume = before.volume)
    (same : ∀ path, Secret path → after.fs.files path = before.fs.files path) : Guarded before after where
  volume := volume
  mint := mayMint_congr volume (by rw [same (.slot 0 .key) trivial])
  secrets _ path inside absent := by rw [same path inside, absent]

theorem guarded_of_grows (mints : mayMint before = true) (grows : Grows before after) : Guarded before after where
  volume := grows.volume
  mint := by
    rw [mints]
    unfold mayMint at mints ⊢
    rw [grows.volume]
    rcases state : before.volume
    · rfl
    · rw [state] at mints
      exact grows.files _ mints
    · rw [state] at mints
      cases mints
  secrets unmintable := by
    rw [mints] at unmintable
    cases unmintable

theorem writable_guarded {path : Path} (plain : ¬ Secret path) : Writable Guarded faults path where
  write data device := by
    have outside := writeFile_frame faults path data device
    exact guarded_of_same ((writable_sameVolume faults path).write data device) fun other inside =>
      outside other fun same => plain (same ▸ inside)
  unlink device := by
    have outside : SameOutside (Eq path) device (unlinkFile faults path device).2 := unlinkFile_respects rfl device
    exact guarded_of_same ((writable_sameVolume faults path).unlink device) fun other inside =>
      outside other fun same => plain (same ▸ inside)

theorem writeFile_grows (path : Path) (data : Bytes) : Op.Respects Grows (writeFile faults path data) := by
  intro device
  refine ⟨(writable_sameVolume faults path).write data device, fun other present => ?_⟩
  rcases writeFile_state faults path data device with same | made | ⟨content, stored, _⟩
  · rwa [same]
  · rw [made]
    simpa using present
  · rw [stored]
    by_cases here : other = path
    · simp [here]
    · simpa [here] using present

end Devices

namespace Ca
open Library

section Commands

variable {config : Config} {crypto : Crypto} {env : Env}

theorem setProvisioned_guarded : Op.Respects Guarded setProvisioned := fun _ => guarded_of_same rfl fun _ _ => rfl

theorem createKey_grows (slot : Slot) (record : SlotMeta) : Op.Respects Grows (createKey env slot record) :=
  .read fun _ => .read fun _ => .read fun _ =>
    (writeFile_grows _ _).bind fun _ => writeFile_grows _ _

/-- Both commands that make a key ask first. -/
theorem caProvision_guarded (keyType : UInt8) : Op.Respects Guarded (caProvision env keyType) := fun device =>
  caProvision_related setProvisioned_guarded fun _ allowed => guarded_of_grows allowed (createKey_grows _ _ device)

theorem caGenKey_guarded (keyType : UInt8) : Op.Respects Guarded (caGenKey config env keyType) := fun device =>
  caGenKey_related fun _ _ allowed => guarded_of_grows allowed (createKey_grows _ _ device)

/-- A deletion overwrites a key that is there. -/
theorem caDeleteKey_guarded (slot : Slot) : Op.Respects Guarded (caDeleteKey config env slot) := by
  intro device
  rcases caDeleteKey_cases config env slot device with same | ⟨numbered, held, _, deleted⟩
  · rw [same]
    exact refl device
  · rw [deleted]
    have outside := storageSlotDelete_frame env.toFaults slot device
    have volume : (storageSlotDelete env.toFaults slot device).2.volume = device.volume := by
      rw [storageSlotDelete_state]
      exact (writable_sameVolume env.toFaults _).write _ device
    have root : ¬ ∃ file, Path.slot 0 .key = .slot slot file := by
      rintro ⟨file, same⟩
      exact numbered (Path.slot.inj same).1.symm
    refine ⟨volume, mayMint_congr volume (by rw [outside _ root]), fun _ path inside absent => ?_⟩
    by_cases here : ∃ file, path = .slot slot file
    · obtain ⟨file, rfl⟩ := here
      cases file with
      | key =>
        rw [absent] at held
        cases held
      | _ => exact absurd inside id
    · rw [outside path here, absent]

theorem caInit_guarded : Op.Respects Guarded (caInit config crypto env) :=
  caInit_respects (writable_guarded id) setProvisioned_guarded

end Commands

end Ca

namespace Dispatcher
open Library Ca
open Protocol (Command)

/-- No command of the store but a reset goes past the guard. -/
theorem Effect.guarded {config : Config} {crypto : Crypto} {env : Env} {data : Bytes} {device after : Device}
    {command : Command} (effect : Effect config crypto env data device command after)
    (inside : command ∈ storeCommands) (stays : command ≠ .resetDevice) : Guarded device after := by
  have general (plain : command ∈ framedCommands ∧ ∀ file ∈ slotFiles command, file ≠ .key) : Guarded device after := by
    refine effect.related plain.1 (fun file inside slot => writable_guarded fun secret => ?_)
      (fun _ _ _ => writable_guarded id) setProvisioned_guarded
    cases file with
    | key => exact plain.2 _ inside rfl
    | _ => exact secret
  cases effect with
  | resetDevice => exact absurd rfl stays
  | elsewhere _ _ other => exact absurd inside other
  | refused => exact refl device
  | genKey => exact caGenKey_guarded _ device
  | provisionCa => exact caProvision_guarded _ device
  | deleteKey => exact caDeleteKey_guarded _ device
  | _ => exact general (by decide)

end Dispatcher

namespace Clients
open Library

/-- The guard with the second secret of a bond. -/
structure BondsGuarded (before after : BondStore) : Prop where
  device : Guarded before.device after.device
  psk : mayMint before.device = false → ∀ id, before.bonds.psk id = none → after.bonds.psk id = none

instance : IsPreorder BondStore BondsGuarded where
  refl _ := ⟨refl _, fun _ _ absent => absent⟩
  trans _ _ _ first second :=
    ⟨IsTrans.trans _ _ _ first.device second.device, fun unmintable id absent =>
      second.psk (first.device.mint.trans unmintable) id (first.psk unmintable id absent)⟩

/-- The state of the volume and the files of the slots stay. -/
structure SameSlots (before after : BondStore) : Prop where
  volume : after.device.volume = before.device.volume
  files : ∀ slot file, after.device.fs.files (.slot slot file) = before.device.fs.files (.slot slot file)

instance : IsPreorder BondStore SameSlots where
  refl _ := ⟨rfl, fun _ _ => rfl⟩
  trans _ _ _ first second :=
    ⟨second.volume.trans first.volume, fun slot file => (second.files slot file).trans (first.files slot file)⟩

section Bonds

variable {env : BondEnv} {store : BondStore}

theorem SameSlots.mint {before after : BondStore} (same : SameSlots before after) :
    mayMint after.device = mayMint before.device :=
  mayMint_congr same.volume (by rw [same.files])

theorem bondsGuarded_of_slots {before after : BondStore} (mints : mayMint before.device = true)
    (same : SameSlots before after) : BondsGuarded before after where
  device := ⟨same.volume, same.mint, fun unmintable => by simp [mints] at unmintable⟩
  psk unmintable := by simp [mints] at unmintable

/-- A deletion takes files of the bond away. -/
structure Shrinks (before after : BondStore) : Prop where
  volume : after.device.volume = before.device.volume
  slots : ∀ slot file, after.device.fs.files (.slot slot file) = before.device.fs.files (.slot slot file)
  files : ∀ path, before.device.fs.files path = none → after.device.fs.files path = none
  psk : ∀ id, before.bonds.psk id = none → after.bonds.psk id = none

theorem bondEmptied_shrinks (env : BondEnv) (id : Bytes) (store : BondStore) :
    Shrinks store (bondEmptied env id store) where
  volume := by
    unfold bondEmptied
    split_ifs <;> rfl
  slots slot file := by
    unfold bondEmptied
    dsimp only
    split_ifs
    · simp [Fs.removeIf]
    · rfl
  files path absent := by
    unfold bondEmptied
    dsimp only
    split_ifs
    · simp [Fs.removeIf, absent]
    · exact absent
  psk other absent := by
    unfold bondEmptied
    dsimp only
    split_ifs
    · by_cases here : other = id <;> simp [here, absent]
    · exact absent

theorem storageClientBondDelete_shrinks (env : BondEnv) (id : Bytes) (store : BondStore) :
    Shrinks store (storageClientBondDelete env id store).2 := by
  have emptied := bondEmptied_shrinks env id store
  unfold storageClientBondDelete
  split
  · exact ⟨rfl, fun _ _ => rfl, fun _ absent => absent, fun _ absent => absent⟩
  · dsimp only
    split
    · exact emptied
    · split
      · exact emptied
      · exact ⟨emptied.volume, emptied.slots, emptied.files, emptied.psk⟩

theorem storageClientBondDelete_slots (id : Bytes) : Op.Respects SameSlots (storageClientBondDelete env id) := by
  intro store
  have shrinks := storageClientBondDelete_shrinks env id store
  exact ⟨shrinks.volume, shrinks.slots⟩

theorem storageClientBondDelete_guarded (id : Bytes) : Op.Respects BondsGuarded (storageClientBondDelete env id) := by
  intro store
  have shrinks := storageClientBondDelete_shrinks env id store
  exact ⟨⟨shrinks.volume, (storageClientBondDelete_slots id store).mint, fun _ path _ => shrinks.files path⟩,
    fun _ => shrinks.psk⟩

/-- A record is written beside the secrets. -/
theorem storageClientBondMetaWrite_state (env : BondEnv) (id blob : Bytes) (store : BondStore) :
    (storageClientBondMetaWrite env id blob store).2.device = store.device ∧
      (storageClientBondMetaWrite env id blob store).2.bonds.psk = store.bonds.psk := by
  unfold storageClientBondMetaWrite
  split <;> exact ⟨rfl, rfl⟩

theorem storageClientBondMetaWrite_slots (id blob : Bytes) :
    Op.Respects SameSlots (storageClientBondMetaWrite env id blob) := by
  intro store
  obtain ⟨device, _⟩ := storageClientBondMetaWrite_state env id blob store
  exact ⟨by rw [device], fun _ _ => by rw [device]⟩

theorem storageClientBondMetaWrite_guarded (id blob : Bytes) :
    Op.Respects BondsGuarded (storageClientBondMetaWrite env id blob) := by
  intro store
  obtain ⟨device, psk⟩ := storageClientBondMetaWrite_state env id blob store
  exact ⟨device ▸ refl _, fun _ other absent => by rw [psk, absent]⟩

end Bonds

section Pairing

variable {wolf : WolfReader} {config : Config} {build : PairingBuild} {env : PairEnv} {pub : Bytes}

theorem storageClientBondPubkeyWrite_slots (id : Bytes) :
    Op.Respects SameSlots (storageClientBondPubkeyWrite env id pub) := by
  intro store
  have outside := writeFile_frame env.toFaults (.client id .pubkey) pub store.device
  have written : SameSlots store (storageClientBondPubkeyWrite env id pub store).2 ↔
      SameSlots store ⟨(writeFile env.toFaults (.client id .pubkey) pub store.device).2, store.bonds⟩ := by
    unfold storageClientBondPubkeyWrite
    dsimp only
    split <;> exact ⟨fun same => ⟨same.volume, same.files⟩, fun same => ⟨same.volume, same.files⟩⟩
  refine written.mpr ⟨(writable_sameVolume env.toFaults _).write pub store.device, fun slot file => ?_⟩
  exact outside _ (by simp)

theorem storeBond_slots (kind : ClientKind) (nowUnix : UInt32) :
    Op.Respects SameSlots (storeBond env pub kind nowUnix) := by
  refine (storageClientBondPubkeyWrite_slots _).bind fun _ => ?_
  refine (storageClientBondMetaWrite_slots _ _).attempt.bind fun outcome => ?_
  split
  · exact .pure _
  · exact (storageClientBondDelete_slots _).attempt.bind fun _ => .fail _

theorem storageClientBondPskWrite_slots (id blob : Bytes) :
    Op.Respects SameSlots (storageClientBondPskWrite env id blob) := fun _ => ⟨rfl, fun _ _ => rfl⟩

/-- Every pairing asks before it stores a bond. -/
theorem pairingCheckAndBond_guarded (depth : Nat) :
    Op.Respects BondsGuarded (pairingCheckAndBond wolf config build depth env pub) := by
  intro store
  by_cases mints : mayMint store.device = true
  · exact bondsGuarded_of_slots mints (pairingCheckAndBond_related depth
      (bondQuietly_respects (storeBond_slots _ _) store)
      fun _ seq => bondWithPsk_respects (storeBond_slots _ _) (storageClientBondPskWrite_slots _ _) seq store)
  · rw [← pairingCheckAndBond_unmintable depth (Bool.eq_false_iff.mpr mints)]
    exact refl store

end Pairing

end Clients

namespace HandleOne
open Library Ca
open Protocol (Command)

/-- The files that hold a key or name a client. -/
inductive SecretFile where
  | slotKey (slot : Slot)
  | sessionKey
  | sessionIdKey
  | clientPubkey (id : Bytes)
  | clientPsk (id : Bytes)

def SecretFile.content (board : Board) : SecretFile → Option Bytes
  | .slotKey slot => board.device.fs.files (.slot slot .key)
  | .sessionKey => board.slot.files .key
  | .sessionIdKey => board.slot.files .idKey
  | .clientPubkey id => board.device.fs.files (.client id .pubkey)
  | .clientPsk id => board.bonds.psk id

/-- The guard of the whole board. -/
structure BoardGuarded (before after : Board) : Prop where
  mint : mayMint after.device = mayMint before.device
  secrets : mayMint before.device = false → ∀ file : SecretFile, file.content before = none → file.content after = none

section Board

variable {before after board : Board}

theorem boardGuarded_of_bonds {store : Clients.BondStore}
    (guarded : Clients.BondsGuarded ⟨board.device, board.bonds⟩ store) :
    BoardGuarded board (board.withBonds store) where
  mint := guarded.device.mint
  secrets unmintable file absent := by
    cases file with
    | slotKey slot | clientPubkey id => exact guarded.device.secrets unmintable _ trivial absent
    | sessionKey | sessionIdKey => exact absent
    | clientPsk id => exact guarded.psk unmintable id absent

theorem boardGuarded_of_device {device : Device} (guarded : Guarded board.device device) :
    BoardGuarded board { board with device } := by
  have bonds : Clients.BondsGuarded ⟨board.device, board.bonds⟩ ⟨device, board.bonds⟩ :=
    ⟨guarded, fun _ _ absent => absent⟩
  exact boardGuarded_of_bonds bonds

theorem boardGuarded_of_keys {slot : SlotState}
    (same : mayMint board.device = false → slot.files .key = board.slot.files .key ∧
      slot.files .idKey = board.slot.files .idKey) : BoardGuarded board { board with slot } where
  mint := rfl
  secrets unmintable file absent := by
    obtain ⟨key, idKey⟩ := same unmintable
    cases file with
    | sessionKey => exact key.trans absent
    | sessionIdKey => exact idKey.trans absent
    | _ => exact absent

theorem boardGuarded_refl (board : Board) : BoardGuarded board board := ⟨rfl, fun _ _ absent => absent⟩

/-- Every command but a reset keeps the guard. -/
theorem Touches.guarded {config : Config} {crypto : Crypto} {env : CommandEnv} {seen : SessionEnv} {data : Bytes}
    {command : Command} (touches : Touches config crypto env seen data board command after)
    (stays : command ≠ .resetDevice) : BoardGuarded board after := by
  cases touches with
  | nothing => exact boardGuarded_refl _
  | stored _ inside => exact boardGuarded_of_device ((Dispatcher.handle_effect command).guarded inside stays)
  | session _ slot same => exact boardGuarded_of_keys fun _ => ⟨same.key, same.idKey⟩
  | unpaired =>
    exact boardGuarded_of_bonds (Clients.clientBondRemove_respects (Clients.storageClientBondDelete_guarded _) _)
  | renamed =>
    exact boardGuarded_of_bonds
      (Clients.clientBondSetName_respects (Clients.storageClientBondMetaWrite_guarded _) _ _)

/-- The session slot asks before it stores. -/
theorem sessionSlotInit_guarded (wolf : WolfReader) (env : SessionEnv) (build : Build) (board : Board) :
    BoardGuarded board (onMachine (SessionSlot.sessionSlotInit wolf env build) board).2 := by
  have device : SameDevice ⟨board.device, board.slot⟩
      (SessionSlot.sessionSlotInit wolf env build ⟨board.device, board.slot⟩).2 :=
    sessionSlotInit_sameDevice _
  have files (unmintable : mayMint board.device = false) : SameStored ⟨board.device, board.slot⟩
      (SessionSlot.sessionSlotInit wolf env build ⟨board.device, board.slot⟩).2 :=
    sessionSlotInit_unmintable unmintable
  have shape : (onMachine (SessionSlot.sessionSlotInit wolf env build) board).2 =
      { board with slot := (SessionSlot.sessionSlotInit wolf env build ⟨board.device, board.slot⟩).2.slot } := by
    simp only [onMachine]
    rw [device]
  rw [shape]
  exact boardGuarded_of_keys fun unmintable => ⟨by rw [(files unmintable).files], by rw [(files unmintable).files]⟩

end Board

end HandleOne

namespace Appliance
open Library Ca Trace
open HandleOne (Board SecretFile BoardGuarded CommandEnv)

/-- A confirmed reset gets past the one test that the wipe makes. -/
def Resets (firmware : Firmware) (system : System) : Event → Prop
  | .request env _ cmd _ _ =>
    (system.stage = .serving ∧ system.mounted = true) ∧ verdict firmware env cmd system = .executed .resetDevice ∧
      resetConfirmed firmware.config (commandEnv env system) = true ∧
      system.store.board.device.volume ≠ .mismatch
  | _ => False

instance (firmware : Firmware) (system : System) : (event : Event) → Decidable (Resets firmware system event)
  | .request _ _ _ _ _ => instDecidableAnd
  | .powerOff | .storageInit _ | .caInit _ | .sessionSlotInit _ | .gestureInit _ | .pair _ _ | .sweep _ | .taps _ _ =>
    instDecidableFalse

/-- A new secret appears only while the volume may hold one. -/
def MintsAllowed (before after : Board) : Prop :=
  ∀ file : SecretFile, file.content before = none → (file.content after).isSome →
    mayMint before.device = true ∧ mayMint after.device = true

/-- The events that carry a command or the rest of a wipe. -/
def Event.Serves : Event → Prop
  | .request _ _ _ _ _ => True
  | .sweep _ => True
  | _ => False

section Steps

variable {firmware : Firmware} {system : System} {before after : Board}

theorem mintsAllowed_of_guarded (guarded : BoardGuarded before after) : MintsAllowed before after := by
  intro file absent present
  by_cases mints : mayMint before.device = true
  · exact ⟨mints, guarded.mint.trans mints⟩
  · rw [guarded.secrets (Bool.eq_false_iff.mpr mints) file absent] at present
    cases present

theorem mintsAllowed_of_absent (kept : ∀ file : SecretFile, file.content before = none → file.content after = none) :
    MintsAllowed before after := by
  intro file absent present
  rw [kept file absent] at present
  cases present

theorem mintsAllowed_refl (board : Board) : MintsAllowed board board :=
  mintsAllowed_of_absent fun _ absent => absent

theorem formatted_content (store : Store) (file : SecretFile) : file.content store.formatted.board = none := by
  cases file <;> rfl

/-- A mount makes no secret. -/
theorem storageInit_content (env : MountEnv) (store : Store) (file : SecretFile)
    (absent : file.content store.board = none) :
    file.content (storageInit firmware env false store).2.board = none := by
  unfold storageInit
  rw [if_neg Bool.false_ne_true]
  split
  · split_ifs
    · exact formatted_content store file
    · exact absent
  · split_ifs
    · exact absent
    · split
      · exact formatted_content store file
      · exact formatted_content store file
      · exact formatted_content store file

/-- A wipe of a minting volume leaves it one. -/
theorem overwriteSecrets_mints (env : SessionEnv) {store : Store} (mints : mayMint store.board.device = true) :
    MintsAllowed store.board (overwriteSecrets env store).board := by
  have grows : Grows store.board.device (overwriteSecrets env store).board.device := writeFile_grows _ _ _
  exact fun _ _ _ => ⟨mints, (guarded_of_grows mints grows).mint.trans mints⟩

theorem sweep_content (env : SweepEnv) (store : Store) (file : SecretFile) (absent : file.content store.board = none) :
    file.content (sweep env store).board = none := by
  cases file <;> simp_all [SecretFile.content,
    sweep, swept, sweepBonds, Store.withBoard, Fs.removeIf, Fs.removeCertDirs]

/-- One event. -/
theorem step_mints {event : Event}
    (allowed : Resets firmware system event → mayMint system.store.board.device = true) :
    MintsAllowed system.store.board (step firmware system event).store.board := by
  cases event with
  | powerOff => exact mintsAllowed_refl _
  | storageInit env =>
    have kept (file : SecretFile) (absent : file.content system.store.board = none) :
        file.content (storageInit firmware env false system.store.restarted).2.board = none :=
      storageInit_content env _ file (by cases file <;> exact absent)
    simp only [step]
    split_ifs
    · exact mintsAllowed_refl _
    · split
      · rename_i booted
        rw [booted] at kept
        exact mintsAllowed_of_absent kept
      · rename_i failed
        rw [failed] at kept
        exact mintsAllowed_of_absent kept
  | caInit env =>
    simp only [step]
    split_ifs
    · exact mintsAllowed_refl _
    · exact mintsAllowed_of_guarded (HandleOne.boardGuarded_of_device (caInit_guarded _))
  | sessionSlotInit env =>
    simp only [step]
    split_ifs
    · exact mintsAllowed_refl _
    · exact mintsAllowed_of_guarded (HandleOne.sessionSlotInit_guarded _ env _ _)
  | gestureInit now =>
    simp only [step]
    split_ifs <;> exact mintsAllowed_refl _
  | pair env pub =>
    simp only [step]
    split_ifs
    · exact mintsAllowed_of_guarded (HandleOne.boardGuarded_of_bonds (Clients.pairingCheckAndBond_guarded _ _))
    · exact mintsAllowed_refl _
  | request env writes cmd seq data =>
    simp only [step]
    split_ifs with serving
    · have served := @serve_served firmware env writes cmd seq data system
      generalize (serve firmware env writes cmd seq data system).store.board = after at served ⊢
      generalize (serve firmware env writes cmd seq data system).stage = stage at served
      cases served with
      | idle => exact mintsAllowed_refl _
      | reset runs confirmed trusted =>
        exact overwriteSecrets_mints env.toSessionEnv (allowed ⟨serving, runs, confirmed, trusted⟩)
      | command command runs stays =>
        exact mintsAllowed_of_guarded ((HandleOne.handleCommand_touches stays).guarded stays)
    · exact mintsAllowed_refl _
  | sweep env =>
    simp only [step]
    split_ifs
    · exact mintsAllowed_refl _
    · exact mintsAllowed_of_absent (sweep_content env system.store)
  | taps writes event =>
    simp only [step]
    split_ifs
    · exact mintsAllowed_refl _
    · split
      · exact mintsAllowed_refl _
      · rw [tap_board]
        exact mintsAllowed_refl _

/-- A wipe goes on only where it could begin. -/
def WipesOwn (system : System) : Prop := system.stage = .wiping → system.store.board.device.volume ≠ .mismatch

theorem overwriteSecrets_volume (env : SessionEnv) (store : Store) :
    (overwriteSecrets env store).board.device.volume = store.board.device.volume :=
  (writable_sameVolume env.toFaults (.slot 0 .key)).write _ store.board.device

theorem serve_wipesOwn {env : CommandEnv} {writes : TapWrites} {cmd seq : UInt32} {data : Bytes}
    (serving : system.stage = .serving) : WipesOwn (serve firmware env writes cmd seq data system) := by
  intro wiping
  have served := @serve_served firmware env writes cmd seq data system
  rw [wiping] at served
  generalize (serve firmware env writes cmd seq data system).store.board = after at served ⊢
  generalize reached : Stage.wiping = stage at served
  cases served with
  | idle _ stays => exact absurd (serving ▸ reached ▸ stays) (by decide)
  | reset _ _ trusted => rwa [overwriteSecrets_volume]
  | command => exact absurd (reached.trans serving) (by decide)

theorem step_wipesOwn (event : Event) (own : WipesOwn system) : WipesOwn (step firmware system event) := by
  cases event with
  | powerOff =>
    intro wiping
    cases wiping
  | storageInit env =>
    simp only [step]
    split_ifs
    · exact own
    · split <;> exact fun wiping => by cases wiping
  | caInit env | sessionSlotInit env | sweep env =>
    simp only [step]
    split_ifs
    · exact own
    · exact fun wiping => by cases wiping
  | gestureInit now =>
    simp only [step]
    split_ifs
    · exact own
    all_goals exact fun wiping => by cases wiping
  | pair env pub =>
    simp only [step]
    split_ifs with serving
    · intro wiping
      exact absurd (serving.1.symm.trans wiping) (by decide)
    · exact own
  | request env writes cmd seq data =>
    simp only [step]
    split_ifs with serving
    · exact serve_wipesOwn serving.1
    · exact own
  | taps writes event =>
    simp only [step]
    split_ifs
    · exact own
    · split
      · exact own
      · intro wiping
        rw [tap_board]
        exact own wiping

/-- A command or wipe changes nothing on a foreign volume. -/
theorem step_foreign {event : Event} (own : WipesOwn system) (foreign : system.store.board.device.volume = .mismatch)
    (serves : event.Serves) : (step firmware system event).store = system.store := by
  cases event with
  | request env writes cmd seq data =>
    simp only [step]
    split_ifs
    · exact serve_foreign foreign
    · rfl
  | sweep env =>
    simp only [step]
    rw [if_pos fun wiping => own wiping foreign]
  | _ => exact absurd serves id

end Steps

/-- Secrets are made only on volumes that may hold them. -/
theorem secrets_minted (firmware : Firmware) (start : System) (events : List Event) (off : start.stage = .off)
    (allowed : ∀ visit ∈ visits (step firmware) start events,
      Resets firmware visit.1 visit.2 → mayMint visit.1.store.board.device = true) :
    ∀ visit ∈ visits (step firmware) start events,
      MintsAllowed visit.1.store.board (step firmware visit.1 visit.2).store.board ∧
        (visit.1.store.board.device.volume = .mismatch → visit.2.Serves →
          (step firmware visit.1 visit.2).store = visit.1.store) := by
  intro visit visited
  have initial : WipesOwn start := by
    intro wiping
    rw [off] at wiping
    cases wiping
  have own : WipesOwn visit.1 :=
    visits_invariant (step firmware) WipesOwn (fun _ event => step_wipesOwn event) start events initial visited
  exact ⟨step_mints (allowed visit visited), step_foreign own⟩

def plainPart : VolumeMarker.Partition := ⟨0, 0x10000, List.replicate 8 7, rfl, fun _ => 0⟩

def plainFirmware : Firmware where
  config := .default
  crypto := Dispatcher.plainCrypto
  image := { HandleOne.plainImage with constant := [0x0E, 0x42, 0, 0xFF, 0, 0, 1, 65, 0, 0, 0, 0, 0] }
  pairing := ⟨.tofu, 4, 4⟩
  part := plainPart
  markerAdopt := false
  mayFormat := false
  depth := 1

/-- Nothing fails and the user confirms. -/
def confirmingEnv : CommandEnv :=
  { HandleOne.plainCommandEnv with
    dhKeygen := .ok ⟨(List.replicate 32 6, List.replicate 32 6), rfl⟩
    buildSessionCert := fun spec => .ok spec.x25519
    tapped := .ok }

/-- A volume with no file but the marker, if it has one. -/
def blankStore (marker : Option Bytes) : Store :=
  ⟨HandleOne.boardOf ⟨.empty, .unmarked, false⟩, marker, none, none⟩

def offSystem (store : Store) : System := ⟨.off, false, store, GestureThreads.boot .default 0 none none⟩

def plainMount : MountEnv := ⟨none, by decide, false, none, none, false, .done⟩

def booting : List Event :=
  [.storageInit plainMount, .caInit confirmingEnv.toEnv, .sessionSlotInit confirmingEnv.toSessionEnv, .gestureInit 0]

def resetting : Event := .request confirmingEnv ⟨.done, .done⟩ Protocol.Command.resetDevice.code 1 []

/-- The marker of this build. -/
def markedStart : System := offSystem (blankStore (some (VolumeMarker.markerFill plainPart).bytes))

theorem markedStart_resets :
    (∀ visit ∈ visits (step plainFirmware) markedStart (booting ++ [resetting]),
        Resets plainFirmware visit.1 visit.2 → mayMint visit.1.store.board.device = true) ∧
      (∃ visit ∈ visits (step plainFirmware) markedStart (booting ++ [resetting]),
        Resets plainFirmware visit.1 visit.2) ∧
      (SecretFile.content markedStart.store.board .sessionKey = none ∧
        (SecretFile.content (run (step plainFirmware) markedStart booting).store.board .sessionKey).isSome) := by
  decide +kernel

/-- A reset in between mints nothing it may not. -/
theorem markedStart_minted :
    (∃ visit ∈ visits (step plainFirmware) markedStart (booting ++ [resetting]), Resets plainFirmware visit.1 visit.2) ∧
      ∀ visit ∈ visits (step plainFirmware) markedStart (booting ++ [resetting]),
        MintsAllowed visit.1.store.board (step plainFirmware visit.1 visit.2).store.board ∧
          (visit.1.store.board.device.volume = .mismatch → visit.2.Serves →
            (step plainFirmware visit.1 visit.2).store = visit.1.store) :=
  ⟨markedStart_resets.2.1, secrets_minted plainFirmware markedStart _ rfl markedStart_resets.1⟩

def unmarkedStart : System := offSystem (blankStore none)

/-- The wipe overwrites a key that is not there, which makes it. -/
theorem unmarkedStart_overwritten :
    let reset := run (step plainFirmware) unmarkedStart booting
    mayMint reset.store.board.device = false ∧
      SecretFile.content reset.store.board (.slotKey 0) = none ∧
      (SecretFile.content (step plainFirmware reset resetting).store.board (.slotKey 0)).isSome ∧
      mayMint (step plainFirmware reset resetting).store.board.device = true := by
  decide +kernel

end Appliance

end Cantil
