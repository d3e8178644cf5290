import Cantil.Proof.FirstBoot
import Cantil.Proof.Minting

namespace Cantil.Appliance
open Library Ca Dispatcher Protocol
open HandleOne (onStore)
open Protocol (Command)
open SessionIdentity (Works Stored)
open VolumeMarker (markerCheck markerRead storageVolumeVerify storageVolumeMarkerWrite)

variable (firmware : Firmware) (env : SessionEnv) (removals : SweepEnv) (boot : MountEnv) (store : Store)

def wiped : Store := sweep removals (overwriteSecrets env store)

/-- The whole wipe, over every file of the volume. -/
def secureWipe : Op Store Errno Unit := fun store =>
  if store.board.device.volume = .mismatch then (.error .eperm, store) else (.ok (), wiped env removals store)

/-- The boot up to the session slot. -/
def reboot (env : Env) : Op Store Errno Unit := fun store =>
  match storageInit firmware boot false store.restarted with
  | (.error error, store) => (.error error, store)
  | (.ok (), store) => (.ok (), store.withBoard (onStore (caInit firmware.config firmware.crypto env) store.board).2)

/-- The user confirms unlocked, and nothing fails. -/
structure ProvisionsWell (env : Env) : Prop where
  unlocked : env.gestureState ≠ .locked
  regular : env.inRecovery = false
  confirmed : env.confirm = .ok
  derive : env.storageKeyDerive = .ok ()
  keygen : ∃ priv blob, env.keygen = .ok priv ∧ env.encryptBlob priv = .ok blob
  key : env.write (.slot caSlot .key) = .done
  record : env.write (.slot caSlot .metadata) = .done

/-- The CA can be provisioned and the session identity is stored. -/
structure Usable (firmware : Firmware) (store : Store) : Prop where
  mints : mayMint store.board.device = true
  provisions : ∀ env, ProvisionsWell env → ∀ data : Bytes, normalizeKeyType (data.headD 0) = keyTypeP256 →
    ∃ after, Dispatcher.serve firmware.config firmware.crypto env Command.provisionCa.code data store.board.device =
      (.ok (.reply ⟨.ok, slotData 0⟩), after) ∧ (after.fs.files (.slot caSlot .key)).isSome
  persists : ∀ publicKey env, Works publicKey firmware.crypto firmware.image.toBuild env →
    SessionSlot.WritesSucceed env →
    let slot := (SessionSlot.sessionSlotInit firmware.crypto.toWolfReader env firmware.image.toBuild
      ⟨store.board.device, store.board.slot⟩).2.slot
    slot.ephemeral = none ∧ (slot.files .cert).isSome ∧
      (store.board.slot.files .cert = none → Stored publicKey firmware.crypto slot)

/-- The file exists after the write. -/
def opensFile : WriteOutcome → Bool
  | .mkdirFailed _ => false
  | .openFailed _ => false
  | _ => true

/-- The key of slot 0 is there and cannot be removed. -/
def KeySurvives : Prop :=
  ((store.board.device.fs.files (.slot caSlot .key)).isSome ∨ opensFile (env.write (.slot caSlot .key)) = true) ∧
    (removals.unlink (.slot caSlot .key)).isSome

/-- The volume has this build's marker, or gets it. -/
def Marked : VolumeState → Prop
  | .valid => True
  | .mismatch => False
  | .unmarked => firmware.markerAdopt = true ∧ (boot.markerWrite = .done ∨ boot.markerWrite = .uncommitted)

/-- The boot finds or writes the marker, the old key is gone. -/
def Recoverable : Prop :=
  if Formats firmware boot then Marked firmware boot .unmarked
  else ¬ KeySurvives env removals store ∧
    Marked firmware boot (markerCheck firmware.part (markerRead boot.unreadable store.marker))

section Recovery

variable {firmware : Firmware} {env : SessionEnv} {removals : SweepEnv} {boot : MountEnv} {store : Store}

/-- The whole wipe, on the files of the device. -/
theorem secureWipe_device (same : removals.toFaults = env.toFaults) :
    storageSecureWipe env.toFaults store.board.device =
      ((secureWipe env removals store).1, (secureWipe env removals store).2.board.device) := by
  unfold storageSecureWipe secureWipe
  rw [Op.bind_apply, storageVolumeTrusted, Op.reads_apply]
  dsimp only
  split_ifs with foreign
  · simp [Op.bind_apply, Op.ensure, foreign]
  · have passed : (Op.ensure (decide (store.board.device.volume ≠ .mismatch) = true) .eperm : Op Device Errno Unit)
        store.board.device = (.ok (), store.board.device) := Op.ensure_eq_ok.mpr ⟨decide_eq_true foreign, rfl⟩
    rw [Op.bind_of_ok passed]
    simp only [wiped, sweep, overwriteSecrets, Store.withBoard, same]
    rfl

theorem writeFile_isSome (faults : Faults) (path : Path) (data : Bytes) (device : Device) :
    ((writeFile faults path data device).2.fs.files path).isSome ↔
      (device.fs.files path).isSome ∨ opensFile (faults.write path) = true := by
  rcases outcome : faults.write path with _ | error | error | (_ | kept) | _ <;>
    simp [writeFile, outcome, opensFile]

theorem wiped_key :
    ((wiped env removals store).board.device.fs.files (.slot caSlot .key)).isSome ↔ KeySurvives env removals store := by
  unfold KeySurvives
  rw [← writeFile_isSome env.toFaults (.slot caSlot .key) (List.replicate keyBlobLen 0xA5) store.board.device]
  have held (fs : Fs) : (((fs.removeIf fun path => (removals.unlink path).isNone).removeCertDirs
      removals.stuckDir).files (.slot caSlot .key)).isSome ↔
        (fs.files (.slot caSlot .key)).isSome ∧ (removals.unlink (.slot caSlot .key)).isSome := by
    rcases fault : removals.unlink (.slot caSlot .key) with _ | error <;>
      simp [Fs.removeIf, Fs.removeCertDirs, fault]
  exact held _

/-- Only a missing marker leaves the volume unmarked. -/
theorem markerCheck_unmarked {part : VolumeMarker.Partition} {unreadable : Bool} {marker : Option Bytes}
    (unmarked : markerCheck part (markerRead unreadable marker) = .unmarked) : marker = none := by
  rcases marker with _ | data
  · rfl
  · unfold markerRead at unmarked
    split_ifs at unmarked
    · cases unmarked
    · unfold markerCheck at unmarked
      dsimp only at unmarked
      split_ifs at unmarked

/-- Without the key, only the marker lets a volume mint. -/
theorem verifyVolume_mints (absent : store.board.device.fs.files (.slot caSlot .key) = none) :
    mayMint (verifyVolume firmware boot store).board.device = true ↔
      Marked firmware boot (markerCheck firmware.part (markerRead boot.unreadable store.marker)) := by
  rw [caSlot] at absent
  unfold verifyVolume storageVolumeVerify
  rcases found : markerCheck firmware.part (markerRead boot.unreadable store.marker)
  · simp [Marked, mayMint, Store.withBoard]
  · rcases written : boot.markerWrite with _ | error | error | (_ | kept) | _ <;>
      by_cases adopts : firmware.markerAdopt = true <;>
      simp [Marked, mayMint, Store.withBoard, adopts, written, storageVolumeMarkerWrite, markerCheck_unmarked found,
        SessionSlot.writeContent, absent]
  · simp [Marked, mayMint, Store.withBoard]

theorem reboot_device {caEnv : Env} {running : Store} (booted : reboot firmware boot caEnv store = (.ok (), running)) :
    running.board.device = (caInit firmware.config firmware.crypto caEnv (verifyVolume firmware boot
      (if Formats firmware boot then store.restarted.formatted else store.restarted)).board.device).2 := by
  unfold reboot at booted
  split at booted
  · cases booted
  · rename_i mounted done
    rw [storageInit_ok (by rw [done])] at done
    obtain ⟨_, rfl⟩ := Prod.mk.inj done
    obtain ⟨_, rfl⟩ := Prod.mk.inj booted
    rfl

/-- A boot keeps slot 0's key, unless it formats. -/
theorem reboot_key {caEnv : Env} {running : Store} (booted : reboot firmware boot caEnv store = (.ok (), running)) :
    running.board.device.fs.files (.slot caSlot .key) =
      if Formats firmware boot then none else store.board.device.fs.files (.slot caSlot .key) := by
  have kept : Op.Respects (SameOutside (· ≠ .slot caSlot .key)) (caInit firmware.config firmware.crypto caEnv) :=
    caInit_respects (writable_of_touched (by simp)) (setProvisioned_sameOutside _)
  rw [reboot_device booted, kept _ _ (fun different => different rfl)]
  split_ifs <;> rfl

/-- The gates let the command through on an unlocked device. -/
theorem dispatch_provisionCa {config : Config} {env : Env} {device : Device} (mints : mayMint device = true)
    (unlocked : env.gestureState ≠ .locked) (regular : env.inRecovery = false) :
    dispatch config env.gestureState (conditions env device) Command.provisionCa.code =
      .executed .provisionCa := by
  have trusted := SessionIdentity.trusted_of_mayMint mints
  have passed : gate config env.gestureState (conditions env device) Command.provisionCa.code =
      none := by
    rw [gate_eq_none_iff]
    have beside : ¬ (Command.signCsr.code ≤ Command.provisionCa.code ∧
        Command.provisionCa.code ≤ Command.pushCaCert.code) := by decide
    simp [identityGate, volumeGate, lockGate, provisionGate, mintGate,
      conditions, regular, trusted, unlocked, mints]
    exact fun above below => absurd ⟨above, below⟩ beside
  rw [dispatch, passed]
  rfl

theorem caProvision_makes {env : Env} {device : Device} {keyType : UInt8} (mints : mayMint device = true)
    (absent : device.fs.files (.slot caSlot .key) = none) (well : ProvisionsWell env)
    (known : normalizeKeyType keyType = keyTypeP256) :
    ∃ after, caProvision env keyType device = (.ok (), after) ∧ (after.fs.files (.slot caSlot .key)).isSome := by
  obtain ⟨priv, blob, keygen, sealing⟩ := well.keygen
  have passes {condition : Prop} [Decidable condition] {error : Errno} (holds : condition) :
      (Op.ensure condition error : Op Device Errno Unit) device = (.ok (), device) := Op.ensure_eq_ok.mpr ⟨holds, rfl⟩
  have vacant : storageSlotKeyExists caSlot device = (.ok false, device) := by
    simp [absent]
  have allowed : storageVolumeMayMint device = (.ok true, device) := by simp [storageVolumeMayMint, mints]
  have made (record : SlotMeta) : createKey env caSlot record device = (.ok (), { device with
      fs := (device.fs.put env.place (.slot caSlot .key) blob).put
        env.place (.slot caSlot .metadata) record.bytes }) := by
    simp [createKey, Op.bind_apply, well.derive, keygen, sealing, storageKeyWrite, metaWrite,
      storageSlotMetaWrite, writeFile_done well.key, writeFile_done well.record]
  let record := slotMetaOf (normalizeKeyType keyType) 1 1
  refine ⟨{ device with
    fs := (device.fs.put env.place (.slot caSlot .key) blob).put env.place (.slot caSlot .metadata) record.bytes
    provisioned := true }, ?_, ?_⟩
  · rw [caProvision, Op.bind_of_ok (passes known), Op.bind_of_ok vacant, Op.bind_of_ok (passes rfl),
      Op.bind_of_ok allowed, Op.bind_of_ok (passes rfl), Op.bind_of_ok (made _)]
    rfl
  · simp [Fs.put]

/-- A minting volume without a key can be used. -/
theorem usable_of_mints (mints : mayMint store.board.device = true)
    (absent : store.board.device.fs.files (.slot caSlot .key) = none) : Usable firmware store where
  mints := mints
  provisions env well data known := by
    have admitted : dispatch firmware.config env.gestureState (conditions env store.board.device)
        Command.provisionCa.code = .executed .provisionCa := dispatch_provisionCa mints well.unlocked well.regular
    obtain ⟨after, made, keyed⟩ := caProvision_makes mints absent well known
    refine ⟨after, ?_, keyed⟩
    have vacant : caProvisioned store.board.device = (.ok false, store.board.device) := by
      simp [caProvisioned, absent]
    rw [Dispatcher.serve, admitted]
    show handleProvisionCa env data store.board.device = _
    rw [handleProvisionCa, Op.bind_of_ok vacant, if_neg Bool.false_ne_true, Dispatcher.confirmed,
      if_pos well.confirmed, Op.bind_apply, Op.attempt_apply, made]
    rfl
  persists publicKey env works succeeds := by
    let machine : SessionSlot.Machine := ⟨store.board.device, store.board.slot⟩
    rcases named : machine.slot.files .cert with _ | cert
    · have stored := SessionIdentity.init_stores works succeeds mints named
      obtain ⟨_, _, _, _, _, _, _, _, held, _⟩ := stored.holds
      exact ⟨stored.durable, by rw [held]; rfl, fun _ => stored⟩
    · obtain ⟨files, durable⟩ := SessionIdentity.init_keeps firmware.crypto.toWolfReader env firmware.image.toBuild
        (SessionIdentity.trusted_of_mayMint mints) (Option.isSome_of_eq_some named)
      exact ⟨durable, by rw [files]; exact Option.isSome_of_eq_some named, fun gone => by cases gone⟩

/-- With a key in slot 0 the CA is provisioned already. -/
theorem Usable.absent (usable : Usable firmware store) : store.board.device.fs.files (.slot caSlot .key) = none := by
  by_contra present
  have well : ProvisionsWell confirmingEnv.toEnv :=
    ⟨by decide, rfl, rfl, rfl, ⟨_, _, rfl, rfl⟩, rfl, rfl⟩
  obtain ⟨after, answered, _⟩ := usable.provisions _ well [] rfl
  have taken : caProvisioned store.board.device = (.ok true, store.board.device) := by
    simp [caProvisioned, Option.isSome_iff_ne_none.mpr present]
  rw [Dispatcher.serve, dispatch_provisionCa usable.mints well.unlocked well.regular] at answered
  have refused : handleProvisionCa confirmingEnv.toEnv [] store.board.device = _ := Op.bind_of_ok taken
  cases refused.symm.trans answered

end Recovery

/-- Every removal works. -/
def plainRemovals : SweepEnv :=
  { Faults.none 0 with
    sessionUnlink := fun _ => none
    metadataUnlink := fun _ => none
    pskUnlink := fun _ => none
    stuckBond := fun _ => false
    unlockSeqUnlink := none
    unlockAttemptsUnlink := none }

/-- A provisioned device. -/
def provisionedStore (volume : VolumeState) (marker : Option Bytes) : Store :=
  ⟨HandleOne.boardOf { provisionedDevice with volume }, marker, none, none⟩

def markedStore : Store := provisionedStore .valid (some (VolumeMarker.markerFill plainPart).bytes)

/-- A provisioned volume without a marker. -/
def unmarkedStore : Store := provisionedStore .unmarked none

def resetUnmarked : Except Errno Unit × Store :=
  reboot plainFirmware plainMount confirmingEnv.toEnv
    (secureWipe confirmingEnv.toSessionEnv plainRemovals unmarkedStore).2

end Cantil.Appliance
