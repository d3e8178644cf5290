import Cantil.Proof.Minting

namespace Cantil.Ca
open Library

/-- Slot 0 has key and parameters, but no certificate. -/
def Repairs (crypto : Crypto) (env : Env) (device : Device) : Prop :=
  (storageKeyRead caSlot keyBlobMax device).1 ≠ .ok [] ∧ device.fs.files (.slot caSlot .cert) = none ∧
    (loadIssuerX509Params caSlot device).1.isOk = true ∧ (loadSlotPrivkey crypto env caSlot device).1.isOk = true

instance (crypto : Crypto) (env : Env) (device : Device) : Decidable (Repairs crypto env device) :=
  inferInstanceAs (Decidable (_ ∧ _ ∧ _ ∧ _))

/-- The flag of the CA is all that may differ. -/
structure SameVolumeFiles (before after : Device) : Prop where
  fs : after.fs = before.fs
  volume : after.volume = before.volume

instance : IsPreorder Device SameVolumeFiles where
  refl _ := ⟨rfl, rfl⟩
  trans _ _ _ first second := ⟨second.fs.trans first.fs, second.volume.trans first.volume⟩

section Repair

variable {config : Config} {crypto : Crypto} {env : Env} {device : Device}

theorem buildSelfSignedCert_sealed {slot : Slot} (params : X509Params)
    (closed : (loadSlotPrivkey crypto env slot device).1.isOk = false) :
    device = (buildSelfSignedCert config crypto env slot params device).2 := by
  refine Op.relates_ensure fun _ => Op.relates_reader fun privkey opened => ?_
  rw [opened] at closed
  cases closed

/-- A boot that has no certificate to repair changes no file. -/
theorem caInit_unrepaired (settled : ¬ Repairs crypto env device) :
    SameVolumeFiles device (caInit config crypto env device).2 := by
  refine caInit_related (fun _ => ⟨rfl, rfl⟩) fun params keyed vacant loaded => ?_
  have sealed : (loadSlotPrivkey crypto env caSlot { device with provisioned := true }).1.isOk = false := by
    by_contra opened
    rw [Bool.not_eq_false] at opened
    refine settled ⟨keyed, vacant, ?_, ?_⟩
    · have same : (loadIssuerX509Params caSlot { device with provisioned := true }).1 =
          (loadIssuerX509Params caSlot device).1 := loadIssuerX509Params_congr rfl
      rw [← same, loaded]
      rfl
    · have same : (loadSlotPrivkey crypto env caSlot { device with provisioned := true }).1 =
          (loadSlotPrivkey crypto env caSlot device).1 := loadSlotPrivkey_congr rfl
      rwa [← same]
  rw [← buildSelfSignedCert_sealed params sealed]
  exact refl _

end Repair

end Cantil.Ca

namespace Cantil.Appliance
open Library Ca Trace
open Gesture (seqHasInvalid)
open HandleOne (CommandEnv)
open VolumeMarker (markerCheck markerRead)

/-- The machine stores nothing for this closed sequence. -/
def StoresNothing (closed : Gesture.Machine) : Prop :=
  (closed.state = .locked →
    seqHasInvalid closed.digitBuf = false ∧ closed.digitBuf = closed.unlockSeq ∧ closed.failureCount = 0) ∧
  (closed.state = .changeSeqVerify → seqHasInvalid closed.digitBuf = true ∨ closed.digitBuf ≠ closed.newSeq)

instance (closed : Gesture.Machine) : Decidable (StoresNothing closed) := inferInstanceAs (Decidable (_ ∧ _))

/-- Nothing is formatted or repaired, and no tap is stored. -/
def LeavesFiles (firmware : Firmware) (system : System) : Event → Prop
  | .storageInit env => system.stage = .off → ¬ Formats firmware env
  | .caInit env => system.stage = .caInit → ¬ Repairs firmware.crypto env system.store.board.device
  | .taps _ event => system.mounted = true →
      ∀ closed ∈ GestureThreads.evaluated firmware.config system.taps event, StoresNothing closed
  | _ => True

instance (firmware : Firmware) (system : System) : (event : Event) → Decidable (LeavesFiles firmware system event)
  | .storageInit env => inferInstanceAs (Decidable (_ → ¬ Formats firmware env))
  | .caInit env => inferInstanceAs (Decidable (_ → ¬ Repairs firmware.crypto env _))
  | .taps _ _ => inferInstanceAs (Decidable (_ → ∀ closed ∈ _, StoresNothing closed))
  | .powerOff | .sessionSlotInit _ | .gestureInit _ | .pair _ _ | .request _ _ _ _ _ | .sweep _ => instDecidableTrue

/-- The volume is the same, file by file. -/
structure SameFiles (before after : Store) : Prop where
  fs : after.board.device.fs = before.board.device.fs
  session : after.board.slot.files = before.board.slot.files
  bonds : after.board.bonds = before.board.bonds
  marker : after.marker = before.marker
  unlockSeq : after.unlockSeq = before.unlockSeq
  unlockAttempts : after.unlockAttempts = before.unlockAttempts

theorem SameFiles.trans {first second third : Store} (earlier : SameFiles first second)
    (later : SameFiles second third) : SameFiles first third where
  fs := later.fs.trans earlier.fs
  session := later.session.trans earlier.session
  bonds := later.bonds.trans earlier.bonds
  marker := later.marker.trans earlier.marker
  unlockSeq := later.unlockSeq.trans earlier.unlockSeq
  unlockAttempts := later.unlockAttempts.trans earlier.unlockAttempts

theorem SameFiles.refl (store : Store) : SameFiles store store := ⟨rfl, rfl, rfl, rfl, rfl, rfl⟩

/-- A mounted device knows that the volume is foreign. -/
def Aware (system : System) : Prop :=
  match system.stage with
  | .off => True
  | .caInit | .sessionInit => system.store.board.device.volume = .mismatch
  | .gestureInit | .serving => system.mounted = true → system.store.board.device.volume = .mismatch
  | .wiping => False

/-- The files stay, and the board knows the volume. -/
structure Untouched (start : Store) (system : System) : Prop where
  files : SameFiles start system.store
  aware : Aware system

section Steps

variable {firmware : Firmware} {system : System} {start store : Store}

/-- A marker that contradicts the build does so at every boot. -/
theorem markerCheck_foreign {part : VolumeMarker.Partition} {marker : Option Bytes}
    (foreign : markerCheck part (markerRead false marker) = .mismatch) (unreadable : Bool) :
    markerCheck part (markerRead unreadable marker) = .mismatch := by
  rcases marker with _ | data
  · cases foreign
  · cases unreadable
    · exact foreign
    · rfl

theorem verifyVolume_foreign (env : MountEnv)
    (foreign : markerCheck firmware.part (markerRead false store.marker) = .mismatch) :
    SameFiles store (verifyVolume firmware env store) ∧
      (verifyVolume firmware env store).board.device.volume = .mismatch := by
  have found := markerCheck_foreign foreign env.unreadable
  unfold verifyVolume VolumeMarker.storageVolumeVerify
  simp only [found]
  exact ⟨⟨rfl, rfl, rfl, rfl, rfl, rfl⟩, rfl⟩

theorem deliverConfirm_persist (gesture : Gesture.Machine) (result : Gesture.ConfirmResult) (writes : TapWrites)
    (store : Store) : (Gesture.deliverConfirm gesture result).2.foldl (persist writes) store = store := by
  unfold Gesture.deliverConfirm
  split <;> rfl

/-- The gesture machine has nothing to store. -/
theorem processSequence_silent {config : Config} {now : Int} {closed : Gesture.Machine} (silent : StoresNothing closed)
    (writes : TapWrites) (store : Store) :
    (Gesture.processSequence config now closed).2.foldl (persist writes) store = store := by
  unfold Gesture.processSequence
  cases state : closed.state with
  | locked =>
    obtain ⟨valid, entered, clean⟩ := silent.1 state
    have unlocks : (!seqHasInvalid closed.digitBuf && decide (closed.digitBuf = closed.unlockSeq)) = true := by
      rw [valid, decide_eq_true entered]
      rfl
    have quiet : Gesture.noteUnlockSuccess closed = (closed, []) := by simp [Gesture.noteUnlockSuccess, clean]
    dsimp only
    rw [quiet]
    split_ifs <;> rfl
  | unlocked | changeSeqConfirm =>
    dsimp only
    split_ifs <;> rfl
  | changeSeqVerify =>
    dsimp only
    split_ifs with same
    · simp only [Bool.and_eq_true, Bool.not_eq_true', decide_eq_true_eq] at same
      rcases silent.2 state with invalid | other
      · rw [invalid] at same
        cases same.1
      · exact absurd same.2 other
    · rfl
    · rfl
  | awaitingConfirm | awaitingReset | awaitingPair =>
    dsimp only
    split_ifs <;> exact deliverConfirm_persist _ _ writes store
  | pairing => rfl

theorem tap_files {writes : TapWrites} {event : GestureThreads.Event}
    (leaves : LeavesFiles firmware system (.taps writes event)) :
    (tap firmware writes event system).store = system.store := by
  show List.foldl (persist writes) system.store
    (if system.mounted = true then tapEffects firmware.config system.taps event else []) = system.store
  split_ifs with mounted
  · cases event with
    | silenceTimeout =>
      unfold tapEffects
      dsimp only
      split
      · rename_i closed found
        exact processSequence_silent (leaves mounted closed found) writes system.store
      · rfl
    | _ => rfl
  · rfl

/-- A pairing on a foreign volume is for this session only. -/
theorem pair_foreign {env : Clients.PairEnv} {pub : Bytes} (foreign : system.store.board.device.volume = .mismatch) :
    pair firmware env pub system = system := by
  have unmintable : mayMint (Clients.BondStore.mk system.store.board.device system.store.board.bonds).device = false :=
    mayMint_mismatch foreign
  show system.onBoard (system.store.board.withBonds (Clients.pairingCheckAndBond firmware.crypto.toWolfReader
    firmware.config firmware.pairing firmware.depth { env with gesture := system.taps.gesture } pub
    ⟨system.store.board.device, system.store.board.bonds⟩).2) = system
  rw [← Clients.pairingCheckAndBond_unmintable firmware.depth unmintable]
  rfl

/-- Answered, or the updater is started. -/
theorem serve_stage {env : CommandEnv} {writes : TapWrites} {cmd seq : UInt32} {data : Bytes}
    (serving : system.stage = .serving) (foreign : system.store.board.device.volume = .mismatch) :
    (serve firmware env writes cmd seq data system).stage = .serving ∨
      (serve firmware env writes cmd seq data system).stage = .off := by
  have served := @serve_served firmware env writes cmd seq data system
  generalize (serve firmware env writes cmd seq data system).store.board = after at served
  generalize (serve firmware env writes cmd seq data system).stage = stage at served ⊢
  cases served with
  | idle _ stays => rwa [serving] at stays
  | reset _ _ trusted => exact absurd foreign trusted
  | command => exact .inl serving

theorem untouched_boot {env : MountEnv}
    (foreign : markerCheck firmware.part (markerRead false start.marker) = .mismatch)
    (keeps : ¬ Formats firmware env) (off : system.stage = .off) (files : SameFiles start system.store) :
    Untouched start (step firmware system (.storageInit env)) := by
  have restarted : SameFiles system.store system.store.restarted := ⟨rfl, rfl, rfl, rfl, rfl, rfl⟩
  have earlier := files.trans restarted
  simp only [step]
  rw [if_neg (not_not.mpr off)]
  split
  · rename_i store mounts
    rw [storageInit_ok (by rw [mounts]), if_neg keeps] at mounts
    obtain ⟨_, rfl⟩ := Prod.mk.inj mounts
    have found : markerCheck firmware.part (markerRead false system.store.restarted.marker) = .mismatch := by
      rwa [earlier.marker]
    obtain ⟨same, volume⟩ := verifyVolume_foreign env found
    exact ⟨earlier.trans same, volume⟩
  · rename_i error store fails
    have kept := storageInit_error (by rw [fails]) keeps
    rw [fails] at kept
    subst kept
    exact ⟨earlier, fun mounted => by cases mounted⟩

/-- One event. -/
theorem step_untouched {event : Event} (foreign : markerCheck firmware.part (markerRead false start.marker) = .mismatch)
    (leaves : LeavesFiles firmware system event) (untouched : Untouched start system) :
    Untouched start (step firmware system event) := by
  have aware := untouched.aware
  cases event with
  | powerOff => exact ⟨untouched.files, trivial⟩
  | storageInit env =>
    by_cases off : system.stage = .off
    · exact untouched_boot foreign (leaves off) off untouched.files
    · simp only [step]
      rw [if_pos off]
      exact untouched
  | caInit env =>
    simp only [step]
    split_ifs with stage
    · exact untouched
    · rw [not_not] at stage
      have settled : SameVolumeFiles system.store.board.device
          (Ca.caInit firmware.config firmware.crypto env system.store.board.device).2 :=
        caInit_unrepaired (leaves stage)
      rw [Aware, stage] at aware
      exact ⟨untouched.files.trans ⟨settled.fs, rfl, rfl, rfl, rfl, rfl⟩, settled.volume.trans aware⟩
  | sessionSlotInit env =>
    simp only [step]
    split_ifs with stage
    · exact untouched
    · rw [not_not] at stage
      rw [Aware, stage] at aware
      have settled : SessionSlot.SameStored ⟨system.store.board.device, system.store.board.slot⟩
          (SessionSlot.sessionSlotInit firmware.crypto.toWolfReader env firmware.image.toBuild
            ⟨system.store.board.device, system.store.board.slot⟩).2 :=
        SessionSlot.sessionSlotInit_unmintable (mayMint_mismatch aware)
      refine ⟨untouched.files.trans ⟨congrArg Device.fs settled.device, settled.files, rfl, rfl, rfl, rfl⟩, fun _ => ?_⟩
      exact (congrArg Device.volume settled.device).trans aware
  | gestureInit now =>
    simp only [step]
    by_cases stage : system.stage = .gestureInit
    · rw [if_neg (not_not.mpr stage)]
      rw [Aware, stage] at aware
      exact ⟨untouched.files, aware⟩
    · rw [if_pos stage]
      exact untouched
  | pair env pub =>
    simp only [step]
    split_ifs with serving
    · rw [Aware, serving.1] at aware
      rw [pair_foreign (aware serving.2)]
      exact untouched
    · exact untouched
  | request env writes cmd seq data =>
    simp only [step]
    split_ifs with serving
    · rw [Aware, serving.1] at aware
      have volume := aware serving.2
      have same : (serve firmware env writes cmd seq data system).store = system.store := serve_foreign volume
      refine ⟨same ▸ untouched.files, ?_⟩
      rcases serve_stage serving.1 volume with stage | stage
      · rw [Aware, stage, same]
        exact fun _ => volume
      · rw [Aware, stage]
        trivial
    · exact untouched
  | sweep env =>
    have calm : system.stage ≠ .wiping := by
      intro wiping
      rwa [Aware, wiping] at aware
    simp only [step]
    rw [if_pos calm]
    exact untouched
  | taps writes event =>
    simp only [step]
    split_ifs
    · exact untouched
    · split
      · exact untouched
      · have same := tap_files leaves
        refine ⟨same ▸ untouched.files, ?_⟩
        unfold Aware at aware ⊢
        rw [same]
        exact aware

end Steps

/-- A run that stores nothing leaves a foreign volume alone. -/
theorem foreign_volume_untouched (firmware : Firmware) (start : System) (events : List Event) (off : start.stage = .off)
    (foreign : markerCheck firmware.part (markerRead false start.store.marker) = .mismatch)
    (leaves : ∀ visit ∈ visits (step firmware) start events, LeavesFiles firmware visit.1 visit.2) :
    ∀ visit ∈ visits (step firmware) start events,
      SameFiles start.store visit.1.store ∧ SameFiles start.store (step firmware visit.1 visit.2).store := by
  intro visit visited
  have initial : Untouched start.store start := by
    refine ⟨SameFiles.refl _, ?_⟩
    rw [Aware, off]
    trivial
  obtain ⟨before, after, split, reached⟩ := (mem_visits_iff _ _ events visit.1 visit.2).mp visited
  have untouched : Untouched start.store visit.1 := by
    rw [reached]
    exact prefix_invariant (step firmware) (Untouched start.store) (fun _ => True) (LeavesFiles firmware)
      (fun _ _ _ => step_untouched foreign) (fun _ _ => trivial) leaves initial split
  exact ⟨untouched.files, (step_untouched foreign (leaves visit visited) untouched).files⟩

/-- Made by a build with a larger partition. -/
def foreignMarker : Bytes := (VolumeMarker.markerFill { plainPart with size := 0x20000 }).bytes

/-- A device that was provisioned by that build. -/
def foreignStart (fs : Fs) : System :=
  offSystem ⟨HandleOne.boardOf ⟨fs, .unmarked, false⟩, some foreignMarker, none, none⟩

def pairingEnv : Clients.PairEnv :=
  { confirmingEnv with
    pskWrite := .done
    certs := []
    draws := []
    received := .error .eio
    localPubkey := .error .eio
    hkdfSha256 := fun _ _ _ => .error .eio }

/-- A host pairs and tries to provision, and nobody taps. -/
def hosting : List Event :=
  booting ++ [.pair pairingEnv (List.replicate 32 9),
    .request confirmingEnv ⟨.done, .done⟩ Protocol.Command.provisionCa.code 1 [], .taps ⟨.done, .done⟩ .silenceTimeout]

theorem foreignStart_leaves :
    (∀ visit ∈ visits (step plainFirmware) (foreignStart Dispatcher.provisionedDevice.fs) hosting,
        LeavesFiles plainFirmware visit.1 visit.2) ∧
      markerCheck plainPart (markerRead false (some foreignMarker)) = .mismatch := by
  decide +kernel

/-- A host that only asks leaves a foreign volume alone. -/
theorem foreignStart_untouched :
    markerCheck plainPart (markerRead false (some foreignMarker)) = .mismatch ∧
      ∀ visit ∈ visits (step plainFirmware) (foreignStart Dispatcher.provisionedDevice.fs) hosting,
        SameFiles (foreignStart Dispatcher.provisionedDevice.fs).store visit.1.store ∧
          SameFiles (foreignStart Dispatcher.provisionedDevice.fs).store (step plainFirmware visit.1 visit.2).store :=
  ⟨foreignStart_leaves.2, foreign_volume_untouched plainFirmware _ hosting rfl foreignStart_leaves.2
    foreignStart_leaves.1⟩

/-- One wrong digit. -/
def wrongTap : List Event :=
  [GestureThreads.Event.tapGate .single, .tapEnter 0, .elapse 1500, .silenceTimeout, .elapse 1500,
    .silenceTimeout].map (.taps ⟨.done, .done⟩)

/-- The certificate of slot 0 got lost. -/
def uncertifiedFs : Fs := Dispatcher.provisionedDevice.fs.removeIf fun path => path = .slot 0 .cert

/-- A tap stores a count, and a boot repairs the certificate. -/
theorem foreignStart_written :
    markerCheck plainPart (markerRead false (some foreignMarker)) = .mismatch ∧
      ((foreignStart Dispatcher.provisionedDevice.fs).store.unlockAttempts = none ∧
        (run (step plainFirmware) (foreignStart Dispatcher.provisionedDevice.fs)
          (booting ++ wrongTap)).store.unlockAttempts = some [1, 0, 0, 0]) ∧
      (uncertifiedFs.files (.slot 0 .cert) = none ∧
        ((run (step plainFirmware) (foreignStart uncertifiedFs) booting).store.board.device.fs.files
          (.slot 0 .cert)).isSome) := by
  decide +kernel

end Cantil.Appliance
