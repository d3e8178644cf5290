import Cantil.Firmware.Effects
import Cantil.Firmware.PlainBackend

namespace Cantil.Dispatcher
open Library Ca

/-- Protected, with a certificate by the code's test. -/
def Locked (device : Device) (slot : Slot) : Prop := (protectedWithCert slot device).1 = .ok true

/-- The files of a slot that its protection keeps. -/
def keptFiles : List SlotFile := [.key, .cert, .x509Data, .chain]

/-- The owner unprotects the slot or resets the device. -/
def Releases (config : Config) (device : Device) (event : Event) (slot : Slot) : Prop :=
  ∃ env data, executes config device event = some (env, .resetDevice, data) ∨
    executes config device event = some (env, .unprotectSlot, data) ∧ slotArg data = slot

/-- A locked slot keeps its files unless released. -/
def KeepsLocked (config : Config) (crypto : Crypto) (device : Device) (event : Event) : Prop :=
  ∀ slot, Locked device slot → ¬ Releases config device event slot → ∀ file ∈ keptFiles,
    (step config crypto device event).fs.files (.slot slot file) = device.fs.files (.slot slot file)

/-- Commands without the test meet no locked slot. -/
def AvoidsLocked (config : Config) (crypto : Crypto) (device : Device) (event : Event) : Prop :=
  match executes config device event with
  | some (_, .pushCaCert, _) => ¬ Locked device caSlot
  | some (env, .signKeySlot, data) =>
    8 ≤ data.length →
    (prepareKeyIssue config crypto env (slotArg data) (slotArg (data.drop 4)) device).1.isOk →
    ¬ Locked device (slotArg (data.drop 4))
  | some (_, .provisionCa, _) => device.fs.files (.slot caSlot .key) = none → ¬ Locked device caSlot
  | some (_, .genKey, _) =>
    ∀ slot, (firstFreeSlot (keySlots config) device).1 = .ok slot → ¬ Locked device slot
  | _ => True

/-- The test reads the metadata and looks for the certificate. -/
theorem locked_iff (device : Device) (slot : Slot) :
    Locked device slot ↔
      (∃ record, (metaRead slot device).1 = .ok record ∧ record.isProtected ≠ 0) ∧
        (device.fs.files (.slot slot .cert)).isSome := by
  rcases outcome : metaRead slot device with ⟨error | record, after⟩
  · simp [Locked, protectedWithCert, Op.bind_apply, outcome]
  · obtain rfl := Op.read_state outcome
    simp [Locked, protectedWithCert, Op.bind_apply, outcome, storageSlotCertExists, fileExists]

section Tests

variable {config : Config} {crypto : Crypto} {env : Env} {device : Device} {slot : Slot}

variable (locked : Locked device slot)

include locked

/-- The test of a locked slot stops the operation. -/
theorem Locked.stops {error : Errno} {rest : Unit → Op Device Errno Unit} :
    ((protectedWithCert slot >>= fun found => Op.ensure (found = false) error >>= rest) device).2 =
      device := by
  rcases outcome : protectedWithCert slot device with ⟨answer, after⟩
  obtain rfl := Op.read_state outcome
  have found : answer = .ok true := by
    rw [Locked, outcome] at locked
    exact locked
  subst found
  rw [Op.bind_of_ok outcome]
  rfl

theorem Locked.pushKeyX509 (data : Bytes) :
    (caPushKeyX509 config crypto env slot data device).2 = device := by
  apply Eq.symm
  refine Op.relates_ensure fun _ => ?_
  exact locked.stops.symm

theorem Locked.pushKeyCert (cert chain : Bytes) :
    (caPushKeyCert config crypto env slot cert chain device).2 = device := by
  apply Eq.symm
  refine Op.relates_ensure fun _ => Op.relates_ensure fun _ => ?_
  refine Op.relates_reader fun _ _ => Op.relates_ensure fun _ => ?_
  exact locked.stops.symm

theorem Locked.deleteKey : (caDeleteKey config env slot device).2 = device := by
  obtain ⟨⟨record, read, isProtected⟩, _⟩ := (locked_iff device slot).mp locked
  apply Eq.symm
  refine Op.relates_ensure fun _ => Op.relates_ensure fun _ => ?_
  refine Op.relates_reader fun _ _ => Op.relates_ensure fun _ => ?_
  refine Op.relates_reader fun outcome reached => ?_
  obtain rfl : outcome = .ok record := (Except.ok.inj reached).symm.trans read
  exact Op.relates_ensure fun free => absurd free isProtected

/-- A boot leaves the files of a locked slot. -/
theorem Locked.boot (volume : VolumeState) (file : SlotFile) :
    (boot config crypto env volume device).2.fs.files (.slot slot file) =
      device.fs.files (.slot slot file) := by
  obtain ⟨_, present⟩ := (locked_iff device slot).mp locked
  by_cases root : slot = caSlot
  · subst root
    exact congrFun (congrArg Fs.files (caInit_of_cert { device with provisioned := false, volume } present)) _
  · have elsewhere : Path.slot slot file ≠ .slot caSlot .cert := by
      intro same
      injection same with number
      exact root number
    have written : Op.Respects (SameOutside (· = .slot caSlot .cert)) (caInit config crypto env) :=
      caInit_respects (writable_of_touched rfl) (setProvisioned_sameOutside _)
    exact written _ _ elsewhere

end Tests

/-- The path is none of the kept files of the slot. -/
def Loose (slot : Slot) (path : Path) : Prop := ∀ file ∈ keptFiles, path ≠ .slot slot file

section Paths

variable {slot : Slot} {faults : Faults}

theorem loose_issued (name : Bytes) (file : IssuedFile) :
    Writable (SameOutside (Loose slot)) faults (.issued name file) :=
  writable_of_touched fun _ _ same => by cases same

theorem loose_file (other : Slot) {file : SlotFile} (free : file ∉ keptFiles) :
    Writable (SameOutside (Loose slot)) faults (.slot other file) := by
  refine writable_of_touched fun kept inside same => ?_
  injection same with _ sameFile
  exact free (sameFile ▸ inside)

theorem loosePath_slot {other : Slot} (different : other ≠ slot) (file : SlotFile) :
    Loose slot (.slot other file) := by
  intro kept _ same
  injection same with sameSlot
  exact different sameSlot

theorem loose_slot {other : Slot} (different : other ≠ slot) (file : SlotFile) :
    Writable (SameOutside (Loose slot)) faults (.slot other file) :=
  writable_of_touched (loosePath_slot different file)

theorem loose_remarks {env : Env} (bits : UInt8) :
    Remarks (SameOutside (Loose slot)) env.toFaults bits :=
  remarks_of_writable (fun name => loose_issued name .metadata) bits

end Paths

/-- A command changes no file of the slots it avoids. -/
theorem Effect.keepsLocked {config : Config} {crypto : Crypto} {env : Env} {data : Bytes}
    {device after : Device} {command : Protocol.Command} {event : Event} {slot : Slot}
    (effect : Effect config crypto env data device command after)
    (runs : executes config device event = some (env, command, data))
    (avoids : AvoidsLocked config crypto device event) (locked : Locked device slot)
    (unreleased : ¬ Releases config device event slot) : SameOutside (Loose slot) device after := by
  rw [AvoidsLocked, runs] at avoids
  have other {number : Slot} (blocked : ¬ Locked device number) : number ≠ slot := by
    rintro rfl
    exact blocked locked
  cases effect with
  | refused => exact refl device
  | signCsr | signCsrSlot => exact caSignCsrSlot_respects loose_issued _ _ device
  | signKeySlot long =>
    refine Op.relates_reader fun issue prepared => ?_
    have different := other (avoids long (by rw [prepared]; rfl))
    exact (((loose_slot different _).write _).bind fun _ =>
      (storageSlotChainDelete_respects (loose_slot different _)).attempt.bind fun _ =>
      persistIssue_respects (loose_issued _)) device
  | pushCaCert =>
    exact caPushCert_respects (loose_slot (other avoids) _) (loose_slot (other avoids) _) _ _ device
  | autoExpire => exact caAutoExpire_respects (loose_remarks _) _ device
  | revokeCert serial nowUnix =>
    exact caRevokeCert_respects (loose_issued _ _) (fun number => loose_file number (by decide)) _ device
  | genKey =>
    refine caGenKey_related fun free found _ => ?_
    have different := other (avoids free found)
    exact createKey_respects (loose_slot different _) (loose_slot different _) _ device
  | protectSlot =>
    exact caProtectSlot_respects (loose_file _ (by decide)) (loose_remarks _) _ device
  | unprotectSlot => exact caUnprotectSlot_respects (loose_file _ (by decide)) device
  | deleteKey =>
    by_cases same : slotArg data = slot
    · subst same
      rw [locked.deleteKey]
      exact refl device
    · exact caDeleteKey_respects (storageSlotDelete_respects (loosePath_slot same)) device
  | genKeyCsr => exact caGenKeyCsr_respects (loose_file _ (by decide)) _ device
  | pushKeyCert cert chain =>
    by_cases same : slotArg data = slot
    · subst same
      rw [locked.pushKeyCert]
      exact refl device
    · exact caPushKeyCert_respects (loose_slot same _) (loose_slot same _) _ _ device
  | pushKeyX509 =>
    by_cases same : slotArg data = slot
    · subst same
      rw [locked.pushKeyX509]
      exact refl device
    · exact caPushKeyX509_respects (loose_slot same _) (loose_slot same _) (loose_slot same _) _ device
  | provisionCa =>
    refine caProvision_related (setProvisioned_sameOutside _) fun absent _ => ?_
    have different := other (avoids absent)
    exact createKey_respects (loose_slot different _) (loose_slot different _) _ device
  | resetDevice wiped done => exact absurd ⟨env, data, .inl runs⟩ unreleased
  | elsewhere _ bonds => exact withClients_sameOutside (fun _ _ _ _ same => by cases same) device bonds

/-- A step that avoids locked slots keeps their files. -/
theorem AvoidsLocked.keepsLocked {config : Config} {crypto : Crypto} {device : Device} {event : Event}
    (avoids : AvoidsLocked config crypto device event) : KeepsLocked config crypto device event := by
  intro slot locked unreleased file kept
  rcases step_cases config crypto device event with same | ⟨env, command, data, runs, effect⟩ |
    ⟨env, volume, rfl, booted⟩
  · rw [same]
  · refine effect.keepsLocked runs avoids locked unreleased _ fun loose => ?_
    exact loose file kept rfl
  · exact locked.boot volume file

/-- Events that avoid locked slots never change one. -/
theorem run_keepsLocked (config : Config) (crypto : Crypto) (start : Device) (events : List Event)
    (avoids : ∀ visit ∈ Trace.visits (step config crypto) start events,
      AvoidsLocked config crypto visit.1 visit.2) :
    ∀ visit ∈ Trace.visits (step config crypto) start events,
      KeepsLocked config crypto visit.1 visit.2 :=
  fun visit visited => (avoids visit visited).keepsLocked

/-- Slot 0 is protected and holds its certificate. -/
theorem provisionedDevice_state :
    (protectedWithCert caSlot provisionedDevice).1 = .ok true ∧
      ∀ command ∈ [Protocol.Command.pushKeyX509, .pushCaCert],
        Protocol.dispatch .default (plainEnv 3).gestureState (conditions (plainEnv 3) provisionedDevice) command.code =
          .executed command := by
  decide +kernel

theorem provisionedDevice_locked : Locked provisionedDevice caSlot := provisionedDevice_state.1

/-- Parameters pushed again keep the root's certificate. -/
theorem provisionedDevice_keepsLocked :
    Locked provisionedDevice caSlot ∧
      ∀ visit ∈ Trace.visits (step .default plainCrypto) provisionedDevice
        [request 3 .pushKeyX509 ([0, 0, 0, 0] ++ plainParams)],
        KeepsLocked .default plainCrypto visit.1 visit.2 := by
  refine ⟨provisionedDevice_locked, run_keepsLocked .default plainCrypto _ _ ?_⟩
  intro visit visited
  have runs : executes .default provisionedDevice (request 3 .pushKeyX509 ([0, 0, 0, 0] ++ plainParams)) =
      some (plainEnv 3, .pushKeyX509, [0, 0, 0, 0] ++ plainParams) :=
    (executes_request _ _ _ _).mpr ⟨provisionedDevice_state.2 .pushKeyX509 (by decide), rfl⟩
  obtain rfl := List.mem_singleton.mp visited
  simp only [AvoidsLocked, runs]

/-- Slot 0's certificate is replaced despite protection. -/
theorem pushCaCert_changes_locked :
    ¬ ∀ visit ∈ Trace.visits (step .default plainCrypto) blankDevice
        (provisioning ++ [request 3 .pushCaCert [1, 2, 3]]),
      KeepsLocked .default plainCrypto visit.1 visit.2 := by
  intro kept
  have last : (provisionedDevice, request 3 .pushCaCert [1, 2, 3]) ∈
      Trace.visits (step .default plainCrypto) blankDevice
        (provisioning ++ [request 3 .pushCaCert [1, 2, 3]]) :=
    (Trace.mem_visits_iff _ _ _ _ _).mpr ⟨provisioning, [], rfl, rfl⟩
  have runs : executes .default provisionedDevice (request 3 .pushCaCert [1, 2, 3]) =
      some (plainEnv 3, .pushCaCert, [1, 2, 3]) :=
    (executes_request _ _ _ _).mpr ⟨provisionedDevice_state.2 .pushCaCert (by decide), rfl⟩
  have unreleased : ¬ Releases .default provisionedDevice (request 3 .pushCaCert [1, 2, 3]) caSlot := by
    simp [Releases, runs]
  have unchanged := kept _ last caSlot provisionedDevice_locked unreleased .cert (by decide)
  revert unchanged
  decide +kernel

end Cantil.Dispatcher
