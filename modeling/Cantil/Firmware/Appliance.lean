import Cantil.Firmware.BoardFrames
import Cantil.Firmware.Bonding
import Cantil.Firmware.GestureThreads
import Cantil.Firmware.VolumeMarker

namespace Cantil.Appliance
open Library Ca HandleOne
open HandleOne (Board CommandEnv)
open SessionSlot (writeContent)
open VolumeMarker (storageVolumeVerify storageVolumeMarkerWrite)

/-- What is fixed when the image is built and the board is made. -/
structure Firmware where
  config : Config
  crypto : Crypto
  image : Image
  pairing : Clients.PairingBuild
  part : VolumeMarker.Partition
  /-- An unmarked volume gets a marker. -/
  markerAdopt : Bool
  /-- A volume that cannot be mounted is formatted. -/
  mayFormat : Bool
  /-- The nesting that the stack of the decoder holds. -/
  depth : Nat

/-- The files of the volume, and what is remembered of them. -/
structure Store where
  board : Board
  marker : Option Bytes
  unlockSeq : Option Bytes
  unlockAttempts : Option Bytes

variable (firmware : Firmware) (config : Config) (env : CommandEnv) (store : Store)

def Store.withBoard (board : Board) : Store := { store with board }

/-! The mount. -/

/-- What the medium does while the volume is mounted. -/
structure MountEnv where
  mount : Option Errno
  /-- Only a volume that is mounted already is busy. -/
  notBusy : mount ≠ some .ebusy
  /-- The backend has formatted the volume on its way to mount it. -/
  formatted : Bool
  mkfs : Option Errno
  remount : Option Errno
  unreadable : Bool
  markerWrite : WriteOutcome

/-- A format leaves no file. -/
def Store.formatted : Store where
  board := ⟨{ store.board.device with fs := .empty }, { store.board.slot with files := fun _ => none },
    ⟨[], fun _ => none, fun _ => none⟩⟩
  marker := none
  unlockSeq := none
  unlockAttempts := none

/-- A start forgets what was in RAM. -/
def Store.restarted : Store :=
  store.withBoard { store.board with
    device := { store.board.device with volume := .unmarked, provisioned := false }
    slot := { store.board.slot with ephemeral := none, inRecovery := false } }

/-- These errors of a mount are no reason to format. -/
def configurationErrors : List Errno := [.enodev, .einval, .enotsup, .enoent]

/-- A build for it marks the volume that has no marker. -/
def verifyVolume (env : MountEnv) (store : Store) : Store :=
  let verified := storageVolumeVerify firmware.part env.unreadable ⟨store.board.device.volume, store.marker⟩
  let settled := if verified.state = .unmarked ∧ firmware.markerAdopt then
      (storageVolumeMarkerWrite firmware.part env.markerWrite verified).2
    else verified
  { store.withBoard { store.board with device := { store.board.device with volume := settled.state } } with
    marker := settled.marker }

/-- A volume that is mounted already is left alone. -/
def storageInit (env : MountEnv) (mounted : Bool) : Op Store Errno Unit := fun store =>
  if mounted then (.ok (), store)
  else
    match env.mount with
    | none =>
      let found := if firmware.mayFormat ∧ env.formatted then store.formatted else store
      (.ok (), verifyVolume firmware env found)
    | some error =>
      if error ∈ configurationErrors ∨ firmware.mayFormat = false then (.error error, store)
      else
        match env.mkfs, env.remount with
        | some error, _ => (.error error, store.formatted)
        | none, some error => (.error error, store.formatted)
        | none, none => (.ok (), verifyVolume firmware env store.formatted)

/-- The mount formats the volume. -/
def Formats (env : MountEnv) : Prop :=
  firmware.mayFormat = true ∧ (env.mount = none → env.formatted = true) ∧
    ∀ error ∈ env.mount, error ∉ configurationErrors

instance (firmware : Firmware) (env : MountEnv) : Decidable (Formats firmware env) :=
  inferInstanceAs (Decidable (_ ∧ _ ∧ _))

/-- A mount that works checks the volume, which may be a new one. -/
theorem storageInit_ok {firmware : Firmware} {env : MountEnv} {store : Store}
    (mounts : (storageInit firmware env false store).1 = .ok ()) :
    storageInit firmware env false store =
      (.ok (), verifyVolume firmware env (if Formats firmware env then store.formatted else store)) := by
  unfold storageInit at mounts ⊢
  rcases mount : env.mount with _ | error
  · simp [Formats, mount]
  · rw [mount] at mounts
    dsimp only at mounts ⊢
    by_cases refused : error ∈ configurationErrors ∨ firmware.mayFormat = false
    · rw [if_pos refused] at mounts
      cases mounts
    · rw [if_neg refused] at mounts ⊢
      rw [not_or] at refused
      rcases mkfs : env.mkfs with _ | failed
      · rcases remount : env.remount with _ | failed
        · simp [Formats, mount, refused.1, refused.2]
        · simp [mkfs, remount] at mounts
      · simp [mkfs] at mounts

/-- A failed mount leaves the volume or has formatted it. -/
theorem storageInit_error {firmware : Firmware} {env : MountEnv} {store : Store} {error : Errno}
    (fails : (storageInit firmware env false store).1 = .error error) (keeps : ¬ Formats firmware env) :
    (storageInit firmware env false store).2 = store := by
  unfold storageInit at fails ⊢
  rw [if_neg Bool.false_ne_true] at fails ⊢
  rcases mount : env.mount with _ | reported
  · rw [mount] at fails
    cases fails
  · dsimp only
    split_ifs with refused
    · rfl
    · rw [not_or, Bool.not_eq_false] at refused
      exact absurd ⟨refused.2, by simp [mount], by simp [mount, refused.1]⟩ keeps

/-! The wipe, cut where its removals begin. -/

def overwriteSecrets (env : SessionEnv) (store : Store) : Store :=
  let garbage := List.replicate keyBlobLen 0xA5
  let files := store.board.slot.files
  let overwritten (file : SessionFile) : Option Bytes := (writeContent (env.sessionWrite file) (files file) garbage).2
  store.withBoard { store.board with
    device := (writeFile env.toFaults (.slot 0 .key) garbage store.board.device).2
    slot := { store.board.slot with
      files := Function.update (Function.update files .key (overwritten .key)) .idKey (overwritten .idKey) } }

/-- What the medium does to the removals of a wipe. -/
structure SweepEnv extends Faults where
  sessionUnlink : SessionFile → Option Errno
  metadataUnlink : Bytes → Option Errno
  pskUnlink : Bytes → Option Errno
  stuckBond : Bytes → Bool
  unlockSeqUnlink : Option Errno
  unlockAttemptsUnlink : Option Errno

/-- The file goes unless its removal fails. -/
def swept (fault : Option Errno) (content : Option Bytes) : Option Bytes := if fault.isNone then none else content

/-- A bond's directory stays when stuck or not empty. -/
def sweepBonds (env : SweepEnv) (fs : Fs) (bonds : Clients.Bonds) : Clients.Bonds :=
  let metadata (id : Bytes) : Option Bytes := swept (env.metadataUnlink id) (bonds.metadata id)
  let psk (id : Bytes) : Option Bytes := swept (env.pskUnlink id) (bonds.psk id)
  let holds (id : Bytes) : Bool :=
    (fs.files (.client id .pubkey)).isSome || (metadata id).isSome || (psk id).isSome
  ⟨bonds.dirs.filter fun name => env.stuckBond name || (hexBytes name).any holds, metadata, psk⟩

/-- The marker stays. -/
def sweep (env : SweepEnv) (store : Store) : Store :=
  let emptied := store.board.device.fs.removeIf fun path => (env.unlink path).isNone
  let fs := emptied.removeCertDirs env.stuckDir
  { store.withBoard {
      device := { store.board.device with fs }
      slot := { store.board.slot with
        files := fun file => swept (env.sessionUnlink file) (store.board.slot.files file) }
      bonds := sweepBonds env fs store.board.bonds } with
    unlockSeq := swept env.unlockSeqUnlink store.unlockSeq
    unlockAttempts := swept env.unlockAttemptsUnlink store.unlockAttempts }

/-! What the gesture machine stores. -/

structure TapWrites where
  unlockSeq : WriteOutcome
  unlockAttempts : WriteOutcome

def storageUnlockSeqWrite (outcome : WriteOutcome) (sequence : Bytes) (store : Store) : Store :=
  { store with unlockSeq := (writeContent outcome store.unlockSeq sequence).2 }

def storageUnlockAttemptsWrite (outcome : WriteOutcome) (count : UInt32) (store : Store) : Store :=
  { store with unlockAttempts := (writeContent outcome store.unlockAttempts (littleEndian 4 count.toNat)).2 }

def persist (writes : TapWrites) (store : Store) : Gesture.Effect → Store
  | .unlockAttemptsWrite count => storageUnlockAttemptsWrite writes.unlockAttempts count store
  | .unlockSeqWrite sequence => storageUnlockSeqWrite writes.unlockSeq sequence store
  | .deliver _ _ => store

def storageUnlockSeqRead : Option (List UInt8) := store.unlockSeq.map (List.take Gesture.seqMaxLen)

def storageUnlockAttemptsRead : Option UInt32 :=
  match store.unlockAttempts with
  | none => none
  | some data =>
    if (data.take 4).length = 4 then some (UInt32.ofNat (littleEndianValue (data.take 4))) else none

/-- Only the silence timer stores anything. -/
def tapEffects (taps : GestureThreads.System) : GestureThreads.Event → List Gesture.Effect
  | .silenceTimeout =>
    match GestureThreads.evaluated config taps .silenceTimeout with
    | some closed => (Gesture.processSequence config taps.uptime closed).2
    | none => []
  | _ => []

/-! The whole device. -/

/-- What `main` does next. -/
inductive Stage where
  | off
  | caInit
  | sessionInit
  | gestureInit
  | serving
  /-- The keys are overwritten, and the files go next. -/
  | wiping
  deriving DecidableEq, Repr

/-- Without a mount no call reaches the volume. -/
structure System where
  stage : Stage
  mounted : Bool
  store : Store
  taps : GestureThreads.System

variable (system : System)

inductive Event where
  | powerOff
  | storageInit (env : MountEnv)
  | caInit (env : Env)
  | sessionSlotInit (env : SessionEnv)
  | gestureInit (now : Nat)
  | pair (env : Clients.PairEnv) (pub : Bytes)
  | request (env : CommandEnv) (writes : TapWrites) (cmd seq : UInt32) (data : Bytes)
  | sweep (env : SweepEnv)
  | taps (writes : TapWrites) (event : GestureThreads.Event)

def System.withStore : System := { system with store }

def System.onBoard (board : Board) : System := system.withStore (system.store.withBoard board)

/-- The handlers read the gesture machine as it is. -/
def commandEnv : CommandEnv :=
  { env with gesture := system.taps.gesture, uptime := system.taps.uptime }

/-- A reset prompt is answered with the unlock sequence. -/
def resetConfirmed : Bool :=
  (Gesture.gestureRequestReset config (.request 0) (env.machine config)).1.isOk && env.tapped = .ok

/-- The wipe refuses a volume that is not this device's. -/
def beginReset : System :=
  if resetConfirmed config env = true ∧ system.store.board.device.volume ≠ .mismatch then
    { system.withStore (overwriteSecrets env.toSessionEnv system.store) with stage := .wiping }
  else system

/-- The length is cut to one byte. -/
def setUnlockSeq (writes : TapWrites) (data : Bytes) (system : System) : System :=
  if data.length = 0 then system
  else
    let sequence := data.take (data.length % 256)
    let persisted := (writeContent writes.unlockSeq system.store.unlockSeq sequence).1.isOk
    let effects := (Gesture.gestureSetUnlockSeq config sequence persisted system.taps.gesture).2.2
    { system.withStore (effects.foldl (persist writes) system.store) with
      taps := GestureThreads.step config system.taps (.setUnlockSeq sequence persisted) }

/-- The verdict of the gates on a request. -/
def verdict (cmd : UInt32) (system : System) : Protocol.Dispatch :=
  let seen := (commandEnv env system).seen firmware.config system.store.board.slot
  Protocol.dispatch firmware.config seen.gestureState
    (Dispatcher.conditions seen.toEnv system.store.board.device) cmd

/-- The dispatcher first reads the gesture state, which may lock. -/
def serve (writes : TapWrites) (cmd seq : UInt32) (data : Bytes) (system : System) : System :=
  let now := commandEnv env system
  let seen := now.seen firmware.config system.store.board.slot
  let polled := { system with taps := GestureThreads.step firmware.config system.taps .getState }
  match verdict firmware env cmd system with
  | .refused _ => polled
  | .unknown => polled
  | .executed .resetDevice => beginReset firmware.config now polled
  | .executed .setUnlockSeq => setUnlockSeq firmware.config writes data polled
  | .executed .updateFirmware => { polled with stage := .off, mounted := false }
  | .executed command =>
    polled.onBoard (handleCommand firmware.config firmware.crypto firmware.image now seen seq data command
      system.store.board).2

def pair (env : Clients.PairEnv) (pub : Bytes) (system : System) : System :=
  let board := system.store.board
  let (_, store) := Clients.pairingCheckAndBond firmware.crypto.toWolfReader firmware.config firmware.pairing
    firmware.depth { env with gesture := system.taps.gesture } pub ⟨board.device, board.bonds⟩
  system.onBoard { board with device := store.device, bonds := store.bonds }

/-- One section of the gesture machine. -/
def tap (writes : TapWrites) (event : GestureThreads.Event) (system : System) : System :=
  let effects := if system.mounted then tapEffects firmware.config system.taps event else []
  { system.withStore (effects.foldl (persist writes) system.store) with
    taps := GestureThreads.step firmware.config system.taps event }

/-- Without a mount `main` goes on to the gesture machine. -/
def step : Event → System
  | .powerOff => { system with stage := .off, mounted := false }
  | .storageInit env =>
    if system.stage ≠ .off then system
    else
      match storageInit firmware env false system.store.restarted with
      | (.ok (), store) => { system.withStore store with stage := .caInit, mounted := true }
      | (.error _, store) => { system.withStore store with stage := .gestureInit, mounted := false }
  | .caInit env =>
    if system.stage ≠ .caInit then system
    else { system.onBoard (onStore (Ca.caInit firmware.config firmware.crypto env) system.store.board).2 with
      stage := .sessionInit }
  | .sessionSlotInit env =>
    if system.stage ≠ .sessionInit then system
    else { system.onBoard (onMachine (SessionSlot.sessionSlotInit firmware.crypto.toWolfReader env
        firmware.image.toBuild) system.store.board).2 with
      stage := .gestureInit }
  | .gestureInit now =>
    if system.stage ≠ .gestureInit then system
    else
      let stored := if system.mounted then storageUnlockSeqRead system.store else none
      let attempts := if system.mounted then storageUnlockAttemptsRead system.store else none
      { system with stage := .serving, taps := GestureThreads.boot firmware.config now stored attempts }
  | .pair env pub =>
    if system.stage = .serving ∧ system.mounted = true then pair firmware env pub system else system
  | .request env writes cmd seq data =>
    if system.stage = .serving ∧ system.mounted = true then serve firmware env writes cmd seq data system else system
  | .sweep env =>
    if system.stage ≠ .wiping then system
    else { system.withStore (sweep env system.store) with stage := .off, mounted := false }
  | .taps writes event =>
    if system.stage ≠ .serving ∧ system.stage ≠ .wiping then system
    else
      match event with
      -- Only the command of that name sets the sequence this way.
      | .setUnlockSeq _ _ => system
      | event => tap firmware writes event system

/-! What each event can do to the files. -/

section Frames

variable {firmware : Firmware} {env : CommandEnv} {writes : TapWrites} {cmd seq : UInt32} {data : Bytes}
variable {system : System}

/-- The gesture machine has two files of its own. -/
theorem persist_board (writes : TapWrites) (effects : List Gesture.Effect) (store : Store) :
    (effects.foldl (persist writes) store).board = store.board := by
  induction effects generalizing store with
  | nil => rfl
  | cons effect rest ih =>
    rw [List.foldl_cons, ih]
    cases effect <;> rfl

theorem setUnlockSeq_board (writes : TapWrites) (data : Bytes) (system : System) :
    (setUnlockSeq config writes data system).store.board = system.store.board := by
  unfold setUnlockSeq
  split_ifs
  · rfl
  · exact persist_board writes _ _

theorem setUnlockSeq_stage (writes : TapWrites) (data : Bytes) (system : System) :
    (setUnlockSeq config writes data system).stage = system.stage := by
  unfold setUnlockSeq
  split_ifs <;> rfl

theorem tap_board (event : GestureThreads.Event) (system : System) :
    (tap firmware writes event system).store.board = system.store.board := persist_board writes _ _

/-- What a request can do to the board, and where it leaves `main`. -/
inductive Served (firmware : Firmware) (env : CommandEnv) (cmd seq : UInt32) (data : Bytes) (system : System) :
    Board → Stage → Prop
  | idle (stage : Stage) (stays : stage = system.stage ∨ stage = .off) :
      Served firmware env cmd seq data system system.store.board stage
  | reset (runs : verdict firmware env cmd system = .executed .resetDevice)
      (confirmed : resetConfirmed firmware.config (commandEnv env system) = true)
      (trusted : system.store.board.device.volume ≠ .mismatch) :
      Served firmware env cmd seq data system (overwriteSecrets env.toSessionEnv system.store).board .wiping
  | command (command : Protocol.Command) (runs : verdict firmware env cmd system = .executed command)
      (stays : command ≠ .resetDevice) :
      Served firmware env cmd seq data system
        (handleCommand firmware.config firmware.crypto firmware.image (commandEnv env system)
          ((commandEnv env system).seen firmware.config system.store.board.slot) seq data command
          system.store.board).2 system.stage

theorem serve_served :
    Served firmware env cmd seq data system (serve firmware env writes cmd seq data system).store.board
      (serve firmware env writes cmd seq data system).stage := by
  unfold serve
  dsimp only
  split
  · exact .idle _ (.inl rfl)
  · exact .idle _ (.inl rfl)
  · rename_i runs
    unfold beginReset
    split_ifs with resets
    · exact .reset runs resets.1 resets.2
    · exact .idle _ (.inl rfl)
  · rw [setUnlockSeq_board, setUnlockSeq_stage]
    exact .idle _ (.inl rfl)
  · exact .idle _ (.inr rfl)
  · rename_i command stays _ _ runs
    exact .command command runs stays

/-- On a foreign volume only two commands run. -/
theorem verdict_foreign {command : Protocol.Command} (foreign : system.store.board.device.volume = .mismatch)
    (runs : verdict firmware env cmd system = .executed command) :
    command = .deviceStatus ∨ command = .updateFirmware := by
  have passed := (Protocol.gate_eq_none_iff.mp (Protocol.dispatch_eq_executed runs).1).2.1
  simp only [Protocol.volumeGate, Dispatcher.conditions, foreign] at passed
  by_contra other
  revert passed
  cases command <;> simp_all <;> decide

/-- A request on a foreign volume changes no file. -/
theorem serve_foreign (foreign : system.store.board.device.volume = .mismatch) :
    (serve firmware env writes cmd seq data system).store = system.store := by
  have only (command : Protocol.Command) (runs : verdict firmware env cmd system = .executed command) :=
    verdict_foreign foreign runs
  unfold serve
  split
  · rfl
  · rfl
  · rename_i runs
    exact absurd (only _ runs) (by decide)
  · rename_i runs
    exact absurd (only _ runs) (by decide)
  · rfl
  · rename_i command _ _ updates runs
    obtain rfl := (only command runs).resolve_right updates
    show system.store.withBoard ((plainly <$> onStore
      (handleDeviceStatus firmware.config firmware.image (commandEnv env system))) system.store.board).2 = _
    rw [report_board]
    rfl

end Frames

end Cantil.Appliance
