import Cantil.Firmware.Effects
import Cantil.Firmware.HandleOne

namespace Cantil.SessionSlot
open Library Ca

/-- Only files beside the two keys may differ. -/
structure SameKeys (before after : Machine) : Prop where
  device : after.device = before.device
  ephemeral : after.slot.ephemeral = before.slot.ephemeral
  inRecovery : after.slot.inRecovery = before.slot.inRecovery
  key : after.slot.files .key = before.slot.files .key
  idKey : after.slot.files .idKey = before.slot.files .idKey

instance : IsPreorder Machine SameKeys where
  refl _ := ⟨rfl, rfl, rfl, rfl, rfl⟩
  trans _ _ _ first second :=
    ⟨second.device.trans first.device, second.ephemeral.trans first.ephemeral,
      second.inRecovery.trans first.inRecovery, second.key.trans first.key, second.idKey.trans first.idKey⟩

section Frames

variable {config : Config} {crypto : Crypto} {env : SessionEnv} {build : Build}

theorem withFile_sameKeys {file : SessionFile} (other : file ≠ .key ∧ file ≠ .idKey) (machine : Machine)
    (content : Option Bytes) : SameKeys machine (machine.withFile file content) :=
  ⟨rfl, rfl, rfl, Function.update_of_ne (Ne.symm other.1) _ _, Function.update_of_ne (Ne.symm other.2) _ _⟩

theorem storageSessionWrite_sameKeys {file : SessionFile} (other : file ≠ .key ∧ file ≠ .idKey) (data : Bytes) :
    Op.Respects SameKeys (storageSessionWrite env file data) :=
  fun machine => withFile_sameKeys other machine _

theorem storageSessionChainDelete_sameKeys : Op.Respects SameKeys (storageSessionChainDelete env) := by
  intro machine
  unfold storageSessionChainDelete
  split
  · exact refl machine
  · exact refl machine
  · exact withFile_sameKeys (by decide) machine none

theorem sessionSlotSignFromSlot_sameKeys (issuerSlot : Slot) (force : Bool) :
    Op.Respects SameKeys (sessionSlotSignFromSlot config crypto env build issuerSlot force) :=
  .read fun _ =>
    (storageSessionWrite_sameKeys (by decide) _).bind fun _ => storageSessionWrite_sameKeys (by decide) _

theorem replaceSessionChain_sameKeys (chain : Bytes) : Op.Respects SameKeys (replaceSessionChain env chain) := by
  unfold replaceSessionChain
  split
  · exact storageSessionWrite_sameKeys (by decide) chain
  · exact storageSessionChainDelete_sameKeys

theorem sessionSlotPushCert_sameKeys (cert chain : Bytes) (force : Bool) :
    Op.Respects SameKeys (sessionSlotPushCert crypto env build cert chain force) :=
  .read fun _ =>
    (storageSessionWrite_sameKeys (by decide) _).bind fun _ => (replaceSessionChain_sameKeys chain).bind fun _ =>
    storageSessionWrite_sameKeys (by decide) _

theorem sessionSlotGetCsr_sameKeys : Op.Respects SameKeys (sessionSlotGetCsr crypto env build) :=
  .read fun _ => .read fun _ =>
    .read fun _ => .read fun _ =>
    .read fun _ =>
    (storageSessionWrite_sameKeys (by decide) _).attempt.bind fun _ => .pure _

theorem confirmed_sameKeys {action : SlotOp Dispatcher.Answer} (acted : Op.Respects SameKeys action) :
    Op.Respects SameKeys (confirmed env action) := by
  unfold confirmed
  split
  · exact acted
  · exact .pure _

theorem handleSignSessionFromSlot_sameKeys (data : Bytes) :
    Op.Respects SameKeys (handleSignSessionFromSlot config crypto env build data) := by
  unfold handleSignSessionFromSlot
  split
  · exact .pure _
  · split
    · exact .pure _
    · exact confirmed_sameKeys <|
        (sessionSlotSignFromSlot_sameKeys _ _).attempt.bind fun _ => .pure _

theorem handlePushSessionCert_sameKeys (data : Bytes) :
    Op.Respects SameKeys (handlePushSessionCert crypto env build data) := by
  unfold handlePushSessionCert
  split
  · exact .pure _
  · split
    · exact .pure _
    · exact confirmed_sameKeys <|
        (sessionSlotPushCert_sameKeys _ _ _).attempt.bind fun _ => .pure _

theorem handleGetSessionCsr_sameKeys : Op.Respects SameKeys (handleGetSessionCsr crypto env build) := by
  refine sessionSlotGetCsr_sameKeys.attempt.bind fun outcome => ?_
  split <;> exact .pure _

end Frames

/-- Only what is in RAM may differ. -/
structure SameStored (before after : Machine) : Prop where
  device : after.device = before.device
  files : after.slot.files = before.slot.files

instance : IsPreorder Machine SameStored where
  refl _ := ⟨rfl, rfl⟩
  trans _ _ _ first second := ⟨second.device.trans first.device, second.files.trans first.files⟩

/-- Only the session slot may differ. -/
def SameDevice (before after : Machine) : Prop := after.device = before.device

instance : IsPreorder Machine SameDevice where
  refl _ := rfl
  trans _ _ _ first second := Eq.trans second first

section Init

variable {wolf : WolfReader} {env : SessionEnv} {build : Build} {machine : Machine}

theorem setEphemeral_sameStored (identity : Option Ephemeral) : Op.Respects SameStored (setEphemeral identity) :=
  fun _ => ⟨rfl, rfl⟩

theorem setRecovery_sameStored : Op.Respects SameStored setRecovery := fun _ => ⟨rfl, rfl⟩

theorem sessionSlotInitEphemeral_sameStored : Op.Respects SameStored (sessionSlotInitEphemeral env build) :=
  .read fun _ => .read fun _ =>
    setEphemeral_sameStored _

theorem verifySessionIdentity_sameStored : Op.Respects SameStored (verifySessionIdentity wolf build) := by
  refine .read fun found => ?_
  split
  · split
    · exact setRecovery_sameStored
    · exact .fail _
  · split_ifs
    · exact .pure _
    · exact setRecovery_sameStored
    · exact .pure _

/-- A volume that may hold no new secret gets none at a boot. -/
theorem sessionSlotInit_unmintable (unmintable : mayMint machine.device = false) :
    SameStored machine (sessionSlotInit wolf env build machine).2 := by
  have dropped : SameStored machine { machine with slot := { machine.slot with ephemeral := none } } := ⟨rfl, rfl⟩
  rw [sessionSlotInit_eq, unmintable, if_neg Bool.false_ne_true]
  refine IsTrans.trans _ _ _ dropped ?_
  split_ifs
  · exact sessionSlotInitEphemeral_sameStored _
  · exact verifySessionIdentity_sameStored _
  · exact sessionSlotInitEphemeral_sameStored _

theorem sessionSlotMint_sameDevice : Op.Respects SameDevice (sessionSlotMint env build) := by
  have written (file : SessionFile) (data : Bytes) : Op.Respects SameDevice (storageSessionWrite env file data) :=
    fun _ => rfl
  exact .read fun _ => .read fun _ =>
    .read fun _ => (written _ _).bind fun _ => .read fun _ =>
    (written _ _).bind fun _ => (written _ _).bind fun _ => written _ _

theorem sessionSlotInit_sameDevice : Op.Respects SameDevice (sessionSlotInit wolf env build) := by
  intro machine
  by_cases mints : mayMint machine.device = true
  · rw [sessionSlotInit_eq]
    split_ifs
    · exact (sessionSlotInitEphemeral_sameStored _).device
    · exact (verifySessionIdentity_sameStored _).device
    · exact sessionSlotMint_sameDevice _
  · exact (sessionSlotInit_unmintable (Bool.eq_false_iff.mpr mints)).device

end Init

end Cantil.SessionSlot

namespace Cantil.Ca
open Library

section Reports

variable {relation : Device → Device → Prop} [IsPreorder Device relation]

instance (certsDir : Option Errno) : Op.Reader (storageCountIssuedCerts certsDir) := by
  unfold storageCountIssuedCerts
  split <;> infer_instance

instance (wolf : WolfReader) (capacity : Nat) : Op.Reader (caGetSerial wolf capacity) := by
  refine .read fun _ => .read fun cert => ?_
  split <;> infer_instance

instance (capacity : Nat) (serial : Bytes) (context : ListContext) :
    Op.Reader (listCertsCb capacity serial context) := by
  refine .read fun record => ?_
  dsimp only
  split <;> infer_instance

instance (certsDir : Option Errno) (capacity : Nat) : Op.Reader (caListCerts certsDir capacity) := by
  unfold caListCerts
  infer_instance

instance (capacity : Nat) (slots : List Slot) (context : ListContext) :
    Op.Reader (listKeysLoop capacity slots context) := by
  induction slots generalizing context with
  | nil => exact .pure context
  | cons slot rest ih =>
    refine .read fun present => ?_
    split
    · refine .read fun _ => .read fun _ => .read fun _ => ?_
      split
      · infer_instance
      · exact ih _
    · exact ih context

instance (config : Config) (capacity : Nat) : Op.Reader (caListKeys config capacity) := by
  unfold caListKeys
  infer_instance

end Reports

end Cantil.Ca

namespace Cantil.HandleOne
open Library Ca Dispatcher
open Protocol (Command)

def Board.withBonds (board : Board) (store : Clients.BondStore) : Board :=
  ⟨store.device, board.slot, store.bonds⟩

/-- What an admitted command but a reset does to the board. -/
inductive Touches (config : Config) (crypto : Crypto) (env : CommandEnv) (seen : SessionEnv) (data : Bytes)
    (board : Board) : Command → Board → Prop
  | nothing (command : Command) : Touches config crypto env seen data board command board
  | stored (command : Command) (inside : command ∈ storeCommands) :
      Touches config crypto env seen data board command
        { board with device := (handle config crypto seen.toEnv data command board.device).2 }
  | session (command : Command) (slot : SessionSlot.SlotState)
      (same : SessionSlot.SameKeys ⟨board.device, board.slot⟩ ⟨board.device, slot⟩) :
      Touches config crypto env seen data board command { board with slot }
  | unpaired :
      Touches config crypto env seen data board .unpairClient
        (board.withBonds (Clients.clientBondRemove env.toBondEnv data ⟨board.device, board.bonds⟩).2)
  | renamed :
      Touches config crypto env seen data board .setClientName
        (board.withBonds (Clients.clientBondSetName env.toBondEnv (data.take 32) (data.drop 32)
          ⟨board.device, board.bonds⟩).2)

section Commands

variable {config : Config} {crypto : Crypto} {image : Image} {env : CommandEnv} {seen : SessionEnv} {seq : UInt32}
variable {data : Bytes} {board : Board}

/-- A report leaves the board as it is. -/
theorem report_board {op : Op Device Errno Answer} [Op.Reader op] : ((plainly <$> onStore op) board).2 = board := by
  rw [Op.map_apply]
  show { board with device := (op board.device).2 } = board
  rw [Op.Reader.kept]

theorem touches_report (command : Command) {op : Op Device Errno Answer} (_ : Op.Reader op) :
    Touches config crypto env seen data board command ((plainly <$> onStore op) board).2 := by
  rw [report_board]
  exact .nothing command

theorem touches_session (command : Command) {op : SessionSlot.SlotOp Answer}
    (kept : Op.Respects SessionSlot.SameKeys op) :
    Touches config crypto env seen data board command ((plainly <$> onMachine op) board).2 := by
  rw [Op.map_apply]
  have same := kept ⟨board.device, board.slot⟩
  simp only [onMachine]
  rcases outcome : op ⟨board.device, board.slot⟩ with ⟨result, device, slot⟩
  rw [outcome] at same
  obtain rfl : device = board.device := same.device
  exact .session command slot same

instance handleRead_reader (config : Config) (crypto : Crypto) (session : SessionCert) (data : Bytes) (read : Read) :
    Op.Reader (handleRead config crypto session respCapacity data read) where
  kept device := by
    obtain ⟨reply, ran⟩ := handleRead_replies config crypto session respCapacity data read device
    rw [ran]

instance (certsDir : Option Errno) : Op.Reader (handleGetCertCount certsDir) := by
  unfold handleGetCertCount caGetCertCount
  refine .read fun outcome => ?_
  split <;> infer_instance

instance : Op.Reader (handleGetKeyCsr data) := by
  unfold handleGetKeyCsr caGetKeyCsr
  split <;> infer_instance

instance : Op.Reader (handleDeviceStatus config image env) := by
  unfold handleDeviceStatus caProvisioned
  infer_instance

theorem handleUnpairClient_touches :
    Touches config crypto env seen data board .unpairClient
      ((plainly <$> onBonds (handleUnpairClient config env data)) board).2 := by
  simp only [handleUnpairClient]
  split
  · exact .nothing _
  · split
    · exact .nothing _
    · exact .unpaired

theorem handleSetClientName_touches :
    Touches config crypto env seen data board .setClientName
      ((plainly <$> onBonds (handleSetClientName env data)) board).2 := by
  simp only [handleSetClientName]
  split
  · exact .nothing _
  · exact .renamed

theorem handleListClients_touches :
    Touches config crypto env seen data board .listClients ((plainly <$> onBonds (handleListClients env)) board).2 := by
  have reader : Op.Respects Eq (handleListClients env) :=
    .read fun _ => .pure _
  show Touches config crypto env seen data board .listClients
    (board.withBonds (handleListClients env ⟨board.device, board.bonds⟩).2)
  rw [← reader]
  exact .nothing _

/-- Every command but a reset does one of these. -/
theorem handleCommand_touches {command : Command} (stays : command ≠ .resetDevice) :
    Touches config crypto env seen data board command
      (handleCommand config crypto image env seen seq data command board).2 := by
  cases command
  case resetDevice => exact absurd rfl stays
  case getCaCert => exact touches_report _ (handleRead_reader config crypto ⟨none, none⟩ data .caCert)
  case getCert => exact touches_report _ (handleRead_reader config crypto ⟨none, none⟩ data .cert)
  case getCaChain => exact touches_report _ (handleRead_reader config crypto ⟨none, none⟩ data .caChain)
  case getSessionCert =>
    exact touches_report _ (handleRead_reader config crypto board.slot.sessionCert data .sessionCert)
  case getCaSerial | getCaCsr | listCerts | listKeys => exact touches_report _ (.read fun _ => .pure _)
  case getCertCount | getKeyCsr | deviceStatus => exact touches_report _ inferInstance
  case getRandom | getRandomNames | setUnlockSeq | updateFirmware => exact .nothing _
  case getSessionCsr => exact touches_session _ SessionSlot.handleGetSessionCsr_sameKeys
  case signSessionFromSlot => exact touches_session _ (SessionSlot.handleSignSessionFromSlot_sameKeys data)
  case pushSessionCert => exact touches_session _ (SessionSlot.handlePushSessionCert_sameKeys data)
  case listClients => exact handleListClients_touches
  case unpairClient => exact handleUnpairClient_touches
  case setClientName => exact handleSetClientName_touches
  all_goals
    show Touches config crypto env seen data board _
      ((plainly <$> onStore (handle config crypto seen.toEnv data _)) board).2
    rw [Op.map_apply]
    exact .stored _ (by decide)

end Commands

end Cantil.HandleOne
