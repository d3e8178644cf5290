import Cantil.Common.CborDecode
import Cantil.Firmware.Clients
import Cantil.Firmware.SessionSlot

namespace Cantil.HandleOne
open Library Ca Dispatcher
open Gesture (ConfirmResult RequestError gestureGetState gestureRequestConfirm gestureRequestReset gestureSetUnlockSeq)
open Protocol (Err Command)

def namesCount : Nat := 1918

def namesBatchMax : Nat := 64

def separator : UInt8 := 0xFF

/-- The built-in names, of eleven bytes at most. -/
structure NameTable where
  names : List Bytes
  count : names.length = namesCount
  short : ∀ name ∈ names, name.length ≤ 11

/-- What else is fixed when the image is built. -/
structure Image extends SessionSlot.Build where
  externalFlash : Bool
  names : NameTable

/-- What medium, backend, stack and gesture thread do in one command. -/
structure CommandEnv extends SessionEnv, Clients.BondEnv where
  uptime : Int
  gesture : Gesture.Machine
  /-- The answer to a prompt, if one is shown. -/
  tapped : ConfirmResult
  seqPersisted : Bool
  /-- The directory of the issued certificates may fail to open. -/
  certsDir : Option Errno
  freeKb : Except Errno UInt32

structure Board where
  device : Device
  slot : SessionSlot.SlotState
  bonds : Clients.Bonds

abbrev BoardOp (Value : Type) := Op Board Errno Value

def onStore {Value : Type} (op : Op Device Errno Value) : BoardOp Value := fun board =>
  ((op board.device).1, { board with device := (op board.device).2 })

def onMachine {Value : Type} (op : SessionSlot.SlotOp Value) : BoardOp Value := fun board =>
  let (result, machine) := op ⟨board.device, board.slot⟩
  (result, ⟨machine.device, machine.slot, board.bonds⟩)

def onBonds {Value : Type} (op : Clients.BondOp Value) : BoardOp Value := fun board =>
  let (result, store) := op ⟨board.device, board.bonds⟩
  (result, ⟨store.device, board.slot, store.bonds⟩)

/-- No answer in time counts as denied. -/
def promptErr (tapped : ConfirmResult) : Err := if tapped = .ok then .ok else .busy

def awaitProtectConfirm (gesture : Gesture.Machine) (tapped : ConfirmResult) : Err :=
  match (gestureRequestConfirm (.request 0) gesture).1 with
  | .error .busy => .busy
  | .error .already => .busy
  | .error _ => .invalidCmd
  | .ok () => promptErr tapped

variable (config : Config) (crypto : Crypto) (image : Image) (env : CommandEnv) (data : Bytes)

/-- The gesture machine as the dispatcher has read it. -/
def CommandEnv.machine : Gesture.Machine :=
  gestureGetState config env.uptime env.gesture

/-- What handlers see of gesture machine and session slot. -/
def CommandEnv.seen (slot : SessionSlot.SlotState) : SessionEnv :=
  { env.toSessionEnv with
    gestureState := (env.machine config).state
    inRecovery := slot.inRecovery
    confirm := awaitProtectConfirm (env.machine config) env.tapped }

/-! The commands that report. -/

/-- Data on success, and nothing with an error. -/
def dataReply (failure : Errno → Err) : Except Errno Bytes → Answer
  | .ok bytes => .reply ⟨.ok, RespData.of bytes⟩
  | .error error => refusal (failure error)

def handleGetCaSerial (wolf : WolfReader) : Op Device Errno Answer := do
  return dataReply (fun _ => .storage) (← (caGetSerial wolf respCapacity).attempt)

def handleGetCaCsr : Op Device Errno Answer := do
  return readReply respCapacity .storage (← (caGetCsr respCapacity).attempt)

def handleListCerts (certsDir : Option Errno) : Op Device Errno Answer := do
  return dataReply (fun _ => .storage) (← (caListCerts certsDir respCapacity).attempt)

/-- The count is sent with an error too, as zero. -/
def handleGetCertCount (certsDir : Option Errno) : Op Device Errno Answer := do
  match ← (caGetCertCount certsDir).attempt with
  | .ok count => return .reply ⟨.ok, slotData count⟩
  | .error _ => return .reply ⟨.storage, slotData 0⟩

def handleListKeys : Op Device Errno Answer := do
  return dataReply (fun _ => .storage) (← (caListKeys config respCapacity).attempt)

def csrErr : Errno → Err
  | .enoent => .notFound
  | _ => .storage

def handleGetKeyCsr : Op Device Errno Answer := do
  if data.length < 4 then return refusal .invalidArgs
  return dataReply csrErr (← (caGetKeyCsr (slotArg data) respCapacity).attempt)

def VolumeState.code : VolumeState → UInt8
  | .valid => 0
  | .unmarked => 1
  | .mismatch => 2

/-- A count that cannot be read is reported as zero. -/
def handleDeviceStatus : Op Device Errno Answer := do
  let slotsUsed ← (storageCountSlotsUsed config).attempt
  let certsStored ← (storageCountIssuedCerts env.certsDir).attempt
  let provisioned ← caProvisioned
  let volume ← .reads fun device => .ok device.volume
  let word (value : UInt32) : Bytes := bigEndian 4 value.toNat
  let stored := word (certsStored.toOption.getD 0)
  return .reply ⟨.ok, RespData.of (
    [0, 1, 0, if (env.machine config).state = .locked then 1 else 0] ++ stored ++ stored ++
    word (slotsUsed.toOption.getD 0) ++ word config.maxKeySlots ++ word (env.freeKb.toOption.getD 0) ++
    [0, if image.externalFlash then 1 else 0, if provisioned then 1 else 0, VolumeState.code volume])⟩

/-- Every error leaves the length of the buffer as it is. -/
def handleGetRandom : Answer :=
  let count := bigEndianValue (data.take 2)
  if data.length < 2 then .reply ⟨.invalidArgs, RespData.untouched⟩
  else if count > respCapacity then .reply ⟨.invalidArgs, RespData.untouched⟩
  else
    match env.trng count with
    | .error _ => .reply ⟨.crypto, RespData.untouched⟩
    | .ok random => .reply ⟨.ok, RespData.of random.1⟩

/-- Two random bytes choose a name, up to the first without room. -/
def appendNames (table : NameTable) (outSize : Nat) : Bytes → Bytes → Bytes
  | high :: low :: rest, out =>
    let name := table.names.getD ((high.toNat * 256 + low.toNat) % namesCount) []
    if out.length + name.length + 1 > outSize then out
    else appendNames table outSize rest (out ++ name ++ [separator])
  | _, out => out

def namesGetRandomBatch (table : NameTable) (count outSize : Nat) : Except Errno Bytes :=
  if count = 0 ∨ outSize = 0 then .ok []
  else
    match env.trng (min count namesBatchMax * 2) with
    | .error _ => .error .eio
    | .ok random => .ok (appendNames table outSize random.1 [])

def handleGetRandomNames (table : NameTable) (data : Bytes) : Answer :=
  if data.length < 2 then .reply ⟨.invalidArgs, RespData.untouched⟩
  else readReply respCapacity .crypto (namesGetRandomBatch env table (bigEndianValue (data.take 2)) respCapacity)

/-! The commands of the gesture and of the clients. -/

/-- The length is cut to one byte. -/
def handleSetUnlockSeq : Answer :=
  if data.length = 0 then refusal .invalidArgs
  else
    match (gestureSetUnlockSeq config (data.take (data.length % 256)) env.seqPersisted (env.machine config)).1 with
    | .ok () => refusal .ok
    | .error .busy => refusal .busy
    | .error .invalid => refusal .invalidArgs
    | .error _ => refusal .storage

def handleListClients : Clients.BondOp Answer := do
  return dataReply (fun _ => .storage) (← (Clients.clientBondListCbor env.toBondEnv respCapacity).attempt)

def unpairErr : Except Errno Unit → Err
  | .ok () => .ok
  | .error .enoent => .notFound
  | .error _ => .storage

def handleUnpairClient : Clients.BondOp Answer := do
  if data.length ≠ 32 then return refusal .invalidArgs
  let err := awaitProtectConfirm (env.machine config) env.tapped
  if err ≠ .ok then return refusal err
  return refusal (unpairErr (← (Clients.clientBondRemove env.toBondEnv data).attempt))

def handleSetClientName : Clients.BondOp Answer := do
  if data.length < 33 ∨ data.length > 32 + Clients.clientMetaNameMax - 1 then return refusal .invalidArgs
  let result ← (Clients.clientBondSetName env.toBondEnv (data.take 32) (data.drop 32)).attempt
  return refusal (protectErr result)

/-! The dispatcher with every command. -/

/-- What a handler sends by itself, and its answer. -/
structure Reaction where
  acks : List Bytes
  answer : Answer
  deriving DecidableEq, Repr

def plainly (answer : Answer) : Reaction := ⟨[], answer⟩

/-- The early answer of the two commands that may reboot. -/
def ack (seq : UInt32) : List Bytes := (Cbor.encodeResponse 32 seq Err.ok.code []).toOption.toList

/-- The client is told of the prompt. Even a failed boot reboots. -/
def handleReset (seen : SessionEnv) (seq : UInt32) : Op Device Errno Reaction :=
  match (gestureRequestReset config (.request 0) (env.machine config)).1 with
  | .error .busy => return plainly (refusal .busy)
  | .error _ => return plainly (refusal .invalidCmd)
  | .ok () => do
      match ← (handleResetDevice config crypto { seen.toEnv with confirm := promptErr env.tapped }).attempt with
      | .ok answer => return ⟨ack seq, answer⟩
      | .error _ => return ⟨ack seq, .rebooted⟩

def handleCommand (seen : SessionEnv) (seq : UInt32) (data : Bytes) : Command → BoardOp Reaction
  | .getCaCert => plainly <$> onStore (handleGetCaCert respCapacity)
  | .getCert => plainly <$> onStore (handleGetCert respCapacity data)
  | .getCaChain => plainly <$> onStore (handleGetCaChain config crypto respCapacity data)
  | .getCaSerial => plainly <$> onStore (handleGetCaSerial crypto.toWolfReader)
  | .getCaCsr => plainly <$> onStore handleGetCaCsr
  | .listCerts => plainly <$> onStore (handleListCerts env.certsDir)
  | .getCertCount => plainly <$> onStore (handleGetCertCount env.certsDir)
  | .listKeys => plainly <$> onStore (handleListKeys config)
  | .getKeyCsr => plainly <$> onStore (handleGetKeyCsr data)
  | .deviceStatus => plainly <$> onStore (handleDeviceStatus config image env)
  | .getRandom => return plainly (handleGetRandom env data)
  | .getRandomNames => return plainly (handleGetRandomNames env image.names data)
  | .setUnlockSeq => return plainly (handleSetUnlockSeq config env data)
  | .getSessionCert => fun board =>
    (plainly <$> onStore (handleGetSessionCert board.slot.sessionCert respCapacity)) board
  | .getSessionCsr => plainly <$> onMachine (SessionSlot.handleGetSessionCsr crypto seen image.toBuild)
  | .signSessionFromSlot =>
    plainly <$> onMachine (SessionSlot.handleSignSessionFromSlot config crypto seen image.toBuild data)
  | .pushSessionCert => plainly <$> onMachine (SessionSlot.handlePushSessionCert crypto seen image.toBuild data)
  | .listClients => plainly <$> onBonds (handleListClients env)
  | .unpairClient => plainly <$> onBonds (handleUnpairClient config env data)
  | .setClientName => plainly <$> onBonds (handleSetClientName env data)
  | .resetDevice => onStore (handleReset config crypto env seen seq)
  | .updateFirmware => return ⟨ack seq, .rebooted⟩
  -- The other commands are those of the store alone.
  | command => plainly <$> onStore (handle config crypto seen.toEnv data command)

/-- The messages of a call, its result, and whether it returns. -/
structure Outcome where
  sent : List Bytes
  result : Except Errno Unit
  rebooted : Bool
  deriving DecidableEq, Repr

/-- The common end of every command. -/
def send (seq : UInt32) (stale : Bytes) (reaction : Reaction) : Outcome :=
  match reaction.answer with
  | .rebooted => ⟨reaction.acks, .ok (), true⟩
  | .reply reply =>
    match respond seq stale reply with
    | .error _ => ⟨reaction.acks, .error .enomem, false⟩
    | .ok response => ⟨reaction.acks ++ [response], .ok (), false⟩

/-- A decoded request. -/
def handleRequest (stale : Bytes) (cmd seq : UInt32) (data : Bytes) (board : Board) : Outcome × Board :=
  let seen := env.seen config board.slot
  match Protocol.dispatch config seen.gestureState (conditions seen.toEnv board.device) cmd with
  | .refused err => (send seq stale (plainly (refusal err)), board)
  | .unknown => (send seq stale (plainly (refusal .invalidCmd)), board)
  | .executed command =>
    match handleCommand config crypto image env seen seq data command board with
    | (.error error, board) => (⟨[], .error error, false⟩, board)
    | (.ok reaction, board) => (send seq stale reaction, board)

/-- One received message. The firmware has a 32-bit `size_t`. -/
def protocolHandleOne (depth : Nat) (env : CommandEnv) (stale message : Bytes) (board : Board) : Outcome × Board :=
  match (Cbor.decodeRequest 32 depth message 0).1 with
  | .error _ => (⟨(Cbor.encodeResponse 16 0 Err.invalidCmd.code []).toOption.toList, .ok (), false⟩, board)
  | .ok (cmd, seq, data) => handleRequest config crypto image env stale cmd seq data board

end Cantil.HandleOne
