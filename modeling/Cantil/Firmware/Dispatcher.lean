import Cantil.Common.Cbor
import Cantil.Firmware.Ca.Crl

namespace Cantil.Dispatcher
open Library Ca
open Protocol (Err Command Conditions)

def msgBufSize : Nat := 4096

def respCapacity : Nat := msgBufSize - 2

def RespData.none : RespData := ⟨[], 0⟩

def RespData.of (bytes : Bytes) : RespData := ⟨bytes, bytes.length⟩

/-- Neither the buffer nor its length was written. -/
def RespData.untouched : RespData := ⟨[], respCapacity⟩

/-- The octets that go out, over what the buffer held before. -/
def RespData.bytes (stale : Bytes) (data : RespData) : Bytes :=
  (data.known ++ stale.drop data.known.length).take data.length

/-- The octets of a complete answer go out as they are. -/
theorem RespData.bytes_of (stale text : Bytes) : RespData.bytes stale (RespData.of text) = text := by
  simp [RespData.bytes, RespData.of]

/-- The device answers, or reboots without an answer. -/
inductive Answer where
  | reply (reply : Reply)
  | rebooted
  deriving DecidableEq, Repr

def refusal (err : Err) : Answer := .reply ⟨err, RespData.none⟩

section Handlers

variable (config : Config) (crypto : Crypto) (env : Env) (device : Device) (data : Bytes)

def slotArg : Slot := UInt32.ofNat (bigEndianValue (data.take 4))

def u64Arg (offset : Nat) (data : Bytes) : UInt64 := UInt64.ofNat (bigEndianValue (fieldAt offset 8 data))

def slotData (slot : UInt32) : RespData := RespData.of (bigEndian 4 slot.toNat)

/-- The codes that the signing commands share. -/
def signErr : Except Errno Unit → Err
  | .ok () => .ok
  | .error .enoent => .notFound
  | .error .einval => .invalidArgs
  | .error _ => .crypto

/-- The buffer is cut only when a certificate was copied. -/
def filled : Option Bytes → RespData
  | some der => RespData.of der
  | none => RespData.untouched

/-- The first signing command keeps the buffer on an error. -/
def handleSignCsr : Op Device Errno Answer := do
  let (copied, result) ← caSignCsr config crypto env data respCapacity
  let err := match result with
    | .ok () => Err.ok
    | .error _ => Err.crypto
  return .reply ⟨err, filled copied⟩

/-- The second one drops the buffer on an error. -/
def handleSignCsrSlot : Op Device Errno Answer := do
  if data.length < 5 then return refusal .invalidArgs
  let issuer := slotArg data
  if issuer ≥ config.maxKeySlots then return refusal .invalidArgs
  let (copied, result) ← caSignCsrSlot config crypto env issuer (data.drop 4) respCapacity
  match result with
  | .ok () => return .reply ⟨.ok, filled copied⟩
  | .error _ => return refusal (signErr result)

def handleSignKeySlot : Op Device Errno Answer := do
  if data.length < 8 then return refusal .invalidArgs
  let issuer := slotArg data
  if issuer ≥ config.maxKeySlots then return refusal .invalidArgs
  let result ← (caSignKeySlot config crypto env issuer (slotArg (data.drop 4))).attempt
  return refusal (signErr result)

def handlePushCaCert : Op Device Errno Answer := do
  match ← (caPushCert env data []).attempt with
  | .ok () => return refusal .ok
  | .error _ => return refusal .storage

def handleAutoExpire : Op Device Errno Answer := do
  if data.length < 8 then return refusal .invalidArgs
  match ← (caAutoExpire env (u64Arg 0 data)).attempt with
  | .ok count => return .reply ⟨.ok, slotData count⟩
  | .error _ => return .reply ⟨.storage, slotData 0⟩

/-- The trailing time is optional unless the build asks for it. -/
def handleRevokeCert : Op Device Errno Answer := do
  if data.length < 2 then return refusal .invalidArgs
  let serialLen := (data.headD 0).toNat
  if serialLen = 0 ∨ serialLen > 20 ∨ serialLen + 1 > data.length then return refusal .invalidArgs
  let tail := data.length - 1 - serialLen
  if tail ≠ 8 ∧ tail ≠ 0 then return refusal .invalidArgs
  let nowUnix := if tail = 8 then u64Arg (1 + serialLen) data else 0
  if config.revokeRequireNowUnix ∧ (tail ≠ 8 ∨ nowUnix = 0) then return refusal .invalidArgs
  match ← (caRevokeCert env (fieldAt 1 serialLen data) nowUnix).attempt with
  | .ok () => return refusal .ok
  | .error .einval => return refusal .invalidArgs
  | .error .eacces => return refusal .invalidArgs
  | .error .enoent => return refusal .notFound
  | .error .ealready => return refusal .invalidArgs
  | .error _ => return refusal .storage

def handleGetCrl : Op Device Errno Answer := do
  if data.length ≠ 12 then return refusal .invalidArgs
  let slot := slotArg data
  if slot ≥ config.maxKeySlots then return refusal .invalidArgs
  match ← (caGetCrl config crypto env slot (u64Arg 4 data) respCapacity).attempt with
  | .ok crl => return .reply ⟨.ok, RespData.of crl⟩
  | .error .einval => return refusal .invalidArgs
  | .error .enoent => return refusal .notFound
  | .error _ => return refusal .storage

/-- The number of the slot is sent with any error, as zero. -/
def handleGenKey : Op Device Errno Answer := do
  match ← (caGenKey config env (data.headD 0)).attempt with
  | .ok slot => return .reply ⟨.ok, slotData slot⟩
  | .error .enospc => return .reply ⟨.noSlots, slotData 0⟩
  | .error .enotsup => return .reply ⟨.invalidArgs, slotData 0⟩
  | .error .einval => return .reply ⟨.invalidArgs, slotData 0⟩
  | .error .eperm => return .reply ⟨.volumeInvalid, slotData 0⟩
  | .error _ => return .reply ⟨.crypto, slotData 0⟩

/-- The codes of the two protection commands. -/
def protectErr : Except Errno Unit → Err
  | .ok () => .ok
  | .error .enoent => .notFound
  | .error .einval => .invalidArgs
  | .error _ => .storage

/-- A request that is not confirmed changes nothing. -/
def confirmed (action : Op Device Errno Answer) : Op Device Errno Answer :=
  if env.confirm = .ok then action else return refusal env.confirm

def handleProtectSlot : Op Device Errno Answer := do
  if data.length < 5 then return refusal .invalidArgs
  confirmed env do
    let result ← (caProtectSlot config env (slotArg data) (data.getD 4 0 ≠ 0)).attempt
    return refusal (protectErr result)

def handleUnprotectSlot : Op Device Errno Answer := do
  if data.length < 4 then return refusal .invalidArgs
  confirmed env do
    let result ← (caUnprotectSlot config env (slotArg data)).attempt
    return refusal (protectErr result)

def handleDeleteKey : Op Device Errno Answer := do
  if data.length < 4 then return refusal .invalidArgs
  match ← (caDeleteKey config env (slotArg data)).attempt with
  | .ok () => return refusal .ok
  | .error .eperm => return refusal .deviceLocked
  | .error .eacces => return refusal .deviceLocked
  | .error .enoent => return refusal .notFound
  | .error .einval => return refusal .invalidArgs
  | .error _ => return refusal .storage

def handleGenKeyCsr : Op Device Errno Answer := do
  if data.length < 5 then return refusal .invalidArgs
  if data.length - 4 ≥ 256 then return refusal .invalidArgs
  let result ← (caGenKeyCsr config crypto env (slotArg data) (data.drop 4)).attempt
  return refusal (signErr result)

/-- The codes of the two installing commands. -/
def pushErr : Except Errno Unit → Err
  | .ok () => .ok
  | .error .eacces => .deviceLocked
  | .error .einval => .invalidArgs
  | .error _ => .crypto

def handlePushKeyCert : Op Device Errno Answer := do
  if data.length < 6 then return refusal .invalidArgs
  let certLen := bigEndianValue (fieldAt 4 2 data)
  if 6 + certLen > data.length then return refusal .invalidArgs
  match ← (caPushKeyCert config crypto env (slotArg data) (fieldAt 6 certLen data)
      (data.drop (6 + certLen))).attempt with
  | .error .enoent => return refusal .notFound
  | result => return refusal (pushErr result)

def handlePushKeyX509 : Op Device Errno Answer := do
  if data.length < 4 then return refusal .invalidArgs
  let result ← (caPushKeyX509 config crypto env (slotArg data) (data.drop 4)).attempt
  return refusal (pushErr result)

def handleProvisionCa : Op Device Errno Answer := do
  if ← caProvisioned then return refusal .alreadyProvisioned
  confirmed env do
    match ← (caProvision env (data.headD 0)).attempt with
    | .ok () => return .reply ⟨.ok, slotData 0⟩
    | .error .eexist => return refusal .alreadyProvisioned
    | .error .enotsup => return refusal .invalidArgs
    | .error .einval => return refusal .invalidArgs
    | .error .eperm => return refusal .volumeInvalid
    | .error _ => return refusal .crypto

/-- A boot forgets the CA flag and finds this volume state. -/
def boot (volume : VolumeState) : Op Device Errno Unit :=
  fun device => caInit config crypto env { device with provisioned := false, volume }

/-- A confirmed reset wipes the volume and boots. -/
def handleResetDevice : Op Device Errno Answer :=
  confirmed env do
    match ← (storageSecureWipe env.toFaults).attempt with
    | .error _ => return refusal .volumeInvalid
    | .ok () =>
      let volume ← .reads fun device => .ok device.volume
      boot config crypto env volume
      return .rebooted

/-- Session slot, clients, gesture and lists. -/
def handleElsewhere : Op Device Errno Answer := fun device =>
  (.ok (.reply env.elsewhere.1), { device with fs := device.fs.withClients env.elsewhere.2 })

def handle :
    Command → Op Device Errno Answer
  | .signCsr => handleSignCsr config crypto env data
  | .pushCaCert => handlePushCaCert env data
  | .autoExpire => handleAutoExpire env data
  | .revokeCert => handleRevokeCert config env data
  | .getCrl => handleGetCrl config crypto env data
  | .genKey => handleGenKey config env data
  | .protectSlot => handleProtectSlot config env data
  | .unprotectSlot => handleUnprotectSlot config env data
  | .deleteKey => handleDeleteKey config env data
  | .genKeyCsr => handleGenKeyCsr config crypto env data
  | .signCsrSlot => handleSignCsrSlot config crypto env data
  | .signKeySlot => handleSignKeySlot config crypto env data
  | .pushKeyCert => handlePushKeyCert config crypto env data
  | .pushKeyX509 => handlePushKeyX509 config crypto env data
  | .provisionCa => handleProvisionCa env data
  | .resetDevice => handleResetDevice config crypto env
  | _ => handleElsewhere env

/-- What the gates read of the device. -/
def conditions : Conditions where
  inRecovery := env.inRecovery
  volumeTrusted := device.volume ≠ .mismatch
  caProvisioned := (device.fs.files (.slot caSlot .key)).isSome
  volumeMayMint := mayMint device

/-- The gates decide first, and an admitted command runs. -/
def serve (cmd : UInt32) (data : Bytes) : Op Device Errno Answer := fun device =>
  match Protocol.dispatch config env.gestureState (conditions env device) cmd with
  | .refused err => (.ok (refusal err), device)
  | .unknown => (.ok (refusal .invalidCmd), device)
  | .executed command => handle config crypto env data command device

/-- What a reply sends, or nothing if it does not fit. -/
def respond (seq : UInt32) (stale : Bytes) (reply : Reply) : Except Errno Bytes :=
  Cbor.encodeResponse msgBufSize seq reply.err.code (RespData.bytes stale reply.data)

end Handlers

/-- A request of the host or a boot. -/
inductive Event where
  | request (env : Env) (cmd : UInt32) (data : Bytes)
  | powerCycle (env : Env) (volume : VolumeState)

def Event.env : Event → Env
  | .request env _ _ => env
  | .powerCycle env _ => env

def step (config : Config) (crypto : Crypto) (device : Device) : Event → Device
  | .request env cmd data => (serve config crypto env cmd data device).2
  | .powerCycle env volume => (boot config crypto env volume device).2

/-- The command that a request runs, once the gates admit it. -/
def executes (config : Config) (device : Device) : Event → Option (Env × Command × Bytes)
  | .request env cmd data =>
    match Protocol.dispatch config env.gestureState (conditions env device) cmd with
    | .executed command => some (env, command, data)
    | _ => none
  | .powerCycle _ _ => none

end Cantil.Dispatcher
