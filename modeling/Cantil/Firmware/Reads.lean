import Cantil.Firmware.Ca.Chain
import Cantil.Firmware.Dispatcher

namespace Cantil.Dispatcher
open Library Ca
open Protocol (Err Command)

/-- The session certificate, volatile or stored. -/
structure SessionCert where
  ephemeral : Option Bytes
  file : Option Bytes

variable (config : Config) (crypto : Crypto) (session : SessionCert) (capacity : Nat) (data : Bytes)

/-- Only a volatile certificate is measured first. -/
def sessionSlotGetCert : Except Errno Bytes :=
  match session.ephemeral with
  | some cert => if capacity < cert.length then .error .enomem else .ok cert
  | none =>
    match session.file with
    | none => .error .enoent
    | some der => .ok (der.take capacity)

/-- The four commands that return certificates out of the store. -/
inductive Read where
  | caCert
  | cert
  | caChain
  | sessionCert
  deriving DecidableEq, Repr

/-- A failure leaves the length of the buffer as it is. -/
def readReply (failure : Err) : Except Errno Bytes → Answer
  | .ok bytes => .reply ⟨.ok, RespData.of bytes⟩
  | .error _ => .reply ⟨failure, ⟨[], capacity⟩⟩

def handleGetCaCert : Op Device Errno Answer := do
  return readReply capacity .storage (← (storageSlotCertRead caSlot capacity).attempt)

/-- The whole argument is the serial. -/
def handleGetCert : Op Device Errno Answer := do
  return readReply capacity .notFound (← (storageIssuedCertRead data capacity).attempt)

/-- No argument means slot 0. -/
def chainArg : Slot := if data.length = 4 then slotArg data else caSlot

def handleGetCaChain : Op Device Errno Answer := do
  if data.length ≠ 4 ∧ data.length ≠ 0 then return refusal .invalidArgs
  match ← caGetChainSlot config crypto (chainArg data) capacity with
  | (.ok (), chain) => return .reply ⟨.ok, RespData.of chain⟩
  | (.error .enoent, _) => return refusal .notFound
  | (.error .einval, _) => return refusal .invalidArgs
  | (.error _, _) => return refusal .storage

def handleGetSessionCert : Op Device Errno Answer :=
  match sessionSlotGetCert session capacity with
  | .ok cert => return .reply ⟨.ok, RespData.of cert⟩
  | .error .enoent => return refusal .notFound
  | .error _ => return refusal .storage

def handleRead :
    Read → Op Device Errno Answer
  | .caCert => handleGetCaCert capacity
  | .cert => handleGetCert capacity data
  | .caChain => handleGetCaChain config crypto capacity data
  | .sessionCert => handleGetSessionCert session capacity

/-- An answer that only depends on what was read. -/
theorem answered_replies {Value : Type} {read : Op Device Errno Value} [Op.Reader read]
    {answer : Except Errno Value → Answer} (replies : ∀ result, ∃ reply, answer result = .reply reply)
    (device : Device) :
    ∃ reply, (do return answer (← read.attempt) : Op Device Errno Answer) device = (.ok (.reply reply), device) := by
  obtain ⟨reply, same⟩ := replies (read device).1
  refine ⟨reply, ?_⟩
  rw [Op.bind_apply, Op.attempt_apply, Op.Reader.kept, ← same]
  rfl

theorem readReply_replies (failure : Err) (result : Except Errno Bytes) :
    ∃ reply, readReply capacity failure result = .reply reply := by
  cases result <;> exact ⟨_, rfl⟩

theorem handleRead_replies (read : Read) (device : Device) :
    ∃ reply, handleRead config crypto session capacity data read device = (.ok (.reply reply), device) := by
  cases read with
  | caCert => exact answered_replies (readReply_replies capacity .storage) device
  | cert =>
    exact answered_replies (readReply_replies capacity .notFound) device
  | caChain =>
    simp only [handleRead, handleGetCaChain]
    split
    · exact ⟨_, rfl⟩
    · obtain ⟨⟨result, chain⟩, ran⟩ := caGetChainSlot_answers config crypto (chainArg data) capacity device
      rw [Op.bind_apply, ran]
      rcases result with error | _
      · cases error <;> exact ⟨_, rfl⟩
      · exact ⟨_, rfl⟩
  | sessionCert =>
    simp only [handleRead, handleGetSessionCert]
    rcases sessionSlotGetCert session capacity with error | cert
    · cases error <;> exact ⟨_, rfl⟩
    · exact ⟨_, rfl⟩

end Cantil.Dispatcher
