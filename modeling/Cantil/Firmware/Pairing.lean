import Cantil.Common.ChainBuffer
import Cantil.Firmware.CertParse
import Cantil.Firmware.Storage

namespace Cantil
open Library

def sessionChainMaxCerts : Nat := 4

def sessionClientChainMax : Nat := 2048

variable (wolf : WolfReader) (config : Config) (payload stack pub : Bytes)

/-- The firmware has a 32-bit `size_t`. -/
def parseClientChain : List Bytes :=
  Cbor.parseChain 32 sessionChainMaxCerts sessionClientChainMax payload

/-- The same parser, with the session's chain buffer. -/
def parseClientChainInto (sizeBits : Nat) (payload : Bytes) (chain beyond : Memory) : Cbor.RecordedChain :=
  Cbor.recordChain sizeBits sessionChainMaxCerts sessionClientChainMax payload chain beyond

def clientBondId : Bytes := pub.take 4

/-- A short file leaves the rest of the buffer to the stack. -/
def idMatchesPub (id pub : Bytes) : Op Device Errno Bool := do
  let stored ← readFile (.client id .pubkey) 32
  return (stored ++ stack.drop stored.length).take 32 = pub

def clientBondExists : Op Device Errno Bool := do
  let id := clientBondId pub
  if ← fileExists (.client id .pubkey) then idMatchesPub stack id pub else return false

def anchorBufSize : Nat := 1024

def certparseMaxChain : Nat := 8

/-- The chain is checked against the anchor slot's certificate. -/
def caValidateClientCertChain (anchorSlot : Slot) :
    List Bytes → Op Device Errno Unit
  | [] => .fail .einval
  | leaf :: intermediates => do
      match ← (storageSlotCertRead anchorSlot anchorBufSize).attempt with
      | .error .enoent => .fail .enoent
      | .error _ => .fail .eio
      | .ok anchor =>
        .ensure (intermediates.length ≤ certparseMaxChain) .einval
        match certparseVerifyChain wolf leaf intermediates anchor with
        | .ok () => pure ()
        | .error _ => .fail .einval

/-- Methods 4 and 5 read the chain, and nothing of the key. -/
def certificateStep (certs : List Bytes) : Op Device Errno Unit := do
  .ensure (certs.length ≠ 0) .eacces
  .ensure (certs.length ≤ sessionChainMaxCerts) .eacces
  match ← (caValidateClientCertChain wolf config.caAnchorSlot certs).attempt with
  | .ok () => pure ()
  | .error _ => .fail .eacces

/-- Method 4 asks for a chain and keeps no bond. -/
def pairingCheckCaAnchor (_pub : Bytes) (certs : List Bytes) : Op Device Errno Unit :=
  certificateStep wolf config certs

/-- Method 5 opens for known clients, others need the passkey. -/
inductive Admission where
  | known
  | certified
  deriving DecidableEq, Repr

def pairingCheckCaAnchorPlusPasskey (certs : List Bytes) : Op Device Errno Admission := do
  if ← clientBondExists stack pub then return .known
  certificateStep wolf config certs
  return .certified

/-- The two methods that rest on the CA. -/
inductive AnchoredMethod where
  | caAnchor
  | caAnchorPlusPasskey
  deriving DecidableEq, Repr

/-- The initiator passes on the strength of the chain. -/
def PassesByChain (device : Device) (pub : Bytes) (certs : List Bytes) : AnchoredMethod → Prop
  | .caAnchor => (pairingCheckCaAnchor wolf config pub certs device).1 = .ok ()
  | .caAnchorPlusPasskey =>
    (pairingCheckCaAnchorPlusPasskey wolf config stack pub certs device).1 = .ok .certified

theorem parseClientChain_length_le : (parseClientChain payload).length ≤ sessionChainMaxCerts :=
  Cbor.parseChain_length_le 32 sessionChainMaxCerts sessionClientChainMax payload

end Cantil
