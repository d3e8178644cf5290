import Cantil.Common.ChainPayload
import Cantil.Host.Trust
import Cantil.Library.Frame
import Cantil.Library.NoiseXX
import Cantil.Library.Op
import Mathlib.Data.Option.Basic

namespace Cantil.Host
open Library Library.Noise Cbor

/-- The bytes of `Noise_XX_25519_ChaChaPoly_SHA256`. -/
def protocolName : Bytes :=
  [0x4E, 0x6F, 0x69, 0x73, 0x65, 0x5F, 0x58, 0x58, 0x5F, 0x32, 0x35, 0x35, 0x31, 0x39, 0x5F, 0x43,
    0x68, 0x61, 0x43, 0x68, 0x61, 0x50, 0x6F, 0x6C, 0x79, 0x5F, 0x53, 0x48, 0x41, 0x32, 0x35, 0x36]

def maxFramePayload : Nat := 4096

def deviceChainMax : Nat := 4096

def deviceChainCerts : Nat := 8

def clientCborSize : Nat := 3000

structure Session where
  txKey : Bytes
  rxKey : Bytes
  txNonce : UInt64
  rxNonce : UInt64
  deviceSPub : Bytes
  clientSPub : Bytes
  deviceChain : List Bytes
  deriving DecidableEq, Repr

/-- The two length bytes, then the message. -/
def sendFrame (message : Bytes) : Bytes :=
  [UInt8.ofNat (message.length >>> 8), UInt8.ofNat (message.length &&& 0xFF)] ++ message

/-- The wait fails when too few bytes come until the deadline. -/
def recvExact (len : Nat) (incoming : Bytes) : Option (Bytes × Bytes) :=
  if incoming.length < len then none else some (incoming.take len, incoming.drop len)

def recvFrame (maxLen : Nat) (incoming : Bytes) : Option Bytes := do
  let (hdr, incoming) ← recvExact 2 incoming
  let frameLen := bigEndianValue hdr
  guard (frameLen ≤ maxLen)
  let (message, _) ← recvExact frameLen incoming
  return message

theorem sendFrame_eq_encode (message : Bytes) : sendFrame message = Frame.encode message :=
  (Frame.encode_eq message).symm

variable {incoming : Bytes}

theorem recvExact_eq_some {len : Nat} {front rest : Bytes} :
    recvExact len incoming = some (front, rest) ↔ incoming = front ++ rest ∧ front.length = len := by
  rw [← cut_iff, recvExact]
  split_ifs with short
  · simp [Nat.not_le.mpr short]
  · simp [Nat.not_lt.mp short]

/-- A frame is received exactly when it stands first and fits. -/
theorem recvFrame_eq_some {maxLen : Nat} (small : maxLen < 65536) {message : Bytes} :
    recvFrame maxLen incoming = some message ↔
      message.length ≤ maxLen ∧ ∃ rest, incoming = Frame.encode message ++ rest := by
  simp only [recvFrame, Option.bind_eq_bind, Option.bind_eq_some_iff, Option.guard_eq_some', Prod.exists,
    recvExact_eq_some, Option.pure_def, Option.some.injEq]
  constructor
  · rintro ⟨header, _, ⟨rfl, two⟩, _, fits, _, rest, ⟨rfl, announced⟩, rfl⟩
    obtain ⟨shape, _⟩ := Frame.encode_iff.mp ⟨header, rfl, two, announced⟩
    exact ⟨by omega, rest, shape⟩
  · rintro ⟨fits, rest, shape⟩
    obtain ⟨header, rfl, two, announced⟩ := Frame.encode_iff.mpr ⟨shape, by omega⟩
    exact ⟨header, message ++ rest, ⟨rfl, two⟩, (), by omega, message, rest, ⟨rfl, announced⟩, rfl⟩

structure ClientCert where
  certDer : Bytes
  chainDer : Bytes
  deriving DecidableEq, Repr

/-- What caller, random source and transport give a handshake. -/
structure OpenInputs where
  clientPriv : Bytes
  ephemeralPriv : Bytes
  clientCert : Option ClientCert
  msg1Sent : Bool
  msg2 : Option Bytes
  msg3Sent : Bool
  deriving DecidableEq, Repr

def parseDeviceChain (sizeBits : Nat) (payload : Bytes) : List Bytes :=
  parseChain sizeBits deviceChainCerts deviceChainMax payload

/-- The same parser, with the session's chain buffer. -/
def parseDeviceChainInto (sizeBits : Nat) (payload : Bytes) (chain beyond : Memory) : RecordedChain :=
  recordChain sizeBits deviceChainCerts deviceChainMax payload chain beyond

/-- The size of the DER SEQUENCE in front of a chain blob. -/
def sequenceSize (rest : Bytes) : Option Nat :=
  match rest with
  | tag :: first :: body =>
    if rest.length ≤ 2 ∨ tag ≠ 0x30 then none
    else
      let places := (first &&& 0x7F).toNat
      if first &&& 0x80 ≠ 0 then
        if places > 3 ∨ 2 + places > rest.length then none
        else
          let size := 2 + places + bigEndianValue (body.take places)
          if size > rest.length then none else some size
      else
        let size := 2 + first.toNat
        if size > rest.length then none else some size
  | _ => none

/-- Each pass takes one certificate. -/
def splitChain : (fuel : Nat) → Bytes → List Bytes
  | 0, _ => []
  | fuel + 1, rest =>
    match sequenceSize rest with
    | none => []
    | some size => rest.take size :: splitChain fuel (rest.drop size)

/-- The third message carries the client chain or the empty map. -/
def clientCbor (clientCert : Option ClientCert) : Except Errno Bytes :=
  match clientCert with
  | none => .ok [0xA0]
  | some cert =>
    if cert.certDer.length = 0 then .ok [0xA0]
    else do
      let intermediates := splitChain cert.chainDer.length cert.chainDer
      let out ← emitHead clientCborSize [] mtMap 1
      let out ← emitHead clientCborSize out mtUint sessionCborKeyChain.toNat
      let out ← emitHead clientCborSize out mtArray (1 + intermediates.length)
      let out ← emitBstr clientCborSize out cert.certDer
      intermediates.foldlM (emitBstr clientCborSize) out

/-- Gives the session and the third message. -/
def sessionOpen (suite : Suite) (x509 : X509) (sizeBits : Nat) (policy : Option TrustPolicy)
    (inputs : OpenInputs) : Option (Session × Bytes) := do
  let clientSPub := suite.dhPublic inputs.clientPriv
  let state := afterMessage1 suite protocolName (suite.dhPublic inputs.ephemeralPriv)
  guard inputs.msg1Sent
  let msg2 ← inputs.msg2
  guard (96 ≤ msg2.length ∧ msg2.length ≤ maxFramePayload)
  let received ← readMessage2 suite state inputs.ephemeralPriv msg2
  let chain := parseDeviceChain sizeBits received.payload
  guard (trustCheckPolicy suite.hash x509 policy chain = .ok)
  let payload ← (clientCbor inputs.clientCert).toOption
  let (sealedStatic, state) := encryptAndHash suite received.state clientSPub
  let se ← suite.dh inputs.clientPriv received.responderEphemeral
  let (sealedPayload, state) := encryptAndHash suite (mixKey suite state se) payload
  guard inputs.msg3Sent
  let (txKey, rxKey) := symSplit suite state
  return (⟨txKey, rxKey, 0, 0, received.responderStatic, clientSPub, chain⟩,
    sealedStatic ++ sealedPayload)

/-- The certificates that the host presents, from the leaf on. -/
def clientCerts (clientCert : Option ClientCert) : List Bytes :=
  match clientCert with
  | none => []
  | some cert => if cert.certDer.length = 0 then [] else cert.certDer :: splitChain cert.chainDer.length cert.chainDer

/-- The octets of the payload that carries these certificates. -/
def clientPayload (certs : List Bytes) : Bytes := if certs = [] then [0xA0] else chainBytes certs

theorem clientCbor_eq_ok {clientCert : Option ClientCert} {payload : Bytes} :
    clientCbor clientCert = .ok payload ↔
      payload = clientPayload (clientCerts clientCert) ∧ payload.length ≤ clientCborSize := by
  have empty : (.ok [0xA0] : Except Errno Bytes) = .ok payload ↔
      payload = clientPayload [] ∧ payload.length ≤ clientCborSize := by
    constructor
    · rintro ⟨⟩
      decide
    · rintro ⟨rfl, _⟩
      rfl
  unfold clientCbor clientCerts
  cases clientCert with
  | none => exact empty
  | some cert =>
    dsimp only
    split_ifs with absent
    · exact empty
    · rw [clientPayload, if_neg (List.cons_ne_nil _ _), ← emitChain_eq_ok, Nat.add_comm]
      rfl

variable {suite : Suite} {x509 : X509} {sizeBits : Nat} {policy : Option TrustPolicy} {inputs : OpenInputs}
  {session : Session} {msg3 : Bytes}

/-- A session opens on a readable, fitting payload. -/
theorem sessionOpen_eq_some :
    sessionOpen suite x509 sizeBits policy inputs = some (session, msg3) ↔
      inputs.msg1Sent = true ∧ inputs.msg3Sent = true ∧ ∃ msg2 received payload sym,
        inputs.msg2 = some msg2 ∧ (96 ≤ msg2.length ∧ msg2.length ≤ maxFramePayload) ∧
        readMessage2 suite (afterMessage1 suite protocolName (suite.dhPublic inputs.ephemeralPriv))
          inputs.ephemeralPriv msg2 = some received ∧
        trustCheckPolicy suite.hash x509 policy (parseDeviceChain sizeBits received.payload) = .ok ∧
        clientCbor inputs.clientCert = .ok payload ∧
        writeMessage3 suite received.state inputs.clientPriv received.responderEphemeral payload = some (msg3, sym) ∧
        session = ⟨(symSplit suite sym).1, (symSplit suite sym).2, 0, 0, received.responderStatic,
          suite.dhPublic inputs.clientPriv, parseDeviceChain sizeBits received.payload⟩ := by
  constructor
  · intro opened
    simp only [sessionOpen, Option.bind_eq_bind, Option.bind_eq_some_iff, Option.guard_eq_some'] at opened
    obtain ⟨_, sent1, msg2, arrived, _, size, received, read, _, accepted, payload, encoded, se, defined, _, sent3,
      final⟩ := opened
    obtain ⟨rfl, rfl⟩ := Prod.mk.inj (Option.some.inj final)
    refine ⟨sent1, sent3, msg2, received, payload, _, arrived, size, read, accepted, toOption_eq_some.mp encoded, ?_,
      rfl⟩
    simp [writeMessage3, defined]
  · rintro ⟨sent1, sent3, msg2, received, payload, sym, arrived, size, read, accepted, encoded, wrote, rfl⟩
    simp only [writeMessage3, Option.bind_eq_bind, Option.bind_eq_some_iff] at wrote
    obtain ⟨se, defined, shape⟩ := wrote
    obtain ⟨rfl, rfl⟩ := Prod.mk.inj (Option.some.inj shape)
    simp [sessionOpen, sent1, sent3, arrived, size, read, accepted, encoded, defined, Except.toOption, guard]

/-- The second message delivered payload and key. -/
def Delivers (suite : Suite) (inputs : OpenInputs) (staticKey payload : Bytes) : Prop :=
  ∃ msg2 received, inputs.msg2 = some msg2 ∧
    readMessage2 suite (afterMessage1 suite protocolName (suite.dhPublic inputs.ephemeralPriv))
      inputs.ephemeralPriv msg2 = some received ∧
    received.responderStatic = staticKey ∧ received.payload = payload

/-- An opened session's chain has passed the policy. -/
theorem sessionOpen_some (lawful : suite.Lawful)
    (opened : sessionOpen suite x509 sizeBits policy inputs = some (session, msg3)) :
    ∃ payload, Delivers suite inputs session.deviceSPub payload ∧
      payload.length + 96 ≤ maxFramePayload ∧
      session.deviceChain = parseDeviceChain sizeBits payload ∧
      trustCheckPolicy suite.hash x509 policy (parseDeviceChain sizeBits payload) = .ok := by
  obtain ⟨_, _, msg2, received, _, _, arrived, ⟨long, short⟩, read, accepted, _, _, rfl⟩ :=
    sessionOpen_eq_some.mp opened
  refine ⟨received.payload, ⟨msg2, received, arrived, read, rfl, rfl⟩, ?_, rfl, accepted⟩
  have length := readMessage2_length lawful long read
  omega

end Cantil.Host
