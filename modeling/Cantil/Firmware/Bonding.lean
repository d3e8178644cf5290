import Cantil.Common.CborDecode
import Cantil.Firmware.Clients
import Cantil.Firmware.SessionSlot

namespace Cantil.Clients
open Library
open Gesture (ConfirmResult gestureRequestPairConfirm)
open Protocol (Err)

inductive ClientKind where
  | host
  | peerDevice
  deriving DecidableEq, Repr

def ClientKind.code : ClientKind → UInt8
  | .host => 0
  | .peerDevice => 1

def clientMetaVersion : UInt8 := 1

inductive PairingMethod where
  | promiscuous
  | tofu
  | tapConfirm
  | passkey
  | caAnchor
  | caAnchorPlusPasskey
  deriving DecidableEq, Repr

/-- The pairing options of the build. -/
structure PairingBuild where
  method : PairingMethod
  maxClientBonds : Nat
  maxPeerBonds : Nat
  deriving DecidableEq, Repr

/-- A static key. -/
abbrev Key := { pub : Bytes // pub.length = 32 }

/-- What medium, session, backend and user do in one pairing. -/
structure PairEnv extends Faults, BondEnv where
  pskWrite : WriteOutcome
  /-- The certificates of message 3. -/
  certs : List Bytes
  /-- The random words of the passkey. -/
  draws : List (Except Errno UInt32)
  received : Except Errno Bytes
  gesture : Gesture.Machine
  /-- The answer to the prompt, if it is shown. -/
  tapped : ConfirmResult
  localPubkey : Except Errno Bytes
  hkdfSha256 : (ikm salt info : Bytes) → Except Errno Bytes
  storageKeyDerive : Except Errno Unit
  encryptBlob : Bytes → Except Errno Bytes

/-! The bonds. -/

/-- A new directory is listed where the file system puts it. -/
def Bonds.listed (bonds : Bonds) (place : Nat) (name : Bytes) : Bonds :=
  if name ∈ bonds.dirs then bonds else { bonds with dirs := bonds.dirs.take place ++ name :: bonds.dirs.drop place }

variable (build : PairingBuild) (depth : Nat) (env : PairEnv) (pub : Bytes) (kind : ClientKind)

/-- The directory is made before the file. -/
def storageClientBondPubkeyWrite (id pub : Bytes) : BondOp Unit := fun store =>
  let (result, device) := writeFile env.toFaults (.client id .pubkey) pub store.device
  match env.write (.client id .pubkey) with
  | .mkdirFailed _ => (result, { store with device })
  | _ => (result, ⟨device, store.bonds.listed env.place (hexName id)⟩)

def storageClientBondPskWrite (id blob : Bytes) : BondOp Unit := fun store =>
  let (result, content) := SessionSlot.writeContent env.pskWrite (store.bonds.psk id) blob
  (result, { store with bonds.psk := Function.update store.bonds.psk id content })

/-- A record that cannot be read is passed over. -/
def countCb (metadata : Option Bytes) (counts : Nat × Nat) : Nat × Nat :=
  match metadata with
  | none => counts
  | some data =>
    let buf := data.take clientMetaSize
    if buf.length < 2 then counts
    else if buf.getD 1 0 = ClientKind.host.code then (counts.1 + 1, counts.2)
    else if buf.getD 1 0 = ClientKind.peerDevice.code then (counts.1, counts.2 + 1)
    else counts

/-- Names that are not eight hex digits are passed over. -/
def countBonds (bonds : Bonds) : List Bytes → Nat × Nat → Nat × Nat
  | [], counts => counts
  | name :: rest, counts =>
    match if name.length = 8 then hexBytes name else none with
    | none => countBonds bonds rest counts
    | some id => countBonds bonds rest (countCb (bonds.metadata id) counts)

/-- The bonded hosts and the bonded devices. -/
def clientBondCount : BondOp (Nat × Nat) :=
  match env.clientsDir with
  | some .enoent => return (0, 0)
  | some error => .fail error
  | none => .reads fun store => .ok (countBonds store.bonds store.bonds.dirs (0, 0))

def newMeta (nowUnix : UInt32) : ClientMeta :=
  ⟨clientMetaVersion, kind.code, [0, 0], rfl, nowUnix, nowUnix, List.replicate clientMetaNameMax 0,
    List.length_replicate⟩

/-- The first four bytes name a key, and may be taken. -/
def checkFresh : BondOp Unit := do
  let id := clientBondId pub
  if ← onDevice (fileExists (.client id .pubkey)) then
    if ← onDevice (idMatchesPub (env.stack id).1 id pub) then .fail .eexist else .fail .eaddrinuse

def checkCaps : BondOp Unit := do
  let (hosts, peers) ← clientBondCount env
  .ensure (¬ (kind = .host ∧ hosts ≥ build.maxClientBonds)) .enospc
  .ensure (¬ (kind = .peerDevice ∧ peers ≥ build.maxPeerBonds)) .enospc

/-- The key comes first, and goes again without its record. -/
def storeBond (nowUnix : UInt32) : BondOp Unit := do
  let id := clientBondId pub
  storageClientBondPubkeyWrite env id pub
  match ← (storageClientBondMetaWrite env.toBondEnv id (newMeta kind nowUnix).bytes).attempt with
  | .ok () => pure ()
  | .error error =>
    let _ ← (storageClientBondDelete env.toBondEnv id).attempt
    .fail error

def clientBondAdd (nowUnix : UInt32) : BondOp Unit := do
  .ensure ((← onDevice storageVolumeMayMint) = true) .erofs
  checkFresh env pub
  checkCaps build env kind
  storeBond env pub kind nowUnix

/-! The pairing gate. -/

def cmdPairingPasskeyReply : UInt32 := 0x73

def errAuth : UInt32 := 10

def errPasskeyRequired : UInt32 := 11

def passkeyAttempts : Nat := 8

/-- Six digits, not all zero, or zero when every draw failed. -/
def generatePasskey : List (Except Errno UInt32) → UInt32
  | [] => 0
  | .error _ :: rest => generatePasskey rest
  | .ok raw :: rest => if raw % 1000000 ≠ 0 then raw % 1000000 else generatePasskey rest

/-- The text `cantil-psk-v1`. -/
def pskInfo : Bytes := [0x63, 0x61, 0x6E, 0x74, 0x69, 0x6C, 0x2D, 0x70, 0x73, 0x6B, 0x2D, 0x76, 0x31]

def derivePsk (passkey : UInt32) (localPub remotePub : Bytes) : Except Errno Bytes :=
  env.hkdfSha256 (bigEndian 4 passkey.toNat) (localPub ++ remotePub) pskInfo

/-- The answer to the client, and what the gate returns. -/
structure Exchange where
  reply : Option (UInt32 × UInt32)
  result : Except Errno Unit
  deriving DecidableEq, Repr

def silent (result : Except Errno Unit) : Exchange := ⟨none, result⟩

def refuse (seq err : UInt32) : Exchange := ⟨some (seq, err), .error .eacces⟩

/-- The passkey's number, or the answer to another message. -/
def passkeyReply (received : Except Errno Bytes) (passkey : UInt32) : Except Exchange UInt32 :=
  match received with
  | .error _ => .error (silent (.error .eacces))
  | .ok message =>
    match (Cbor.decodeRequest 32 depth message 0).1 with
    | .error _ => .error (refuse 0 Err.invalidArgs.code)
    | .ok (cmd, seq, data) =>
      if cmd ≠ cmdPairingPasskeyReply then .error (refuse seq errPasskeyRequired)
      else if data = [] then .error (refuse seq Err.invalidArgs.code)
      else
        match Cbor.readUint32 data 0 with
        | .error _ => .error (refuse seq Err.invalidArgs.code)
        | .ok (digits, _) => if digits ≠ passkey then .error (refuse seq errAuth) else .ok seq

/-- The prompt is refused, or the answer to it decides. -/
def pairConfirm : Except UInt32 Unit :=
  match (gestureRequestPairConfirm (.request 0) env.gesture).1 with
  | .error _ => .error Err.busy.code
  | .ok () => if env.tapped = .ok then .ok () else .error errAuth

def sealPsk (passkey : UInt32) (pub : Bytes) : Except Errno Bytes := do
  let localPub ← env.localPubkey
  let psk ← derivePsk env passkey localPub pub
  env.storageKeyDerive
  env.encryptBlob psk

/-- Without room the client is accepted for this session. -/
def bondWithPsk (blob : Bytes) (seq : UInt32) : BondOp Exchange := do
  let accepted : Exchange := ⟨some (seq, Err.ok.code), .ok ()⟩
  let stored : BondOp Exchange := do
    let _ ← (storageClientBondPskWrite env (clientBondId pub) blob).attempt
    return accepted
  match ← (clientBondAdd build env pub .host 0).attempt with
  | .ok () => stored
  | .error .eexist => stored
  | .error .erofs => return accepted
  | .error _ => return refuse seq Err.storage.code

def passkeyExchangeAndBond : BondOp Exchange :=
  let passkey := generatePasskey (env.draws.take passkeyAttempts)
  if passkey = 0 then return silent (.error .eacces)
  else
    match passkeyReply depth env.received passkey with
    | .error exchange => return exchange
    | .ok seq =>
      match pairConfirm env with
      | .error err => return refuse seq err
      | .ok () =>
        match sealPsk env passkey pub with
        | .error _ => return refuse seq Err.crypto.code
        | .ok blob => bondWithPsk build env pub blob seq

/-- The exchange fails without a look at the store, or bonds. -/
theorem passkeyExchangeAndBond_cases :
    (∃ exchange, passkeyExchangeAndBond build depth env pub = pure exchange) ∨
      ∃ blob seq, passkeyExchangeAndBond build depth env pub = bondWithPsk build env pub blob seq := by
  unfold passkeyExchangeAndBond
  by_cases failed : generatePasskey (env.draws.take passkeyAttempts) = 0
  · exact .inl ⟨_, if_pos failed⟩
  rw [if_neg failed]
  rcases passkeyReply depth env.received (generatePasskey (env.draws.take passkeyAttempts)) with exchange | seq
  · exact .inl ⟨exchange, rfl⟩
  rcases pairConfirm env with err | _
  · exact .inl ⟨_, rfl⟩
  rcases sealPsk env (generatePasskey (env.draws.take passkeyAttempts)) pub with error | blob
  · exact .inl ⟨_, rfl⟩
  · exact .inr ⟨blob, seq, rfl⟩

/-- A bond that exists or may not be stored counts as new. -/
def acceptBond : Except Errno Unit → Except Errno Unit
  | .ok () => .ok ()
  | .error .eexist => .ok ()
  | .error .erofs => .ok ()
  | .error _ => .error .eacces

/-- A known client passes, and a lookup that fails is passed on. -/
def unlessKnown (next : BondOp Exchange) : BondOp Exchange := do
  match ← (onDevice (clientBondExists (env.stack (clientBondId pub)).1 pub)).attempt with
  | .ok true => return silent (.ok ())
  | .ok false => next
  | .error error => return silent (.error error)

/-- The cap is tested first. A failed count refuses nothing. -/
def unlessFull (next : BondOp Exchange) : BondOp Exchange := do
  match ← (clientBondCount env).attempt with
  | .ok (hosts, _) => if hosts ≥ build.maxClientBonds then return silent (.error .eacces) else next
  | .error _ => next

def bondQuietly : BondOp Exchange := do
  return silent (acceptBond (← (clientBondAdd build env pub .host 0).attempt))

def pairingCheckAndBond (wolf : WolfReader) (config : Config) (build : PairingBuild) (depth : Nat) (env : PairEnv)
    (pub : Bytes) : BondOp Exchange :=
  match build.method with
  | .promiscuous => return silent (.ok ())
  | .tofu => unlessKnown env pub (bondQuietly build env pub)
  | .tapConfirm => unlessKnown env pub <| unlessFull build env <|
      match pairConfirm env with
      | .error _ => return silent (.error .eacces)
      | .ok () => bondQuietly build env pub
  | .passkey => unlessKnown env pub <| unlessFull build env <| passkeyExchangeAndBond build depth env pub
  | .caAnchor => do return silent (← (onDevice (pairingCheckCaAnchor wolf config pub env.certs)).attempt)
  | .caAnchorPlusPasskey => do
      let known := (env.stack (clientBondId pub)).1
      match ← (onDevice (pairingCheckCaAnchorPlusPasskey wolf config known pub env.certs)).attempt with
      | .error error => return silent (.error error)
      | .ok .known => return silent (.ok ())
      | .ok .certified => unlessFull build env <| passkeyExchangeAndBond build depth env pub

/-! What a pairing can do to the store. -/

section Frames

variable {wolf : WolfReader} {config : Config} {build : PairingBuild} {env : PairEnv} {pub : Bytes}
variable {relation : BondStore → BondStore → Prop} [IsPreorder BondStore relation]

instance (stack pub : Bytes) : Op.Reader (clientBondExists stack pub) := by
  unfold clientBondExists
  infer_instance

instance : Op.Reader (clientBondCount env) := by
  unfold clientBondCount
  split <;> infer_instance

instance (certs : List Bytes) : Op.Reader (caValidateClientCertChain wolf config.caAnchorSlot certs) := by
  unfold caValidateClientCertChain
  split
  · infer_instance
  · refine .read fun anchor => ?_
    split
    · infer_instance
    · infer_instance
    · split <;> infer_instance

instance (certs : List Bytes) : Op.Reader (certificateStep wolf config certs) := by
  refine .read fun _ => .read fun _ => .read fun outcome => ?_
  split <;> infer_instance

instance (certs : List Bytes) : Op.Reader (pairingCheckCaAnchor wolf config pub certs) :=
  inferInstanceAs (Op.Reader (certificateStep wolf config certs))

instance (stack pub : Bytes) (certs : List Bytes) :
    Op.Reader (pairingCheckCaAnchorPlusPasskey wolf config stack pub certs) := by
  unfold pairingCheckCaAnchorPlusPasskey
  infer_instance

instance : Op.Reader (checkFresh env pub) := by
  unfold checkFresh
  infer_instance

instance (kind : ClientKind) : Op.Reader (checkCaps build env kind) := by
  unfold checkCaps
  infer_instance

theorem clientBondAdd_respects {kind : ClientKind} {nowUnix : UInt32}
    (stored : Op.Respects relation (storeBond env pub kind nowUnix)) :
    Op.Respects relation (clientBondAdd build env pub kind nowUnix) :=
  .read fun _ => .read fun _ =>
    .read fun _ => .read fun _ => stored

theorem bondQuietly_respects (stored : Op.Respects relation (storeBond env pub .host 0)) :
    Op.Respects relation (bondQuietly build env pub) :=
  (clientBondAdd_respects stored).attempt.bind fun _ => .pure _

theorem bondWithPsk_respects (stored : Op.Respects relation (storeBond env pub .host 0)) {blob : Bytes}
    (keyed : Op.Respects relation (storageClientBondPskWrite env (clientBondId pub) blob)) (seq : UInt32) :
    Op.Respects relation (bondWithPsk build env pub blob seq) := by
  refine (clientBondAdd_respects stored).attempt.bind fun outcome => ?_
  split
  · exact keyed.attempt.bind fun _ => .pure _
  · exact keyed.attempt.bind fun _ => .pure _
  · exact .pure _
  · exact .pure _

/-- A known client changes nothing. -/
theorem unlessKnown_related {next : BondOp Exchange} {store : BondStore} (unknown : relation store (next store).2) :
    relation store (unlessKnown env pub next store).2 := by
  refine Op.relates_reader fun outcome _ => ?_
  split
  · exact refl store
  · exact unknown
  · exact refl store

theorem unlessFull_related {next : BondOp Exchange} {store : BondStore} (room : relation store (next store).2) :
    relation store (unlessFull build env next store).2 := by
  refine Op.relates_reader fun outcome _ => ?_
  split
  · split
    · exact refl store
    · exact room
  · exact room

/-- A pairing does no more than the bond that it may end in. -/
theorem pairingCheckAndBond_related {store : BondStore} (quiet : relation store (bondQuietly build env pub store).2)
    (withPsk : ∀ blob seq, relation store (bondWithPsk build env pub blob seq store).2) :
    relation store (pairingCheckAndBond wolf config build depth env pub store).2 := by
  have exchanged : relation store (passkeyExchangeAndBond build depth env pub store).2 := by
    rcases passkeyExchangeAndBond_cases build depth env pub with ⟨exchange, failed⟩ | ⟨blob, seq, bonded⟩
    · rw [failed]
      exact refl store
    · rw [bonded]
      exact withPsk blob seq
  unfold pairingCheckAndBond
  cases build.method with
  | promiscuous => exact refl store
  | tofu => exact unlessKnown_related quiet
  | tapConfirm =>
    refine unlessKnown_related (unlessFull_related ?_)
    cases pairConfirm env with
    | error err => exact refl store
    | ok _ => exact quiet
  | passkey => exact unlessKnown_related (unlessFull_related exchanged)
  | caAnchor =>
    exact (Op.Respects.read fun _ => .pure _) store
  | caAnchorPlusPasskey =>
    refine Op.relates_reader ?_
    intro outcome _
    split
    · exact refl store
    · exact refl store
    · exact unlessFull_related exchanged

end Frames

/-! A pairing on a volume that may hold no new secret stores nothing. -/

section Unmintable

variable {wolf : WolfReader} {config : Config} {build : PairingBuild} {env : PairEnv} {pub : Bytes}
variable {store : BondStore}

variable (unmintable : mayMint store.device = false)

include unmintable

theorem clientBondAdd_unmintable (kind : ClientKind) (nowUnix : UInt32) :
    clientBondAdd build env pub kind nowUnix store = (.error .erofs, store) := by
  simp [clientBondAdd, Op.bind_apply, onDevice, storageVolumeMayMint, unmintable, Op.ensure]

theorem bondQuietly_unmintable :
    store = (bondQuietly build env pub store).2 := by
  simp [bondQuietly, Op.bind_apply, clientBondAdd_unmintable unmintable]

theorem bondWithPsk_unmintable (blob : Bytes) (seq : UInt32) :
    store = (bondWithPsk build env pub blob seq store).2 := by
  simp [bondWithPsk, Op.bind_apply, clientBondAdd_unmintable unmintable]

theorem pairingCheckAndBond_unmintable : store = (pairingCheckAndBond wolf config build depth env pub store).2 :=
  pairingCheckAndBond_related depth (bondQuietly_unmintable unmintable) (bondWithPsk_unmintable unmintable)

end Unmintable

end Cantil.Clients
