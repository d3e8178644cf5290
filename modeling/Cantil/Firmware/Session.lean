import Cantil.Common.ChainPayload
import Cantil.Firmware.Pairing
import Cantil.Firmware.Reads
import Cantil.Library.Frame
import Cantil.Library.NoiseXX

namespace Cantil.Session
open Library Library.Noise Cbor DerWrite

/-- The name has 32 bytes, so it is the first hash as it stands. -/
def protocolName : Bytes := "Noise_XX_25519_ChaChaPoly_SHA256".toList.map fun letter => UInt8.ofNat letter.toNat

def sessionLeafDerMax : Nat := 1024

def sessionChainDerMax : Nat := 1536

def sessionChainPtMax : Nat := 2048

def noiseTagLen : Nat := 16

def sessionHsMsgMax : Nat := 32 + 48 + sessionChainPtMax + noiseTagLen

/-! The primitives over wolfCrypt. -/

variable (suite : Suite) (room : Nat) (sym : SymState)

def noiseCryptoDh (priv pub : Bytes) : Except Errno Bytes :=
  match suite.dh priv pub with
  | none => .error .eio
  | some shared => .ok shared

def noiseCryptoEncrypt (key : Bytes) (nonce : UInt64) (ad plain : Bytes) : Except Errno Bytes :=
  if room < plain.length + noiseTagLen then .error .einval else .ok (suite.encrypt key nonce ad plain)

def noiseCryptoDecrypt (key : Bytes) (nonce : UInt64) (ad cipher : Bytes) : Except Errno Bytes :=
  if cipher.length < noiseTagLen then .error .einval
  else if room < cipher.length - noiseTagLen then .error .einval
  else
    match suite.decrypt key nonce ad cipher with
    | none => .error .ebadmsg
    | some plain => .ok plain

/-- The library's 64 bytes are cut in half. -/
def noiseCryptoHkdf2 (ck ikm : Bytes) : Bytes × Bytes :=
  let okm := hkdf suite ck ikm [] 64
  (okm.take 32, okm.drop 32)

def symInit : SymState := ⟨protocolName, protocolName, List.replicate 32 0, 0, false⟩

def symMixHash (data : Bytes) : SymState :=
  { sym with h := suite.hash (sym.h ++ data) }

def symMixKey (ikm : Bytes) : SymState :=
  let (newCk, tempK) := noiseCryptoHkdf2 suite sym.ck ikm
  { sym with ck := newCk, k := tempK, n := 0, hasKey := true }

def symEncryptAndHash (plain : Bytes) : Except Errno (Bytes × SymState) :=
  if sym.hasKey then do
    let cipher ← noiseCryptoEncrypt suite room sym.k sym.n sym.h plain
    return (cipher, symMixHash suite { sym with n := sym.n + 1 } cipher)
  else if room < plain.length then .error .enobufs
  else .ok (plain, symMixHash suite sym plain)

def symDecryptAndHash (cipher : Bytes) : Except Errno (Bytes × SymState) :=
  if sym.hasKey then do
    let plain ← noiseCryptoDecrypt suite room sym.k sym.n sym.h cipher
    return (plain, symMixHash suite { sym with n := sym.n + 1 } cipher)
  else if room < cipher.length then .error .enobufs
  else .ok (cipher, symMixHash suite sym cipher)

def symSplit : Bytes × Bytes := noiseCryptoHkdf2 suite sym.ck []

/-- The bytes from and to the peer, and how a failure shows. -/
structure Transport where
  incoming : Bytes
  outgoing : Bytes
  sendError : Option Errno
  silence : Errno
  deriving DecidableEq, Repr

def rawSend (bytes : Bytes) : Op Transport Errno Unit := fun transport =>
  match transport.sendError with
  | some error => (.error error, transport)
  | none => (.ok (), { transport with outgoing := transport.outgoing ++ bytes })

/-- A wait ends in a timeout or with the connection. -/
def rawRecvExact (len : Nat) : Op Transport Errno Bytes := fun transport =>
  if transport.incoming.length < len then (.error transport.silence, { transport with incoming := [] })
  else (.ok (transport.incoming.take len), { transport with incoming := transport.incoming.drop len })

def sendFrame (message : Bytes) : Op Transport Errno Unit := do
  rawSend [UInt8.ofNat (message.length >>> 8), UInt8.ofNat (message.length &&& 0xFF)]
  rawSend message

def recvFrame (maxLen : Nat) : Op Transport Errno Bytes := do
  let hdr ← rawRecvExact 2
  let frameLen := bigEndianValue hdr
  .ensure (frameLen ≤ maxLen) .enobufs
  rawRecvExact frameLen

/-- The two key pairs, the identity files and the expected key. -/
structure Inputs where
  poolUsed : Bool
  staticKeypair : Except Errno (Bytes × Bytes)
  ephemeralKeypair : Except Errno (Bytes × Bytes)
  slotCert : Dispatcher.SessionCert
  chainFile : Option Bytes
  expectedClientPub : Option Bytes

variable (inputs : Inputs)

/-- The well-formed certificates that have room. -/
def splitStoredChain : (room : Nat) → Bytes → List Bytes
  | 0, _ => []
  | room + 1, rest =>
    if rest.length ≤ 1 then []
    else
      match derTlvLen rest 0x30 with
      | .error _ => []
      | .ok size => rest.take size :: splitStoredChain room (rest.drop size)

def collectLocalCerts (maxCerts : Nat) : Except Errno (List Bytes) :=
  match Dispatcher.sessionSlotGetCert inputs.slotCert sessionLeafDerMax with
  | .error .enoent => .ok []
  | .error error => .error error
  | .ok leaf =>
    if maxCerts < 1 then .error .enobufs
    else
      match inputs.chainFile with
      | none => .ok [leaf]
      | some chain => .ok (leaf :: splitStoredChain (maxCerts - 1) (chain.take sessionChainDerMax))

def encodeChainCbor (cap : Nat) (certs : List Bytes) : Except Errno Bytes := do
  let out ← emitHead cap [] mtMap 1
  let out ← emitHead cap out mtUint sessionCborKeyChain.toNat
  let out ← emitHead cap out mtArray certs.length
  certs.foldlM (emitBstr cap) out

/-- The certificates sent, none after a failure. -/
def localCerts : List Bytes :=
  match collectLocalCerts inputs sessionChainMaxCerts with
  | .error _ => []
  | .ok certs => certs

def chainPlaintext : Except Errno Bytes :=
  if (localCerts inputs).length > 0 then encodeChainCbor sessionChainPtMax (localCerts inputs) else .ok []

/-- The room comes from the size of a pointer, so it wraps. -/
def roomBehind (position : Nat) : Nat := (2 ^ 32 + 4 - position) % 2 ^ 32

def writeMsg2 (static ephemeral : Bytes × Bytes) (eIPub : Bytes) (sym : SymState) :
    Except Errno (Bytes × SymState) := do
  let chainPt ← chainPlaintext inputs
  let sym := symMixHash suite sym ephemeral.2
  let ee ← noiseCryptoDh suite ephemeral.1 eIPub
  let sym := symMixKey suite sym ee
  let (sealedStatic, sym) ← symEncryptAndHash suite (roomBehind 32) sym static.2
  let es ← noiseCryptoDh suite static.1 eIPub
  let sym := symMixKey suite sym es
  let (sealedChain, sym) ← symEncryptAndHash suite (roomBehind (32 + sealedStatic.length)) sym chainPt
  return (ephemeral.2 ++ sealedStatic ++ sealedChain, sym)

/-- Gives the initiator's static key, payload and last state. -/
def readMsg3 (expectedClientPub : Option Bytes) (ephemeral : Bytes × Bytes) (msg3 : Bytes) (sym : SymState) :
    Except Errno (Bytes × Bytes × SymState) := do
  let (remoteSPub, sym) ← symDecryptAndHash suite 32 sym (msg3.take 48)
  if expectedClientPub.any (· ≠ remoteSPub) then .error .eacces
  else
    let se ← noiseCryptoDh suite ephemeral.1 remoteSPub
    let sym := symMixKey suite sym se
    let (clientPt, sym) ← symDecryptAndHash suite sessionChainPtMax sym (msg3.drop 48)
    return (remoteSPub, clientPt, sym)

structure Established where
  rxKey : Bytes
  txKey : Bytes
  rxNonce : UInt64
  txNonce : UInt64
  remoteSPub : Bytes
  localSPub : Bytes
  clientChain : List Bytes
  deriving DecidableEq, Repr

/-- The session with what is wiped behind it. -/
structure Completed where
  session : Established
  clientPt : Bytes
  sym : SymState
  deriving DecidableEq, Repr

/-- What is kept between the last two messages. -/
structure Pending where
  static : Bytes × Bytes
  ephemeral : Bytes × Bytes
  sym : SymState
  deriving DecidableEq, Repr

/-- The handshake from its start to the second message. -/
def answerMsg1 : Op Transport Errno Pending := do
  .ensure (inputs.poolUsed = false) .enomem
  let static ← .lift inputs.staticKeypair
  let ephemeral ← .lift inputs.ephemeralKeypair
  let sym := symMixHash suite symInit []
  let msg1 ← recvFrame 32
  .ensure (msg1.length = 32) .eproto
  let sym := symMixHash suite (symMixHash suite sym msg1) []
  let (msg2, sym) ← .lift (writeMsg2 suite inputs static ephemeral msg1 sym)
  sendFrame msg2
  return ⟨static, ephemeral, sym⟩

/-- The handshake from the third message to the split. -/
def finishMsg3 (pending : Pending) : Op Transport Errno Completed := do
  let msg3 ← recvFrame sessionHsMsgMax
  .ensure (64 ≤ msg3.length) .eproto
  let (remoteSPub, clientPt, sym) ← .lift (readMsg3 suite inputs.expectedClientPub pending.ephemeral msg3 pending.sym)
  let (k1, k2) := symSplit suite sym
  return ⟨⟨k1, k2, 0, 0, remoteSPub, pending.static.2, parseClientChain clientPt⟩, clientPt, sym⟩

def handshake : Op Transport Errno Completed := do
  finishMsg3 suite inputs (← answerMsg1 suite inputs)

def sessionOpen : Op Transport Errno Established := do
  return (← handshake suite inputs).session

/-! The two parties write the same protocol: each function of the device is the one of the Noise framework. -/

section Primitives

variable {suite : Suite}

theorem symMixKey_eq (fixed : suite.FixedLength) (sym : SymState) (ikm : Bytes) :
    symMixKey suite sym ikm = mixKey suite sym ikm := by
  unfold symMixKey mixKey noiseCryptoHkdf2
  rw [hkdf_halves fixed]

theorem symSplit_eq (fixed : suite.FixedLength) (sym : SymState) :
    symSplit suite sym = Noise.symSplit suite sym :=
  hkdf_halves fixed sym.ck []

theorem noiseCryptoDh_eq_ok {priv pub shared : Bytes} :
    noiseCryptoDh suite priv pub = .ok shared ↔ suite.dh priv pub = some shared := by
  unfold noiseCryptoDh
  cases suite.dh priv pub <;> simp

theorem symEncryptAndHash_eq {room : Nat} {sym : SymState} {plain : Bytes} (keyed : sym.hasKey = true)
    (enough : plain.length + noiseTagLen ≤ room) :
    symEncryptAndHash suite room sym plain = .ok (encryptAndHash suite sym plain) := by
  simp only [symEncryptAndHash, noiseCryptoEncrypt, encryptAndHash, keyed, if_true, if_neg (Nat.not_lt.mpr enough)]
  rfl

theorem symDecryptAndHash_eq_ok (lawful : suite.Lawful) {room : Nat} {sym after : SymState} {cipher plain : Bytes}
    (keyed : sym.hasKey = true) :
    symDecryptAndHash suite room sym cipher = .ok (plain, after) ↔
      plain.length ≤ room ∧ decryptAndHash suite sym cipher = some (plain, after) := by
  simp only [symDecryptAndHash, noiseCryptoDecrypt, decryptAndHash, keyed, if_true]
  cases opened : suite.decrypt sym.k sym.n sym.h cipher with
  | none =>
    split_ifs
    all_goals simp [bind, Except.bind]
  | some found =>
    have tagged : cipher.length = found.length + noiseTagLen := lawful.decrypt_length _ _ _ _ _ opened
    by_cases long : room < found.length
    · rw [if_neg (by omega), if_pos (by omega)]
      simp only [bind, Except.bind, Option.map_some, Option.some.injEq, Prod.mk.injEq, reduceCtorEq, false_iff]
      rintro ⟨fits, rfl, _⟩
      omega
    · rw [if_neg (by omega), if_neg (by omega)]
      simp only [bind, Except.bind, pure, Except.pure, Except.ok.injEq, Option.map_some, Option.some.injEq,
        Prod.mk.injEq]
      constructor
      · rintro ⟨rfl, rfl⟩
        exact ⟨Nat.not_lt.mp long, rfl, rfl⟩
      · rintro ⟨_, rfl, rfl⟩
        exact ⟨rfl, rfl⟩

end Primitives

section Framing

variable {transport after : Transport} {message : Bytes}

theorem rawRecvExact_eq_ok {len : Nat} :
    rawRecvExact len transport = (.ok message, after) ↔
      ∃ rest, transport.incoming = message ++ rest ∧ message.length = len ∧
        after = { transport with incoming := rest } := by
  unfold rawRecvExact
  split_ifs with short
  · simp only [Prod.mk.injEq, reduceCtorEq, false_and, false_iff]
    rintro ⟨rest, shape, length, _⟩
    rw [shape, List.length_append] at short
    omega
  · simp only [Prod.mk.injEq, Except.ok.injEq]
    constructor
    · rintro ⟨rfl, rfl⟩
      obtain ⟨shape, length⟩ := cut_iff.mp ⟨Nat.not_lt.mp short, rfl, rfl⟩
      exact ⟨_, shape, length, rfl⟩
    · rintro ⟨rest, shape, length, rfl⟩
      obtain ⟨_, front, rfl⟩ := cut_iff.mpr ⟨shape, length⟩
      exact ⟨front, rfl⟩

/-- A frame is received exactly when it stands first and fits. -/
theorem recvFrame_eq_ok {maxLen : Nat} (small : maxLen < 65536) :
    recvFrame maxLen transport = (.ok message, after) ↔
      message.length ≤ maxLen ∧ ∃ rest, transport.incoming = Frame.encode message ++ rest ∧
        after = { transport with incoming := rest } := by
  simp only [recvFrame, Op.bind_eq_ok, Op.ensure_eq_ok, rawRecvExact_eq_ok]
  constructor
  · rintro ⟨header, _, ⟨_, shape, two, rfl⟩, _, _, ⟨fits, rfl⟩, rest, behind, announced, rfl⟩
    obtain rfl : _ = message ++ rest := behind
    obtain ⟨framed, _⟩ := Frame.encode_iff.mp ⟨header, shape, two, announced⟩
    exact ⟨by omega, rest, framed, rfl⟩
  · rintro ⟨fits, rest, framed, rfl⟩
    obtain ⟨header, shape, two, announced⟩ := Frame.encode_iff.mpr ⟨framed, by omega⟩
    exact ⟨header, _, ⟨_, shape, two, rfl⟩, (), _, ⟨by omega, rfl⟩, rest, rfl, announced, rfl⟩

/-- A transport that sends takes the whole frame. -/
theorem sendFrame_eq (transport : Transport) (message : Bytes) (sends : transport.sendError = none) :
    sendFrame message transport =
      (.ok (), { transport with outgoing := transport.outgoing ++ Frame.encode message }) := by
  simp [sendFrame, Op.bind_apply, rawSend, sends, Frame.encode_eq]

end Framing

/-- The octets of the payload that carries these certificates. -/
def payloadOf (certs : List Bytes) : Bytes := if certs = [] then [] else chainBytes certs

/-- The payload holds every certificate, or nothing is sent. -/
theorem chainPlaintext_eq_ok {inputs : Inputs} {payload : Bytes} :
    chainPlaintext inputs = .ok payload ↔
      payload = payloadOf (localCerts inputs) ∧ payload.length ≤ sessionChainPtMax := by
  unfold chainPlaintext payloadOf
  by_cases empty : localCerts inputs = []
  · simp only [empty, List.length_nil, gt_iff_lt, lt_irrefl, if_false, if_true, Except.ok.injEq]
    constructor
    · rintro rfl
      exact ⟨rfl, Nat.zero_le _⟩
    · rintro ⟨rfl, _⟩
      rfl
  · have present : (localCerts inputs).length > 0 := List.length_pos_iff.mpr empty
    rw [if_pos present, if_neg empty]
    exact emitChain_eq_ok

/-- With enough room the payload's certificates come back. -/
theorem parseChain_payloadOf {sizeBits : Nat} (wide : 32 ≤ sizeBits) (maxCerts maxTotal : Nat) (certs : List Bytes)
    (room : (payloadOf certs).length ≤ maxTotal) (narrow : maxTotal < 2 ^ 32) :
    parseChain sizeBits maxCerts maxTotal (payloadOf certs) = certs.take maxCerts := by
  unfold payloadOf at room ⊢
  split_ifs at room ⊢ with empty
  · rw [empty, List.take_nil]
    rfl
  · exact parseChain_chainBytes wide maxCerts maxTotal certs room narrow

theorem splitStoredChain_length (rest : Bytes) : (splitStoredChain room rest).length ≤ room := by
  induction room generalizing rest with
  | zero => exact Nat.zero_le _
  | succ room ih =>
    unfold splitStoredChain
    split
    · exact Nat.zero_le _
    · split
      · exact Nat.zero_le _
      · exact Nat.succ_le_succ (ih _)

theorem splitStoredChain_of_ok {room size : Nat} {rest : Bytes} (measured : derTlvLen rest 0x30 = .ok size) :
    splitStoredChain (room + 1) rest = rest.take size :: splitStoredChain room (rest.drop size) := by
  have bounds := derTlvLen_bounds measured
  rw [splitStoredChain, if_neg (by omega), measured]

theorem splitStoredChain_of_error {room : Nat} {rest : Bytes} {error : DerError}
    (stops : derTlvLen rest 0x30 = .error error) : splitStoredChain room rest = [] := by
  cases room with
  | zero => rfl
  | succ room =>
    rw [splitStoredChain, stops]
    split_ifs <;> rfl

/-- A cut loses nothing when all certificates lie in front of it. -/
theorem splitStoredChain_cut_iff {room limit whole : Nat} {chain : Bytes} (enough : chain.length ≤ whole) :
    splitStoredChain room (chain.take limit) = splitStoredChain whole chain ↔
      (splitStoredChain whole chain).length ≤ room ∧ (splitStoredChain whole chain).flatten.length ≤ limit := by
  induction room generalizing limit whole chain with
  | zero =>
    rw [Nat.le_zero, List.length_eq_zero_iff]
    constructor
    · intro empty
      rw [← empty]
      exact ⟨rfl, Nat.zero_le _⟩
    · exact fun both => both.1.symm
  | succ room ih =>
    cases measured : derTlvLen chain 0x30 with
    | error error =>
      cases cut : derTlvLen (chain.take limit) 0x30 with
      | error other => simp [splitStoredChain_of_error measured, splitStoredChain_of_error cut]
      | ok size =>
        have whole := (derTlvLen_take.mp cut).1
        rw [measured] at whole
        cases whole
    | ok size =>
      have bounds := derTlvLen_bounds measured
      obtain ⟨later, rfl⟩ := Nat.exists_eq_add_of_le' (bounds.1.trans (bounds.2.trans enough))
      rw [splitStoredChain_of_ok measured, List.length_cons, List.flatten_cons, List.length_append,
        List.length_take_of_le bounds.2]
      by_cases fits : size ≤ limit
      · have cut := derTlvLen_take.mpr ⟨measured, fits⟩
        rw [splitStoredChain_of_ok cut, List.take_take, Nat.min_eq_left fits, List.drop_take, List.cons_inj_right,
          ih (by rw [List.length_drop]; omega)]
        omega
      · cases cut : derTlvLen (chain.take limit) 0x30 with
        | error other =>
          rw [splitStoredChain_of_error cut]
          constructor
          · intro empty
            cases empty
          · omega
        | ok other =>
          obtain ⟨same, short⟩ := derTlvLen_take.mp cut
          cases measured.symm.trans same
          exact absurd short fits

theorem localCerts_length : (localCerts inputs).length ≤ sessionChainMaxCerts := by
  unfold localCerts collectLocalCerts
  cases Dispatcher.sessionSlotGetCert inputs.slotCert sessionLeafDerMax with
  | error error => cases error <;> exact Nat.zero_le _
  | ok leaf =>
    cases inputs.chainFile with
    | none => exact (by decide : 1 ≤ sessionChainMaxCerts)
    | some chain => exact Nat.succ_le_succ (splitStoredChain_length 3 (chain.take sessionChainDerMax))

/-- What was sent stays as it is. -/
def SendsNothing (before after : Transport) : Prop := after.outgoing = before.outgoing

instance : IsPreorder Transport SendsNothing where
  refl _ := rfl
  trans _ _ _ first second := second.trans first

theorem finishMsg3_silent (pending : Pending) : Op.Respects SendsNothing (finishMsg3 suite inputs pending) := by
  have receives (len : Nat) : Op.Respects SendsNothing (rawRecvExact len) := by
    intro transport
    unfold rawRecvExact
    split <;> rfl
  refine Op.Respects.bind ?_ fun msg3 => .read fun _ => .read fun _ =>
    .pure _
  exact (receives 2).bind fun _ => .read fun _ => receives _

/-- Nothing is sent after the second message. -/
theorem handshake_outgoing (transport : Transport) :
    (handshake suite inputs transport).2.outgoing = (answerMsg1 suite inputs transport).2.outgoing := by
  rw [handshake, Op.bind_apply]
  rcases answerMsg1 suite inputs transport with ⟨_ | pending, between⟩
  · rfl
  · exact finishMsg3_silent suite inputs pending between

section Messages

variable {suite : Suite} {inputs : Inputs} {staticSecret ephemeralSecret : Bytes} {sym after : SymState}

variable (lawful : suite.Lawful) (fixed : suite.FixedLength)
include lawful fixed

/-- The second message of the device is the one of the framework. -/
theorem writeMsg2_eq {payload : Bytes} (planned : chainPlaintext inputs = .ok payload) (eIPub : Bytes) :
    writeMsg2 suite inputs (staticSecret, suite.dhPublic staticSecret) (ephemeralSecret, suite.dhPublic ephemeralSecret)
        eIPub sym =
      match writeMessage2 suite sym staticSecret ephemeralSecret eIPub payload with
      | none => .error .eio
      | some sent => .ok sent := by
  have short := (chainPlaintext_eq_ok.mp planned).2
  have keyRoom : (suite.dhPublic staticSecret).length + noiseTagLen ≤ roomBehind 32 := by
    rw [lawful.dhPublic_length]
    decide
  have chainRoom : payload.length + noiseTagLen ≤ roomBehind 80 := by
    have room : sessionChainPtMax + noiseTagLen ≤ roomBehind 80 := by decide
    omega
  simp only [writeMsg2, writeMessage2, planned, noiseCryptoDh, bind, Except.bind]
  cases suite.dh ephemeralSecret eIPub with
  | none => rfl
  | some ee =>
    simp only [Option.bind_some, symMixKey_eq fixed, symEncryptAndHash_eq (mixKey_hasKey suite _ ee) keyRoom]
    cases suite.dh staticSecret eIPub with
    | none => rfl
    | some es =>
      have length : (encryptAndHash suite (mixKey suite (symMixHash suite sym (suite.dhPublic ephemeralSecret)) ee)
          (suite.dhPublic staticSecret)).1.length = 48 := by
        rw [encryptAndHash_length lawful _ _ rfl, lawful.dhPublic_length]
      simp only [length, symEncryptAndHash_eq (mixKey_hasKey suite _ es) chainRoom]
      rfl

theorem writeMsg2_eq_ok {eIPub msg2 : Bytes} :
    writeMsg2 suite inputs (staticSecret, suite.dhPublic staticSecret) (ephemeralSecret, suite.dhPublic ephemeralSecret)
        eIPub sym = .ok (msg2, after) ↔
      ∃ payload, chainPlaintext inputs = .ok payload ∧
        writeMessage2 suite sym staticSecret ephemeralSecret eIPub payload = some (msg2, after) := by
  cases planned : chainPlaintext inputs with
  | error error => simp [writeMsg2, planned, bind, Except.bind]
  | ok payload =>
    rw [writeMsg2_eq lawful fixed planned]
    cases wrote : writeMessage2 suite sym staticSecret ephemeralSecret eIPub payload <;> simp [wrote]

/-- Read by the framework's rules, with bounds on top. -/
theorem readMsg3_eq_ok (keyed : sym.hasKey = true) {expected : Option Bytes} {ephemeral : Bytes × Bytes}
    {msg3 remoteSPub clientPt : Bytes} :
    readMsg3 suite expected ephemeral msg3 sym = .ok (remoteSPub, clientPt, after) ↔
      remoteSPub.length ≤ 32 ∧ (∀ pub, expected = some pub → pub = remoteSPub) ∧
        clientPt.length ≤ sessionChainPtMax ∧
        readMessage3 suite sym ephemeral.1 msg3 = some ⟨remoteSPub, clientPt, after⟩ := by
  constructor
  · intro opened
    obtain ⟨⟨remote, between⟩, openStatic, rest⟩ := except_bind_ok opened
    obtain ⟨short, openStatic⟩ := (symDecryptAndHash_eq_ok lawful keyed).mp openStatic
    dsimp only at rest
    split_ifs at rest with refused
    obtain ⟨se, defined, rest⟩ := except_bind_ok rest
    rw [symMixKey_eq fixed] at rest
    obtain ⟨⟨payload, final⟩, openPayload, shape⟩ := except_bind_ok rest
    obtain ⟨fits, openPayload⟩ := (symDecryptAndHash_eq_ok lawful rfl).mp openPayload
    cases shape
    refine ⟨short, ?_, fits, ?_⟩
    · rintro pub rfl
      simpa using refused
    · simp [readMessage3, openStatic, noiseCryptoDh_eq_ok.mp defined, openPayload]
  · rintro ⟨short, expects, fits, read⟩
    simp only [readMessage3, Option.bind_eq_bind, Option.bind_eq_some_iff] at read
    obtain ⟨⟨remote, between⟩, openStatic, se, defined, ⟨payload, final⟩, openPayload, shape⟩ := read
    cases shape
    have admitted : expected.any (· ≠ remote) = false := by
      cases expected with
      | none => rfl
      | some pub => simp [expects pub rfl]
    have first := (symDecryptAndHash_eq_ok lawful keyed).mpr ⟨short, openStatic⟩
    have last := (symDecryptAndHash_eq_ok lawful (mixKey_hasKey suite between se)).mpr ⟨fits, openPayload⟩
    simp only [readMsg3, first, bind, Except.bind, admitted, noiseCryptoDh_eq_ok.mpr defined, symMixKey_eq fixed, last]
    rfl

/-- A free session and two key pairs that the suite made. -/
structure Ready (suite : Suite) (inputs : Inputs) (staticSecret ephemeralSecret : Bytes) : Prop where
  poolFree : inputs.poolUsed = false
  static : inputs.staticKeypair = .ok (staticSecret, suite.dhPublic staticSecret)
  ephemeral : inputs.ephemeralKeypair = .ok (ephemeralSecret, suite.dhPublic ephemeralSecret)

variable {transport left : Transport}

/-- The device answers exactly a first message that is one key. -/
theorem answerMsg1_eq_ok (ready : Ready suite inputs staticSecret ephemeralSecret)
    (sends : transport.sendError = none) {pending : Pending} :
    answerMsg1 suite inputs transport = (.ok pending, left) ↔
      ∃ msg1 rest payload msg2, transport.incoming = Frame.encode msg1 ++ rest ∧ msg1.length = 32 ∧
        chainPlaintext inputs = .ok payload ∧
        writeMessage2 suite (afterMessage1 suite protocolName msg1) staticSecret ephemeralSecret msg1 payload =
          some (msg2, pending.sym) ∧
        pending.static = (staticSecret, suite.dhPublic staticSecret) ∧
        pending.ephemeral = (ephemeralSecret, suite.dhPublic ephemeralSecret) ∧
        left = { transport with incoming := rest, outgoing := transport.outgoing ++ Frame.encode msg2 } := by
  have small : 32 < 65536 := by decide
  simp only [answerMsg1, Op.bind_eq_ok, Op.ensure_eq_ok, Op.lift_apply, ready.static, ready.ephemeral,
    recvFrame_eq_ok small, Prod.mk.injEq, Except.ok.injEq]
  constructor
  · rintro ⟨_, _, ⟨_, rfl⟩, _, _, ⟨rfl, rfl⟩, _, _, ⟨rfl, rfl⟩, msg1, _, ⟨_, rest, framed, rfl⟩, _, _, ⟨key, rfl⟩,
      ⟨msg2, sym⟩, _, ⟨wrote, rfl⟩, _, _, sent, last⟩
    obtain ⟨payload, planned, wrote⟩ := (writeMsg2_eq_ok lawful fixed).mp wrote
    obtain ⟨_, rfl⟩ := Prod.mk.inj ((sendFrame_eq ⟨rest, _, _, _⟩ msg2 sends).symm.trans sent)
    obtain ⟨shape, rfl⟩ := Prod.mk.inj last
    obtain rfl := Except.ok.inj shape
    exact ⟨msg1, rest, payload, msg2, framed, key, planned, wrote, rfl, rfl, rfl⟩
  · obtain ⟨static, ephemeral, sym⟩ := pending
    rintro ⟨msg1, rest, payload, msg2, framed, key, planned, wrote, rfl, rfl, rfl⟩
    have answered := (writeMsg2_eq_ok lawful fixed).mpr ⟨payload, planned, wrote⟩
    have sent := sendFrame_eq { transport with incoming := rest } msg2 sends
    exact ⟨(), transport, ⟨ready.poolFree, rfl⟩, _, transport, ⟨rfl, rfl⟩, _, transport, ⟨rfl, rfl⟩, msg1, _,
      ⟨by omega, rest, framed, rfl⟩, (), _, ⟨key, rfl⟩, (msg2, sym), _, ⟨answered, rfl⟩, (), _, sent, rfl⟩

/-- The device takes what the framework reads, within bounds. -/
theorem finishMsg3_eq_ok {pending : Pending} (keyed : pending.sym.hasKey = true) {completed : Completed} :
    finishMsg3 suite inputs pending transport = (.ok completed, left) ↔
      ∃ msg3 rest, transport.incoming = Frame.encode msg3 ++ rest ∧ 64 ≤ msg3.length ∧
        msg3.length ≤ sessionHsMsgMax ∧ completed.session.remoteSPub.length ≤ 32 ∧
        (∀ pub, inputs.expectedClientPub = some pub → pub = completed.session.remoteSPub) ∧
        completed.clientPt.length ≤ sessionChainPtMax ∧
        readMessage3 suite pending.sym pending.ephemeral.1 msg3 =
          some ⟨completed.session.remoteSPub, completed.clientPt, completed.sym⟩ ∧
        completed.session = ⟨(Noise.symSplit suite completed.sym).1, (Noise.symSplit suite completed.sym).2, 0, 0,
          completed.session.remoteSPub, pending.static.2, parseClientChain completed.clientPt⟩ ∧
        left = { transport with incoming := rest } := by
  have small : sessionHsMsgMax < 65536 := by decide
  simp only [finishMsg3, Op.bind_eq_ok, Op.ensure_eq_ok, Op.lift_apply, recvFrame_eq_ok small, Prod.mk.injEq]
  constructor
  · rintro ⟨msg3, _, ⟨short, rest, framed, rfl⟩, _, _, ⟨long, rfl⟩, ⟨remoteSPub, clientPt, sym⟩, _, ⟨read, rfl⟩, last⟩
    obtain ⟨keyShort, expects, fits, read⟩ := (readMsg3_eq_ok lawful fixed keyed).mp read
    obtain ⟨shape, rfl⟩ := Prod.mk.inj last
    obtain rfl := Except.ok.inj shape
    rw [symSplit_eq fixed]
    exact ⟨msg3, rest, framed, long, short, keyShort, expects, fits, read, rfl, rfl⟩
  · rintro ⟨msg3, rest, framed, long, short, keyShort, expects, fits, read, shape, rfl⟩
    have accepted := (readMsg3_eq_ok lawful fixed keyed).mpr ⟨keyShort, expects, fits, read⟩
    refine ⟨msg3, _, ⟨short, rest, framed, rfl⟩, (), _, ⟨long, rfl⟩, _, _, ⟨accepted, rfl⟩, ?_⟩
    rw [symSplit_eq fixed, Op.pure_apply, ← shape]

end Messages

end Cantil.Session
