import Cantil.Firmware.Session
import Cantil.Proof.DeviceBinding

namespace Cantil.Handshake
open Library Library.Noise Frame

/-- A network may change the bytes of the three frames. -/
structure Network where
  first : Bytes → Bytes
  second : Bytes → Bytes
  third : Bytes → Bytes
  first_length : ∀ frame, (first frame).length = frame.length
  second_length : ∀ frame, (second frame).length = frame.length
  third_length : ∀ frame, (third frame).length = frame.length

/-- What both parties bring, the network, and what arrives later. -/
structure Exchange where
  suite : Suite
  x509 : Host.X509
  sizeBits : Nat
  sizeBits_wide : 32 ≤ sizeBits
  policy : Option Host.TrustPolicy
  clientPriv : Bytes
  clientEphemeral : Bytes
  clientCert : Option Host.ClientCert
  deviceStatic : Bytes
  deviceEphemeral : Bytes
  slotCert : Dispatcher.SessionCert
  chainFile : Option Bytes
  expectedClientPub : Option Bytes
  silence : Errno
  network : Network
  later : Bytes

namespace Exchange

variable (exchange : Exchange)

def deviceInputs : Session.Inputs where
  poolUsed := false
  staticKeypair := .ok (exchange.deviceStatic, exchange.suite.dhPublic exchange.deviceStatic)
  ephemeralKeypair := .ok (exchange.deviceEphemeral, exchange.suite.dhPublic exchange.deviceEphemeral)
  slotCert := exchange.slotCert
  chainFile := exchange.chainFile
  expectedClientPub := exchange.expectedClientPub

def transport (incoming : Bytes) : Session.Transport := ⟨incoming, [], none, exchange.silence⟩

def sent1 : Bytes := Host.sendFrame (exchange.suite.dhPublic exchange.clientEphemeral)

def delivered1 : Bytes := exchange.network.first exchange.sent1

/-- What the device sends while it has seen the first frame only. -/
def sent2 : Bytes :=
  (Session.handshake exchange.suite exchange.deviceInputs (exchange.transport exchange.delivered1)).2.outgoing

def delivered2 : Bytes := exchange.network.second exchange.sent2

def hostInputs : Host.OpenInputs where
  clientPriv := exchange.clientPriv
  ephemeralPriv := exchange.clientEphemeral
  clientCert := exchange.clientCert
  msg1Sent := true
  msg2 := Host.recvFrame Host.maxFramePayload exchange.delivered2
  msg3Sent := true

/-- The session of the host and its third message. -/
def host : Option (Host.Session × Bytes) :=
  Host.sessionOpen exchange.suite exchange.x509 exchange.sizeBits exchange.policy exchange.hostInputs

def sent3 : Bytes :=
  match exchange.host with
  | some (_, msg3) => Host.sendFrame msg3
  | none => []

def delivered3 : Bytes := exchange.network.third exchange.sent3

/-- All that the device receives. -/
def stream : Bytes := exchange.delivered1 ++ (exchange.delivered3 ++ exchange.later)

/-- The session of the device. -/
def device : Except Errno Session.Established :=
  (Session.sessionOpen exchange.suite exchange.deviceInputs (exchange.transport exchange.stream)).1

/-- The same with what the device wipes at the end. -/
def completed : Except Errno Session.Completed :=
  (Session.handshake exchange.suite exchange.deviceInputs (exchange.transport exchange.stream)).1

/-- What the host reads from the second message. -/
def hostReceived : Option Message2 := do
  let msg2 ← exchange.hostInputs.msg2
  readMessage2 exchange.suite
    (afterMessage1 exchange.suite Host.protocolName (exchange.suite.dhPublic exchange.clientEphemeral))
    exchange.clientEphemeral msg2

/-- The state of the host at the split. -/
def hostSym : Option SymState := do
  let received ← exchange.hostReceived
  let payload ← (Host.clientCbor exchange.clientCert).toOption
  let (_, sym) ← writeMessage3 exchange.suite received.state exchange.clientPriv received.responderEphemeral payload
  return sym

def hostView : Option View := do
  let msg2 ← exchange.hostInputs.msg2
  let payload ← (Host.clientCbor exchange.clientCert).toOption
  initiatorView exchange.suite Host.protocolName exchange.clientPriv exchange.clientEphemeral msg2 payload

/-- The two frames that the device reads. -/
def deviceFrames : Op Session.Transport Errno (Bytes × Bytes) := do
  let msg1 ← Session.recvFrame 32
  let msg3 ← Session.recvFrame Session.sessionHsMsgMax
  return (msg1, msg3)

def deviceView : Option View := do
  let (msg1, msg3) ← (deviceFrames (exchange.transport exchange.stream)).1.toOption
  let payload ← (Session.chainPlaintext exchange.deviceInputs).toOption
  responderView exchange.suite Session.protocolName exchange.deviceStatic exchange.deviceEphemeral msg1 payload msg3

/-- Some byte of some frame is not delivered as it was sent. -/
def Tampered : Prop :=
  exchange.delivered1 ≠ exchange.sent1 ∨ exchange.delivered2 ≠ exchange.sent2 ∨ exchange.delivered3 ≠ exchange.sent3

/-- No hash collides, and only what a party sealed is opened. -/
def IdealCrypto : Prop :=
  ∀ initiator responder, exchange.hostView = some initiator → exchange.deviceView = some responder →
    Ideal exchange.suite Host.protocolName initiator responder

/-- Both payloads fit the buffers of the device. -/
def WithinLimits : Prop :=
  (Session.payloadOf (Session.localCerts exchange.deviceInputs)).length ≤ Session.sessionChainPtMax ∧
    (Host.clientPayload (Host.clientCerts exchange.clientCert)).length ≤ Session.sessionChainPtMax

/-- Host and device trust and expect each other. -/
def Admitted : Prop :=
  Host.trustCheckPolicy exchange.suite.hash exchange.x509 exchange.policy
      (Session.localCerts exchange.deviceInputs) = .ok ∧
    ∀ pub, exchange.expectedClientPub = some pub → pub = exchange.suite.dhPublic exchange.clientPriv

/-- Crossed keys, one transcript and the other's payload. -/
def Agrees : Prop :=
  ∃ session msg3 completed received, exchange.host = some (session, msg3) ∧
    exchange.device = .ok completed.session ∧ exchange.completed = .ok completed ∧
    session.txKey = completed.session.rxKey ∧ session.rxKey = completed.session.txKey ∧
    exchange.hostSym = some completed.sym ∧
    session.deviceSPub = exchange.suite.dhPublic exchange.deviceStatic ∧
    completed.session.remoteSPub = exchange.suite.dhPublic exchange.clientPriv ∧
    exchange.hostReceived = some received ∧
    received.payload = Session.payloadOf (Session.localCerts exchange.deviceInputs) ∧
    session.deviceChain = Session.localCerts exchange.deviceInputs ∧
    completed.clientPt = Host.clientPayload (Host.clientCerts exchange.clientCert) ∧
    completed.session.clientChain = (Host.clientCerts exchange.clientCert).take sessionChainMaxCerts

theorem ready : Session.Ready exchange.suite exchange.deviceInputs exchange.deviceStatic exchange.deviceEphemeral :=
  ⟨rfl, rfl, rfl⟩

theorem device_eq : exchange.device = exchange.completed.map Session.Completed.session := by
  rw [device, completed, Session.sessionOpen, Op.bind_apply]
  rcases Session.handshake exchange.suite exchange.deviceInputs (exchange.transport exchange.stream) with
    ⟨_ | completed, _⟩ <;> rfl

theorem sent1_eq : exchange.sent1 = encode (exchange.suite.dhPublic exchange.clientEphemeral) :=
  Host.sendFrame_eq_encode _

variable {session : Host.Session} {msg3 : Bytes}

theorem sent3_eq (opened : exchange.host = some (session, msg3)) :
    exchange.sent3 = encode msg3 := by
  rw [sent3, opened]
  exact Host.sendFrame_eq_encode msg3

variable {msg1 : Bytes}

theorem deviceFrames_eq {transport : Session.Transport} {behind rest : Bytes}
    (framed1 : transport.incoming = encode msg1 ++ behind) (short1 : msg1.length ≤ 32)
    (framed3 : behind = encode msg3 ++ rest) (short3 : msg3.length ≤ Session.sessionHsMsgMax) :
    deviceFrames transport = (.ok (msg1, msg3), { transport with incoming := rest }) := by
  simp only [deviceFrames, Op.bind_eq_ok]
  exact ⟨msg1, _, (Session.recvFrame_eq_ok (by decide)).mpr ⟨short1, behind, framed1, rfl⟩, msg3, _,
    (Session.recvFrame_eq_ok (by decide)).mpr ⟨short3, rest, framed3, rfl⟩, rfl⟩

theorem parseClientChain_clientPayload {certs : List Bytes}
    (fits : (Host.clientPayload certs).length ≤ sessionClientChainMax) :
    parseClientChain (Host.clientPayload certs) = certs.take sessionChainMaxCerts := by
  unfold Host.clientPayload at fits ⊢
  split_ifs at fits ⊢ with empty
  · rw [empty]
    rfl
  · exact Cbor.parseChain_chainBytes (by decide) sessionChainMaxCerts sessionClientChainMax certs fits (by decide)

variable {exchange}

variable {msg2 payload : Bytes} {final : SymState}

/-- A host that reads the second message and trusts it completes. -/
theorem host_of_frames {received : Message2}
    (framed : exchange.delivered2 = encode msg2) (length : msg2.length = 96 + received.payload.length)
    (fits : received.payload.length ≤ Session.sessionChainPtMax)
    (read : readMessage2 exchange.suite
      (afterMessage1 exchange.suite Host.protocolName (exchange.suite.dhPublic exchange.clientEphemeral))
      exchange.clientEphemeral msg2 = some received)
    (trusted : Host.trustCheckPolicy exchange.suite.hash exchange.x509 exchange.policy
      (Host.parseDeviceChain exchange.sizeBits received.payload) = .ok)
    (encoded : Host.clientCbor exchange.clientCert = .ok payload)
    (wrote : writeMessage3 exchange.suite received.state exchange.clientPriv received.responderEphemeral payload =
      some (msg3, final)) :
    exchange.host = some (⟨(symSplit exchange.suite final).1, (symSplit exchange.suite final).2, 0, 0,
        received.responderStatic, exchange.suite.dhPublic exchange.clientPriv,
        Host.parseDeviceChain exchange.sizeBits received.payload⟩, msg3) ∧
      exchange.hostReceived = some received ∧ exchange.hostSym = some final := by
  have inFrame : 96 ≤ msg2.length ∧ msg2.length ≤ Host.maxFramePayload := by
    have room : 96 + Session.sessionChainPtMax ≤ Host.maxFramePayload := by decide
    omega
  have arrived : exchange.hostInputs.msg2 = some msg2 :=
    (Host.recvFrame_eq_some (by decide)).mpr ⟨inFrame.2, [], by rw [List.append_nil, framed]⟩
  have got : exchange.hostReceived = some received := by
    rw [hostReceived, arrived]
    exact read
  refine ⟨Host.sessionOpen_eq_some.mpr
    ⟨rfl, rfl, msg2, received, payload, final, arrived, inFrame, read, trusted, encoded, wrote, rfl⟩, got, ?_⟩
  simp only [hostSym, got, encoded, Except.toOption, Option.bind_eq_bind, Option.bind_some, wrote]
  rfl

section Runs

variable (lawful : exchange.suite.Lawful)
include lawful

/-- A host that completes has run to the end of its view. -/
theorem host_view (opened : exchange.host = some (session, msg3)) :
    ∃ view msg2 rest, exchange.hostView = some view ∧ view.Sized ∧
      (∀ call ∈ view.calls2 exchange.suite Host.protocolName, call.Opens exchange.suite) ∧
      view.initiatorEphemeral = exchange.suite.dhPublic exchange.clientEphemeral ∧
      view.responderEphemeral ++ view.sealedStatic2 ++ view.sealedPayload2 = msg2 ∧
      view.sealedStatic3 ++ view.sealedPayload3 = msg3 ∧ exchange.delivered2 = encode msg2 ++ rest := by
  obtain ⟨_, _, msg2, received, payload, sym, arrived, ⟨long, _⟩, read, _, encoded, wrote, _⟩ :=
    Host.sessionOpen_eq_some.mp opened
  obtain ⟨_, rest, framed⟩ := (Host.recvFrame_eq_some (by decide)).mp arrived
  obtain ⟨view, seen, _, sized, opens, ephemeral, second, third⟩ :=
    initiatorView_some lawful (by omega) read wrote
  refine ⟨view, msg2, rest, ?_, sized, opens, ephemeral, second, third, framed⟩
  change Host.clientCbor exchange.clientCert = .ok payload at encoded
  simp only [hostView, arrived, encoded, Except.toOption, Option.bind_eq_bind, Option.bind_some]
  exact seen

variable (fixed : exchange.suite.FixedLength)
include fixed

/-- The second frame depends on the first one only. -/
theorem sent2_eq {sym : SymState} (framed : exchange.delivered1 = encode msg1)
    (key : msg1.length = 32) (planned : Session.chainPlaintext exchange.deviceInputs = .ok payload)
    (wrote : writeMessage2 exchange.suite (afterMessage1 exchange.suite Session.protocolName msg1)
      exchange.deviceStatic exchange.deviceEphemeral msg1 payload = some (msg2, sym)) :
    exchange.sent2 = encode msg2 := by
  have stream : (exchange.transport exchange.delivered1).incoming = encode msg1 ++ [] := by
    rw [List.append_nil]
    exact framed
  have answered : Session.answerMsg1 exchange.suite exchange.deviceInputs (exchange.transport exchange.delivered1) =
      (.ok ⟨_, _, sym⟩, _) :=
    (Session.answerMsg1_eq_ok lawful fixed exchange.ready rfl).mpr
      ⟨msg1, [], payload, msg2, stream, key, planned, wrote, rfl, rfl, rfl⟩
  rw [sent2, Session.handshake_outgoing, answered]
  exact List.nil_append _

variable {completed : Session.Completed}

/-- A device that completes has run to the end of its view. -/
theorem device_view (opened : exchange.completed = .ok completed) :
    ∃ view msg3 rest, exchange.deviceView = some view ∧ view.Sized ∧
      (∀ call ∈ view.calls3 exchange.suite Session.protocolName, call.Opens exchange.suite) ∧
      exchange.delivered1 = encode view.initiatorEphemeral ∧
      exchange.sent2 = encode (view.responderEphemeral ++ view.sealedStatic2 ++ view.sealedPayload2) ∧
      view.sealedStatic3 ++ view.sealedPayload3 = msg3 ∧
      exchange.delivered3 ++ exchange.later = encode msg3 ++ rest := by
  obtain ⟨pending, between, answered, finished⟩ := Op.bind_eq_ok.mp (Prod.ext opened rfl)
  obtain ⟨msg1, behind, payload, msg2, framed, key, planned, wrote, _, ephemeral, rfl⟩ :=
    (Session.answerMsg1_eq_ok lawful fixed exchange.ready rfl).mp answered
  have keyed := writeMessage2_hasKey lawful wrote
  obtain ⟨msg3, rest, framed3, long, short, _, _, _, read, _, _⟩ :=
    (Session.finishMsg3_eq_ok lawful fixed keyed).mp finished
  rw [ephemeral] at read
  obtain ⟨view, seen, _, sized, opens, rfl, rfl, third⟩ := responderView_some lawful key (by omega) wrote read
  have length : exchange.delivered1.length = (encode view.initiatorEphemeral).length := by
    rw [delivered1, exchange.network.first_length, sent1_eq, encode_length, encode_length, key,
      lawful.dhPublic_length]
  obtain ⟨first, third'⟩ := List.append_inj framed length
  refine ⟨view, msg3, rest, ?_, sized, opens, first, sent2_eq lawful fixed first key planned wrote, third, ?_⟩
  · have frames := deviceFrames_eq framed (by omega) framed3 short
    simp only [deviceView, frames, planned, Except.toOption, Option.bind_eq_bind, Option.bind_some]
    exact seen
  · rw [third']
    exact framed3

/-- Two sides that complete got each frame as it was sent. -/
theorem untampered_of_complete (ideal : exchange.IdealCrypto)
    (opened : exchange.host = some (session, msg3))
    (finished : exchange.completed = .ok completed) : ¬ exchange.Tampered := by
  obtain ⟨initiator, msg2, rest2, hostSeen, initiatorSized, initiatorOpens, ephemeral, rfl, rfl, framed2⟩ :=
    host_view lawful opened
  obtain ⟨responder, _, rest3, deviceSeen, responderSized, responderOpens, framed1, sent2, rfl, framed3⟩ :=
    device_view lawful fixed finished
  have agreed := Ideal.agree fixed (by decide) (ideal initiator responder hostSeen deviceSeen) initiatorSized
    responderSized (List.forall_mem_append.mpr ⟨initiatorOpens, responderOpens⟩)
  simp only [View.hashedData, List.cons.injEq, true_and, and_true] at agreed
  obtain ⟨e1, e2, static2, payload2, static3, payload3⟩ := agreed
  rw [← e2, ← static2, ← payload2] at sent2
  rw [← static3, ← payload3] at framed3
  have sent3 := exchange.sent3_eq opened
  intro tampered
  -- A frame that keeps its length is read as it was sent only if it is delivered so.
  rcases tampered with first | second | third
  · apply first
    rw [framed1, sent1_eq, ← ephemeral, e1]
  · apply second
    have length := exchange.network.second_length exchange.sent2
    rw [← delivered2, framed2, sent2, List.length_append] at length
    rw [framed2, sent2, List.eq_nil_of_length_eq_zero (by omega : rest2.length = 0), List.append_nil]
  · apply third
    have length := exchange.network.third_length exchange.sent3
    rw [← delivered3, sent3] at length
    rw [sent3, (List.append_inj framed3 length).1]

/-- A device that reads the third message in its frame completes. -/
theorem device_of_frames {clientPt : Bytes} {middle : SymState}
    (framed1 : exchange.delivered1 = encode msg1) (key : msg1.length = 32)
    (planned : Session.chainPlaintext exchange.deviceInputs = .ok payload)
    (wrote : writeMessage2 exchange.suite (afterMessage1 exchange.suite Session.protocolName msg1)
      exchange.deviceStatic exchange.deviceEphemeral msg1 payload = some (msg2, middle))
    (framed3 : exchange.delivered3 = encode msg3) (length : msg3.length = 64 + clientPt.length)
    (fits : clientPt.length ≤ Session.sessionChainPtMax)
    (expected : ∀ pub, exchange.expectedClientPub = some pub → pub = exchange.suite.dhPublic exchange.clientPriv)
    (read : readMessage3 exchange.suite middle exchange.deviceEphemeral msg3 =
      some ⟨exchange.suite.dhPublic exchange.clientPriv, clientPt, final⟩) :
    exchange.completed = .ok ⟨⟨(symSplit exchange.suite final).1, (symSplit exchange.suite final).2, 0, 0,
      exchange.suite.dhPublic exchange.clientPriv, exchange.suite.dhPublic exchange.deviceStatic,
      parseClientChain clientPt⟩, clientPt, final⟩ := by
  have keyed := writeMessage2_hasKey lawful wrote
  have stream : exchange.stream = encode msg1 ++ (encode msg3 ++ exchange.later) := by
    rw [Exchange.stream, framed1, framed3]
  have answered : Session.answerMsg1 exchange.suite exchange.deviceInputs (exchange.transport exchange.stream) =
      (.ok ⟨_, _, middle⟩, _) :=
    (Session.answerMsg1_eq_ok lawful fixed exchange.ready rfl).mpr
      ⟨msg1, _, payload, msg2, stream, key, planned, wrote, rfl, rfl, rfl⟩
  have short : msg3.length ≤ Session.sessionHsMsgMax := by
    have room : 64 + Session.sessionChainPtMax ≤ Session.sessionHsMsgMax := by decide
    omega
  have clientKey := (lawful.dhPublic_length exchange.clientPriv).le
  rw [Exchange.completed, Session.handshake, Op.bind_of_ok answered]
  refine congrArg Prod.fst ((Session.finishMsg3_eq_ok lawful fixed keyed).mpr
    ⟨msg3, exchange.later, rfl, by omega, short, clientKey, expected, fits, read, rfl, rfl⟩)

/-- Unchanged frames take both sides to the same state. -/
theorem agrees_of_untampered (untampered : ¬ exchange.Tampered) (limits : exchange.WithinLimits)
    (admitted : exchange.Admitted) : exchange.Agrees := by
  unfold Agrees
  obtain ⟨deviceFits, clientFits⟩ := limits
  obtain ⟨trusted, expected⟩ := admitted
  simp only [Tampered, not_or, not_not] at untampered
  obtain ⟨same1, same2, same3⟩ := untampered
  generalize certsEq : Session.localCerts exchange.deviceInputs = certs at *
  have few : certs.length ≤ sessionChainMaxCerts := by
    rw [← certsEq]
    exact Session.localCerts_length exchange.deviceInputs
  have planned : Session.chainPlaintext exchange.deviceInputs = .ok (Session.payloadOf certs) := by
    rw [Session.chainPlaintext_eq_ok, certsEq]
    exact ⟨rfl, deviceFits⟩
  have keyLength := lawful.dhPublic_length exchange.clientEphemeral
  -- The second message.
  obtain ⟨msg2, middle, wrote2, length2, read2⟩ := readMessage2_writeMessage2 lawful
    (afterMessage1 exchange.suite Host.protocolName (exchange.suite.dhPublic exchange.clientEphemeral))
    exchange.deviceStatic exchange.deviceEphemeral exchange.clientEphemeral (Session.payloadOf certs)
  have framed1 := same1.trans exchange.sent1_eq
  have framed2 := same2.trans (sent2_eq lawful fixed framed1 keyLength planned wrote2)
  have chain : Host.parseDeviceChain exchange.sizeBits (Session.payloadOf certs) = certs := by
    rw [Host.parseDeviceChain, Session.parseChain_payloadOf exchange.sizeBits_wide _ _ certs
      (deviceFits.trans (by decide)) (by decide), List.take_of_length_le (few.trans (by decide))]
  -- The third message.
  generalize clientEq : Host.clientCerts exchange.clientCert = client at *
  have encoded : Host.clientCbor exchange.clientCert = .ok (Host.clientPayload client) := by
    rw [Host.clientCbor_eq_ok, clientEq]
    exact ⟨rfl, clientFits.trans (by decide)⟩
  obtain ⟨msg3, final, wrote3, length3, read3⟩ := readMessage3_writeMessage3 lawful
    (writeMessage2_hasKey lawful wrote2) exchange.clientPriv exchange.deviceEphemeral (Host.clientPayload client)
  obtain ⟨opened, received, hostSym⟩ := host_of_frames framed2 length2 deviceFits read2
    (by rw [chain]; exact trusted) encoded wrote3
  have framed3 := same3.trans (exchange.sent3_eq opened)
  have finished := device_of_frames lawful fixed framed1 keyLength planned wrote2 framed3 length3 clientFits expected
    read3
  have established := exchange.device_eq
  rw [finished] at established
  exact ⟨_, msg3, _, _, opened, established, finished, rfl, rfl, hostSym, rfl, rfl, received, rfl, chain, rfl,
    parseClientChain_clientPayload clientFits⟩

end Runs

end Exchange

/-- Unchanged frames agree, and a changed byte stops one side. -/
theorem exchange_agrees (exchange : Exchange) (lawful : exchange.suite.Lawful)
    (fixed : exchange.suite.FixedLength) :
    (¬ exchange.Tampered → exchange.WithinLimits → exchange.Admitted → exchange.Agrees) ∧
      (exchange.IdealCrypto → exchange.Tampered →
        exchange.host = none ∨ ∃ error, exchange.device = .error error) := by
  refine ⟨Exchange.agrees_of_untampered lawful fixed, fun ideal tampered => ?_⟩
  cases opened : exchange.host with
  | none => exact .inl rfl
  | some session =>
    cases finished : exchange.completed with
    | error error => exact .inr ⟨error, by rw [exchange.device_eq, finished]; rfl⟩
    | ok completed => exact absurd tampered (Exchange.untampered_of_complete lawful fixed ideal opened finished)

/-- A digest of 32 bytes that depends on every byte of the data. -/
def digest (data : Bytes) : Bytes :=
  bigEndian 32 (data.foldl (fun sum byte => (sum * 257 + byte.toNat + 1) % (2 ^ 256 - 189)) 5381)

def tagOf (key : Bytes) (nonce : UInt64) (ad plain : Bytes) : Bytes :=
  (digest (key ++ bigEndian 8 nonce.toNat ++ ad ++ plain)).take 16

/-- A small suite whose tags are checked. -/
def taggedSuite : Suite where
  hash := digest
  hmac key data := digest (key ++ data)
  dhPublic := Host.padKey
  dh secret key := some (List.zipWith (· + ·) (Host.padKey secret) key)
  encrypt key nonce ad plain := plain ++ tagOf key nonce ad plain
  decrypt key nonce ad cipher :=
    let plain := cipher.take (cipher.length - 16)
    if cipher = plain ++ tagOf key nonce ad plain then some plain else none

theorem tagOf_length (key : Bytes) (nonce : UInt64) (ad plain : Bytes) : (tagOf key nonce ad plain).length = 16 := by
  simp [tagOf, digest]

theorem taggedSuite_lawful : taggedSuite.Lawful where
  dh_comm := Host.sampleSuite_lawful.dh_comm
  dh_defined := Host.sampleSuite_lawful.dh_defined
  dhPublic_length := Host.sampleSuite_lawful.dhPublic_length
  encrypt_length key nonce ad plain := by simp [taggedSuite, tagOf_length]
  decrypt_encrypt key nonce ad plain := by simp [taggedSuite, tagOf_length]
  decrypt_length key nonce ad cipher plain opened := by
    simp only [taggedSuite] at opened
    split at opened
    case isTrue shape =>
      obtain rfl := Option.some.inj opened
      conv_lhs => rw [shape]
      rw [List.length_append, tagOf_length]
    case isFalse => cases opened

theorem taggedSuite_fixed : taggedSuite.FixedLength where
  hash_length _ := bigEndian_length 32 _
  hmac_length _ _ := bigEndian_length 32 _

/-- A network that delivers what it is given. -/
def honestNetwork : Network := ⟨id, id, id, fun _ => rfl, fun _ => rfl, fun _ => rfl⟩

theorem untampered_of_honest {exchange : Exchange} (honest : exchange.network = honestNetwork) :
    ¬ exchange.Tampered := by
  simp [Exchange.Tampered, Exchange.delivered1, Exchange.delivered2, Exchange.delivered3, honest, honestNetwork]

def sampleExchange : Exchange where
  suite := taggedSuite
  x509 := Host.sampleX509
  sizeBits := 64
  sizeBits_wide := by decide
  policy := none
  clientPriv := [1]
  clientEphemeral := [2]
  clientCert := some ⟨[0x30, 0x01, 0x05], [0x30, 0x01, 0x06, 0x30, 0x00]⟩
  deviceStatic := [3]
  deviceEphemeral := [4]
  slotCert := ⟨none, some Host.sampleLeaf⟩
  chainFile := some [0x30, 0x01, 0x07]
  expectedClientPub := some (Host.padKey [1])
  silence := .etimedout
  network := honestNetwork
  later := []

/-- One byte of the sealed key in the second frame is changed. -/
def tamperedExchange : Exchange :=
  { sampleExchange with
    network := { honestNetwork with
      second := fun frame => frame.set 40 0xFF
      second_length := fun _ => List.length_set } }

/-- What both parties of the sample mix into their states. -/
def sampleView : View where
  initiatorEphemeral := Host.padKey [2]
  responderEphemeral := Host.padKey [4]
  ee := Host.padKey [6]
  sealedStatic2 := ((sampleExchange.sent2.drop 2).drop 32).take 48
  es := Host.padKey [5]
  sealedPayload2 := (sampleExchange.sent2.drop 2).drop 80
  sealedStatic3 := (sampleExchange.sent3.drop 2).take 48
  se := Host.padKey [5]
  sealedPayload3 := (sampleExchange.sent3.drop 2).drop 48

theorem sampleExchange_views :
    sampleExchange.hostView = some sampleView ∧ sampleExchange.deviceView = some sampleView := by
  decide +kernel

theorem sampleExchange_ideal : sampleExchange.IdealCrypto := by
  intro initiator responder hostSeen deviceSeen
  obtain rfl := Option.some.inj (sampleExchange_views.1.symm.trans hostSeen)
  obtain rfl := Option.some.inj (sampleExchange_views.2.symm.trans deviceSeen)
  have distinct : ∀ index < 8, ∀ other < 8,
      digest (sampleView.hashInput taggedSuite Host.protocolName index) =
          digest (sampleView.hashInput taggedSuite Host.protocolName other) →
        index = other := by
    decide +kernel
  constructor
  · intro first firstParty second secondParty index inside other otherInside same
    simp only [List.mem_cons, List.not_mem_nil, or_false, or_self] at firstParty secondParty
    subst firstParty secondParty
    rw [distinct index inside other otherInside same]
  · intro call mine _
    exact mine

theorem sampleExchange_withinLimits : sampleExchange.WithinLimits := ⟨by decide, by decide⟩

theorem tamperedExchange_unread : tamperedExchange.hostView = none := by decide +kernel

/-- One exchange agrees, and a changed byte stops it. -/
theorem sampleExchange_agrees : sampleExchange.Agrees ∧ sampleExchange.IdealCrypto ∧
    (tamperedExchange.host = none ∨ ∃ error, tamperedExchange.device = .error error) := by
  refine ⟨(exchange_agrees sampleExchange taggedSuite_lawful taggedSuite_fixed).1 ?_ ?_ ?_, sampleExchange_ideal,
    (exchange_agrees tamperedExchange taggedSuite_lawful taggedSuite_fixed).2 ?_ ?_⟩
  · exact untampered_of_honest rfl
  · exact sampleExchange_withinLimits
  · refine ⟨rfl, ?_⟩
    rintro pub ⟨⟩
    rfl
  · intro initiator responder seen
    rw [tamperedExchange_unread] at seen
    cases seen
  · refine .inr (.inl ?_)
    decide +kernel

end Cantil.Handshake
