import Cantil.Host.Session

namespace Cantil.Host
open Library Library.Noise

/-- The leaf's extension carries the static key. -/
def LeafBinds (x509 : X509) (session : Session) : Prop :=
  ∃ leaf rest, session.deviceChain = leaf :: rest ∧
    x509.x25519Binding leaf = some session.deviceSPub

/-- Sessions on this payload are bound to their peer. -/
def PayloadBound (suite : Suite) (x509 : X509) (sizeBits : Nat) (policy : TrustPolicy)
    (payload : Bytes) : Prop :=
  ∀ inputs session msg3, sessionOpen suite x509 sizeBits (some policy) inputs = some (session, msg3) →
    Delivers suite inputs session.deviceSPub payload → LeafBinds x509 session

/-- Any peer can replay a payload that the policy accepts. -/
theorem replay_opens {suite : Suite} (lawful : suite.Lawful) (x509 : X509) (sizeBits : Nat)
    (policy : TrustPolicy) (payload staticSecret : Bytes)
    (fits : payload.length + 96 ≤ maxFramePayload)
    (accepted : trustCheckPolicy suite.hash x509 (some policy)
      (parseDeviceChain sizeBits payload) = .ok) :
    ∃ inputs session msg3,
      sessionOpen suite x509 sizeBits (some policy) inputs = some (session, msg3) ∧
      session.deviceSPub = suite.dhPublic staticSecret ∧
      session.deviceChain = parseDeviceChain sizeBits payload ∧
      Delivers suite inputs session.deviceSPub payload := by
  let key : Bytes := List.replicate 32 0
  obtain ⟨msg2, final, _, length, read⟩ := readMessage2_writeMessage2 lawful
    (afterMessage1 suite protocolName (suite.dhPublic key)) staticSecret key key payload
  obtain ⟨se, seDefined⟩ := Option.isSome_iff_exists.mp (lawful.dh_defined key key)
  let inputs : OpenInputs := ⟨key, key, none, true, some msg2, true⟩
  let sealedStatic := encryptAndHash suite final (suite.dhPublic key)
  let sealedPayload := encryptAndHash suite (mixKey suite sealedStatic.2 se) [0xA0]
  let keys := symSplit suite sealedPayload.2
  refine ⟨inputs, ⟨keys.1, keys.2, 0, 0, suite.dhPublic staticSecret, suite.dhPublic key,
    parseDeviceChain sizeBits payload⟩, sealedStatic.1 ++ sealedPayload.1, ?_, rfl, rfl,
    ⟨msg2, _, rfl, read, rfl, rfl⟩⟩
  have inFrame : 96 ≤ msg2.length ∧ msg2.length ≤ maxFramePayload := by omega
  simp [sessionOpen, inputs, inFrame, read, accepted, clientCbor, seDefined, sealedStatic,
    sealedPayload, keys, Except.toOption, guard]

/-- A payload binds its sender exactly when it opens nothing. -/
theorem payloadBound_iff_refused {suite : Suite} (lawful : suite.Lawful)
    (distinct : ∃ first second, suite.dhPublic first ≠ suite.dhPublic second)
    (x509 : X509) (sizeBits : Nat) (policy : TrustPolicy) (payload : Bytes)
    (inspects : policy.mode ≠ .none) :
    PayloadBound suite x509 sizeBits policy payload ↔
      maxFramePayload < payload.length + 96 ∨
        trustCheckPolicy suite.hash x509 (some policy) (parseDeviceChain sizeBits payload) ≠ .ok := by
  constructor
  · intro bound
    by_contra both
    push Not at both
    obtain ⟨fits, accepted⟩ := both
    obtain ⟨first, second, different⟩ := distinct
    obtain ⟨leaf, rest, shape⟩ := List.exists_cons_of_ne_nil
      (chain_ne_nil_of_accepted suite.hash x509 policy _ inspects accepted)
    have binds (secret : Bytes) : x509.x25519Binding leaf = some (suite.dhPublic secret) := by
      obtain ⟨inputs, session, msg3, opened, static, chain, delivered⟩ :=
        replay_opens lawful x509 sizeBits policy payload secret fits accepted
      obtain ⟨bound, _, received, binding⟩ := bound inputs session msg3 opened delivered
      rw [chain, shape] at received
      obtain ⟨rfl, _⟩ := List.cons.inj received
      rw [binding, static]
    apply different
    exact Option.some.inj ((binds first).symm.trans (binds second))
  · rintro refused inputs session msg3 opened ⟨msg2, received, arrived, read, _, rfl⟩
    obtain ⟨payload, ⟨msg2', received', arrived', read', _, rfl⟩, fits, _, accepted⟩ :=
      sessionOpen_some lawful opened
    obtain rfl := Option.some.inj (arrived.symm.trans arrived')
    obtain rfl := Option.some.inj (read.symm.trans read')
    rcases refused with long | refused
    · omega
    · exact absurd accepted refused

/-- A key is cut or padded to 32 bytes. -/
def padKey (bytes : Bytes) : Bytes := padTo 32 bytes

@[simp] theorem padKey_length (bytes : Bytes) : (padKey bytes).length = 32 :=
  padTo_length 32 bytes

/-- The shared secret is the sum of the keys, the tag is constant. -/
def sampleSuite : Suite where
  hash := padKey
  hmac key data := padKey (data ++ key)
  dhPublic := padKey
  dh secret key := some (List.zipWith (· + ·) (padKey secret) key)
  encrypt _ _ _ plain := plain ++ List.replicate 16 0
  decrypt _ _ _ cipher :=
    if 16 ≤ cipher.length then some (cipher.take (cipher.length - 16)) else none

theorem sampleSuite_lawful : sampleSuite.Lawful where
  dh_comm first second := by
    simp [sampleSuite, List.zipWith_comm_of_comm UInt8.add_comm]
  dh_defined _ _ := rfl
  dhPublic_length := padKey_length
  encrypt_length _ _ _ plain := by simp [sampleSuite]
  decrypt_encrypt _ _ _ plain := by simp [sampleSuite]
  decrypt_length _ _ _ cipher plain opened := by
    simp only [sampleSuite] at opened
    split at opened
    case isTrue long =>
      obtain rfl := Option.some.inj opened
      rw [List.length_take]
      omega
    case isFalse => cases opened

/-- The leaf of an honest device. It binds the key of sevens. -/
def sampleLeaf : Bytes := [0x30, 0x01, 0x00]

/-- The anchor issued the leaf and nothing else. -/
def sampleX509 : X509 where
  subjectDer _ := none
  subjectCn _ := none
  verifyChain leaf _ anchor := leaf = sampleLeaf && anchor = [0x30, 0x00]
  calloc _ := true
  x25519Binding leaf := if leaf = sampleLeaf then some (List.replicate 32 7) else none

def samplePolicy : TrustPolicy := ⟨.caAllowlist, none, none, some [[0x30, 0x00]], none⟩

/-- The payload carries the honest leaf under the chain key. -/
def samplePayload : Bytes := [0xA1, 0x01, 0x81, 0x43] ++ sampleLeaf

/-- The replaying peer holds the key of nines. -/
def replayInputs : OpenInputs :=
  ⟨[1], [2], none, true,
    (writeMessage2 sampleSuite (afterMessage1 sampleSuite protocolName (padKey [2]))
      (List.replicate 32 9) [3] (padKey [2]) samplePayload).map Prod.fst, true⟩

/-- A session opens with a peer whose key the leaf does not bind. -/
theorem replayInputs_opens_unbound :
    ∃ session msg3, sessionOpen sampleSuite sampleX509 64 (some samplePolicy) replayInputs =
      some (session, msg3) ∧ ¬ LeafBinds sampleX509 session := by
  refine ⟨_, _, rfl, ?_⟩
  rintro ⟨leaf, rest, shape, binding⟩
  obtain ⟨rfl, _⟩ := List.cons.inj shape
  revert binding
  decide

/-- At the sample payload, which is accepted and so not bound. -/
theorem samplePayload_not_bound : samplePolicy.mode ≠ .none ∧
    ¬ PayloadBound sampleSuite sampleX509 64 samplePolicy samplePayload := by
  rw [payloadBound_iff_refused sampleSuite_lawful ⟨[1], [2], by decide⟩ sampleX509 64 samplePolicy
    samplePayload (by decide)]
  decide

end Cantil.Host
