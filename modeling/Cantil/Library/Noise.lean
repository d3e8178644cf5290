import Cantil.Library.Bytes

namespace Library.Noise

/-- The primitives of a Noise cipher suite. -/
structure Suite where
  hash : Bytes → Bytes
  hmac : Bytes → Bytes → Bytes
  dhPublic : Bytes → Bytes
  dh : Bytes → Bytes → Option Bytes
  encrypt : Bytes → UInt64 → Bytes → Bytes → Bytes
  decrypt : Bytes → UInt64 → Bytes → Bytes → Option Bytes

/-- The suite agrees on shared secrets and opens what it seals. -/
structure Suite.Lawful (suite : Suite) : Prop where
  dh_comm : ∀ first second, suite.dh first (suite.dhPublic second) =
    suite.dh second (suite.dhPublic first)
  dh_defined : ∀ first second, (suite.dh first (suite.dhPublic second)).isSome = true
  dhPublic_length : ∀ secret, (suite.dhPublic secret).length = 32
  encrypt_length : ∀ key nonce ad plain,
    (suite.encrypt key nonce ad plain).length = plain.length + 16
  decrypt_encrypt : ∀ key nonce ad plain,
    suite.decrypt key nonce ad (suite.encrypt key nonce ad plain) = some plain
  decrypt_length : ∀ key nonce ad cipher plain,
    suite.decrypt key nonce ad cipher = some plain → cipher.length = plain.length + 16

theorem Suite.Lawful.encrypt_ne_nil {suite : Suite} (lawful : suite.Lawful) {key : Bytes} {nonce : UInt64}
    {ad plain : Bytes} : suite.encrypt key nonce ad plain ≠ [] := by
  intro empty
  have length := lawful.encrypt_length key nonce ad plain
  rw [empty] at length
  cases length

/-- The hashes of the suite have the length of a key. -/
structure Suite.FixedLength (suite : Suite) : Prop where
  hash_length : ∀ data, (suite.hash data).length = 32
  hmac_length : ∀ key data, (suite.hmac key data).length = 32

/-- Transcript hash, chaining key and cipher key. -/
structure SymState where
  h : Bytes
  ck : Bytes
  k : Bytes
  n : UInt64
  hasKey : Bool
  deriving DecidableEq, Repr

def symInit (protocolName : Bytes) : SymState :=
  ⟨protocolName, protocolName, List.replicate 32 0, 0, false⟩

variable (suite : Suite) (state : SymState) (ikm : Bytes)

def mixHash (data : Bytes) : SymState :=
  { state with h := suite.hash (state.h ++ data) }

/-- The key derivation gives two outputs. -/
def hkdf2 (ck ikm : Bytes) : Bytes × Bytes :=
  let temp := suite.hmac ck ikm
  let first := suite.hmac temp [0x01]
  (first, suite.hmac temp (first ++ [0x02]))

/-- Each block of the RFC 5869 expansion hashes the block before it. -/
def hkdfExpand (suite : Suite) (prk info : Bytes) : (blocks : Nat) → (index : UInt8) → (previous : Bytes) → Bytes
  | 0, _, _ => []
  | blocks + 1, index, previous =>
    let block := suite.hmac prk (previous ++ info ++ [index])
    block ++ hkdfExpand suite prk info blocks (index + 1) block

/-- The key derivation of RFC 5869 over a hash of 32 bytes. -/
def hkdf (salt ikm info : Bytes) (length : Nat) : Bytes :=
  (hkdfExpand suite (suite.hmac salt ikm) info ((length + 31) / 32) 1 []).take length

/-- The two outputs are the halves of 64 derived bytes. -/
theorem hkdf_halves {suite : Suite} (fixed : suite.FixedLength) (ck ikm : Bytes) :
    ((hkdf suite ck ikm [] 64).take 32, (hkdf suite ck ikm [] 64).drop 32) = hkdf2 suite ck ikm := by
  let temp := suite.hmac ck ikm
  let first := suite.hmac temp [0x01]
  let second := suite.hmac temp (first ++ [0x02])
  have blocks : hkdf suite ck ikm [] 64 = first ++ second := by
    have whole : (first ++ second).length ≤ 64 := by
      rw [List.length_append, fixed.hmac_length, fixed.hmac_length]
    show (first ++ (suite.hmac temp (first ++ [] ++ [1 + 1]) ++ [])).take 64 = _
    rw [List.append_nil, List.append_nil]
    exact List.take_of_length_le whole
  rw [blocks, List.take_left' (fixed.hmac_length temp [0x01]), List.drop_left' (fixed.hmac_length temp [0x01])]
  rfl

def mixKey : SymState :=
  let (ck, k) := hkdf2 suite state.ck ikm
  { state with ck := ck, k := k, n := 0, hasKey := true }

def symSplit : Bytes × Bytes := hkdf2 suite state.ck []

/-- An unkeyed state passes the plaintext through. -/
def encryptAndHash (plain : Bytes) : Bytes × SymState :=
  if state.hasKey then
    let cipher := suite.encrypt state.k state.n state.h plain
    (cipher, mixHash suite { state with n := state.n + 1 } cipher)
  else (plain, mixHash suite state plain)

def decryptAndHash (cipher : Bytes) : Option (Bytes × SymState) :=
  if state.hasKey then
    (suite.decrypt state.k state.n state.h cipher).map fun plain =>
      (plain, mixHash suite { state with n := state.n + 1 } cipher)
  else some (cipher, mixHash suite state cipher)

/-- Equal states open what they seal and stay equal. -/
theorem decryptAndHash_encryptAndHash {suite : Suite} (lawful : suite.Lawful) (state : SymState)
    (plain : Bytes) :
    decryptAndHash suite state (encryptAndHash suite state plain).1 =
      some (plain, (encryptAndHash suite state plain).2) := by
  unfold decryptAndHash encryptAndHash
  by_cases keyed : state.hasKey
  · simp [keyed, lawful.decrypt_encrypt]
  · simp [keyed]

@[simp] theorem mixKey_hasKey : (mixKey suite state ikm).hasKey = true := rfl

/-- A keyed state adds one tag to the plaintext. -/
theorem encryptAndHash_length {suite : Suite} (lawful : suite.Lawful) (state : SymState)
    (plain : Bytes) (keyed : state.hasKey = true) :
    (encryptAndHash suite state plain).1.length = plain.length + 16 := by
  simp [encryptAndHash, keyed, lawful.encrypt_length]

/-- A keyed state removes one tag from the ciphertext. -/
theorem decryptAndHash_length {suite : Suite} (lawful : suite.Lawful) {state after : SymState}
    {cipher plain : Bytes} (keyed : state.hasKey = true)
    (opened : decryptAndHash suite state cipher = some (plain, after)) :
    cipher.length = plain.length + 16 := by
  simp only [decryptAndHash, keyed, if_true, Option.map_eq_some_iff, Prod.mk.injEq] at opened
  obtain ⟨found, decrypted, rfl, _⟩ := opened
  exact lawful.decrypt_length _ _ _ _ _ decrypted

/-- After the first message, with prologue and payload empty. -/
def afterMessage1 (protocolName initiatorEphemeral : Bytes) : SymState :=
  mixHash suite (mixHash suite (mixHash suite (symInit protocolName) []) initiatorEphemeral) []

/-- Ephemeral key, sealed static key and sealed payload. -/
def writeMessage2 (staticSecret ephemeralSecret : Bytes) (initiatorEphemeral payload : Bytes) :
    Option (Bytes × SymState) := do
  let ephemeral := suite.dhPublic ephemeralSecret
  let state := mixHash suite state ephemeral
  let ee ← suite.dh ephemeralSecret initiatorEphemeral
  let state := mixKey suite state ee
  let (sealedStatic, state) := encryptAndHash suite state (suite.dhPublic staticSecret)
  let es ← suite.dh staticSecret initiatorEphemeral
  let state := mixKey suite state es
  let (sealedPayload, state) := encryptAndHash suite state payload
  return (ephemeral ++ sealedStatic ++ sealedPayload, state)

/-- What the initiator learns from the second message. -/
structure Message2 where
  responderEphemeral : Bytes
  responderStatic : Bytes
  payload : Bytes
  state : SymState

def readMessage2 (ephemeralSecret message : Bytes) : Option Message2 := do
  let responderEphemeral := message.take 32
  let state := mixHash suite state responderEphemeral
  let ee ← suite.dh ephemeralSecret responderEphemeral
  let state := mixKey suite state ee
  let (responderStatic, state) ← decryptAndHash suite state ((message.drop 32).take 48)
  let es ← suite.dh ephemeralSecret responderStatic
  let state := mixKey suite state es
  let (payload, state) ← decryptAndHash suite state (message.drop 80)
  return ⟨responderEphemeral, responderStatic, payload, state⟩

/-- The parts of the second message lie at fixed places. -/
theorem message2_parts {ephemeral sealedStatic : Bytes} (ephemeralLength : ephemeral.length = 32)
    (staticLength : sealedStatic.length = 48) (sealedPayload : Bytes) :
    (ephemeral ++ sealedStatic ++ sealedPayload).take 32 = ephemeral ∧
      ((ephemeral ++ sealedStatic ++ sealedPayload).drop 32).take 48 = sealedStatic ∧
      (ephemeral ++ sealedStatic ++ sealedPayload).drop 80 = sealedPayload := by
  have front : (ephemeral ++ sealedStatic).length = 80 := by
    rw [List.length_append, ephemeralLength, staticLength]
  refine ⟨?_, ?_, ?_⟩
  · rw [List.append_assoc, ← ephemeralLength, List.take_left]
  · rw [List.append_assoc, ← ephemeralLength, List.drop_left, ← staticLength, List.take_left]
  · rw [← front, List.drop_left]

theorem message2_join (message : Bytes) :
    message.take 32 ++ (message.drop 32).take 48 ++ message.drop 80 = message := by
  have rest : message.drop 80 = (message.drop 32).drop 48 := by rw [List.drop_drop]
  rw [List.append_assoc, rest, List.take_append_drop, List.take_append_drop]

/-- A static key and a payload, with a key between. -/
theorem sealPair {suite : Suite} (lawful : suite.Lawful) (state : SymState) (keyed : state.hasKey = true)
    (staticSecret secret payload : Bytes) :
    let static := encryptAndHash suite state (suite.dhPublic staticSecret)
    let sealed := encryptAndHash suite (mixKey suite static.2 secret) payload
    static.1.length = 48 ∧ sealed.1.length = payload.length + 16 ∧
      decryptAndHash suite state static.1 = some (suite.dhPublic staticSecret, static.2) ∧
      decryptAndHash suite (mixKey suite static.2 secret) sealed.1 = some (payload, sealed.2) := by
  refine ⟨?_, encryptAndHash_length lawful _ payload rfl, decryptAndHash_encryptAndHash lawful state _,
    decryptAndHash_encryptAndHash lawful _ payload⟩
  rw [encryptAndHash_length lawful state _ keyed, lawful.dhPublic_length]

/-- Any static secret can deliver any payload to the initiator. -/
theorem readMessage2_writeMessage2 {suite : Suite} (lawful : suite.Lawful) (state : SymState)
    (staticSecret responderSecret initiatorSecret payload : Bytes) :
    ∃ message final, writeMessage2 suite state staticSecret responderSecret
        (suite.dhPublic initiatorSecret) payload = some (message, final) ∧
      message.length = 96 + payload.length ∧
      readMessage2 suite state initiatorSecret message =
        some ⟨suite.dhPublic responderSecret, suite.dhPublic staticSecret, payload, final⟩ := by
  obtain ⟨ee, eeDefined⟩ := Option.isSome_iff_exists.mp
    (lawful.dh_defined responderSecret initiatorSecret)
  obtain ⟨es, esDefined⟩ := Option.isSome_iff_exists.mp
    (lawful.dh_defined staticSecret initiatorSecret)
  have eeAgreed : suite.dh initiatorSecret (suite.dhPublic responderSecret) = some ee := by
    rw [lawful.dh_comm, eeDefined]
  have esAgreed : suite.dh initiatorSecret (suite.dhPublic staticSecret) = some es := by
    rw [lawful.dh_comm, esDefined]
  obtain ⟨staticLength, payloadLength, openStatic, openPayload⟩ := sealPair lawful
    (mixKey suite (mixHash suite state (suite.dhPublic responderSecret)) ee) rfl staticSecret es payload
  have ephemeralLength := lawful.dhPublic_length responderSecret
  refine ⟨_, _, by simp only [writeMessage2, eeDefined, esDefined, Option.bind_eq_bind, Option.bind_some]; rfl, ?_, ?_⟩
  · simp only [List.length_append, staticLength, payloadLength, ephemeralLength]
    omega
  · simp only [readMessage2, message2_parts ephemeralLength staticLength, eeAgreed,
      Option.bind_eq_bind, Option.bind_some]
    rw [openStatic]
    simp only [Option.bind_some, esAgreed]
    rw [openPayload]
    rfl

/-- The second message is its payload and 96 bytes. -/
theorem readMessage2_length {suite : Suite} (lawful : suite.Lawful) {state : SymState}
    {ephemeralSecret message : Bytes} {received : Message2} (long : 96 ≤ message.length)
    (read : readMessage2 suite state ephemeralSecret message = some received) :
    message.length = 96 + received.payload.length := by
  simp only [readMessage2, Option.bind_eq_bind, Option.bind_eq_some_iff] at read
  obtain ⟨ee, _, opened, _, es, _, last, openedPayload, final⟩ := read
  have length := decryptAndHash_length lawful (mixKey_hasKey suite opened.2 es) openedPayload
  have payload : received.payload = last.1 := by
    cases final
    rfl
  rw [payload]
  rw [List.length_drop] at length
  omega

end Library.Noise
