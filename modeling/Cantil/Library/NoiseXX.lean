import Cantil.Library.Noise

namespace Library.Noise

/-- The sealed static key and the sealed payload. -/
def writeMessage3 (suite : Suite) (state : SymState) (staticSecret responderEphemeral payload : Bytes) :
    Option (Bytes × SymState) := do
  let (sealedStatic, state) := encryptAndHash suite state (suite.dhPublic staticSecret)
  let se ← suite.dh staticSecret responderEphemeral
  let (sealedPayload, state) := encryptAndHash suite (mixKey suite state se) payload
  return (sealedStatic ++ sealedPayload, state)

/-- What the responder learns from the third message. -/
structure Message3 where
  initiatorStatic : Bytes
  payload : Bytes
  state : SymState

def readMessage3 (suite : Suite) (state : SymState) (ephemeralSecret message : Bytes) : Option Message3 := do
  let (initiatorStatic, state) ← decryptAndHash suite state (message.take 48)
  let se ← suite.dh ephemeralSecret initiatorStatic
  let (payload, state) ← decryptAndHash suite (mixKey suite state se) (message.drop 48)
  return ⟨initiatorStatic, payload, state⟩

/-- The parts of the third message lie at fixed places. -/
theorem message3_parts {sealedStatic : Bytes} (staticLength : sealedStatic.length = 48) (sealedPayload : Bytes) :
    (sealedStatic ++ sealedPayload).take 48 = sealedStatic ∧
      (sealedStatic ++ sealedPayload).drop 48 = sealedPayload := by
  rw [← staticLength, List.take_left, List.drop_left]
  exact ⟨rfl, rfl⟩

variable {state : SymState}

/-- The third message takes a keyed state to the responder. -/
theorem readMessage3_writeMessage3 {suite : Suite} (lawful : suite.Lawful)
    (keyed : state.hasKey = true) (staticSecret responderSecret payload : Bytes) :
    ∃ message final, writeMessage3 suite state staticSecret (suite.dhPublic responderSecret) payload =
        some (message, final) ∧
      message.length = 64 + payload.length ∧
      readMessage3 suite state responderSecret message = some ⟨suite.dhPublic staticSecret, payload, final⟩ := by
  obtain ⟨se, defined⟩ := Option.isSome_iff_exists.mp (lawful.dh_defined staticSecret responderSecret)
  have agreed : suite.dh responderSecret (suite.dhPublic staticSecret) = some se := by
    rw [lawful.dh_comm, defined]
  obtain ⟨staticLength, payloadLength, openStatic, openPayload⟩ := sealPair lawful state keyed staticSecret se payload
  refine ⟨_, _, by simp only [writeMessage3, defined, Option.bind_eq_bind, Option.bind_some]; rfl, ?_, ?_⟩
  · rw [List.length_append]
    omega
  · simp only [readMessage3, message3_parts staticLength, openStatic, agreed, Option.bind_eq_bind, Option.bind_some]
    rw [openPayload]
    rfl

/-- What one party mixes into its state, in order. -/
structure View where
  initiatorEphemeral : Bytes
  responderEphemeral : Bytes
  ee : Bytes
  sealedStatic2 : Bytes
  es : Bytes
  sealedPayload2 : Bytes
  sealedStatic3 : Bytes
  se : Bytes
  sealedPayload3 : Bytes
  deriving DecidableEq, Repr

/-- A state that has sealed or opened the ciphertext. -/
def absorb (suite : Suite) (state : SymState) (cipher : Bytes) : SymState :=
  mixHash suite { state with n := state.n + 1 } cipher

namespace View

/-! The states in which a party seals or opens the four ciphertexts, and the one it ends in. -/

variable (suite : Suite) (name : Bytes) (view : View)

def atStatic2 : SymState :=
  mixKey suite (mixHash suite (afterMessage1 suite name view.initiatorEphemeral) view.responderEphemeral) view.ee

def atPayload2 : SymState :=
  mixKey suite (absorb suite (view.atStatic2 suite name) view.sealedStatic2) view.es

def atStatic3 : SymState :=
  absorb suite (view.atPayload2 suite name) view.sealedPayload2

def atPayload3 : SymState :=
  mixKey suite (absorb suite (view.atStatic3 suite name) view.sealedStatic3) view.se

def final : SymState :=
  absorb suite (view.atPayload3 suite name) view.sealedPayload3

/-- The data that the party hashes, from the empty prologue on. -/
def hashedData : List Bytes :=
  [[], view.initiatorEphemeral, [], view.responderEphemeral, view.sealedStatic2, view.sealedPayload2,
    view.sealedStatic3, view.sealedPayload3]

/-- The transcript hash after the given number of steps. -/
def transcript (steps : Nat) : Bytes :=
  (view.hashedData.take steps).foldl (fun hash data => suite.hash (hash ++ data)) name

/-- The input of the hash in the step with the given index. -/
def hashInput (index : Nat) : Bytes :=
  view.transcript suite name index ++ view.hashedData.getD index []

/-- Public parts have key size, sealed keys a tag more. -/
structure Sized (view : View) : Prop where
  initiatorEphemeral : view.initiatorEphemeral.length = 32
  responderEphemeral : view.responderEphemeral.length = 32
  sealedStatic2 : view.sealedStatic2.length = 48
  sealedStatic3 : view.sealedStatic3.length = 48

end View

/-- One call of the cipher. -/
structure Call where
  key : Bytes
  nonce : UInt64
  ad : Bytes
  cipher : Bytes
  deriving DecidableEq, Repr

def Call.Opens (suite : Suite) (call : Call) : Prop :=
  (suite.decrypt call.key call.nonce call.ad call.cipher).isSome = true

/-- The call that seals or opens the ciphertext in this state. -/
def SymState.call (state : SymState) (cipher : Bytes) : Call := ⟨state.k, state.n, state.h, cipher⟩

variable {index : Nat}

namespace View

/-- The calls for the second message. -/
def calls2 (suite : Suite) (name : Bytes) (view : View) : List Call :=
  [(view.atStatic2 suite name).call view.sealedStatic2, (view.atPayload2 suite name).call view.sealedPayload2]

/-- The calls for the third message. -/
def calls3 (suite : Suite) (name : Bytes) (view : View) : List Call :=
  [(view.atStatic3 suite name).call view.sealedStatic3, (view.atPayload3 suite name).call view.sealedPayload3]

theorem transcript_succ (suite : Suite) (name : Bytes) (view : View) (inside : index < 8) :
    view.transcript suite name (index + 1) = suite.hash (view.hashInput suite name index) := by
  have spans : index < view.hashedData.length := inside
  have item : view.hashedData.getD index [] = view.hashedData[index] := by simp [List.getD, spans]
  rw [transcript, List.take_succ_eq_append_getElem spans, List.foldl_append, hashInput, item]
  rfl

end View

/-- No collisions, and only what was sealed is opened. -/
structure Ideal (suite : Suite) (name : Bytes) (initiator responder : View) : Prop where
  collisionFree : ∀ first ∈ [initiator, responder], ∀ second ∈ [initiator, responder], ∀ index < 8, ∀ other < 8,
    suite.hash (first.hashInput suite name index) = suite.hash (second.hashInput suite name other) →
      first.hashInput suite name index = second.hashInput suite name other
  authentic : ∀ call ∈ initiator.calls2 suite name ++ responder.calls3 suite name, call.Opens suite →
    call ∈ responder.calls2 suite name ++ initiator.calls3 suite name

section Agreement

variable {suite : Suite} {name : Bytes} {initiator responder : View}
variable (fixed : suite.FixedLength) (named : name.length = 32) (ideal : Ideal suite name initiator responder)
include fixed named

variable {steps : Nat}

theorem View.transcript_length (view : View) (inside : steps ≤ 8) :
    (view.transcript suite name steps).length = 32 := by
  cases steps with
  | zero => exact named
  | succ index => rw [view.transcript_succ suite name inside, fixed.hash_length]

include ideal

section Parties

variable {first second : View} (firstParty : first ∈ [initiator, responder])
  (secondParty : second ∈ [initiator, responder])
include firstParty secondParty

/-- Equal transcript hashes have equal last steps. -/
theorem Ideal.peel {other : Nat} (inside : index < 8) (otherInside : other < 8)
    (same : first.transcript suite name (index + 1) = second.transcript suite name (other + 1)) :
    first.transcript suite name index = second.transcript suite name other ∧
      first.hashedData.getD index [] = second.hashedData.getD other [] := by
  rw [first.transcript_succ suite name inside, second.transcript_succ suite name otherInside] at same
  have inputs := ideal.collisionFree first firstParty second secondParty index inside other otherInside same
  apply List.append_inj inputs
  rw [first.transcript_length fixed named (by omega),
    second.transcript_length fixed named (by omega)]

/-- Sealed payloads of the two messages have other transcripts. -/
theorem Ideal.payload2_ne_payload3 (sized : second.Sized) :
    first.transcript suite name 5 ≠ second.transcript suite name 7 := by
  intro same
  have four := (Ideal.peel fixed named ideal firstParty secondParty (by decide) (by decide) same).1
  have three := (Ideal.peel fixed named ideal firstParty secondParty (by decide) (by decide) four).1
  -- The empty payload of the first message would be the sealed static key of the second one.
  have last := (Ideal.peel fixed named ideal firstParty secondParty (by decide) (by decide) three).2
  have empty : ([] : Bytes) = second.sealedStatic2 := last
  have length := sized.sealedStatic2
  rw [← empty] at length
  cases length

/-- Transcripts of a sealed key and of a payload end differently. -/
theorem Ideal.static2_ne_payload (firstSized : first.Sized) (secondSized : second.Sized)
    (payload : steps = 5 ∨ steps = 7) : first.transcript suite name 4 ≠ second.transcript suite name steps := by
  intro same
  have ephemeral := firstSized.responderEphemeral
  rcases payload with rfl | rfl
  · have last : first.responderEphemeral = second.sealedStatic2 :=
      (Ideal.peel fixed named ideal firstParty secondParty (by decide) (by decide) same).2
    rw [last, secondSized.sealedStatic2] at ephemeral
    cases ephemeral
  · have last : first.responderEphemeral = second.sealedStatic3 :=
      (Ideal.peel fixed named ideal firstParty secondParty (by decide) (by decide) same).2
    rw [last, secondSized.sealedStatic3] at ephemeral
    cases ephemeral

end Parties

/-- Parties that open everything hashed the same. -/
theorem Ideal.agree (initiatorSized : initiator.Sized) (responderSized : responder.Sized)
    (opens : ∀ call ∈ initiator.calls2 suite name ++ responder.calls3 suite name, call.Opens suite) :
    initiator.hashedData = responder.hashedData := by
  have self : initiator ∈ [initiator, responder] := by simp
  have peer : responder ∈ [initiator, responder] := by simp
  have opened (call : Call) (mine : call ∈ initiator.calls2 suite name ++ responder.calls3 suite name) :=
    ideal.authentic call mine (opens call mine)
  have static2 := opened ((initiator.atStatic2 suite name).call initiator.sealedStatic2) (by simp [View.calls2])
  have payload2 := opened ((initiator.atPayload2 suite name).call initiator.sealedPayload2) (by simp [View.calls2])
  have static3 := opened ((responder.atStatic3 suite name).call responder.sealedStatic3) (by simp [View.calls3])
  have payload3 := opened ((responder.atPayload3 suite name).call responder.sealedPayload3) (by simp [View.calls3])
  simp only [View.calls2, View.calls3, SymState.call, List.cons_append, List.nil_append, List.mem_cons,
    List.not_mem_nil, or_false, Call.mk.injEq] at static2 payload2 static3 payload3
  -- Each opened ciphertext is the one that the peer sealed in its place.
  have sealedStatic2 : initiator.transcript suite name 4 = responder.transcript suite name 4 ∧
      initiator.sealedStatic2 = responder.sealedStatic2 := by
    rcases static2 with ⟨_, _, ad, same⟩ | ⟨_, _, ad, _⟩ | ⟨_, nonce, _, _⟩ | ⟨_, _, ad, _⟩
    · exact ⟨ad, same⟩
    · exact absurd ad (Ideal.static2_ne_payload fixed named ideal self peer initiatorSized responderSized
        (.inl rfl))
    · exact absurd nonce (by decide : (0 : UInt64) ≠ 0 + 1)
    · exact absurd ad (Ideal.static2_ne_payload fixed named ideal self self initiatorSized initiatorSized
        (.inr rfl))
  have sealedPayload2 : initiator.sealedPayload2 = responder.sealedPayload2 := by
    rcases payload2 with ⟨_, _, ad, _⟩ | ⟨_, _, _, same⟩ | ⟨_, nonce, _, _⟩ | ⟨_, _, ad, _⟩
    · exact absurd ad.symm (Ideal.static2_ne_payload fixed named ideal peer self responderSized initiatorSized
        (.inl rfl))
    · exact same
    · exact absurd nonce (by decide : (0 : UInt64) ≠ 0 + 1)
    · exact absurd ad (Ideal.payload2_ne_payload3 fixed named ideal self self initiatorSized)
  have sealedStatic3 : responder.sealedStatic3 = initiator.sealedStatic3 := by
    rcases static3 with ⟨_, nonce, _, _⟩ | ⟨_, nonce, _, _⟩ | ⟨_, _, _, same⟩ | ⟨_, nonce, _, _⟩
    · exact absurd nonce (by decide : (0 : UInt64) + 1 ≠ 0)
    · exact absurd nonce (by decide : (0 : UInt64) + 1 ≠ 0)
    · exact same
    · exact absurd nonce (by decide : (0 : UInt64) + 1 ≠ 0)
  have sealedPayload3 : responder.sealedPayload3 = initiator.sealedPayload3 := by
    rcases payload3 with ⟨_, _, ad, _⟩ | ⟨_, _, ad, _⟩ | ⟨_, nonce, _, _⟩ | ⟨_, _, _, same⟩
    · exact absurd ad.symm (Ideal.static2_ne_payload fixed named ideal peer peer responderSized responderSized
        (.inr rfl))
    · exact absurd ad.symm (Ideal.payload2_ne_payload3 fixed named ideal peer peer responderSized)
    · exact absurd nonce (by decide : (0 : UInt64) ≠ 0 + 1)
    · exact same
  -- The public keys lie under the hash of the first ciphertext.
  obtain ⟨three, responderEphemeral⟩ :=
    Ideal.peel fixed named ideal self peer (by decide) (by decide) sealedStatic2.1
  have two := (Ideal.peel fixed named ideal self peer (by decide) (by decide) three).1
  have initiatorEphemeral := (Ideal.peel fixed named ideal self peer (by decide) (by decide) two).2
  change initiator.responderEphemeral = responder.responderEphemeral at responderEphemeral
  change initiator.initiatorEphemeral = responder.initiatorEphemeral at initiatorEphemeral
  rw [View.hashedData, View.hashedData, initiatorEphemeral, responderEphemeral, sealedStatic2.2, sealedPayload2,
    sealedStatic3, sealedPayload3]

end Agreement

/-- The initiator's view of a completed handshake. -/
def initiatorView (suite : Suite) (name staticSecret ephemeralSecret message2 payload : Bytes) : Option View := do
  let ephemeral := suite.dhPublic ephemeralSecret
  let received ← readMessage2 suite (afterMessage1 suite name ephemeral) ephemeralSecret message2
  let (message3, _) ← writeMessage3 suite received.state staticSecret received.responderEphemeral payload
  let ee ← suite.dh ephemeralSecret received.responderEphemeral
  let es ← suite.dh ephemeralSecret received.responderStatic
  let se ← suite.dh staticSecret received.responderEphemeral
  return ⟨ephemeral, received.responderEphemeral, ee, (message2.drop 32).take 48, es, message2.drop 80,
    message3.take 48, se, message3.drop 48⟩

/-- The responder's view of a completed handshake. -/
def responderView (suite : Suite) (name staticSecret ephemeralSecret message1 payload message3 : Bytes) :
    Option View := do
  let (message2, state) ← writeMessage2 suite (afterMessage1 suite name message1) staticSecret ephemeralSecret
    message1 payload
  let received ← readMessage3 suite state ephemeralSecret message3
  let ee ← suite.dh ephemeralSecret message1
  let es ← suite.dh staticSecret message1
  let se ← suite.dh ephemeralSecret received.initiatorStatic
  return ⟨message1, suite.dhPublic ephemeralSecret, ee, (message2.drop 32).take 48, es, message2.drop 80,
    message3.take 48, se, message3.drop 48⟩

variable {suite : Suite}

/-- A keyed state opens a ciphertext with one call. -/
theorem decryptAndHash_some {after : SymState} {cipher plain : Bytes} (keyed : state.hasKey = true)
    (opened : decryptAndHash suite state cipher = some (plain, after)) :
    (state.call cipher).Opens suite ∧ after = absorb suite state cipher := by
  simp only [decryptAndHash, keyed, if_true, Option.map_eq_some_iff, Prod.mk.injEq] at opened
  obtain ⟨found, decrypted, rfl, rfl⟩ := opened
  exact ⟨by simp [Call.Opens, SymState.call, decrypted], by simp [absorb, keyed]⟩

theorem encryptAndHash_absorb (suite : Suite) (state : SymState) (plain : Bytes) (keyed : state.hasKey = true) :
    (encryptAndHash suite state plain).2 = absorb suite state (encryptAndHash suite state plain).1 := by
  simp [encryptAndHash, keyed, absorb]

variable {ephemeralSecret message : Bytes}

/-- The second message's parts, as the initiator opens them. -/
theorem readMessage2_some {received : Message2}
    (read : readMessage2 suite state ephemeralSecret message = some received) :
    ∃ ee es, suite.dh ephemeralSecret (message.take 32) = some ee ∧
      suite.dh ephemeralSecret received.responderStatic = some es ∧
      received.responderEphemeral = message.take 32 ∧
      ((mixKey suite (mixHash suite state (message.take 32)) ee).call ((message.drop 32).take 48)).Opens suite ∧
      ((mixKey suite (absorb suite (mixKey suite (mixHash suite state (message.take 32)) ee)
        ((message.drop 32).take 48)) es).call (message.drop 80)).Opens suite ∧
      received.state = absorb suite (mixKey suite (absorb suite (mixKey suite (mixHash suite state
        (message.take 32)) ee) ((message.drop 32).take 48)) es) (message.drop 80) := by
  simp only [readMessage2, Option.bind_eq_bind, Option.bind_eq_some_iff] at read
  obtain ⟨ee, eeDefined, ⟨static, afterStatic⟩, openStatic, es, esDefined, ⟨payload, final⟩, openPayload, shape⟩ := read
  obtain ⟨opensStatic, rfl⟩ := decryptAndHash_some rfl openStatic
  obtain ⟨opensPayload, rfl⟩ := decryptAndHash_some rfl openPayload
  obtain rfl := Option.some.inj shape
  exact ⟨ee, es, eeDefined, esDefined, rfl, opensStatic, opensPayload, rfl⟩

/-- The third message's parts, as the responder opens them. -/
theorem readMessage3_some {received : Message3} (keyed : state.hasKey = true)
    (read : readMessage3 suite state ephemeralSecret message = some received) :
    ∃ se, suite.dh ephemeralSecret received.initiatorStatic = some se ∧
      (state.call (message.take 48)).Opens suite ∧
      ((mixKey suite (absorb suite state (message.take 48)) se).call (message.drop 48)).Opens suite ∧
      received.state = absorb suite (mixKey suite (absorb suite state (message.take 48)) se) (message.drop 48) := by
  simp only [readMessage3, Option.bind_eq_bind, Option.bind_eq_some_iff] at read
  obtain ⟨⟨static, afterStatic⟩, openStatic, se, seDefined, ⟨payload, final⟩, openPayload, shape⟩ := read
  obtain ⟨opensStatic, rfl⟩ := decryptAndHash_some keyed openStatic
  obtain ⟨opensPayload, rfl⟩ := decryptAndHash_some rfl openPayload
  obtain rfl := Option.some.inj shape
  exact ⟨se, seDefined, opensStatic, opensPayload, rfl⟩

theorem sealPair_absorb (suite : Suite) (state : SymState) (keyed : state.hasKey = true)
    (staticSecret secret payload : Bytes) :
    let static := encryptAndHash suite state (suite.dhPublic staticSecret)
    let sealed := encryptAndHash suite (mixKey suite static.2 secret) payload
    sealed.2 = absorb suite (mixKey suite (absorb suite state static.1) secret) sealed.1 := by
  intro static sealed
  have afterStatic : static.2 = absorb suite state static.1 := encryptAndHash_absorb suite state _ keyed
  rw [← afterStatic]
  exact encryptAndHash_absorb suite _ payload rfl

variable {final : SymState} {staticSecret initiatorEphemeral payload : Bytes}

variable (lawful : suite.Lawful)
include lawful

/-- The second message's parts, as the responder seals them. -/
theorem writeMessage2_some
    (wrote : writeMessage2 suite state staticSecret ephemeralSecret initiatorEphemeral payload =
      some (message, final)) :
    ∃ ee es, suite.dh ephemeralSecret initiatorEphemeral = some ee ∧
      suite.dh staticSecret initiatorEphemeral = some es ∧
      message.take 32 = suite.dhPublic ephemeralSecret ∧ message.length = 96 + payload.length ∧
      final = absorb suite (mixKey suite (absorb suite (mixKey suite (mixHash suite state
        (suite.dhPublic ephemeralSecret)) ee) ((message.drop 32).take 48)) es) (message.drop 80) := by
  simp only [writeMessage2, Option.bind_eq_bind, Option.bind_eq_some_iff] at wrote
  obtain ⟨ee, eeDefined, es, esDefined, shape⟩ := wrote
  obtain ⟨rfl, rfl⟩ := Prod.mk.inj (Option.some.inj shape)
  refine ⟨ee, es, eeDefined, esDefined, ?_⟩
  generalize keying : mixKey suite (mixHash suite state (suite.dhPublic ephemeralSecret)) ee = keyed
  have hasKey : keyed.hasKey = true := by rw [← keying]; rfl
  obtain ⟨staticLength, payloadLength, _⟩ := sealPair lawful keyed hasKey staticSecret es payload
  have absorbed := sealPair_absorb suite keyed hasKey staticSecret es payload
  have ephemeralLength := lawful.dhPublic_length ephemeralSecret
  obtain ⟨first, second, third⟩ := message2_parts ephemeralLength staticLength _
  refine ⟨first, ?_, by rw [second, third, absorbed]⟩
  simp only [List.length_append, ephemeralLength, staticLength, payloadLength]
  omega

theorem writeMessage2_hasKey
    (wrote : writeMessage2 suite state staticSecret ephemeralSecret initiatorEphemeral payload =
      some (message, final)) :
    final.hasKey = true := by
  obtain ⟨ee, es, _, _, _, _, last⟩ := writeMessage2_some lawful wrote
  rw [last]
  rfl

/-- The third message's parts, as the initiator seals them. -/
theorem writeMessage3_some {responderEphemeral : Bytes} (keyed : state.hasKey = true)
    (wrote : writeMessage3 suite state staticSecret responderEphemeral payload = some (message, final)) :
    ∃ se, suite.dh staticSecret responderEphemeral = some se ∧ message.length = 64 + payload.length ∧
      final = absorb suite (mixKey suite (absorb suite state (message.take 48)) se) (message.drop 48) := by
  simp only [writeMessage3, Option.bind_eq_bind, Option.bind_eq_some_iff] at wrote
  obtain ⟨se, defined, shape⟩ := wrote
  obtain ⟨rfl, rfl⟩ := Prod.mk.inj (Option.some.inj shape)
  obtain ⟨staticLength, payloadLength, _⟩ := sealPair lawful state keyed staticSecret se payload
  have absorbed := sealPair_absorb suite state keyed staticSecret se payload
  obtain ⟨first, second⟩ := message3_parts staticLength _
  refine ⟨se, defined, ?_, by rw [first, second, absorbed]⟩
  simp only [List.length_append, staticLength, payloadLength]
  omega

variable {message2 message3 : Bytes}

/-- The initiator's messages and state are those of its view. -/
theorem initiatorView_some {name : Bytes} {received : Message2} (long : 80 ≤ message2.length)
    (read : readMessage2 suite (afterMessage1 suite name (suite.dhPublic ephemeralSecret)) ephemeralSecret message2 =
      some received)
    (wrote : writeMessage3 suite received.state staticSecret received.responderEphemeral payload =
      some (message3, final)) :
    ∃ view, initiatorView suite name staticSecret ephemeralSecret message2 payload = some view ∧
      view.final suite name = final ∧ view.Sized ∧ (∀ call ∈ view.calls2 suite name, call.Opens suite) ∧
      view.initiatorEphemeral = suite.dhPublic ephemeralSecret ∧
      view.responderEphemeral ++ view.sealedStatic2 ++ view.sealedPayload2 = message2 ∧
      view.sealedStatic3 ++ view.sealedPayload3 = message3 := by
  obtain ⟨ee, es, eeDefined, esDefined, ephemeral, opensStatic, opensPayload, between⟩ := readMessage2_some read
  have keyed : received.state.hasKey = true := by
    rw [between]
    rfl
  obtain ⟨se, seDefined, length, last⟩ := writeMessage3_some lawful keyed wrote
  refine ⟨⟨suite.dhPublic ephemeralSecret, message2.take 32, ee, (message2.drop 32).take 48, es, message2.drop 80,
    message3.take 48, se, message3.drop 48⟩, ?_, ?_, ⟨?_, ?_, ?_, ?_⟩, ?_, rfl, ?_, ?_⟩
  · rw [ephemeral] at wrote seDefined
    simp [initiatorView, read, ephemeral, wrote, eeDefined, esDefined, seDefined]
  · rw [last, between]
    rfl
  · exact lawful.dhPublic_length ephemeralSecret
  · rw [List.length_take]
    omega
  · rw [List.length_take, List.length_drop]
    omega
  · rw [List.length_take]
    omega
  · simp only [View.calls2, List.forall_mem_cons, List.not_mem_nil, false_implies, implies_true, and_true]
    exact ⟨opensStatic, opensPayload⟩
  · exact message2_join message2
  · exact List.take_append_drop 48 message3

/-- The responder's messages and state are those of its view. -/
theorem responderView_some {name message1 : Bytes} {received : Message3} (keyLong : message1.length = 32)
    (long : 48 ≤ message3.length)
    (wrote : writeMessage2 suite (afterMessage1 suite name message1) staticSecret ephemeralSecret message1 payload =
      some (message2, state))
    (read : readMessage3 suite state ephemeralSecret message3 = some received) :
    ∃ view, responderView suite name staticSecret ephemeralSecret message1 payload message3 = some view ∧
      view.final suite name = received.state ∧ view.Sized ∧ (∀ call ∈ view.calls3 suite name, call.Opens suite) ∧
      view.initiatorEphemeral = message1 ∧
      view.responderEphemeral ++ view.sealedStatic2 ++ view.sealedPayload2 = message2 ∧
      view.sealedStatic3 ++ view.sealedPayload3 = message3 := by
  obtain ⟨ee, es, eeDefined, esDefined, ephemeral, length, between⟩ := writeMessage2_some lawful wrote
  have keyed : state.hasKey = true := by
    rw [between]
    rfl
  obtain ⟨se, seDefined, opensStatic, opensPayload, last⟩ := readMessage3_some keyed read
  refine ⟨⟨message1, suite.dhPublic ephemeralSecret, ee, (message2.drop 32).take 48, es, message2.drop 80,
    message3.take 48, se, message3.drop 48⟩, ?_, ?_, ⟨keyLong, ?_, ?_, ?_⟩, ?_, rfl, ?_, ?_⟩
  · simp [responderView, wrote, read, eeDefined, esDefined, seDefined]
  · rw [last, between]
    rfl
  · exact lawful.dhPublic_length ephemeralSecret
  · rw [List.length_take, List.length_drop]
    omega
  · rw [List.length_take]
    omega
  · rw [between] at opensStatic opensPayload
    simp only [View.calls3, List.forall_mem_cons, List.not_mem_nil, false_implies, implies_true, and_true]
    exact ⟨opensStatic, opensPayload⟩
  · rw [← ephemeral]
    exact message2_join message2
  · exact List.take_append_drop 48 message3

end Library.Noise
