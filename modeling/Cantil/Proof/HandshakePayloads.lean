import Cantil.Proof.ChainParsing
import Cantil.Proof.Handshake

namespace Cantil.Cbor
open Library

/-- What the device encodes is what the host records. -/
theorem device_chain_round_trip {sizeBits : Nat} (size : sizeBits = 32 ∨ sizeBits = 64) {certs : List Bytes}
    (counted : 0 < certs.length ∧ certs.length ≤ sessionChainMaxCerts) {payload : Bytes}
    (encoded : Session.encodeChainCbor Session.sessionChainPtMax certs = .ok payload) (chain beyond : Memory) :
    (Host.parseDeviceChainInto sizeBits payload chain beyond).contents = certs ∧
      (Host.parseDeviceChainInto sizeBits [] chain beyond).contents = [] := by
  obtain ⟨rfl, fits⟩ := emitChain_eq_ok.mp encoded
  refine ⟨?_, rfl⟩
  have wide : (2 : Nat) ^ 31 ≤ 2 ^ (sizeBits - 1) := Nat.pow_le_pow_right (by decide) (by omega)
  have limits : Session.sessionChainPtMax = 2048 ∧ Host.deviceChainMax = 4096 ∧ sessionChainMaxCerts = 4 ∧
      Host.deviceChainCerts = 8 := ⟨rfl, rfl, rfl, rfl⟩
  obtain ⟨heads, shape, array⟩ := chainArray_chainBytes (by omega : 0 < sizeBits) (by omega : certs.length < 2 ^ 64)
  have total := certs_sum_le certs
  have length := congrArg List.length shape
  rw [List.length_append] at length
  have fitting : Fitting sizeBits Host.deviceChainCerts Host.deviceChainMax (chainBytes certs) := by
    rw [Fitting, array]
    refine .inr (.inr ⟨certs, ?_, by omega, by omega⟩)
    rw [shape]
    exact chainItems_bstrBytes certs heads (by rw [← shape]; omega)
  rw [Host.parseDeviceChainInto, recordChain_contents size (by omega) (by omega) chain beyond fitting,
    parseChain_chainBytes (by omega) _ _ certs (by omega) (by decide), List.take_of_length_le (by omega)]

/-- Two certificates come back on the host. -/
theorem two_certs_round_trip :
    Session.encodeChainCbor Session.sessionChainPtMax [[0x30, 0], [0x30, 1, 7]] =
        .ok (chainBytes [[0x30, 0], [0x30, 1, 7]]) ∧
      (Host.parseDeviceChainInto 64 (chainBytes [[0x30, 0], [0x30, 1, 7]]) (fun _ => 0) (fun _ => 0)).contents =
        [[0x30, 0], [0x30, 1, 7]] := by
  have encoded : Session.encodeChainCbor Session.sessionChainPtMax [[0x30, 0], [0x30, 1, 7]] =
      .ok (chainBytes [[0x30, 0], [0x30, 1, 7]]) := by decide
  exact ⟨encoded, (device_chain_round_trip (.inr rfl) (by decide) encoded _ _).1⟩

end Cantil.Cbor

namespace Cantil.Session
open Library Library.Noise

/-! The buffer of the handshake messages. -/

section Buffer

variable (suite : Suite) (inputs : Inputs) (static ephemeral : Bytes × Bytes) (eIPub : Bytes) (sym : SymState)

/-- A copy into the buffer, with the place where it starts. -/
def copyTo (offset : Nat) (bytes : Bytes) : Op (List (Nat × Bytes)) Errno Unit := fun copies =>
  (.ok (), copies ++ [(offset, bytes)])

/-- The second message is written in three parts. -/
def fillMsg2 : Op (List (Nat × Bytes)) Errno (Nat × SymState) := do
  let chainPt ← .lift (chainPlaintext inputs)
  copyTo 0 ephemeral.2
  let sym := symMixHash suite sym ephemeral.2
  let ee ← .lift (noiseCryptoDh suite ephemeral.1 eIPub)
  let sym := symMixKey suite sym ee
  let (sealedStatic, sym) ← .lift (symEncryptAndHash suite (roomBehind 32) sym static.2)
  copyTo 32 sealedStatic
  let es ← .lift (noiseCryptoDh suite static.1 eIPub)
  let sym := symMixKey suite sym es
  let (sealedChain, sym) ← .lift (symEncryptAndHash suite (roomBehind (32 + sealedStatic.length)) sym chainPt)
  copyTo (32 + sealedStatic.length) sealedChain
  return (32 + sealedStatic.length + sealedChain.length, sym)

/-- Parts stay inside, and a complete message is sent. -/
def MessageBounded : Prop :=
  let (result, copies) := fillMsg2 suite inputs static ephemeral eIPub sym []
  (∀ copied ∈ copies, copied.1 + copied.2.length ≤ sessionHsMsgMax) ∧
    ∀ length after, result = .ok (length, after) → ∃ payload, chainPlaintext inputs = .ok payload ∧
      length = 96 + payload.length ∧ length ≤ Host.maxFramePayload ∧
      writeMsg2 suite inputs static ephemeral eIPub sym = .ok ((copies.map Prod.snd).flatten, after) ∧
      ((copies.map Prod.snd).flatten).length = length

variable {suite inputs static ephemeral eIPub sym}

theorem symEncryptAndHash_length (lawful : suite.Lawful) {room : Nat} {after : SymState} {plain cipher : Bytes}
    (keyed : sym.hasKey = true) (encrypted : symEncryptAndHash suite room sym plain = .ok (cipher, after)) :
    cipher.length = plain.length + noiseTagLen := by
  rw [symEncryptAndHash, if_pos keyed] at encrypted
  obtain ⟨found, made, shape⟩ := except_bind_ok encrypted
  unfold noiseCryptoEncrypt at made
  split_ifs at made
  obtain rfl := Except.ok.inj made
  obtain ⟨rfl, _⟩ := Prod.mk.inj (Except.ok.inj shape)
  exact lawful.encrypt_length _ _ _ _

end Buffer

end Cantil.Session

namespace Cantil.Handshake
open Library Library.Noise Library.Der Cbor

/-! The chain of the client. -/

/-- The elements with these contents. -/
def sequences (parts : List Bytes) : List Bytes := parts.map (tlv 0x30)

/-- The host's walk misses an empty element at the end. -/
def walked (parts : List Bytes) : List Bytes := if parts.getLast? = some [] then parts.dropLast else parts

theorem tlv_length (part : Bytes) : part.length + 2 ≤ (tlv 0x30 part).length := by
  have head : 1 ≤ (lengthBytes part.length).length := by
    unfold lengthBytes
    split_ifs <;> simp
  simp only [tlv, List.length_cons, List.length_append]
  omega

/-- An element is found unless empty and last. -/
theorem sequenceSize_tlv {part rest : Bytes} (small : part.length < 2 ^ 24)
    (more : 2 < (tlv 0x30 part ++ rest).length) :
    Host.sequenceSize (tlv 0x30 part ++ rest) = some (tlv 0x30 part).length := by
  obtain ⟨lead, field, shape, ⟨short, same, rfl⟩ | ⟨long, places, _, counted, spans, least, same⟩⟩ :=
    lengthBytes_cases (small.trans (by decide))
  all_goals
    simp only [tlv, shape, List.cons_append, List.nil_append, List.append_assoc, Host.sequenceSize] at more ⊢
    rw [if_neg (not_or.mpr ⟨Nat.not_le.mpr more, fun other => other rfl⟩), low_eq]
    simp only [List.length_cons, List.length_append]
  · rw [if_neg (not_not.mpr ((high_iff lead).mpr short)), same, if_neg (by omega), Nat.add_comm]
  · have few : places < 3 := (Nat.pow_lt_pow_iff_right (by decide)).mp (least.trans_lt small)
    have width : lead.toNat % 128 = field.length := by omega
    rw [if_pos ((high_iff lead).not.mpr long), width, List.take_left, same, if_neg (by omega), if_neg (by omega)]
    exact congrArg some (by omega)

theorem splitChain_sequences {parts : List Bytes} (small : ∀ part ∈ parts, part.length < 2 ^ 24) {fuel : Nat}
    (enough : (sequences parts).flatten.length ≤ fuel) :
    Host.splitChain fuel (sequences parts).flatten = sequences (walked parts) := by
  induction parts generalizing fuel with
  | nil => cases fuel <;> rfl
  | cons part rest ih =>
    obtain ⟨here, small⟩ := List.forall_mem_cons.mp small
    have size := tlv_length part
    simp only [sequences, List.map_cons, List.flatten_cons, List.length_append] at enough ih ⊢
    obtain ⟨later, rfl⟩ := Nat.exists_eq_add_of_le' (show 1 ≤ fuel by omega)
    -- Only an empty element at the end is too short for the walk.
    by_cases more : 2 < (tlv 0x30 part ++ (rest.map (tlv 0x30)).flatten).length
    · rw [Host.splitChain, sequenceSize_tlv here more]
      dsimp only
      rw [List.take_left, List.drop_left, ih small (by omega)]
      cases rest with
      | nil =>
        have filled : part ≠ [] := by
          rintro rfl
          exact absurd more (by decide)
        simp [walked, filled]
      | cons next others =>
        unfold walked
        rw [List.getLast?_cons_cons]
        split_ifs <;> rfl
    · rw [List.length_append] at more
      obtain rfl := List.eq_nil_of_length_eq_zero (show part.length = 0 by omega)
      cases rest with
      | nil => rfl
      | cons next others =>
        have another := tlv_length next
        simp only [List.map_cons, List.flatten_cons, List.length_append] at more
        omega

/-- Whole elements behind a leaf, as many as there is room for. -/
structure Presentable (cert : Host.ClientCert) (parts : List Bytes) : Prop where
  chain : cert.chainDer = (sequences parts).flatten
  leaf : cert.certDer ≠ []
  tail : parts.getLast? ≠ some []
  few : parts.length < sessionChainMaxCerts
  fits : (chainBytes (cert.certDer :: sequences parts)).length ≤ Session.sessionChainPtMax

theorem parts_small {certs parts : List Bytes} (listed : sequences parts ⊆ certs)
    (fits : (chainBytes certs).length ≤ Session.sessionChainPtMax) : ∀ part ∈ parts, part.length < 2 ^ 24 := by
  intro part held
  have size := tlv_length part
  have one : (bstrBytes (tlv 0x30 part)).length ≤ (certs.flatMap bstrBytes).length :=
    (List.sublist_flatten_of_mem (List.mem_map_of_mem (listed (List.mem_map_of_mem held)))).length_le
  simp only [bstrBytes, chainBytes, List.length_append, Session.sessionChainPtMax] at one fits
  omega

section Recorded

variable {suite : Suite} {inputs : Session.Inputs} {pending : Session.Pending} {transport : Session.Transport}

/-- The session lists the leaf and all elements of the blob. -/
def Recorded (suite : Suite) (inputs : Session.Inputs) (pending : Session.Pending) (transport : Session.Transport)
    (cert : Host.ClientCert) : Prop :=
  ∃ parts completed left, cert.chainDer = (sequences parts).flatten ∧
    Session.finishMsg3 suite inputs pending transport = (.ok completed, left) ∧
    completed.session.clientChain = cert.certDer :: sequences parts

variable {cert : Host.ClientCert} {clientPriv payload msg3 later : Bytes} {final : SymState}

variable (lawful : suite.Lawful) (fixed : suite.FixedLength) (keyed : pending.sym.hasKey = true)
  (expected : ∀ pub, inputs.expectedClientPub = some pub → pub = suite.dhPublic clientPriv)
include lawful fixed keyed expected

/-- The device completes with these certificates if it has room. -/
theorem finishMsg3_payload_iff
    (wrote : writeMessage3 suite pending.sym clientPriv (suite.dhPublic pending.ephemeral.1) payload =
      some (msg3, final))
    (short : payload.length ≤ Host.clientCborSize) (arrives : transport.incoming = Frame.encode msg3 ++ later)
    (certs : List Bytes) :
    (∃ completed left, Session.finishMsg3 suite inputs pending transport = (.ok completed, left) ∧
        completed.session.clientChain = certs) ↔
      payload.length ≤ Session.sessionChainPtMax ∧ parseClientChain payload = certs := by
  obtain ⟨message, last, written, length, read⟩ :=
    readMessage3_writeMessage3 lawful keyed clientPriv pending.ephemeral.1 payload
  obtain ⟨rfl, rfl⟩ := Prod.mk.inj (Option.some.inj (written.symm.trans wrote))
  have limits : Session.sessionHsMsgMax = 2144 ∧ Session.sessionChainPtMax = 2048 ∧ Host.clientCborSize = 3000 :=
    ⟨rfl, rfl, rfl⟩
  constructor
  · rintro ⟨completed, left, finished, rfl⟩
    obtain ⟨other, rest, framed, _, within, _, _, fits, again, shape, _⟩ :=
      (Session.finishMsg3_eq_ok lawful fixed keyed).mp finished
    have mine := (Host.recvFrame_eq_some (by decide : 65535 < 65536)).mpr ⟨by omega, later, arrives⟩
    have same := (Host.recvFrame_eq_some (by decide : 65535 < 65536)).mpr ⟨by omega, rest, framed⟩
    obtain rfl := Option.some.inj (same.symm.trans mine)
    obtain ⟨_, rfl, _⟩ := Message3.mk.inj (Option.some.inj (again.symm.trans read))
    rw [shape]
    exact ⟨fits, rfl⟩
  · rintro ⟨fits, rfl⟩
    exact ⟨⟨⟨(symSplit suite last).1, (symSplit suite last).2, 0, 0, suite.dhPublic clientPriv, pending.static.2,
      parseClientChain payload⟩, payload, last⟩, _,
      (Session.finishMsg3_eq_ok lawful fixed keyed).mpr ⟨message, later, arrives, by omega, by omega,
        (lawful.dhPublic_length clientPriv).le, expected, fits, read, rfl, rfl⟩, rfl⟩

/-- The device lists all of the host's exactly if presentable. -/
theorem client_chain_recorded_iff (encoded : Host.clientCbor (some cert) = .ok payload)
    (wrote : writeMessage3 suite pending.sym clientPriv (suite.dhPublic pending.ephemeral.1) payload =
      some (msg3, final))
    (arrives : transport.incoming = Frame.encode msg3 ++ later) :
    Recorded suite inputs pending transport cert ↔ ∃ parts, Presentable cert parts := by
  obtain ⟨rfl, short⟩ := Host.clientCbor_eq_ok.mp encoded
  have records := finishMsg3_payload_iff lawful fixed keyed expected wrote short arrives
  have parsed (fits : (Host.clientPayload (Host.clientCerts (some cert))).length ≤ Session.sessionChainPtMax) :
      parseClientChain (Host.clientPayload (Host.clientCerts (some cert))) =
        (Host.clientCerts (some cert)).take sessionChainMaxCerts :=
    Exchange.parseClientChain_clientPayload fits
  have four : sessionChainMaxCerts = 4 := rfl
  constructor
  · rintro ⟨parts, completed, left, chain, finished, listed⟩
    obtain ⟨fits, listed⟩ := (records _).mp ⟨completed, left, finished, listed⟩
    rw [parsed fits] at listed
    by_cases empty : cert.certDer.length = 0
    · simp [Host.clientCerts, empty] at listed
    have present : Host.clientCerts (some cert) = cert.certDer :: Host.splitChain cert.chainDer.length cert.chainDer :=
      if_neg empty
    rw [present] at listed fits
    have behind : (Host.splitChain cert.chainDer.length cert.chainDer).take 3 = sequences parts :=
      (List.cons.inj listed).2
    have small := parts_small (fun item held => List.mem_cons_of_mem _ (List.mem_of_mem_take (behind ▸ held))) fits
    have walk := splitChain_sequences small (Nat.le_refl _)
    rw [← chain] at walk
    rw [walk] at behind fits
    have counted := congrArg List.length behind
    have tail : parts.getLast? ≠ some [] := by
      intro last
      have some : parts ≠ [] := by
        rintro rfl
        cases last
      have positive := List.length_pos_iff.mpr some
      simp only [sequences, walked, if_pos last, List.length_take, List.length_map, List.length_dropLast] at counted
      omega
    rw [walked, if_neg tail] at fits counted
    simp only [sequences, List.length_take, List.length_map] at counted
    exact ⟨parts, chain, fun none => empty (by rw [none]; rfl), tail, by omega, fits⟩
  · rintro ⟨parts, chain, leaf, tail, few, fits⟩
    have walk := splitChain_sequences (parts_small (List.subset_cons_self _ _) fits) (Nat.le_refl _)
    rw [← chain, walked, if_neg tail] at walk
    have present : Host.clientCerts (some cert) = cert.certDer :: sequences parts := by
      rw [Host.clientCerts, if_neg (fun none => leaf (List.length_eq_zero_iff.mp none)), walk]
    rw [present] at records parsed
    have room : (Host.clientPayload (cert.certDer :: sequences parts)).length ≤ Session.sessionChainPtMax := by
      rwa [Host.clientPayload]
    have whole : (cert.certDer :: sequences parts).take sessionChainMaxCerts = cert.certDer :: sequences parts :=
      List.take_of_length_le (by simp only [List.length_cons, sequences, List.length_map]; omega)
    obtain ⟨completed, left, finished, listed⟩ := (records _).mpr ⟨room, (parsed room).trans whole⟩
    exact ⟨parts, completed, left, chain, finished, listed⟩

end Recorded

/-- The device between its message and the one of the client. -/
def samplePending : Session.Pending := ⟨([3], Host.padKey [3]), ([4], Host.padKey [4]), ⟨[], [], [], 0, true⟩⟩

def arriving (msg3 : Bytes) : Session.Transport := ⟨Frame.encode msg3, [], none, .etimedout⟩

theorem samplePending_keyed : samplePending.sym.hasKey = true := rfl

theorem sampleExchange_expected : ∀ pub, sampleExchange.deviceInputs.expectedClientPub = some pub →
    pub = taggedSuite.dhPublic [1] :=
  fun _ given => (Option.some.inj given).symm

/-- A leaf with one intermediate is recorded. -/
theorem sampleCert_recorded :
    ∃ msg3, Recorded taggedSuite sampleExchange.deviceInputs samplePending (arriving msg3)
      ⟨[0x30, 1, 5], [0x30, 1, 6]⟩ := by
  obtain ⟨msg3, final, written, _⟩ := readMessage3_writeMessage3 taggedSuite_lawful samplePending_keyed [1] [4]
    (Host.clientPayload [[0x30, 1, 5], [0x30, 1, 6]])
  exact ⟨msg3, (client_chain_recorded_iff taggedSuite_lawful taggedSuite_fixed rfl sampleExchange_expected
    (by decide) written (List.append_nil _).symm).mpr ⟨[[6]], by decide, by decide, by decide, by decide, by decide⟩⟩

/-- Stray octets and the fourth intermediate vanish. -/
theorem client_chain_cut :
    Host.clientCbor (some ⟨[0x30, 1, 5], [0xFF]⟩) = Host.clientCbor (some ⟨[0x30, 1, 5], []⟩) ∧
      ∃ payload msg3 final,
        Host.clientCbor (some ⟨[0x30, 1, 5], [0x30, 0, 0x30, 0, 0x30, 0, 0x30, 1, 6]⟩) = .ok payload ∧
        writeMessage3 taggedSuite samplePending.sym [1] (taggedSuite.dhPublic [4]) payload = some (msg3, final) ∧
        (∃ completed left, Session.finishMsg3 taggedSuite sampleExchange.deviceInputs samplePending (arriving msg3) =
          (.ok completed, left) ∧
          completed.session.clientChain = [[0x30, 1, 5], [0x30, 0], [0x30, 0], [0x30, 0]]) := by
  refine ⟨by decide, Host.clientPayload [[0x30, 1, 5], [0x30, 0], [0x30, 0], [0x30, 0], [0x30, 1, 6]], ?_⟩
  obtain ⟨msg3, final, written, _⟩ := readMessage3_writeMessage3 taggedSuite_lawful samplePending_keyed [1] [4]
    (Host.clientPayload [[0x30, 1, 5], [0x30, 0], [0x30, 0], [0x30, 0], [0x30, 1, 6]])
  exact ⟨msg3, final, by decide, written, (finishMsg3_payload_iff taggedSuite_lawful taggedSuite_fixed rfl
    sampleExchange_expected written (by decide) (List.append_nil _).symm _).mpr (by decide)⟩

end Cantil.Handshake
