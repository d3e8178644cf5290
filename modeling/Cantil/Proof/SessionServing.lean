import Cantil.Proof.Handshake
import Cantil.Proof.SessionIdentity

namespace Cantil.SessionIdentity
open Library Ca SessionSlot Session
open Protocol (Command)
open Handshake (Exchange)

/-- The second message carries exactly these certificates. -/
def ServedInFull (exchange : Exchange) (certs : List Bytes) : Prop :=
  exchange.Agrees ∧ ∃ received, exchange.hostReceived = some received ∧ received.payload = Cbor.chainBytes certs

/-- Certificate and chain respect collector and encoder buffers. -/
def Fits (cert chain : Bytes) : Prop :=
  cert.length ≤ sessionLeafDerMax ∧ (pushedCerts chain).length ≤ sessionChainMaxCerts - 1 ∧
    (pushedCerts chain).flatten.length ≤ sessionChainDerMax ∧
    (Cbor.chainBytes (cert :: pushedCerts chain)).length ≤ sessionChainPtMax

instance (cert chain : Bytes) : Decidable (Fits cert chain) := inferInstanceAs (Decidable (_ ∧ _))

section Serving

variable {config : Config} {crypto : Crypto} {build : Build} {machine : Machine}

theorem step_unhidden (config : Config) (crypto : Crypto) (build : Build) (machine : Machine) (event : Event)
    (writes : ∀ env, event.env = some env → WritesSucceed env) (unhidden : Unhidden machine) :
    Unhidden (step config crypto build machine event) := by
  cases event with
  | request env cmd data =>
    have succeeds := writes env rfl
    rcases step_request config crypto build machine env cmd data with same | ⟨admitted, pushed⟩ | ⟨admitted, signed⟩
    · rw [same]
      exact unhidden
    · rw [pushed]
      rcases sessionSlotPushCert_cases crypto build succeeds (pushedCert data) (pushedChain data)
        (data.headD 0 ≠ 0) machine with ⟨error, failed⟩ | ⟨_, _, _, _, _, present, _, _, done⟩
      · rw [push, failed]
        exact unhidden
      · rw [push, done]
        exact unhidden_of_plain (unhidden.ephemeral_eq_none (volume_of_admitted admitted (by decide)) present)
    · rw [signed]
      rcases sessionSlotSignFromSlot_cases config crypto build succeeds (Dispatcher.slotArg data)
        (data.getD 4 0 ≠ 0) machine with ⟨error, failed⟩ | ⟨_, _, _, _, present, _, _, done⟩
      · rw [sign, failed]
        exact unhidden
      · rw [sign, done]
        exact unhidden_of_plain (unhidden.ephemeral_eq_none (volume_of_admitted admitted (by decide)) present)
  | init env => exact init_unhidden (writes env rfl) _ build machine
  | reboot env volume => exact init_unhidden (writes env rfl) _ build _
  | elsewhere fs provisioned => exact unhidden

/-- An accepted push runs to its end. -/
theorem push_of_answered {env : SessionEnv} {data : Bytes}
    (answered : (handlePushSessionCert crypto env build data machine).1 = .ok (Dispatcher.refusal .ok)) :
    (push crypto env build data machine).1 = .ok () ∧
      (handlePushSessionCert crypto env build data machine).2 = (push crypto env build data machine).2 := by
  unfold handlePushSessionCert confirmed at answered ⊢
  split_ifs at answered ⊢ with _ _ tapped
  · cases answered
  · cases answered
  · refine ⟨?_, rfl⟩
    have coded : Dispatcher.refusal (sessionErr (push crypto env build data machine).1) = Dispatcher.refusal .ok :=
      Except.ok.inj answered
    rcases outcome : (push crypto env build data machine).1 with error | _
    · rw [outcome] at coded
      cases error <;> cases coded
    · rfl
  · injection Except.ok.inj answered with reply
    exact absurd (congrArg Reply.err reply) tapped

/-- What the collector finds after an accepted push. -/
theorem localCerts_pushed {env : SessionEnv} (succeeds : WritesSucceed env) {data : Bytes}
    (trusted : machine.device.volume ≠ .mismatch) (unhidden : Unhidden machine)
    (answered : (handlePushSessionCert crypto env build data machine).1 = .ok (Dispatcher.refusal .ok))
    (later : SessionEnv) (poolUsed : Bool) (ephemeralKeypair : Except Errno (Bytes × Bytes))
    (expectedClientPub : Option Bytes) :
    localCerts (handshakeInputs crypto later (handlePushSessionCert crypto env build data machine).2 poolUsed
        ephemeralKeypair expectedClientPub) =
      (pushedCert data).take sessionLeafDerMax :: takenCerts (some (pushedChain data)) := by
  obtain ⟨passed, state⟩ := push_of_answered answered
  rcases sessionSlotPushCert_cases crypto build succeeds (pushedCert data) (pushedChain data) (data.headD 0 ≠ 0)
      machine with ⟨error, failed⟩ | ⟨_, _, _, _, _, present, _, _, done⟩
  · rw [push, failed] at passed
    cases passed
  · have plain := unhidden.ephemeral_eq_none trusted present
    rw [state, push, done, ← takenCerts_stored]
    exact localCerts_stored plain

/-- Payloads that fit are equal only with equal certificates. -/
theorem chainBytes_inj {first second : List Bytes} (same : Cbor.chainBytes first = Cbor.chainBytes second)
    (short : (Cbor.chainBytes first).length ≤ sessionChainPtMax) : first = second := by
  have room : sessionChainPtMax < 2 ^ 32 := by decide
  have left := Cbor.parseChain_chainBytes (by decide : 32 ≤ 64) (max first.length second.length) _ first short room
  rw [same] at short left
  have right := Cbor.parseChain_chainBytes (by decide : 32 ≤ 64) (max first.length second.length) _ second short room
  rw [List.take_of_length_le (Nat.le_max_left _ _)] at left
  rw [List.take_of_length_le (Nat.le_max_right _ _)] at right
  exact left.symm.trans right

/-- A device that completes has encoded its certificates. -/
theorem payload_of_completed {exchange : Exchange} (lawful : exchange.suite.Lawful) (fixed : exchange.suite.FixedLength)
    {completed : Completed} (opened : exchange.completed = .ok completed) :
    (payloadOf (localCerts exchange.deviceInputs)).length ≤ sessionChainPtMax := by
  obtain ⟨pending, between, answered, _⟩ := Op.bind_eq_ok.mp (Prod.ext opened rfl)
  obtain ⟨_, _, payload, _, _, _, planned, _⟩ :=
    (answerMsg1_eq_ok lawful fixed exchange.ready rfl).mp answered
  obtain ⟨rfl, fits⟩ := chainPlaintext_eq_ok.mp planned
  exact fits

end Serving

/-- A push is served exactly when all of it fits. -/
theorem pushed_served_iff (config : Config) (crypto : Crypto) (build : Build) {start : Machine}
    (blank : start.slot = SlotState.blank) {events : List Event} {env : SessionEnv} {cmd : UInt32} {data : Bytes}
    (writes : ∀ event ∈ events ++ [.request env cmd data], ∀ env, event.env = some env → WritesSucceed env)
    {machine : Machine} (reached : machine = Trace.run (step config crypto build) start events)
    (admitted : admission config env machine cmd = .executed .pushSessionCert)
    (answered : (handlePushSessionCert crypto env build data machine).1 = .ok (Dispatcher.refusal .ok))
    (exchange : Exchange) (lawful : exchange.suite.Lawful) (fixed : exchange.suite.FixedLength)
    {later : SessionEnv} {ephemeralKeypair : Except Errno (Bytes × Bytes)}
    (brings : exchange.deviceInputs = handshakeInputs crypto later
      (handlePushSessionCert crypto env build data machine).2 false ephemeralKeypair exchange.expectedClientPub)
    (untampered : ¬ exchange.Tampered)
    (client : (Host.clientPayload (Host.clientCerts exchange.clientCert)).length ≤ sessionChainPtMax)
    (trusts : Host.trustCheckPolicy exchange.suite.hash exchange.x509 exchange.policy
      (pushedCert data :: pushedCerts (pushedChain data)) = .ok)
    (expects : ∀ pub, exchange.expectedClientPub = some pub → pub = exchange.suite.dhPublic exchange.clientPriv) :
    ServedInFull exchange (pushedCert data :: pushedCerts (pushedChain data)) ↔
      Fits (pushedCert data) (pushedChain data) := by
  have unhidden : Unhidden machine := by
    rw [reached]
    apply Trace.prefix_invariant (step config crypto build) Unhidden
      (fun event => ∀ env, event.env = some env → WritesSucceed env) (fun _ _ => True)
      (fun state event lawful _ => step_unhidden config crypto build state event lawful)
      writes (fun _ _ => trivial) (unhidden_of_plain (by rw [blank]; rfl)) rfl
  have succeeds : WritesSucceed env := writes (.request env cmd data) (by simp) env rfl
  have served := localCerts_pushed succeeds (volume_of_admitted admitted (by decide)) unhidden answered later false
    ephemeralKeypair exchange.expectedClientPub
  rw [← brings] at served
  constructor
  · rintro ⟨agrees, received, got, payload⟩
    obtain ⟨_, _, completed, seen, _, _, finished, _, _, _, _, _, found, carried, _⟩ := agrees
    obtain rfl := Option.some.inj (found.symm.trans got)
    have short := payload_of_completed lawful fixed finished
    rw [served] at carried short
    have same := chainBytes_inj (carried.symm.trans payload) short
    obtain ⟨leaf, chain⟩ := List.cons.inj same
    obtain ⟨few, total⟩ := takenCerts_eq_pushedCerts.mp chain
    refine ⟨?_, few, total, ?_⟩
    · rw [← leaf]
      exact List.length_take_le _ _
    · rw [← same]
      exact short
  · rintro ⟨leaf, few, total, encoded⟩
    have all : localCerts exchange.deviceInputs = pushedCert data :: pushedCerts (pushedChain data) := by
      rw [served, List.take_of_length_le leaf, takenCerts_eq_pushedCerts.mpr ⟨few, total⟩]
    have agrees := Exchange.agrees_of_untampered lawful fixed untampered ⟨by rw [all]; exact encoded, client⟩
      ⟨by rw [all]; exact trusts, expects⟩
    refine ⟨agrees, ?_⟩
    obtain ⟨_, _, _, received, _, _, _, _, _, _, _, _, found, carried, _⟩ := agrees
    rw [all] at carried
    exact ⟨received, found, carried⟩

/-- The machine with its first identity. -/
def slotReady : Machine := Trace.run (step .default slotCrypto slotBuild) slotStart [Event.init slotEnv]

/-- The machine after a certificate was pushed with this chain. -/
def slotPushed (chain : Bytes) : Machine :=
  (handlePushSessionCert slotCrypto slotEnv slotBuild (pushData chain) slotReady).2

/-- An honest handshake with the slot's certificates. -/
def slotExchange (chain : Bytes) : Exchange :=
  { Handshake.sampleExchange with
    deviceStatic := List.replicate 32 3
    slotCert := (slotPushed chain).slot.sessionCert
    chainFile := (slotPushed chain).slot.files .chain }

/-- The fourth certificate of a push is dropped. -/
theorem fourth_cert_dropped :
    let chain := plainCa 9 ++ (plainCa 9 ++ (plainCa 9 ++ plainCa 9))
    (handlePushSessionCert slotCrypto slotEnv slotBuild (pushData chain) slotReady).1 =
        .ok (Dispatcher.refusal .ok) ∧
      pushedCerts (pushedChain (pushData chain)) = [plainCa 9, plainCa 9, plainCa 9, plainCa 9] ∧
      (slotExchange chain).hostReceived.map (fun received => received.payload) =
        some (Cbor.chainBytes [plainLeaf 9 (List.replicate 32 3), plainCa 9, plainCa 9, plainCa 9]) ∧
      ¬ ServedInFull (slotExchange chain)
        (pushedCert (pushData chain) :: pushedCerts (pushedChain (pushData chain))) := by
  have carried : (slotExchange (plainCa 9 ++ (plainCa 9 ++ (plainCa 9 ++ plainCa 9)))).hostReceived.map
      (fun received => received.payload) =
      some (Cbor.chainBytes [plainLeaf 9 (List.replicate 32 3), plainCa 9, plainCa 9, plainCa 9]) := by
    decide +kernel
  refine ⟨by decide +kernel, by decide +kernel, carried, ?_⟩
  rintro ⟨_, received, got, payload⟩
  rw [got, Option.map_some, payload] at carried
  revert carried
  decide +kernel

/-- With one certificate above the leaf everything is served. -/
theorem single_cert_served :
    Fits (pushedCert (pushData (plainCa 9))) (pushedChain (pushData (plainCa 9))) ∧
      ServedInFull (slotExchange (plainCa 9)) [plainLeaf 9 (List.replicate 32 3), plainCa 9] := by
  have fits : Fits (pushedCert (pushData (plainCa 9))) (pushedChain (pushData (plainCa 9))) := by decide +kernel
  have certs : pushedCert (pushData (plainCa 9)) :: pushedCerts (pushedChain (pushData (plainCa 9))) =
      [plainLeaf 9 (List.replicate 32 3), plainCa 9] := by decide +kernel
  have static : (slotExchange (plainCa 9)).deviceInputs.staticKeypair =
      (loadStaticKeypair slotCrypto slotEnv (slotPushed (plainCa 9))).1 := by decide +kernel
  have brings : (slotExchange (plainCa 9)).deviceInputs = handshakeInputs slotCrypto slotEnv (slotPushed (plainCa 9))
      false (slotExchange (plainCa 9)).deviceInputs.ephemeralKeypair (slotExchange (plainCa 9)).expectedClientPub := by
    rfl
  have blank : slotStart.slot = SlotState.blank := rfl
  have writes : ∀ event ∈ [Event.init slotEnv] ++ [slotPush], ∀ env, event.env = some env → WritesSucceed env := by
    intro event listed
    simp only [List.cons_append, List.nil_append, List.mem_cons, List.not_mem_nil, or_false] at listed
    rcases listed with rfl | rfl <;> exact fun env found => (slotEnv_sound rfl env found).1
  have reached : slotReady = Trace.run (step .default slotCrypto slotBuild) slotStart [.init slotEnv] := rfl
  refine ⟨fits, ?_⟩
  rw [← certs]
  apply (pushed_served_iff .default slotCrypto slotBuild blank writes reached (by decide +kernel) (by decide +kernel)
    (slotExchange (plainCa 9)) Handshake.taggedSuite_lawful Handshake.taggedSuite_fixed brings
    (Handshake.untampered_of_honest rfl) (by decide +kernel) rfl ?_).mpr fits
  rintro pub ⟨⟩
  rfl

end Cantil.SessionIdentity
