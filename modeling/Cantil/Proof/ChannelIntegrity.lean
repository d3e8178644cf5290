import Cantil.Firmware.Channel
import Cantil.Host.Channel
import Cantil.Library.Trace
import Cantil.Proof.Handshake

namespace Cantil.Channel
open Library Library.Noise Trace Session

inductive Party where
  | host
  | device
  deriving DecidableEq, Repr

inductive Action where
  | send (message : Bytes)
  | receive (maxLen : Nat)
  deriving DecidableEq, Repr

/-- One call of a party, and what the network does meanwhile. -/
structure Event where
  party : Party
  action : Action
  link : Link Errno
  deriving DecidableEq, Repr

/-- The messages passed to and returned by the two ends. -/
structure Traffic where
  passed : List Bytes
  received : List Bytes
  deriving DecidableEq, Repr

variable (traffic : Traffic) (suite : Suite)

/-- A longer message is refused before it is encrypted. -/
def Traffic.accepted : List Bytes :=
  traffic.passed.filter (·.length ≤ maxFramePayload)

def Traffic.pass (message : Bytes) : Traffic :=
  { traffic with passed := traffic.passed ++ [message] }

def Traffic.record (result : Except Errno Bytes) : Traffic :=
  { traffic with received := traffic.received ++ result.toOption.toList }

/-- The two sessions, their traffic and all encryptions. -/
structure State where
  host : Host.Session
  device : Established
  toDevice : Traffic
  toHost : Traffic
  seals : List Seal
  deriving DecidableEq, Repr

variable (state : State) (event : Event)

def opening (host : Host.Session) (device : Established) : State :=
  ⟨host, device, ⟨[], []⟩, ⟨[], []⟩, []⟩

/-- The encryption that a call performs. -/
def sealOf : List Seal :=
  match event.party, event.action with
  | .host, .send message =>
    match Host.sealMessage suite state.host message with
    | .ok _ => [⟨state.host.txKey, state.host.txNonce, [], message⟩]
    | .error _ => []
  | .device, .send message =>
    match sealMessage suite state.device message with
    | .ok _ => [⟨state.device.txKey, state.device.txNonce, [], message⟩]
    | .error _ => []
  | _, .receive _ => []

def step : State :=
  let state' := { state with seals := state.seals ++ sealOf suite state event }
  match event.party, event.action with
  | .host, .send message =>
    { state' with
      host := (Host.sessionSend suite message (state.host, event.link)).2.1
      toDevice := state.toDevice.pass message }
  | .host, .receive maxLen =>
    { state' with
      host := (Host.sessionRecvTo suite maxLen (state.host, event.link)).2.1
      toHost := state.toHost.record (Host.sessionRecvTo suite maxLen (state.host, event.link)).1 }
  | .device, .send message =>
    { state' with
      device := (sessionSend suite message (state.device, event.link)).2.1
      toHost := state.toHost.pass message }
  | .device, .receive maxLen =>
    { state' with
      device := (sessionRecv suite maxLen (state.device, event.link)).2.1
      toDevice := state.toDevice.record (sessionRecv suite maxLen (state.device, event.link)).1 }

/-- The key and the nonce with which a receiver opens. -/
def State.expected : Party → Bytes × UInt64
  | .host => (state.host.rxKey, state.host.rxNonce)
  | .device => (state.device.rxKey, state.device.rxNonce)

/-- An ideal AEAD opens only what was sealed the same way. -/
def Unforged : Prop :=
  ∀ maxLen cipher after plain, event.action = .receive maxLen →
    Link.recvFrame (maxFramePayload + noiseTagLen) .enobufs event.link = (.ok cipher, after) →
    suite.decrypt (state.expected event.party).1 (state.expected event.party).2 [] cipher = some plain →
    ∃ sealing ∈ state.seals, sealing.key = (state.expected event.party).1 ∧
      sealing.nonce = (state.expected event.party).2 ∧ sealing.ad = [] ∧ cipher = sealing.cipher suite

/-- The sessions' counters track both lanes, under two keys. -/
structure Synced (state : State) : Prop where
  toDevice : Tracks state.host.txKey state.seals ⟨state.toDevice.accepted, state.toDevice.received⟩
    state.host.txNonce state.device.rxNonce
  toHost : Tracks state.device.txKey state.seals ⟨state.toHost.accepted, state.toHost.received⟩
    state.device.txNonce state.host.rxNonce
  crossed : state.device.rxKey = state.host.txKey ∧ state.host.rxKey = state.device.txKey
  apart : state.host.txKey ≠ state.device.txKey
  keys : ∀ sealing ∈ state.seals, sealing.key = state.host.txKey ∨ sealing.key = state.device.txKey

theorem accepted_pass (message : Bytes) :
    (traffic.pass message).accepted =
      if message.length ≤ maxFramePayload then traffic.accepted ++ [message] else traffic.accepted := by
  unfold Traffic.pass Traffic.accepted
  split_ifs with short
  · simp [short]
  · simp [short]

section Steps

variable {suite : Suite} {state : State} {event : Event}

/-- Nobody receives more than was accepted. -/
theorem accepted_length_le : traffic.accepted.length ≤ traffic.passed.length :=
  List.length_filter_le _ _

theorem record_error (error : Errno) : traffic.record (.error error) = traffic := by
  simp [Traffic.record, Except.toOption]

/-- The messages that were passed stay on record. -/
theorem step_passed (suite : Suite) (state : State) (event : Event) :
    state.toDevice.passed.length ≤ (step suite state event).toDevice.passed.length ∧
      state.toHost.passed.length ≤ (step suite state event).toHost.passed.length := by
  rcases event with ⟨_ | _, _ | _, link⟩ <;> simp [step, Traffic.pass, Traffic.record]

variable (lawful : suite.Lawful) (synced : Synced state)

/-- What an ideal AEAD opens is the message that was sealed. -/
theorem Unforged.genuine (lawful : suite.Lawful) (unforged : Unforged suite state event) {maxLen : Nat}
    {cipher plain : Bytes} {after : Link Errno} (receive : event.action = .receive maxLen)
    (arrived : Link.recvFrame (maxFramePayload + noiseTagLen) .enobufs event.link = (.ok cipher, after))
    (opened : suite.decrypt (state.expected event.party).1 (state.expected event.party).2 [] cipher = some plain) :
    ⟨(state.expected event.party).1, (state.expected event.party).2, [], plain⟩ ∈ state.seals := by
  obtain ⟨⟨key, nonce, ad, original⟩, member, rfl, rfl, rfl, rfl⟩ :=
    unforged maxLen cipher after plain receive arrived opened
  have same := lawful.decrypt_encrypt (state.expected event.party).1 (state.expected event.party).2 [] original
  obtain rfl := Option.some.inj (same.symm.trans opened)
  exact member

include synced

theorem Synced.keys_append {sealing : Seal}
    (known : sealing.key = state.host.txKey ∨ sealing.key = state.device.txKey) :
    ∀ other ∈ state.seals ++ [sealing], other.key = state.host.txKey ∨ other.key = state.device.txKey :=
  List.forall_mem_append.mpr ⟨synced.keys, List.forall_mem_singleton.mpr known⟩

theorem hostSend_synced (message : Bytes) (link : Link Errno) :
    Synced (step suite state ⟨.host, .send message, link⟩) := by
  have session := Host.sessionSend_session suite message state.host link
  have passed : _ = if message.length ≤ Host.maxFramePayload then _ else _ := accepted_pass state.toDevice message
  unfold step
  dsimp only [sealOf]
  rw [Host.sealMessage_eq, session]
  by_cases short : message.length ≤ Host.maxFramePayload
  · rw [if_pos short] at passed ⊢
    rw [if_pos short]
    exact {
      toDevice := by
        rw [passed]
        exact synced.toDevice.send message
      toHost := synced.toHost.other synced.apart
      crossed := synced.crossed
      apart := synced.apart
      keys := synced.keys_append (.inl rfl) }
  · rw [if_neg short] at passed ⊢
    rw [if_neg short, List.append_nil]
    exact { synced with
      toDevice := by
        rw [passed]
        exact synced.toDevice }

theorem deviceSend_synced (message : Bytes) (link : Link Errno) :
    Synced (step suite state ⟨.device, .send message, link⟩) := by
  have session := sessionSend_session suite message state.device link
  have passed := accepted_pass state.toHost message
  unfold step
  dsimp only [sealOf]
  rw [sealMessage_eq, session]
  by_cases short : message.length ≤ maxFramePayload
  · rw [if_pos short] at passed ⊢
    rw [if_pos short]
    exact {
      toDevice := synced.toDevice.other (Ne.symm synced.apart)
      toHost := by
        rw [passed]
        exact synced.toHost.send message
      crossed := synced.crossed
      apart := synced.apart
      keys := synced.keys_append (.inr rfl) }
  · rw [if_neg short] at passed ⊢
    rw [if_neg short, List.append_nil]
    exact { synced with
      toHost := by
        rw [passed]
        exact synced.toHost }

include lawful

/-- The host returns the next message of the device or nothing. -/
theorem hostReceive_synced {maxLen : Nat} {link : Link Errno} (few : state.toHost.passed.length < 2 ^ 64)
    (unforged : Unforged suite state ⟨.host, .receive maxLen, link⟩) :
    Synced (step suite state ⟨.host, .receive maxLen, link⟩) := by
  unfold step
  dsimp only [sealOf]
  rw [List.append_nil]
  rcases Host.sessionRecvTo_cases suite maxLen state.host link with
    ⟨⟨error, failed⟩, kept⟩ | ⟨cipher, after, plain, arrived, opened, returned, session⟩
  · rw [failed, kept, record_error]
    exact synced
  · have genuine := unforged.genuine lawful rfl arrived opened
    dsimp only [State.expected] at genuine
    rw [synced.crossed.2] at genuine
    rw [returned, session]
    exact { synced with
      toHost := synced.toHost.receive (lt_of_le_of_lt (accepted_length_le _) few) genuine }

/-- The device returns the next message of the host or nothing. -/
theorem deviceReceive_synced {maxLen : Nat} {link : Link Errno} (few : state.toDevice.passed.length < 2 ^ 64)
    (unforged : Unforged suite state ⟨.device, .receive maxLen, link⟩) :
    Synced (step suite state ⟨.device, .receive maxLen, link⟩) := by
  unfold step
  dsimp only [sealOf]
  rw [List.append_nil]
  rcases sessionRecv_cases suite maxLen state.device link with
    ⟨⟨error, failed⟩, kept⟩ | ⟨cipher, after, plain, arrived, opened, returned, session⟩
  · rw [failed, kept, record_error]
    exact synced
  · have genuine := unforged.genuine lawful rfl arrived opened
    dsimp only [State.expected] at genuine
    rw [synced.crossed.1] at genuine
    rw [returned, session]
    exact { synced with
      toDevice := synced.toDevice.receive (lt_of_le_of_lt (accepted_length_le _) few) genuine }

/-- The counters stay in step with the lanes in every call. -/
theorem step_synced (unforged : Unforged suite state event)
    (few : state.toDevice.passed.length < 2 ^ 64 ∧ state.toHost.passed.length < 2 ^ 64) :
    Synced (step suite state event) := by
  rcases event with ⟨party, action, link⟩
  cases party with
  | host =>
    cases action with
    | send message => exact hostSend_synced synced message link
    | receive maxLen => exact hostReceive_synced lawful synced few.2 unforged
  | device =>
    cases action with
    | send message => exact deviceSend_synced synced message link
    | receive maxLen => exact deviceReceive_synced lawful synced few.1 unforged

end Steps

section Runs

variable {suite : Suite}

theorem run_passed (suite : Suite) (start : State) (events : List Event) :
    start.toDevice.passed.length ≤ (run (step suite) start events).toDevice.passed.length ∧
      start.toHost.passed.length ≤ (run (step suite) start events).toHost.passed.length := by
  apply run_invariant (step suite) (fun state => start.toDevice.passed.length ≤ state.toDevice.passed.length ∧
    start.toHost.passed.length ≤ state.toHost.passed.length)
  · intro state event before
    have grown := step_passed suite state event
    omega
  · exact ⟨Nat.le_refl _, Nat.le_refl _⟩

theorem run_synced (lawful : suite.Lawful) {start : State} (synced : Synced start) (events : List Event)
    (ideal : ∀ visit ∈ visits (step suite) start events, Unforged suite visit.1 visit.2)
    (few : (run (step suite) start events).toDevice.passed.length < 2 ^ 64 ∧
      (run (step suite) start events).toHost.passed.length < 2 ^ 64) :
    Synced (run (step suite) start events) := by
  apply run_invariant_of (step suite) Synced
    (fun state event => Unforged suite state event ∧
      (state.toDevice.passed.length < 2 ^ 64 ∧ state.toHost.passed.length < 2 ^ 64))
    (fun state event met synced => step_synced lawful synced met.1 met.2) start events ?_ synced
  intro visit visited
  refine ⟨ideal visit visited, ?_⟩
  obtain ⟨before, after, rfl, reached⟩ := (mem_visits_iff (step suite) start events visit.1 visit.2).mp visited
  rw [run_append, ← reached] at few
  have later := run_passed suite visit.1 (visit.2 :: after)
  omega

theorem Synced.nonces_nodup {state : State} (synced : Synced state)
    (few : state.toDevice.passed.length < 2 ^ 64 ∧ state.toHost.passed.length < 2 ^ 64) :
    (state.seals.map fun sealing => (sealing.key, sealing.nonce)).Nodup := by
  apply nodup_of_keys
  intro key
  by_cases mine : key = state.host.txKey
  · subst mine
    exact synced.toDevice.nodup (lt_of_le_of_lt (accepted_length_le _) few.1)
  · by_cases other : key = state.device.txKey
    · subst other
      exact synced.toHost.nodup (lt_of_le_of_lt (accepted_length_le _) few.2)
    · have none : state.seals.filter (·.key = key) = [] := by
        apply List.filter_eq_nil_iff.mpr
        intro sealing member
        rcases synced.keys sealing member with same | same
        · simpa [same] using Ne.symm mine
        · simpa [same] using Ne.symm other
      rw [none]
      exact List.nodup_nil

end Runs

/-! From a completed handshake on. -/

section Exchange

open Handshake

/-- The state after a handshake that both parties completed. -/
def opened (exchange : Exchange) : Option State :=
  match exchange.host, exchange.device with
  | some (host, _), .ok device => some (opening host device)
  | _, _ => none

/-- The outputs of the split are HMACs that do not collide. -/
def SplitApart (exchange : Exchange) : Prop :=
  ∀ sym, exchange.hostSym = some sym →
    let temp := exchange.suite.hmac sym.ck []
    let first := exchange.suite.hmac temp [0x01]
    exchange.suite.hmac temp [0x01] = exchange.suite.hmac temp (first ++ [0x02]) → [0x01] = first ++ [0x02]

/-- The two ends of a completed handshake. -/
structure Fresh (host : Host.Session) (device : Established) : Prop where
  hostNonces : host.txNonce = 0 ∧ host.rxNonce = 0
  deviceNonces : device.txNonce = 0 ∧ device.rxNonce = 0
  crossed : device.rxKey = host.txKey ∧ host.rxKey = device.txKey

theorem opened_fresh {exchange : Exchange} (lawful : exchange.suite.Lawful) (fixed : exchange.suite.FixedLength)
    (agrees : exchange.Agrees) {start : State} (started : opened exchange = some start) :
    Fresh start.host start.device ∧ (SplitApart exchange → start.host.txKey ≠ start.device.txKey) := by
  obtain ⟨session, msg3, completed, received, host, device, finished, tx, rx, sym, _⟩ := agrees
  rw [opened, host, device] at started
  obtain rfl := Option.some.inj started
  obtain ⟨_, _, _, _, _, _, _, _, _, _, _, _, hostShape⟩ := Host.sessionOpen_eq_some.mp host
  obtain ⟨pending, between, answered, ended⟩ := Op.bind_eq_ok.mp (Prod.ext finished rfl)
  obtain ⟨_, _, _, _, _, _, _, wrote, _, _, rfl⟩ :=
    (answerMsg1_eq_ok lawful fixed exchange.ready rfl).mp answered
  obtain ⟨_, _, _, _, _, _, _, _, _, deviceShape, _⟩ :=
    (finishMsg3_eq_ok lawful fixed (writeMessage2_hasKey lawful wrote)).mp ended
  have hostNonces : session.txNonce = 0 ∧ session.rxNonce = 0 := by
    rw [hostShape]
    exact ⟨rfl, rfl⟩
  have deviceNonces : completed.session.txNonce = 0 ∧ completed.session.rxNonce = 0 := by
    rw [deviceShape]
    exact ⟨rfl, rfl⟩
  refine ⟨⟨hostNonces, deviceNonces, tx.symm, rx⟩, fun apart => ?_⟩
  show session.txKey ≠ completed.session.txKey
  rw [tx, deviceShape]
  intro same
  have lengths := congrArg List.length (apart completed.sym sym same)
  rw [List.length_append, fixed.hmac_length] at lengths
  cases lengths

theorem opened_synced {exchange : Exchange} (lawful : exchange.suite.Lawful) (fixed : exchange.suite.FixedLength)
    (agrees : exchange.Agrees) (apart : SplitApart exchange) {start : State}
    (started : opened exchange = some start) : Synced start := by
  obtain ⟨host, device, rfl⟩ : ∃ host device, start = opening host device := by
    unfold opened at started
    split at started
    · exact ⟨_, _, (Option.some.inj started).symm⟩
    · cases started
  obtain ⟨fresh, keys⟩ : Fresh host device ∧ _ := opened_fresh lawful fixed agrees started
  exact {
    toDevice := by
      show Tracks host.txKey [] ⟨[], []⟩ host.txNonce device.rxNonce
      rw [fresh.hostNonces.1, fresh.deviceNonces.2]
      exact Tracks.start _
    toHost := by
      show Tracks device.txKey [] ⟨[], []⟩ device.txNonce host.rxNonce
      rw [fresh.hostNonces.2, fresh.deviceNonces.1]
      exact Tracks.start _
    crossed := fresh.crossed
    apart := keys apart
    keys := fun _ member => by cases member }

/-- A receiver gets a prefix, and no nonce repeats. -/
theorem run_keeps_integrity (exchange : Exchange) (lawful : exchange.suite.Lawful)
    (fixed : exchange.suite.FixedLength) (agrees : exchange.Agrees) (apart : SplitApart exchange) {start : State}
    (started : opened exchange = some start) (events : List Event)
    (ideal : ∀ visit ∈ visits (step exchange.suite) start events, Unforged exchange.suite visit.1 visit.2)
    (few : (run (step exchange.suite) start events).toDevice.passed.length < 2 ^ 64 ∧
      (run (step exchange.suite) start events).toHost.passed.length < 2 ^ 64) :
    (run (step exchange.suite) start events).toDevice.received <+:
        (run (step exchange.suite) start events).toDevice.accepted ∧
      (run (step exchange.suite) start events).toHost.received <+:
        (run (step exchange.suite) start events).toHost.accepted ∧
      ((run (step exchange.suite) start events).seals.map fun sealing => (sealing.key, sealing.nonce)).Nodup := by
  have synced := run_synced lawful (opened_synced lawful fixed agrees apart started) events ideal few
  exact ⟨synced.toDevice.ordered, synced.toHost.ordered, synced.nonces_nodup few⟩

def sampleStart : State := (opened sampleExchange).get (by decide +kernel)

theorem sampleStart_opened : opened sampleExchange = some sampleStart := (Option.some_get _).symm

def sampleKeyToDevice : Bytes :=
  bigEndian 32 0xc9086bd0f7bcd67c662223223363ea87e249516920b11a15c8e373ee362e14d8

def sampleKeyToHost : Bytes :=
  bigEndian 32 0xec59d829bb0715708fd5a4a8367cd76d8ecac838bae44ecac4761b3686295f0d

/-- The sessions of the sample with their keys worked out. -/
def settledStart : State :=
  opening
    ⟨sampleKeyToDevice, sampleKeyToHost, 0, 0, Host.padKey [3], Host.padKey [1],
      [[0x30, 0x01, 0x00], [0x30, 0x01, 0x07]]⟩
    ⟨sampleKeyToDevice, sampleKeyToHost, 0, 0, Host.padKey [1], Host.padKey [3],
      [[0x30, 0x01, 0x05], [0x30, 0x01, 0x06]]⟩

theorem sampleStart_eq : sampleStart = settledStart := by decide +kernel

def quietLink (incoming : Bytes) : Link Errno := ⟨incoming, [], [], .etimedout⟩

/-- One message too long, and a short one that arrives. -/
def overlongRun : List Event :=
  [⟨.host, .send (List.replicate 4097 0), quietLink []⟩, ⟨.host, .send [7], quietLink []⟩,
    ⟨.device, .receive 4096, quietLink (Frame.encode (taggedSuite.encrypt sampleStart.host.txKey 0 [] [7]))⟩]

/-- What is sealed, what arrives, and how the run ends. -/
theorem overlongRun_steps :
    let middle := step taggedSuite (step taggedSuite sampleStart ⟨.host, .send (List.replicate 4097 0), quietLink []⟩)
      ⟨.host, .send [7], quietLink []⟩
    let cipher := taggedSuite.encrypt sampleStart.host.txKey 0 [] [7]
    let final := run (step taggedSuite) sampleStart overlongRun
    middle.seals = [⟨sampleStart.host.txKey, 0, [], [7]⟩] ∧
      middle.expected .device = (sampleStart.host.txKey, 0) ∧
      Link.recvFrame (maxFramePayload + noiseTagLen) .enobufs (quietLink (Frame.encode cipher)) =
        (.ok cipher, quietLink []) ∧
      final.toDevice.received = [[7]] ∧
      ¬ final.toDevice.received <+: final.toDevice.passed ∧
      final.toDevice.passed.length < 2 ^ 64 ∧ final.toHost.passed.length < 2 ^ 64 := by
  rw [overlongRun, sampleStart_eq]
  decide +kernel

theorem overlongRun_ideal :
    ∀ visit ∈ visits (step taggedSuite) sampleStart overlongRun, Unforged taggedSuite visit.1 visit.2 := by
  obtain ⟨sealed, expected, arrived, _⟩ := overlongRun_steps
  simp only [overlongRun, visits, List.forall_mem_cons, List.not_mem_nil, false_implies, implies_true, and_true]
  refine ⟨?_, ?_, ?_⟩
  · intro maxLen cipher after plain receive
    cases receive
  · intro maxLen cipher after plain receive
    cases receive
  · intro maxLen cipher after plain receive delivered _
    rw [arrived] at delivered
    obtain ⟨found, _⟩ := Prod.mk.inj delivered
    obtain rfl := Except.ok.inj found
    rw [sealed, expected]
    generalize sampleStart.host.txKey = key
    exact ⟨_, List.mem_singleton.mpr rfl, rfl, rfl, rfl, rfl⟩

/-- What is received is no prefix of what was passed. -/
theorem overlongRun_skips :
    opened sampleExchange = some sampleStart ∧
      (∀ visit ∈ visits (step taggedSuite) sampleStart overlongRun, Unforged taggedSuite visit.1 visit.2) ∧
      (run (step taggedSuite) sampleStart overlongRun).toDevice.received = [[7]] ∧
      ¬ (run (step taggedSuite) sampleStart overlongRun).toDevice.received <+:
        (run (step taggedSuite) sampleStart overlongRun).toDevice.passed := by
  obtain ⟨_, _, _, received, skipped, _⟩ := overlongRun_steps
  exact ⟨sampleStart_opened, overlongRun_ideal, received, skipped⟩

theorem sampleExchange_apart : SplitApart sampleExchange := by
  have differ : (sampleExchange.hostSym.map fun sym =>
      decide (taggedSuite.hmac (taggedSuite.hmac sym.ck []) [0x01] = taggedSuite.hmac (taggedSuite.hmac sym.ck [])
        (taggedSuite.hmac (taggedSuite.hmac sym.ck []) [0x01] ++ [0x02]))) = some false := by
    decide +kernel
  intro sym found temp first same
  rw [found, Option.map_some, Option.some.injEq, decide_eq_false_iff_not] at differ
  exact absurd same differ

theorem sampleExchange_settled : sampleExchange.Agrees := by
  apply Exchange.agrees_of_untampered taggedSuite_lawful taggedSuite_fixed
  · exact untampered_of_honest rfl
  · exact sampleExchange_withinLimits
  · refine ⟨rfl, ?_⟩
    rintro pub ⟨⟩
    rfl

/-- Behind a refused message the channel still works. -/
theorem overlongRun_integrity :
    (run (step taggedSuite) sampleStart overlongRun).toDevice.received <+:
        (run (step taggedSuite) sampleStart overlongRun).toDevice.accepted ∧
      (run (step taggedSuite) sampleStart overlongRun).toHost.received <+:
        (run (step taggedSuite) sampleStart overlongRun).toHost.accepted ∧
      ((run (step taggedSuite) sampleStart overlongRun).seals.map fun sealing =>
        (sealing.key, sealing.nonce)).Nodup := by
  obtain ⟨_, _, _, _, _, few⟩ := overlongRun_steps
  exact run_keeps_integrity sampleExchange taggedSuite_lawful taggedSuite_fixed sampleExchange_settled
    sampleExchange_apart sampleStart_opened overlongRun overlongRun_ideal few

end Exchange

end Cantil.Channel
