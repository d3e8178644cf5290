import Cantil.Host.Request
import Cantil.Proof.ChannelIntegrity
import Cantil.Proof.Responses

namespace Cantil.Matching
open Library Library.Noise HandleOne Handshake Session Trace Channel

/-- The awaited request, its place in the session and its octets. -/
structure Waiting where
  request : Host.Request
  index : Nat
  bytes : Bytes
  deriving DecidableEq, Repr

/-- A message of the device, and the request that it is for. -/
structure Produced where
  index : Nat
  request : Bytes
  message : Bytes
  deriving DecidableEq, Repr

/-- Both ends of a session and the bytes between them. -/
structure Line (Body : Type) where
  host : Host.Session
  device : Established
  serving : Option Body
  toDevice : Bytes
  toHost : Bytes
  waiting : Option Waiting
  broken : Bool
  requests : List Bytes
  served : Nat
  produced : List Produced
  accepted : Nat
  deriving DecidableEq, Repr

/-- Each event says how many bytes have arrived where they are read. -/
inductive Event where
  | submit (request : Host.Request) (arrived : Nat) (faults : List (Option Errno))
  | serve (arrived : Nat) (faults : List (Option Errno))
  | await (arrived : Nat)
  deriving DecidableEq, Repr

variable {Body : Type}

def opening (host : Host.Session) (device : Established) (body : Body) : Line Body :=
  ⟨host, device, some body, [], [], none, false, [], 0, [], 0⟩

variable (suite : Suite) (line : Line Body)

/-- The device messages that the host has not opened. -/
def Line.pending : List Produced := line.produced.drop line.accepted

/-- The requests that the device has not opened. -/
def Line.outstanding : List Bytes := line.requests.drop line.served

def arriving (stream : Bytes) (arrived : Nat) (faults : List (Option Errno)) : Link Errno :=
  ⟨stream.take arrived, [], faults, .etimedout⟩

/-- A waiting host is silent, a failed send breaks the stream. -/
def submit (request : Host.Request) (arrived : Nat) (faults : List (Option Errno)) : Line Body :=
  match line.waiting with
  | some _ => line
  | none =>
    match Host.sendRequest suite request (line.host, arriving line.toHost arrived faults) with
    | (result, (host, link)) =>
      let line := { line with
        host
        toDevice := line.toDevice ++ link.outgoing
        toHost := link.incoming ++ line.toHost.drop arrived }
      match result with
      | .ok bytes => { line with
          waiting := some ⟨request, line.requests.length, bytes⟩
          requests := line.requests ++ [bytes] }
      | .error error => { line with broken := line.broken || error = .io }

/-- An error closes the session. -/
def serve (answer : Body → Bytes → List Bytes × Option Body) (line : Line Body) (arrived : Nat)
    (faults : List (Option Errno)) : Line Body :=
  match line.serving with
  | none => line
  | some body =>
    match sessionRecv suite Dispatcher.msgBufSize (line.device, arriving line.toDevice arrived []) with
    | (.error _, (device, link)) => { line with
        device
        toDevice := link.incoming ++ line.toDevice.drop arrived
        serving := none }
    | (.ok plain, (device, link)) =>
      let (messages, next) := answer body plain
      let ((sent, result), (device, out)) := sessionSendAll suite messages (device, ⟨[], [], faults, .etimedout⟩)
      { line with
        device
        toDevice := link.incoming ++ line.toDevice.drop arrived
        toHost := line.toHost ++ out.outgoing
        serving := if result = .ok () then next else none
        served := line.served + 1
        produced := line.produced ++ sent.map (Produced.mk line.served plain) }

/-- What a waiting host receives. The rest only reads it. -/
def received (waiting : Waiting) (arrived : Nat) : Except Errno Bytes × Host.Session × Link Errno :=
  Host.sessionRecvTo suite waiting.request.scratch (line.host, arriving line.toHost arrived [])

def await (arrived : Nat) : Line Body :=
  match line.waiting with
  | none => line
  | some waiting =>
    match received suite line waiting arrived with
    | (result, (host, link)) => { line with
        host
        toHost := link.incoming ++ line.toHost.drop arrived
        waiting := none
        accepted := line.accepted + result.toOption.toList.length }

def step (answer : Body → Bytes → List Bytes × Option Body) (line : Line Body) : Event → Line Body
  | .submit request arrived faults => submit suite line request arrived faults
  | .serve arrived faults => serve suite answer line arrived faults
  | .await arrived => await suite line arrived

/-- A wait ends in silence or with its own response. -/
def Answered : Event → Prop
  | .await arrived => ∀ waiting, line.waiting = some waiting →
      (received suite line waiting arrived).1 = .error .etimedout ∨
      ∃ plain, (received suite line waiting arrived).1 = .ok plain ∧
        line.produced[line.accepted]? = some ⟨waiting.index, waiting.bytes, plain⟩
  | _ => True

/-- Nothing of an earlier request is under way when one is sent. -/
def Quiet : Event → Prop
  | .submit _ _ _ => line.toHost = [] ∧ (line.serving = none ∨ (line.toDevice = [] ∧ line.broken = false))
  | _ => True

/-- The sessions of the two ends of one handshake. -/
structure Paired (host : Host.Session) (device : Established) : Prop where
  keyToDevice : device.rxKey = host.txKey
  keyToHost : host.rxKey = device.txKey
  nonceToDevice : device.rxNonce = host.txNonce
  nonceToHost : host.rxNonce = device.txNonce

/-- Streams hold the unopened, one request at most. -/
structure Synced (suite : Suite) (line : Line Body) : Prop where
  keyToDevice : line.device.rxKey = line.host.txKey
  keyToHost : line.host.rxKey = line.device.txKey
  short : ∀ produced ∈ line.produced, produced.message.length ≤ maxFramePayload
  toHost : ∃ tail, line.toHost = sealedFrames suite line.device.txKey line.host.rxNonce
      (line.pending.map (·.message)) ++ tail ∧ (line.serving ≠ none → tail = []) ∧
    ∃ cipher, cipher.length ≤ maxFramePayload + noiseTagLen ∧ Link.PartOf tail cipher
  next : line.serving ≠ none → line.device.txNonce = line.host.rxNonce + UInt64.ofNat line.pending.length
  accepted : line.accepted ≤ line.produced.length
  requests : ∀ request ∈ line.requests, request.length ≤ maxFramePayload
  toDevice : line.serving ≠ none → line.broken = false →
    line.toDevice = sealedFrames suite line.host.txKey line.device.rxNonce line.outstanding ∧
      line.host.txNonce = line.device.rxNonce + UInt64.ofNat line.outstanding.length ∧
      line.served ≤ line.requests.length
  current : ∀ waiting, line.waiting = some waiting →
    (∀ produced ∈ line.pending, produced.index = waiting.index ∧ produced.request = waiting.bytes) ∧
      (line.serving ≠ none → line.broken = false ∧
        (line.outstanding = [] ∨ (line.outstanding = [waiting.bytes] ∧ line.served = waiting.index)))

/-- Something is under way to a host that does not wait. -/
def Lost : Prop := line.waiting = none ∧ line.toHost ≠ []

theorem opening_synced {host : Host.Session} {device : Established} (paired : Paired host device)
    (body : Body) : Synced suite (opening host device body) where
  keyToDevice := paired.keyToDevice
  keyToHost := paired.keyToHost
  short := fun _ member => by cases member
  toHost := ⟨[], rfl, fun _ => rfl, [], by decide, List.nil_prefix, by decide⟩
  next := fun _ => by simp [opening, Line.pending, paired.nonceToHost]
  accepted := Nat.le_refl 0
  requests := fun _ member => by cases member
  toDevice := fun _ _ => ⟨rfl, by simp [opening, Line.outstanding, paired.nonceToDevice], Nat.le_refl 0⟩
  current := fun _ waits => by cases waits

section Steps

variable {suite : Suite} {line : Line Body}

/-- The first element that a queue has left. -/
theorem drop_eq_cons {Element : Type} {elements rest : List Element} {taken : Nat} {first : Element}
    (queue : elements.drop taken = first :: rest) :
    elements[taken]? = some first ∧ first ∈ elements ∧ taken < elements.length ∧
      elements.drop (taken + 1) = rest := by
  have here : elements[taken]? = some first := by rw [← List.head?_drop, queue, List.head?_cons]
  exact ⟨here, List.mem_of_getElem? here, (List.getElem?_eq_some_iff.mp here).1,
    by rw [← List.tail_drop, queue, List.tail_cons]⟩

/-- Nothing is under way to a host that opened everything. -/
theorem Synced.pending_nil (synced : Synced suite line) (quiet : line.toHost = []) : line.pending = [] := by
  obtain ⟨tail, shape, _⟩ := synced.toHost
  rw [quiet] at shape
  exact List.map_eq_nil_iff.mp (sealedFrames_eq_nil (List.append_eq_nil_iff.mp shape.symm).1)

theorem Synced.outstanding_nil (synced : Synced suite line) (serving : line.serving ≠ none)
    (quiet : line.toDevice = [] ∧ line.broken = false) :
    line.outstanding = [] ∧ line.served = line.requests.length ∧ line.host.txNonce = line.device.rxNonce := by
  obtain ⟨shape, counted, behind⟩ := synced.toDevice serving quiet.2
  have none := sealedFrames_eq_nil (shape.symm.trans quiet.1)
  have all := List.drop_eq_nil_iff.mp none
  rw [none] at counted
  exact ⟨none, Nat.le_antisymm behind all, by simpa using counted⟩

/-- A host that has opened everything is owed nothing. -/
theorem toHost_nil (opened : line.pending = []) :
    ∃ tail, [] = sealedFrames suite line.device.txKey line.host.rxNonce (line.pending.map (·.message)) ++ tail ∧
      (line.serving ≠ none → tail = []) ∧
      ∃ cipher, cipher.length ≤ maxFramePayload + noiseTagLen ∧ Link.PartOf tail cipher := by
  rw [opened]
  exact ⟨[], rfl, fun _ => rfl, [], by decide, List.nil_prefix, by decide⟩

/-- The device adds to the stream while the host waits on. -/
theorem serve_toHost (suite : Suite) (answer : Body → Bytes → List Bytes × Option Body) (line : Line Body)
    (arrived : Nat) (faults : List (Option Errno)) :
    (serve suite answer line arrived faults).waiting = line.waiting ∧
      ∃ sent, (serve suite answer line arrived faults).toHost = line.toHost ++ sent := by
  unfold serve
  rcases line.serving with _ | body
  · exact ⟨rfl, [], (List.append_nil _).symm⟩
  · rcases sessionRecv suite Dispatcher.msgBufSize (line.device, arriving line.toDevice arrived []) with
      ⟨error | plain, device, link⟩
    · exact ⟨rfl, [], (List.append_nil _).symm⟩
    · exact ⟨rfl, _, rfl⟩

variable (lawful : suite.Lawful)
include lawful

/-- A message that the two ends keep short enough for a frame. -/
theorem cipher_length (key : Bytes) (nonce : UInt64) {plain : Bytes} (short : plain.length ≤ maxFramePayload) :
    (suite.encrypt key nonce [] plain).length ≤ maxFramePayload + noiseTagLen ∧
      (suite.encrypt key nonce [] plain).length < 65536 := by
  have limit : maxFramePayload = 4096 ∧ noiseTagLen = 16 := ⟨rfl, rfl⟩
  rw [lawful.encrypt_length]
  omega

section Synced

variable (synced : Synced suite line)
include synced

theorem submit_synced (request : Host.Request) (arrived : Nat) (faults : List (Option Errno))
    (quiet : Quiet line (.submit request arrived faults)) :
    Synced suite (submit suite line request arrived faults) := by
  obtain ⟨silent, device⟩ := quiet
  have opened := synced.pending_nil silent
  have drained : line.toHost.drop arrived = [] := by rw [silent, List.drop_nil]
  unfold submit
  rcases waits : line.waiting with _ | waiting
  · rcases Host.sendRequest_cases lawful request line.host (arriving line.toHost arrived faults) with
      refused | ⟨bytes, short, ⟨later, sent⟩ | ⟨later, part, failed⟩⟩
    · rw [refused]
      have same : (arriving line.toHost arrived faults).incoming ++ line.toHost.drop arrived = line.toHost :=
        List.take_append_drop arrived line.toHost
      have kept : line.toDevice ++ (arriving line.toHost arrived faults).outgoing = line.toDevice := List.append_nil _
      have whole : (line.broken || decide (Host.CantilErr.invalidArg = Host.CantilErr.io)) = line.broken :=
        Bool.or_false _
      dsimp only
      rw [same, kept, whole, ← waits]
      exact synced
    · rw [sent]
      rw [drained]
      have room (serving : line.serving ≠ none) := device.resolve_left serving
      exact { synced with
        toHost := toHost_nil opened
        requests := by
          intro member inside
          rcases List.mem_append.mp inside with before | now
          · exact synced.requests member before
          · rw [List.mem_singleton.mp now]
            exact short
        toDevice := by
          intro serving _
          obtain ⟨_, all, counted⟩ := synced.outstanding_nil serving (room serving)
          have outstanding : (line.requests ++ [bytes]).drop line.served = [bytes] := by
            rw [all, List.drop_left]
          show line.toDevice ++ ([] ++ _) = sealedFrames suite line.host.txKey line.device.rxNonce
            ((line.requests ++ [bytes]).drop line.served) ∧ line.host.txNonce + 1 = line.device.rxNonce +
              UInt64.ofNat ((line.requests ++ [bytes]).drop line.served).length ∧
              line.served ≤ (line.requests ++ [bytes]).length
          rw [outstanding, (room serving).1, counted]
          refine ⟨by simp [sealedFrames], rfl, ?_⟩
          rw [List.length_append]
          omega
        current := by
          intro waiting found
          obtain rfl := Option.some.inj found
          constructor
          · intro produced member
            have before : produced ∈ line.pending := member
            rw [opened] at before
            cases before
          · intro serving
            obtain ⟨_, all, _⟩ := synced.outstanding_nil serving (room serving)
            refine ⟨(room serving).2, .inr ⟨?_, all⟩⟩
            show (line.requests ++ [bytes]).drop line.served = [bytes]
            rw [all, List.drop_left] }
    · rw [failed]
      dsimp only
      rw [drained]
      exact { synced with
        toHost := toHost_nil opened
        toDevice := by
          intro _ whole
          rw [show (line.broken || decide (Host.CantilErr.io = Host.CantilErr.io)) = true from Bool.or_true _] at whole
          cases whole
        current := fun _ found => by cases found }
  · exact synced

/-- A device with a whole stream opens the next request. -/
theorem Synced.opens (serving : line.serving ≠ none) (whole : line.broken = false) {arrived : Nat} {plain : Bytes}
    {device : Established} {link : Link Errno}
    (opened : sessionRecv suite Dispatcher.msgBufSize (line.device, arriving line.toDevice arrived []) =
      (.ok plain, (device, link))) :
    ∃ rest, line.outstanding = plain :: rest ∧ device = { line.device with rxNonce := line.device.rxNonce + 1 } ∧
      link.incoming ++ line.toDevice.drop arrived =
        sealedFrames suite line.host.txKey (line.device.rxNonce + 1) rest := by
  obtain ⟨shape, _, _⟩ := synced.toDevice serving whole
  rcases queue : line.outstanding with _ | ⟨first, rest⟩
  · rw [queue] at shape
    have silent : Link.recvFrame (maxFramePayload + noiseTagLen) Errno.enobufs
        (arriving line.toDevice arrived []) = (.error .etimedout, ⟨[], [], [], .etimedout⟩) := by
      rw [shape, sealedFrames, arriving, List.take_nil]
      rfl
    cases (sessionRecv_of_error silent).symm.trans opened
  · have short := synced.requests first (drop_eq_cons queue).2.1
    obtain ⟨fits, small⟩ := cipher_length lawful line.host.txKey line.device.rxNonce short
    rw [queue] at shape
    rcases Link.recvFrame_of_arrived small fits shape arrived [] [] Errno.etimedout with
      ⟨silent, _⟩ | ⟨left, whole, behind⟩
    · cases (sessionRecv_of_error silent).symm.trans opened
    · rw [← synced.keyToDevice] at whole
      obtain ⟨found, after⟩ := Prod.mk.inj ((sessionRecv_of_frame lawful short whole).symm.trans opened)
      obtain ⟨rfl, rfl⟩ := Prod.mk.inj after
      obtain rfl := Except.ok.inj found
      exact ⟨rest, rfl, rfl, behind⟩

theorem serve_synced (answer : Body → Bytes → List Bytes × Option Body) (arrived : Nat)
    (faults : List (Option Errno)) : Synced suite (serve suite answer line arrived faults) := by
  unfold serve
  rcases working : line.serving with _ | body
  · exact synced
  · have serving : line.serving ≠ none := by
      rw [working]
      exact Option.some_ne_none body
    have kept := sessionRecv_kept suite Dispatcher.msgBufSize line.device (arriving line.toDevice arrived [])
    rcases opened : sessionRecv suite Dispatcher.msgBufSize (line.device, arriving line.toDevice arrived []) with
      ⟨error | plain, device, link⟩
    · rw [opened] at kept
      exact { synced with
        keyToDevice := kept.1.trans synced.keyToDevice
        keyToHost := synced.keyToHost.trans kept.2.1.symm
        toHost := by
          obtain ⟨tail, shape, _, cut⟩ := synced.toHost
          refine ⟨tail, ?_, fun closed => absurd rfl closed, cut⟩
          rw [kept.2.1]
          exact shape
        next := fun closed => absurd rfl closed
        toDevice := fun closed => absurd rfl closed
        current := by
          intro waiting found
          exact ⟨(synced.current waiting found).1, fun closed => absurd rfl closed⟩ }
    · rw [opened] at kept
      dsimp only at kept ⊢
      rcases answer body plain with ⟨messages, next⟩
      obtain ⟨tail, all⟩ := sessionSendAll_sent lawful messages device ⟨[], [], faults, .etimedout⟩
      rcases sending : sessionSendAll suite messages (device, ⟨[], [], faults, .etimedout⟩) with
        ⟨⟨sent, result⟩, ⟨after, out⟩⟩
      rw [sending] at all
      have pending : (line.produced ++ sent.map (Produced.mk line.served plain)).drop line.accepted =
          line.pending ++ sent.map (Produced.mk line.served plain) := List.drop_append_of_le_length synced.accepted
      have plains : (line.pending ++ sent.map (Produced.mk line.served plain)).map (·.message) =
          line.pending.map (·.message) ++ sent := by
        rw [List.map_append, List.map_map]
        exact congrArg _ (List.map_id sent)
      have nonce : device.txNonce = line.host.rxNonce + UInt64.ofNat (line.pending.map (·.message)).length := by
        rw [List.length_map, kept.2.2, synced.next serving]
      have open_ok {Value : Prop} (served : (if result = .ok () then next else none) ≠ none)
          (holds : result = .ok () → Value) :
          Value := by
        split_ifs at served with ok
        · exact holds ok
        · exact absurd rfl served
      exact { synced with
        keyToDevice := all.kept.1.trans (kept.1.trans synced.keyToDevice)
        keyToHost := synced.keyToHost.trans (all.kept.2.1.trans kept.2.1).symm
        short := by
          intro produced member
          rcases List.mem_append.mp member with before | now
          · exact synced.short produced before
          · obtain ⟨message, inside, rfl⟩ := List.mem_map.mp now
            exact all.short message inside
        toHost := by
          obtain ⟨old, shape, empty, _⟩ := synced.toHost
          refine ⟨tail, ?_, fun served => open_ok served fun ok => (all.whole ok).1, all.cut⟩
          show line.toHost ++ out.outgoing = sealedFrames suite after.txKey line.host.rxNonce
            (((line.produced ++ sent.map (Produced.mk line.served plain)).drop line.accepted).map (·.message)) ++ tail
          rw [pending, plains, sealedFrames_append, ← nonce, shape, empty serving, all.outgoing, all.kept.2.1, kept.2.1]
          simp only [List.append_nil, List.nil_append, List.append_assoc]
        next := by
          intro served
          show after.txNonce = line.host.rxNonce +
            UInt64.ofNat ((line.produced ++ sent.map (Produced.mk line.served plain)).drop line.accepted).length
          rw [pending, List.length_append, List.length_map, UInt64.ofNat_add, ← UInt64.add_assoc]
          rw [List.length_map] at nonce
          rw [← nonce]
          exact open_ok served fun ok => (all.whole ok).2
        accepted := by
          rw [List.length_append]
          exact Nat.le_add_right_of_le synced.accepted
        toDevice := by
          intro served whole
          obtain ⟨rest, queue, rfl, behind⟩ := synced.opens lawful serving whole opened
          obtain ⟨_, counted, _⟩ := synced.toDevice serving whole
          obtain ⟨_, _, more, outstanding⟩ := drop_eq_cons queue
          show link.incoming ++ line.toDevice.drop arrived = sealedFrames suite line.host.txKey after.rxNonce
            (line.requests.drop (line.served + 1)) ∧ line.host.txNonce = after.rxNonce +
              UInt64.ofNat (line.requests.drop (line.served + 1)).length ∧ line.served + 1 ≤ line.requests.length
          rw [outstanding, all.kept.2.2]
          refine ⟨behind, ?_, more⟩
          rw [counted, queue, List.length_cons, nonce_succ]
        current := by
          intro waiting found
          obtain ⟨mine, only⟩ := synced.current waiting found
          obtain ⟨whole, queued⟩ := only serving
          obtain ⟨rest, queue, _, _⟩ := synced.opens lawful serving whole opened
          rcases queued with none | ⟨one, here⟩
          · rw [none] at queue
            cases queue
          · obtain ⟨rfl, rfl⟩ := List.cons.inj (queue.symm.trans one)
            constructor
            · intro produced member
              have listed : produced ∈ line.pending ++ sent.map (Produced.mk line.served waiting.bytes) := by
                rw [← pending]
                exact member
              rcases List.mem_append.mp listed with before | now
              · exact mine produced before
              · obtain ⟨message, _, rfl⟩ := List.mem_map.mp now
                exact ⟨here, rfl⟩
            · intro _
              exact ⟨whole, .inl (drop_eq_cons one).2.2.2⟩ }

/-- A wait ends in silence or with the next message. -/
theorem Synced.received_cases (waiting : Waiting) (arrived : Nat) :
    (received suite line waiting arrived = (.error .etimedout, (line.host, ⟨[], [], [], .etimedout⟩)) ∧
      (line.pending = [] ∨ line.toHost.drop arrived ≠ [])) ∨
    ∃ first rest left tail, line.pending = first :: rest ∧
      received suite line waiting arrived = (.ok first.message,
        ({ line.host with rxNonce := line.host.rxNonce + 1 }, ⟨left, [], [], .etimedout⟩)) ∧
      left ++ line.toHost.drop arrived = sealedFrames suite line.device.txKey (line.host.rxNonce + 1)
        (rest.map (·.message)) ++ tail ∧ (line.serving ≠ none → tail = []) ∧
      ∃ cipher, cipher.length ≤ maxFramePayload + noiseTagLen ∧ Link.PartOf tail cipher := by
  have room := waiting.request.room
  obtain ⟨tail, shape, served, cut⟩ := synced.toHost
  rcases queue : line.pending with _ | ⟨first, rest⟩
  · left
    obtain ⟨cipher, fits, cut⟩ := cut
    rw [queue, List.map_nil, sealedFrames] at shape
    have part : Link.PartOf (line.toHost.take arrived) cipher := by
      rw [shape]
      refine ⟨(List.take_prefix _ _).trans cut.1, lt_of_le_of_lt ?_ cut.2⟩
      exact (List.take_prefix _ _).length_le
    have small : cipher.length < 65536 := lt_of_le_of_lt fits (by decide)
    have silent : Link.recvFrame (maxFramePayload + noiseTagLen) Errno.enobufs
        (arriving line.toHost arrived []) = _ := Link.recvFrame_of_part small fits part
    exact ⟨Host.sessionRecvTo_of_error room silent, .inl rfl⟩
  · have short := synced.short first (drop_eq_cons queue).2.1
    obtain ⟨fits, small⟩ := cipher_length lawful line.device.txKey line.host.rxNonce short
    rw [queue, List.map_cons, sealedFrames, List.append_assoc] at shape
    rcases Link.recvFrame_of_arrived small fits shape arrived [] [] Errno.etimedout with
      ⟨silent, more⟩ | ⟨left, whole, behind⟩
    · exact .inl ⟨Host.sessionRecvTo_of_error room silent, .inr more⟩
    · rw [← synced.keyToHost] at whole
      exact .inr ⟨first, rest, left, tail, rfl, Host.sessionRecvTo_of_frame lawful room whole, behind, served,
        cut⟩

theorem await_answered (arrived : Nat) : Answered suite line (.await arrived) := by
  intro waiting found
  rcases synced.received_cases lawful waiting arrived with ⟨silent, _⟩ | ⟨first, rest, _, _, queue, opened, _⟩
  · exact .inl (by rw [silent])
  · right
    refine ⟨first.message, by rw [opened], ?_⟩
    obtain ⟨index, request⟩ := (synced.current waiting found).1 first (by rw [queue]; exact List.mem_cons_self)
    rw [(drop_eq_cons queue).1, ← index, ← request]

theorem await_synced (arrived : Nat) : Synced suite (await suite line arrived) ∨ Lost (await suite line arrived) := by
  unfold await
  rcases waits : line.waiting with _ | waiting
  · exact .inl synced
  · rcases synced.received_cases lawful waiting arrived with
      ⟨silent, ends⟩ | ⟨first, rest, left, tail, queue, opened, behind, served, cut⟩
    · dsimp only
      rw [silent]
      by_cases more : line.toHost.drop arrived = []
      · have none := ends.resolve_right (not_not.mpr more)
        left
        exact { synced with
          toHost := by
            rw [more]
            exact toHost_nil none
          current := fun _ found => by cases found }
      · exact .inr ⟨rfl, more⟩
    · dsimp only
      rw [opened]
      obtain ⟨_, _, more, pending⟩ := drop_eq_cons queue
      left
      exact { synced with
        toHost := by
          refine ⟨tail, ?_, served, cut⟩
          show left ++ line.toHost.drop arrived = sealedFrames suite line.device.txKey (line.host.rxNonce + 1)
            ((line.produced.drop (line.accepted + 1)).map (·.message)) ++ tail
          rw [pending]
          exact behind
        next := by
          intro serving
          show line.device.txNonce = line.host.rxNonce + 1 +
            UInt64.ofNat (line.produced.drop (line.accepted + 1)).length
          rw [pending, synced.next serving, queue, List.length_cons, nonce_succ]
        accepted := more
        current := fun _ found => by cases found }

end Synced

/-- A step keeps the ends together, or loses a message. -/
theorem step_synced (answer : Body → Bytes → List Bytes × Option Body) (event : Event) (quiet : Quiet line event)
    (holds : Synced suite line ∨ Lost line) :
    Synced suite (step suite answer line event) ∨ Lost (step suite answer line event) := by
  rcases holds with synced | ⟨idle, more⟩
  · cases event with
    | submit request arrived faults => exact .inl (submit_synced lawful synced request arrived faults quiet)
    | serve arrived faults => exact .inl (serve_synced lawful synced answer arrived faults)
    | await arrived => exact await_synced lawful synced arrived
  · right
    cases event with
    | submit request arrived faults => exact absurd quiet.1 more
    | serve arrived faults =>
      obtain ⟨kept, sent, grown⟩ := serve_toHost suite answer line arrived faults
      refine ⟨kept.trans idle, ?_⟩
      show (serve suite answer line arrived faults).toHost ≠ []
      rw [grown]
      exact List.append_ne_nil_of_left_ne_nil more sent
    | await arrived =>
      rw [step, await, idle]
      exact ⟨idle, more⟩

end Steps

/-- A wait ends in silence or with its own response. -/
theorem run_answered {suite : Suite} (lawful : suite.Lawful) (answer : Body → Bytes → List Bytes × Option Body)
    {host : Host.Session} {device : Established} (paired : Paired host device) (body : Body)
    (events : List Event)
    (quiet : ∀ visit ∈ visits (step suite answer) (opening host device body) events, Quiet visit.1 visit.2) :
    ∀ visit ∈ visits (step suite answer) (opening host device body) events, Answered suite visit.1 visit.2 := by
  intro visit visited
  obtain ⟨before, after, split, reached⟩ :=
    (mem_visits_iff (step suite answer) (opening host device body) events visit.1 visit.2).mp visited
  have holds := prefix_invariant (step suite answer) (fun line => Synced suite line ∨ Lost line) (fun _ => True)
    Quiet (fun _ event _ met => step_synced lawful answer event met) (fun _ _ => trivial) quiet
    (.inl (opening_synced suite paired body)) split
  rw [← reached] at holds
  rcases visit with ⟨line, event⟩
  cases event with
  | submit request arrived faults => trivial
  | serve arrived faults => trivial
  | await arrived =>
    rcases holds with synced | ⟨idle, _⟩
    · exact await_answered lawful synced arrived
    · intro waiting found
      rw [show line.waiting = none from idle] at found
      cases found

/-- A visit of the device leaves the host alone. -/
theorem serve_host (suite : Suite) (answer : Body → Bytes → List Bytes × Option Body) (line : Line Body)
    (arrived : Nat) (faults : List (Option Errno)) :
    (serve suite answer line arrived faults).host = line.host ∧
      (serve suite answer line arrived faults).waiting = line.waiting := by
  unfold serve
  rcases line.serving with _ | body
  · exact ⟨rfl, rfl⟩
  · rcases sessionRecv suite Dispatcher.msgBufSize (line.device, arriving line.toDevice arrived []) with
      ⟨_ | _, _, _⟩ <;> exact ⟨rfl, rfl⟩

theorem serves_host (suite : Suite) (answer : Body → Bytes → List Bytes × Option Body) (line : Line Body)
    (serves : List (Nat × List (Option Errno))) :
    let after := run (step suite answer) line (serves.map fun visit => .serve visit.1 visit.2)
    after.host = line.host ∧ after.waiting = line.waiting := by
  induction serves generalizing line with
  | nil => exact ⟨rfl, rfl⟩
  | cons visit serves ih =>
    obtain ⟨host, waiting⟩ := serve_host suite answer line visit.1 visit.2
    exact ⟨(ih _).1.trans host, (ih _).2.trans waiting⟩

/-- A call is a request, visits of the device and a wait. -/
theorem doRequestTo_eq {suite : Suite} (lawful : suite.Lawful) (answer : Body → Bytes → List Bytes × Option Body)
    {line : Line Body} (free : line.waiting = none) (request : Host.Request) (arrived : Nat)
    (faults : List (Option Errno)) (serves : List (Nat × List (Option Errno))) (depth later : Nat) :
    let after := run (step suite answer) (submit suite line request arrived faults)
      (serves.map fun visit => .serve visit.1 visit.2)
    ∀ waiting, after.waiting = some waiting →
      (Host.doRequestTo suite depth request (after.toHost.take later)
        (line.host, arriving line.toHost arrived faults)).1 =
        (Host.recvResponse suite depth waiting.request (after.host, arriving after.toHost later [])).1 := by
  intro after waiting waits
  have kept := serves_host suite answer (submit suite line request arrived faults) serves
  rw [kept.2] at waits
  rw [kept.1]
  rcases Host.sendRequest_cases lawful request line.host (arriving line.toHost arrived faults) with
    refused | ⟨bytes, _, ⟨left, sent⟩ | ⟨_, _, failed⟩⟩
  · simp [submit, free, refused] at waits
  · simp only [submit, free, sent, Option.some.injEq] at waits ⊢
    subst waits
    rw [Host.doRequestTo, Op.bind_of_ok sent]
    exact Host.recvResponse_sending suite depth request _ (arriving after.toHost later []) _ _
  · simp [submit, free, failed] at waits

/-- A completed handshake leaves such sessions. -/
theorem paired_of_opened {exchange : Exchange} (lawful : exchange.suite.Lawful)
    (fixed : exchange.suite.FixedLength) (agrees : exchange.Agrees) {start : State}
    (started : Channel.opened exchange = some start) : Paired start.host start.device := by
  obtain ⟨fresh, _⟩ := opened_fresh lawful fixed agrees started
  exact {
    keyToDevice := fresh.crossed.1
    keyToHost := fresh.crossed.2
    nonceToDevice := fresh.deviceNonces.2.trans fresh.hostNonces.1.symm
    nonceToHost := fresh.hostNonces.2.trans fresh.deviceNonces.1.symm }

/-- The device runs `protocol_handle_one` until it fails or reboots. -/
def firmware (config : Config) (crypto : Ca.Crypto) (image : Image) (depth : Nat) (stale : Bytes)
    (envs : Nat → CommandEnv) (body : Nat × Board) (message : Bytes) :
    List Bytes × Option (Nat × Board) :=
  let (outcome, board) := HandleOne.protocolHandleOne config crypto image depth (envs body.1) stale message body.2
  (outcome.sent, if outcome.result = .ok () ∧ outcome.rebooted = false then some (body.1 + 1, board) else none)

def plainFirmware : Nat × Board → Bytes → List Bytes × Option (Nat × Board) :=
  firmware .default Dispatcher.plainCrypto HandleOne.plainImage 1 plainStack.1 fun _ =>
    plainCommandEnv

def plainLine : Line (Nat × Board) :=
  opening sampleStart.host sampleStart.device (0, HandleOne.boardOf HandleOne.keyedDevice)

/-- The library numbers every request 1. -/
def libRequest (command : Protocol.Command) : Host.Request := ⟨command.code, 1, [], 4096, by decide⟩

def everything : Nat := 10000

/-- The late response is dropped before the second request. -/
def drainedRun : List Event :=
  [.submit (libRequest .getCertCount) everything [], .await everything, .serve everything [],
    .submit (libRequest .genKey) everything [], .serve everything []]

/-- It comes while the host waits for the second one. -/
def lateRun : List Event :=
  [.submit (libRequest .getCertCount) everything [], .await everything,
    .submit (libRequest .genKey) everything [], .serve everything []]

def keyWaiting : Waiting := ⟨libRequest .genKey, 1, Cbor.requestBytes Protocol.Command.genKey.code 1 []⟩

theorem plainLine_paired : Paired sampleStart.host sampleStart.device :=
  paired_of_opened taggedSuite_lawful taggedSuite_fixed sampleExchange_settled
    sampleStart_opened

def drainedLine : Line (Nat × Board) :=
  run (step taggedSuite plainFirmware) plainLine drainedRun

def lateLine : Line (Nat × Board) :=
  run (step taggedSuite plainFirmware) plainLine lateRun

/-- Nonces are lost, or a count is returned as a key number. -/
theorem late_response_mismatched :
    drainedLine.waiting = some keyWaiting ∧ lateLine.waiting = some keyWaiting ∧
      (received taggedSuite drainedLine keyWaiting everything).1 = .error .ebadmsg ∧
      (received taggedSuite lateLine keyWaiting everything).1 =
        .ok (Cbor.responseBytes 1 Protocol.Err.ok.code [0, 0, 0, 0]) ∧
      Host.readResponse 1 keyWaiting.request.seq (Cbor.responseBytes 1 Protocol.Err.ok.code [0, 0, 0, 0]) =
        .ok [0, 0, 0, 0] ∧
      ¬ Answered taggedSuite drainedLine (.await everything) ∧
      ¬ Answered taggedSuite lateLine (.await everything) := by
  have drained : drainedLine.waiting = some keyWaiting ∧
      (received taggedSuite drainedLine keyWaiting everything).1 = .error .ebadmsg := by
    rw [drainedLine, plainLine, sampleStart_eq]
    decide +kernel
  have late : lateLine.waiting = some keyWaiting ∧
      (received taggedSuite lateLine keyWaiting everything).1 =
        .ok (Cbor.responseBytes 1 Protocol.Err.ok.code [0, 0, 0, 0]) ∧
      lateLine.produced[lateLine.accepted]?.map (·.index) = some 0 := by
    rw [lateLine, plainLine, sampleStart_eq]
    decide +kernel
  obtain ⟨drainedWaits, unread⟩ := drained
  obtain ⟨lateWaits, read, first⟩ := late
  refine ⟨drainedWaits, lateWaits, unread, read, by decide +kernel, fun answered => ?_, fun answered => ?_⟩
  · rcases answered keyWaiting drainedWaits with silent | ⟨plain, opened, _⟩
    · cases unread.symm.trans silent
    · cases unread.symm.trans opened
  · rcases answered keyWaiting lateWaits with silent | ⟨plain, _, produced⟩
    · cases read.symm.trans silent
    · rw [produced] at first
      cases first

/-- Two requests that are each served in time. -/
def timelyRun : List Event :=
  [.submit (libRequest .getCertCount) everything [], .serve everything [], .await everything,
    .submit (libRequest .genKey) everything [], .serve everything []]

theorem timelyRun_quiet :
    ∀ visit ∈ visits (step taggedSuite plainFirmware) plainLine (timelyRun ++ [.await everything]),
      Quiet visit.1 visit.2 := by
  intro visit visited
  simp only [timelyRun, List.cons_append, List.nil_append, visits_cons, visits_nil, List.mem_cons,
    List.not_mem_nil, or_false] at visited
  rcases visited with rfl | rfl | rfl | rfl | rfl | rfl
  · exact ⟨rfl, .inr ⟨rfl, rfl⟩⟩
  · trivial
  · trivial
  · rw [Quiet, plainLine, sampleStart_eq]
    decide +kernel
  · trivial
  · trivial

def timelyLine : Line (Nat × Board) :=
  run (step taggedSuite plainFirmware) plainLine timelyRun

/-- The second wait ends with the number of the new key. -/
theorem timelyRun_answered :
    timelyLine.waiting = some keyWaiting ∧ Answered taggedSuite timelyLine (.await everything) ∧
      (received taggedSuite timelyLine keyWaiting everything).1 =
        .ok (Cbor.responseBytes 1 Protocol.Err.ok.code [0, 0, 0, 1]) := by
  have visited : (timelyLine, Event.await everything) ∈
      visits (step taggedSuite plainFirmware) plainLine (timelyRun ++ [.await everything]) := by
    rw [visits_append]
    exact List.mem_append_right _ List.mem_cons_self
  have answered := run_answered taggedSuite_lawful plainFirmware plainLine_paired
    (0, HandleOne.boardOf HandleOne.keyedDevice) (timelyRun ++ [Event.await everything]) timelyRun_quiet
    (timelyLine, Event.await everything) visited
  dsimp only at answered
  have ends : timelyLine.waiting = some keyWaiting ∧
      (received taggedSuite timelyLine keyWaiting everything).1 =
        .ok (Cbor.responseBytes 1 Protocol.Err.ok.code [0, 0, 0, 1]) := by
    rw [timelyLine, plainLine, sampleStart_eq]
    decide +kernel
  exact ⟨ends.1, answered, ends.2⟩

end Cantil.Matching
