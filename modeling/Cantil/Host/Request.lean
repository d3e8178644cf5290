import Cantil.Common.CborDecode
import Cantil.Host.Channel

namespace Cantil.Host
open Library Library.Noise

/-- The results of a request other than success. -/
inductive CantilErr where
  | io
  | protocol
  | deviceLocked
  | timeout
  | invalidArg
  | auth
  | passkeyRequired
  | fwUpdateBusy
  | fwUpdateFlash
  | notProvisioned
  | alreadyProvisioned
  | volumeInvalid
  deriving DecidableEq, Repr

/-- A denied or timed out gesture is reported as busy. -/
def mapProtoErr : UInt32 → Except CantilErr Unit
  | 0 => .ok ()
  | 1 => .error .deviceLocked
  | 10 => .error .auth
  | 11 => .error .passkeyRequired
  | 12 => .error .fwUpdateBusy
  | 13 => .error .fwUpdateFlash
  | 14 => .error .invalidArg
  | 15 => .error .notProvisioned
  | 16 => .error .alreadyProvisioned
  | 17 => .error .volumeInvalid
  | 8 => .error .timeout
  | _ => .error .protocol

/-- The scratch buffer of every caller has room for a tag. -/
structure Request where
  cmd : UInt32
  seq : UInt32
  data : Bytes
  scratch : Nat
  room : noiseTagLen ≤ scratch
  deriving DecidableEq, Repr

/-- The stack buffer that takes the encoded request. -/
def requestBuffer (dataLen : Nat) : Option Nat :=
  if dataLen + 32 > 80 then if dataLen + 32 > 2048 then none else some 2048 else some 80

variable (suite : Suite) (depth : Nat) (request : Request)

def encodeRequest : Option Bytes := do
  let size ← requestBuffer request.data.length
  (Cbor.encodeRequest size request.cmd request.seq request.data).toOption

/-- All that has come in is read and dropped. -/
def drain : Op (Session × Link Errno) Errno Unit := fun (session, link) =>
  (.ok (), (session, { link with incoming := [] }))

/-- What goes wrong in the session is a transport error. -/
def asIo {Value : Type} (op : Op (Session × Link Errno) Errno Value) : Op (Session × Link Errno) CantilErr Value :=
  fun state => ((op state).1.mapError fun _ => .io, (op state).2)

/-- Stale bytes are drained and the request is sent. -/
def sendRequest : Op (Session × Link Errno) CantilErr Bytes :=
  match encodeRequest request with
  | none => .fail .invalidArg
  | some bytes => do
      asIo drain
      asIo (sessionSend suite bytes)
      return bytes

def readResponse (seq : UInt32) (plain : Bytes) : Except CantilErr Bytes :=
  match (Cbor.decodeResponse 64 depth plain 0).1 with
  | .error _ => .error .protocol
  | .ok (rseq, err, data) => do
      if rseq ≠ seq then .error .protocol
      mapProtoErr err
      return data

/-- The second half: the response is received and decoded. -/
def recvResponse : Op (Session × Link Errno) CantilErr Bytes := do
  let plain ← asIo (sessionRecvTo suite request.scratch)
  .lift (readResponse depth request.seq plain)

/-- The answer comes in once the request is sent. -/
def arrive (answer : Bytes) : Op (Session × Link Errno) CantilErr Unit := fun (session, link) =>
  (.ok (), (session, { link with incoming := link.incoming ++ answer }))

def doRequestTo (answer : Bytes) : Op (Session × Link Errno) CantilErr Bytes := do
  let _ ← sendRequest suite request
  arrive answer
  recvResponse suite depth request

theorem asIo_eq {Value : Type} {op : Op (Session × Link Errno) Errno Value} {state after : Session × Link Errno}
    {result : Except Errno Value} (ran : op state = (result, after)) :
    asIo op state = (result.mapError fun _ => .io, after) := by
  rw [asIo, ran]

/-- A request that is encoded fits a frame. -/
theorem encodeRequest_length {request : Request} {bytes : Bytes} (encoded : encodeRequest request = some bytes) :
    bytes.length ≤ maxFramePayload := by
  obtain ⟨size, chosen, written⟩ := Option.bind_eq_some_iff.mp encoded
  have small : size ≤ 2048 := by
    unfold requestBuffer at chosen
    split_ifs at chosen
    · exact Nat.le_of_eq (Option.some.inj chosen).symm
    · have size80 := Option.some.inj chosen
      omega
  have fits := toOption_eq_some.mp written
  rw [Cbor.encodeRequest, Cbor.encodeMap_eq, Cbor.emitBytes] at fits
  split_ifs at fits with long
  rw [List.length_nil, Nat.zero_add, not_lt] at long
  rw [← Except.ok.inj fits]
  exact long.trans (small.trans (by decide))

/-- What was sent before does not matter for a response. -/
theorem recvResponse_sending (session : Session) (link : Link Errno) (outgoing : Bytes) (faults : List (Option Errno)) :
    (recvResponse suite depth request (session, { link with outgoing, faults })).1 =
      (recvResponse suite depth request (session, link)).1 := by
  simp only [recvResponse, Op.bind_apply, asIo, sessionRecvTo, if_neg (not_lt.mpr request.room),
    Link.recvFrame_sending]
  rcases Link.recvFrame (maxFramePayload + noiseTagLen) Errno.enobufs link with ⟨_ | cipher, _⟩
  · rfl
  · dsimp only
    rcases openMessage suite session cipher with _ | ⟨_, _⟩ <;> rfl

/-- Refused, sent after the drain, or failed midway. -/
theorem sendRequest_cases {suite : Suite} (lawful : suite.Lawful) (request : Request) (session : Session)
    (link : Link Errno) :
    sendRequest suite request (session, link) = (.error .invalidArg, (session, link)) ∨
      ∃ bytes, bytes.length ≤ maxFramePayload ∧
        let after := { session with txNonce := session.txNonce + 1 }
        (∃ later, sendRequest suite request (session, link) = (.ok bytes, (after, ⟨[], link.outgoing ++
            Frame.encode (suite.encrypt session.txKey session.txNonce [] bytes), later, link.silence⟩))) ∨
          ∃ later part, sendRequest suite request (session, link) =
            (.error .io, (after, ⟨[], link.outgoing ++ part, later, link.silence⟩)) := by
  rcases encoded : encodeRequest request with _ | bytes
  · exact .inl (by simp only [sendRequest, encoded, Op.fail_apply])
  · right
    have short := encodeRequest_length encoded
    refine ⟨bytes, short, ?_⟩
    have drained : asIo drain (session, link) = (.ok (), (session, { link with incoming := [] })) := rfl
    rcases sessionSend_cases lawful short session { link with incoming := [] } with
      ⟨later, sent⟩ | ⟨error, later, part, _, failed⟩
    · left
      refine ⟨later, ?_⟩
      simp only [sendRequest, encoded]
      rw [Op.bind_of_ok drained, Op.bind_of_ok (asIo_eq sent)]
      rfl
    · right
      refine ⟨later, part, ?_⟩
      simp only [sendRequest, encoded]
      rw [Op.bind_of_ok drained, Op.bind_of_error (asIo_eq failed)]

end Cantil.Host
