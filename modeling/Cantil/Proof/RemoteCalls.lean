import Cantil.Proof.RequestMatching

namespace Cantil.Matching
open Library Library.Noise Trace HandleOne Session Handshake

/-- What the library returns to its callers along a run. -/
def returned {Body : Type} (suite : Suite) (depth : Nat) : Line Body × Event → List (Except Host.CantilErr Bytes)
  | (line, .await arrived) => line.waiting.toList.map fun waiting =>
      (Host.recvResponse suite depth waiting.request (line.host, arriving line.toHost arrived [])).1
  | _ => []

/-- A call whose request and response arrive in time. -/
def call (request : Host.Request) : List Event :=
  [.submit request everything [], .serve everything [], .await everything]

/-- The device is ready for the next request. -/
structure Idle {Body : Type} (line : Line Body) (body : Body) : Prop where
  paired : Paired line.host line.device
  serving : line.serving = some body
  quiet : line.toDevice = [] ∧ line.toHost = [] ∧ line.waiting = none

def requestOf (request : Host.Request) : Bytes := Cbor.requestBytes request.cmd request.seq request.data

/-- The error code and the data of an answer. -/
structure Response where
  err : UInt32
  data : Bytes

variable (seq : UInt32) (response : Response)

def Response.bytes : Bytes := Cbor.responseBytes seq response.err response.data

/-- The result of a call that is answered so. -/
def Response.result : Except Host.CantilErr Bytes := (Host.mapProtoErr response.err).map fun _ => response.data

variable (config : Config) (crypto : Ca.Crypto) (image : Image) (stale : Bytes) (envs : Nat → CommandEnv)

/-- A request gets a response with room at both ends. -/
structure Handles (request : Host.Request) (response : Response) (count : Nat) (board after : Board) : Prop where
  outcome : handleRequest config crypto image (envs count) stale request.cmd request.seq request.data board =
    (⟨[response.bytes request.seq], .ok (), false⟩, after)
  encodes : Host.encodeRequest request = some (requestOf request)
  fits : (response.bytes request.seq).length ≤ min Dispatcher.msgBufSize request.scratch

/-- A message that is sealed for the other end is received whole. -/
theorem recvFrame_sealed {suite : Suite} (lawful : suite.Lawful) {plain : Bytes}
    (short : plain.length ≤ maxFramePayload) (key : Bytes) (nonce : UInt64) :
    let frame := Frame.encode (suite.encrypt key nonce [] plain)
    Link.recvFrame (maxFramePayload + noiseTagLen) Errno.enobufs (arriving frame everything []) =
      (.ok (suite.encrypt key nonce [] plain), arriving [] 0 []) ∧ frame.drop everything = [] := by
  obtain ⟨fits, small⟩ := cipher_length lawful key nonce short
  have whole : (Frame.encode (suite.encrypt key nonce [] plain)).length ≤ everything := by
    rw [Frame.encode_length]
    exact (Nat.add_le_add_left fits 2).trans (by decide)
  exact ⟨Link.recvFrame_of_frame small fits ((List.take_of_length_le whole).trans (List.append_nil _).symm),
    List.drop_eq_nil_of_le whole⟩

theorem sendFrame_clear (cipher : Bytes) : Link.sendFrame cipher ⟨[], [], [], Errno.etimedout⟩ =
    (.ok (), ⟨[], Frame.encode cipher, [], .etimedout⟩) := by
  rw [Frame.encode_eq]
  rfl

section Call

variable {config crypto image stale envs response} {request : Host.Request} {count depth : Nat} {board after : Board}
variable (handles : Handles config crypto image stale envs request response count board after)
include handles

/-- The library reads the response that the device encodes. -/
theorem Handles.reads : Host.readResponse depth request.seq (response.bytes request.seq) = response.result := by
  have decoded := (Cbor.roundTrip_of_names ⟨by decide, by decide⟩ (by decide : 31 ≤ 64) depth
    (fun err seq => (seq, err)) ((handles.fits.trans (min_le_left _ _)).trans_lt (by decide))).decodes [] 0
  rw [List.append_nil] at decoded
  rw [Host.readResponse, show Cbor.decodeResponse 64 depth (response.bytes request.seq) 0 = _ from decoded]
  dsimp only
  rw [if_neg (not_not.mpr rfl), Response.result]
  rcases Host.mapProtoErr response.err with error | _ <;> rfl

/-- The device reads the request that the library encodes. -/
theorem Handles.answers : firmware config crypto image depth stale envs (count, board) (requestOf request) =
    ([response.bytes request.seq], some (count + 1, after)) := by
  have decoded := (Cbor.roundTrip_of_names ⟨by decide, by decide⟩ (by decide : 31 ≤ 32) depth Prod.mk
    ((Host.encodeRequest_length handles.encodes).trans_lt (by decide))).decodes [] 0
  rw [List.append_nil] at decoded
  rw [firmware, protocolHandleOne, show Cbor.decodeRequest 32 depth (requestOf request) 0 = _ from decoded]
  dsimp only
  rw [handles.outcome]
  rfl

theorem Handles.sends (suite : Suite) (host : Host.Session) :
    Host.sendRequest suite request (host, arriving [] everything []) =
      (.ok (requestOf request), ({ host with txNonce := host.txNonce + 1 },
        ⟨[], Frame.encode (suite.encrypt host.txKey host.txNonce [] (requestOf request)), [], .etimedout⟩)) := by
  have asked := Host.encodeRequest_length handles.encodes
  have drained : Host.asIo Host.drain (host, arriving [] everything []) = (_, (host, ⟨[], [], [], .etimedout⟩)) := rfl
  simp only [Host.sendRequest, handles.encodes]
  rw [Op.bind_of_ok drained, Op.bind_apply]
  simp only [Host.asIo, Host.sessionSend, Host.sealMessage_eq, if_pos asked, sendFrame_clear]
  rfl

/-- A call returns this, and leaves both ends ready. -/
theorem Handles.call {suite : Suite} (lawful : suite.Lawful) {line : Line (Nat × Board)}
    (idle : Idle line (count, board)) :
    let step := step suite (firmware config crypto image depth stale envs)
    (visits step line (call request)).flatMap (returned suite depth) = [response.result] ∧
      Idle (run step line (call request)) (count + 1, after) := by
  rcases line with ⟨⟨⟩, ⟨⟩⟩
  obtain ⟨⟨up, down, sent, got⟩, rfl, rfl, rfl, rfl⟩ := idle
  dsimp only at up down sent got
  subst up down sent got
  have short : (response.bytes request.seq).length ≤ maxFramePayload := handles.fits.trans (min_le_left _ _)
  have asked := Host.encodeRequest_length handles.encodes
  have opened (device : Established) : sessionRecv suite Dispatcher.msgBufSize _ = _ :=
    sessionRecv_of_frame lawful asked (recvFrame_sealed lawful asked device.rxKey device.rxNonce).1
  have received (host : Host.Session) := Host.sessionRecvTo_of_frame lawful request.room
    (recvFrame_sealed lawful short host.rxKey host.rxNonce).1
  simp only [Matching.call, visits_cons, visits_nil, List.flatMap_cons, List.flatMap_nil, run_cons, run_nil, step,
    returned, submit, serve, await, handles.sends, List.drop_nil, List.nil_append, List.append_nil, opened,
    handles.answers, sessionSendAll, sessionSend, sealMessage_eq, if_pos short, sendFrame_clear, Matching.received,
    received, Option.toList_some, List.map_cons, List.map_nil, (recvFrame_sealed lawful asked _ _).2,
    (recvFrame_sealed lawful short _ _).2, if_true]
  refine ⟨?_, ⟨rfl, rfl, rfl, rfl⟩, rfl, rfl, rfl, rfl⟩
  rw [Host.recvResponse, Op.bind_of_ok (Host.asIo_eq (received _)), Op.lift_apply, handles.reads]

end Call

/-- Calls return the handlers' answers, with the same board. -/
theorem calls_refine_handlers {suite : Suite} (lawful : suite.Lawful) {host : Host.Session} {device : Established}
    (paired : Paired host device) (depth : Nat) (requests : Nat → Host.Request) (answers : Nat → Response)
    (boards : Nat → Board) (total : Nat) (handles : ∀ count < total, Handles config crypto image stale envs
      (requests count) (answers count) count (boards count) (boards (count + 1))) :
    let step := step suite (firmware config crypto image depth stale envs)
    let events := (List.range total).flatMap fun count => call (requests count)
    let start := opening host device (0, boards 0)
    (visits step start events).flatMap (returned suite depth) =
        (List.range total).map (fun count => (answers count).result) ∧
      Idle (run step start events) (total, boards total) := by
  induction total with
  | zero => exact ⟨rfl, paired, rfl, rfl, rfl, rfl⟩
  | succ total ih =>
    obtain ⟨results, idle⟩ := ih fun count before => handles count (Nat.lt_succ_of_lt before)
    obtain ⟨last, next⟩ := (handles total (Nat.lt_succ_self total)).call lawful idle
    simp only [List.range_succ, List.flatMap_append, List.flatMap_cons, List.flatMap_nil, List.append_nil,
      visits_append, run_append, List.map_append, List.map_cons, List.map_nil] at results last ⊢
    exact ⟨by rw [results, last], next⟩

def sampleBoard : Nat → Board
  | 0 => boardOf keyedDevice
  | count + 1 => (handleRequest .default Dispatcher.plainCrypto plainImage plainCommandEnv plainStack.1
      Protocol.Command.genKey.code 1 [] (sampleBoard count)).2

/-- A key is made over the channel. -/
theorem genKey_refines :
    (visits (step taggedSuite plainFirmware) plainLine (call (libRequest .genKey))).flatMap (returned taggedSuite 1) =
      [.ok [0, 0, 0, 1]] := by
  have handles (count : Nat) (first : count < 1) : Handles .default Dispatcher.plainCrypto plainImage plainStack.1
      (fun _ => plainCommandEnv) (libRequest .genKey) ⟨0, [0, 0, 0, 1]⟩ count (sampleBoard count)
      (sampleBoard (count + 1)) := by
    obtain rfl := Nat.lt_one_iff.mp first
    exact ⟨Prod.ext (by decide +kernel) rfl, by decide +kernel, by decide +kernel⟩
  exact (calls_refine_handlers _ _ _ _ _ taggedSuite_lawful plainLine_paired 1 _ _ sampleBoard 1 handles).1

end Cantil.Matching
