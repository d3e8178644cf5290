import Cantil.Host.Session
import Cantil.Library.SealedFrames
import Cantil.Library.SealedLane

namespace Cantil.Host
open Library Library.Noise

def noiseTagLen : Nat := 16

variable (suite : Suite) (message : Bytes) (session : Session)

/-- Sealing advances the nonce, whatever becomes of the frame. -/
def sealMessage (message : Bytes) : Except Errno (Bytes × Session) :=
  if message.length > maxFramePayload then .error .emsgsize
  else .ok (suite.encrypt session.txKey session.txNonce [] message, { session with txNonce := session.txNonce + 1 })

def sessionSend : Op (Session × Link Errno) Errno Unit := fun (session, link) =>
  match sealMessage suite session message with
  | .error error => (.error error, (session, link))
  | .ok (cipher, session) =>
    let (result, link) := Link.sendFrame cipher link
    (result, (session, link))

/-- Only a message that opens advances the nonce. -/
def openMessage (cipher : Bytes) : Except Errno (Bytes × Session) :=
  if cipher.length < noiseTagLen then .error .eproto
  else
    match suite.decrypt session.rxKey session.rxNonce [] cipher with
    | none => .error .ebadmsg
    | some plain => .ok (plain, { session with rxNonce := session.rxNonce + 1 })

def sessionRecvTo (maxLen : Nat) : Op (Session × Link Errno) Errno Bytes := fun (session, link) =>
  if maxLen < noiseTagLen then (.error .enobufs, (session, link))
  else
    match Link.recvFrame (maxFramePayload + noiseTagLen) .enobufs link with
    | (.error error, link) => (.error error, (session, link))
    | (.ok cipher, link) =>
      match openMessage suite session cipher with
      | .error error => (.error error, (session, link))
      | .ok (plain, session) => (.ok plain, (session, link))

theorem sealMessage_eq (message : Bytes) :
    sealMessage suite session message = if message.length ≤ maxFramePayload then
      .ok (suite.encrypt session.txKey session.txNonce [] message, { session with txNonce := session.txNonce + 1 })
      else .error .emsgsize := by
  simp only [sealMessage, gt_iff_lt, ← not_le, ite_not]

theorem openMessage_ok {suite : Suite} {session after : Session} {cipher plain : Bytes}
    (opened : openMessage suite session cipher = .ok (plain, after)) :
    suite.decrypt session.rxKey session.rxNonce [] cipher = some plain ∧
      after = { session with rxNonce := session.rxNonce + 1 } := by
  unfold openMessage at opened
  split_ifs at opened
  rcases found : suite.decrypt session.rxKey session.rxNonce [] cipher with _ | result
  · rw [found] at opened
    cases opened
  · rw [found] at opened
    obtain ⟨rfl, rfl⟩ := Prod.mk.inj (Except.ok.inj opened)
    exact ⟨rfl, rfl⟩

/-- A message not refused takes one nonce, even if its frame is lost. -/
theorem sessionSend_session (link : Link Errno) :
    (sessionSend suite message (session, link)).2.1 =
      if message.length ≤ maxFramePayload then { session with txNonce := session.txNonce + 1 } else session := by
  simp only [sessionSend, sealMessage_eq]
  split_ifs <;> rfl

/-- A receive fails, or it opens a frame under the next nonce. -/
theorem sessionRecvTo_cases (maxLen : Nat) (session : Session) (link : Link Errno) :
    ((∃ error, (sessionRecvTo suite maxLen (session, link)).1 = .error error) ∧
      (sessionRecvTo suite maxLen (session, link)).2.1 = session) ∨
    ∃ cipher after plain,
      Link.recvFrame (maxFramePayload + noiseTagLen) .enobufs link = (.ok cipher, after) ∧
      suite.decrypt session.rxKey session.rxNonce [] cipher = some plain ∧
      (sessionRecvTo suite maxLen (session, link)).1 = .ok plain ∧
      (sessionRecvTo suite maxLen (session, link)).2.1 = { session with rxNonce := session.rxNonce + 1 } := by
  unfold sessionRecvTo
  dsimp only
  split_ifs
  · exact .inl ⟨⟨_, rfl⟩, rfl⟩
  · rcases Link.recvFrame (maxFramePayload + noiseTagLen) Errno.enobufs link with ⟨error | cipher, after⟩
    · exact .inl ⟨⟨_, rfl⟩, rfl⟩
    · dsimp only
      rcases opened : openMessage suite session cipher with error | ⟨plain, next⟩
      · exact .inl ⟨⟨_, rfl⟩, rfl⟩
      · obtain ⟨found, rfl⟩ := openMessage_ok opened
        exact .inr ⟨cipher, after, plain, rfl, found, rfl, rfl⟩

/-- A message that fits leaves whole, or fails midway. -/
theorem sessionSend_cases {suite : Suite} (lawful : suite.Lawful) {message : Bytes}
    (short : message.length ≤ maxFramePayload) (session : Session) (link : Link Errno) :
    Link.Sends (sessionSend suite message (session, link)) { session with txNonce := session.txNonce + 1 } link
      (suite.encrypt session.txKey session.txNonce [] message) := by
  simp only [sessionSend, sealMessage_eq, if_pos short]
  exact Link.sends_sendFrame _ lawful.encrypt_ne_nil link

section Receive

variable {suite : Suite} {session : Session} {link after : Link Errno} {maxLen : Nat}

theorem sessionRecvTo_of_error (room : noiseTagLen ≤ maxLen) {error : Errno}
    (failed : Link.recvFrame (maxFramePayload + noiseTagLen) .enobufs link = (.error error, after)) :
    sessionRecvTo suite maxLen (session, link) = (.error error, (session, after)) := by
  simp only [sessionRecvTo, if_neg (not_lt.mpr room), failed]

/-- The message that was sealed under the next nonce is returned. -/
theorem sessionRecvTo_of_frame (lawful : suite.Lawful) (room : noiseTagLen ≤ maxLen) {plain : Bytes}
    (arrived : Link.recvFrame (maxFramePayload + noiseTagLen) .enobufs link =
      (.ok (suite.encrypt session.rxKey session.rxNonce [] plain), after)) :
    sessionRecvTo suite maxLen (session, link) =
      (.ok plain, ({ session with rxNonce := session.rxNonce + 1 }, after)) := by
  have tagged : ¬ (suite.encrypt session.rxKey session.rxNonce [] plain).length < noiseTagLen := by
    rw [lawful.encrypt_length, noiseTagLen]
    omega
  simp only [sessionRecvTo, if_neg (not_lt.mpr room), arrived, openMessage, if_neg tagged, lawful.decrypt_encrypt]

end Receive

end Cantil.Host
