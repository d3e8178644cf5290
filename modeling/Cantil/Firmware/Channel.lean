import Cantil.Firmware.Session
import Cantil.Library.SealedFrames
import Cantil.Library.SealedLane

namespace Cantil.Session
open Library Library.Noise

def maxFramePayload : Nat := 4096

variable (suite : Suite) (message : Bytes) (maxLen : Nat) (session : Established)

/-- Sealing advances the nonce, whatever becomes of the frame. -/
def sealMessage (message : Bytes) : Except Errno (Bytes × Established) := do
  let cipher ← noiseCryptoEncrypt suite (maxFramePayload + noiseTagLen) session.txKey session.txNonce [] message
  return (cipher, { session with txNonce := session.txNonce + 1 })

def sessionSend : Op (Established × Link Errno) Errno Unit := fun (session, link) =>
  match sealMessage suite session message with
  | .error error => (.error error, (session, link))
  | .ok (cipher, session) =>
    let (result, link) := Link.sendFrame cipher link
    (result, (session, link))

/-- Only a message that opens advances the nonce. -/
def openMessage (maxLen : Nat) (cipher : Bytes) : Except Errno (Bytes × Established) := do
  if cipher.length < noiseTagLen then .error .eproto
  let plain ← noiseCryptoDecrypt suite maxLen session.rxKey session.rxNonce [] cipher
  return (plain, { session with rxNonce := session.rxNonce + 1 })

def sessionRecv : Op (Established × Link Errno) Errno Bytes := fun (session, link) =>
  match Link.recvFrame (maxFramePayload + noiseTagLen) .enobufs link with
  | (.error error, link) => (.error error, (session, link))
  | (.ok cipher, link) =>
    match openMessage suite session maxLen cipher with
    | .error error => (.error error, (session, link))
    | .ok (plain, session) => (.ok plain, (session, link))

/-- Messages are sent in order, up to the first failure. -/
def sessionSendAll (suite : Suite) :
    List Bytes → Established × Link Errno → (List Bytes × Except Errno Unit) × (Established × Link Errno)
  | [], state => (([], .ok ()), state)
  | message :: rest, state =>
    match sessionSend suite message state with
    | (.error error, state) => (([], .error error), state)
    | (.ok (), state) =>
      let ((sent, result), state) := sessionSendAll suite rest state
      ((message :: sent, result), state)

theorem sealMessage_eq (message : Bytes) :
    sealMessage suite session message = if message.length ≤ maxFramePayload then
      .ok (suite.encrypt session.txKey session.txNonce [] message, { session with txNonce := session.txNonce + 1 })
      else .error .einval := by
  have room : maxFramePayload + noiseTagLen < message.length + noiseTagLen ↔ ¬ message.length ≤ maxFramePayload := by
    omega
  simp only [sealMessage, noiseCryptoEncrypt, room, ite_not]
  split_ifs <;> rfl

theorem openMessage_ok {suite : Suite} {session after : Established} {maxLen : Nat} {cipher plain : Bytes}
    (opened : openMessage suite session maxLen cipher = .ok (plain, after)) :
    suite.decrypt session.rxKey session.rxNonce [] cipher = some plain ∧
      after = { session with rxNonce := session.rxNonce + 1 } := by
  unfold openMessage noiseCryptoDecrypt at opened
  rcases found : suite.decrypt session.rxKey session.rxNonce [] cipher with _ | result
  · simp only [found, bind, Except.bind] at opened
    split_ifs at opened
  · simp only [found, bind, Except.bind, pure, Except.pure] at opened
    split_ifs at opened
    obtain ⟨rfl, rfl⟩ := Prod.mk.inj (Except.ok.inj opened)
    exact ⟨rfl, rfl⟩

/-- A message not refused takes one nonce, even if its frame is lost. -/
theorem sessionSend_session (link : Link Errno) :
    (sessionSend suite message (session, link)).2.1 =
      if message.length ≤ maxFramePayload then { session with txNonce := session.txNonce + 1 } else session := by
  simp only [sessionSend, sealMessage_eq]
  split_ifs <;> rfl

/-- A receive fails, or it opens a frame under the next nonce. -/
theorem sessionRecv_cases (link : Link Errno) :
    ((∃ error, (sessionRecv suite maxLen (session, link)).1 = .error error) ∧
      (sessionRecv suite maxLen (session, link)).2.1 = session) ∨
    ∃ cipher after plain,
      Link.recvFrame (maxFramePayload + noiseTagLen) .enobufs link = (.ok cipher, after) ∧
      suite.decrypt session.rxKey session.rxNonce [] cipher = some plain ∧
      (sessionRecv suite maxLen (session, link)).1 = .ok plain ∧
      (sessionRecv suite maxLen (session, link)).2.1 = { session with rxNonce := session.rxNonce + 1 } := by
  unfold sessionRecv
  dsimp only
  rcases Link.recvFrame (maxFramePayload + noiseTagLen) Errno.enobufs link with ⟨error | cipher, after⟩
  · exact .inl ⟨⟨_, rfl⟩, rfl⟩
  · dsimp only
    rcases opened : openMessage suite session maxLen cipher with error | ⟨plain, next⟩
    · exact .inl ⟨⟨_, rfl⟩, rfl⟩
    · obtain ⟨found, rfl⟩ := openMessage_ok opened
      exact .inr ⟨cipher, after, plain, rfl, found, rfl, rfl⟩

/-- A message that fits leaves whole, or fails midway. -/
theorem sessionSend_cases {suite : Suite} (lawful : suite.Lawful) {message : Bytes}
    (short : message.length ≤ maxFramePayload) (session : Established) (link : Link Errno) :
    Link.Sends (sessionSend suite message (session, link)) { session with txNonce := session.txNonce + 1 } link
      (suite.encrypt session.txKey session.txNonce [] message) := by
  simp only [sessionSend, sealMessage_eq, if_pos short]
  exact Link.sends_sendFrame _ lawful.encrypt_ne_nil link

/-- The first messages' frames, and a part of one on failure. -/
structure SentAll (suite : Suite) (session : Established) (link : Link Errno)
    (outcome : (List Bytes × Except Errno Unit) × (Established × Link Errno)) (tail : Bytes) : Prop where
  outgoing : outcome.2.2.outgoing =
    link.outgoing ++ sealedFrames suite session.txKey session.txNonce outcome.1.1 ++ tail
  short : ∀ message ∈ outcome.1.1, message.length ≤ maxFramePayload
  cut : ∃ cipher, cipher.length ≤ maxFramePayload + noiseTagLen ∧ Link.PartOf tail cipher
  whole : outcome.1.2 = .ok () → tail = [] ∧
    outcome.2.1.txNonce = session.txNonce + UInt64.ofNat outcome.1.1.length
  kept : outcome.2.1.rxKey = session.rxKey ∧ outcome.2.1.txKey = session.txKey ∧
    outcome.2.1.rxNonce = session.rxNonce

theorem sessionSendAll_sent {suite : Suite} (lawful : suite.Lawful) (messages : List Bytes) (session : Established)
    (link : Link Errno) :
    ∃ tail, SentAll suite session link (sessionSendAll suite messages (session, link)) tail := by
  have nothing : ∃ cipher : Bytes, cipher.length ≤ maxFramePayload + noiseTagLen ∧ Link.PartOf [] cipher :=
    ⟨[], by decide, List.nil_prefix, by decide⟩
  induction messages generalizing session link with
  | nil =>
    exact ⟨[], {
      outgoing := by simp [sessionSendAll, sealedFrames]
      short := fun _ member => by cases member
      cut := nothing
      whole := fun _ => ⟨rfl, by simp [sessionSendAll]⟩
      kept := ⟨rfl, rfl, rfl⟩ }⟩
  | cons message rest ih =>
    by_cases short : message.length ≤ maxFramePayload
    · rcases sessionSend_cases lawful short session link with ⟨later, sent⟩ | ⟨error, later, part, cut, failed⟩
      · obtain ⟨tail, all⟩ := ih { session with txNonce := session.txNonce + 1 }
          { link with
            outgoing := link.outgoing ++ Frame.encode (suite.encrypt session.txKey session.txNonce [] message)
            faults := later }
        refine ⟨tail, ?_⟩
        rw [sessionSendAll, sent]
        exact {
          outgoing := by
            rw [all.outgoing, sealedFrames]
            simp only [List.append_assoc]
          short := List.forall_mem_cons.mpr ⟨short, all.short⟩
          cut := all.cut
          whole := by
            intro ok
            obtain ⟨empty, counted⟩ := all.whole ok
            exact ⟨empty, counted.trans (nonce_succ _ _).symm⟩
          kept := all.kept }
      · refine ⟨part, ?_⟩
        rw [sessionSendAll, failed]
        have small : (suite.encrypt session.txKey session.txNonce [] message).length ≤
          maxFramePayload + noiseTagLen := by
          rw [lawful.encrypt_length]
          exact Nat.add_le_add_right short 16
        exact {
          outgoing := by simp [sealedFrames]
          short := fun _ member => by cases member
          cut := ⟨_, small, cut⟩
          whole := fun ok => by cases ok
          kept := ⟨rfl, rfl, rfl⟩ }
    · have failed : sessionSend suite message (session, link) = (.error .einval, (session, link)) := by
        simp only [sessionSend, sealMessage_eq, if_neg short]
      refine ⟨[], ?_⟩
      rw [sessionSendAll, failed]
      exact {
        outgoing := by simp [sealedFrames]
        short := fun _ member => by cases member
        cut := nothing
        whole := fun ok => by cases ok
        kept := ⟨rfl, rfl, rfl⟩ }

section Receive

variable {suite : Suite} {session : Established} {link after : Link Errno} {maxLen : Nat}

theorem sessionRecv_of_error {error : Errno}
    (failed : Link.recvFrame (maxFramePayload + noiseTagLen) .enobufs link = (.error error, after)) :
    sessionRecv suite maxLen (session, link) = (.error error, (session, after)) := by
  simp only [sessionRecv, failed]

/-- A message sealed under the next nonce is returned if it fits. -/
theorem sessionRecv_of_frame (lawful : suite.Lawful) {plain : Bytes} (fits : plain.length ≤ maxLen)
    (arrived : Link.recvFrame (maxFramePayload + noiseTagLen) .enobufs link =
      (.ok (suite.encrypt session.rxKey session.rxNonce [] plain), after)) :
    sessionRecv suite maxLen (session, link) =
      (.ok plain, ({ session with rxNonce := session.rxNonce + 1 }, after)) := by
  have length := lawful.encrypt_length session.rxKey session.rxNonce [] plain
  have tagged : ¬ (suite.encrypt session.rxKey session.rxNonce [] plain).length < noiseTagLen := by
    rw [noiseTagLen]
    omega
  have opened : noiseCryptoDecrypt suite maxLen session.rxKey session.rxNonce []
      (suite.encrypt session.rxKey session.rxNonce [] plain) = .ok plain := by
    have room : ¬ maxLen < (suite.encrypt session.rxKey session.rxNonce [] plain).length - noiseTagLen := by
      rw [noiseTagLen]
      omega
    rw [noiseCryptoDecrypt, if_neg tagged, if_neg room, lawful.decrypt_encrypt]
  simp only [sessionRecv, arrived, openMessage, if_neg tagged, opened, bind, Except.bind, pure, Except.pure]

/-- The keys stay, and only what opens advances the nonce. -/
theorem sessionRecv_kept (suite : Suite) (maxLen : Nat) (session : Established) (link : Link Errno) :
    (sessionRecv suite maxLen (session, link)).2.1.rxKey = session.rxKey ∧
      (sessionRecv suite maxLen (session, link)).2.1.txKey = session.txKey ∧
      (sessionRecv suite maxLen (session, link)).2.1.txNonce = session.txNonce := by
  rcases sessionRecv_cases suite maxLen session link with ⟨_, kept⟩ | ⟨_, _, _, _, _, _, next⟩
  · rw [kept]
    exact ⟨rfl, rfl, rfl⟩
  · rw [next]
    exact ⟨rfl, rfl, rfl⟩

end Receive

end Cantil.Session
