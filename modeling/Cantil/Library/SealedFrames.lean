import Cantil.Library.Link
import Cantil.Library.Noise

open Library.Frame

namespace Library

namespace Link

variable {Error : Type}

/-- Some first bytes of a frame, but not all of them. -/
def PartOf (part payload : Bytes) : Prop :=
  part <+: encode payload ∧ part.length < (encode payload).length

variable {link : Link Error} {rest : Bytes}

theorem recvExact_of_append {front : Bytes} (arrived : link.incoming = front ++ rest) :
    recvExact front.length link = (.ok front, { link with incoming := rest }) := by
  have enough : ¬ link.incoming.length < front.length := by
    rw [arrived, List.length_append]
    omega
  rw [recvExact, if_neg enough, arrived, List.take_left, List.drop_left]

theorem recvExact_of_short {len : Nat} (short : link.incoming.length < len) :
    recvExact len link = (.error link.silence, { link with incoming := [] }) := if_pos short

variable {maxLen : Nat} {tooLong : Error} {payload : Bytes}

/-- Behind the header come the bytes it announces. -/
theorem recvFrame_of_header (small : payload.length < 65536)
    (fits : payload.length ≤ maxLen) (arrived : link.incoming = bigEndian 2 payload.length ++ rest) :
    recvFrame maxLen tooLong link = recvExact payload.length { link with incoming := rest } := by
  obtain ⟨two, announced⟩ := header_iff.mpr ⟨rfl, small⟩
  have header := recvExact_of_append arrived
  rw [two] at header
  rw [recvFrame, Op.bind_of_ok header, announced, Op.ensure, if_pos fits]
  rfl

/-- A whole frame gives its payload. -/
theorem recvFrame_of_frame (small : payload.length < 65536)
    (fits : payload.length ≤ maxLen) (arrived : link.incoming = encode payload ++ rest) :
    recvFrame maxLen tooLong link = (.ok payload, { link with incoming := rest }) := by
  rw [recvFrame_of_header small fits arrived]
  exact recvExact_of_append rfl

/-- A part of a frame ends in silence and is used up. -/
theorem recvFrame_of_part (small : payload.length < 65536) (fits : payload.length ≤ maxLen)
    (part : PartOf link.incoming payload) :
    recvFrame maxLen tooLong link = (.error link.silence, { link with incoming := [] }) := by
  obtain ⟨⟨missing, whole⟩, short⟩ := part
  by_cases header : link.incoming.length < 2
  · exact Op.bind_of_error (recvExact_of_short header)
  · have front : link.incoming = bigEndian 2 payload.length ++ link.incoming.drop 2 := by
      have two : (bigEndian 2 payload.length).length = 2 := bigEndian_length 2 payload.length
      have taken : link.incoming.take 2 = bigEndian 2 payload.length := by
        rw [← List.take_append_of_le_length (by omega : 2 ≤ link.incoming.length), whole, encode,
          List.take_left' two]
      rw [← taken, List.take_append_drop]
    have behind : (link.incoming.drop 2).length < payload.length := by
      rw [encode_length] at short
      rw [List.length_drop]
      omega
    rw [recvFrame_of_header small fits front]
    exact recvExact_of_short behind

/-- What has arrived is a part of the first frame or holds it. -/
theorem recvFrame_of_arrived {stream : Bytes} (small : payload.length < 65536) (fits : payload.length ≤ maxLen)
    (shape : stream = encode payload ++ rest) (arrived : Nat) (outgoing : Bytes) (faults : List (Option Error))
    (silence : Error) :
    (recvFrame maxLen tooLong ⟨stream.take arrived, outgoing, faults, silence⟩ =
        (.error silence, ⟨[], outgoing, faults, silence⟩) ∧ stream.drop arrived ≠ []) ∨
      ∃ left, recvFrame maxLen tooLong ⟨stream.take arrived, outgoing, faults, silence⟩ =
        (.ok payload, ⟨left, outgoing, faults, silence⟩) ∧ left ++ stream.drop arrived = rest := by
  subst shape
  by_cases whole : (encode payload).length ≤ arrived
  · right
    refine ⟨rest.take (arrived - (encode payload).length), ?_, ?_⟩
    · apply recvFrame_of_frame small fits
      rw [List.take_append, List.take_of_length_le whole]
    · rw [List.drop_append, List.drop_eq_nil_of_le whole, List.nil_append, List.take_append_drop]
  · left
    constructor
    · apply recvFrame_of_part small fits
      rw [List.take_append_of_le_length (by omega)]
      refine ⟨List.take_prefix _ _, ?_⟩
      rw [List.length_take]
      omega
    · intro none
      have short := List.drop_eq_nil_iff.mp none
      rw [List.length_append] at short
      omega

/-- A frame is sent, or the call fails after a part of it. -/
theorem sendFrame_cases (message : Bytes) (link : Link Error) :
    (∃ later, sendFrame message link =
        (.ok (), { link with outgoing := link.outgoing ++ encode message, faults := later })) ∨
      ∃ error later part, (message ≠ [] → PartOf part message) ∧ sendFrame message link =
        (.error error, { link with outgoing := link.outgoing ++ part, faults := later }) := by
  have whole := encode_eq message
  have headed : message ≠ [] →
      PartOf [UInt8.ofNat (message.length >>> 8), UInt8.ofNat (message.length &&& 0xFF)] message := by
    intro some
    have room := List.length_pos_iff.mpr some
    refine ⟨⟨message, whole.symm⟩, ?_⟩
    rw [encode_length]
    show 2 < 2 + message.length
    omega
  have nothing : PartOf [] message := by
    refine ⟨List.nil_prefix, ?_⟩
    rw [encode_length]
    show 0 < 2 + message.length
    omega
  rcases link with ⟨incoming, outgoing, faults, silence⟩
  rcases faults with _ | ⟨_ | error, _ | ⟨_ | second, later⟩⟩
  · exact .inl ⟨[], by rw [whole, ← List.append_assoc]; rfl⟩
  · exact .inl ⟨[], by rw [whole, ← List.append_assoc]; rfl⟩
  · exact .inl ⟨later, by rw [whole, ← List.append_assoc]; rfl⟩
  · exact .inr ⟨second, later, _, headed, rfl⟩
  · exact .inr ⟨error, [], [], fun _ => nothing, by rw [List.append_nil]; rfl⟩
  · exact .inr ⟨error, none :: later, [], fun _ => nothing, by rw [List.append_nil]; rfl⟩
  · exact .inr ⟨error, some second :: later, [], fun _ => nothing, by rw [List.append_nil]; rfl⟩

/-- A frame leaves, or the call fails midway. -/
def Sends {State : Type} (outcome : Except Error Unit × State × Link Error) (next : State) (link : Link Error)
    (frame : Bytes) : Prop :=
  (∃ later, outcome = (.ok (), next, { link with outgoing := link.outgoing ++ encode frame, faults := later })) ∨
    ∃ error later part, PartOf part frame ∧
      outcome = (.error error, next, { link with outgoing := link.outgoing ++ part, faults := later })

theorem sends_sendFrame {State : Type} (next : State) {message : Bytes} (some : message ≠ []) (link : Link Error) :
    Sends ((sendFrame message link).1, next, (sendFrame message link).2) next link message := by
  rcases sendFrame_cases message link with ⟨later, sent⟩ | ⟨error, later, part, cut, failed⟩
  · exact .inl ⟨later, by rw [sent]⟩
  · exact .inr ⟨error, later, part, cut some, by rw [failed]⟩

end Link

namespace Noise

/-- The frames of messages sealed in order, from a nonce on. -/
def sealedFrames (suite : Suite) (key : Bytes) : UInt64 → List Bytes → Bytes
  | _, [] => []
  | nonce, plain :: rest =>
    encode (suite.encrypt key nonce [] plain) ++ sealedFrames suite key (nonce + 1) rest

/-- The nonce behind one more message. -/
theorem nonce_succ (nonce : UInt64) (count : Nat) :
    nonce + UInt64.ofNat (count + 1) = nonce + 1 + UInt64.ofNat count := by
  rw [Nat.add_comm, UInt64.ofNat_add, ← UInt64.add_assoc]
  rfl

theorem sealedFrames_append (suite : Suite) (key : Bytes) (nonce : UInt64) (first second : List Bytes) :
    sealedFrames suite key nonce (first ++ second) = sealedFrames suite key nonce first ++
      sealedFrames suite key (nonce + UInt64.ofNat first.length) second := by
  induction first generalizing nonce with
  | nil => simp [sealedFrames]
  | cons plain rest ih =>
    rw [List.cons_append, sealedFrames, ih (nonce + 1), ← nonce_succ, sealedFrames, List.append_assoc, List.length_cons]

theorem sealedFrames_eq_nil {suite : Suite} {key : Bytes} {nonce : UInt64} {plains : List Bytes}
    (empty : sealedFrames suite key nonce plains = []) : plains = [] := by
  cases plains with
  | nil => rfl
  | cons plain rest =>
    have first := (List.append_eq_nil_iff.mp empty).1
    have length := congrArg List.length first
    rw [encode_length, List.length_nil] at length
    omega

end Noise

end Library
