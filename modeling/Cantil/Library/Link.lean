import Cantil.Library.Frame
import Cantil.Library.Op

namespace Library

/-- Two byte streams, with an outcome for each send. -/
structure Link (Error : Type) where
  incoming : Bytes
  outgoing : Bytes
  faults : List (Option Error)
  silence : Error
  deriving DecidableEq, Repr

namespace Link

variable {Error : Type}

def send (bytes : Bytes) : Op (Link Error) Error Unit := fun link =>
  match link.faults with
  | some error :: later => (.error error, { link with faults := later })
  | none :: later => (.ok (), { link with outgoing := link.outgoing ++ bytes, faults := later })
  | [] => (.ok (), { link with outgoing := link.outgoing ++ bytes })

/-- A wait ends in silence, and uses up what came. -/
def recvExact (len : Nat) : Op (Link Error) Error Bytes := fun link =>
  if link.incoming.length < len then (.error link.silence, { link with incoming := [] })
  else (.ok (link.incoming.take len), { link with incoming := link.incoming.drop len })

/-- Two length bytes, and then the message. -/
def sendFrame (message : Bytes) : Op (Link Error) Error Unit := do
  send [UInt8.ofNat (message.length >>> 8), UInt8.ofNat (message.length &&& 0xFF)]
  send message

def recvFrame (maxLen : Nat) (tooLong : Error) : Op (Link Error) Error Bytes := do
  let hdr ← recvExact 2
  .ensure (bigEndianValue hdr ≤ maxLen) tooLong
  recvExact (bigEndianValue hdr)

/-- A receiver neither reads nor changes the sending side. -/
theorem recvExact_sending (len : Nat) (link : Link Error) (outgoing : Bytes) (faults : List (Option Error)) :
    recvExact len { link with outgoing, faults } =
      ((recvExact len link).1, { (recvExact len link).2 with outgoing, faults }) := by
  simp only [recvExact]
  split_ifs <;> rfl

theorem recvFrame_sending (maxLen : Nat) (tooLong : Error) (link : Link Error) (outgoing : Bytes)
    (faults : List (Option Error)) : recvFrame maxLen tooLong { link with outgoing, faults } =
      ((recvFrame maxLen tooLong link).1, { (recvFrame maxLen tooLong link).2 with outgoing, faults }) := by
  rw [recvFrame, Op.bind_apply, Op.bind_apply, recvExact_sending]
  rcases recvExact 2 link with ⟨_ | hdr, after⟩
  · rfl
  · by_cases fits : bigEndianValue hdr ≤ maxLen
    · simp only [Op.ensure, if_pos fits]
      exact recvExact_sending _ after _ _
    · simp only [Op.ensure, if_neg fits]
      rfl

end Link

end Library
