import Cantil.Library.Bytes
import Cantil.Library.Trace

namespace Cantil.TransportBle
open Library Library.Trace

def bleRxBufSize : Nat := 512

/-- The active connection and the bytes that wait in the buffer. -/
structure Transport where
  activeConn : Option Nat
  rx : Bytes
  rx_length : rx.length ≤ bleRxBufSize

variable (transport : Transport)

/-- A chunk that does not fit as a whole is dropped. -/
def nusReceived (data : Bytes) : Transport :=
  if fits : data.length ≤ bleRxBufSize - transport.rx.length then
    { transport with
      rx := transport.rx ++ data
      rx_length := by
        have room := transport.rx_length
        rw [List.length_append]
        omega }
  else transport

def bleRecv (maxLen : Nat) : Bytes × Transport :=
  (transport.rx.take maxLen,
    { transport with
      rx := transport.rx.drop maxLen
      rx_length := (List.drop_sublist _ _).length_le.trans transport.rx_length })

/-- What is in the buffer stays there. -/
def connConnected (conn : Nat) (err : UInt8) : Transport :=
  if err ≠ 0 then transport else { transport with activeConn := some conn }

def connDisconnected (conn : Nat) : Transport :=
  if transport.activeConn = some conn then { transport with activeConn := none } else transport

inductive Event where
  | connected (conn : Nat) (err : UInt8)
  | disconnected (conn : Nat)
  | received (chunk : Bytes)
  | recv (maxLen : Nat)
  deriving DecidableEq, Repr

/-- The chunks and the returned bytes of a connection. -/
structure History where
  transport : Transport
  chunks : List Bytes
  returned : Bytes

def boot : History := ⟨⟨none, [], Nat.zero_le _⟩, [], []⟩

variable (history : History)

def observe : Event → History
  | .connected conn err =>
    let transport := connConnected history.transport conn err
    if err ≠ 0 then { history with transport } else ⟨transport, [], []⟩
  | .disconnected conn => { history with transport := connDisconnected history.transport conn }
  | .received chunk => ⟨nusReceived history.transport chunk, history.chunks ++ [chunk], history.returned⟩
  | .recv maxLen =>
    let (bytes, transport) := bleRecv history.transport maxLen
    ⟨transport, history.chunks, history.returned ++ bytes⟩

/-- Connections begin empty, and chunks fit. -/
def Orderly : Event → Prop
  | .connected _ err => err = 0 → history.transport.rx = []
  | .received chunk => chunk.length ≤ bleRxBufSize - history.transport.rx.length
  | _ => True

instance (history : History) : (event : Event) → Decidable (Orderly history event)
  | .connected _ err => inferInstanceAs (Decidable (err = 0 → _))
  | .received _ => inferInstanceAs (Decidable (_ ≤ _))
  | .disconnected _ | .recv _ => instDecidableTrue

/-- What came in is what was returned and what waits. -/
def Lossless : Prop := history.chunks.flatten = history.returned ++ history.transport.rx

theorem observe_lossless (event : Event) (orderly : Orderly history event) (lossless : Lossless history) :
    Lossless (observe history event) := by
  unfold Lossless at lossless ⊢
  cases event with
  | connected conn err =>
    by_cases failed : err ≠ 0
    · simpa [observe, connConnected, failed] using lossless
    · have empty := orderly (not_not.mp failed)
      simp [observe, connConnected, failed, empty]
  | disconnected conn =>
    simp only [observe, connDisconnected]
    split_ifs <;> exact lossless
  | received chunk => simp [observe, nusReceived, dif_pos (show _ ≤ _ from orderly), lossless]
  | recv maxLen => simp [observe, bleRecv, lossless]

/-- If connections start empty and chunks fit, no byte is lost. -/
theorem stream_returned (events : List Event)
    (orderly : ∀ visit ∈ visits observe boot events, Orderly visit.1 visit.2) {before after : List Event}
    (split : events = before ++ after) :
    (run observe boot before).returned <+: (run observe boot before).chunks.flatten := by
  have lossless : Lossless (run observe boot before) :=
    prefix_invariant observe Lossless (fun _ => True) Orderly (fun history event _ => observe_lossless history event)
      (fun _ _ => trivial) orderly rfl split
  exact ⟨_, lossless.symm⟩

/-- Two chunks of which the second one has to wait for a call. -/
def calmRun : List Event := [.connected 1 0, .received [1, 2], .recv 1, .received [3], .recv 4]

/-- Chunks that wait for their call are all returned. -/
theorem calmRun_returned : (run observe boot calmRun).returned = [1, 2, 3] ∧
    (run observe boot calmRun).returned <+: (run observe boot calmRun).chunks.flatten :=
  ⟨by decide, stream_returned calmRun (by decide) (List.append_nil _).symm⟩

/-- The second chunk comes before the first one was read. -/
def overrun : List Event :=
  [.connected 1 0, .received (List.replicate 512 1), .received [2], .recv 512, .received [3], .recv 1]

/-- A byte that was not read comes with the next connection. -/
def reconnected : List Event :=
  [.connected 1 0, .received [1], .disconnected 1, .connected 2 0, .received [2], .recv 1]

/-- An overrun and a reconnect lose or mix bytes. -/
theorem stream_broken :
    ¬ (run observe boot overrun).returned <+: (run observe boot overrun).chunks.flatten ∧
      ¬ (run observe boot reconnected).returned <+: (run observe boot reconnected).chunks.flatten := by
  decide +kernel

end Cantil.TransportBle
