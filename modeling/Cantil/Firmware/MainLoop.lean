import Cantil.Firmware.Protocol
import Cantil.Library.Trace

namespace Cantil.MainLoop
open Gesture Protocol

/-- Waiting for a session or a request, or running a handler. -/
inductive Phase where
  | connecting
  | serving
  | handling
  deriving DecidableEq, Repr

/-- Main and gesture threads share the machine and the clock. -/
structure System where
  uptime : Int
  gesture : Machine
  phase : Phase
  deriving DecidableEq, Repr

/-- Steps of drivers, timers, handlers and the main loop. -/
inductive Event where
  | elapse (milliseconds : Nat)
  | tap (tap : Tap)
  | silenceTimeout
  | confirmTimeout
  | resetTimeout
  | pairTimeout
  | requestConfirm (callback : Callback)
  | requestReset (callback : Callback)
  | requestPairConfirm (callback : Callback)
  | setUnlockSeq (sequence : List UInt8) (persisted : Bool)
  | pollState
  | sessionOpen
  | sessionClose
  | malformed
  | request (cmd : UInt32) (conditions : Conditions)
  | finish (sent : Bool)
  deriving DecidableEq, Repr

variable (config : Config) (system : System)

def boot (now : Int) (storedSeq : Option (List UInt8)) (storedAttempts : Option UInt32) : System :=
  ⟨now, gestureInit config now storedSeq storedAttempts, .connecting⟩

/-- The gesture machine of a system moves and the rest stays. -/
def System.withGesture (gesture : Machine) : System :=
  { system with gesture := gesture }

/-- The main loop restarts the inactivity timer. -/
def System.refresh : System :=
  system.withGesture (gestureResetInactivityTimer system.uptime system.gesture)

def step : Event → System
  | .elapse milliseconds => { system with uptime := system.uptime + milliseconds }
  | .tap tap => system.withGesture (gestureReportTap config system.uptime tap system.gesture)
  | .silenceTimeout =>
    system.withGesture (silenceTimeoutFn config system.uptime system.gesture).1
  | .confirmTimeout => system.withGesture (confirmTimeoutFn system.gesture).1
  | .resetTimeout => system.withGesture (resetTimeoutFn system.gesture).1
  | .pairTimeout => system.withGesture (pairTimeoutFn system.gesture).1
  | .requestConfirm callback =>
    system.withGesture (gestureRequestConfirm callback system.gesture).2
  | .requestReset callback =>
    system.withGesture (gestureRequestReset config callback system.gesture).2
  | .requestPairConfirm callback =>
    system.withGesture (gestureRequestPairConfirm callback system.gesture).2
  | .setUnlockSeq sequence persisted =>
    system.withGesture (gestureSetUnlockSeq config sequence persisted system.gesture).2.1
  | .pollState => system.withGesture (gestureGetState config system.uptime system.gesture)
  | .sessionOpen =>
    -- The handshake and the pairing gate are done; the timer restarts before any request.
    if system.phase = .connecting then { system.refresh with phase := .serving } else system
  | .sessionClose => if system.phase = .serving then { system with phase := .connecting } else system
  | .malformed =>
    -- An undecodable request is answered before the state is read, and the call returns 0.
    if system.phase = .serving then system.refresh else system
  | .request _ _ =>
    if system.phase = .serving then
      { system.withGesture (gestureGetState config system.uptime system.gesture) with
        phase := .handling }
    else system
  | .finish sent =>
    if system.phase = .handling then
      if sent then { system.refresh with phase := .serving }
      else { system with phase := .connecting }
    else system

/-- The state that the dispatcher reads. -/
def stateAtDispatch : GestureState :=
  (gestureGetState config system.uptime system.gesture).state

/-- The dispatcher's verdict on a request that arrives now. -/
def verdict (conditions : Conditions) (cmd : UInt32) : Dispatch :=
  dispatch config (stateAtDispatch config system) conditions cmd

/-- The lock after inactivity never touches a transient state. -/
theorem stateAtDispatch_of_ne_unlocked (transient : system.gesture.state ≠ .unlocked) :
    stateAtDispatch config system = system.gesture.state := by
  simp [stateAtDispatch, gestureGetState, transient]

/-- Unlocked is read as unlocked, or locks now. -/
theorem stateAtDispatch_of_unlocked (unlocked : system.gesture.state = .unlocked) :
    stateAtDispatch config system =
      if system.uptime - system.gesture.lastActivityMs ≥ config.inactivityTimeoutSec * 1000 then
        .locked
      else .unlocked := by
  unfold stateAtDispatch gestureGetState
  by_cases idle : system.uptime - system.gesture.lastActivityMs ≥ config.inactivityTimeoutSec * 1000
  · simp [unlocked, idle]
  · simp [unlocked, idle]

/-- A resting state is read as locked or unlocked. -/
theorem stateAtDispatch_rest (rest : system.gesture.state = .locked ∨ system.gesture.state = .unlocked) :
    stateAtDispatch config system = .locked ∨ stateAtDispatch config system = .unlocked := by
  rcases rest with locked | unlocked
  · left
    rw [stateAtDispatch_of_ne_unlocked config system (by simp [locked]), locked]
  · rw [stateAtDispatch_of_unlocked config system unlocked]
    split
    · exact .inl rfl
    · exact .inr rfl

end Cantil.MainLoop
