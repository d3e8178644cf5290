import Cantil.Firmware.GestureThreads

namespace Cantil.Confirmations
open Gesture
open GestureThreads (Delivery Blank content closedSequence silenceSection timeoutSection)

/-- The gesture machine between two critical sections. -/
structure System where
  uptime : Int
  gesture : Machine
  /-- The handlers that wait for the mutex behind their callback. -/
  delivering : List Delivery
  passed : List Tap
  deriving DecidableEq, Repr

/-- A handler may run at any time, even of a cancelled timer. -/
inductive Event where
  | elapse (milliseconds : Nat)
  | tapGate (tap : Tap)
  | tapEnter (index : Nat)
  | silenceTimeout
  | confirmTimeout
  | resetTimeout
  | pairTimeout
  | resume (index : Nat)
  | requestConfirm
  | requestReset
  | requestPairConfirm
  | setUnlockSeq (sequence : List UInt8) (persisted : Bool)
  | getState
  | resetInactivityTimer
  deriving DecidableEq, Repr

variable (config : Config) (callback : Callback) (system : System)

def System.withGesture (gesture : Machine) : System := { system with gesture := gesture }

/-- A handler that calls back comes for the mutex once more. -/
def System.work (outcome : Machine × Option Delivery) : System :=
  { system with gesture := outcome.1, delivering := system.delivering ++ outcome.2.toList }

def System.resume (index : Nat) : System :=
  match system.delivering[index]? with
  | some .sequence => { system with
      gesture := resetAccumulator system.gesture
      delivering := system.delivering.eraseIdx index }
  | some .timeout => { system with delivering := system.delivering.eraseIdx index }
  | none => system

/-- The callback is the one that a request hands over. -/
def step : Event → System
  | .elapse milliseconds => { system with uptime := system.uptime + milliseconds }
  | .tapGate tap =>
    if tapDropped system.uptime system.gesture then system else { system with passed := system.passed ++ [tap] }
  | .tapEnter index =>
    match system.passed[index]? with
    | some tap => { system with
        gesture := accumulateTap config tap system.gesture
        passed := system.passed.eraseIdx index }
    | none => system
  | .silenceTimeout => system.work (silenceSection config system.uptime system.gesture)
  | .confirmTimeout => system.work (timeoutSection (confirmTimeoutFn system.gesture))
  | .resetTimeout => system.work (timeoutSection (resetTimeoutFn system.gesture))
  | .pairTimeout => system.work (timeoutSection (pairTimeoutFn system.gesture))
  | .resume index => system.resume index
  | .requestConfirm => system.withGesture (gestureRequestConfirm callback system.gesture).2
  | .requestReset => system.withGesture (gestureRequestReset config callback system.gesture).2
  | .requestPairConfirm => system.withGesture (gestureRequestPairConfirm callback system.gesture).2
  | .setUnlockSeq sequence persisted =>
    system.withGesture (gestureSetUnlockSeq config sequence persisted system.gesture).2.1
  | .getState => system.withGesture (gestureGetState config system.uptime system.gesture)
  | .resetInactivityTimer => system.withGesture (gestureResetInactivityTimer system.uptime system.gesture)

/-- What a section hands to storage and handlers. -/
def effects : Event → List Effect
  | .silenceTimeout =>
    match closedSequence config system.gesture with
    | some closed => (processSequence config system.uptime closed).2
    | none => []
  | .confirmTimeout => (confirmTimeoutFn system.gesture).2
  | .resetTimeout => (resetTimeoutFn system.gesture).2
  | .pairTimeout => (pairTimeoutFn system.gesture).2
  | .setUnlockSeq sequence persisted => (gestureSetUnlockSeq config sequence persisted system.gesture).2.2
  | _ => []

/-- The callbacks that are invoked, with the result. -/
def invocations (handed : List Effect) : List (Callback × ConfirmResult) :=
  handed.filterMap fun effect => match effect with
    | .deliver callback result => some (callback, result)
    | .unlockAttemptsWrite _ => none
    | .unlockSeqWrite _ => none

def accepts : Event → Bool
  | .requestConfirm => (gestureRequestConfirm .rehearsal system.gesture).1.isOk
  | .requestReset => (gestureRequestReset config .rehearsal system.gesture).1.isOk
  | .requestPairConfirm => (gestureRequestPairConfirm .rehearsal system.gesture).1.isOk
  | _ => false

/-- An observer numbers requests, and marks taps with the count. -/
structure History where
  system : System
  accepted : Nat
  invoked : List (Callback × ConfirmResult)
  marks : List Nat
  deriving DecidableEq, Repr

/-- Taps in the accumulator are marked, an empty one has none. -/
def marksAfter (history : History) (after : Machine) : Event → List Nat
  | .tapEnter _ =>
    if content after = content history.system.gesture then history.marks else history.marks ++ [history.accepted]
  | _ => if Blank after then [] else history.marks

def observe (history : History) (event : Event) : History :=
  let after := step config (.request history.accepted) history.system event
  { system := after
    accepted := if accepts config history.system event then history.accepted + 1 else history.accepted
    invoked := history.invoked ++ invocations (effects config history.system event)
    marks := marksAfter history after.gesture event }

def boot (now : Nat) (storedSeq : Option (List UInt8)) (storedAttempts : Option UInt32) : History :=
  ⟨⟨now, gestureInit config now storedSeq storedAttempts, [], []⟩, 0, [], []⟩

/-- The same machine with a free work queue. -/
def System.alone : GestureThreads.System := ⟨system.uptime, system.gesture, none, system.passed⟩

def threadEvent : Event → GestureThreads.Event
  | .elapse milliseconds => .elapse milliseconds
  | .tapGate tap => .tapGate tap
  | .tapEnter index => .tapEnter index
  | .silenceTimeout => .silenceTimeout
  | .confirmTimeout => .confirmTimeout
  | .resetTimeout => .resetTimeout
  | .pairTimeout => .pairTimeout
  | .resume _ => .delivered
  | .requestConfirm => .requestConfirm callback
  | .requestReset => .requestReset callback
  | .requestPairConfirm => .requestPairConfirm callback
  | .setUnlockSeq sequence persisted => .setUnlockSeq sequence persisted
  | .getState => .getState
  | .resetInactivityTimer => .resetInactivityTimer

/-- A section acts as on a free queue, or only resets. -/
theorem step_gesture (event : Event) :
    (step config callback system event).gesture =
        (GestureThreads.step config system.alone (threadEvent callback event)).gesture ∨
      (step config callback system event).gesture = resetAccumulator system.gesture := by
  cases event with
  | tapGate tap =>
    by_cases dropped : tapDropped system.uptime system.gesture = true <;>
      simp [step, threadEvent, GestureThreads.step, System.alone, dropped]
  | tapEnter index =>
    left
    simp only [step, threadEvent, GestureThreads.step, System.alone]
    cases system.passed[index]? <;> rfl
  | resume index =>
    simp only [step, System.resume]
    split
    · exact .inr rfl
    · exact .inl rfl
    · exact .inl rfl
  | _ => exact .inl rfl

/-- Only the section of a tap fills the accumulator. -/
theorem step_blank {system : System} {event : Event} (other : ∀ index, event ≠ .tapEnter index)
    (blank : Blank system.gesture) : Blank (step config callback system event).gesture := by
  rcases step_gesture config callback system event with same | reset
  · rw [same]
    refine GestureThreads.step_blank config (fun index => ?_) blank
    cases event with
    | tapEnter index => exact absurd rfl (other index)
    | _ => exact fun equal => by cases equal
  · rw [reset]
    exact GestureThreads.blank_resetAccumulator _

/-- A tap that leaves the accumulator blank was not taken. -/
theorem tapEnter_content (index : Nat) (blank : Blank (step config callback system (.tapEnter index)).gesture) :
    content (step config callback system (.tapEnter index)).gesture = content system.gesture := by
  simp only [step] at blank ⊢
  cases found : system.passed[index]? with
  | none => rfl
  | some tap =>
    rw [found] at blank
    exact GestureThreads.accumulateTap_blank config tap system.gesture blank

end Cantil.Confirmations
