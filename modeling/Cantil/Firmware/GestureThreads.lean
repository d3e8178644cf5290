import Cantil.Firmware.Gesture
import Cantil.Library.Trace

namespace Cantil.GestureThreads
open Gesture

/-- What a work item still does once it has the mutex back. -/
inductive Delivery where
  | timeout
  | sequence
  deriving DecidableEq, Repr

/-- The gesture machine between two critical sections. -/
structure System where
  uptime : Int
  gesture : Machine
  /-- The timers share a queue, which delivers one at a time. -/
  delivering : Option Delivery
  /-- The taps past the lockout gate that wait for the mutex. -/
  passed : List Tap
  deriving DecidableEq, Repr

/-- Each event but the first is a critical section. -/
inductive Event where
  | elapse (milliseconds : Nat)
  | tapGate (tap : Tap)
  | tapEnter (index : Nat)
  | silenceTimeout
  | confirmTimeout
  | resetTimeout
  | pairTimeout
  | delivered
  | requestConfirm (callback : Callback)
  | requestReset (callback : Callback)
  | requestPairConfirm (callback : Callback)
  | setUnlockSeq (sequence : List UInt8) (persisted : Bool)
  | getState
  | resetInactivityTimer
  deriving DecidableEq, Repr

variable (config : Config) (system : System) (gesture : Machine)

def boot (now : Nat) (storedSeq : Option (List UInt8)) (storedAttempts : Option UInt32) : System :=
  ⟨now, gestureInit config now storedSeq storedAttempts, none, []⟩

/-- A callback is called, so the mutex is released. -/
def delivers (effects : List Effect) : Bool :=
  effects.any fun effect => match effect with
    | .deliver _ _ => true
    | .unlockAttemptsWrite _ => false
    | .unlockSeqWrite _ => false

/-- The machine on which the silence timer calls `process_sequence`. -/
def closedSequence : Option Machine :=
  let closed := match config.alphabet with
    | .countColor => { gesture with silencePhase := 0 }
    | .stdtBinary => closeSequenceBinaryLocked gesture
    | .stdtPlain => gesture
  if config.alphabet = .countColor ∧ gesture.silencePhase = 1 then none
  else if 0 < closed.digitBuf.length then some closed
  else none

/-- The accumulator is reset at once, or after the callback. -/
def evaluate (now : Int) (closed : Machine) : Machine × Option Delivery :=
  let (next, effects) := processSequence config now closed
  if delivers effects then (next, some .sequence) else (resetAccumulator next, none)

def silenceSection (now : Int) (gesture : Machine) : Machine × Option Delivery :=
  match closedSequence config gesture with
  | some closed => evaluate config now closed
  | none => ((silenceTimeoutFn config now gesture).1, none)

def timeoutSection (outcome : Machine × List Effect) : Machine × Option Delivery :=
  (outcome.1, if delivers outcome.2 then some .timeout else none)

def System.withGesture : System := { system with gesture := gesture }

/-- The work queue runs a section when it is free. -/
def System.work (outcome : Machine × Option Delivery) : System :=
  if system.delivering = none then { system with gesture := outcome.1, delivering := outcome.2 } else system

/-- The work item goes on after its callback. -/
def System.resume : System :=
  match system.delivering with
  | some .sequence => { system with gesture := resetAccumulator system.gesture, delivering := none }
  | some .timeout => { system with delivering := none }
  | none => system

def step : Event → System
  | .elapse milliseconds => { system with uptime := system.uptime + milliseconds }
  | .tapGate tap =>
    if tapDropped system.uptime system.gesture then system else { system with passed := system.passed ++ [tap] }
  | .tapEnter index =>
    match system.passed[index]? with
    | some tap => { system with
        gesture := accumulateTap config tap system.gesture
        passed := system.passed.eraseIdx index }
    | none => system
  | .silenceTimeout => system.work (silenceSection config system.uptime system.gesture)
  | .confirmTimeout => system.work (timeoutSection (confirmTimeoutFn system.gesture))
  | .resetTimeout => system.work (timeoutSection (resetTimeoutFn system.gesture))
  | .pairTimeout => system.work (timeoutSection (pairTimeoutFn system.gesture))
  | .delivered => system.resume
  | .requestConfirm callback => system.withGesture (gestureRequestConfirm callback system.gesture).2
  | .requestReset callback => system.withGesture (gestureRequestReset config callback system.gesture).2
  | .requestPairConfirm callback => system.withGesture (gestureRequestPairConfirm callback system.gesture).2
  | .setUnlockSeq sequence persisted =>
    system.withGesture (gestureSetUnlockSeq config sequence persisted system.gesture).2.1
  | .getState => system.withGesture (gestureGetState config system.uptime system.gesture)
  | .resetInactivityTimer => system.withGesture (gestureResetInactivityTimer system.uptime system.gesture)

/-- The machine on which this step calls `process_sequence`. -/
def evaluated : Event → Option Machine
  | .silenceTimeout => if system.delivering = none then closedSequence config system.gesture else none
  | _ => none

/-- No tap is in the accumulator. -/
def Blank : Prop := gesture.digitBuf = [] ∧ gesture.curTaps = 0 ∧ gesture.bitBuf = []

instance (gesture : Machine) : Decidable (Blank gesture) := inferInstanceAs (Decidable (_ ∧ _))

/-- What the accumulator holds. -/
def content : List UInt8 × Nat × List Bool := (gesture.digitBuf, gesture.curTaps, gesture.bitBuf)

variable {config : Config} {gesture closed : Machine} {system : System}

/-! The sections and the accumulator. -/

theorem blank_resetAccumulator (gesture : Machine) : Blank (resetAccumulator gesture) := ⟨rfl, rfl, rfl⟩

theorem blank_awaitTaps (callback : Callback) (next : GestureState) (gesture : Machine) :
    Blank (awaitTaps callback next gesture) := ⟨rfl, rfl, rfl⟩

theorem blank_of_content {before after : Machine} (same : content after = content before) (blank : Blank after) :
    Blank before := by
  obtain ⟨digits, taps, bits⟩ := blank
  simp only [content, Prod.mk.injEq] at same
  exact ⟨same.1 ▸ digits, same.2.1 ▸ taps, same.2.2 ▸ bits⟩

/-- A tap that the accumulator takes stays in it. -/
theorem accumulateTap_blank (config : Config) (tap : Tap) (gesture : Machine)
    (blank : Blank (accumulateTap config tap gesture)) :
    content (accumulateTap config tap gesture) = content gesture := by
  obtain ⟨digits, taps, bits⟩ := blank
  unfold accumulateTap at digits taps bits ⊢
  cases alphabet : config.alphabet with
  | countColor =>
    simp only [alphabet] at taps ⊢
    by_cases room : gesture.curTaps + (if tap = .double then 2 else 1) ≤ 0xFF
    · rw [if_pos room] at taps
      split_ifs at taps
    · rw [if_neg room]
      rfl
  | stdtBinary =>
    simp only [alphabet] at bits ⊢
    split_ifs at bits ⊢ with room
    · simp at bits
    · rfl
  | stdtPlain =>
    simp only [alphabet] at digits ⊢
    by_cases room : gesture.digitBuf.length < seqMaxLen
    · simp [if_pos room] at digits
    · rw [if_neg room]

theorem closedSequence_of_blank (config : Config) (blank : Blank gesture) : closedSequence config gesture = none := by
  obtain ⟨digits, _, bits⟩ := blank
  unfold closedSequence
  cases config.alphabet <;> simp [digits, bits, closeSequenceBinaryLocked, tripletDigits]

/-! What is not in the accumulator. -/

theorem closedSequence_outside (called : closedSequence config gesture = some closed) :
    resetAccumulator closed = resetAccumulator gesture := by
  unfold closedSequence at called
  cases alphabet : config.alphabet <;> simp only [alphabet] at called <;> split_ifs at called <;>
    obtain rfl := Option.some.inj called <;> rfl

theorem silenceTimeoutFn_outside (now : Int) (quiet : closedSequence config gesture = none) :
    resetAccumulator (silenceTimeoutFn config now gesture).1 = resetAccumulator gesture := by
  unfold closedSequence at quiet
  unfold silenceTimeoutFn
  cases alphabet : config.alphabet <;> simp only [alphabet, true_and, reduceCtorEq, false_and, if_false] at quiet ⊢ <;>
    split_ifs at quiet ⊢
  · unfold closeDigitLocked
    split_ifs <;> rfl
  all_goals rfl

theorem silenceTimeoutFn_blank (now : Int) (blank : Blank gesture) : Blank (silenceTimeoutFn config now gesture).1 := by
  obtain ⟨digits, taps, bits⟩ := blank
  unfold silenceTimeoutFn
  cases config.alphabet <;>
    simp [Blank, closeDigitLocked, closeSequenceBinaryLocked, tripletDigits, resetAccumulator, digits, taps, bits]
  split_ifs <;> simp

theorem evaluate_outside (config : Config) (now : Int) (closed : Machine) :
    resetAccumulator (evaluate config now closed).1 = resetAccumulator (processSequence config now closed).1 := by
  unfold evaluate
  dsimp only
  split_ifs <;> rfl

/-- An evaluation leaves nothing in the accumulator, or delivers. -/
theorem evaluate_blank (config : Config) (now : Int) (closed : Machine) :
    (evaluate config now closed).2 = some .sequence ∨ Blank (evaluate config now closed).1 := by
  unfold evaluate
  dsimp only
  split_ifs
  · exact .inl rfl
  · exact .inr (blank_resetAccumulator _)

/-- Only the section of a tap fills the accumulator. -/
theorem step_blank (config : Config) {event : Event} (other : ∀ index, event ≠ .tapEnter index)
    (blank : Blank system.gesture) : Blank (step config system event).gesture := by
  cases event with
  | tapEnter index => exact absurd rfl (other index)
  | tapGate tap =>
    simp only [step]
    split_ifs <;> exact blank
  | silenceTimeout =>
    have quiet := closedSequence_of_blank config blank
    simp only [step, System.work, silenceSection, quiet]
    split_ifs
    · exact silenceTimeoutFn_blank system.uptime blank
    · exact blank
  | confirmTimeout | resetTimeout | pairTimeout =>
    simp only [step, System.work, timeoutSection, confirmTimeoutFn, resetTimeoutFn, pairTimeoutFn]
    split_ifs <;> exact blank
  | delivered =>
    simp only [step, System.resume]
    split
    · exact blank_resetAccumulator _
    · exact blank
    · exact blank
  | requestConfirm callback | requestReset callback | requestPairConfirm callback =>
    simp only [step, gestureRequestConfirm, gestureRequestReset, gestureRequestPairConfirm]
    split_ifs
    any_goals exact blank
    exact blank_awaitTaps callback _ _
  | setUnlockSeq sequence persisted | getState =>
    simp only [step, gestureSetUnlockSeq, gestureGetState]
    split_ifs <;> exact blank
  | elapse _ | resetInactivityTimer => exact blank

/-- A timer whose prompt is gone does nothing. -/
theorem System.work_idle (system : System) : system.work (timeoutSection (system.gesture, [])) = system := by
  unfold System.work
  split_ifs with free
  · have same : timeoutSection (system.gesture, []) = (system.gesture, system.delivering) := by
      rw [free]
      rfl
    rw [same]
  · rfl

end Cantil.GestureThreads
