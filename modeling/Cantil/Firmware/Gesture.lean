import Cantil.Firmware.Config
import Mathlib.Data.List.Basic

namespace Cantil.Gesture

/-- The device states in the order of `cantil_state_t`. -/
inductive GestureState where
  | locked
  | unlocked
  | pairing
  | changeSeqConfirm
  | changeSeqVerify
  | awaitingConfirm
  | awaitingReset
  | awaitingPair
  deriving DecidableEq, Repr

inductive Tap where
  | single
  | double
  deriving DecidableEq, Repr

inductive ConfirmResult where
  | ok
  | denied
  | timeout
  deriving DecidableEq, Repr

/-- A callback of one request or of the rehearsal build. -/
inductive Callback where
  | request (id : Nat)
  | rehearsal
  deriving DecidableEq, Repr

/-- What the machine hands to storage and handlers. -/
inductive Effect where
  | unlockAttemptsWrite (count : UInt32)
  | unlockSeqWrite (sequence : List UInt8)
  | deliver (callback : Callback) (result : ConfirmResult)
  deriving DecidableEq, Repr

inductive RequestError where
  | invalid
  | busy
  | already
  | storage
  deriving DecidableEq, Repr

def seqMaxLen : Nat := 16

def digitInvalid : UInt8 := 0xFF

def seqUnlockDefault : Alphabet → List UInt8
  | .countColor => [1, 1, 1, 1]
  | .stdtBinary => [0, 0, 0, 0]
  | .stdtPlain => [1, 2, 1, 2]

def seqLock : Alphabet → List UInt8
  | .countColor => [1]
  | .stdtBinary => [0]
  | .stdtPlain => [1]

def seqPairingTrigger : Alphabet → List UInt8
  | .countColor => [2, 2]
  | .stdtBinary => [1, 1]
  | .stdtPlain => [2, 2, 1, 1]

def seqChangeSeqTrigger : Alphabet → List UInt8
  | .countColor => [3, 3, 3]
  | .stdtBinary => [2, 2, 2]
  | .stdtPlain => [2, 1, 2, 1]

def seqConfirm : Alphabet → List UInt8
  | .countColor => [3, 3, 3]
  | .stdtBinary => [3, 3, 3]
  | .stdtPlain => [2, 2, 2]

def seqRehearseProtect : Alphabet → List UInt8
  | .countColor => [4, 4]
  | .stdtBinary => [4, 4]
  | .stdtPlain => [2, 2, 2, 2]

def seqRehearseReset : Alphabet → List UInt8
  | .countColor => [5, 5]
  | .stdtBinary => [5, 5]
  | .stdtPlain => [1, 1, 1, 1]

/-- The variables of `gesture.c`, times in milliseconds. -/
structure Machine where
  state : GestureState
  digitBuf : List UInt8
  curTaps : Nat
  silencePhase : Nat
  bitBuf : List Bool
  unlockSeq : List UInt8
  usingDefaultSeq : Bool
  forcedChangeActive : Bool
  newSeq : List UInt8
  lastActivityMs : Int
  failureCount : UInt32
  lockoutUntilMs : Int
  pendingCb : Option Callback
  preAwaitState : GestureState
  deriving DecidableEq, Repr

variable (config : Config) (callback : Callback) (now : Int) (sequence : List UInt8) (gesture : Machine)

def lockoutSecondsForCount (count : UInt32) : Int :=
  -- The subtraction wraps exactly as the unsigned one of the source.
  match count - config.unlockRateLimitThreshold with
  | 1 => 10
  | 2 => 30
  | 3 => 120
  | 4 => 600
  | _ => 3600

def unlockInLockout : Bool :=
  gesture.lockoutUntilMs != 0 && now < gesture.lockoutUntilMs

def noteUnlockFailure : Machine × List Effect :=
  let count := gesture.failureCount + 1
  let counted := { gesture with failureCount := count }
  if count > config.unlockRateLimitThreshold then
    ({ counted with lockoutUntilMs := now + lockoutSecondsForCount config count * 1000 },
      [.unlockAttemptsWrite count])
  else (counted, [.unlockAttemptsWrite count])

def noteUnlockSuccess : Machine × List Effect :=
  if gesture.failureCount ≠ 0 then
    ({ gesture with failureCount := 0, lockoutUntilMs := 0 }, [.unlockAttemptsWrite 0])
  else (gesture, [])

def resetAccumulator : Machine :=
  { gesture with digitBuf := [], curTaps := 0, silencePhase := 0, bitBuf := [] }

def isFactoryDefault : Bool :=
  sequence = seqUnlockDefault config.alphabet

def seqHasInvalid : Bool :=
  sequence.contains digitInvalid

def transition (next : GestureState) : Machine :=
  { gesture with state := next }

/-- The pending callback is cleared before it runs. -/
def deliverConfirm (result : ConfirmResult) : Machine × List Effect :=
  ({ gesture with pendingCb := none },
    match gesture.pendingCb with
    | some callback => [.deliver callback result]
    | none => [])

def confirmTimeoutFn : Machine × List Effect :=
  if gesture.state = .awaitingConfirm then deliverConfirm (transition gesture .unlocked) .timeout
  else (gesture, [])

def resetTimeoutFn : Machine × List Effect :=
  if gesture.state = .awaitingReset then
    deliverConfirm (transition gesture gesture.preAwaitState) .timeout
  else (gesture, [])

def pairTimeoutFn : Machine × List Effect :=
  if gesture.state = .awaitingPair then
    deliverConfirm (transition gesture gesture.preAwaitState) .timeout
  else (gesture, [])

/-- The count alphabet closes one digit. -/
def closeDigitLocked : Machine :=
  if gesture.curTaps = 0 ∨ gesture.digitBuf.length ≥ seqMaxLen then { gesture with curTaps := 0 }
  else
    let digit := if gesture.curTaps > config.unlockPaletteSize then digitInvalid
      else UInt8.ofNat gesture.curTaps
    { gesture with digitBuf := gesture.digitBuf ++ [digit], curTaps := 0 }

/-- Three bits make a digit. 111 and leftovers are invalid. -/
def tripletDigits : List Bool → List UInt8
  | first :: second :: third :: rest =>
    let code := UInt8.ofNat (4 * first.toNat + 2 * second.toNat + third.toNat)
    (if code = 7 then digitInvalid else code) :: tripletDigits rest
  | [] => []
  | _ => [digitInvalid]

/-- The binary alphabet closes the whole sequence. -/
def closeSequenceBinaryLocked : Machine :=
  { gesture with digitBuf := (tripletDigits gesture.bitBuf).take seqMaxLen, bitBuf := [] }

/-- The closed sequence in `digitBuf` is evaluated. -/
def processSequence : Machine × List Effect :=
  let hasInvalid := seqHasInvalid gesture.digitBuf
  let entered (sequence : List UInt8) : Bool := gesture.digitBuf = sequence
  match gesture.state with
  | .locked =>
    if !hasInvalid && entered gesture.unlockSeq then
      let (noted, effects) := noteUnlockSuccess gesture
      if noted.usingDefaultSeq then
        (transition { noted with forcedChangeActive := true } .changeSeqConfirm, effects)
      else (transition noted .unlocked, effects)
    else noteUnlockFailure config now gesture
  | .unlocked =>
    if hasInvalid then (gesture, [])
    else if entered (seqLock config.alphabet) then (transition gesture .locked, [])
    else if entered (seqPairingTrigger config.alphabet) then (transition gesture .pairing, [])
    else if entered (seqChangeSeqTrigger config.alphabet) then
      (transition gesture .changeSeqConfirm, [])
    else if config.gestureRehearsal && entered (seqRehearseProtect config.alphabet) then
      (transition { gesture with pendingCb := some .rehearsal } .awaitingConfirm, [])
    else if config.gestureRehearsal && entered (seqRehearseReset config.alphabet) then
      (transition { gesture with pendingCb := some .rehearsal } .awaitingReset, [])
    else (gesture, [])
  | .changeSeqConfirm =>
    if hasInvalid then (gesture, [])
    else if 0 < gesture.digitBuf.length && gesture.digitBuf.length ≤ seqMaxLen then
      (transition { gesture with newSeq := gesture.digitBuf } .changeSeqVerify, [])
    else (gesture, [])
  | .changeSeqVerify =>
    if !hasInvalid && entered gesture.newSeq then
      (transition { gesture with
          unlockSeq := gesture.newSeq
          usingDefaultSeq := isFactoryDefault config gesture.newSeq
          forcedChangeActive := false } .unlocked,
        [.unlockSeqWrite gesture.newSeq])
    else if gesture.forcedChangeActive then
      (transition { gesture with forcedChangeActive := false } .locked, [])
    else (transition gesture .unlocked, [])
  | .awaitingConfirm =>
    if !hasInvalid && entered (seqConfirm config.alphabet) then
      deliverConfirm (transition gesture .unlocked) .ok
    else deliverConfirm (transition gesture .unlocked) .denied
  | .awaitingReset =>
    if !hasInvalid && entered gesture.unlockSeq then
      deliverConfirm (transition gesture gesture.preAwaitState) .ok
    else deliverConfirm (transition gesture gesture.preAwaitState) .denied
  | .awaitingPair =>
    if !hasInvalid && entered (seqPairingTrigger config.alphabet) then
      deliverConfirm (transition gesture gesture.preAwaitState) .ok
    else deliverConfirm (transition gesture gesture.preAwaitState) .denied
  | .pairing => (gesture, [])

/-- The silence timer closes a digit or a sequence. -/
def silenceTimeoutFn : Machine × List Effect :=
  match config.alphabet with
  | .countColor =>
    if gesture.silencePhase = 1 then
      ({ closeDigitLocked config gesture with silencePhase := 2 }, [])
    else
      let closed := { gesture with silencePhase := 0 }
      if 0 < closed.digitBuf.length then
        let (next, effects) := processSequence config now closed
        (resetAccumulator next, effects)
      else (closed, [])
  | .stdtBinary =>
    let closed := closeSequenceBinaryLocked gesture
    if 0 < closed.digitBuf.length then
      let (next, effects) := processSequence config now closed
      (resetAccumulator next, effects)
    else (resetAccumulator closed, [])
  | .stdtPlain =>
    if 0 < gesture.digitBuf.length then
      let (next, effects) := processSequence config now gesture
      (resetAccumulator next, effects)
    else (gesture, [])

/-- Boot loads the stored sequence and the stored failure count. -/
def gestureInit (storedSeq : Option (List UInt8)) (storedAttempts : Option UInt32) : Machine :=
  let unlockSeq := match storedSeq with
    | some sequence =>
      if 0 < sequence.length ∧ sequence.length ≤ seqMaxLen then sequence
      else seqUnlockDefault config.alphabet
    | none => seqUnlockDefault config.alphabet
  { state := .locked
    digitBuf := []
    curTaps := 0
    silencePhase := 0
    bitBuf := []
    unlockSeq := unlockSeq
    usingDefaultSeq := isFactoryDefault config unlockSeq
    forcedChangeActive := false
    newSeq := []
    lastActivityMs := now
    failureCount := storedAttempts.getD 0
    lockoutUntilMs := 0
    pendingCb := none
    preAwaitState := .locked }

def tapDropped : Bool :=
  gesture.state = .locked && unlockInLockout now gesture

/-- One accepted tap enters the accumulator of the alphabet. -/
def accumulateTap (tap : Tap) (gesture : Machine) : Machine :=
  match config.alphabet with
  | .countColor =>
    let increment := if tap = .double then 2 else 1
    { gesture with
      curTaps := if gesture.curTaps + increment ≤ 0xFF then gesture.curTaps + increment
        else gesture.curTaps
      silencePhase := 1 }
  | .stdtBinary =>
    if gesture.bitBuf.length < seqMaxLen * 3 then
      { gesture with bitBuf := gesture.bitBuf ++ [decide (tap = .double)] }
    else gesture
  | .stdtPlain =>
    if gesture.digitBuf.length < seqMaxLen then
      { gesture with digitBuf := gesture.digitBuf ++ [if tap = .double then 2 else 1] }
    else gesture

def gestureReportTap (tap : Tap) (gesture : Machine) : Machine :=
  if tapDropped now gesture then gesture else accumulateTap config tap gesture

/-- The lock after inactivity happens only here. -/
def gestureGetState : Machine :=
  let idleMs := now - gesture.lastActivityMs
  if gesture.state = .unlocked ∧ idleMs ≥ config.inactivityTimeoutSec * 1000 then
    { gesture with state := .locked }
  else gesture

def gestureResetInactivityTimer : Machine :=
  { gesture with lastActivityMs := now }

/-- The flag `persisted` is the outcome of the storage write. -/
def gestureSetUnlockSeq (persisted : Bool) (gesture : Machine) : Except RequestError Unit × Machine × List Effect :=
  if sequence.length = 0 ∨ sequence.length > seqMaxLen then (.error .invalid, gesture, [])
  else if gesture.state ≠ .unlocked then (.error .busy, gesture, [])
  else
    let next := { gesture with
      unlockSeq := sequence
      usingDefaultSeq := isFactoryDefault config sequence }
    (if persisted then .ok () else .error .storage, next, [.unlockSeqWrite sequence])

/-- An accepted request clears the accumulator and waits. -/
def awaitTaps (next : GestureState) (gesture : Machine) : Machine :=
  transition (resetAccumulator { gesture with pendingCb := some callback }) next

def gestureRequestConfirm : Except RequestError Unit × Machine :=
  if gesture.state ≠ .unlocked then (.error .busy, gesture)
  else if gesture.pendingCb.isSome then (.error .already, gesture)
  else (.ok (), awaitTaps callback .awaitingConfirm gesture)

def gestureRequestReset : Except RequestError Unit × Machine :=
  if config.resetRequiresUnlock && gesture.state ≠ .unlocked then (.error .busy, gesture)
  else if gesture.state ≠ .unlocked ∧ gesture.state ≠ .locked then (.error .busy, gesture)
  else if gesture.pendingCb.isSome then (.error .already, gesture)
  else (.ok (), awaitTaps callback .awaitingReset { gesture with preAwaitState := gesture.state })

def gestureRequestPairConfirm : Except RequestError Unit × Machine :=
  if gesture.state ≠ .unlocked ∧ gesture.state ≠ .locked then (.error .busy, gesture)
  else if gesture.pendingCb.isSome then (.error .already, gesture)
  else (.ok (), awaitTaps callback .awaitingPair { gesture with preAwaitState := gesture.state })

/-- Refused, or accepted at rest with no callback pending. -/
inductive Requested (callback : Callback) (gesture : Machine) : Except RequestError Unit × Machine → Prop where
  | refused (error : RequestError) : Requested callback gesture (.error error, gesture)
  | confirm (unlocked : gesture.state = .unlocked) (free : gesture.pendingCb.isSome ≠ true) :
    Requested callback gesture (.ok (), awaitTaps callback .awaitingConfirm gesture)
  | prompt (next : GestureState) (awaiting : next = .awaitingReset ∨ next = .awaitingPair)
    (rest : gesture.state = .unlocked ∨ gesture.state = .locked) (free : gesture.pendingCb.isSome ≠ true) :
    Requested callback gesture (.ok (), awaitTaps callback next { gesture with preAwaitState := gesture.state })

theorem requestConfirm_requested : Requested callback gesture (gestureRequestConfirm callback gesture) := by
  unfold gestureRequestConfirm
  split_ifs with locked pending
  · exact .refused _
  · exact .refused _
  · exact .confirm (not_not.mp locked) pending

theorem requestReset_requested : Requested callback gesture (gestureRequestReset config callback gesture) := by
  unfold gestureRequestReset
  split_ifs with strict away pending
  · exact .refused _
  · exact .refused _
  · exact .refused _
  · exact .prompt _ (.inl rfl) (by tauto) pending

theorem requestPairConfirm_requested : Requested callback gesture (gestureRequestPairConfirm callback gesture) := by
  unfold gestureRequestPairConfirm
  split_ifs with away pending
  · exact .refused _
  · exact .refused _
  · exact .prompt _ (.inr rfl) (by tauto) pending

section Frames

/-- What is not in the accumulator. -/
theorem fields_of_outside {first second : Machine} (same : resetAccumulator first = resetAccumulator second) :
    first.state = second.state ∧ first.preAwaitState = second.preAwaitState ∧ first.pendingCb = second.pendingCb ∧
      first.lockoutUntilMs = second.lockoutUntilMs ∧ first.lastActivityMs = second.lastActivityMs ∧
      first.failureCount = second.failureCount := by
  simp_all [resetAccumulator]

variable (config : Config) (now : Int) (gesture : Machine)

/-- A failed unlock changes the counter and the lockout only. -/
theorem noteUnlockFailure_eq : ∃ lockout, noteUnlockFailure config now gesture =
    ({ gesture with failureCount := gesture.failureCount + 1, lockoutUntilMs := lockout },
      [.unlockAttemptsWrite (gesture.failureCount + 1)]) := by
  unfold noteUnlockFailure
  dsimp only
  split_ifs <;> exact ⟨_, rfl⟩

/-- So does a successful unlock. -/
theorem noteUnlockSuccess_eq : ∃ count lockout, (noteUnlockSuccess gesture).1 =
    { gesture with failureCount := count, lockoutUntilMs := lockout } := by
  unfold noteUnlockSuccess
  split_ifs <;> exact ⟨_, _, rfl⟩

variable (tap : Tap) (next : GestureState) (result : ConfirmResult)

@[simp] theorem transition_state : (transition gesture next).state = next := rfl

@[simp] theorem transition_preAwaitState : (transition gesture next).preAwaitState = gesture.preAwaitState := rfl

@[simp] theorem transition_lastActivityMs : (transition gesture next).lastActivityMs = gesture.lastActivityMs := rfl

@[simp] theorem deliverConfirm_state : (deliverConfirm gesture result).1.state = gesture.state := rfl

@[simp] theorem deliverConfirm_preAwaitState :
    (deliverConfirm gesture result).1.preAwaitState = gesture.preAwaitState := rfl

@[simp] theorem deliverConfirm_lastActivityMs :
    (deliverConfirm gesture result).1.lastActivityMs = gesture.lastActivityMs := rfl

/-- A tap goes into the accumulator. -/
theorem accumulateTap_outside : resetAccumulator (accumulateTap config tap gesture) = resetAccumulator gesture := by
  unfold accumulateTap
  cases config.alphabet <;> dsimp only
  all_goals split_ifs <;> rfl

@[simp] theorem accumulateTap_state : (accumulateTap config tap gesture).state = gesture.state :=
  (fields_of_outside (accumulateTap_outside config gesture tap)).1

@[simp] theorem accumulateTap_preAwaitState :
    (accumulateTap config tap gesture).preAwaitState = gesture.preAwaitState :=
  (fields_of_outside (accumulateTap_outside config gesture tap)).2.1

@[simp] theorem accumulateTap_pendingCb : (accumulateTap config tap gesture).pendingCb = gesture.pendingCb :=
  (fields_of_outside (accumulateTap_outside config gesture tap)).2.2.1

@[simp] theorem accumulateTap_lockoutUntilMs :
    (accumulateTap config tap gesture).lockoutUntilMs = gesture.lockoutUntilMs :=
  (fields_of_outside (accumulateTap_outside config gesture tap)).2.2.2.1

@[simp] theorem accumulateTap_lastActivityMs :
    (accumulateTap config tap gesture).lastActivityMs = gesture.lastActivityMs :=
  (fields_of_outside (accumulateTap_outside config gesture tap)).2.2.2.2.1

end Frames

variable (config : Config) (now : Int) (gesture : Machine)

/-- Unlocked by its sequence, and not locked since. -/
def AfterUnlock : Prop :=
  (gesture.state ≠ .locked ∧ gesture.state ≠ .awaitingReset ∧ gesture.state ≠ .awaitingPair) ∨
    gesture.preAwaitState ≠ .locked

/-- The silence timer evaluates the unlock sequence with success. -/
def unlocks : Bool :=
  gesture.state = .locked && (silenceTimeoutFn config now gesture).1.state ≠ .locked

/-- A prompt returns to unlocked only from there. -/
theorem afterUnlock_return {gesture : Machine} {result : ConfirmResult}
    (after : AfterUnlock (deliverConfirm (transition gesture gesture.preAwaitState) result).1) :
    AfterUnlock gesture := by
  rcases after with ⟨returned, _⟩ | before
  · exact .inr returned
  · exact .inr before

/-- Sequences keep the activity time, and only one unlocks. -/
theorem processSequence_frame :
    (processSequence config now gesture).1.lastActivityMs = gesture.lastActivityMs ∧
      (AfterUnlock (processSequence config now gesture).1 → AfterUnlock gesture ∨
        gesture.state = .locked ∧ (processSequence config now gesture).1.state ≠ .locked) := by
  unfold processSequence
  cases state : gesture.state <;> dsimp only
  case awaitingReset | awaitingPair => split_ifs <;> exact ⟨rfl, fun after => .inl (afterUnlock_return after)⟩
  case locked =>
    obtain ⟨_, failed⟩ := noteUnlockFailure_eq config now gesture
    obtain ⟨_, _, noted⟩ := noteUnlockSuccess_eq gesture
    rw [failed, noted]
    split_ifs <;> simp [AfterUnlock, state]
  all_goals try split_ifs
  all_goals simp [AfterUnlock, state]

/-- The silence timer keeps the activity time, and may unlock. -/
theorem silenceTimeoutFn_frame :
    (silenceTimeoutFn config now gesture).1.lastActivityMs = gesture.lastActivityMs ∧
      (AfterUnlock (silenceTimeoutFn config now gesture).1 →
        AfterUnlock gesture ∨ unlocks config now gesture = true) := by
  simp only [unlocks, Bool.and_eq_true, decide_eq_true_eq]
  unfold silenceTimeoutFn
  cases config.alphabet <;> dsimp only
  case countColor =>
    split_ifs
    · unfold closeDigitLocked
      split_ifs <;> exact ⟨rfl, .inl⟩
    · exact processSequence_frame config now { gesture with silencePhase := 0 }
    · exact ⟨rfl, .inl⟩
  case stdtBinary =>
    split_ifs
    · exact processSequence_frame config now (closeSequenceBinaryLocked gesture)
    · exact ⟨rfl, .inl⟩
  case stdtPlain =>
    split_ifs
    · exact processSequence_frame config now gesture
    · exact ⟨rfl, .inl⟩

end Cantil.Gesture
