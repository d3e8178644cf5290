import Cantil.Firmware.MainLoop

namespace Cantil.MainLoop
open Gesture Protocol Library.Trace

variable (config : Config) (system : System) (state : GestureState) (conditions : Conditions) (cmd : UInt32)

/-- Three opcodes are exempt from the lock. -/
def exempt : Bool :=
  cmd = Command.deviceStatus.code || cmd = Command.updateFirmware.code ||
    cmd = Command.resetDevice.code

/-- A known opcode that neither earlier gate refuses. -/
def reachesLockGate : Bool :=
  (Command.ofCode cmd).isSome && identityGate conditions cmd = none &&
    volumeGate conditions cmd = none

/-- A gated body runs unlocked, others are answered. -/
def LockGated (event : Event) : Prop :=
  match event with
  | .request cmd conditions =>
    system.phase = .serving → exempt cmd = false →
      (((verdict config system conditions cmd).isExecuted = true →
        stateAtDispatch config system = .unlocked) ∧
      (reachesLockGate conditions cmd = true → stateAtDispatch config system ≠ .unlocked →
        verdict config system conditions cmd = .refused .busy ∨
          verdict config system conditions cmd = .refused .deviceLocked))
  | _ => True

instance (config : Config) (system : System) (event : Event) :
    Decidable (LockGated config system event) := by
  cases event <;> unfold LockGated <;> infer_instance

/-- What reaches the lock gate arrives in a resting state. -/
def ArrivesAtRest (event : Event) : Prop :=
  match event with
  | .request cmd conditions =>
    system.phase = .serving → exempt cmd = false → reachesLockGate conditions cmd = true →
      system.gesture.state = .locked ∨ system.gesture.state = .unlocked
  | _ => True

/-- The lock gate refuses a gated opcode in the locked state. -/
theorem lockGate_locked (gated : exempt cmd = false) : lockGate config .locked cmd = some .deviceLocked := by
  simp only [exempt, Bool.or_eq_false_iff, decide_eq_false_iff_not] at gated
  obtain ⟨⟨status, update⟩, reset⟩ := gated
  simp [lockGate, status, update, reset]

/-- The lock gate admits every opcode outside the locked state. -/
theorem lockGate_ne_locked (other : state ≠ .locked) : lockGate config state cmd = none := by
  simp [lockGate, other]

/-- Locked, a gated opcode is answered with the lock error. -/
theorem dispatch_locked (gated : exempt cmd = false) (reaches : reachesLockGate conditions cmd = true) :
    dispatch config .locked conditions cmd = .refused .deviceLocked := by
  simp only [reachesLockGate, Bool.and_eq_true, decide_eq_true_eq] at reaches
  obtain ⟨⟨_, identity⟩, volume⟩ := reaches
  simp [dispatch, gate, identity, volume, lockGate_locked config cmd gated]

/-- No gated body runs in the locked state. -/
theorem dispatch_locked_not_executed (gated : exempt cmd = false) :
    (dispatch config .locked conditions cmd).isExecuted = false := by
  unfold dispatch gate
  rw [lockGate_locked config cmd gated]
  cases identityGate conditions cmd with
  | some err => rfl
  | none =>
    cases volumeGate conditions cmd with
    | some err => rfl
    | none => rfl

/-- Otherwise no known opcode is refused as busy or locked. -/
theorem dispatch_transient (other : state ≠ .locked) (reaches : reachesLockGate conditions cmd = true) :
    dispatch config state conditions cmd ≠ .refused .busy ∧
      dispatch config state conditions cmd ≠ .refused .deviceLocked := by
  simp only [reachesLockGate, Bool.and_eq_true, decide_eq_true_eq] at reaches
  obtain ⟨⟨_, identity⟩, volume⟩ := reaches
  have admitted : gate config state conditions cmd =
      (provisionGate conditions cmd <|> mintGate conditions cmd) := by
    simp [gate, identity, volume, lockGate_ne_locked config state cmd other]
  unfold dispatch
  rw [admitted]
  unfold provisionGate mintGate
  split_ifs <;> cases Command.ofCode cmd <;> simp

/-- A body that runs has passed the two earlier gates. -/
theorem reachesLockGate_of_executed (ran : (dispatch config state conditions cmd).isExecuted = true) :
    reachesLockGate conditions cmd = true := by
  unfold dispatch gate at ran
  cases identity : identityGate conditions cmd with
  | some err => simp [identity, Dispatch.isExecuted] at ran
  | none =>
    cases volume : volumeGate conditions cmd with
    | some err => simp [identity, volume, Dispatch.isExecuted] at ran
    | none =>
      have known : (Command.ofCode cmd).isSome = true := by
        cases code : Command.ofCode cmd with
        | some command => rfl
        | none =>
          simp only [code] at ran
          split at ran <;> simp [Dispatch.isExecuted] at ran
      simp [reachesLockGate, identity, volume, known]

/-- The lock rule holds exactly when requests arrive at rest. -/
theorem lockGated_iff_arrivesAtRest (event : Event) : LockGated config system event ↔ ArrivesAtRest system event := by
  cases event with
  | request cmd conditions =>
    simp only [LockGated, ArrivesAtRest, verdict]
    constructor
    · intro rule serving gated reaches
      by_contra moving
      push Not at moving
      have read := stateAtDispatch_of_ne_unlocked config system moving.2
      have answers := (rule serving gated).2 reaches (by rw [read]; exact moving.2)
      rw [read] at answers
      have never := dispatch_transient config system.gesture.state conditions cmd moving.1 reaches
      exact answers.elim never.1 never.2
    · intro rest serving gated
      constructor
      · intro ran
        have reaches := reachesLockGate_of_executed config _ conditions cmd ran
        rcases stateAtDispatch_rest config system (rest serving gated reaches) with locked | unlocked
        · rw [locked, dispatch_locked_not_executed config conditions cmd gated] at ran
          exact absurd ran Bool.false_ne_true
        · exact unlocked
      · intro reaches notUnlocked
        rcases stateAtDispatch_rest config system (rest serving gated reaches) with locked | unlocked
        · rw [locked]
          exact .inr (dispatch_locked config conditions cmd gated reaches)
        · exact absurd unlocked notUnlocked
  | _ => simp [LockGated, ArrivesAtRest]

/-- The lock rule holds exactly when gated requests arrive at rest. -/
theorem run_lockGated_iff_arrivesAtRest (config : Config) (bootMs : Int)
    (storedSeq : Option (List UInt8)) (storedAttempts : Option UInt32) (events : List Event) :
    (∀ visit ∈ visits (step config) (boot config bootMs storedSeq storedAttempts) events,
      LockGated config visit.1 visit.2) ↔
    ∀ visit ∈ visits (step config) (boot config bootMs storedSeq storedAttempts) events,
      ArrivesAtRest visit.1 visit.2 := by
  apply forall_visits_congr (step config) (fun _ => True) (fun _ _ _ => trivial)
  · intro system event _
    exact lockGated_iff_arrivesAtRest config system event
  · trivial

/-- The factory sequence, and a signature before it is changed. -/
def forcedChangeRun : List Event :=
  [.tap .single, .silenceTimeout, .tap .single, .silenceTimeout, .tap .single, .silenceTimeout,
    .tap .single, .silenceTimeout, .silenceTimeout, .sessionOpen,
    .request Command.signCsr.code ⟨false, true, true, true⟩]

/-- A body runs in the forced change after the factory unlock. -/
theorem forcedChangeRun_signs_before_change :
    ¬ ∀ visit ∈ visits (step Config.default) (boot Config.default 0 none none) forcedChangeRun,
      LockGated Config.default visit.1 visit.2 := by
  decide

end Cantil.MainLoop
