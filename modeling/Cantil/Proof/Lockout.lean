import Cantil.Firmware.GestureThreads

namespace Cantil.GestureThreads
open Gesture Library.Trace

/-- A lockout is active. -/
def LockedOut (system : System) : Prop := system.uptime < system.gesture.lockoutUntilMs

instance (system : System) : Decidable (LockedOut system) := inferInstanceAs (Decidable (_ < _))

/-- The digits are compared with the unlock sequence. -/
def comparesUnlock (config : Config) (system : System) (event : Event) : Bool :=
  match evaluated config system event with
  | some closed => closed.state = .locked && !seqHasInvalid closed.digitBuf
  | none => false

/-- A prompt's timeout goes back to a locked-out machine. -/
def ReturnsLockedOut (system : System) : Prop :=
  system.delivering = none ∧ system.gesture.preAwaitState = .locked ∧ LockedOut system

instance (system : System) : Decidable (ReturnsLockedOut system) := inferInstanceAs (Decidable (_ ∧ _))

/-- No late tap, and no timeout into a lockout with taps pending. -/
def KeepsOut (system : System) : Event → Prop
  | .tapEnter index => index < system.passed.length → tapDropped system.uptime system.gesture = false
  | .resetTimeout => system.gesture.state = .awaitingReset → ReturnsLockedOut system → Blank system.gesture
  | .pairTimeout => system.gesture.state = .awaitingPair → ReturnsLockedOut system → Blank system.gesture
  | _ => True

instance (system : System) : (event : Event) → Decidable (KeepsOut system event)
  | .tapEnter _ => inferInstanceAs (Decidable (_ → _))
  | .resetTimeout => inferInstanceAs (Decidable (_ → _ → _))
  | .pairTimeout => inferInstanceAs (Decidable (_ → _ → _))
  | .elapse _ | .tapGate _ | .silenceTimeout | .confirmTimeout | .delivered | .requestConfirm _ | .requestReset _
  | .requestPairConfirm _ | .setUnlockSeq _ _ | .getState | .resetInactivityTimer => instDecidableTrue

/-- Where an active lockout can find the machine. -/
inductive Harmless (system : System) : Prop where
  | blank (locked : system.gesture.state = .locked) (blank : Blank system.gesture)
  | clearing (locked : system.gesture.state = .locked) (delivering : system.delivering = some .sequence)
  | reset (awaiting : system.gesture.state = .awaitingReset) (back : system.gesture.preAwaitState = .locked)
  | pair (awaiting : system.gesture.state = .awaitingPair) (back : system.gesture.preAwaitState = .locked)

/-- In a lockout the machine is harmless. -/
structure Guarded (system : System) : Prop where
  uptime_nonneg : 0 ≤ system.uptime
  harmless : LockedOut system → Harmless system

theorem Harmless.congr {before after : System} (harmless : Harmless before)
    (state : after.gesture.state = before.gesture.state)
    (back : after.gesture.preAwaitState = before.gesture.preAwaitState)
    (blank : Blank before.gesture → Blank after.gesture)
    (delivering : before.delivering = some .sequence → after.delivering = some .sequence) : Harmless after := by
  cases harmless with
  | blank locked clean => exact .blank (state.trans locked) (blank clean)
  | clearing locked sequence => exact .clearing (state.trans locked) (delivering sequence)
  | reset awaiting returns => exact .reset (state.trans awaiting) (back.trans returns)
  | pair awaiting returns => exact .pair (state.trans awaiting) (back.trans returns)

variable {system : System}

/-- Only a locked or prompting machine has an active lockout. -/
theorem Guarded.free (guarded : Guarded system) (locked : system.gesture.state ≠ .locked)
    (reset : system.gesture.state ≠ .awaitingReset) (pair : system.gesture.state ≠ .awaitingPair) :
    ¬ LockedOut system := by
  intro active
  cases guarded.harmless active with
  | blank here | clearing here => exact locked here
  | reset here => exact reset here
  | pair here => exact pair here

/-- Clock, lockout and place keep the guard. -/
theorem Guarded.of_eq {before after : System} (guarded : Guarded before) (uptime : after.uptime = before.uptime)
    (lockout : after.gesture.lockoutUntilMs = before.gesture.lockoutUntilMs)
    (harmless : LockedOut before → Harmless before → Harmless after) : Guarded after where
  uptime_nonneg := uptime ▸ guarded.uptime_nonneg
  harmless := by
    intro active
    have earlier : LockedOut before := by
      unfold LockedOut at active ⊢
      rwa [uptime, lockout] at active
    exact harmless earlier (guarded.harmless earlier)

section Sequence

variable (config : Config) (now : Int) (gesture : Machine)

/-- Only an evaluation in the locked state touches the lockout. -/
theorem processSequence_lockoutUntilMs (elsewhere : gesture.state ≠ .locked) :
    (processSequence config now gesture).1.lockoutUntilMs = gesture.lockoutUntilMs := by
  unfold processSequence
  cases state : gesture.state <;> dsimp only
  case locked => exact absurd state elsewhere
  all_goals try split_ifs
  all_goals rfl

/-- A prompt that is answered goes back to where it came from. -/
theorem processSequence_return (awaiting : gesture.state = .awaitingReset ∨ gesture.state = .awaitingPair) :
    (processSequence config now gesture).1.state = gesture.preAwaitState := by
  unfold processSequence
  rcases awaiting with state | state <;> rw [state] <;> dsimp only <;> split_ifs <;> rfl

/-- A lockout begins with a failure, which stays locked. -/
theorem processSequence_lockout_begins (nonneg : 0 ≤ now) (locked : gesture.state = .locked)
    (ended : ¬ now < gesture.lockoutUntilMs) (begins : now < (processSequence config now gesture).1.lockoutUntilMs) :
    (processSequence config now gesture).1.state = .locked ∧
      delivers (processSequence config now gesture).2 = false := by
  unfold processSequence at begins ⊢
  rw [locked] at begins ⊢
  dsimp only at begins ⊢
  by_cases entered : (!seqHasInvalid gesture.digitBuf && decide (gesture.digitBuf = gesture.unlockSeq)) = true
  · have cleared : ¬ now < (noteUnlockSuccess gesture).1.lockoutUntilMs := by
      unfold noteUnlockSuccess
      split_ifs
      · exact Int.not_lt.mpr nonneg
      · exact ended
    split_ifs at begins <;> exact absurd begins cleared
  · obtain ⟨_, failed⟩ := noteUnlockFailure_eq config now gesture
    rw [if_neg entered, failed]
    exact ⟨locked, rfl⟩

end Sequence

variable (config : Config)

variable (guarded : Guarded system)

include guarded

/-- In a lockout the gate drops the taps. -/
theorem tapDropped_of_lockedOut (active : LockedOut system)
    (locked : system.gesture.state = .locked) : tapDropped system.uptime system.gesture = true := by
  have positive : system.gesture.lockoutUntilMs ≠ 0 :=
    Int.ne_of_gt (Int.lt_of_le_of_lt guarded.uptime_nonneg active)
  have early : system.uptime < system.gesture.lockoutUntilMs := active
  simp [tapDropped, locked, unlockInLockout, positive, early]

/-- A tap that enters changes none of what the lockout is about. -/
theorem tapEnter_guarded (index : Nat) (keeps : KeepsOut system (.tapEnter index)) :
    Guarded (step config system (.tapEnter index)) := by
  simp only [step]
  cases found : system.passed[index]? with
  | none => exact guarded
  | some tap =>
    refine guarded.of_eq rfl (accumulateTap_lockoutUntilMs config system.gesture tap) ?_
    intro active harmless
    have entered : tapDropped system.uptime system.gesture = false :=
      keeps (List.getElem?_eq_some_iff.mp found).1
    have unlocked : system.gesture.state ≠ .locked := by
      intro locked
      rw [tapDropped_of_lockedOut guarded active locked] at entered
      cases entered
    cases harmless with
    | blank locked | clearing locked => exact absurd locked unlocked
    | reset awaiting back =>
      exact .reset ((accumulateTap_state config system.gesture tap).trans awaiting)
        ((accumulateTap_preAwaitState config system.gesture tap).trans back)
    | pair awaiting back =>
      exact .pair ((accumulateTap_state config system.gesture tap).trans awaiting)
        ((accumulateTap_preAwaitState config system.gesture tap).trans back)

/-- After an evaluation, a lockout finds a locked, blank machine. -/
theorem evaluate_guarded {config : Config} (free : system.delivering = none)
    {closed : Machine} (called : closedSequence config system.gesture = some closed) :
    Guarded { system with
      gesture := (evaluate config system.uptime closed).1
      delivering := (evaluate config system.uptime closed).2 } where
  uptime_nonneg := guarded.uptime_nonneg
  harmless := by
    intro active
    obtain ⟨state, back, _, lockout, _⟩ := fields_of_outside (closedSequence_outside called)
    obtain ⟨next, _, _, sounds, _⟩ := fields_of_outside (evaluate_outside config system.uptime closed)
    have running : system.uptime < (processSequence config system.uptime closed).1.lockoutUntilMs := by
      unfold LockedOut at active
      rwa [sounds] at active
    have locked : (processSequence config system.uptime closed).1.state = .locked := by
      by_cases before : LockedOut system
      · have awaiting : (system.gesture.state = .awaitingReset ∨ system.gesture.state = .awaitingPair) ∧
            system.gesture.preAwaitState = .locked := by
          cases guarded.harmless before with
          | blank _ blank =>
            rw [closedSequence_of_blank config blank] at called
            cases called
          | clearing _ delivering =>
            rw [free] at delivering
            cases delivering
          | reset here back => exact ⟨.inl here, back⟩
          | pair here back => exact ⟨.inr here, back⟩
        rw [processSequence_return config system.uptime closed (by rw [state]; exact awaiting.1), back]
        exact awaiting.2
      · have ended : ¬ system.uptime < closed.lockoutUntilMs := by
          rw [lockout]
          exact before
        by_cases here : closed.state = .locked
        · exact (processSequence_lockout_begins config system.uptime closed guarded.uptime_nonneg here ended running).1
        · rw [processSequence_lockoutUntilMs config system.uptime closed here] at running
          exact absurd running ended
    rcases evaluate_blank config system.uptime closed with delivering | blank
    · exact .clearing (next.trans locked) delivering
    · exact .blank (next.trans locked) blank

theorem silence_guarded : Guarded (step config system .silenceTimeout) := by
  simp only [step, System.work]
  split_ifs with free
  · unfold silenceSection
    cases called : closedSequence config system.gesture with
    | some closed => exact evaluate_guarded guarded free called
    | none =>
      obtain ⟨state, back, _, lockout, _⟩ := fields_of_outside (silenceTimeoutFn_outside system.uptime called)
      refine guarded.of_eq rfl lockout ?_
      intro _ harmless
      exact harmless.congr state back (silenceTimeoutFn_blank system.uptime)
        (fun delivering => absurd (free.symm.trans delivering) (by decide))
  · exact guarded

/-- A prompt that times out leaves the accumulator as it is. -/
theorem timeout_guarded (clean : ReturnsLockedOut system → Blank system.gesture)
    (awaiting : system.gesture.state = .awaitingReset ∨ system.gesture.state = .awaitingPair) :
    Guarded (system.work (timeoutSection
      (deliverConfirm (transition system.gesture system.gesture.preAwaitState) .timeout))) := by
  unfold System.work
  split_ifs with free
  · refine guarded.of_eq rfl rfl ?_
    intro active harmless
    have back : system.gesture.preAwaitState = .locked := by
      cases harmless with
      | blank locked | clearing locked => rcases awaiting with state | state <;> rw [state] at locked <;> cases locked
      | reset _ back | pair _ back => exact back
    exact .blank back (clean ⟨free, back, active⟩)
  · exact guarded

theorem confirmTimeout_guarded : Guarded (step config system .confirmTimeout) := by
  simp only [step, confirmTimeoutFn]
  split_ifs with awaiting
  · unfold System.work
    split_ifs
    · refine guarded.of_eq rfl rfl ?_
      intro active _
      have other := guarded.free (by rw [awaiting]; decide) (by rw [awaiting]; decide) (by rw [awaiting]; decide)
      exact absurd active other
    · exact guarded
  · rw [system.work_idle]
    exact guarded

/-- What only an unlocked machine does finds no active lockout. -/
theorem unlocked_guarded (unlocked : system.gesture.state = .unlocked) {gesture : Machine}
    (lockout : gesture.lockoutUntilMs = system.gesture.lockoutUntilMs) : Guarded (system.withGesture gesture) := by
  refine guarded.of_eq rfl lockout ?_
  intro active _
  have other := guarded.free (by rw [unlocked]; decide) (by rw [unlocked]; decide) (by rw [unlocked]; decide)
  exact absurd active other

/-- An accepted prompt remembers that the machine was locked. -/
theorem requested_guarded {callback : Callback} {outcome : Except RequestError Unit × Machine}
    (requested : Requested callback system.gesture outcome) : Guarded (system.withGesture outcome.2) := by
  cases requested with
  | refused => exact guarded
  | confirm unlocked => exact unlocked_guarded guarded unlocked rfl
  | prompt next awaiting rest =>
    rcases rest with unlocked | locked
    · exact unlocked_guarded guarded unlocked rfl
    · refine guarded.of_eq rfl rfl ?_
      intro _ _
      rcases awaiting with rfl | rfl
      · exact .reset rfl locked
      · exact .pair rfl locked

theorem resume_guarded : Guarded system.resume := by
  unfold System.resume
  cases stage : system.delivering with
  | none => exact guarded
  | some delivery =>
    cases delivery with
    | sequence =>
      refine guarded.of_eq rfl rfl ?_
      intro _ harmless
      cases harmless with
      | blank locked | clearing locked => exact .blank locked (blank_resetAccumulator _)
      | reset awaiting back => exact .reset awaiting back
      | pair awaiting back => exact .pair awaiting back
    | timeout =>
      refine guarded.of_eq rfl rfl ?_
      intro _ harmless
      cases harmless with
      | blank locked blank => exact .blank locked blank
      | clearing _ delivering =>
        rw [stage] at delivering
        cases delivering
      | reset awaiting back => exact .reset awaiting back
      | pair awaiting back => exact .pair awaiting back

omit guarded

/-- One section. -/
theorem step_guarded (system : System) (event : Event) (keeps : KeepsOut system event) (guarded : Guarded system) :
    Guarded (step config system event) := by
  cases event with
  | elapse milliseconds =>
    refine ⟨Int.add_nonneg guarded.uptime_nonneg (Int.natCast_nonneg _), ?_⟩
    intro active
    have earlier : LockedOut system :=
      Int.lt_of_le_of_lt (Int.le_add_of_nonneg_right (Int.natCast_nonneg milliseconds)) active
    exact (guarded.harmless earlier).congr rfl rfl id id
  | tapGate tap =>
    simp only [step]
    split_ifs
    · exact guarded
    · refine guarded.of_eq rfl rfl ?_
      intro _ harmless
      exact harmless.congr rfl rfl id id
  | tapEnter index => exact tapEnter_guarded config guarded index keeps
  | silenceTimeout => exact silence_guarded config guarded
  | confirmTimeout => exact confirmTimeout_guarded config guarded
  | resetTimeout | pairTimeout =>
    simp only [step, resetTimeoutFn, pairTimeoutFn]
    split_ifs with awaiting
    · exact timeout_guarded guarded (keeps awaiting) (by simp [awaiting])
    · rw [system.work_idle]
      exact guarded
  | delivered => exact resume_guarded guarded
  | requestConfirm callback => exact requested_guarded guarded (requestConfirm_requested callback system.gesture)
  | requestReset callback => exact requested_guarded guarded (requestReset_requested config callback system.gesture)
  | requestPairConfirm callback =>
    exact requested_guarded guarded (requestPairConfirm_requested callback system.gesture)
  | setUnlockSeq sequence persisted =>
    simp only [step, gestureSetUnlockSeq]
    split_ifs with malformed busy
    · exact guarded
    · exact guarded
    · exact unlocked_guarded guarded (not_not.mp busy) rfl
    · exact unlocked_guarded guarded (not_not.mp busy) rfl
  | getState =>
    simp only [step, gestureGetState]
    split_ifs with idle
    · exact unlocked_guarded guarded idle.1 rfl
    · exact guarded
  | resetInactivityTimer =>
    refine guarded.of_eq rfl rfl ?_
    intro _ harmless
    exact harmless.congr rfl rfl id id

/-- In an active lockout nothing is compared. -/
theorem Guarded.silent {config : Config} (guarded : Guarded system) (active : LockedOut system) (event : Event) :
    comparesUnlock config system event = false := by
  unfold comparesUnlock
  cases called : evaluated config system event with
  | none => rfl
  | some closed =>
    cases event with
    | silenceTimeout =>
      simp only [evaluated] at called
      split_ifs at called with free
      have state := (fields_of_outside (closedSequence_outside called)).1
      have elsewhere : closed.state ≠ .locked := by
        intro locked
        rw [state] at locked
        cases guarded.harmless active with
        | blank _ blank =>
          rw [closedSequence_of_blank config blank] at called
          cases called
        | clearing _ delivering =>
          rw [free] at delivering
          cases delivering
        | reset awaiting | pair awaiting =>
          rw [awaiting] at locked
          cases locked
      simp [elsewhere]
    | _ => cases called

theorem boot_guarded (now : Nat) (storedSeq : Option (List UInt8)) (storedAttempts : Option UInt32) :
    Guarded (boot config now storedSeq storedAttempts) where
  uptime_nonneg := Int.natCast_nonneg now
  harmless := fun _ => .blank rfl ⟨rfl, rfl, rfl⟩

/-- A lockout compares nothing where sections keep taps out. -/
theorem lockout_compares_nothing (config : Config) (now : Nat) (storedSeq : Option (List UInt8))
    (storedAttempts : Option UInt32) (events : List Event)
    (keeps : ∀ visit ∈ visits (step config) (boot config now storedSeq storedAttempts) events,
      KeepsOut visit.1 visit.2) :
    ∀ visit ∈ visits (step config) (boot config now storedSeq storedAttempts) events,
      LockedOut visit.1 → comparesUnlock config visit.1 visit.2 = false := by
  intro visit visited active
  obtain ⟨before, after, split, reached⟩ := (mem_visits_iff _ _ events visit.1 visit.2).mp visited
  have guarded : Guarded visit.1 := by
    rw [reached]
    exact prefix_invariant (step config) Guarded (fun _ => True) KeepsOut
      (fun system event _ kept => step_guarded config system event kept) (fun _ _ => trivial) keeps
      (boot_guarded config now storedSeq storedAttempts) split
  exact guarded.silent active visit.2

/-- One wrong digit, as the seventh failure. -/
def wrongDigit : List Event :=
  [.tapGate .single, .tapEnter 0, .elapse 1500, .silenceTimeout, .elapse 1500, .silenceTimeout]

def lockedStart : System := boot .default 0 (some [2]) (some 6)

/-- The next tap comes to the gate of a locked machine. -/
def droppedRun : List Event := wrongDigit ++ [.elapse 1000, .tapGate .double, .elapse 1500, .silenceTimeout]

theorem droppedRun_keeps : (∀ visit ∈ visits (step .default) lockedStart droppedRun, KeepsOut visit.1 visit.2) ∧
    ∃ visit ∈ visits (step .default) lockedStart droppedRun, visit.2 = .silenceTimeout ∧ LockedOut visit.1 := by
  decide +kernel

/-- A tap in a lockout is dropped, and nothing compared. -/
theorem droppedRun_compares_nothing :
    (∃ visit ∈ visits (step .default) lockedStart droppedRun, visit.2 = .silenceTimeout ∧ LockedOut visit.1) ∧
      ∀ visit ∈ visits (step .default) lockedStart droppedRun,
        LockedOut visit.1 → comparesUnlock .default visit.1 visit.2 = false :=
  ⟨droppedRun_keeps.2, lockout_compares_nothing .default 0 (some [2]) (some 6) droppedRun droppedRun_keeps.1⟩

/-- A prompt takes a tap two seconds before its timeout. -/
def promptedRun : List Event :=
  wrongDigit ++ [.requestPairConfirm (.request 0), .elapse 28000, .tapGate .double, .tapEnter 0, .elapse 1500,
    .silenceTimeout, .elapse 500, .pairTimeout, .delivered, .elapse 1000, .silenceTimeout]

/-- The sequence is compared during the lockout, and unlocks. -/
theorem promptedRun_compares :
    (∃ visit ∈ visits (step .default) lockedStart promptedRun,
      LockedOut visit.1 ∧ comparesUnlock .default visit.1 visit.2 = true) ∧
      (run (step .default) lockedStart promptedRun).gesture.state = .unlocked := by
  decide +kernel

end Cantil.GestureThreads
