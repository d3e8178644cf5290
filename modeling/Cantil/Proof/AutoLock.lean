import Cantil.Proof.LockGate

namespace Cantil.MainLoop
open Gesture Protocol Library.Trace

/-- The times an outside observer notes. Uptime milliseconds. -/
structure History where
  bootMs : Int
  lastHandledMs : Option Int
  lastUnlockMs : Option Int
  lastOpenMs : Option Int
  deriving DecidableEq, Repr

/-- A system with the times noted so far. -/
structure Observed where
  system : System
  history : History
  deriving DecidableEq, Repr

variable (config : Config) (observed : Observed) (now : Int) (event : Event)

/-- Handled, when `protocol_handle_one` returns 0. -/
def note (system : System) (history : History) : Event → History
  | .silenceTimeout =>
    if unlocks config system.uptime system.gesture then
      { history with lastUnlockMs := some system.uptime }
    else history
  | .sessionOpen =>
    if system.phase = .connecting then { history with lastOpenMs := some system.uptime }
    else history
  | .malformed =>
    if system.phase = .serving then { history with lastHandledMs := some system.uptime }
    else history
  | .finish sent =>
    if system.phase = .handling ∧ sent then { history with lastHandledMs := some system.uptime }
    else history
  | _ => history

def observe : Observed :=
  ⟨step config observed.system event, note config observed.system observed.history event⟩

def observeBoot (storedSeq : Option (List UInt8)) (storedAttempts : Option UInt32) : Observed :=
  ⟨boot config now storedSeq storedAttempts, ⟨now, none, none, none⟩⟩

def timeoutMs : Int := config.inactivityTimeoutSec * 1000

/-- Nothing was noted, or the timeout has passed since. -/
def lapsed : Option Int → Prop
  | some time => timeoutMs config ≤ now - time
  | none => True

instance (config : Config) (now : Int) : (time : Option Int) → Decidable (lapsed config now time)
  | some _ => Int.decLe _ _
  | none => instDecidableTrue

/-- No request and no unlock is younger than the timeout. -/
def Inactive : Prop :=
  lapsed config observed.system.uptime observed.history.lastHandledMs ∧
    lapsed config observed.system.uptime observed.history.lastUnlockMs

instance (config : Config) (observed : Observed) : Decidable (Inactive config observed) := instDecidableAnd

/-- The lock gate applies to this opcode. -/
def lockGatedCmd (cmd : UInt32) : Prop := lockGate config .locked cmd ≠ none

instance (config : Config) (cmd : UInt32) : Decidable (lockGatedCmd config cmd) :=
  inferInstanceAs (Decidable (_ ≠ _))

/-- Every gate but the lock gate admits the opcode. -/
def admittedElsewhere (conditions : Conditions) (cmd : UInt32) : Prop :=
  reachesLockGate conditions cmd = true ∧ provisionGate conditions cmd = none ∧
    mintGate conditions cmd = none

/-- No gated body runs after the timeout. -/
def AutoLocked : Prop :=
  match event with
  | .request cmd conditions =>
    observed.system.phase = .serving → lockGatedCmd config cmd → Inactive config observed →
      (verdict config observed.system conditions cmd).isExecuted = false
  | _ => True

/-- Past the timeout no gated request meets a fresh session. -/
def NoFreshSession : Prop :=
  match event with
  | .request cmd conditions =>
    observed.system.phase = .serving → lockGatedCmd config cmd →
      admittedElsewhere conditions cmd → Inactive config observed →
      observed.system.gesture.state = .locked ∨
        observed.system.gesture.state = .unlocked ∧
          lapsed config observed.system.uptime observed.history.lastOpenMs
  | _ => True

/-- A noted time lies at or before a bound. -/
def notAfter (bound : Int) : Option Int → Prop
  | some time => time ≤ bound
  | none => True

theorem notAfter_mono {early late : Int} {time : Option Int} (ordered : early ≤ late)
    (before : notAfter early time) : notAfter late time := by
  cases time with
  | none => trivial
  | some time => exact Int.le_trans before ordered

/-- The activity is the youngest of boot, request, session. -/
structure Timely (observed : Observed) : Prop where
  handled : notAfter observed.system.gesture.lastActivityMs observed.history.lastHandledMs
  opened : notAfter observed.system.gesture.lastActivityMs observed.history.lastOpenMs
  past : observed.system.gesture.lastActivityMs ≤ observed.system.uptime
  source : observed.system.gesture.lastActivityMs = observed.history.bootMs ∨
    observed.history.lastHandledMs = some observed.system.gesture.lastActivityMs ∨
    observed.history.lastOpenMs = some observed.system.gesture.lastActivityMs
  booted : observed.history.bootMs ≤ observed.system.uptime
  unlocked : AfterUnlock observed.system.gesture →
    ∃ time, observed.history.lastUnlockMs = some time ∧ observed.history.bootMs ≤ time

theorem observeBoot_timely (storedSeq : Option (List UInt8)) (storedAttempts : Option UInt32) :
    Timely (observeBoot config now storedSeq storedAttempts) where
  handled := trivial
  opened := trivial
  past := Int.le_refl now
  source := .inl rfl
  booted := Int.le_refl now
  unlocked after := by
    rcases after with ⟨locked, _⟩ | before
    · exact absurd rfl locked
    · exact absurd rfl before

variable {observed : Observed}

/-- A step that keeps the activity time and unlocks nothing. -/
theorem Timely.withGesture (timely : Timely observed) (gesture : Machine)
    (activity : gesture.lastActivityMs = observed.system.gesture.lastActivityMs)
    (unlocked : AfterUnlock gesture → AfterUnlock observed.system.gesture) :
    Timely ⟨observed.system.withGesture gesture, observed.history⟩ where
  handled := by simpa [System.withGesture, activity] using timely.handled
  opened := by simpa [System.withGesture, activity] using timely.opened
  past := by simpa [System.withGesture, activity] using timely.past
  source := by simpa [System.withGesture, activity] using timely.source
  booted := timely.booted
  unlocked after := timely.unlocked (unlocked after)

/-- A restart of the timer is timely when the history notes it. -/
theorem Timely.refresh (timely : Timely observed) (history : History) (phase : Phase)
    (bootMs : history.bootMs = observed.history.bootMs)
    (lastUnlockMs : history.lastUnlockMs = observed.history.lastUnlockMs)
    (noted : history.lastHandledMs = some observed.system.uptime ∧ history.lastOpenMs = observed.history.lastOpenMs ∨
      history.lastHandledMs = observed.history.lastHandledMs ∧ history.lastOpenMs = some observed.system.uptime) :
    Timely ⟨{ observed.system.refresh with phase := phase }, history⟩ where
  handled := by
    rcases noted with ⟨handled, _⟩ | ⟨handled, _⟩
    · rw [handled]
      exact Int.le_refl _
    · rw [handled]
      exact notAfter_mono timely.past timely.handled
  opened := by
    rcases noted with ⟨_, opened⟩ | ⟨_, opened⟩
    · rw [opened]
      exact notAfter_mono timely.past timely.opened
    · rw [opened]
      exact Int.le_refl _
  past := Int.le_refl _
  source := by
    rcases noted with ⟨handled, _⟩ | ⟨_, opened⟩
    · exact .inr (.inl handled)
    · exact .inr (.inr opened)
  booted := by
    rw [bootMs]
    exact timely.booted
  unlocked after := by
    rw [bootMs, lastUnlockMs]
    exact timely.unlocked after

/-- A change of the phase alone keeps the times. -/
theorem Timely.withPhase {system : System} {history : History} (timely : Timely ⟨system, history⟩)
    (phase : Phase) : Timely ⟨{ system with phase := phase }, history⟩ :=
  ⟨timely.handled, timely.opened, timely.past, timely.source, timely.booted, timely.unlocked⟩

/-- The lock after inactivity keeps the times. -/
theorem Timely.getState (timely : Timely observed) (config : Config) :
    Timely ⟨observed.system.withGesture
      (gestureGetState config observed.system.uptime observed.system.gesture), observed.history⟩ := by
  apply timely.withGesture
  · unfold gestureGetState
    dsimp only
    split_ifs <;> rfl
  · unfold gestureGetState
    dsimp only
    split_ifs with idle
    · rintro (⟨locked, _⟩ | before)
      · exact absurd rfl locked
      · exact .inr before
    · exact id

variable (config : Config)

/-- Requested in the unlocked state, or the left state is kept. -/
theorem requested_afterUnlock {callback : Callback} {gesture : Machine} {outcome : Except RequestError Unit × Machine}
    (requested : Requested callback gesture outcome) (after : AfterUnlock outcome.2) : AfterUnlock gesture := by
  cases requested with
  | refused => exact after
  | confirm unlocked => exact .inl (by simp [unlocked])
  | prompt next awaiting rest =>
    rcases after with ⟨_, notReset, notPair⟩ | before
    · exact absurd awaiting (not_or.mpr ⟨notReset, notPair⟩)
    · exact .inl (by simp [rest.resolve_right before])

theorem Timely.requested (timely : Timely observed) {callback : Callback}
    {outcome : Except RequestError Unit × Machine} (requested : Requested callback observed.system.gesture outcome) :
    Timely ⟨observed.system.withGesture outcome.2, observed.history⟩ := by
  refine timely.withGesture outcome.2 ?_ (requested_afterUnlock requested)
  cases requested <;> rfl

/-- The silence timer notes an unlock at the present moment. -/
theorem Timely.silence (timely : Timely observed) (config : Config) :
    Timely (observe config observed .silenceTimeout) := by
  have frame := silenceTimeoutFn_frame config observed.system.uptime observed.system.gesture
  by_cases unlock : unlocks config observed.system.uptime observed.system.gesture = true
  · have noted : (observe config observed .silenceTimeout).history =
        { observed.history with lastUnlockMs := some observed.system.uptime } := by
      simp [observe, note, unlock]
    have moved := timely.withGesture
      { (silenceTimeoutFn config observed.system.uptime observed.system.gesture).1 with
        state := .locked, preAwaitState := .locked } frame.1 (by
          rintro (⟨locked, _⟩ | before)
          · exact absurd rfl locked
          · exact absurd rfl before)
    have shape : observe config observed .silenceTimeout =
        ⟨(observe config observed .silenceTimeout).system,
          { observed.history with lastUnlockMs := some observed.system.uptime }⟩ := by
      rw [← noted]
    rw [shape]
    exact ⟨moved.handled, moved.opened, moved.past, moved.source, moved.booted,
      fun _ => ⟨observed.system.uptime, rfl, timely.booted⟩⟩
  · have noted : (observe config observed .silenceTimeout).history = observed.history := by
      simp [observe, note, unlock]
    have moved := timely.withGesture
      (silenceTimeoutFn config observed.system.uptime observed.system.gesture).1 frame.1
      (fun after => (frame.2 after).resolve_right unlock)
    have shape : observe config observed .silenceTimeout =
        ⟨(observe config observed .silenceTimeout).system, observed.history⟩ := by
      rw [← noted]
    rw [shape]
    exact moved

/-- Every step keeps the times. -/
theorem observe_timely (observed : Observed) (event : Event) (timely : Timely observed) :
    Timely (observe config observed event) := by
  cases event with
  | elapse milliseconds =>
    exact ⟨timely.handled, timely.opened,
      Int.le_trans timely.past (Int.le_add_of_nonneg_right (Int.natCast_nonneg _)), timely.source,
      Int.le_trans timely.booted (Int.le_add_of_nonneg_right (Int.natCast_nonneg _)),
      timely.unlocked⟩
  | tap tap =>
    apply timely.withGesture
    · unfold gestureReportTap
      split_ifs <;> simp
    · unfold gestureReportTap
      split_ifs <;> simp [AfterUnlock]
  | silenceTimeout => exact timely.silence config
  | confirmTimeout =>
    apply timely.withGesture
    · unfold confirmTimeoutFn
      split_ifs <;> rfl
    · unfold confirmTimeoutFn
      split_ifs with awaiting
      · exact fun _ => .inl (by simp [awaiting])
      · exact id
  | resetTimeout | pairTimeout =>
    apply timely.withGesture
    · simp only [resetTimeoutFn, pairTimeoutFn]
      split_ifs <;> rfl
    · simp only [resetTimeoutFn, pairTimeoutFn]
      split_ifs
      · exact afterUnlock_return
      · exact id
  | requestConfirm callback => exact timely.requested (requestConfirm_requested callback observed.system.gesture)
  | requestReset callback => exact timely.requested (requestReset_requested config callback observed.system.gesture)
  | requestPairConfirm callback =>
    exact timely.requested (requestPairConfirm_requested callback observed.system.gesture)
  | setUnlockSeq sequence persisted =>
    apply timely.withGesture
    · unfold gestureSetUnlockSeq
      split_ifs <;> rfl
    · unfold gestureSetUnlockSeq
      split_ifs <;> exact id
  | pollState => exact timely.getState config
  | sessionOpen =>
    simp only [observe, step, note]
    split_ifs with connecting
    · exact timely.refresh _ .serving rfl rfl (.inr ⟨rfl, rfl⟩)
    · exact timely
  | sessionClose =>
    simp only [observe, step, note]
    split_ifs
    · exact timely.withPhase .connecting
    · exact timely
  | malformed =>
    simp only [observe, step, note]
    split_ifs
    · exact timely.refresh _ observed.system.phase rfl rfl (.inl ⟨rfl, rfl⟩)
    · exact timely
  | request cmd conditions =>
    simp only [observe, step, note]
    split_ifs
    · exact (timely.getState config).withPhase .handling
    · exact timely
  | finish sent =>
    simp only [observe, step, note]
    by_cases handling : observed.system.phase = .handling
    · cases sent with
      | true =>
        simp only [handling, if_true, and_self]
        exact timely.refresh _ .serving rfl rfl (.inl ⟨rfl, rfl⟩)
      | false =>
        simp only [handling, if_true, Bool.false_eq_true, and_false, if_false]
        exact timely.withPhase .connecting
    · simp only [handling, if_false, false_and]
      exact timely

/-- A body runs exactly when every gate admits it. -/
theorem isExecuted_iff (state : GestureState) (conditions : Conditions) (cmd : UInt32) :
    (dispatch config state conditions cmd).isExecuted = true ↔
      admittedElsewhere conditions cmd ∧ lockGate config state cmd = none := by
  constructor
  · intro ran
    have reaches := reachesLockGate_of_executed config state conditions cmd ran
    have admitted := reaches
    simp only [reachesLockGate, Bool.and_eq_true, decide_eq_true_eq] at admitted
    obtain ⟨⟨_, identity⟩, volume⟩ := admitted
    simp only [dispatch, gate, identity, volume, Option.orElse_eq_orElse, Option.orElse_none] at ran
    cases lock : lockGate config state cmd with
    | some err => simp [lock, Dispatch.isExecuted] at ran
    | none =>
      cases provision : provisionGate conditions cmd with
      | some err => simp [lock, provision, Dispatch.isExecuted] at ran
      | none =>
        cases mint : mintGate conditions cmd with
        | some err => simp [lock, provision, mint, Dispatch.isExecuted] at ran
        | none => exact ⟨⟨reaches, provision, mint⟩, rfl⟩
  · rintro ⟨⟨reaches, provision, mint⟩, lock⟩
    simp only [reachesLockGate, Bool.and_eq_true, decide_eq_true_eq] at reaches
    obtain ⟨⟨known, identity⟩, volume⟩ := reaches
    obtain ⟨command, code⟩ := Option.isSome_iff_exists.mp known
    simp [dispatch, gate, identity, volume, lock, provision, mint, code, Dispatch.isExecuted]

/-- A gated opcode passes exactly outside the locked state. -/
theorem lockGate_eq_none_iff (state : GestureState) (cmd : UInt32) (gated : lockGatedCmd config cmd) :
    lockGate config state cmd = none ↔ state ≠ .locked := by
  constructor
  · rintro admitted rfl
    exact gated admitted
  · exact lockGate_ne_locked config state cmd

/-- Unlocked but not refreshed in time is read as locked. -/
theorem Timely.reads_locked (timely : Timely observed) (config : Config)
    (unlocked : observed.system.gesture.state = .unlocked) (inactive : Inactive config observed)
    (opened : lapsed config observed.system.uptime observed.history.lastOpenMs) :
    stateAtDispatch config observed.system = .locked := by
  have idle : observed.system.uptime - observed.system.gesture.lastActivityMs ≥
      config.inactivityTimeoutSec * 1000 := by
    rcases timely.source with boot | handled | openedAt
    · obtain ⟨time, noted, late⟩ := timely.unlocked (.inl (by simp [unlocked]))
      have passed := inactive.2
      rw [noted] at passed
      simp only [lapsed, timeoutMs] at passed
      omega
    · have passed := inactive.1
      rw [handled] at passed
      exact passed
    · rw [openedAt] at opened
      exact opened
  rw [stateAtDispatch_of_unlocked config observed.system unlocked, if_pos idle]

/-- A machine that locks was not refreshed within the timeout. -/
theorem Timely.lapsed_open (timely : Timely observed) (config : Config)
    (idle : observed.system.uptime - observed.system.gesture.lastActivityMs ≥ config.inactivityTimeoutSec * 1000) :
    lapsed config observed.system.uptime observed.history.lastOpenMs := by
  have before := timely.opened
  cases opened : observed.history.lastOpenMs with
  | none => trivial
  | some time =>
    simp only [opened, notAfter] at before
    simp only [lapsed, timeoutMs]
    omega

/-- The auto-lock holds exactly when no fresh session hides it. -/
theorem autoLocked_iff_noFreshSession (observed : Observed) (event : Event) (timely : Timely observed) :
    AutoLocked config observed event ↔ NoFreshSession config observed event := by
  cases event with
  | request cmd conditions =>
    simp only [AutoLocked, NoFreshSession, verdict]
    constructor
    · intro rule serving gated admitted inactive
      have refused := rule serving gated inactive
      have locked : stateAtDispatch config observed.system = .locked := by
        by_contra other
        have ran := (isExecuted_iff config _ conditions cmd).mpr
          ⟨admitted, (lockGate_eq_none_iff config _ cmd gated).mpr other⟩
        rw [refused] at ran
        exact Bool.false_ne_true ran
      by_cases unlocked : observed.system.gesture.state = .unlocked
      · rw [stateAtDispatch_of_unlocked config observed.system unlocked] at locked
        split at locked
        case isTrue idle => exact .inr ⟨unlocked, timely.lapsed_open config idle⟩
        case isFalse => cases locked
      · rw [stateAtDispatch_of_ne_unlocked config observed.system unlocked] at locked
        exact .inl locked
    · intro rule serving gated inactive
      by_contra ran
      rw [Bool.not_eq_false] at ran
      obtain ⟨admitted, lock⟩ := (isExecuted_iff config _ conditions cmd).mp ran
      have notLocked := (lockGate_eq_none_iff config _ cmd gated).mp lock
      rcases rule serving gated admitted inactive with locked | ⟨unlocked, opened⟩
      · apply notLocked
        rw [stateAtDispatch_of_ne_unlocked config observed.system (by simp [locked]), locked]
      · exact notLocked (timely.reads_locked config unlocked inactive opened)
  | _ => simp [AutoLocked, NoFreshSession]

/-- The auto-lock holds unless a late request meets a fresh session. -/
theorem run_autoLocked_iff_noFreshSession (config : Config) (bootMs : Int)
    (storedSeq : Option (List UInt8)) (storedAttempts : Option UInt32) (events : List Event) :
    (∀ visit ∈ visits (observe config) (observeBoot config bootMs storedSeq storedAttempts) events,
      AutoLocked config visit.1 visit.2) ↔
    ∀ visit ∈ visits (observe config) (observeBoot config bootMs storedSeq storedAttempts) events,
      NoFreshSession config visit.1 visit.2 := by
  apply forall_visits_congr (observe config) Timely (observe_timely config)
  · intro observed event timely
    exact autoLocked_iff_noFreshSession config observed event timely
  · exact observeBoot_timely config bootMs storedSeq storedAttempts

instance (config : Config) (observed : Observed) :
    (event : Event) → Decidable (AutoLocked config observed event)
  | .request _ _ => inferInstanceAs (Decidable (_ → _ → _ → _ = _))
  | .elapse _ | .tap _ | .silenceTimeout | .confirmTimeout | .resetTimeout | .pairTimeout | .requestConfirm _
  | .requestReset _ | .requestPairConfirm _ | .setUnlockSeq _ _ | .pollState | .sessionOpen | .sessionClose
  | .malformed | .finish _ => instDecidableTrue

/-- An unlock, one request, and the host back after an hour. -/
def reconnectRun : List Event :=
  [.tap .double, .silenceTimeout, .silenceTimeout, .sessionOpen,
    .request Command.deviceStatus.code ⟨false, true, true, true⟩, .finish true, .elapse 2000,
    .sessionClose, .elapse 3600000, .sessionOpen,
    .request Command.signCsr.code ⟨false, true, true, true⟩]

/-- The new session hides an hour of inactivity. -/
theorem reconnectRun_signs_after_timeout :
    ¬ ∀ visit ∈ visits (observe Config.default) (observeBoot Config.default 0 (some [2]) none)
      reconnectRun, AutoLocked Config.default visit.1 visit.2 := by
  decide

end Cantil.MainLoop
