import Cantil.Firmware.Appliance

namespace Cantil.Appliance
open Library Gesture GestureThreads Trace

/-- Files, gesture machine, and the rejections since the last unlock. -/
structure Unlocking where
  store : Store
  threads : GestureThreads.System
  rejected : Nat

/-- A section of the gesture machine, or a boot. -/
inductive UnlockEvent where
  | act (event : GestureThreads.Event)
  | reboot (now : Nat)

/-- The closed sequence is the stored one. -/
def Entered (closed : Machine) : Prop := seqHasInvalid closed.digitBuf = false ∧ closed.digitBuf = closed.unlockSeq

instance (closed : Machine) : Decidable (Entered closed) := inferInstanceAs (Decidable (_ ∧ _))

/-- Only what is evaluated in the locked state counts. -/
def tally (count : Nat) : Option Machine → Nat
  | some closed => if closed.state ≠ .locked then count else if Entered closed then 0 else count + 1
  | none => count

variable (config : Config) (unlocking : Unlocking)

/-- Every write succeeds. -/
def attempt : UnlockEvent → Unlocking
  | .act event => {
      store := (tapEffects config unlocking.threads event).foldl (persist ⟨.done, .done⟩) unlocking.store
      threads := GestureThreads.step config unlocking.threads event
      rejected := tally unlocking.rejected (evaluated config unlocking.threads event) }
  | .reboot now => { unlocking with
      threads := boot config now (storageUnlockSeqRead unlocking.store) (storageUnlockAttemptsRead unlocking.store) }

def firstBoot (store : Store) : Unlocking :=
  ⟨store, boot config 0 (storageUnlockSeqRead store) (storageUnlockAttemptsRead store), 0⟩

/-- The counter and its file hold the number of rejections. -/
structure Counted (unlocking : Unlocking) : Prop where
  counter : unlocking.threads.gesture.failureCount = UInt32.ofNat unlocking.rejected
  file : (storageUnlockAttemptsRead unlocking.store).getD 0 = UInt32.ofNat unlocking.rejected

/-- The event ends a sequence that a locked machine rejects. -/
def Rejects (config : Config) (threads : GestureThreads.System) (event : GestureThreads.Event) : Prop :=
  ∃ closed, evaluated config threads event = some closed ∧ closed.state = .locked ∧ ¬ Entered closed

section Sections

variable {config : Config} {now : Int} {closed : Machine} {system : GestureThreads.System} {unlocking : Unlocking}
variable {event : GestureThreads.Event}

theorem attempts_written (count : UInt32) (store : Store) :
    storageUnlockAttemptsRead (persist ⟨.done, .done⟩ store (.unlockAttemptsWrite count)) = some count := by
  have whole : (littleEndian 4 count.toNat).take 4 = littleEndian 4 count.toNat :=
    List.take_of_length_le (by simp)
  simp [persist, storageUnlockAttemptsWrite, storageUnlockAttemptsRead, SessionSlot.writeContent, whole,
    ofNat_littleEndian32]

theorem processSequence_counts {store : Store} {count : Nat} (counter : closed.failureCount = UInt32.ofNat count)
    (file : (storageUnlockAttemptsRead store).getD 0 = UInt32.ofNat count) :
    (processSequence config now closed).1.failureCount = UInt32.ofNat (tally count (some closed)) ∧
      (storageUnlockAttemptsRead ((processSequence config now closed).2.foldl (persist ⟨.done, .done⟩) store)).getD 0 =
        UInt32.ofNat (tally count (some closed)) := by
  unfold processSequence tally
  cases state : closed.state
  case locked =>
    simp only [state, ne_eq, not_true_eq_false, if_false]
    by_cases entered : Entered closed
    · rw [if_pos (by simpa [Entered] using entered)]
      by_cases clean : closed.failureCount = 0
      · rw [show noteUnlockSuccess closed = (closed, []) from if_neg (not_not.mpr clean)]
        split_ifs <;> exact ⟨clean, file.trans (counter.symm.trans clean)⟩
      · simp only [noteUnlockSuccess, ne_eq, clean, not_false_eq_true, if_true]
        split_ifs <;> exact ⟨rfl, congrArg (Option.getD · 0) (attempts_written 0 store)⟩
    · obtain ⟨_, failed⟩ := noteUnlockFailure_eq config now closed
      have more : closed.failureCount + 1 = UInt32.ofNat (count + 1) := by
        rw [counter, UInt32.ofNat_add]
        rfl
      rw [if_neg (by simpa [Entered] using entered), if_neg entered, failed, ← more]
      exact ⟨rfl, congrArg (Option.getD · 0) (attempts_written _ store)⟩
  all_goals
    simp only [state, ne_eq, reduceCtorEq, not_false_eq_true, if_true, deliverConfirm]
    repeat' split
    all_goals exact ⟨counter, file⟩

/-- The current machine with a closed accumulator. -/
theorem evaluated_outside (called : evaluated config system event = some closed) :
    resetAccumulator closed = resetAccumulator system.gesture ∧ event = .silenceTimeout ∧ system.delivering = none ∧
      closedSequence config system.gesture = some closed := by
  cases event with
  | silenceTimeout =>
    simp only [evaluated] at called
    split_ifs at called with free
    exact ⟨closedSequence_outside called, rfl, free, called⟩
  | _ => cases called

theorem step_evaluated (called : evaluated config system event = some closed) :
    resetAccumulator (GestureThreads.step config system event).gesture =
      resetAccumulator (processSequence config system.uptime closed).1 := by
  obtain ⟨_, rfl, free, found⟩ := evaluated_outside called
  simp only [GestureThreads.step, System.work, silenceSection, found, free, if_true]
  exact evaluate_outside config system.uptime closed

/-- Any other section leaves the counter and stores nothing. -/
theorem step_unevaluated (quiet : evaluated config system event = none) :
    (GestureThreads.step config system event).gesture.failureCount = system.gesture.failureCount ∧
      tapEffects config system event = [] := by
  cases event with
  | silenceTimeout =>
    refine ⟨?_, by simp only [tapEffects, quiet]⟩
    simp only [evaluated] at quiet
    simp only [GestureThreads.step, System.work, silenceSection]
    split_ifs at quiet ⊢
    · rw [quiet]
      exact (fields_of_outside (silenceTimeoutFn_outside system.uptime quiet)).2.2.2.2.2
    · rfl
  | tapEnter index =>
    simp only [GestureThreads.step, tapEffects, and_true]
    split
    · exact (fields_of_outside (accumulateTap_outside config system.gesture _)).2.2.2.2.2
    · rfl
  | _ =>
    simp only [GestureThreads.step, System.work, System.resume, System.withGesture, timeoutSection, tapEffects,
      confirmTimeoutFn, resetTimeoutFn, pairTimeoutFn, deliverConfirm, gestureRequestConfirm, gestureRequestReset,
      gestureRequestPairConfirm, gestureSetUnlockSeq, gestureGetState, gestureResetInactivityTimer, and_true]
    repeat' split
    all_goals rfl

theorem attempt_counted (event : UnlockEvent) (counted : Counted unlocking) :
    Counted (attempt config unlocking event) := by
  cases event with
  | reboot now => exact ⟨counted.file, counted.file⟩
  | act event =>
    rcases called : evaluated config unlocking.threads event with _ | closed
    · obtain ⟨counter, effects⟩ := step_unevaluated called
      exact ⟨by simpa [attempt, called, tally] using counter.trans counted.counter,
        by simpa [attempt, called, tally, effects] using counted.file⟩
    · obtain ⟨outside, rfl, _, _⟩ := evaluated_outside called
      have counter := (fields_of_outside (step_evaluated called)).2.2.2.2.2
      obtain ⟨counts, stored⟩ := @processSequence_counts config unlocking.threads.uptime closed _ _
        ((fields_of_outside outside).2.2.2.2.2.trans counted.counter) counted.file
      exact ⟨by simpa only [attempt, called] using counter.trans counts,
        by simpa only [attempt, called, tapEffects] using stored⟩

/-- A lockout is set when there were too many. -/
theorem rejection_lockout (rejected : ¬ Entered closed) (locked : closed.state = .locked) :
    (processSequence config now closed).1.lockoutUntilMs =
      if config.unlockRateLimitThreshold < closed.failureCount + 1 then
        now + lockoutSecondsForCount config (closed.failureCount + 1) * 1000
      else closed.lockoutUntilMs := by
  unfold processSequence
  rw [locked]
  dsimp only
  rw [if_neg (by simpa [Entered] using rejected), noteUnlockFailure]
  split_ifs <;> rfl

/-- A lockout grows with the count. -/
theorem lockoutSecondsForCount_mono {first second : UInt32} (above : config.unlockRateLimitThreshold < first)
    (later : first ≤ second) : lockoutSecondsForCount config first ≤ lockoutSecondsForCount config second := by
  unfold lockoutSecondsForCount
  split <;> split <;> grind

/-- The lockout of a rejection, by the number of those before it. -/
theorem Counted.lockout (counted : Counted unlocking) (few : unlocking.rejected + 1 < 2 ^ 32)
    {event : GestureThreads.Event} (rejects : Rejects config unlocking.threads event) :
    (GestureThreads.step config unlocking.threads event).gesture.lockoutUntilMs =
      if config.unlockRateLimitThreshold.toNat < unlocking.rejected + 1 then unlocking.threads.uptime +
        lockoutSecondsForCount config (UInt32.ofNat (unlocking.rejected + 1)) * 1000
      else unlocking.threads.gesture.lockoutUntilMs := by
  obtain ⟨closed, called, locked, rejected⟩ := rejects
  obtain ⟨_, _, _, lockout, _, counter⟩ := fields_of_outside (evaluated_outside called).1
  have fits : (UInt32.ofNat (unlocking.rejected + 1)).toNat = unlocking.rejected + 1 := UInt32.toNat_ofNat_of_lt' few
  have next : closed.failureCount + 1 = UInt32.ofNat (unlocking.rejected + 1) := by
    rw [counter, counted.counter, UInt32.ofNat_add]
    rfl
  simp only [(fields_of_outside (step_evaluated called)).2.2.2.1, rejection_lockout rejected locked, next,
    UInt32.lt_iff_toNat_lt, fits, lockout]

end Sections

/-- The stored count is that of the rejections, also across a boot. -/
theorem failures_accounted (store : Store) (fresh : (storageUnlockAttemptsRead store).getD 0 = 0)
    (events : List UnlockEvent) (few : (run (attempt config) (firstBoot config store) events).rejected + 1 < 2 ^ 32) :
    let reached := run (attempt config) (firstBoot config store) events
    ((storageUnlockAttemptsRead reached.store).getD 0).toNat = reached.rejected ∧
    (∀ event, Rejects config reached.threads event →
      (GestureThreads.step config reached.threads event).gesture.lockoutUntilMs =
        if config.unlockRateLimitThreshold.toNat < reached.rejected + 1 then reached.threads.uptime +
          lockoutSecondsForCount config (UInt32.ofNat (reached.rejected + 1)) * 1000
        else reached.threads.gesture.lockoutUntilMs) ∧
    (∀ first second, config.unlockRateLimitThreshold < first → first ≤ second →
      lockoutSecondsForCount config first ≤ lockoutSecondsForCount config second) ∧
    (∀ now, (attempt config reached (.reboot now)).threads.gesture.failureCount =
      reached.threads.gesture.failureCount) ∧
    -- Boots may be among the events between the two rejections, but no unlock that takes the count back.
    ∀ event between later, let further := run (attempt config) reached between
      Rejects config reached.threads event → Rejects config further.threads later →
      config.unlockRateLimitThreshold.toNat < reached.rejected + 1 → reached.rejected ≤ further.rejected →
      further.rejected + 1 < 2 ^ 32 →
        (GestureThreads.step config reached.threads event).gesture.lockoutUntilMs - reached.threads.uptime ≤
          (GestureThreads.step config further.threads later).gesture.lockoutUntilMs - further.threads.uptime := by
  intro reached
  have keeps := run_invariant (attempt config) Counted fun _ event => attempt_counted event
  have counted : Counted reached := keeps _ events ⟨fresh, fresh⟩
  refine ⟨?_, fun event rejects => counted.lockout few rejects, fun _ _ => lockoutSecondsForCount_mono,
    fun now => counted.file.trans counted.counter.symm, ?_⟩
  · rw [counted.file, UInt32.toNat_ofNat_of_lt' (Nat.lt_of_succ_lt few)]
  · intro event between later further rejects again many grown bounded
    have counts : Counted further := keeps _ between counted
    rw [counted.lockout few rejects, counts.lockout bounded again, if_pos many,
      if_pos (many.trans_le (Nat.succ_le_succ grown))]
    have longer := @lockoutSecondsForCount_mono config (UInt32.ofNat (reached.rejected + 1))
      (UInt32.ofNat (further.rejected + 1))
      (by rwa [UInt32.lt_iff_toNat_lt, UInt32.toNat_ofNat_of_lt' few])
      (by
        rw [UInt32.le_iff_toNat_le, UInt32.toNat_ofNat_of_lt' few, UInt32.toNat_ofNat_of_lt' bounded]
        exact Nat.succ_le_succ grown)
    omega

/-- One wrong sequence, and a boot behind it. -/
def wrongEntry : List UnlockEvent :=
  [.act (.tapGate .single), .act (.tapEnter 0), .act .silenceTimeout, .act .silenceTimeout, .reboot 0]

def newStore : Store := ⟨⟨⟨.empty, .valid, false⟩, .blank, ⟨[], fun _ => none, fun _ => none⟩⟩, none, none, none⟩

/-- The rejection is counted across the boot. -/
theorem wrongEntry_counted :
    (run (attempt .default) (firstBoot .default newStore) wrongEntry).rejected = 1 ∧
      ((storageUnlockAttemptsRead (run (attempt .default)
          (firstBoot .default newStore) wrongEntry).store).getD 0).toNat =
        (run (attempt .default) (firstBoot .default newStore) wrongEntry).rejected :=
  ⟨by decide +kernel, (failures_accounted .default newStore rfl wrongEntry (by decide +kernel)).1⟩

end Cantil.Appliance
