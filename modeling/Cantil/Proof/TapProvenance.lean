import Cantil.Firmware.GestureThreads

namespace Cantil.GestureThreads
open Gesture Library.Trace

/-- An observer counts state entries, and notes them at each tap. -/
structure Watched where
  system : System
  entries : Nat
  marks : List Nat
  deriving DecidableEq, Repr

variable (config : Config) (watched : Watched) (event : Event)

/-- A tap taken is marked. An empty accumulator has no marks. -/
def marksAfter (after : Machine) : Event → List Nat
  | .tapEnter _ =>
    if content after = content watched.system.gesture then watched.marks else watched.marks ++ [watched.entries]
  | _ => if Blank after then [] else watched.marks

def watch : Watched :=
  let after := step config watched.system event
  { system := after
    entries := if after.gesture.state = watched.system.gesture.state then watched.entries else watched.entries + 1
    marks := marksAfter watched after.gesture event }

def watchBoot (now : Nat) (storedSeq : Option (List UInt8)) (storedAttempts : Option UInt32) :
    Watched := ⟨boot config now storedSeq storedAttempts, 0, []⟩

/-- Evaluated taps were added after the state was entered. -/
def FromThisState : Prop :=
  (evaluated config watched.system event).isSome → ∀ mark ∈ watched.marks, mark = watched.entries

instance (config : Config) (watched : Watched) (event : Event) : Decidable (FromThisState config watched event) :=
  inferInstanceAs (Decidable (_ → _))

/-- Empty, or the callback before the reset is running. -/
def Cleared (system : System) : Prop := Blank system.gesture ∨ system.delivering = some .sequence

instance (system : System) : Decidable (Cleared system) := inferInstanceAs (Decidable (_ ∨ _))

/-- A timeout and an inactivity lock find no taps. -/
def LeavesNoTaps (system : System) : Event → Prop
  | .confirmTimeout => system.gesture.state = .awaitingConfirm → system.delivering = none → Blank system.gesture
  | .resetTimeout => system.gesture.state = .awaitingReset → system.delivering = none → Blank system.gesture
  | .pairTimeout => system.gesture.state = .awaitingPair → system.delivering = none → Blank system.gesture
  | .getState =>
    (gestureGetState config system.uptime system.gesture).state ≠ system.gesture.state → Cleared system
  | _ => True

instance (config : Config) (system : System) : (event : Event) → Decidable (LeavesNoTaps config system event)
  | .confirmTimeout => inferInstanceAs (Decidable (_ → _ → _))
  | .resetTimeout => inferInstanceAs (Decidable (_ → _ → _))
  | .pairTimeout => inferInstanceAs (Decidable (_ → _ → _))
  | .getState => inferInstanceAs (Decidable (_ → _))
  | .elapse _ | .tapGate _ | .tapEnter _ | .silenceTimeout | .delivered | .requestConfirm _ | .requestReset _
  | .requestPairConfirm _ | .setUnlockSeq _ _ | .resetInactivityTimer => instDecidableTrue

/-- The marks are new, or a reset is about to remove them. -/
def Fresh : Prop :=
  watched.system.delivering = some .sequence ∨ ∀ mark ∈ watched.marks, mark = watched.entries

/-- While the callback runs, the reset is still to come. -/
theorem step_cleared_of_delivering {system : System} {event : Event} (clearing : system.delivering = some .sequence) :
    Cleared (step config system event) := by
  have busy : system.delivering ≠ none := by
    rw [clearing]
    exact Option.some_ne_none _
  cases event with
  | delivered =>
    simp only [step, System.resume, clearing]
    exact .inl (blank_resetAccumulator _)
  | tapEnter index =>
    simp only [step]
    cases system.passed[index]? <;> exact .inr clearing
  | tapGate tap =>
    simp only [step]
    split_ifs <;> exact .inr clearing
  | silenceTimeout | confirmTimeout | resetTimeout | pairTimeout =>
    simp only [step, System.work, if_neg busy]
    exact .inr clearing
  | _ => exact .inr clearing

/-- A section leaves no taps behind, or stays in the state. -/
theorem step_settles {config : Config} {system : System} {event : Event} (leaves : LeavesNoTaps config system event)
    (settled : system.delivering ≠ some .sequence) :
    Cleared (step config system event) ∨ (step config system event).gesture.state = system.gesture.state := by
  cases event with
  | elapse milliseconds | resetInactivityTimer => exact .inr rfl
  | tapGate tap =>
    simp only [step]
    split_ifs <;> exact .inr rfl
  | tapEnter index =>
    simp only [step]
    cases system.passed[index]? with
    | none => exact .inr rfl
    | some tap => exact .inr (accumulateTap_state config system.gesture tap)
  | silenceTimeout =>
    simp only [step, System.work]
    split_ifs with free
    · unfold silenceSection
      cases called : closedSequence config system.gesture with
      | some closed => exact .inl (evaluate_blank config system.uptime closed).symm
      | none => exact .inr (fields_of_outside (silenceTimeoutFn_outside system.uptime called)).1
    · exact .inr rfl
  | confirmTimeout | resetTimeout | pairTimeout =>
    simp only [step, confirmTimeoutFn, resetTimeoutFn, pairTimeoutFn]
    split_ifs with awaiting
    · unfold System.work
      split_ifs with free
      · exact .inl (.inl (leaves awaiting free))
      · exact .inr rfl
    · rw [system.work_idle]
      exact .inr rfl
  | delivered =>
    right
    simp only [step, System.resume]
    split <;> rfl
  | requestConfirm callback | requestReset callback | requestPairConfirm callback =>
    simp only [step, gestureRequestConfirm, gestureRequestReset, gestureRequestPairConfirm]
    split_ifs
    any_goals exact .inr rfl
    exact .inl (.inl (blank_awaitTaps callback _ _))
  | setUnlockSeq sequence persisted =>
    right
    simp only [step, gestureSetUnlockSeq]
    split_ifs <;> rfl
  | getState =>
    by_cases same : (gestureGetState config system.uptime system.gesture).state = system.gesture.state
    · exact .inr same
    · left
      have blank : Blank system.gesture := (leaves same).resolve_right settled
      refine .inl ?_
      simp only [step, gestureGetState]
      split_ifs <;> exact blank

/-- The mark of a tap that enters carries the present entry. -/
theorem watch_tap_fresh {watched : Watched} (fresh : Fresh watched) (index : Nat) :
    Fresh (watch config watched (.tapEnter index)) := by
  have state : (step config watched.system (.tapEnter index)).gesture.state = watched.system.gesture.state := by
    simp only [step]
    cases watched.system.passed[index]? with
    | none => rfl
    | some tap => exact accumulateTap_state config watched.system.gesture tap
  have delivering : (step config watched.system (.tapEnter index)).delivering = watched.system.delivering := by
    simp only [step]
    cases watched.system.passed[index]? <;> rfl
  refine fresh.imp delivering.trans ?_
  intro current
  simp only [watch, marksAfter, state, if_true]
  split_ifs
  · exact current
  · intro mark marked
    rcases List.mem_append.mp marked with old | new
    · exact current mark old
    · exact List.mem_singleton.mp new

/-- One section. -/
theorem watch_fresh (leaves : LeavesNoTaps config watched.system event) (fresh : Fresh watched) :
    Fresh (watch config watched event) := by
  by_cases tap : ∃ index, event = .tapEnter index
  · obtain ⟨index, rfl⟩ := tap
    exact watch_tap_fresh config fresh index
  · have marks : (watch config watched event).marks =
        if Blank (step config watched.system event).gesture then [] else watched.marks := by
      cases event with
      | tapEnter index => exact absurd ⟨index, rfl⟩ tap
      | _ => rfl
    have settled : Cleared (step config watched.system event) ∨ (step config watched.system event).gesture.state =
        watched.system.gesture.state ∧ watched.system.delivering ≠ some .sequence := by
      by_cases clearing : watched.system.delivering = some .sequence
      · exact .inl (step_cleared_of_delivering config clearing)
      · exact (step_settles leaves clearing).imp_right fun same => ⟨same, clearing⟩
    rcases settled with (blank | delivering) | ⟨same, waiting⟩
    · right
      rw [marks, if_pos blank]
      exact List.forall_mem_nil _
    · exact .inl delivering
    · right
      have entries : (watch config watched event).entries = watched.entries := if_pos same
      rw [marks, entries]
      split_ifs
      · exact List.forall_mem_nil _
      · exact fresh.resolve_left waiting

/-- A sequence is evaluated while nothing is delivered. -/
theorem Fresh.fromThisState {config : Config} {watched : Watched} (fresh : Fresh watched) (event : Event) :
    FromThisState config watched event := by
  intro called
  have free : watched.system.delivering = none := by
    cases event with
    | silenceTimeout =>
      simp only [evaluated] at called
      split_ifs at called with free
      · exact free
      · cases called
    | _ => cases called
  refine fresh.resolve_left ?_
  rw [free]
  exact fun delivering => by cases delivering

/-- Taps are current unless a timeout meets pending ones. -/
theorem evaluated_taps_are_current (config : Config) (now : Nat) (storedSeq : Option (List UInt8))
    (storedAttempts : Option UInt32) (events : List Event)
    (leaves : ∀ visit ∈ visits (watch config) (watchBoot config now storedSeq storedAttempts) events,
      LeavesNoTaps config visit.1.system visit.2) :
    ∀ visit ∈ visits (watch config) (watchBoot config now storedSeq storedAttempts) events,
      FromThisState config visit.1 visit.2 := by
  intro visit visited
  obtain ⟨before, after, split, reached⟩ := (mem_visits_iff _ _ events visit.1 visit.2).mp visited
  have fresh : Fresh visit.1 := by
    rw [reached]
    exact prefix_invariant (watch config) Fresh (fun _ => True)
      (fun watched event => LeavesNoTaps config watched.system event)
      (fun watched event _ leaves => watch_fresh config watched event leaves) (fun _ _ => trivial) leaves
      (.inr (List.forall_mem_nil _)) split
  exact fresh.fromThisState visit.2

def watchedStart : Watched := watchBoot .default 0 (some [2]) none

/-- One digit to unlock, and a confirmation requested. -/
def confirmRequested : List Event :=
  [.tapGate .double, .tapEnter 0, .elapse 1500, .silenceTimeout, .elapse 1500, .silenceTimeout,
    .requestConfirm (.request 0)]

/-- The prompt times out untouched. -/
def untouchedRun : List Event := confirmRequested ++ [.elapse 10000, .confirmTimeout, .delivered]

theorem untouchedRun_leaves :
    (∀ visit ∈ visits (watch .default) watchedStart untouchedRun, LeavesNoTaps .default visit.1.system visit.2) ∧
      ∃ visit ∈ visits (watch .default) watchedStart untouchedRun,
        (evaluated .default visit.1.system visit.2).isSome ∧ visit.1.marks ≠ [] := by
  decide +kernel

/-- A sequence is evaluated, and its taps are current. -/
theorem untouchedRun_current :
    (∃ visit ∈ visits (watch .default) watchedStart untouchedRun,
      (evaluated .default visit.1.system visit.2).isSome ∧ visit.1.marks ≠ []) ∧
      ∀ visit ∈ visits (watch .default) watchedStart untouchedRun, FromThisState .default visit.1 visit.2 :=
  ⟨untouchedRun_leaves.2, evaluated_taps_are_current .default 0 (some [2]) none untouchedRun untouchedRun_leaves.1⟩

/-- A tap before the timeout, closed one second behind it. -/
def lateTapRun : List Event :=
  confirmRequested ++ [.elapse 8000, .tapGate .single, .tapEnter 0, .elapse 1500, .silenceTimeout, .elapse 500,
    .confirmTimeout, .delivered, .elapse 1000, .silenceTimeout]

/-- The tap of the prompt is taken as the lock command. -/
theorem lateTapRun_stale :
    (∃ visit ∈ visits (watch .default) watchedStart lateTapRun, ¬ FromThisState .default visit.1 visit.2 ∧
      visit.1.system.gesture.state = .unlocked) ∧
      (run (watch .default) watchedStart lateTapRun).system.gesture.state = .locked := by
  decide +kernel

end Cantil.GestureThreads
