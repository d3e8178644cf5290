import Cantil.Firmware.Confirmations

namespace Cantil.Confirmations
open Gesture Library.Trace
open GestureThreads (Blank content closedSequence silenceSection evaluate)

/-- A prompt waits for its answer. -/
def Awaiting (state : GestureState) : Prop :=
  state = .awaitingConfirm ∨ state = .awaitingReset ∨ state = .awaitingPair

instance (state : GestureState) : Decidable (Awaiting state) := inferInstanceAs (Decidable (_ ∨ _ ∨ _))

/-- What a section without a request can do to the prompt. -/
inductive Moves (before after : Machine) : List (Callback × ConfirmResult) → Prop
  | stays (state : after.state = before.state) (pending : after.pendingCb = before.pendingCb)
      (back : after.preAwaitState = before.preAwaitState) : Moves before after []
  | rests (was : ¬ Awaiting before.state) (now : ¬ Awaiting after.state)
      (pending : after.pendingCb = before.pendingCb) (back : after.preAwaitState = before.preAwaitState) :
      Moves before after []
  | rehearses (was : ¬ Awaiting before.state) (now : Awaiting after.state)
      (pending : after.pendingCb = some .rehearsal) (back : after.preAwaitState = before.preAwaitState) :
      Moves before after []
  | answers (result : ConfirmResult) (was : Awaiting before.state) (now : ¬ Awaiting after.state)
      (pending : after.pendingCb = none) (back : after.preAwaitState = before.preAwaitState) :
      Moves before after (before.pendingCb.toList.map fun callback => (callback, result))

/-- What an accepted request leaves. -/
structure Accepted (callback : Callback) (before after : Machine) : Prop where
  was : before.state = .unlocked ∨ before.state = .locked
  free : before.pendingCb = none
  now : Awaiting after.state
  pending : after.pendingCb = some callback
  back : after.preAwaitState = before.preAwaitState ∨ after.preAwaitState = before.state
  blank : Blank after

section Sections

variable {config : Config} {gesture : Machine} {system : System} {event : Event} {callback : Callback}

theorem invocations_deliverConfirm (gesture : Machine) (result : ConfirmResult) :
    invocations (deliverConfirm gesture result).2 =
      gesture.pendingCb.toList.map fun callback => (callback, result) := by
  unfold deliverConfirm
  cases gesture.pendingCb <;> rfl

/-- A prompt ends and calls back. -/
theorem deliverConfirm_moves {next : GestureState} (result : ConfirmResult) (was : Awaiting gesture.state)
    (now : ¬ Awaiting next) :
    Moves gesture (deliverConfirm (transition gesture next) result).1
      (invocations (deliverConfirm (transition gesture next) result).2) := by
  rw [invocations_deliverConfirm]
  exact .answers result was now rfl rfl

theorem invocations_noteUnlockSuccess (gesture : Machine) : invocations (noteUnlockSuccess gesture).2 = [] := by
  unfold noteUnlockSuccess
  split_ifs <;> rfl

/-- An evaluated sequence. -/
theorem processSequence_moves (config : Config) (now : Int) (rested : ¬ Awaiting gesture.preAwaitState) :
    Moves gesture (processSequence config now gesture).1 (invocations (processSequence config now gesture).2) := by
  unfold processSequence
  cases state : gesture.state <;> dsimp only
  case locked =>
    obtain ⟨_, failed⟩ := noteUnlockFailure_eq config now gesture
    obtain ⟨_, _, noted⟩ := noteUnlockSuccess_eq gesture
    rw [failed, noted]
    split_ifs
    · rw [invocations_noteUnlockSuccess]
      exact .rests (by simp [Awaiting, state]) (by simp [Awaiting]) rfl rfl
    · rw [invocations_noteUnlockSuccess]
      exact .rests (by simp [Awaiting, state]) (by simp [Awaiting]) rfl rfl
    · exact .stays rfl rfl rfl
  case unlocked =>
    have was : ¬ Awaiting gesture.state := by simp [Awaiting, state]
    split_ifs
    · exact .stays rfl rfl rfl
    · exact .rests was (by simp [Awaiting]) rfl rfl
    · exact .rests was (by simp [Awaiting]) rfl rfl
    · exact .rests was (by simp [Awaiting]) rfl rfl
    · exact .rehearses was (by simp [Awaiting]) rfl rfl
    · exact .rehearses was (by simp [Awaiting]) rfl rfl
    · exact .stays rfl rfl rfl
  case changeSeqConfirm =>
    split_ifs
    · exact .stays rfl rfl rfl
    · exact .rests (by simp [Awaiting, state]) (by simp [Awaiting]) rfl rfl
    · exact .stays rfl rfl rfl
  case changeSeqVerify =>
    split_ifs <;> exact .rests (by simp [Awaiting, state]) (by simp [Awaiting]) rfl rfl
  case awaitingConfirm =>
    split_ifs <;> exact deliverConfirm_moves _ (by simp [Awaiting, state]) (by simp [Awaiting])
  case awaitingReset | awaitingPair =>
    split_ifs <;> exact deliverConfirm_moves _ (by simp [Awaiting, state]) rested
  case pairing => exact .stays rfl rfl rfl

/-- As far as the prompt goes, an evaluation changes nothing. -/
theorem Moves.congr {before closed after later : Machine} {invoked : List (Callback × ConfirmResult)}
    (moves : Moves closed after invoked) (state : closed.state = before.state)
    (pending : closed.pendingCb = before.pendingCb) (back : closed.preAwaitState = before.preAwaitState)
    (stateAfter : later.state = after.state) (pendingAfter : later.pendingCb = after.pendingCb)
    (backAfter : later.preAwaitState = after.preAwaitState) : Moves before later invoked := by
  cases moves with
  | stays same kept behind =>
    exact .stays (stateAfter.trans (same.trans state)) (pendingAfter.trans (kept.trans pending))
      (backAfter.trans (behind.trans back))
  | rests was now kept behind =>
    exact .rests (state ▸ was) (stateAfter ▸ now) (pendingAfter.trans (kept.trans pending))
      (backAfter.trans (behind.trans back))
  | rehearses was now kept behind =>
    exact .rehearses (state ▸ was) (stateAfter ▸ now) (pendingAfter.trans kept) (backAfter.trans (behind.trans back))
  | answers result was now kept behind =>
    rw [pending]
    exact .answers result (state ▸ was) (stateAfter ▸ now) (pendingAfter.trans kept)
      (backAfter.trans (behind.trans back))

theorem silence_moves (rested : ¬ Awaiting system.gesture.preAwaitState) :
    Moves system.gesture (silenceSection config system.uptime system.gesture).1
      (invocations (effects config system .silenceTimeout)) := by
  unfold silenceSection effects
  cases called : closedSequence config system.gesture with
  | some closed =>
    obtain ⟨state, back, pending, _⟩ := fields_of_outside (GestureThreads.closedSequence_outside called)
    have moves : Moves closed (processSequence config system.uptime closed).1
        (invocations (processSequence config system.uptime closed).2) :=
      processSequence_moves config system.uptime (back ▸ rested)
    unfold evaluate
    dsimp only
    split_ifs
    · exact moves.congr state pending back rfl rfl rfl
    · exact moves.congr state pending back rfl rfl rfl
  | none =>
    obtain ⟨state, back, pending, _⟩ :=
      fields_of_outside (GestureThreads.silenceTimeoutFn_outside system.uptime called)
    exact .stays state pending back

theorem confirmTimeout_moves (gesture : Machine) :
    Moves gesture (confirmTimeoutFn gesture).1 (invocations (confirmTimeoutFn gesture).2) := by
  unfold confirmTimeoutFn
  split_ifs with awaiting
  · exact deliverConfirm_moves _ (.inl awaiting) (by simp [Awaiting])
  · exact .stays rfl rfl rfl

theorem resetTimeout_moves (rested : ¬ Awaiting gesture.preAwaitState) :
    Moves gesture (resetTimeoutFn gesture).1 (invocations (resetTimeoutFn gesture).2) := by
  unfold resetTimeoutFn
  split_ifs with awaiting
  · exact deliverConfirm_moves _ (.inr (.inl awaiting)) rested
  · exact .stays rfl rfl rfl

theorem pairTimeout_moves (rested : ¬ Awaiting gesture.preAwaitState) :
    Moves gesture (pairTimeoutFn gesture).1 (invocations (pairTimeoutFn gesture).2) := by
  unfold pairTimeoutFn
  split_ifs with awaiting
  · exact deliverConfirm_moves _ (.inr (.inr awaiting)) rested
  · exact .stays rfl rfl rfl

theorem Accepted.rested {before after : Machine} (accepted : Accepted callback before after)
    (rested : ¬ Awaiting before.preAwaitState) : ¬ Awaiting after.preAwaitState := by
  rcases accepted.back with same | here
  · rwa [same]
  · rcases accepted.was with state | state <;> simp [Awaiting, here, state]

/-- The answer does not depend on the callback. -/
theorem accepts_eq (config : Config) (callback : Callback) (system : System) :
    accepts config system .requestConfirm = (gestureRequestConfirm callback system.gesture).1.isOk ∧
      accepts config system .requestReset = (gestureRequestReset config callback system.gesture).1.isOk ∧
      accepts config system .requestPairConfirm = (gestureRequestPairConfirm callback system.gesture).1.isOk := by
  refine ⟨?_, ?_, ?_⟩
  · simp only [accepts, gestureRequestConfirm]
    split_ifs <;> rfl
  · simp only [accepts, gestureRequestReset]
    split_ifs <;> rfl
  · simp only [accepts, gestureRequestPairConfirm]
    split_ifs <;> rfl

theorem requested_cases {before : Machine} {outcome : Except RequestError Unit × Machine}
    (requested : Requested callback before outcome) {handed : List Effect} (nothing : handed = []) :
    if outcome.1.isOk then Accepted callback before outcome.2 ∧ handed = []
    else Moves before outcome.2 (invocations handed) := by
  subst nothing
  have blank := GestureThreads.blank_awaitTaps callback
  cases requested with
  | refused error => exact .stays rfl rfl rfl
  | confirm unlocked free =>
    exact ⟨⟨.inl unlocked, by simpa using free, .inl rfl, rfl, .inl rfl, blank _ _⟩, rfl⟩
  | prompt next awaiting rest free =>
    exact ⟨⟨rest, by simpa using free, .inr awaiting, rfl, .inr rfl, blank _ _⟩, rfl⟩

/-- A section accepts a request, or moves the prompt. -/
theorem step_cases (config : Config) (callback : Callback) (event : Event)
    (rested : ¬ Awaiting system.gesture.preAwaitState) :
    if accepts config system event then
      Accepted callback system.gesture (step config callback system event).gesture ∧ effects config system event = []
    else Moves system.gesture (step config callback system event).gesture
      (invocations (effects config system event)) := by
  cases event with
  | elapse milliseconds | resetInactivityTimer => exact .stays rfl rfl rfl
  | tapGate tap =>
    simp only [step, effects, invocations, accepts, Bool.false_eq_true, if_false]
    split_ifs <;> exact .stays rfl rfl rfl
  | tapEnter index =>
    simp only [step, effects, invocations, accepts, Bool.false_eq_true, if_false]
    cases system.passed[index]? with
    | none => exact .stays rfl rfl rfl
    | some tap =>
      exact .stays (accumulateTap_state config system.gesture tap)
        (accumulateTap_pendingCb config system.gesture tap)
        (accumulateTap_preAwaitState config system.gesture tap)
  | silenceTimeout => exact silence_moves rested
  | confirmTimeout => exact confirmTimeout_moves system.gesture
  | resetTimeout => exact resetTimeout_moves rested
  | pairTimeout => exact pairTimeout_moves rested
  | resume index =>
    simp only [step, System.resume, effects, invocations, accepts, Bool.false_eq_true, if_false]
    split <;> exact .stays rfl rfl rfl
  | requestConfirm =>
    rw [(accepts_eq config callback system).1]
    exact requested_cases (requestConfirm_requested callback system.gesture) rfl
  | requestReset =>
    rw [(accepts_eq config callback system).2.1]
    exact requested_cases (requestReset_requested config callback system.gesture) rfl
  | requestPairConfirm =>
    rw [(accepts_eq config callback system).2.2]
    exact requested_cases (requestPairConfirm_requested callback system.gesture) rfl
  | setUnlockSeq sequence persisted =>
    simp only [step, effects, accepts, Bool.false_eq_true, if_false, gestureSetUnlockSeq]
    split_ifs <;> exact .stays rfl rfl rfl
  | getState =>
    simp only [step, effects, accepts, Bool.false_eq_true, if_false, gestureGetState]
    split_ifs with idle
    · exact .rests (by simp [Awaiting, idle.1]) (by simp [Awaiting, System.withGesture]) rfl rfl
    · exact .stays rfl rfl rfl

end Sections

/-- The request is the last one accepted, and has no answer yet. -/
structure Open (history : History) (number : Nat) : Prop where
  latest : history.accepted = number + 1
  marks : ∀ mark ∈ history.marks, mark = history.accepted
  unanswered : ∀ result, (.request number, result) ∉ history.invoked

/-- What holds whenever the mutex is free. -/
structure Sound (history : History) : Prop where
  pending_iff : history.system.gesture.pendingCb.isSome = true ↔ Awaiting history.system.gesture.state
  rested : ¬ Awaiting history.system.gesture.preAwaitState
  pending : ∀ number, history.system.gesture.pendingCb = some (.request number) → Open history number
  known : ∀ number result, (.request number, result) ∈ history.invoked → number < history.accepted
  once : ∀ number, history.invoked.countP (fun invocation => invocation.1 = .request number) ≤ 1

section Runs

variable {config : Config} {history : History} {event : Event}

theorem marksAfter_subset {after : Machine} {mark : Nat} (marked : mark ∈ marksAfter history after event) :
    mark ∈ history.marks ∨ mark = history.accepted := by
  cases event with
  | tapEnter index =>
    simp only [marksAfter] at marked
    split_ifs at marked
    · exact .inl marked
    · exact (List.mem_append.mp marked).imp_right List.mem_singleton.mp
  | _ =>
    simp only [marksAfter] at marked
    split_ifs at marked
    · cases marked
    · exact .inl marked

theorem marksAfter_blank {after : Machine} (other : accepts config history.system event = true) (blank : Blank after) :
    marksAfter history after event = [] := by
  cases event with
  | requestConfirm | requestReset | requestPairConfirm => exact if_pos blank
  | _ => cases other

/-- A request that is pending was pending before. -/
theorem Sound.quiet (sound : Sound history) (refused : accepts config history.system event = false)
    (silent : invocations (effects config history.system event) = [])
    (pending_iff : (observe config history event).system.gesture.pendingCb.isSome = true ↔
      Awaiting (observe config history event).system.gesture.state)
    (back : (observe config history event).system.gesture.preAwaitState = history.system.gesture.preAwaitState)
    (kept : ∀ number, (observe config history event).system.gesture.pendingCb = some (.request number) →
      history.system.gesture.pendingCb = some (.request number)) : Sound (observe config history event) := by
  have accepted : (observe config history event).accepted = history.accepted := by simp [observe, refused]
  have invoked : (observe config history event).invoked = history.invoked := by simp [observe, silent]
  refine ⟨pending_iff, back ▸ sound.rested, ?_, ?_, ?_⟩
  · intro number pending
    obtain ⟨latest, marks, unanswered⟩ := sound.pending number (kept number pending)
    refine ⟨accepted.trans latest, ?_, ?_⟩
    · intro mark marked
      rw [accepted]
      exact (marksAfter_subset marked).elim (marks mark) id
    · rw [invoked]
      exact unanswered
  · rw [invoked, accepted]
    exact sound.known
  · rw [invoked]
    exact sound.once

/-- A pending callback is cleared before it is invoked, once. -/
theorem Sound.answered (sound : Sound history) (refused : accepts config history.system event = false)
    {result : ConfirmResult} (invokes : invocations (effects config history.system event) =
      history.system.gesture.pendingCb.toList.map fun callback => (callback, result))
    (now : ¬ Awaiting (observe config history event).system.gesture.state)
    (pending : (observe config history event).system.gesture.pendingCb = none)
    (back : (observe config history event).system.gesture.preAwaitState = history.system.gesture.preAwaitState) :
    Sound (observe config history event) := by
  have accepted : (observe config history event).accepted = history.accepted := by simp [observe, refused]
  have invoked : (observe config history event).invoked = history.invoked ++
      history.system.gesture.pendingCb.toList.map fun callback => (callback, result) := by rw [← invokes]; rfl
  refine ⟨?_, back ▸ sound.rested, ?_, ?_, ?_⟩
  · rw [pending]
    exact iff_of_false Bool.false_ne_true now
  · rw [pending]
    intro number none
    cases none
  · intro number found present
    rw [accepted]
    rw [invoked, List.mem_append] at present
    rcases present with before | here
    · exact sound.known number found before
    · simp only [List.mem_map, Option.mem_toList, Prod.mk.injEq] at here
      obtain ⟨callback, open', rfl, _⟩ := here
      have latest := (sound.pending number open').latest
      omega
  · intro number
    rw [invoked, List.countP_append]
    by_cases here : history.system.gesture.pendingCb = some (.request number)
    · have none : history.invoked.countP (fun invocation => invocation.1 = .request number) = 0 := by
        rw [List.countP_eq_zero]
        rintro ⟨callback, found⟩ present
        simp only [decide_eq_true_eq]
        rintro rfl
        exact (sound.pending number here).unanswered found present
      rw [none, here]
      simp
    · have none : (history.system.gesture.pendingCb.toList.map fun callback => (callback, result)).countP
          (fun invocation => invocation.1 = .request number) = 0 := by
        rw [List.countP_eq_zero]
        rintro ⟨callback, found⟩ present
        simp only [List.mem_map, Option.mem_toList, Prod.mk.injEq] at present
        obtain ⟨other, open', rfl, _⟩ := present
        simp only [decide_eq_true_eq]
        rintro rfl
        exact here open'
      rw [none]
      exact sound.once number

/-- A new request finds an empty accumulator. -/
theorem Sound.accepted (sound : Sound history) (taken : accepts config history.system event = true)
    (silent : effects config history.system event = [])
    (accepted : Accepted (.request history.accepted) history.system.gesture
      (observe config history event).system.gesture) : Sound (observe config history event) := by
  have counted : (observe config history event).accepted = history.accepted + 1 := by simp [observe, taken]
  have invoked : (observe config history event).invoked = history.invoked := by simp [observe, silent, invocations]
  refine ⟨?_, accepted.rested sound.rested, ?_, ?_, ?_⟩
  · rw [accepted.pending]
    exact iff_of_true rfl accepted.now
  · intro number pending
    obtain rfl : history.accepted = number := by
      have same := accepted.pending.symm.trans pending
      simpa using same
    refine ⟨counted, ?_, ?_⟩
    · have empty : (observe config history event).marks = [] := marksAfter_blank taken accepted.blank
      rw [empty]
      exact List.forall_mem_nil _
    · intro result present
      rw [invoked] at present
      exact absurd (sound.known _ _ present) (Nat.lt_irrefl _)
  · intro number result present
    rw [invoked] at present
    rw [counted]
    exact Nat.lt_succ_of_lt (sound.known number result present)
  · rw [invoked]
    exact sound.once

/-- One section. -/
theorem observe_sound (config : Config) (history : History) (event : Event) (sound : Sound history) :
    Sound (observe config history event) := by
  have cases := step_cases config (.request history.accepted) event sound.rested
  split_ifs at cases with taken
  · exact sound.accepted taken cases.2 cases.1
  · have refused : accepts config history.system event = false := by simpa using taken
    have same : (observe config history event).system =
      step config (.request history.accepted) history.system event := rfl
    rw [← same] at cases
    generalize handed : invocations (effects config history.system event) = invoked at cases
    cases cases with
    | stays state pending back =>
      refine sound.quiet refused handed ?_ back fun number open' => pending ▸ open'
      rw [state, pending]
      exact sound.pending_iff
    | rests was now pending back =>
      refine sound.quiet refused handed ?_ back fun number open' => pending ▸ open'
      rw [pending]
      exact iff_of_false (fun some => was (sound.pending_iff.mp some)) now
    | rehearses was now pending back =>
      refine sound.quiet refused handed ?_ back fun number open' => ?_
      · rw [pending]
        exact iff_of_true rfl now
      · rw [pending] at open'
        cases open'
    | answers result was now pending back => exact sound.answered refused handed now pending back

theorem boot_sound (config : Config) (now : Nat) (storedSeq : Option (List UInt8)) (storedAttempts : Option UInt32) :
    Sound (boot config now storedSeq storedAttempts) where
  pending_iff := iff_of_false Bool.false_ne_true (by simp [boot, gestureInit, Awaiting])
  rested := by simp [boot, gestureInit, Awaiting]
  pending number none := by cases none
  known number result none := by cases none
  once number := Nat.zero_le 1

theorem run_sound (config : Config) (now : Nat) (storedSeq : Option (List UInt8)) (storedAttempts : Option UInt32)
    (events : List Event) : Sound (run (observe config) (boot config now storedSeq storedAttempts) events) :=
  run_invariant (observe config) Sound (observe_sound config) _ events (boot_sound config now storedSeq storedAttempts)

/-- A section invokes the callback of the waiting request only. -/
theorem Sound.invokes (sound : Sound history) {number : Nat} {result : ConfirmResult}
    (invoked : (.request number, result) ∈ invocations (effects config history.system event)) :
    history.system.gesture.pendingCb = some (.request number) := by
  have cases := step_cases config (.request history.accepted) event sound.rested
  split_ifs at cases with taken
  · rw [cases.2] at invoked
    cases invoked
  · generalize handed : invocations (effects config history.system event) = invocations at cases invoked
    cases cases with
    | answers found was now pending back =>
      simp only [List.mem_map, Option.mem_toList, Prod.mk.injEq] at invoked
      obtain ⟨callback, open', rfl, _⟩ := invoked
      exact open'
    | _ => cases invoked

end Runs

/-- There are marks exactly while there are taps. -/
theorem observe_marked (config : Config) (history : History) (event : Event)
    (marked : Blank history.system.gesture ↔ history.marks = []) :
    Blank (observe config history event).system.gesture ↔ (observe config history event).marks = [] := by
  by_cases tap : ∃ index, event = .tapEnter index
  · obtain ⟨index, rfl⟩ := tap
    by_cases same : content (observe config history (.tapEnter index)).system.gesture = content history.system.gesture
    · have kept : (observe config history (.tapEnter index)).marks = history.marks := if_pos same
      rw [kept, ← marked]
      exact ⟨GestureThreads.blank_of_content same, GestureThreads.blank_of_content same.symm⟩
    · have added : (observe config history (.tapEnter index)).marks = history.marks ++ [history.accepted] := if_neg same
      rw [added]
      simp only [List.append_eq_nil_iff, List.cons_ne_nil, and_false, iff_false]
      exact fun blank => same (tapEnter_content config (.request history.accepted) history.system index blank)
  · have other : ∀ index, event ≠ .tapEnter index := fun index here => tap ⟨index, here⟩
    have marks : (observe config history event).marks =
        if Blank (observe config history event).system.gesture then [] else history.marks := by
      cases event with
      | tapEnter index => exact absurd rfl (other index)
      | _ => rfl
    rw [marks]
    by_cases blank : Blank (observe config history event).system.gesture
    · exact iff_of_true blank (if_pos blank)
    · rw [if_neg blank, ← marked]
      exact iff_of_false blank (fun before => blank (step_blank config _ other before))

/-- Only the waiting request is answered, by later taps. -/
def InvokesOwn (config : Config) (history : History) (event : Event) : Prop :=
  ∀ number result, (.request number, result) ∈ invocations (effects config history.system event) →
    history.system.gesture.pendingCb = some (.request number) ∧ history.accepted = number + 1 ∧
      (result = .ok → ∀ mark ∈ history.marks, mark = history.accepted)

/-- A callback is invoked once, for its own request. -/
theorem confirmations_delivered (config : Config) (now : Nat) (storedSeq : Option (List UInt8))
    (storedAttempts : Option UInt32) (events : List Event) :
    let start := boot config now storedSeq storedAttempts
    let history := run (observe config) start events
    (history.system.gesture.pendingCb.isSome = true ↔ Awaiting history.system.gesture.state) ∧
      (Blank history.system.gesture ↔ history.marks = []) ∧
      (∀ number, history.invoked.countP (fun invocation => invocation.1 = .request number) ≤ 1) ∧
      ∀ visit ∈ visits (observe config) start events, InvokesOwn config visit.1 visit.2 := by
  intro start history
  have sound := run_sound config now storedSeq storedAttempts events
  have marked : Blank history.system.gesture ↔ history.marks = [] :=
    run_invariant (observe config) (fun history => Blank history.system.gesture ↔ history.marks = [])
      (observe_marked config) start events (iff_of_true ⟨rfl, rfl, rfl⟩ rfl)
  refine ⟨sound.pending_iff, marked, sound.once, ?_⟩
  intro visit visited number result invoked
  have before : Sound visit.1 := visits_invariant (observe config) Sound (observe_sound config) start events
    (boot_sound config now storedSeq storedAttempts) visited
  have pending := before.invokes invoked
  exact ⟨pending, (before.pending number pending).latest, fun _ => (before.pending number pending).marks⟩

end Cantil.Confirmations
