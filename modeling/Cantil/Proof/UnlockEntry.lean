import Cantil.Proof.ConfirmDelivery
import Cantil.Proof.TapEntry
import Mathlib.Data.Set.Basic

namespace Cantil.TapEntry
open Gesture Confirmations Library.Trace System
open GestureThreads (Blank closedSequence evaluate silenceSection timeoutSection)

/-! The sequences that the machine holds. -/

/-- The buffer holds digits, and a sequence in use is comparable. -/
structure Sequences (config : Config) (gesture : Machine) : Prop where
  unlock : 0 < gesture.unlockSeq.length ∧ gesture.unlockSeq.length ≤ seqMaxLen
  fresh : ∀ digit ∈ gesture.newSeq, Enterable config digit.toNat
  short : gesture.digitBuf.length ≤ seqMaxLen
  digits : ∀ digit ∈ gesture.digitBuf, digit = digitInvalid ∨ Enterable config digit.toNat

section Held

variable {config : Config} {gesture before after : Machine} {system : System}

/-- A section that moves the accumulator only. -/
theorem Sequences.refill (held : Sequences config before)
    (outside : resetAccumulator after = resetAccumulator before) (short : after.digitBuf.length ≤ seqMaxLen)
    (digits : ∀ digit ∈ after.digitBuf, digit = digitInvalid ∨ Enterable config digit.toNat) :
    Sequences config after := by
  have unlock := congrArg Machine.unlockSeq outside
  have fresh := congrArg Machine.newSeq outside
  exact ⟨unlock ▸ held.unlock, fresh ▸ held.fresh, short, digits⟩

/-- Sequences stay, and digits stay or are cleared. -/
theorem Sequences.keep (held : Sequences config before) (unlock : after.unlockSeq = before.unlockSeq)
    (fresh : after.newSeq = before.newSeq) (buffer : after.digitBuf = before.digitBuf ∨ after.digitBuf = []) :
    Sequences config after := by
  refine ⟨unlock ▸ held.unlock, fresh ▸ held.fresh, ?_, ?_⟩
  · rcases buffer with same | empty
    · exact same ▸ held.short
    · simp [empty]
  · rcases buffer with same | empty
    · exact same ▸ held.digits
    · simp [empty]

/-- One more digit, where there is room for it. -/
theorem Sequences.push {digit : UInt8} (held : Sequences config before)
    (outside : resetAccumulator after = resetAccumulator before) (room : before.digitBuf.length < seqMaxLen)
    (pushed : after.digitBuf = before.digitBuf ++ [digit])
    (valid : digit = digitInvalid ∨ Enterable config digit.toNat) : Sequences config after := by
  refine held.refill outside ?_ ?_
  · rw [pushed, List.length_append, List.length_singleton]
    omega
  · rw [pushed]
    intro found present
    rcases List.mem_append.mp present with before | here
    · exact held.digits found before
    · exact List.mem_singleton.mp here ▸ valid

theorem tripletDigits_valid (binary : config.alphabet = .stdtBinary) {bits : List Bool} {digit : UInt8}
    (present : digit ∈ tripletDigits bits) : digit = digitInvalid ∨ Enterable config digit.toNat := by
  rw [tripletDigits_eq, List.mem_map] at present
  obtain ⟨found, spelled, rfl⟩ := present
  cases found with
  | none => exact .inl rfl
  | some value =>
    have small := triplets_small spelled
    right
    simp only [Enterable, binary, digitCode, UInt8.toNat_ofNat_of_lt' (show value < 2 ^ 8 by omega)]
    exact small

section Gesture

variable (held : Sequences config gesture)
include held

theorem accumulateTap_sequences (tap : Tap) : Sequences config (accumulateTap config tap gesture) := by
  have outside := accumulateTap_outside config gesture tap
  unfold accumulateTap at outside ⊢
  cases alphabet : config.alphabet with
  | countColor =>
    exact held.keep rfl rfl (.inl rfl)
  | stdtBinary =>
    split_ifs <;> exact held.keep rfl rfl (.inl rfl)
  | stdtPlain =>
    simp only [alphabet] at outside ⊢
    by_cases room : gesture.digitBuf.length < seqMaxLen
    · rw [if_pos room] at outside ⊢
      refine held.push outside room rfl (.inr ?_)
      cases tap <;> simp [Enterable, alphabet]
    · rw [if_neg room]
      exact held

theorem closedSequence_sequences {closed : Machine} (called : closedSequence config gesture = some closed) :
    Sequences config closed ∧ 0 < closed.digitBuf.length := by
  have outside := GestureThreads.closedSequence_outside called
  unfold closedSequence at called
  cases alphabet : config.alphabet with
  | countColor =>
    simp only [alphabet, true_and] at called
    split_ifs at called with first entered
    obtain rfl := Option.some.inj called
    exact ⟨held.keep rfl rfl (.inl rfl), entered⟩
  | stdtBinary =>
    simp only [alphabet, reduceCtorEq, false_and, if_false] at called
    split_ifs at called with entered
    obtain rfl := Option.some.inj called
    refine ⟨held.refill outside (List.length_take_le _ _) fun digit present => ?_, entered⟩
    exact tripletDigits_valid alphabet (List.mem_of_mem_take present)
  | stdtPlain =>
    simp only [alphabet, reduceCtorEq, false_and, if_false] at called
    split_ifs at called with entered
    obtain rfl := Option.some.inj called
    exact ⟨held, entered⟩

/-- The count alphabet closes a digit. -/
theorem closeDigitLocked_sequences (count : config.alphabet = .countColor) (range : PaletteInRange config) :
    Sequences config (closeDigitLocked config gesture) := by
  unfold closeDigitLocked
  by_cases full : gesture.curTaps = 0 ∨ gesture.digitBuf.length ≥ seqMaxLen
  · rw [if_pos full]
    exact held.keep rfl rfl (.inl rfl)
  · rw [if_neg full]
    obtain ⟨some, room⟩ := not_or.mp full
    refine held.push rfl (Nat.lt_of_not_le room) rfl ?_
    split_ifs with over'
    · exact .inl rfl
    · have small := range.2
      simp only [Enterable, count, UInt8.toNat_ofNat_of_lt' (show gesture.curTaps < 2 ^ 8 by omega)]
      omega

theorem silenceTimeoutFn_sequences (range : PaletteInRange config) (now : Int)
    (quiet : closedSequence config gesture = none) : Sequences config (silenceTimeoutFn config now gesture).1 := by
  unfold closedSequence at quiet
  unfold silenceTimeoutFn
  cases alphabet : config.alphabet with
  | countColor =>
    simp only [alphabet, true_and] at quiet ⊢
    split_ifs at quiet ⊢ with first entered
    · exact (closeDigitLocked_sequences held alphabet range).keep rfl rfl (.inl rfl)
    · exact held.keep rfl rfl (.inl rfl)
  | stdtBinary =>
    simp only [alphabet, reduceCtorEq, false_and, if_false] at quiet ⊢
    split_ifs at quiet ⊢ with entered
    exact held.keep rfl rfl (.inr rfl)
  | stdtPlain =>
    simp only [alphabet, reduceCtorEq, false_and, if_false] at quiet ⊢
    split_ifs at quiet ⊢ with entered
    exact held

/-- Digits without an invalid one are digits of the alphabet. -/
theorem Sequences.valid (valid : seqHasInvalid gesture.digitBuf = false) :
    ∀ digit ∈ gesture.digitBuf, Enterable config digit.toNat := by
  intro digit present
  refine (held.digits digit present).resolve_left ?_
  rintro rfl
  simp [seqHasInvalid] at valid
  exact valid present

theorem processSequence_sequences (now : Int) (some : 0 < gesture.digitBuf.length) :
    Sequences config (processSequence config now gesture).1 := by
  have same {after : Machine} (unlock : after.unlockSeq = gesture.unlockSeq) (fresh : after.newSeq = gesture.newSeq)
      (buffer : after.digitBuf = gesture.digitBuf) : Sequences config after := held.keep unlock fresh (.inl buffer)
  unfold processSequence
  cases state : gesture.state <;> dsimp only
  case locked =>
    obtain ⟨_, failed⟩ := noteUnlockFailure_eq config now gesture
    obtain ⟨_, _, noted⟩ := noteUnlockSuccess_eq gesture
    rw [failed, noted]
    split_ifs <;> exact same rfl rfl rfl
  case unlocked | awaitingConfirm | awaitingReset | awaitingPair => split_ifs <;> exact same rfl rfl rfl
  case changeSeqConfirm =>
    split_ifs with invalid
    · exact held
    · exact ⟨held.unlock, held.valid (by simpa using invalid), held.short, held.digits⟩
    · exact held
  case changeSeqVerify =>
    split_ifs with entered
    · -- The new sequence was just entered, so it is not empty and fits the buffer.
      have again : gesture.digitBuf = gesture.newSeq := by
        simp only [Bool.and_eq_true, decide_eq_true_eq] at entered
        exact entered.2
      exact ⟨again ▸ ⟨some, held.short⟩, held.fresh, held.short, held.digits⟩
    · exact same rfl rfl rfl
    · exact same rfl rfl rfl
  case pairing => exact held

theorem evaluate_sequences (now : Int) (some : 0 < gesture.digitBuf.length) :
    Sequences config (evaluate config now gesture).1 := by
  unfold evaluate
  dsimp only
  split_ifs
  · exact processSequence_sequences held now some
  · exact (processSequence_sequences held now some).keep rfl rfl (.inr rfl)

end Gesture

theorem step_sequences (range : PaletteInRange config) (callback : Callback) (event : Event)
    (held : Sequences config system.gesture) : Sequences config (step config callback system event).gesture := by
  cases event with
  | elapse milliseconds => exact held
  | tapGate tap =>
    simp only [step]
    split_ifs <;> exact held
  | tapEnter index =>
    simp only [step]
    cases system.passed[index]? with
    | none => exact held
    | some tap => exact accumulateTap_sequences held tap
  | silenceTimeout =>
    simp only [step, work, silenceSection]
    cases called : closedSequence config system.gesture with
    | none => exact silenceTimeoutFn_sequences held range system.uptime called
    | some closed =>
      obtain ⟨kept, entered⟩ := closedSequence_sequences held called
      exact evaluate_sequences kept system.uptime entered
  | confirmTimeout | resetTimeout | pairTimeout =>
    simp only [step, work, timeoutSection, confirmTimeoutFn, resetTimeoutFn, pairTimeoutFn]
    split_ifs <;> exact held.keep rfl rfl (.inl rfl)
  | resume index =>
    simp only [step, System.resume]
    split
    · exact held.keep rfl rfl (.inr rfl)
    · exact held
    · exact held
  | requestConfirm | requestReset | requestPairConfirm =>
    simp only [step, withGesture, gestureRequestConfirm, gestureRequestReset, gestureRequestPairConfirm]
    split_ifs
    any_goals exact held
    exact held.keep rfl rfl (.inr rfl)
  | setUnlockSeq sequence persisted =>
    simp only [step, withGesture, gestureSetUnlockSeq]
    by_cases wrong : sequence.length = 0 ∨ sequence.length > seqMaxLen
    · rw [if_pos wrong]
      exact held
    · split_ifs
      · exact held
      all_goals exact ⟨by dsimp only; omega, held.fresh, held.short, held.digits⟩
  | getState =>
    simp only [step, withGesture, gestureGetState]
    split_ifs <;> exact held.keep rfl rfl (.inl rfl)
  | resetInactivityTimer => exact held.keep rfl rfl (.inl rfl)

theorem gestureInit_sequences (config : Config) (now : Int) (storedSeq : Option (List UInt8))
    (storedAttempts : Option UInt32) : Sequences config (gestureInit config now storedSeq storedAttempts) := by
  have factory : 0 < (seqUnlockDefault config.alphabet).length ∧
      (seqUnlockDefault config.alphabet).length ≤ seqMaxLen := by
    cases config.alphabet <;> decide
  refine ⟨?_, List.forall_mem_nil _, Nat.zero_le _, List.forall_mem_nil _⟩
  unfold gestureInit
  cases storedSeq with
  | none => exact factory
  | some sequence =>
    dsimp only
    split_ifs with fits
    · exact fits
    · exact factory

end Held

/-! Unlocking. -/

/-- Locked outside a lockout, with no tap under way. -/
structure Ready (system : System) : Prop where
  locked : system.gesture.state = .locked
  heard : tapDropped system.uptime system.gesture = false
  alone : system.passed = []
  blank : Blank system.gesture

section Unlocking

variable {config : Config} {system : System} {history : History}

theorem run_sequences (range : PaletteInRange config) (now : Nat) (storedSeq : Option (List UInt8))
    (storedAttempts : Option UInt32) (events : List Event) :
    Sequences config (run (observe config) (boot config now storedSeq storedAttempts) events).system.gesture :=
  run_invariant (observe config) (fun history => Sequences config history.system.gesture)
    (fun history event => step_sequences range (.request history.accepted) event) _ events
    (gestureInit_sequences config now storedSeq storedAttempts)

/-- The comparison in the locked state. -/
theorem processSequence_leaves (config : Config) (now : Int) {gesture : Machine} (locked : gesture.state = .locked) :
    (processSequence config now gesture).1.state ≠ .locked ↔
      (!seqHasInvalid gesture.digitBuf && decide (gesture.digitBuf = gesture.unlockSeq)) = true := by
  unfold processSequence
  simp only [locked]
  split_ifs with same factory
  · exact iff_of_true (by simp) same
  · exact iff_of_true (by simp) same
  · obtain ⟨_, failed⟩ := noteUnlockFailure_eq config now gesture
    exact iff_of_false (by simp [failed, locked]) same

theorem entryEvents_plain (alphabet : Alphabet) (entry : Entry) :
    ∀ event ∈ entryEvents alphabet entry, isRequest event = false := by
  have taps (taps : List (Nat × Tap)) : ∀ event ∈ taps.flatMap tapEvents, isRequest event = false := by
    simp only [List.mem_flatMap, tapEvents, List.mem_cons, List.not_mem_nil, or_false]
    rintro event ⟨tap, _, rfl | rfl | rfl⟩ <;> rfl
  intro event present
  simp only [entryEvents, List.mem_append, List.mem_flatMap, List.mem_cons, List.not_mem_nil, or_false] at present
  rcases present with ⟨group, _, inside⟩ | rfl | rfl
  · cases alphabet <;> simp only [groupEvents, List.mem_append, List.mem_cons, List.not_mem_nil, or_false] at inside
    · rcases inside with tapped | rfl | rfl
      · exact taps group.taps event tapped
      · rfl
      · rfl
    · rcases inside with tapped | rfl
      · exact taps group.taps event tapped
      · rfl
    · rcases inside with tapped | rfl
      · exact taps group.taps event tapped
      · rfl
  · rfl
  · rfl

/-- An entry without a tap is only a silence. -/
theorem play_untapped (blank : Blank system.gesture) {entry : Entry} (untapped : entry.groups = []) :
    play config system (entryEvents config.alphabet entry) = ({ system with
      uptime := system.uptime + entry.pause
      gesture := (silenceTimeoutFn config (system.uptime + entry.pause) system.gesture).1 }, []) := by
  rw [entryEvents, untapped]
  exact play_silence_open entry.pause (GestureThreads.closedSequence_of_blank config blank)

theorem spelled_nil (config : Config) {entry : Entry} (untapped : entry.groups = []) : spelled config entry = [] := by
  unfold spelled
  cases config.alphabet <;> simp [untapped, Entry.taps, triplets]

/-- The first sixteen digits decide whether the taps unlock. -/
theorem leaves_iff (range : PaletteInRange config) (ready : Ready history.system)
    (held : Sequences config history.system.gesture) (entry : Entry) :
    (run (observe config) history (entryEvents config.alphabet entry)).system.gesture.state ≠ .locked ↔
      (spelled config entry).take seqMaxLen = digitsOf history.system.gesture.unlockSeq := by
  obtain ⟨locked, heard, alone, blank⟩ := ready
  rw [(run_play (entryEvents_plain config.alphabet entry)).1]
  by_cases tapped : entry.groups = []
  · have quiet := GestureThreads.closedSequence_of_blank config blank
    rw [play_untapped blank tapped, spelled_nil config tapped]
    rw [(fields_of_outside (GestureThreads.silenceTimeoutFn_outside _ quiet)).1, locked]
    refine iff_of_false (fun left => left rfl) fun empty => ?_
    have none : history.system.gesture.unlockSeq = [] := by simpa [digitsOf] using empty.symm
    have some := held.unlock.1
    simp [none] at some
  · obtain ⟨uptime, phase, played⟩ := play_entry range alone heard blank tapped
    rw [played]
    show (evaluate config uptime (enteredIn config entry phase history.system.gesture)).1.state ≠ .locked ↔ _
    rw [(fields_of_outside (GestureThreads.evaluate_outside config uptime _)).1,
      processSequence_leaves config uptime (show (enteredIn config entry phase _).state = _ from locked)]
    exact entryDigits_matches range entry history.system.gesture.unlockSeq

/-- Only a sequence of buffer length may be followed by digits. -/
theorem take_eq_iff {digits : List (Option Nat)} {sequence : List UInt8} (short : sequence.length ≤ seqMaxLen) :
    (digits.take seqMaxLen = digitsOf sequence ↔ digits = digitsOf sequence) ↔
      ¬ (seqMaxLen < digits.length ∧ digits.take seqMaxLen = digitsOf sequence) := by
  by_cases fits : digits.length ≤ seqMaxLen
  · rw [List.take_of_length_le fits]
    exact iff_of_true Iff.rfl (fun both => absurd both.1 (Nat.not_lt.mpr fits))
  · have differs : digits ≠ digitsOf sequence := by
      rintro rfl
      rw [digitsOf, List.length_map] at fits
      exact fits short
    simp [differs, Nat.lt_of_not_le fits]

end Unlocking

/-- All digits count, unless a full unlock sequence is extended. -/
theorem unlock_exact (config : Config) (range : PaletteInRange config) (now : Nat) (storedSeq : Option (List UInt8))
    (storedAttempts : Option UInt32) (events : List Event) (entry : Entry) :
    let history := run (observe config) (boot config now storedSeq storedAttempts) events
    let tapped := run (observe config) history (entryEvents config.alphabet entry)
    let unlockSeq := history.system.gesture.unlockSeq
    Ready history.system →
      ((tapped.system.gesture.state ≠ .locked ↔ spelled config entry = digitsOf unlockSeq) ↔
        ¬ (seqMaxLen < (spelled config entry).length ∧
          (spelled config entry).take seqMaxLen = digitsOf unlockSeq)) := by
  intro history tapped unlockSeq ready
  have held : Sequences config history.system.gesture := run_sequences range now storedSeq storedAttempts events
  rw [leaves_iff range ready held entry]
  exact take_eq_iff held.unlock.2

/-- Two tapped digits unlock with their sequence. -/
theorem unlock_exact_two_digits :
    Ready (boot .default 0 (some [1, 2]) none).system ∧
      ((run (observe .default) (boot .default 0 (some [1, 2]) none)
          (entryEvents Config.default.alphabet (entryFor .default [1, 2]))).system.gesture.state ≠ .locked ↔
        spelled .default (entryFor .default [1, 2]) =
          digitsOf (boot .default 0 (some [1, 2]) none).system.gesture.unlockSeq) := by
  have ready : Ready (boot .default 0 (some [1, 2]) none).system := ⟨rfl, rfl, rfl, rfl, rfl, rfl⟩
  have judged := unlock_exact .default (by decide) 0 (some [1, 2]) none []
  refine ⟨ready, (judged _ ready).mpr ?_⟩
  decide +kernel

/-- The defaults with another alphabet. -/
def speaking (alphabet : Alphabet) : Config := { Config.default with alphabet := alphabet }

/-- A full unlock sequence, and the taps for one digit more. -/
def longEntry (alphabet : Alphabet) : Entry := entryFor (speaking alphabet) (List.replicate 17 1)

def fullHistory (alphabet : Alphabet) : History := boot (speaking alphabet) 0 (some (List.replicate 16 1)) none

/-- Seventeen digits unlock with a sequence of sixteen. -/
theorem seventeen_digits_unlock :
    (fullHistory .countColor).system.gesture.state = .locked ∧
      (run (observe (speaking .countColor)) (fullHistory .countColor)
        (entryEvents .countColor (longEntry .countColor))).system.gesture.state = .unlocked ∧
      spelled (speaking .countColor) (longEntry .countColor) ≠
        digitsOf (fullHistory .countColor).system.gesture.unlockSeq ∧
      (run (observe (speaking .stdtBinary)) (fullHistory .stdtBinary)
        (entryEvents .stdtBinary (longEntry .stdtBinary))).system.gesture.state = .unlocked ∧
      spelled (speaking .stdtBinary) (longEntry .stdtBinary) ≠
        digitsOf (fullHistory .stdtBinary).system.gesture.unlockSeq ∧
      (run (observe (speaking .stdtPlain)) (fullHistory .stdtPlain)
        (entryEvents .stdtPlain (longEntry .stdtPlain))).system.gesture.state = .unlocked ∧
      spelled (speaking .stdtPlain) (longEntry .stdtPlain) ≠
        digitsOf (fullHistory .stdtPlain).system.gesture.unlockSeq := by
  decide +kernel

/-! Confirming a reset. -/

/-- These taps confirm a reset in any locked state. -/
def ConfirmsReset (config : Config) (entry : Entry) (sequence : List UInt8) : Prop :=
  ∀ now storedSeq storedAttempts events,
    let history := run (observe config) (boot config now storedSeq storedAttempts) events
    history.system.gesture.state = .locked → history.system.passed = [] →
      history.system.gesture.unlockSeq = sequence →
      (.request history.accepted, .ok) ∈
        (run (observe config) history (.requestReset :: entryEvents config.alphabet entry)).invoked

section Resetting

variable {config : Config} {history : History}

/-- The comparison that confirms a reset. -/
theorem processSequence_reset (config : Config) (now : Int) {gesture : Machine} {callback : Callback}
    (state : gesture.state = .awaitingReset) (pending : gesture.pendingCb = some callback) :
    invocations (processSequence config now gesture).2 =
      [(callback, if !seqHasInvalid gesture.digitBuf && decide (gesture.digitBuf = gesture.unlockSeq) then .ok
        else .denied)] := by
  unfold processSequence
  simp only [state]
  split_ifs <;> rw [invocations_deliverConfirm] <;> simp [transition, pending]

theorem reset_accepted (lenient : config.resetRequiresUnlock = false) (locked : history.system.gesture.state = .locked)
    (free : history.system.gesture.pendingCb = none) :
    observe config history .requestReset = { history with
      system := history.system.withGesture (awaitTaps (.request history.accepted) .awaitingReset
        { history.system.gesture with preAwaitState := .locked })
      accepted := history.accepted + 1
      marks := [] } := by
  simp [observe, step, effects, invocations, accepts, gestureRequestReset, lenient, locked, free, marksAfter,
    GestureThreads.blank_awaitTaps, withGesture, Except.isOk, Except.toBool]

/-- A reset is confirmed by the first sixteen digits. -/
theorem confirms_iff (range : PaletteInRange config) (lenient : config.resetRequiresUnlock = false)
    (sound : Sound history) (held : Sequences config history.system.gesture)
    (locked : history.system.gesture.state = .locked) (alone : history.system.passed = []) (entry : Entry) :
    (.request history.accepted, .ok) ∈
        (run (observe config) history (.requestReset :: entryEvents config.alphabet entry)).invoked ↔
      (spelled config entry).take seqMaxLen = digitsOf history.system.gesture.unlockSeq := by
  have free : history.system.gesture.pendingCb = none := by
    rw [← Option.not_isSome_iff_eq_none, sound.pending_iff, locked]
    decide
  have fresh : (.request history.accepted, .ok) ∉ history.invoked := fun present =>
    Nat.lt_irrefl _ (sound.known _ _ present)
  rw [run_cons, reset_accepted lenient locked free, (run_play (entryEvents_plain config.alphabet entry)).2.2]
  dsimp only [withGesture]
  generalize asked : awaitTaps (.request history.accepted) .awaitingReset
    { history.system.gesture with preAwaitState := .locked } = gesture
  have state : gesture.state = .awaitingReset := by rw [← asked]; rfl
  have pending : gesture.pendingCb = some (.request history.accepted) := by rw [← asked]; rfl
  have same : gesture.unlockSeq = history.system.gesture.unlockSeq := by rw [← asked]; rfl
  have blank : Blank gesture := by rw [← asked]; exact GestureThreads.blank_awaitTaps _ _ _
  rw [List.mem_append, or_iff_right fresh, ← same]
  by_cases tapped : entry.groups = []
  · rw [play_untapped blank tapped, spelled_nil config tapped]
    refine iff_of_false List.not_mem_nil fun empty => ?_
    have none : gesture.unlockSeq = [] := by simpa [digitsOf] using empty.symm
    have some := held.unlock.1
    simp [← same, none] at some
  · have heard : tapDropped history.system.uptime gesture = false := by simp [tapDropped, state]
    obtain ⟨uptime, phase, played⟩ := @play_entry config { history.system with gesture := gesture } range alone heard
      blank entry tapped
    rw [played, processSequence_reset config uptime (show (enteredIn config entry phase gesture).state = _ from state)
      (show (enteredIn config entry phase gesture).pendingCb = _ from pending), ← entryDigits_matches range entry]
    split_ifs with matched
    · exact iff_of_true List.mem_cons_self matched
    · exact iff_of_false (by simp) matched

theorem confirmsReset_iff (range : PaletteInRange config) (lenient : config.resetRequiresUnlock = false)
    {sequence : List UInt8} (storable : 0 < sequence.length ∧ sequence.length ≤ seqMaxLen) (entry : Entry) :
    ConfirmsReset config entry sequence ↔ (spelled config entry).take seqMaxLen = digitsOf sequence := by
  have confirms (now : Nat) (storedSeq : Option (List UInt8)) (storedAttempts : Option UInt32) (events : List Event) :=
    @confirms_iff config (run (observe config) (boot config now storedSeq storedAttempts) events) range lenient
      (run_sound config now storedSeq storedAttempts events) (run_sequences range now storedSeq storedAttempts events)
  constructor
  · intro always
    have booted : (boot config 0 (some sequence) none).system.gesture.unlockSeq = sequence := by
      simp only [boot, gestureInit, if_pos storable]
    have confirmed := (confirms 0 (some sequence) none [] rfl rfl entry).mp
      (always 0 (some sequence) none [] rfl rfl booted)
    rwa [run_nil, booted] at confirmed
  · rintro spells now storedSeq storedAttempts events history locked alone rfl
    exact (confirms now storedSeq storedAttempts events locked alone entry).mpr spells

theorem default_spellable (range : PaletteInRange config) : Spellable config (seqUnlockDefault config.alphabet) := by
  have wide := range.1
  cases alphabet : config.alphabet with
  | countColor =>
    refine ⟨by decide, by decide, ?_⟩
    simp [seqUnlockDefault, Enterable, alphabet]
    omega
  | stdtBinary | stdtPlain => exact ⟨by decide, by decide, by simp [seqUnlockDefault, Enterable, alphabet]⟩

end Resetting

/-- One tap stream resets at most one sequence of a set. -/
theorem fixed_reset_entry_iff (config : Config) (range : PaletteInRange config)
    (lenient : config.resetRequiresUnlock = false) (stored : Set (List UInt8))
    (storable : ∀ sequence ∈ stored, 0 < sequence.length ∧ sequence.length ≤ seqMaxLen) :
    (∃ entry, ∀ sequence ∈ stored, ConfirmsReset config entry sequence) ↔
      ∃ known, Spellable config known ∧ ∀ sequence ∈ stored, sequence = known := by
  constructor
  · rintro ⟨entry, confirms⟩
    have spells (sequence : List UInt8) (present : sequence ∈ stored) :=
      (confirmsReset_iff range lenient (storable sequence present) entry).mp (confirms sequence present)
    rcases stored.eq_empty_or_nonempty with rfl | ⟨known, present⟩
    · exact ⟨seqUnlockDefault config.alphabet, default_spellable range, fun sequence absent => absurd absent id⟩
    · obtain ⟨nonempty, short⟩ := storable known present
      refine ⟨known, (spellable_iff nonempty short).mpr ⟨entry, spells known present⟩, fun sequence other => ?_⟩
      have same := (spells sequence other).symm.trans (spells known present)
      rw [← digitCode_digitsOf sequence, same, digitCode_digitsOf]
  · rintro ⟨known, spellable, only⟩
    obtain ⟨entry, spells⟩ := (spellable_iff spellable.nonempty spellable.short).mp spellable
    refine ⟨entry, fun sequence present => ?_⟩
    obtain rfl := only sequence present
    exact (confirmsReset_iff range lenient (storable sequence present) entry).mpr spells

theorem twoDigits_spellable : Spellable .default [1, 2] :=
  ⟨by decide, by decide, List.forall_mem_cons.mpr ⟨by decide, List.forall_mem_singleton.mpr (by decide)⟩⟩

/-- One sequence for all devices has one entry. -/
theorem fixed_reset_entry_two_digits :
    ∃ entry, ∀ sequence ∈ ({[1, 2]} : Set (List UInt8)), ConfirmsReset .default entry sequence := by
  have storable : ∀ sequence ∈ ({[1, 2]} : Set (List UInt8)), 0 < sequence.length ∧ sequence.length ≤ seqMaxLen := by
    rintro sequence rfl
    decide
  exact (fixed_reset_entry_iff .default (by decide) rfl {[1, 2]} storable).mpr
    ⟨[1, 2], twoDigits_spellable, fun _ => id⟩

/-- Two stored sequences need two tap streams. -/
theorem no_common_reset_entry (alphabet : Alphabet) : ¬ ∃ entry, ∀ sequence : List UInt8,
    0 < sequence.length → sequence.length ≤ seqMaxLen → ConfirmsReset (speaking alphabet) entry sequence := by
  rintro ⟨entry, confirms⟩
  have range : PaletteInRange (speaking alphabet) := by simp [PaletteInRange, speaking, Config.default]
  have spells {sequence : List UInt8} (nonempty : 0 < sequence.length) (short : sequence.length ≤ seqMaxLen) :=
    (confirmsReset_iff range rfl ⟨nonempty, short⟩ entry).mp (confirms sequence nonempty short)
  have one := @spells [1] (by decide) (by decide)
  have two := @spells [2] (by decide) (by decide)
  exact absurd (one.symm.trans two) (by decide)

/-- No tap stream confirms the reset of every locked device. -/
theorem reset_needs_stored_sequence :
    (¬ ∃ entry, ∀ sequence : List UInt8, 0 < sequence.length → sequence.length ≤ seqMaxLen →
        ConfirmsReset (speaking .countColor) entry sequence) ∧
      (¬ ∃ entry, ∀ sequence : List UInt8, 0 < sequence.length → sequence.length ≤ seqMaxLen →
        ConfirmsReset (speaking .stdtBinary) entry sequence) ∧
      ¬ ∃ entry, ∀ sequence : List UInt8, 0 < sequence.length → sequence.length ≤ seqMaxLen →
        ConfirmsReset (speaking .stdtPlain) entry sequence :=
  ⟨no_common_reset_entry .countColor, no_common_reset_entry .stdtBinary, no_common_reset_entry .stdtPlain⟩

end Cantil.TapEntry
