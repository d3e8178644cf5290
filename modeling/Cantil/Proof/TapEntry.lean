import Mathlib.Algebra.GroupWithZero.Nat
import Cantil.Firmware.Confirmations

namespace Cantil.TapEntry
open Gesture Confirmations
open GestureThreads (Blank closedSequence evaluate silenceSection)

/-! The sequences that a user can tap. -/

/-- Taps without a closing silence between them. -/
structure Group where
  first : Nat × Tap
  rest : List (Nat × Tap)
  pause : Nat
  deriving DecidableEq, Repr

/-- Groups of taps, and the last pause. -/
structure Entry where
  groups : List Group
  pause : Nat
  deriving DecidableEq, Repr

def Group.taps (group : Group) : List (Nat × Tap) := group.first :: group.rest

def Entry.taps (entry : Entry) : List (Nat × Tap) := entry.groups.flatMap Group.taps

def tapEvents (tap : Nat × Tap) : List Event := [.elapse tap.1, .tapGate tap.2, .tapEnter 0]

/-- Only the count alphabet has a timer that closes a digit. -/
def groupEvents : Alphabet → Group → List Event
  | .countColor, group => group.taps.flatMap tapEvents ++ [.elapse group.pause, .silenceTimeout]
  | .stdtBinary, group => group.taps.flatMap tapEvents ++ [.elapse group.pause]
  | .stdtPlain, group => group.taps.flatMap tapEvents ++ [.elapse group.pause]

def entryEvents (alphabet : Alphabet) (entry : Entry) : List Event :=
  entry.groups.flatMap (groupEvents alphabet) ++ [.elapse entry.pause, .silenceTimeout]

def tapCount : Tap → Nat
  | .single => 1
  | .double => 2

def Group.count (group : Group) : Nat := (group.taps.map fun tap => tapCount tap.2).sum

/-- The triplet 1-1-1 and a leftover are no digits. -/
def triplets : List Bool → List (Option Nat)
  | first :: second :: third :: rest =>
    (if first && second && third then none else some (4 * first.toNat + 2 * second.toNat + third.toNat)) ::
      triplets rest
  | [] => []
  | _ => [none]

/-- The digits that the user has tapped, however many. -/
def spelled (config : Config) (entry : Entry) : List (Option Nat) :=
  match config.alphabet with
  | .countColor => entry.groups.map fun group =>
    if group.count ≤ config.unlockPaletteSize then some group.count else none
  | .stdtBinary => triplets (entry.taps.map fun tap => decide (tap.2 = .double))
  | .stdtPlain => entry.taps.map fun tap => some (tapCount tap.2)

/-- The digits as the buffer holds them. -/
def digitCode : Option Nat → UInt8
  | some value => UInt8.ofNat value
  | none => digitInvalid

/-- The buffer holds the first sixteen digits. -/
def entryDigits (config : Config) (entry : Entry) : List UInt8 :=
  ((spelled config entry).take seqMaxLen).map digitCode

/-- The Kconfig range of the palette. -/
def PaletteInRange (config : Config) : Prop := 2 ≤ config.unlockPaletteSize ∧ config.unlockPaletteSize ≤ 9

instance (config : Config) : Decidable (PaletteInRange config) := inferInstanceAs (Decidable (_ ∧ _))

/-! Sections without a request. -/

/-- What the sections leave, and the callbacks that they invoke. -/
def play (config : Config) : System → List Event → System × List (Callback × ConfirmResult)
  | system, [] => (system, [])
  | system, event :: rest =>
    let (after, later) := play config (step config .rehearsal system event) rest
    (after, invocations (effects config system event) ++ later)

def isRequest : Event → Bool
  | .requestConfirm => true
  | .requestReset => true
  | .requestPairConfirm => true
  | _ => false

section Playing

variable {config : Config} {system : System} {history : History}

theorem play_append (first second : List Event) :
    play config system (first ++ second) =
      ((play config (play config system first).1 second).1,
        (play config system first).2 ++ (play config (play config system first).1 second).2) := by
  induction first generalizing system with
  | nil => rfl
  | cons event rest ih => simp only [List.cons_append, play, ih, List.append_assoc]

theorem observe_of_ne (config : Config) (history : History) {event : Event} (other : isRequest event = false) :
    (observe config history event).system = step config .rehearsal history.system event ∧
      (observe config history event).accepted = history.accepted := by
  cases event with
  | requestConfirm | requestReset | requestPairConfirm => cases other
  | _ => exact ⟨rfl, rfl⟩

/-- An observer sees what was played. -/
theorem run_play {events : List Event} (plain : ∀ event ∈ events, isRequest event = false) :
    (Library.Trace.run (observe config) history events).system = (play config history.system events).1 ∧
      (Library.Trace.run (observe config) history events).accepted = history.accepted ∧
      (Library.Trace.run (observe config) history events).invoked =
        history.invoked ++ (play config history.system events).2 := by
  induction events generalizing history with
  | nil => exact ⟨rfl, rfl, (List.append_nil _).symm⟩
  | cons event rest ih =>
    rw [List.forall_mem_cons] at plain
    obtain ⟨system, accepted⟩ := observe_of_ne config history plain.1
    obtain ⟨later, number, invoked⟩ := @ih (observe config history event) plain.2
    rw [Library.Trace.run_cons, later, number, invoked, system, accepted]
    refine ⟨rfl, rfl, ?_⟩
    simp only [observe, play, List.append_assoc]

theorem tapDropped_later {now later : Int} {gesture after : Machine} (heard : tapDropped now gesture = false)
    (passed : now ≤ later) (same : resetAccumulator after = resetAccumulator gesture) :
    tapDropped later after = false := by
  obtain ⟨state, _, _, lockout, _⟩ := fields_of_outside same
  unfold tapDropped unlockInLockout at heard ⊢
  rw [state, lockout]
  simp only [Bool.and_eq_false_iff, decide_eq_false_iff_not] at heard ⊢
  refine heard.imp_right (Or.imp_right ?_)
  omega

/-- A tap that is heard enters the accumulator. -/
theorem play_tap {pause : Nat} {tap : Tap} (alone : system.passed = [])
    (heard : tapDropped system.uptime system.gesture = false) :
    play config system (tapEvents (pause, tap)) =
      ({ system with uptime := system.uptime + pause, gesture := accumulateTap config tap system.gesture }, []) := by
  have later : tapDropped (system.uptime + pause) system.gesture = false :=
    tapDropped_later heard (by omega) rfl
  simp [play, tapEvents, step, effects, invocations, later, alone]

/-- The taps of a group, one after the other. -/
def accumulate (config : Config) (taps : List (Nat × Tap)) (gesture : Machine) : Machine :=
  taps.foldl (fun machine tap => accumulateTap config tap.2 machine) gesture

def elapsed (taps : List (Nat × Tap)) : Nat := (taps.map Prod.fst).sum

theorem play_taps {taps : List (Nat × Tap)} (alone : system.passed = [])
    (heard : tapDropped system.uptime system.gesture = false) :
    play config system (taps.flatMap tapEvents) =
      ({ system with
        uptime := system.uptime + elapsed taps
        gesture := accumulate config taps system.gesture }, []) := by
  induction taps generalizing system with
  | nil => simp [play, elapsed, accumulate]
  | cons tap rest ih =>
    have next := @ih { system with
      uptime := system.uptime + tap.1, gesture := accumulateTap config tap.2 system.gesture } alone
      (tapDropped_later heard (by dsimp only; omega) (accumulateTap_outside config system.gesture tap.2))
    rw [List.flatMap_cons, play_append, play_tap alone heard, next]
    simp [elapsed, accumulate, Int.add_assoc]

theorem accumulate_outside (taps : List (Nat × Tap)) (gesture : Machine) :
    resetAccumulator (accumulate config taps gesture) = resetAccumulator gesture := by
  induction taps generalizing gesture with
  | nil => rfl
  | cons tap rest ih => exact (ih _).trans (accumulateTap_outside config gesture tap.2)

end Playing

/-! The accumulators. -/

section Accumulators

variable {config : Config} {gesture : Machine}

theorem take_append_take {Item : Type} (count : Nat) (front back : List Item) :
    (front.take count ++ back).take count = (front ++ back).take count := by
  rw [List.take_append, List.take_append, List.take_take, Nat.min_self, List.length_take]
  by_cases short : count ≤ front.length
  · rw [Nat.min_eq_left short, Nat.sub_self, Nat.sub_eq_zero_of_le short]
  · rw [Nat.min_eq_right (by omega)]

theorem push_take {Item : Type} {count : Nat} {items : List Item} (short : items.length ≤ count) (item : Item) :
    (if items.length < count then items ++ [item] else items) = (items ++ [item]).take count := by
  split_ifs with room
  · rw [List.take_of_length_le]
    rw [List.length_append, List.length_singleton]
    omega
  · rw [show count = items.length by omega, List.take_left]

theorem accumulate_plain (plain : config.alphabet = .stdtPlain) (short : gesture.digitBuf.length ≤ seqMaxLen)
    (taps : List (Nat × Tap)) :
    accumulate config taps gesture = { gesture with
      digitBuf := (gesture.digitBuf ++ taps.map fun tap => digitCode (some (tapCount tap.2))).take seqMaxLen } := by
  induction taps generalizing gesture with
  | nil => simp [accumulate, List.take_of_length_le short]
  | cons tap rest ih =>
    have digit : (if tap.2 = .double then 2 else 1 : UInt8) = digitCode (some (tapCount tap.2)) := by
      cases tap.2 <;> rfl
    have taken : accumulateTap config tap.2 gesture = { gesture with
        digitBuf := (gesture.digitBuf ++ [digitCode (some (tapCount tap.2))]).take seqMaxLen } := by
      rw [← push_take short]
      simp only [accumulateTap, plain, digit]
      split_ifs <;> rfl
    show accumulate config rest (accumulateTap config tap.2 gesture) = _
    rw [taken, ih (List.length_take_le _ _)]
    simp only [take_append_take, List.append_assoc, List.map_cons, List.singleton_append]

theorem accumulate_binary (binary : config.alphabet = .stdtBinary) (short : gesture.bitBuf.length ≤ seqMaxLen * 3)
    (taps : List (Nat × Tap)) :
    accumulate config taps gesture = { gesture with
      bitBuf := (gesture.bitBuf ++ taps.map fun tap => decide (tap.2 = .double)).take (seqMaxLen * 3) } := by
  induction taps generalizing gesture with
  | nil => simp [accumulate, List.take_of_length_le short]
  | cons tap rest ih =>
    have taken : accumulateTap config tap.2 gesture = { gesture with
        bitBuf := (gesture.bitBuf ++ [decide (tap.2 = .double)]).take (seqMaxLen * 3) } := by
      rw [← push_take short]
      simp only [accumulateTap, binary]
      split_ifs <;> rfl
    show accumulate config rest (accumulateTap config tap.2 gesture) = _
    rw [taken, ih (List.length_take_le _ _)]
    simp only [take_append_take, List.append_assoc, List.map_cons, List.singleton_append]

/-- The counter of the count alphabet does not pass 255. -/
def counted (current : Nat) (tap : Nat × Tap) : Nat :=
  if current + tapCount tap.2 ≤ 0xFF then current + tapCount tap.2 else current

theorem accumulate_count (count : config.alphabet = .countColor) (tap : Nat × Tap) (taps : List (Nat × Tap)) :
    accumulate config (tap :: taps) gesture =
      { gesture with curTaps := (tap :: taps).foldl counted gesture.curTaps, silencePhase := 1 } := by
  have taken (gesture : Machine) (tap : Nat × Tap) : accumulateTap config tap.2 gesture =
      { gesture with curTaps := counted gesture.curTaps tap, silencePhase := 1 } := by
    have increment : (if tap.2 = .double then 2 else 1) = tapCount tap.2 := by cases tap.2 <;> rfl
    simp only [accumulateTap, count, increment, counted]
  induction taps generalizing gesture tap with
  | nil => exact taken gesture tap
  | cons next rest ih =>
    show accumulate config (next :: rest) (accumulateTap config tap.2 gesture) = _
    rw [taken, ih]
    rfl

/-- A count up to 254 is exact. -/
theorem foldl_counted (taps : List (Nat × Tap)) (start : Nat) :
    taps.foldl counted start = start + (taps.map fun tap => tapCount tap.2).sum ∨
      254 ≤ taps.foldl counted start ∧ 254 < start + (taps.map fun tap => tapCount tap.2).sum := by
  induction taps generalizing start with
  | nil => exact .inl rfl
  | cons tap rest ih =>
    have small : tapCount tap.2 ≤ 2 := by cases tap.2 <;> decide
    rw [List.foldl_cons, List.map_cons, List.sum_cons, ← Nat.add_assoc]
    by_cases room : start + tapCount tap.2 ≤ 0xFF
    · have next : counted start tap = start + tapCount tap.2 := if_pos room
      rw [next]
      exact ih (start + tapCount tap.2)
    · have next : counted start tap = start := if_neg room
      rw [next]
      right
      rcases ih start with exact | ⟨high, over'⟩ <;> constructor <;> omega

theorem tripletDigits_eq (bits : List Bool) : tripletDigits bits = (triplets bits).map digitCode := by
  fun_induction triplets bits with
  | case1 first second third rest ih =>
    rw [tripletDigits, ih]
    cases first <;> cases second <;> cases third <;> rfl
  | case2 => rfl
  | case3 bits several nonempty =>
    rcases bits with _ | ⟨first, _ | ⟨second, _ | ⟨third, rest⟩⟩⟩
    · exact absurd rfl nonempty
    · rfl
    · rfl
    · exact absurd rfl (several first second third rest)

/-- Whole triplets from the front do not depend on what follows. -/
theorem take_triplets (count : Nat) (bits : List Bool) :
    (triplets (bits.take (count * 3))).take count = (triplets bits).take count := by
  induction count generalizing bits with
  | zero => rfl
  | succ count ih =>
    rcases bits with _ | ⟨first, _ | ⟨second, _ | ⟨third, rest⟩⟩⟩
    · rfl
    · rw [List.take_of_length_le (show [first].length ≤ (count + 1) * 3 by rw [List.length_singleton]; omega)]
    · rw [List.take_of_length_le (show [first, second].length ≤ (count + 1) * 3 by
        rw [List.length_cons, List.length_singleton]; omega)]
    · have more : (count + 1) * 3 = count * 3 + 1 + 1 + 1 := by omega
      rw [more, List.take_succ_cons, List.take_succ_cons, List.take_succ_cons, triplets, triplets,
        List.take_succ_cons, List.take_succ_cons, ih]

end Accumulators

/-! A whole sequence. -/

section Entries

variable {config : Config} {system : System}
variable {gesture : Machine} {entry : Entry} {value : Nat}

/-- The silence timer when there is nothing to evaluate yet. -/
theorem play_silence_open (pause : Nat) (quiet : closedSequence config system.gesture = none) :
    play config system [.elapse pause, .silenceTimeout] = ({ system with
      uptime := system.uptime + pause
      gesture := (silenceTimeoutFn config (system.uptime + pause) system.gesture).1 }, []) := by
  simp [play, step, System.work, effects, invocations, silenceSection, quiet]

theorem play_silence_closed (pause : Nat) {closed : Machine}
    (called : closedSequence config system.gesture = some closed) :
    play config system [.elapse pause, .silenceTimeout] =
      ({ system with uptime := system.uptime + pause }.work (evaluate config (system.uptime + pause) closed),
        invocations (processSequence config (system.uptime + pause) closed).2) := by
  simp [play, step, System.work, effects, invocations, silenceSection, called]

theorem Group.count_pos (group : Group) : 0 < group.count := by
  rw [Group.count, Group.taps, List.map_cons, List.sum_cons]
  have : 0 < tapCount group.first.2 := by cases group.first.2 <;> decide
  omega

/-- The digit of a group in the count alphabet. -/
def Group.digit (config : Config) (group : Group) : Option Nat :=
  if group.count ≤ config.unlockPaletteSize then some group.count else none

theorem closeDigitLocked_counted (range : PaletteInRange config) (group : Group)
    (short : gesture.digitBuf.length ≤ seqMaxLen) :
    closeDigitLocked config { gesture with curTaps := group.taps.foldl counted 0, silencePhase := 1 } =
      { gesture with
        digitBuf := (gesture.digitBuf ++ [digitCode (group.digit config)]).take seqMaxLen
        curTaps := 0
        silencePhase := 1 } := by
  have positive := group.count_pos
  have exact := foldl_counted group.taps 0
  rw [Nat.zero_add, ← Group.count] at exact
  obtain ⟨_, small⟩ := range
  have digit : (if group.taps.foldl counted 0 > config.unlockPaletteSize then digitInvalid
      else UInt8.ofNat (group.taps.foldl counted 0)) = digitCode (group.digit config) := by
    unfold Group.digit
    rcases exact with same | ⟨high, many⟩
    · rw [same]
      by_cases fits : group.count ≤ config.unlockPaletteSize
      · rw [if_neg (by omega), if_pos fits]
        rfl
      · rw [if_pos (by omega), if_neg fits]
        rfl
    · rw [if_pos (by omega), if_neg (by omega)]
      rfl
  rw [← push_take short]
  simp only [closeDigitLocked, digit]
  by_cases room : gesture.digitBuf.length < seqMaxLen
  · rw [if_neg (by omega), if_pos room]
  · rw [if_pos (by omega), if_neg room]

section Counted

variable (count : config.alphabet = .countColor) (range : PaletteInRange config) (alone : system.passed = [])
  (heard : tapDropped system.uptime system.gesture = false) (clear : system.gesture.curTaps = 0)
  (short : system.gesture.digitBuf.length ≤ seqMaxLen)
include count range alone heard clear short

/-- One digit of the count alphabet. -/
theorem play_group (group : Group) :
    play config system (groupEvents .countColor group) = ({ system with
      uptime := system.uptime + elapsed group.taps + group.pause
      gesture := { system.gesture with
        digitBuf := (system.gesture.digitBuf ++ [digitCode (group.digit config)]).take seqMaxLen
        silencePhase := 2 } }, []) := by
  have tapped : accumulate config group.taps system.gesture =
      { system.gesture with curTaps := group.taps.foldl counted 0, silencePhase := 1 } := by
    rw [← clear]
    exact accumulate_count count group.first group.rest
  have quiet : closedSequence config (accumulate config group.taps system.gesture) = none := by
    rw [tapped, closedSequence]
    simp [count]
  rw [groupEvents, play_append, play_taps alone heard]
  rw [play_silence_open group.pause quiet, tapped]
  have closed : (silenceTimeoutFn config (system.uptime + elapsed group.taps + group.pause)
      { system.gesture with curTaps := group.taps.foldl counted 0, silencePhase := 1 }).1 =
      { system.gesture with
        digitBuf := (system.gesture.digitBuf ++ [digitCode (group.digit config)]).take seqMaxLen
        silencePhase := 2 } := by
    simp only [silenceTimeoutFn, count, if_true, closeDigitLocked_counted range group short]
    rw [← clear]
  simp only [closed, List.nil_append]

/-- The digits of the count alphabet, one after the other. -/
theorem play_groups_count (groups : List Group) :
    ∃ uptime, play config system (groups.flatMap (groupEvents .countColor)) = ({ system with
      uptime := uptime
      gesture := { system.gesture with
        digitBuf := (system.gesture.digitBuf ++ groups.map fun group => digitCode (group.digit config)).take seqMaxLen
        silencePhase := if groups = [] then system.gesture.silencePhase else 2 } }, []) := by
  induction groups generalizing system with
  | nil =>
    refine ⟨system.uptime, ?_⟩
    simp [play, List.take_of_length_le short]
  | cons group rest ih =>
    have here := play_group count range alone heard clear short group
    obtain ⟨uptime, later⟩ := @ih { system with
      uptime := system.uptime + elapsed group.taps + group.pause
      gesture := { system.gesture with
        digitBuf := (system.gesture.digitBuf ++ [digitCode (group.digit config)]).take seqMaxLen
        silencePhase := 2 } } alone
      (tapDropped_later heard (by dsimp only; omega) rfl) clear (List.length_take_le _ _)
    refine ⟨uptime, ?_⟩
    rw [List.flatMap_cons, play_append, here]
    rw [later]
    simp only [take_append_take, List.append_assoc, List.singleton_append, List.map_cons, List.append_nil, ite_self,
      reduceCtorEq, if_false]

end Counted

/-- The other alphabets have no digits before the end. -/
theorem play_groups_other (other : config.alphabet ≠ .countColor) (alone : system.passed = [])
    (heard : tapDropped system.uptime system.gesture = false) (groups : List Group) :
    ∃ uptime, play config system (groups.flatMap (groupEvents config.alphabet)) = ({ system with
      uptime := uptime
      gesture := accumulate config (groups.flatMap Group.taps) system.gesture }, []) := by
  induction groups generalizing system with
  | nil => exact ⟨system.uptime, rfl⟩
  | cons group rest ih =>
    have here : play config system (groupEvents config.alphabet group) = ({ system with
        uptime := system.uptime + elapsed group.taps + group.pause
        gesture := accumulate config group.taps system.gesture }, []) := by
      have events : groupEvents config.alphabet group = group.taps.flatMap tapEvents ++ [.elapse group.pause] := by
        cases alphabet : config.alphabet with
        | countColor => exact absurd alphabet other
        | stdtBinary => rfl
        | stdtPlain => rfl
      rw [events, play_append, play_taps alone heard]
      rfl
    obtain ⟨uptime, later⟩ := @ih { system with
      uptime := system.uptime + elapsed group.taps + group.pause
      gesture := accumulate config group.taps system.gesture } alone
      (tapDropped_later heard (by dsimp only; omega) (accumulate_outside group.taps system.gesture))
    refine ⟨uptime, ?_⟩
    rw [List.flatMap_cons, play_append, here]
    rw [later, List.flatMap_cons, List.append_nil]
    simp only [accumulate, List.foldl_append]

theorem triplets_ne_nil {bits : List Bool} (some : bits ≠ []) : triplets bits ≠ [] := by
  rcases bits with _ | ⟨first, _ | ⟨second, _ | ⟨third, rest⟩⟩⟩ <;> simp_all [triplets]

theorem Entry.taps_ne_nil (tapped : entry.groups ≠ []) : entry.taps ≠ [] := by
  obtain ⟨group, rest, groups⟩ := List.exists_cons_of_ne_nil tapped
  simp [Entry.taps, groups, Group.taps]

theorem spelled_ne_nil (config : Config) (tapped : entry.groups ≠ []) : spelled config entry ≠ [] := by
  have taps := Entry.taps_ne_nil tapped
  unfold spelled
  cases config.alphabet with
  | countColor => simpa using tapped
  | stdtBinary => exact triplets_ne_nil (by simpa using taps)
  | stdtPlain => simpa using taps

theorem entryDigits_length (config : Config) (entry : Entry) :
    (entryDigits config entry).length = min seqMaxLen (spelled config entry).length := by
  rw [entryDigits, List.length_map, List.length_take]

theorem entryDigits_pos (config : Config) (tapped : entry.groups ≠ []) : 0 < (entryDigits config entry).length := by
  rw [entryDigits_length]
  exact Nat.lt_min.mpr ⟨by decide, List.length_pos_iff.mpr (spelled_ne_nil config tapped)⟩

theorem closedSequence_plain (plain : config.alphabet = .stdtPlain) (some : 0 < gesture.digitBuf.length) :
    closedSequence config gesture = .some gesture := by
  simp only [closedSequence, plain, reduceCtorEq, false_and, if_false, if_pos some]

/-- The machine with the digits of a sequence in its buffer. -/
def enteredIn (config : Config) (entry : Entry) (phase : Nat) (gesture : Machine) : Machine :=
  { gesture with digitBuf := entryDigits config entry, silencePhase := phase }

/-- The taps of a sequence leave its digits to be evaluated. -/
theorem play_entry (range : PaletteInRange config) (alone : system.passed = [])
    (heard : tapDropped system.uptime system.gesture = false) (blank : Blank system.gesture) {entry : Entry}
    (tapped : entry.groups ≠ []) :
    ∃ uptime phase, play config system (entryEvents config.alphabet entry) =
      ({ system with uptime := uptime }.work (evaluate config uptime (enteredIn config entry phase system.gesture)),
        invocations (processSequence config uptime (enteredIn config entry phase system.gesture)).2) := by
  obtain ⟨digits, clear, bits⟩ := blank
  have closes (uptime : Int) (gesture : Machine) (phase : Nat)
      (reached : play config system (entry.groups.flatMap (groupEvents config.alphabet)) =
        ({ system with uptime := uptime, gesture := gesture }, []))
      (called : closedSequence config gesture = some (enteredIn config entry phase system.gesture)) :
      play config system (entryEvents config.alphabet entry) =
        ({ system with uptime := uptime + entry.pause }.work
            (evaluate config (uptime + entry.pause) (enteredIn config entry phase system.gesture)),
          invocations (processSequence config (uptime + entry.pause)
            (enteredIn config entry phase system.gesture)).2) := by
    rw [entryEvents, play_append, reached]
    rw [play_silence_closed entry.pause called]
    rfl
  have some := entryDigits_pos config tapped
  cases alphabet : config.alphabet with
  | countColor =>
    obtain ⟨uptime, reached⟩ := play_groups_count alphabet range alone heard clear (by simp [digits]) entry.groups
    have spells : (entry.groups.map fun group => digitCode (group.digit config)).take seqMaxLen =
        entryDigits config entry := by
      simp only [entryDigits, spelled, alphabet, List.map_take, List.map_map, Function.comp_def, Group.digit]
    rw [if_neg tapped, digits, List.nil_append, spells] at reached
    rw [← alphabet] at reached ⊢
    exact ⟨_, 0, closes _ _ _ reached (by simp only [closedSequence, alphabet, true_and, if_pos some]; rfl)⟩
  | stdtBinary =>
    have other : config.alphabet ≠ .countColor := by simp [alphabet]
    obtain ⟨uptime, reached⟩ := play_groups_other other alone heard entry.groups
    rw [accumulate_binary alphabet (by simp [bits]), bits, List.nil_append] at reached
    have spells : (tripletDigits (((entry.groups.flatMap Group.taps).map fun tap =>
        decide (tap.2 = .double)).take (seqMaxLen * 3))).take seqMaxLen = entryDigits config entry := by
      rw [tripletDigits_eq, ← List.map_take, take_triplets]
      simp only [entryDigits, spelled, alphabet, Entry.taps]
    have closed : closeSequenceBinaryLocked { system.gesture with
        bitBuf := ((entry.groups.flatMap Group.taps).map fun tap => decide (tap.2 = .double)).take (seqMaxLen * 3) } =
        enteredIn config entry system.gesture.silencePhase system.gesture := by
      simp only [closeSequenceBinaryLocked, spells, enteredIn, bits]
    rw [← alphabet]
    refine ⟨_, system.gesture.silencePhase, closes _ _ _ reached ?_⟩
    simp only [closedSequence, alphabet, reduceCtorEq, false_and, if_false, closed]
    exact if_pos some
  | stdtPlain =>
    have other : config.alphabet ≠ .countColor := by simp [alphabet]
    obtain ⟨uptime, reached⟩ := play_groups_other other alone heard entry.groups
    have spells : ((entry.groups.flatMap Group.taps).map fun tap => digitCode (.some (tapCount tap.2))).take seqMaxLen =
        entryDigits config entry := by
      simp only [entryDigits, spelled, alphabet, List.map_take, List.map_map, Function.comp_def, Entry.taps]
    rw [accumulate_plain alphabet (by simp [digits]), digits, List.nil_append, spells] at reached
    rw [← alphabet]
    exact ⟨_, system.gesture.silencePhase, closes _ _ _ reached (closedSequence_plain alphabet some)⟩

/-- The digits of the alphabet. -/
def Enterable (config : Config) (value : Nat) : Prop :=
  match config.alphabet with
  | .countColor => 1 ≤ value ∧ value ≤ config.unlockPaletteSize
  | .stdtBinary => value ≤ 6
  | .stdtPlain => value = 1 ∨ value = 2

instance (config : Config) (value : Nat) : Decidable (Enterable config value) :=
  match alphabet : config.alphabet with
  | .countColor => decidable_of_iff (1 ≤ value ∧ value ≤ config.unlockPaletteSize) (by simp [Enterable, alphabet])
  | .stdtBinary => decidable_of_iff (value ≤ 6) (by simp [Enterable, alphabet])
  | .stdtPlain => decidable_of_iff (value = 1 ∨ value = 2) (by simp [Enterable, alphabet])

theorem Enterable.small (range : PaletteInRange config) (digit : Enterable config value) : value ≤ 9 := by
  unfold Enterable at digit
  cases alphabet : config.alphabet <;> simp only [alphabet] at digit
  · exact Nat.le_trans digit.2 range.2
  · omega
  · omega

theorem triplets_small {bits : List Bool} (digit : some value ∈ triplets bits) : value ≤ 6 := by
  fun_induction triplets bits with
  | case1 first second third rest ih =>
    rcases List.mem_cons.mp digit with here | later
    · revert here
      cases first <;> cases second <;> cases third <;> simp <;> omega
    · exact ih later
  | case2 => cases digit
  | case3 => simp at digit

/-- What a user taps are digits of the alphabet. -/
theorem spelled_enterable (digit : some value ∈ spelled config entry) : Enterable config value := by
  unfold spelled at digit
  unfold Enterable
  cases alphabet : config.alphabet with
  | countColor =>
    simp only [alphabet, List.mem_map] at digit ⊢
    obtain ⟨group, _, counted⟩ := digit
    split_ifs at counted with fits
    obtain rfl := Option.some.inj counted
    exact ⟨group.count_pos, fits⟩
  | stdtBinary =>
    simp only [alphabet] at digit ⊢
    exact triplets_small digit
  | stdtPlain =>
    simp only [alphabet, List.mem_map] at digit ⊢
    obtain ⟨tap, _, counted⟩ := digit
    obtain rfl := Option.some.inj counted
    cases tap.2 <;> decide

/-- The digits of a stored sequence. -/
def digitsOf (sequence : List UInt8) : List (Option Nat) := sequence.map fun digit => some digit.toNat

theorem digitCode_digitsOf (sequence : List UInt8) : (digitsOf sequence).map digitCode = sequence := by
  rw [digitsOf, List.map_map]
  conv_rhs => rw [← List.map_id sequence]
  apply List.map_congr_left
  intro digit _
  exact UInt8.ofNat_toNat

theorem digitsOf_map_digitCode {digits : List (Option Nat)} (valid : none ∉ digits)
    (small : ∀ value, some value ∈ digits → value ≤ 9) : digitsOf (digits.map digitCode) = digits := by
  rw [digitsOf, List.map_map]
  conv_rhs => rw [← List.map_id digits]
  apply List.map_congr_left
  intro digit present
  cases digit with
  | none => exact absurd present valid
  | some value =>
    have bound := small value present
    show some (UInt8.ofNat value).toNat = some value
    rw [UInt8.toNat_ofNat_of_lt' (show value < 2 ^ 8 by omega)]

/-- The first sixteen tapped are the sequence's. -/
theorem entryDigits_matches (range : PaletteInRange config) (entry : Entry) (sequence : List UInt8) :
    (!seqHasInvalid (entryDigits config entry) && decide (entryDigits config entry = sequence)) = true ↔
      (spelled config entry).take seqMaxLen = digitsOf sequence := by
  have small (value : Nat) (digit : some value ∈ (spelled config entry).take seqMaxLen) : value ≤ 9 :=
    (spelled_enterable (List.mem_of_mem_take digit)).small range
  simp only [Bool.and_eq_true, Bool.not_eq_true', decide_eq_true_eq, seqHasInvalid, List.contains_eq_mem,
    decide_eq_false_iff_not]
  constructor
  · rintro ⟨valid, same⟩
    have whole : none ∉ (spelled config entry).take seqMaxLen := fun missing =>
      valid (List.mem_map.mpr ⟨none, missing, rfl⟩)
    rw [← same, entryDigits, digitsOf_map_digitCode whole small]
  · intro same
    have digits : entryDigits config entry = sequence := by rw [entryDigits, same, digitCode_digitsOf]
    refine ⟨fun invalid => ?_, digits⟩
    rw [digits] at invalid
    have mark : some digitInvalid.toNat ∈ (spelled config entry).take seqMaxLen := by
      rw [same]
      exact List.mem_map.mpr ⟨digitInvalid, invalid, rfl⟩
    exact absurd (small _ mark) (by decide)

/-- A sequence of digits that fits the buffer. -/
structure Spellable (config : Config) (sequence : List UInt8) : Prop where
  nonempty : 0 < sequence.length
  short : sequence.length ≤ seqMaxLen
  digits : ∀ digit ∈ sequence, Enterable config digit.toNat

/-- Only the count alphabet needs the silence behind them. -/
def groupFor (config : Config) (digit : UInt8) : Group :=
  match config.alphabet with
  | .countColor => ⟨(200, .single), List.replicate (digit.toNat - 1) (200, .single), 2000⟩
  | .stdtBinary =>
    let bit (value : Nat) : Nat × Tap := (200, if digit.toNat / value % 2 = 1 then .double else .single)
    ⟨bit 4, [bit 2, bit 1], 200⟩
  | .stdtPlain => ⟨(200, if digit = 2 then .double else .single), [], 200⟩

def entryFor (config : Config) (sequence : List UInt8) : Entry := ⟨sequence.map (groupFor config), 2000⟩

theorem triplets_bits (small : value ≤ 6) (rest : List Bool) :
    triplets (decide (value / 4 % 2 = 1) :: decide (value / 2 % 2 = 1) :: decide (value / 1 % 2 = 1) :: rest) =
      some value :: triplets rest := by
  obtain rfl | rfl | rfl | rfl | rfl | rfl | rfl : value = 0 ∨ value = 1 ∨ value = 2 ∨ value = 3 ∨ value = 4 ∨
      value = 5 ∨ value = 6 := by omega
  all_goals rfl

/-- Every sequence of digits can be tapped. -/
theorem spelled_entryFor (sequence : List UInt8) (digits : ∀ digit ∈ sequence, Enterable config digit.toNat) :
    spelled config (entryFor config sequence) = digitsOf sequence := by
  unfold Enterable at digits
  cases alphabet : config.alphabet with
  | countColor =>
    simp only [alphabet] at digits
    simp only [spelled, alphabet, entryFor, digitsOf, List.map_map]
    apply List.map_congr_left
    intro digit present
    obtain ⟨positive, fits⟩ := digits digit present
    have count : (groupFor config digit).count = digit.toNat := by
      simp [groupFor, alphabet, Group.count, Group.taps, tapCount]
      omega
    rw [Function.comp_apply, count, if_pos fits]
  | stdtBinary =>
    simp only [alphabet] at digits
    simp only [spelled, alphabet, entryFor, Entry.taps, digitsOf]
    induction sequence with
    | nil => rfl
    | cons digit rest ih =>
      rw [List.forall_mem_cons] at digits
      have bits := triplets_bits digits.1
      simp only [List.map_cons, List.flatMap_cons, groupFor, alphabet, Group.taps, List.cons_append,
        List.nil_append, ite_eq_left_iff, reduceCtorEq, imp_false, not_not] at ih ⊢
      rw [bits, ih digits.2]
  | stdtPlain =>
    simp only [alphabet] at digits
    simp only [spelled, alphabet, entryFor, Entry.taps, digitsOf]
    induction sequence with
    | nil => rfl
    | cons digit rest ih =>
      rw [List.forall_mem_cons] at digits
      have count : tapCount (if digit = 2 then .double else .single) = digit.toNat := by
        rcases digits.1 with one | two
        · obtain rfl : digit = 1 := UInt8.toNat_inj.mp one
          rfl
        · obtain rfl : digit = 2 := UInt8.toNat_inj.mp two
          rfl
      simp only [List.map_cons, List.flatMap_cons, groupFor, alphabet, Group.taps, List.cons_append,
        List.nil_append, count] at ih ⊢
      rw [ih digits.2]

/-- What can be tapped is spelled with the alphabet's digits. -/
theorem spellable_iff {sequence : List UInt8} (nonempty : 0 < sequence.length) (short : sequence.length ≤ seqMaxLen) :
    Spellable config sequence ↔ ∃ entry, (spelled config entry).take seqMaxLen = digitsOf sequence := by
  constructor
  · intro spellable
    refine ⟨entryFor config sequence, ?_⟩
    rw [spelled_entryFor sequence spellable.digits, List.take_of_length_le]
    rwa [digitsOf, List.length_map]
  · rintro ⟨entry, same⟩
    refine ⟨nonempty, short, fun digit present => ?_⟩
    have tapped : some digit.toNat ∈ (spelled config entry).take seqMaxLen := by
      rw [same]
      exact List.mem_map.mpr ⟨digit, present, rfl⟩
    exact spelled_enterable (List.mem_of_mem_take tapped)

end Entries

end Cantil.TapEntry
