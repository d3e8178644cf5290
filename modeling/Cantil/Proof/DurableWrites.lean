import Cantil.Firmware.Storage
import Mathlib.Data.List.TakeDrop

/-! The calls of one write, on a medium that takes over the contents of a file when it is closed. -/

namespace Cantil.Littlefs
open Library

/-- How the calls of one write end, up to the first failure. -/
structure Calls where
  mkdir : Option Errno
  opened : Option Errno
  written : Except Errno Nat
  closed : Option Errno
  deriving DecidableEq

/-- A file on the medium and what a close would commit. -/
structure File where
  committed : Option Bytes
  pending : Option Bytes
  deriving DecidableEq

variable (calls : Calls) (data : Bytes) (file : File)

/-- A new file is there at once, an old one cut on close. -/
def fsOpen : File := ⟨some (file.committed.getD []), some []⟩

/-- A file whose write fails commits nothing. -/
def fsWrite : File := { file with pending := calls.written.toOption.map data.take }

def fsClose : File :=
  match calls.closed with
  | some _ => { file with pending := none }
  | none => ⟨file.pending.orElse fun _ => file.committed, none⟩

/-- The result of the close is not looked at. -/
def writeFile (old : Option Bytes) : Except Errno Unit × Option Bytes :=
  match calls.mkdir, calls.opened with
  | some error, _ => (.error error, old)
  | none, some error => (.error error, old)
  | none, none =>
    let file := fsClose calls (fsWrite calls data (fsOpen ⟨old, none⟩))
    (if calls.written = .ok data.length then .ok () else .error .eio, file.committed)

def readFile (capacity : Nat) (content : Option Bytes) : Except Errno Bytes :=
  match content with
  | none => .error .enoent
  | some data => .ok (data.take capacity)

/-- The outcome of the write as the store sees it. -/
def Calls.outcome : WriteOutcome :=
  match calls.mkdir, calls.opened with
  | some error, _ => .mkdirFailed error
  | none, some error => .openFailed error
  | none, none =>
    if calls.written = .ok data.length then if calls.closed = none then .done else .uncommitted
    else .short (if calls.closed = none then calls.written.toOption else none)

/-- A reported write lasts, a failure keeps old or new. -/
structure Durable (old : Option Bytes) (outcome : Except Errno Unit × Option Bytes) : Prop where
  reported : outcome.1 = .ok () → ∀ capacity, data.length ≤ capacity → readFile capacity outcome.2 = .ok data
  failed : ∀ error, outcome.1 = .error error → outcome.2 = old ∨ outcome.2 = some data

/-- Closed well after a whole write, else left alone. -/
def Safe (old : Option Bytes) : Prop :=
  calls.mkdir = none → calls.opened = none →
    match calls.written, calls.closed with
    | .ok count, none => data.length ≤ count ∨ old = some (data.take count)
    | .ok count, some _ => if count = data.length then old.getD [] = data else old ≠ none ∨ data = []
    | .error _, _ => old ≠ none ∨ data = []

section Writes

variable {calls : Calls} {data : Bytes} {old : Option Bytes}

/-- The store's own write is this one. -/
theorem writeFile_refines {faults : Faults} {path : Path} {device : Device}
    (outcome : faults.write path = calls.outcome data) :
    (Cantil.writeFile faults path data device).1 = (writeFile calls data (device.fs.files path)).1 ∧
      (Cantil.writeFile faults path data device).2.fs.files path = (writeFile calls data (device.fs.files path)).2 := by
  obtain ⟨mkdir, opened, written, closed⟩ := calls
  rcases mkdir with _ | error <;> rcases opened with _ | error
  case none.none =>
    by_cases whole : written = .ok data.length
    · cases closed <;> simp_all [Calls.outcome, Cantil.writeFile, writeFile, fsOpen, fsWrite, fsClose, Except.toOption]
    · cases written <;> cases closed <;>
        simp_all [Calls.outcome, Cantil.writeFile, writeFile, fsOpen, fsWrite, fsClose, Except.toOption]
  all_goals simp_all [Calls.outcome, Cantil.writeFile, writeFile]

/-- A write that comes up short leaves a part. -/
theorem writeFile_refines_short :
    (Cantil.writeFile ⟨fun _ => .short (some 1), fun _ => none, none, fun _ => false, 0⟩ (.slot 0 .key) [7, 8]
      ⟨Fs.empty, .valid, false⟩).2.fs.files (.slot 0 .key) = some [7] :=
  (@writeFile_refines ⟨none, none, .ok 1, none⟩ [7, 8] _ _ _ rfl).2

theorem durable_unchanged (error : Errno) : Durable data old (.error error, old) :=
  ⟨fun ok => (by cases ok), fun _ _ => .inl rfl⟩

theorem durable_ok {content : Bytes} : Durable data old (.ok (), some content) ↔ content = data := by
  constructor
  · intro durable
    have read := durable.reported rfl (max data.length content.length) (le_max_left _ _)
    simpa [readFile, List.take_of_length_le (le_max_right data.length content.length)] using read
  · rintro rfl
    exact ⟨fun _ capacity room => by simp [readFile, List.take_of_length_le room], fun _ failed => by cases failed⟩

theorem durable_error {error : Errno} {content : Bytes} :
    Durable data old (.error error, some content) ↔ old = some content ∨ content = data := by
  constructor
  · intro durable
    exact (durable.failed error rfl).imp Eq.symm Option.some.inj
  · intro kept
    exact ⟨fun ok => (by cases ok), fun _ _ => kept.imp Eq.symm (congrArg some)⟩

/-- A file that is there only since it was opened is empty. -/
theorem left_iff : old = some (old.getD []) ∨ old.getD [] = data ↔ old ≠ none ∨ data = [] := by
  cases old with
  | none => simp [eq_comm]
  | some content => simp

/-- A write is durable exactly when its calls end well. -/
theorem writeFile_durable_iff (calls : Calls) (data : Bytes) (old : Option Bytes) :
    Durable data old (writeFile calls data old) ↔ Safe calls data old := by
  unfold writeFile Safe
  rcases calls.mkdir with _ | error <;> rcases calls.opened with _ | error
  case none.none =>
    simp only [fsOpen, fsWrite, fsClose, forall_const]
    rcases calls.written with error | count <;> rcases calls.closed with _ | late
    · simpa [Except.toOption, durable_error] using left_iff
    · simpa [Except.toOption, durable_error] using left_iff
    · by_cases whole : count = data.length
      · simp [whole, Except.toOption, durable_ok]
      · simp [whole, Except.toOption, durable_error, or_comm]
    · by_cases whole : count = data.length
      · simp [whole, durable_ok]
      · simpa [whole, durable_error] using left_iff
  all_goals simpa using durable_unchanged _

end Writes

/-- The close fails, and a short write is closed. -/
theorem writeFile_not_durable :
    writeFile ⟨none, none, .ok 1, some .eio⟩ [7] (some [3]) = (.ok (), some [3]) ∧
      writeFile ⟨none, none, .ok 1, none⟩ [7, 8] (some [3]) = (.error .eio, some [7]) ∧
      ¬ Durable [7] (some [3]) (.ok (), some [3]) ∧ ¬ Durable [7, 8] (some [3]) (.error .eio, some [7]) := by
  rw [durable_ok, durable_error]
  decide

end Cantil.Littlefs
