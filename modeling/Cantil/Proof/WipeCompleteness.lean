import Cantil.Firmware.VolumeTree

namespace Cantil.VolumeTree
open Library

/-- The wiped directories and the configuration are empty. -/
structure Wiped (root : Tree) : Prop where
  dirs : ∀ dir ∈ wipedDirs, ∀ name rest, root.fileAt (dir :: name :: rest) = none
  config : ∀ file ∈ configFiles, root.fileAt [file] = none

/-- The write reaches the file. -/
def Stores : WriteOutcome → Prop
  | .done => True
  | .mkdirFailed _ => False
  | .openFailed _ => False
  | .short _ => True
  | .uncommitted => True

/-- The wipe makes this file when it overwrites the keys. -/
def Makes (faults : TreeFaults) (root : Tree) (route : Route) : Prop :=
  route ∈ overwrittenFiles ∧ FileTree.blocked route (some root) = false ∧ Stores (faults.write route)

/-- The wipe reaches every file, and can remove it. -/
structure Wipeable (faults : TreeFaults) (root : Tree) : Prop where
  dirs : ∀ dir ∈ wipedDirs, ∀ name rest,
    (root.fileAt (dir :: name :: rest)).isSome ∨ Makes faults root (dir :: name :: rest) →
      sweeps faults [dir] (name :: rest) = true
  config : ∀ file ∈ configFiles, (root.fileAt [file]).isSome → faults.unlink [file] = none

section Leftovers

variable {faults : TreeFaults} {root : Tree} {volume : VolumeState}

theorem writeContent_isSome (outcome : WriteOutcome) (old : Option Bytes) (data : Bytes) :
    (SessionSlot.writeContent outcome old data).2.isSome ↔ old.isSome ∨ Stores outcome := by
  rcases outcome with _ | error | error | (_ | kept) | _ <;> simp [SessionSlot.writeContent, Stores]

/-- After the overwriting: what was there, and what it makes. -/
theorem overwrite_isSome (faults : TreeFaults) (root : Tree) (route : Route) :
    ((overwrite faults root).fileAt route).isSome ↔ (root.fileAt route).isSome ∨ Makes faults root route := by
  rw [overwrite_fileAt, Makes]
  by_cases target : route ∈ overwrittenFiles ∧ FileTree.blocked route (some root) = false
  · rw [if_pos target, writeContent_isSome]
    simp [target.1, target.2]
  · rw [if_neg target]
    have other : ¬ (route ∈ overwrittenFiles ∧ FileTree.blocked route (some root) = false ∧
        Stores (faults.write route)) := fun made => target ⟨made.1, made.2.1⟩
    simp [other]

/-- A file is left when it was there or made, and not swept. -/
theorem left_iff (trusted : volume ≠ .mismatch) {dir : Bytes} (wiped : dir ∈ wipedDirs) (name : Bytes) (rest : Route) :
    ((storageSecureWipe faults volume root).2.fileAt (dir :: name :: rest)).isSome ↔
      ((root.fileAt (dir :: name :: rest)).isSome ∨ Makes faults root (dir :: name :: rest)) ∧
        sweeps faults [dir] (name :: rest) = false := by
  have swept : wipes faults (dir :: name :: rest) = sweeps faults [dir] (name :: rest) := by
    simp [wipes, wiped]
  rw [storageSecureWipe_fileAt trusted, swept, ← overwrite_isSome]
  cases sweeps faults [dir] (name :: rest) <;> simp

theorem config_left_iff (trusted : volume ≠ .mismatch) {file : Bytes} (known : file ∈ configFiles) :
    ((storageSecureWipe faults volume root).2.fileAt [file]).isSome ↔
      (root.fileAt [file]).isSome ∧ faults.unlink [file] ≠ none := by
  have removed : wipes faults [file] = (faults.unlink [file]).isNone := by
    simp [wipes, sweeps, known]
  have kept : (overwrite faults root).fileAt [file] = root.fileAt [file] := by
    rw [overwrite_fileAt]
    simp [overwrittenFiles]
  rw [storageSecureWipe_fileAt trusted, removed, kept]
  cases faults.unlink [file] <;> simp

end Leftovers

/-- A wipe is complete exactly if it removes every file. -/
theorem storageSecureWipe_complete_iff (faults : TreeFaults) (volume : VolumeState) (root : Tree) :
    (∀ after, storageSecureWipe faults volume root = (.ok (), after) → Wiped after) ↔
      (volume ≠ .mismatch → Wipeable faults root) := by
  by_cases foreign : volume = .mismatch
  · simp [storageSecureWipe, foreign]
  · have returns : storageSecureWipe faults volume root = (.ok (), (storageSecureWipe faults volume root).2) := by
      simp [storageSecureWipe, foreign]
    have only (after : Tree) : storageSecureWipe faults volume root = (.ok (), after) ↔
        after = (storageSecureWipe faults volume root).2 := by
      rw [returns, Prod.mk.injEq]
      exact ⟨fun done => done.2.symm, fun same => ⟨rfl, same.symm⟩⟩
    simp only [only, forall_eq, ne_eq, foreign, not_false_eq_true, forall_true_left]
    constructor
    · intro wiped
      constructor
      · intro dir inside name rest present
        by_contra stuck
        have left := (left_iff foreign inside name rest).mpr ⟨present, by simpa using stuck⟩
        simp [wiped.dirs dir inside name rest] at left
      · intro file known present
        by_contra stuck
        have left := (config_left_iff foreign known).mpr ⟨present, stuck⟩
        simp [wiped.config file known] at left
    · intro wipeable
      constructor
      · intro dir inside name rest
        by_contra present
        obtain ⟨found, stuck⟩ := (left_iff foreign inside name rest).mp (Option.isSome_iff_ne_none.mpr present)
        rw [wipeable.dirs dir inside name rest found] at stuck
        cases stuck
      · intro file known
        by_contra present
        obtain ⟨found, stuck⟩ := (config_left_iff foreign known).mp (Option.isSome_iff_ne_none.mpr present)
        exact stuck (wipeable.config file known found)

/-- A volume with one key, in slot 1. -/
def keyedVolume : Tree := .store [1] [keysDir, [49], keyFile] none

/-- The key of slot 1 cannot be removed. -/
def stuckFaults : TreeFaults where
  write _ := .done
  made _ := 0
  opendir _ := none
  missed _ := false
  unlink route := if route = [keysDir, [49], keyFile] then some .eio else none
  unlinkAgain _ := none

/-- The wipe reports success and leaves the key. -/
theorem stuckFaults_leaves_key :
    (storageSecureWipe stuckFaults .valid keyedVolume).1 = .ok () ∧
      (storageSecureWipe stuckFaults .valid keyedVolume).2.fileAt [keysDir, [49], keyFile] = some [1] := by
  decide +kernel

/-- The store that this volume holds. -/
def keyedStore : Device :=
  ⟨⟨filesOf keyedVolume, [], List.nodup_nil, fun _ _ found => by cases found⟩, .valid, false⟩

/-- A key that is stuck is left by both wipes. -/
theorem stuckFaults_refines :
    (Cantil.storageSecureWipe (flatFaults stuckFaults keyedVolume 0) keyedStore).2.fs.files =
      filesOf (storageSecureWipe stuckFaults .valid keyedVolume).2 :=
  storageSecureWipe_refines _ _ 0 (by decide) rfl

end Cantil.VolumeTree
