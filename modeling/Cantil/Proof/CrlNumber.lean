import Cantil.Firmware.Effects
import Cantil.Proof.CrlContents

namespace Cantil.Ca
open Library

variable (device : Device) (slot : Slot) (name : Bytes)

/-- The number that the slot keeps for its list, or zero. -/
def storedNumber : Nat :=
  ((storageSlotCrlNumberRead slot device).1.toOption.getD 0).toNat

def revokedSerials : List Bytes :=
  (revokedRecords device slot).map Prod.fst

def revokedAt : Bool :=
  (recordAt device name).any fun record => record.isRevokedBy slot

/-- The serial, if the slot has revoked it. -/
def revokedSerial : Option Bytes :=
  if revokedAt device slot name then decodeName name else none

/-- A directory that names a serial is read at its own name. -/
theorem issuedRecord_eq :
    issuedRecord device name =
      (decodeName name).bind fun serial => (recordAt device name).map fun record => (serial, record) := by
  rcases decoded : decodeName name with _ | serial
  · simp [issuedRecord, decoded]
  · have read := readIssuedMeta_toOption (decodeName_sized decoded).2 device
    rw [hexName_of_decodeName decoded] at read
    rcases held : recordAt device name with _ | record
    · simp [issuedRecord, decoded, read, held]
    · simp [issuedRecord, decoded, read, held]

theorem revokedSerials_eq : revokedSerials device slot = device.fs.certDirs.filterMap (revokedSerial device slot) := by
  rw [revokedSerials, revokedRecords, issuedRecords, List.filter_filterMap, List.map_filterMap]
  apply List.filterMap_congr
  intro name _
  rw [issuedRecord_eq, revokedSerial, revokedAt]
  rcases decodeName name with _ | serial
  · simp
  · rcases recordAt device name with _ | record
    · rfl
    · by_cases revoked : record.isRevokedBy slot
      · simp [Option.filter, revoked]
      · simp [Option.filter, revoked]

variable {device before after : Device} {slot : Slot} {path : Path} {faults : Faults} {env : Env}

/-- A directory that is not listed holds no revoked certificate. -/
theorem revokedSerial_unlisted {name : Bytes} (unlisted : name ∉ device.fs.certDirs) (slot : Slot) :
    revokedSerial device slot name = none := by
  have empty : device.fs.files (.issued name .metadata) = none := by
    rcases held : device.fs.files (.issued name .metadata) with _ | blob
    · rfl
    · exact absurd (device.fs.listed name .metadata (by rw [held]; rfl)) unlisted
  simp [revokedSerial, revokedAt, recordAt, empty]

/-- A new directory changes no selection elsewhere. -/
theorem filterMap_mkdirP {Value : Type} (fs : Fs) (place : Nat) (path : Path) (select : Bytes → Option Value)
    (fresh : ∀ name, name ∉ fs.certDirs → select name = none) :
    (fs.mkdirP place path).certDirs.filterMap select = fs.certDirs.filterMap select := by
  cases path with
  | slot number file => rfl
  | client id file => rfl
  | issued name file =>
    simp only [Fs.mkdirP]
    split_ifs with listed
    · rfl
    · simp only [List.filterMap_append, List.filterMap_cons_none (fresh name listed)]
      rw [← List.filterMap_append, List.take_append_drop]

/-- The list of the slot and its number are the same. -/
def SameCrl (slot : Slot) (before after : Device) : Prop :=
  storedNumber after slot = storedNumber before slot ∧ revokedSerials after slot = revokedSerials before slot

instance (slot : Slot) : IsPreorder Device (SameCrl slot) where
  refl _ := ⟨rfl, rfl⟩
  trans _ _ _ first second := ⟨second.1.trans first.1, second.2.trans first.2⟩

/-- A file of fewer than four octets counts as zero. -/
theorem storedNumber_eq (device : Device) (slot : Slot) :
    storedNumber device slot = ((device.fs.files (.slot slot .crlNumber)).elim 0 fun blob =>
      if (blob.take 4).length = 4 then bigEndianValue (blob.take 4) % 2 ^ 32 else 0) := by
  rcases held : device.fs.files (.slot slot .crlNumber) with _ | blob
  · simp [storedNumber, storageSlotCrlNumberRead, Op.bind_apply, readFile, held, Except.toOption]
  · simp only [storedNumber, storageSlotCrlNumberRead, Op.bind_apply, readFile, Op.reads_apply, held,
      Op.ensure, Option.elim_some]
    by_cases full : (blob.take 4).length = 4
    · simp only [if_pos full]
      simp [Except.toOption]
    · simp only [if_neg full]
      simp [Except.toOption]

theorem storedNumber_of_file (same : after.fs.files (.slot slot .crlNumber) = before.fs.files (.slot slot .crlNumber)) :
    storedNumber after slot = storedNumber before slot := by
  rw [storedNumber_eq, storedNumber_eq, same]

/-- The list depends on the listed directories and their files. -/
theorem sameCrl_of {place : Nat} (dirs : after.fs.certDirs = (before.fs.mkdirP place path).certDirs)
    (number : after.fs.files (.slot slot .crlNumber) = before.fs.files (.slot slot .crlNumber))
    (records : ∀ name, revokedAt after slot name = revokedAt before slot name) : SameCrl slot before after := by
  refine ⟨storedNumber_of_file number, ?_⟩
  have same : revokedSerial after slot = revokedSerial before slot := by
    funext name
    simp only [revokedSerial, records name]
  rw [revokedSerials_eq, revokedSerials_eq, dirs, same]
  exact filterMap_mkdirP before.fs place path _ fun name unlisted => revokedSerial_unlisted unlisted slot

theorem revokedAt_of_file {name : Bytes}
    (same : after.fs.files (.issued name .metadata) = before.fs.files (.issued name .metadata)) (slot : Slot) :
    revokedAt after slot name = revokedAt before slot name := by
  simp only [revokedAt, recordAt, same]

/-- Files other than number and records may be stored. -/
theorem sameCrl_put {content : Bytes} (place : Nat) (free : path ≠ .slot slot .crlNumber)
    (record : ∀ name, path = .issued name .metadata →
      revokedAt { device with fs := device.fs.put place path content } slot name = revokedAt device slot name) :
    SameCrl slot device { device with fs := device.fs.put place path content } := by
  refine sameCrl_of rfl ?_ fun name => ?_
  · simp [Function.update_of_ne free.symm]
  · by_cases here : path = .issued name .metadata
    · exact record name here
    · exact revokedAt_of_file (by simp [Function.update_of_ne (Ne.symm here)]) slot

theorem sameCrl_mkdirP (slot : Slot) (device : Device) (path : Path) (place : Nat) :
    SameCrl slot device { device with fs := device.fs.mkdirP place path } :=
  sameCrl_of rfl (by simp) fun name => revokedAt_of_file (by simp) slot

/-- Paths with neither the slot's number nor a record. -/
def OffCrl (slot : Slot) : Path → Prop
  | .slot number file => number ≠ slot ∨ file ≠ .crlNumber
  | .issued _ file => file = .cert
  | .client _ _ => True

theorem OffCrl.ne (off : OffCrl slot path) : path ≠ .slot slot .crlNumber ∧ ∀ name, path ≠ .issued name .metadata := by
  constructor
  · rintro rfl
    rcases off with different | different
    · exact different rfl
    · exact different rfl
  · rintro name rfl
    cases off

/-- The list depends on directories, number and records. -/
theorem sameCrl_of_files (dirs : after.fs.certDirs = before.fs.certDirs)
    (files : ∀ path, ¬ OffCrl slot path → after.fs.files path = before.fs.files path) : SameCrl slot before after := by
  have listed : after.fs.certDirs = (before.fs.mkdirP 0 (.slot slot .key)).certDirs := dirs
  refine sameCrl_of listed (files _ fun off => off.ne.1 rfl) fun name => ?_
  exact revokedAt_of_file (files _ fun off => off.ne.2 name rfl) slot

theorem writable_sameCrl (off : OffCrl slot path) : Writable (SameCrl slot) faults path := by
  constructor
  · intro data device
    rcases writeFile_state faults path data device with same | made | ⟨content, stored, _⟩
    · rw [same]
      exact refl device
    · rw [made]
      exact sameCrl_mkdirP slot device path faults.place
    · rw [stored]
      exact sameCrl_put _ off.ne.1 fun name here => absurd here (off.ne.2 name)
  · intro device
    unfold unlinkFile
    split_ifs
    · exact refl device
    · split
      · exact refl device
      · refine sameCrl_of_files rfl fun kept on => ?_
        have different : kept ≠ path := fun same => on (same ▸ off)
        simp [Fs.removeIf, different]

/-- The number does not fall, and while it stands the list stays. -/
def Advances (slot : Slot) (before after : Device) : Prop :=
  storedNumber before slot ≤ storedNumber after slot ∧
    (storedNumber before slot = storedNumber after slot →
      revokedSerials after slot = revokedSerials before slot)

instance (slot : Slot) : IsPreorder Device (Advances slot) where
  refl _ := ⟨Nat.le_refl _, fun _ => rfl⟩
  trans first second third earlier later := by
    refine ⟨Nat.le_trans earlier.1 later.1, fun still => ?_⟩
    have middle : storedNumber first slot = storedNumber second slot :=
      Nat.le_antisymm earlier.1 (still ▸ later.1)
    exact (later.2 (middle ▸ still)).trans (earlier.2 middle)

theorem SameCrl.advances (same : SameCrl slot before after) : Advances slot before after :=
  ⟨Nat.le_of_eq same.1.symm, fun _ => same.2⟩

theorem writable_advances (off : OffCrl slot path) : Writable (Advances slot) faults path :=
  ⟨fun data device => ((writable_sameCrl off).write data device).advances,
    fun device => ((writable_sameCrl off).unlink device).advances⟩

/-- No write of a record stops with a part of it committed. -/
def Untorn (faults : Faults) : Prop := ∀ name kept, faults.write (.issued name .metadata) ≠ .short (some kept)

/-- A record as revoked as before keeps the list. -/
theorem rewriteRecord_sameCrl {serial : Bytes} {record updated : IssuedMeta} (untorn : Untorn faults)
    (read : (readIssuedMeta serial device).1 = .ok record) (current : updated.version = issuedMetaVersion)
    (same : (storageIssuedMetaWrite faults serial updated.bytes device).1 = .ok () →
      updated.isRevokedBy slot = record.isRevokedBy slot) :
    SameCrl slot device (storageIssuedMetaWrite faults serial updated.bytes device).2 := by
  have held := (recordAt_of_read read).2
  have framed := writeFile_frame faults (.issued (hexName serial) .metadata) updated.bytes device
  obtain ⟨target, dirs⟩ := writeFile_certDirs faults (.issued (hexName serial) .metadata) updated.bytes device
  rw [← storageIssuedMetaWrite_of_read read] at framed dirs
  refine sameCrl_of dirs (framed _ (by simp)) fun name => ?_
  by_cases here : name = hexName serial
  · subst here
    rcases rewriteRecord_recordAt read (untorn _) current with ⟨stored, now⟩ | now
    · simp only [revokedAt, now, held, Option.any_some, same stored]
    · simp only [revokedAt, now, held]
  · exact revokedAt_of_file (framed _ (by simpa using Ne.symm here)) slot

/-- Other flags than the revoking one revoke nothing. -/
theorem isRevokedBy_or {record : IssuedMeta} {bits : UInt8} (other : bits &&& issuedFlagRevoked = 0)
    (slot : Slot) :
    { record with flags := record.flags ||| bits : IssuedMeta }.isRevokedBy slot = record.isRevokedBy slot := by
  have kept : (record.flags ||| bits) &&& issuedFlagRevoked = record.flags &&& issuedFlagRevoked :=
    and_mask_or other
  simp only [IssuedMeta.isRevokedBy, kept]

theorem remarks_advances {bits : UInt8} (untorn : Untorn faults) (other : bits &&& issuedFlagRevoked = 0) :
    Remarks (Advances slot) faults bits := by
  intro device serial record read
  have current := readIssuedMeta_version read
  exact (rewriteRecord_sameCrl untorn read (by exact current)
    fun _ => isRevokedBy_or other slot).advances

/-- Nothing becomes revoked, and the list stays. -/
def KeepsFresh (slot : Slot) (name : Bytes) (before after : Device) : Prop :=
  revokedAt before slot name = false → SameCrl slot before after ∧ revokedAt after slot name = false

instance (slot : Slot) (name : Bytes) : IsPreorder Device (KeepsFresh slot name) where
  refl device := fun fresh => ⟨refl device, fresh⟩
  trans first second third earlier later := by
    intro fresh
    obtain ⟨same, still⟩ := earlier fresh
    obtain ⟨next, last⟩ := later still
    exact ⟨IsTrans.trans first second third same next, last⟩

theorem writable_keepsFresh (off : OffCrl slot path) (name : Bytes) : Writable (KeepsFresh slot name) faults path := by
  have keeps {device after : Device} (same : SameCrl slot device after) (frame : SameOutside (path = ·) device after) :
      KeepsFresh slot name device after := by
    intro fresh
    refine ⟨same, ?_⟩
    rw [revokedAt_of_file (frame _ (off.ne.2 name)) slot]
    exact fresh
  constructor
  · intro data device
    exact keeps ((writable_sameCrl off).write data device) (writeFile_respects rfl data device)
  · intro device
    exact keeps ((writable_sameCrl off).unlink device) (unlinkFile_respects rfl device)

/-- Octets whose second is zero record no revocation. -/
theorem not_revoked_of_flags {content : Bytes} (plain : content.getD 1 0 = 0) (slot : Slot) :
    ((parseIssuedMeta (content.take (issuedMetaSize + 8))).toOption.any
      fun record => record.isRevokedBy slot) = false := by
  rcases read : parseIssuedMeta (content.take (issuedMetaSize + 8)) with error | record
  · rfl
  · have flags := (parseIssuedMeta_ok read).2
    have same : (content.take (issuedMetaSize + 8)).getD 1 0 = content.getD 1 0 := by
      simp [issuedMetaSize]
    rw [same, plain] at flags
    simp [Except.toOption, IssuedMeta.isRevokedBy, flags]

/-- A fresh certificate's record revokes nothing, even torn. -/
theorem persistIssue_keepsFresh (slot : Slot) (env : Env) (issue : Issue) :
    Op.Respects (KeepsFresh slot (hexName issue.serial)) (persistIssue env issue) := by
  have off : OffCrl slot (.issued (hexName issue.serial) .cert) := rfl
  have cert : Writable (KeepsFresh slot (hexName issue.serial)) env.toFaults
      (.issued (hexName issue.serial) .cert) := writable_keepsFresh off _
  refine Op.Respects.bind (.read fun _ => cert.write _) fun _ => ?_
  intro device fresh
  unfold storageIssuedMetaWrite
  rcases named : hexPath issue.serial .metadata with error | path
  · exact ⟨refl device, fresh⟩
  · obtain rfl := hexPath_eq_ok named
    show SameCrl slot device (writeFile env.toFaults (.issued (hexName issue.serial) .metadata)
        issue.record.bytes device).2 ∧
      revokedAt (writeFile env.toFaults (.issued (hexName issue.serial) .metadata)
        issue.record.bytes device).2 slot (hexName issue.serial) = false
    rcases writeFile_state env.toFaults (.issued (hexName issue.serial) .metadata) issue.record.bytes device
      with unchanged | made | ⟨content, stored, shape⟩
    · rw [unchanged]
      exact ⟨refl device, fresh⟩
    · rw [made]
      exact ⟨sameCrl_mkdirP slot device _ _, (revokedAt_of_file (by simp) slot).trans fresh⟩
    · rw [stored]
      have plain : content.getD 1 0 = 0 ∨
          device.fs.files (.issued (hexName issue.serial) .metadata) = some content := by
        rcases shape with ⟨_, rfl⟩ | rfl | ⟨kept, _, rfl⟩
        · exact .inl rfl
        · rcases device.fs.files (.issued (hexName issue.serial) .metadata) with _ | blob
          · exact .inl rfl
          · exact .inr rfl
        · refine .inl ?_
          rcases kept with _ | _ | kept <;> rfl
      have still : revokedAt
          { device with fs := device.fs.put env.place (.issued (hexName issue.serial) .metadata) content }
          slot (hexName issue.serial) = false := by
        rcases plain with zero | same
        · simpa [revokedAt, recordAt] using not_revoked_of_flags zero slot
        · exact (revokedAt_of_file (by simp [same]) slot).trans fresh
      refine ⟨sameCrl_put _ (by simp) fun name here => ?_, still⟩
      injection here with sameName
      subst sameName
      rw [still, fresh]

/-- Signing under a serial that is not revoked keeps the list. -/
theorem caSignKeySlot_advances {config : Config} {crypto : Crypto} {issuer subject : Slot}
    (fresh : ∀ serial, (genSerial env device).1 = .ok serial → revokedAt device slot (hexName serial) = false) :
    Advances slot device (caSignKeySlot config crypto env issuer subject device).2 := by
  refine caSignKeySlot_related fun issue drawn => ?_
  have off (file : SlotFile) (other : file ≠ .crlNumber) : OffCrl slot (.slot subject file) := .inr other
  have cert : Writable (KeepsFresh slot (hexName issue.serial)) env.toFaults (.slot subject .cert) :=
    writable_keepsFresh (off .cert (by decide)) _
  have chain : Writable (KeepsFresh slot (hexName issue.serial)) env.toFaults (.slot subject .chain) :=
    writable_keepsFresh (off .chain (by decide)) _
  have kept := (cert.write issue.der).bind fun _ =>
    (storageSlotChainDelete_respects chain).attempt.bind fun _ => persistIssue_keepsFresh slot env issue
  exact (kept device (fresh issue.serial drawn)).1.advances

/-- The two calls with which a revocation bumps the number. -/
def bumpNumber (faults : Faults) (slot : Slot) : Op Device Errno Unit := do
  let number ← (storageSlotCrlNumberRead slot).attempt
  let _ ← (storageSlotCrlNumberWrite faults slot (number.toOption.getD 0 + 1)).attempt

theorem bumpNumber_state (faults : Faults) (slot : Slot) (device : Device) :
    (bumpNumber faults slot device).2 = (storageSlotCrlNumberWrite faults slot
      ((storageSlotCrlNumberRead slot device).1.toOption.getD 0 + 1) device).2 := by
  have reader : device = (storageSlotCrlNumberRead slot device).2 := (Op.Reader.kept device).symm
  rw [bumpNumber, Op.bind_apply, Op.attempt_apply, ← reader]
  rfl

/-- The number that a completed bump stores. -/
theorem storedNumber_bump (written : faults.write (.slot slot .crlNumber) = .done)
    (room : storedNumber device slot + 1 < 2 ^ 32) :
    storedNumber (bumpNumber faults slot device).2 slot = storedNumber device slot + 1 := by
  have next : ((storageSlotCrlNumberRead slot device).1.toOption.getD 0 + 1).toNat =
      storedNumber device slot + 1 := by
    have one : (1 : UInt32).toNat = 1 := rfl
    rw [UInt32.toNat_add, one, ← storedNumber, Nat.mod_eq_of_lt room]
  rw [bumpNumber_state, storageSlotCrlNumberWrite, writeFile_done written, storedNumber_eq, next]
  generalize storedNumber device slot + 1 = number at room
  have whole : (bigEndian 4 number).take 4 = bigEndian 4 number := List.take_of_length_le (by simp)
  have fits : number < 256 ^ 4 := by
    exact room
  rw [Fs.put_files, Function.update_self, Option.elim_some, whole, if_pos (bigEndian_length 4 number),
    bigEndianValue_bigEndian_of_lt fits, Nat.mod_eq_of_lt room]

/-- A revocation that stores its number advances the list. -/
theorem caRevokeCert_advances {serial : Bytes} {nowUnix : UInt64} (untorn : Untorn env.toFaults)
    (written : env.write (.slot slot .crlNumber) = .done) (room : storedNumber device slot + 1 < 2 ^ 32) :
    Advances slot device (caRevokeCert env serial nowUnix device).2 := by
  refine Op.relates_ensure fun _ => Op.relates_reader fun record read => ?_
  refine Op.relates_ensure fun _ => Op.relates_ensure fun _ => ?_
  let updated : IssuedMeta := { record with
    flags := record.flags ||| issuedFlagRevoked, revokedAtUnix := nowUnix, revocationReason := 0 }
  have version := readIssuedMeta_version read
  have current : updated.version = issuedMetaVersion := version
  by_cases issuer : record.issuerSlot = slot
  · subst issuer
    rcases outcome : storageIssuedMetaWrite env.toFaults serial updated.bytes device with ⟨error | _, after⟩
    · have failed : SameCrl record.issuerSlot device
          (storageIssuedMetaWrite env.toFaults serial updated.bytes device).2 :=
        rewriteRecord_sameCrl untorn read current (by simp [outcome])
      rw [outcome] at failed
      rw [Op.bind_of_error outcome]
      exact failed.advances
    · have framed : SameOutside (.issued (hexName serial) .metadata = ·) device after := by
        have record : Writable (SameOutside (.issued (hexName serial) .metadata = ·)) env.toFaults
            (.issued (hexName serial) .metadata) := writable_of_touched rfl
        simpa only [outcome] using storageIssuedMetaWrite_respects record updated.bytes device
      have number : storedNumber after record.issuerSlot = storedNumber device record.issuerSlot :=
        storedNumber_of_file (framed _ (by simp))
      have bumped := storedNumber_bump written (by rw [number]; exact room)
      rw [number] at bumped
      rw [Op.bind_of_ok outcome]
      constructor
      · exact Nat.le_of_lt (Nat.lt_of_lt_of_eq (Nat.lt_succ_self _) bumped.symm)
      · intro still
        exact absurd (still.trans bumped) (Nat.ne_of_lt (Nat.lt_succ_self _))
  · have unlisted : updated.isRevokedBy slot = record.isRevokedBy slot := by
      simp [IssuedMeta.isRevokedBy, updated, issuer]
    refine Op.relates_bind (rewriteRecord_sameCrl untorn read current fun _ => unlisted).advances
      fun _ between _ => ?_
    have other : OffCrl slot (.slot record.issuerSlot .crlNumber) := .inl issuer
    exact (Op.Respects.read fun _ =>
      ((writable_advances other).write _).attempt.bind fun _ => .pure _) between

/-- The deletion of another slot keeps the list. -/
theorem storageSlotDelete_advances {other : Slot} (different : other ≠ slot) :
    Op.Respects (Advances slot) (storageSlotDelete faults other) := by
  have removed : Op.Respects (Advances slot) (removeSlotDir faults other) := by
    intro device
    refine SameCrl.advances (sameCrl_of_files (by rfl) fun path on => ?_)
    cases path with
    | slot number file =>
      have apart : number ≠ other := by
        rintro rfl
        exact on (.inl different)
      simp [removeSlotDir, slotEmptied, Fs.removeIf, apart]
    | issued name file => rfl
    | client id file => rfl
  have key : OffCrl slot (.slot other .key) := .inl different
  refine ((writable_advances key).write _).attempt.bind fun _ => removed.attempt.bind fun outcome => ?_
  split
  · exact .pure ()
  · exact .pure ()
  · exact .fail _

theorem setProvisioned_advances (slot : Slot) : Op.Respects (Advances slot) setProvisioned :=
  fun _ => SameCrl.advances (sameCrl_of_files (by rfl) fun _ _ => rfl)

end Cantil.Ca

namespace Cantil.Dispatcher
open Library Ca Trace
open Protocol (Command)

/-- The drawn serial is none that the slot has revoked. -/
def DrawsFresh (env : Env) (device : Device) (slot : Slot) : Prop :=
  ∀ serial, (genSerial env device).1 = .ok serial → revokedAt device slot (hexName serial) = false

/-- The command neither drops the number nor tears records. -/
def KeepsNumber (slot : Slot) (device : Device) (env : Env) (data : Bytes) : Command → Prop
  | .resetDevice => False
  | .deleteKey => slotArg data ≠ slot
  | .revokeCert =>
    Untorn env.toFaults ∧ env.write (.slot slot .crlNumber) = .done ∧ storedNumber device slot + 1 < 2 ^ 32
  | .autoExpire => Untorn env.toFaults
  | .protectSlot => Untorn env.toFaults
  | .signCsr => DrawsFresh env device slot
  | .signCsrSlot => DrawsFresh env device slot
  | .signKeySlot => DrawsFresh env device slot
  | _ => True

/-- What the event runs keeps the number. -/
def Steady (config : Config) (slot : Slot) (device : Device) (event : Event) : Prop :=
  ∀ env command data, executes config device event = some (env, command, data) →
    KeepsNumber slot device env data command

variable {config : Config} {crypto : Crypto} {slot : Slot}

/-- A steady command advances the list of the slot. -/
theorem Effect.advances {env : Env} {data : Bytes} {device after : Device} {command : Command}
    (effect : Effect config crypto env data device command after) (steady : KeepsNumber slot device env data command) :
    Advances slot device after := by
  have file (other : Slot) {file : SlotFile} (kind : file ≠ .crlNumber) :
      Writable (Advances slot) env.toFaults (.slot other file) :=
    writable_advances (show OffCrl slot (.slot other file) from .inr kind)
  have general (plain : command ∈ framedCommands ∧ command ∉ issuedCommands ∧ .crlNumber ∉ slotFiles command) :
      Advances slot device after :=
    effect.related plain.1 (fun _ inside other => file other fun number => plain.2.2 (number ▸ inside))
      (fun inside => absurd inside plain.2.1) (setProvisioned_advances slot)
  cases effect with
  | refused => exact refl device
  | signCsr | signCsrSlot =>
    refine caSignCsrSlot_related fun issue drawn => ?_
    exact (persistIssue_keepsFresh slot env issue device (steady issue.serial drawn)).1.advances
  | signKeySlot => exact caSignKeySlot_advances steady
  | autoExpire => exact caAutoExpire_respects (remarks_advances steady (by decide)) _ device
  | revokeCert => exact caRevokeCert_advances steady.1 steady.2.1 steady.2.2
  | protectSlot =>
    exact caProtectSlot_respects (file _ (by decide)) (remarks_advances steady (by decide)) _ device
  | deleteKey => exact caDeleteKey_respects (storageSlotDelete_advances steady) device
  | resetDevice => exact steady.elim
  | elsewhere _ bonds =>
    refine SameCrl.advances (sameCrl_of_files (by rfl) fun path on => ?_)
    cases path with
    | slot number file => rfl
    | issued name file => rfl
    | client id file => exact absurd trivial on
  | _ => exact general (by decide)

theorem Steady.advances {device : Device} {event : Event} (steady : Steady config slot device event) :
    Advances slot device (step config crypto device event) := by
  rcases step_cases config crypto device event with same | ⟨env, command, data, runs, effect⟩ |
    ⟨env, volume, rfl, booted⟩
  · rw [same]
    exact refl device
  · exact effect.advances (steady env command data runs)
  · have cert : OffCrl slot (.slot caSlot .cert) := .inr (by decide)
    have reset : Advances slot device { device with provisioned := false, volume } :=
      SameCrl.advances (sameCrl_of_files (by rfl) fun _ _ => rfl)
    exact boot_related reset (writable_advances cert) (setProvisioned_advances slot)

theorem crlNumberShown_eq (device : Device) (slot : Slot) :
    (crlNumberShown (storageSlotCrlNumberRead slot device).1).toNat =
      if storedNumber device slot = 0 then 1 else storedNumber device slot := by
  unfold crlNumberShown storedNumber
  generalize (storageSlotCrlNumberRead slot device).1.toOption.getD 0 = stored
  by_cases zero : stored = 0
  · simp [zero]
  · have positive : stored.toNat ≠ 0 := fun empty => zero (UInt32.toNat_inj.mp empty)
    rw [if_neg zero, if_neg positive]

/-- A number never falls, and rises with changes after the first. -/
theorem getCrl_number_advances (config : Config) (crypto : Crypto) (firstEnv laterEnv : Env) (start : Device)
    (events : List Event) (firstData laterData stale : Bytes) (firstResp laterResp : RespData)
    (inPlace : SubjectInPlace crypto.toWolfReader) (sameSlot : slotArg laterData = slotArg firstData)
    (first : (serve config crypto firstEnv Command.getCrl.code firstData start).1 =
      .ok (.reply ⟨.ok, firstResp⟩))
    (steady : ∀ visit ∈ visits (step config crypto) start events,
      Steady config (slotArg firstData) visit.1 visit.2)
    (later : (serve config crypto laterEnv Command.getCrl.code laterData
      (run (step config crypto) start events)).1 = .ok (.reply ⟨.ok, laterResp⟩)) :
    ∃ older newer, Crl.read (RespData.bytes stale firstResp) = some older ∧
      Crl.read (RespData.bytes stale laterResp) = some newer ∧ older.number ≤ newer.number ∧
      ((∃ serial, ¬ (serial ∈ older.serials ↔ serial ∈ newer.serials)) →
        ¬ (storedNumber start (slotArg firstData) = 0 ∧
          storedNumber (run (step config crypto) start events) (slotArg firstData) = 1) →
        older.number < newer.number) := by
  have advances : Advances (slotArg firstData) start _ :=
    run_related _ _ start events fun visit visited => (steady visit visited).advances
  refine ⟨_, _, read_getCrl inPlace first stale, read_getCrl inPlace later stale, ?_, ?_⟩
  all_goals
    have grows := advances.1
    simp only [sameSlot, crlNumberShown_eq]
  · split_ifs <;> omega
  · rintro ⟨serial, differs⟩ allowed
    have moved : storedNumber start (slotArg firstData) ≠
        storedNumber (run (step config crypto) start events) (slotArg firstData) := by
      intro still
      have shown := congrArg (·.take crlMaxRevoked |>.map bigEndianValue) (advances.2 still)
      simp only [revokedSerials, ← List.map_take, List.map_map, Function.comp_def] at shown
      rw [shown] at differs
      exact differs Iff.rfl
    split_ifs <;> omega

/-- A second certificate is signed and revoked. -/
def secondRevocation (env : Env) : List Event :=
  [request 6 .signCsr (plainPoint (List.replicate 32 9)),
    .request env Command.revokeCert.code (8 :: 7 :: List.replicate 7 6)]

def twiceRevokedDevice (env : Env) : Device :=
  run (step .default plainCrypto) revokedDevice (secondRevocation env)

def twiceRevokedCrl (env : Env) : RespData :=
  replyData (serve .default plainCrypto (plainEnv 5) Command.getCrl.code crlRequest (twiceRevokedDevice env)).1

/-- Both requests run, with a new serial and room to count. -/
theorem secondRevocation_executes :
    revokedAt revokedDevice caSlot (hexName (7 :: List.replicate 7 6)) = false ∧
      Protocol.dispatch .default (plainEnv 6).gestureState (conditions (plainEnv 6) revokedDevice)
        Command.signCsr.code = .executed .signCsr ∧
      let device := step .default plainCrypto revokedDevice (request 6 .signCsr (plainPoint (List.replicate 32 9)))
      storedNumber device caSlot + 1 < 2 ^ 32 ∧
        Protocol.dispatch .default (plainEnv 8).gestureState (conditions (plainEnv 8) device)
          Command.revokeCert.code = .executed .revokeCert := by
  decide +kernel

theorem secondSignature_steady :
    Steady .default caSlot revokedDevice (request 6 .signCsr (plainPoint (List.replicate 32 9))) := by
  have serial : (genSerial (plainEnv 6) revokedDevice).1 = .ok (7 :: List.replicate 7 6) := rfl
  have signs : executes .default revokedDevice (request 6 .signCsr (plainPoint (List.replicate 32 9))) =
      some (plainEnv 6, .signCsr, plainPoint (List.replicate 32 9)) :=
    (executes_request _ _ _ _).mpr ⟨secondRevocation_executes.2.1, rfl⟩
  intro env command data runs
  rw [signs] at runs
  cases runs
  intro drawn same
  obtain rfl := Except.ok.inj same
  exact secondRevocation_executes.1

theorem secondRevocation_steady :
    ∀ visit ∈ visits (step .default plainCrypto) revokedDevice (secondRevocation (plainEnv 8)),
      Steady .default caSlot visit.1 visit.2 := by
  rw [secondRevocation, visits_cons, visits_cons, visits_nil, List.forall_mem_cons,
    List.forall_mem_singleton]
  dsimp only
  refine ⟨secondSignature_steady, ?_⟩
  obtain ⟨room, runs⟩ := secondRevocation_executes.2.2
  generalize step .default plainCrypto revokedDevice
    (request 6 .signCsr (plainPoint (List.replicate 32 9))) = device at room runs ⊢
  have revokes : executes .default device
      (.request (plainEnv 8) Command.revokeCert.code (8 :: 7 :: List.replicate 7 6)) =
        some (plainEnv 8, .revokeCert, 8 :: 7 :: List.replicate 7 6) :=
    (executes_request _ _ _ _).mpr ⟨runs, rfl⟩
  intro env command data runs
  rw [revokes] at runs
  cases runs
  exact ⟨fun _ _ => nofun, rfl, room⟩

/-- The second revocation raises the number. -/
theorem twiceRevokedDevice_advances :
    ∃ older newer, Crl.read (RespData.bytes [] revokedCrl) = some older ∧
      Crl.read (RespData.bytes [] (twiceRevokedCrl (plainEnv 8))) = some newer ∧
      (∃ serial, ¬ (serial ∈ older.serials ↔ serial ∈ newer.serials)) ∧ older.number < newer.number := by
  have evaluated :
      (serve .default plainCrypto (plainEnv 5) Command.getCrl.code crlRequest revokedDevice).1 =
          .ok (.reply ⟨.ok, revokedCrl⟩) ∧
        (serve .default plainCrypto (plainEnv 5) Command.getCrl.code crlRequest (twiceRevokedDevice (plainEnv 8))).1 =
          .ok (.reply ⟨.ok, twiceRevokedCrl (plainEnv 8)⟩) ∧
        storedNumber revokedDevice caSlot ≠ 0 ∧
        (Crl.read (RespData.bytes [] revokedCrl)).map Crl.View.serials = some [bigEndianValue (List.replicate 8 3)] ∧
        (Crl.read (RespData.bytes [] (twiceRevokedCrl (plainEnv 8)))).map Crl.View.serials =
          some [bigEndianValue (7 :: List.replicate 7 6), bigEndianValue (List.replicate 8 3)] := by
    decide +kernel
  obtain ⟨firstAnswer, laterAnswer, counted, before, after⟩ := evaluated
  obtain ⟨older, newer, first, later, _, rises⟩ :=
    getCrl_number_advances .default plainCrypto (plainEnv 5) (plainEnv 5) revokedDevice
      (secondRevocation (plainEnv 8)) crlRequest crlRequest [] revokedCrl (twiceRevokedCrl (plainEnv 8))
      plainCrypto_subjectInPlace rfl firstAnswer secondRevocation_steady laterAnswer
  rw [first] at before
  rw [later] at after
  have differs : ∃ serial, ¬ (serial ∈ older.serials ↔ serial ∈ newer.serials) := by
    refine ⟨bigEndianValue (7 :: List.replicate 7 6), ?_⟩
    rw [Option.some.inj before, Option.some.inj after]
    decide +kernel
  exact ⟨older, newer, first, later, differs, rises differs fun both => counted both.1⟩

/-- The medium has no room for the number. -/
def fullEnv : Env :=
  { plainEnv 8 with write := fun path => if path = .slot caSlot .crlNumber then .openFailed .enospc else .done }

/-- The length and the number of the list of a slot. -/
def crlShown (slot : UInt8) (device : Device) : Option (Nat × Nat) :=
  (Crl.read (RespData.bytes [] (replyData (serve .default plainCrypto (plainEnv 5) Command.getCrl.code
    ([0, 0, 0, slot] ++ crlRequest.drop 4) device).1))).map fun view => (view.serials.length, view.number)

/-- Slot 1 revokes two certificates. -/
def subRevocations : Device := run (step .default plainCrypto) provisionedDevice
  [request 2 .genKey [], request 3 .pushKeyX509 ([0, 0, 0, 1] ++ plainParams),
    request 4 .signCsrSlot ([0, 0, 0, 1] ++ plainPoint (List.replicate 32 9)),
    request 5 .signCsrSlot ([0, 0, 0, 1] ++ plainPoint (List.replicate 32 9)),
    request 6 .revokeCert (8 :: List.replicate 8 5), request 6 .revokeCert (8 :: 5 :: List.replicate 7 4)]

/-- Its key is deleted, and another one takes its number. -/
def subReuse : Device := run (step .default plainCrypto) subRevocations
  [request 7 .deleteKey [0, 0, 0, 1], request 8 .genKey [], request 9 .pushKeyX509 ([0, 0, 0, 1] ++ plainParams)]

/-- The number repeats unstored and at first, and falls with the key. -/
theorem fullEnv_repeats_number :
    (serve .default plainCrypto (plainEnv 5) Command.getCrl.code crlRequest revokedDevice).1 =
        .ok (.reply ⟨.ok, revokedCrl⟩) ∧
      (serve .default plainCrypto (plainEnv 5) Command.getCrl.code crlRequest (twiceRevokedDevice fullEnv)).1 =
        .ok (.reply ⟨.ok, twiceRevokedCrl fullEnv⟩) ∧
      crlShown 0 revokedDevice = some (1, 1) ∧ crlShown 0 (twiceRevokedDevice fullEnv) = some (2, 1) ∧
      crlShown 0 provisionedDevice = some (0, 1) ∧
      crlShown 1 subRevocations = some (2, 2) ∧ crlShown 1 subReuse = some (2, 1) := by
  decide +kernel

end Cantil.Dispatcher
