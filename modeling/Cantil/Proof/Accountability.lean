import Cantil.Proof.Issuance

namespace Cantil.Ca
open Library

/-- A record of the serial can be read. -/
def Recorded (device : Device) (serial : Bytes) : Prop := ∃ record, (readIssuedMeta serial device).1 = .ok record

/-- The call reports success. -/
def WriteOutcome.Reported (outcome : WriteOutcome) : Prop := outcome = .done ∨ outcome = .uncommitted

/-- Both calls that store an issued certificate report success. -/
def Stores (env : Env) (issue : Issue) : Prop :=
  WriteOutcome.Reported (env.write (.issued (hexName issue.serial) .cert)) ∧
    WriteOutcome.Reported (env.write (.issued (hexName issue.serial) .metadata))

/-- A record is committed or could be read before. -/
def KeepsRecord (env : Env) (device : Device) (issue : Issue) : Prop :=
  Stores env issue ∧
    (env.write (.issued (hexName issue.serial) .metadata) = .done ∨ Recorded device issue.serial)

section Persist

variable {env : Env} {issue : Issue} {device : Device}

theorem writeFile_ok_iff (faults : Faults) (path : Path) (data : Bytes) (device : Device) :
    (writeFile faults path data device).1 = .ok () ↔ WriteOutcome.Reported (faults.write path) := by
  rcases outcome : faults.write path with _ | error | error | (_ | kept) | _
  all_goals simp [writeFile, outcome, WriteOutcome.Reported]

theorem recorded_iff (short : issue.serial.length ≤ 20) :
    Recorded device issue.serial ↔ (recordAt device (hexName issue.serial)).isSome := by
  rw [← readIssuedMeta_toOption short, Option.isSome_iff_exists]
  simp only [toOption_eq_some, Recorded]

/-- Without a commit the record stays as it was. -/
theorem recordAt_uncommitted {faults : Faults} {name data : Bytes}
    (lost : faults.write (.issued name .metadata) = .uncommitted) (device : Device) :
    recordAt (writeFile faults (.issued name .metadata) data device).2 name = recordAt device name := by
  rcases held : device.fs.files (.issued name .metadata) with _ | blob
  · simp [writeFile, lost, recordAt, held, parseIssuedMeta, Except.toOption]
  · simp [writeFile, lost, recordAt, held]

theorem recordAt_certWrite (faults : Faults) (name data : Bytes) (device : Device) :
    recordAt (writeFile faults (.issued name .cert) data device).2 name = recordAt device name := by
  have frame := writeFile_frame faults (.issued name .cert) data device
  simp only [recordAt, frame (.issued name .metadata) (by simp)]

theorem persistIssue_ok_iff (short : issue.serial.length ≤ 20) :
    (persistIssue env issue device).1 = .ok () ↔ Stores env issue := by
  rw [persistIssue_eq short, Op.bind_ok_iff]
  simp only [Unique.exists_iff, PUnit.default_eq_unit, writeFile_ok_iff, Stores]

/-- Success leaves a readable record when the writes keep one. -/
theorem persistIssue_recorded_iff (short : issue.serial.length ≤ 20) :
    ((persistIssue env issue device).1 = .ok () ∧ Recorded (persistIssue env issue device).2 issue.serial) ↔
      KeepsRecord env device issue := by
  rw [persistIssue_ok_iff short, KeepsRecord, and_congr_right_iff, recorded_iff short, recorded_iff short,
    persistIssue_eq short]
  rintro ⟨cert, record⟩
  have before := recordAt_certWrite env.toFaults (hexName issue.serial) issue.der device
  rcases stored : writeFile env.toFaults (.issued (hexName issue.serial) .cert) issue.der device with
    ⟨result, between⟩
  obtain rfl : result = .ok () := by
    have reported := (writeFile_ok_iff env.toFaults _ issue.der device).mpr cert
    rw [stored] at reported
    exact reported
  rw [stored] at before
  rw [Op.bind_of_ok stored]
  rcases record with done | lost
  · rw [writeFile_done done, recordAt_put issue env.place between]
    simp [done]
  · rw [recordAt_uncommitted lost between, before]
    simp [lost]

end Persist

end Cantil.Ca

namespace Cantil.Dispatcher
open Library Ca
open Protocol (Err Command)

/-- What the response buffer holds before a handler runs. -/
abbrev Stack := { bytes : Bytes // bytes.length = respCapacity }

variable (seq : UInt32) (stale : Stack) (err : Err)

/-- The data of the response that is sent. -/
def sentData : Except Errno Answer → Bytes
  | .ok (.reply reply) =>
    match respond seq stale.1 reply with
    | .ok _ => RespData.bytes stale.1 reply.data
    | .error _ => []
  | _ => []

/-- A response with this data fits the message buffer. -/
def Fits (data : Bytes) : Prop := (Cbor.responseBytes seq 0 data).length ≤ msgBufSize

instance (seq : UInt32) (data : Bytes) : Decidable (Fits seq data) := inferInstanceAs (Decidable (_ ≤ _))

theorem sentData_reply (reply : Reply) :
    sentData seq stale (.ok (.reply reply)) =
      if Fits seq (RespData.bytes stale.1 reply.data) then RespData.bytes stale.1 reply.data else [] := by
  have small : reply.err.code.toNat < 24 := by cases reply.err <;> decide
  have encoded : respond seq stale.1 reply =
      if Fits seq (RespData.bytes stale.1 reply.data) then
        .ok (Cbor.responseBytes seq reply.err.code (RespData.bytes stale.1 reply.data))
      else .error .enomem := by
    rw [respond, Cbor.encodeResponse_eq, Cbor.responseBytes_length small]
    rfl
  rw [sentData, encoded]
  split_ifs <;> rfl

/-- A buffer that was never cut does not fit. -/
theorem sentData_untouched : sentData seq stale (.ok (.reply ⟨err, RespData.untouched⟩)) = [] := by
  have whole : RespData.bytes stale.1 RespData.untouched = stale.1 := by
    simp [RespData.bytes, RespData.untouched, ← stale.2]
  have some : stale.1 ≠ [] := by
    intro empty
    have sized := stale.2
    rw [empty] at sized
    exact absurd sized (by decide)
  rw [sentData_reply, if_neg]
  rw [whole, Fits]
  have long := Cbor.responseBytes_long some seq 0
  have sized := stale.2
  simp only [respCapacity, msgBufSize] at *
  omega

theorem sentData_none : sentData seq stale (.ok (refusal err)) = [] := by
  have empty : RespData.bytes stale.1 RespData.none = [] := by simp [RespData.bytes, RespData.none]
  rw [refusal, sentData_reply, empty, ite_self]

theorem sentData_of (der : Bytes) :
    sentData seq stale (.ok (.reply ⟨err, RespData.of der⟩)) = if Fits seq der then der else [] := by
  have whole : RespData.bytes stale.1 (RespData.of der) = der := by simp [RespData.bytes, RespData.of]
  rw [sentData_reply, whole]

/-- The certificate became the installed one of a slot. -/
def Installs (before after : Device) (der : Bytes) : Prop :=
  der ≠ [] ∧ ∃ slot, before.fs.files (.slot slot .cert) ≠ some der ∧ after.fs.files (.slot slot .cert) = some der

/-- What leaves has a record, and an error lets nothing out. -/
structure Accounts (config : Config) (crypto : Crypto) (env : Env) (data : Bytes) (seq : UInt32) (stale : Stack)
    (device : Device) (command : Command) : Prop where
  sent : sentData seq stale (handle config crypto env data command device).1 ≠ [] → ∃ issue,
    signs config crypto env data device command = some issue ∧
      sentData seq stale (handle config crypto env data command device).1 = issue.der ∧
      Recorded (handle config crypto env data command device).2 issue.serial
  installed : ∀ issue, signs config crypto env data device command = some issue →
    Installs device (handle config crypto env data command device).2 issue.der →
    Recorded (handle config crypto env data command device).2 issue.serial
  silent : ∀ reply, (handle config crypto env data command device).1 = .ok (.reply reply) → reply.err ≠ .ok →
    sentData seq stale (handle config crypto env data command device).1 = [] ∧
      ∀ issue, signs config crypto env data device command = some issue →
        ¬ Installs device (handle config crypto env data command device).2 issue.der

/-- The writes that let a certificate out keep its record. -/
def RecordsFirst (config : Config) (crypto : Crypto) (env : Env) (data : Bytes) (seq : UInt32) (device : Device)
    (command : Command) : Prop :=
  ∀ issue, signs config crypto env data device command = some issue →
    match command with
    | .signCsr => issue.der ≠ [] → Fits seq issue.der → KeepsRecord env device issue
    | .signCsrSlot => issue.der ≠ [] → Fits seq issue.der → Stores env issue → KeepsRecord env device issue
    | _ =>
      issue.der ≠ [] → device.fs.files (.slot (slotArg (data.drop 4)) .cert) ≠ some issue.der →
        (env.write (.slot (slotArg (data.drop 4)) .cert) = .done → KeepsRecord env device issue) ∧
          ∀ kept, env.write (.slot (slotArg (data.drop 4)) .cert) = .short (some kept) →
            kept < issue.der.length

section Signing

variable {config : Config} {crypto : Crypto} {env : Env} {data : Bytes} {seq : UInt32} {stale : Stack}
  {device : Device} {issue : Issue}
variable {command : Command} {reply : Reply} {after : Device}

/-- The writes of an issued certificate install nothing. -/
theorem persistIssue_installs (device : Device) (der : Bytes) :
    ¬ Installs device (persistIssue env issue device).2 der := by
  rintro ⟨_, slot, old, new⟩
  have issued (file : IssuedFile) : Writable (SameOutside fun path => ∃ name file, path = .issued name file)
      env.toFaults (.issued (hexName issue.serial) file) := writable_of_touched ⟨_, _, rfl⟩
  have frame := persistIssue_respects issued device
  exact old ((frame _ (by simp)).symm.trans new)

variable (ran : handle config crypto env data command device = (.ok (.reply reply), after))

include ran

theorem accounts_iff
    (signed : signs config crypto env data device command = some issue) :
    Accounts config crypto env data seq stale device command ↔
      (sentData seq stale (.ok (.reply reply)) ≠ [] →
        sentData seq stale (.ok (.reply reply)) = issue.der ∧ Recorded after issue.serial) ∧
      (Installs device after issue.der → Recorded after issue.serial) ∧
      (reply.err ≠ .ok → sentData seq stale (.ok (.reply reply)) = [] ∧ ¬ Installs device after issue.der) := by
  constructor
  · rintro ⟨sent, installed, silent⟩
    rw [ran] at sent installed silent
    refine ⟨fun some => ?_, installed issue signed, fun failed => ?_⟩
    · obtain ⟨found, same, rest⟩ := sent some
      obtain rfl : issue = found := Option.some.inj (signed.symm.trans same)
      exact rest
    · obtain ⟨nothing, absent⟩ := silent reply rfl failed
      exact ⟨nothing, absent issue signed⟩
  · rintro ⟨sent, installed, silent⟩
    refine ⟨?_, ?_, ?_⟩
    all_goals rw [ran]
    · intro some
      exact ⟨issue, signed, sent some⟩
    · intro found same
      obtain rfl : issue = found := Option.some.inj (signed.symm.trans same)
      exact installed
    · intro found same failed
      obtain rfl : reply = found := by injection same with same; injection same
      refine ⟨(silent failed).1, fun other same => ?_⟩
      obtain rfl : issue = other := Option.some.inj (signed.symm.trans same)
      exact (silent failed).2

/-- A command that lets nothing out is accounted for. -/
theorem accounts_of_quiet
    (nothing : sentData seq stale (.ok (.reply reply)) = [])
    (absent : ∀ issue, signs config crypto env data device command = some issue → ¬ Installs device after issue.der) :
    Accounts config crypto env data seq stale device command := by
  refine ⟨fun some => ?_, fun issue signed there => ?_, fun _ _ _ => ⟨?_, fun issue signed => ?_⟩⟩
  all_goals rw [ran] at *
  · exact absurd nothing some
  · exact absurd there (absent issue signed)
  · exact nothing
  · exact absent issue signed

/-- One that signs nothing has nothing to record. -/
theorem unsigned_accounts_iff
    (unsigned : signs config crypto env data device command = none)
    (nothing : sentData seq stale (.ok (.reply reply)) = []) :
    Accounts config crypto env data seq stale device command ↔
      RecordsFirst config crypto env data seq device command := by
  have never (issue : Issue) : signs config crypto env data device command ≠ some issue := by
    rw [unsigned]
    exact nofun
  exact iff_of_true (accounts_of_quiet ran nothing fun issue signed => absurd signed (never issue))
    fun issue signed => absurd signed (never issue)

/-- A command that installs nothing accounts for what it sends. -/
theorem accounts_iff_of_uninstalled (signed : signs config crypto env data device command = some issue)
    (absent : ¬ Installs device after issue.der) :
    Accounts config crypto env data seq stale device command ↔ (sentData seq stale (.ok (.reply reply)) ≠ [] →
      reply.err = .ok ∧ sentData seq stale (.ok (.reply reply)) = issue.der ∧ Recorded after issue.serial) := by
  rw [accounts_iff ran signed]
  tauto

/-- One that sends nothing accounts for what it installs. -/
theorem accounts_iff_of_unsent (signed : signs config crypto env data device command = some issue)
    (nothing : sentData seq stale (.ok (.reply reply)) = []) :
    Accounts config crypto env data seq stale device command ↔
      (Installs device after issue.der → reply.err = .ok ∧ Recorded after issue.serial) := by
  rw [accounts_iff ran signed]
  tauto

omit ran

theorem signCsr_accounts_iff :
    Accounts config crypto env data seq stale device .signCsr ↔
      RecordsFirst config crypto env data seq device .signCsr := by
  rcases signed : signs config crypto env data device .signCsr with _ | issue
  · exact unsigned_accounts_iff (handleSignCsr_unsigned signed) signed (sentData_untouched _ _ _)
  · have ran : handle config crypto env data .signCsr device = _ := handleSignCsr_signed signed
    simp only [RecordsFirst, signed, Option.some.injEq, forall_eq']
    rw [accounts_iff_of_uninstalled ran signed (persistIssue_installs device issue.der), sentData_of,
      ← persistIssue_recorded_iff (signs_short signed)]
    by_cases fits : Fits seq issue.der
    · simp [fits]
    · simp [fits]

theorem signCsrSlot_accounts_iff :
    Accounts config crypto env data seq stale device .signCsrSlot ↔
      RecordsFirst config crypto env data seq device .signCsrSlot := by
  rcases signed : signs config crypto env data device .signCsrSlot with _ | issue
  · obtain ⟨err, _, ran⟩ := handleSignCsrSlot_unsigned signed
    exact unsigned_accounts_iff ran signed (sentData_none _ _ _)
  · have ran : handle config crypto env data .signCsrSlot device = _ := handleSignCsrSlot_signed signed
    have persisted : (persistIssue env issue device).1 = .ok () ↔ Stores env issue :=
      persistIssue_ok_iff (signs_short signed)
    simp only [RecordsFirst, signed, Option.some.injEq, forall_eq']
    rw [accounts_iff_of_uninstalled ran signed (persistIssue_installs device issue.der),
      ← persistIssue_recorded_iff (signs_short signed), ← persisted]
    by_cases stored : (persistIssue env issue device).1 = .ok ()
    · rw [if_pos stored, sentData_of]
      by_cases fits : Fits seq issue.der
      · simp [fits, stored]
      · simp [fits]
    · have nothing := sentData_none seq stale (signErr (persistIssue env issue device).1)
      rw [refusal] at nothing
      rw [if_neg stored, nothing]
      simp [stored]

/-- `SIGN_KEY_SLOT` keeps the certificates after its first write. -/
theorem afterInstall_certs (env : Env) (issue : Issue) (subject slot : Slot) (between : Device) :
    (persistIssue env issue (storageSlotChainDelete env.toFaults subject between).2).2.fs.files
      (.slot slot .cert) = between.fs.files (.slot slot .cert) := by
  have chain : Writable (SameOutside fun path => ∀ slot, path ≠ .slot slot .cert) env.toFaults
      (.slot subject .chain) := writable_of_touched (by simp)
  have issued (file : IssuedFile) : Writable (SameOutside fun path => ∀ slot, path ≠ .slot slot .cert)
      env.toFaults (.issued (hexName issue.serial) file) := writable_of_touched (by simp)
  rw [persistIssue_respects issued _ (.slot slot .cert) (by simp)]
  exact storageSlotChainDelete_respects chain between _ (by simp)

/-- What an uncommitted write leaves is no new certificate. -/
theorem getD_ne_some {held : Option Bytes} {der : Bytes} (some : der ≠ []) (old : held ≠ .some der) :
    held.getD [] ≠ der := by
  cases held with
  | none => exact Ne.symm some
  | some blob => exact fun same => old (congrArg Option.some same)

/-- A write that is done leaves the new certificate. -/
theorem certWrite_holds_iff {subject : Slot} (some : issue.der ≠ [])
    (old : device.fs.files (.slot subject .cert) ≠ .some issue.der) :
    (writeFile env.toFaults (.slot subject .cert) issue.der device).2.fs.files (.slot subject .cert) =
        .some issue.der ↔
      env.write (.slot subject .cert) = .done ∨
        ∃ kept, env.write (.slot subject .cert) = .short (.some kept) ∧ issue.der.length ≤ kept := by
  have lost := getD_ne_some some old
  have cut (kept : Nat) : issue.der.take kept = issue.der ↔ issue.der.length ≤ kept := by
    refine ⟨fun same => ?_, List.take_of_length_le⟩
    have sized := congrArg List.length same
    rw [List.length_take] at sized
    omega
  rcases outcome : env.write (.slot subject .cert) with _ | error | error | (_ | kept) | _
  all_goals simp [writeFile, outcome, old, lost, cut]

theorem installs_iff {subject : Slot}
    (certs : ∀ slot, after.fs.files (.slot slot .cert) =
      (writeFile env.toFaults (.slot subject .cert) issue.der device).2.fs.files (.slot slot .cert)) :
    Installs device after issue.der ↔
      (issue.der ≠ [] ∧ device.fs.files (.slot subject .cert) ≠ some issue.der) ∧
        (env.write (.slot subject .cert) = .done ∨
          ∃ kept, env.write (.slot subject .cert) = .short (some kept) ∧ issue.der.length ≤ kept) := by
  have frame := writeFile_frame env.toFaults (.slot subject .cert) issue.der device
  constructor
  · rintro ⟨nonempty, slot, old, new⟩
    rw [certs] at new
    have same : subject = slot := by
      by_contra other
      exact old ((frame _ (by simpa using other)).symm.trans new)
    subst same
    exact ⟨⟨nonempty, old⟩, (certWrite_holds_iff nonempty old).mp new⟩
  · rintro ⟨⟨nonempty, old⟩, written⟩
    exact ⟨nonempty, subject, old, (certs subject).trans ((certWrite_holds_iff nonempty old).mpr written)⟩

/-- Later commands see the record of the serial as it was. -/
theorem keepsRecord_congr {before : Device} (short : issue.serial.length ≤ 20)
    (same : SameOutside (fun path => ∃ slot file, path = .slot slot file) before after) :
    KeepsRecord env after issue ↔ KeepsRecord env before issue := by
  rw [KeepsRecord, KeepsRecord, recorded_iff short, recorded_iff short, recordAt, recordAt, same _ (by simp)]

/-- A failed first write must leave no new certificate. -/
theorem accounts_iff_of_failed {error : Errno} {between : Device}
    (signed : signs config crypto env data device .signKeySlot = some issue)
    (wrote : writeFile env.toFaults (.slot (slotArg (data.drop 4)) .cert) issue.der device =
      (.error error, between)) :
    Accounts config crypto env data seq stale device .signKeySlot ↔
      ¬ Installs device between issue.der := by
  have ran : handle config crypto env data .signKeySlot device =
      (.ok (refusal (signErr (.error error))), between) := by
    refine (handleSignKeySlot_signed signed).trans ?_
    have failed : storageSlotCertWrite env.toFaults (slotArg (data.drop 4)) issue.der device =
      (.error error, between) := wrote
    rw [Op.bind_of_error failed]
  rw [accounts_iff_of_unsent ran signed (sentData_none _ _ _)]
  exact imp_congr_right fun _ => iff_of_false (fun fine => signErr_ne_ok error fine.1) id

/-- After a done first write, the record must be kept. -/
theorem accounts_iff_of_written {between : Device}
    (signed : signs config crypto env data device .signKeySlot = some issue)
    (wrote : writeFile env.toFaults (.slot (slotArg (data.drop 4)) .cert) issue.der device =
      (.ok (), between)) :
    Accounts config crypto env data seq stale device .signKeySlot ↔
      (Installs device between issue.der → KeepsRecord env device issue) := by
  let middle := (storageSlotChainDelete env.toFaults (slotArg (data.drop 4)) between).2
  have ran : handle config crypto env data .signKeySlot device =
      (.ok (refusal (signErr (persistIssue env issue middle).1)), (persistIssue env issue middle).2) := by
    refine (handleSignKeySlot_signed signed).trans ?_
    have done : storageSlotCertWrite env.toFaults (slotArg (data.drop 4)) issue.der device =
      (.ok (), between) := wrote
    rw [Op.bind_of_ok done]
    rfl
  have same : Installs device (persistIssue env issue middle).2 issue.der ↔ Installs device between issue.der := by
    have certs (slot : Slot) := afterInstall_certs env issue (slotArg (data.drop 4)) slot between
    simp only [Installs, middle, certs]
  have unseen : KeepsRecord env middle issue ↔ KeepsRecord env device issue := by
    have file (file : SlotFile) : Writable (SameOutside fun path => ∃ slot file, path = .slot slot file)
        env.toFaults (.slot (slotArg (data.drop 4)) file) := writable_of_touched ⟨_, _, rfl⟩
    have installed := (file .cert).write issue.der device
    rw [wrote] at installed
    exact keepsRecord_congr (signs_short signed)
      (IsTrans.trans _ _ _ installed (storageSlotChainDelete_respects (file .chain) between))
  rw [accounts_iff_of_unsent ran signed (sentData_none _ _ _), same, ← unseen,
    ← persistIssue_recorded_iff (signs_short signed), signErr_eq_ok_iff]

theorem signKeySlot_accounts_iff :
    Accounts config crypto env data seq stale device .signKeySlot ↔
      RecordsFirst config crypto env data seq device .signKeySlot := by
  rcases signed : signs config crypto env data device .signKeySlot with _ | issue
  · obtain ⟨err, _, ran⟩ := handleSignKeySlot_unsigned signed
    exact unsigned_accounts_iff ran signed (sentData_none _ _ _)
  · simp only [RecordsFirst, signed, Option.some.injEq, forall_eq']
    have reported := writeFile_ok_iff env.toFaults (.slot (slotArg (data.drop 4)) .cert) issue.der device
    rcases wrote : writeFile env.toFaults (.slot (slotArg (data.drop 4)) .cert) issue.der device with
      ⟨error | ⟨⟩, between⟩
    · have notDone : env.write (.slot (slotArg (data.drop 4)) .cert) ≠ .done := by
        intro done
        have ok := reported.mpr (.inl done)
        rw [wrote] at ok
        cases ok
      rw [accounts_iff_of_failed signed wrote, installs_iff fun slot => by rw [wrote]]
      constructor
      · intro absent nonempty old
        refine ⟨fun done => absurd done notDone, fun kept short => ?_⟩
        by_contra long
        exact absent ⟨⟨nonempty, old⟩, .inr ⟨kept, short, Nat.le_of_not_lt long⟩⟩
      · rintro records ⟨⟨nonempty, old⟩, done | ⟨kept, short, long⟩⟩
        · exact notDone done
        · exact absurd ((records nonempty old).2 kept short) (Nat.not_lt.mpr long)
    · have notShort (kept : Nat) : env.write (.slot (slotArg (data.drop 4)) .cert) ≠ .short (some kept) := by
        intro short
        have ok := reported.mp (by rw [wrote])
        rw [short] at ok
        rcases ok with done | lost
        · cases done
        · cases lost
      rw [accounts_iff_of_written signed wrote, installs_iff fun slot => by rw [wrote]]
      constructor
      · intro keeps nonempty old
        exact ⟨fun done => keeps ⟨⟨nonempty, old⟩, .inl done⟩, fun kept short => absurd short (notShort kept)⟩
      · rintro records ⟨⟨nonempty, old⟩, done | ⟨kept, short, _⟩⟩
        · exact (records nonempty old).1 done
        · exact absurd short (notShort kept)

end Signing

def signingCommands : List Command := [.signCsr, .signCsrSlot, .signKeySlot]

/-- The property of the signing command of an event. -/
def Accountable (config : Config) (crypto : Crypto) (seq : UInt32) (stale : Stack) (device : Device)
    (event : Event) : Prop :=
  ∀ env command data, executes config device event = some (env, command, data) → command ∈ signingCommands →
    Accounts config crypto env data seq stale device command

/-- Certificates have records exactly when the writes keep them. -/
theorem accountable_iff_recordsFirst (config : Config) (crypto : Crypto) (seq : UInt32) (stale : Stack)
    (device : Device) (event : Event) :
    Accountable config crypto seq stale device event ↔
      ∀ env command data, executes config device event = some (env, command, data) →
        command ∈ signingCommands → RecordsFirst config crypto env data seq device command := by
  refine forall₃_congr fun env command data => forall₂_congr fun _ signing => ?_
  simp only [signingCommands, List.mem_cons, List.not_mem_nil, or_false] at signing
  rcases signing with rfl | rfl | rfl
  · exact signCsr_accounts_iff
  · exact signCsrSlot_accounts_iff
  · exact signKeySlot_accounts_iff

/-- The record of the certificate cannot be stored. -/
def recordlessEnv : Env :=
  { plainEnv 3 with
    write := fun path => match path with
      | .issued _ .metadata => .openFailed .enospc
      | _ => .done }

def zeroStack : Stack := ⟨List.replicate respCapacity 0, List.length_replicate⟩

/-- A certificate leaves although its record cannot be stored. -/
theorem recordlessEnv_sends_certificate :
    ¬ Accountable .default plainCrypto 1 zeroStack provisionedDevice
      (.request recordlessEnv Command.signCsr.code (plainPoint (List.replicate 32 9))) := by
  intro accounts
  have runs : executes .default provisionedDevice
      (.request recordlessEnv Command.signCsr.code (plainPoint (List.replicate 32 9))) =
        some (recordlessEnv, .signCsr, plainPoint (List.replicate 32 9)) :=
    (executes_request _ _ _ _).mpr ⟨by decide +kernel, rfl⟩
  have replied : (handle .default plainCrypto recordlessEnv (plainPoint (List.replicate 32 9)) .signCsr
      provisionedDevice).1 =
        .ok (.reply ⟨.crypto, RespData.of (plainCert (plainPoint (List.replicate 32 9)))⟩) := by
    decide +kernel
  have nothing := ((accounts _ _ _ runs (by decide)).silent _ replied (by decide)).1
  exact absurd nothing (by decide +kernel)

end Cantil.Dispatcher
