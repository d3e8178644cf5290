import Cantil.Proof.KeyLifetime

namespace Cantil.Ca
open Library

/-- What may become of the record of an issued certificate. -/
structure Continues (record later : IssuedMeta) : Prop where
  flags : ∀ flag ∈ [issuedFlagRevoked, issuedFlagExpired, issuedFlagProtected],
    record.flags &&& flag ≠ 0 → later.flags &&& flag ≠ 0
  revocation : record.flags &&& issuedFlagRevoked ≠ 0 →
    later.revokedAtUnix = record.revokedAtUnix ∧ later.revocationReason = record.revocationReason
  issuerSlot : later.issuerSlot = record.issuerSlot
  serial : later.serialLen = record.serialLen ∧ later.serial = record.serial
  validity : later.notBeforeUnix = record.notBeforeUnix ∧ later.notAfterUnix = record.notAfterUnix
  cn : later.cn = record.cn

namespace Continues

variable {record later last : IssuedMeta}

theorem refl (record : IssuedMeta) : Continues record record :=
  ⟨fun _ _ marked => marked, fun _ => ⟨rfl, rfl⟩, rfl, ⟨rfl, rfl⟩, ⟨rfl, rfl⟩, rfl⟩

theorem trans (first : Continues record later) (second : Continues later last) : Continues record last where
  flags flag known marked := second.flags flag known (first.flags flag known marked)
  revocation marked := by
    obtain ⟨time, reason⟩ := first.revocation marked
    obtain ⟨laterTime, laterReason⟩ := second.revocation (first.flags _ (by simp) marked)
    exact ⟨laterTime.trans time, laterReason.trans reason⟩
  issuerSlot := second.issuerSlot.trans first.issuerSlot
  serial := ⟨second.serial.1.trans first.serial.1, second.serial.2.trans first.serial.2⟩
  validity := ⟨second.validity.1.trans first.validity.1, second.validity.2.trans first.validity.2⟩
  cn := second.cn.trans first.cn

end Continues

theorem flag_or {flags flag : UInt8} (bits : UInt8) (marked : flags &&& flag ≠ 0) : (flags ||| bits) &&& flag ≠ 0 := by
  intro clear
  apply marked
  have split : flags.toNat &&& flag.toNat ||| bits.toNat &&& flag.toNat = 0 := by
    rw [← Nat.and_or_distrib_right, ← UInt8.toNat_or, ← UInt8.toNat_and, clear]
    rfl
  rw [← UInt8.toNat_inj]
  exact (Nat.or_eq_zero_iff.mp split).1

/-- More flags leave the rest of a record as it is. -/
theorem continues_flags (record : IssuedMeta) (bits : UInt8) :
    Continues record { record with flags := record.flags ||| bits } :=
  ⟨fun _ _ marked => flag_or bits marked, fun _ => ⟨rfl, rfl⟩, rfl, ⟨rfl, rfl⟩, ⟨rfl, rfl⟩, rfl⟩

/-- Every record stays, in what may become of it. -/
def RecordsContinue (before after : Device) : Prop :=
  ∀ name record, recordAt before name = some record → ∃ later, recordAt after name = some later ∧ Continues record later

instance : IsPreorder Device RecordsContinue where
  refl _ := fun _ record held => ⟨record, held, .refl record⟩
  trans _ _ _ first second := by
    intro name record held
    obtain ⟨later, kept, continues⟩ := first name record held
    obtain ⟨last, keptLater, continuesLater⟩ := second name later kept
    exact ⟨last, keptLater, continues.trans continuesLater⟩

section Writes

variable {env : Env} {before after device : Device} {serial : Bytes}

theorem recordAt_congr {name : Bytes}
    (same : after.fs.files (.issued name .metadata) = before.fs.files (.issued name .metadata)) :
    recordAt after name = recordAt before name := by
  simp only [recordAt, same]

/-- Writes beside the records leave them. -/
theorem recordsContinue_of_fresh {fresh : Bytes} (unrecorded : recordAt before fresh = none)
    (same : SameOutside (fun path => ∀ name, path = .issued name .metadata → name = fresh) before after) :
    RecordsContinue before after := by
  intro name record held
  have different : name ≠ fresh := by
    rintro rfl
    rw [unrecorded] at held
    cases held
  refine ⟨record, ?_, .refl record⟩
  rw [recordAt_congr (same _ fun inside => different (inside name rfl)), held]

/-- The path holds no record. -/
def OffRecords (path : Path) : Prop := ∀ name, path ≠ .issued name .metadata

theorem recordsContinue_of_same (same : SameOutside OffRecords before after) : RecordsContinue before after := by
  intro name record held
  refine ⟨record, ?_, .refl record⟩
  rw [recordAt_congr (same _ fun off => off name rfl), held]

theorem writable_offRecords {path : Path} (off : OffRecords path) : Writable RecordsContinue env.toFaults path :=
  (writable_of_touched off).mono fun _ _ same => recordsContinue_of_same same

theorem writable_slotRecords (slot : Slot) (file : SlotFile) :
    Writable RecordsContinue env.toFaults (.slot slot file) :=
  writable_offRecords fun _ => by simp

/-- A record is written back as what may become of it. -/
theorem rewriteRecord_continues {record updated : IssuedMeta}
    (written : env.write (.issued (hexName serial) .metadata) = .done)
    (read : (readIssuedMeta serial device).1 = .ok record) (version : updated.version = record.version)
    (continues : Continues record updated) :
    RecordsContinue device (storageIssuedMetaWrite env.toFaults serial updated.bytes device).2 := by
  intro name old held
  by_cases here : name = hexName serial
  · subst here
    obtain rfl : record = old := Option.some.inj ((recordAt_of_read read).2.symm.trans held)
    rcases rewriteRecord_recordAt read (fun kept torn => by rw [written] at torn; cases torn)
        (version.trans (readIssuedMeta_version read)) with ⟨_, stored⟩ | kept
    · exact ⟨updated, stored, continues⟩
    · exact ⟨record, kept, .refl record⟩
  · have beside : Op.Respects (SameOutside (Path.issued (hexName serial) .metadata = ·))
        (storageIssuedMetaWrite env.toFaults serial updated.bytes) :=
      storageIssuedMetaWrite_respects (writable_of_touched rfl) updated.bytes
    have elsewhere : ¬ Path.issued (hexName serial) .metadata = .issued name .metadata :=
      fun same => here (Path.issued.inj same).1.symm
    exact ⟨old, by rw [recordAt_congr (beside device _ elsewhere), held], .refl old⟩

theorem remarks_continue (written : ∀ path, env.write path = .done) (bits : UInt8) :
    Remarks RecordsContinue env.toFaults bits := by
  intro device serial record read
  exact rewriteRecord_continues (written _) read rfl (continues_flags record bits)

theorem caRevokeCert_continues (written : ∀ path, env.write path = .done) (serial : Bytes) (nowUnix : UInt64) :
    Op.Respects RecordsContinue (caRevokeCert env serial nowUnix) := by
  intro device
  apply Op.relates_ensure
  intro _
  apply Op.relates_reader
  intro record read
  apply Op.relates_ensure
  intro _
  apply Op.relates_ensure
  intro live
  refine Op.relates_bind (rewriteRecord_continues (written _) read ?_ ?_) fun _ between _ => ?_
  · rfl
  · exact ⟨fun _ _ marked => flag_or _ marked, fun revoked => absurd live revoked, rfl, ⟨rfl, rfl⟩, ⟨rfl, rfl⟩, rfl⟩
  · exact (Op.Respects.read fun _ =>
      ((writable_slotRecords _ _).write _).attempt.bind fun _ => .pure _) between

/-- A revocation fails before it changes anything. -/
theorem caRevokeCert_failsCleanly (written : ∀ path, env.write path = .done) (serial : Bytes) (nowUnix : UInt64)
    (device : Device) : Op.FailsCleanly (caRevokeCert env serial nowUnix) device := by
  apply Op.failsCleanly_ensure
  intro _
  apply Op.failsCleanly_reader_iff.mpr
  intro record read
  apply Op.failsCleanly_ensure
  intro _
  apply Op.failsCleanly_ensure
  intro _
  obtain ⟨named, _⟩ := recordAt_of_read read
  apply Op.failsCleanly_of_ok
  simp only [storageIssuedMetaWrite, named, Op.bind_apply, Op.lift_apply, writeFile_done (written _), Op.attempt_apply]
  rfl

/-- A certificate is filed where no record is. -/
theorem persistIssue_sameOutside (issue : Issue) :
    Op.Respects (SameOutside fun path => ∀ name, path = .issued name .metadata → name = hexName issue.serial)
      (persistIssue env issue) := by
  apply persistIssue_respects
  intro file
  apply writable_of_touched
  intro name same
  exact (Path.issued.inj same).1.symm

theorem persistIssue_continues {issue : Issue} (fresh : recordAt device (hexName issue.serial) = none) :
    RecordsContinue device (persistIssue env issue device).2 :=
  recordsContinue_of_fresh fresh (persistIssue_sameOutside issue device)

/-- The certificate of a slot is replaced on the way. -/
theorem installIssue_continues {issue : Issue} (subject : Slot)
    (fresh : recordAt device (hexName issue.serial) = none) :
    RecordsContinue device ((do
      storageSlotCertWrite env.toFaults subject issue.der
      let _ ← (storageSlotChainDelete env.toFaults subject).attempt
      persistIssue env issue) device).2 := by
  have beside (file : SlotFile) : Writable
      (SameOutside fun path => ∀ name, path = .issued name .metadata → name = hexName issue.serial)
      env.toFaults (.slot subject file) := writable_of_touched fun _ same => by cases same
  apply recordsContinue_of_fresh fresh
  exact (((beside .cert).write _).bind fun _ => (storageSlotChainDelete_respects (beside .chain)).attempt.bind fun _ =>
    persistIssue_sameOutside issue) device

end Writes

end Cantil.Ca

namespace Cantil.Dispatcher
open Library Ca Trace
open Protocol (Command)

/-- The commands that issue certificates. -/
def signers : List Command := [.signCsr, .signCsrSlot, .signKeySlot]

/-- A drawn serial has no record yet. -/
def DrawsUnrecorded (config : Config) (device : Device) (event : Event) : Prop :=
  ∀ env command data serial, executes config device event = some (env, command, data) → command ∈ signers →
    (genSerial env device).1 = .ok serial → recordAt device (hexName serial) = none

/-- No record, or a protected or revoked one. -/
def Unrevocable (device : Device) (serial : Bytes) : Prop :=
  ∀ record, (readIssuedMeta serial device).1 = .ok record →
    record.flags &&& issuedFlagProtected ≠ 0 ∨ record.flags &&& issuedFlagRevoked ≠ 0

/-- The serial that a revocation names. -/
def revokedSerial (data : Bytes) : Bytes := fieldAt 1 (data.headD 0).toNat data

/-- A refusal leaves the store, and is exact. -/
structure RefusesCleanly (config : Config) (crypto : Crypto) (device : Device) (event : Event) : Prop where
  unchanged : ∀ env data, executes config device event = some (env, .revokeCert, data) →
    (handleRevokeCert config env data device).1 ≠ .ok (refusal .ok) → step config crypto device event = device
  refuses : ∀ env data, executes config device event = some (env, .revokeCert, data) →
    Unrevocable device (revokedSerial data) → (handleRevokeCert config env data device).1 ≠ .ok (refusal .ok)

section Steps

variable {config : Config} {crypto : Crypto} {env : Env} {data : Bytes} {device after : Device} {event : Event}

theorem boot_continues (env : Env) (volume : VolumeState) (device : Device) :
    RecordsContinue device (boot config crypto env volume device).2 :=
  boot_related (recordsContinue_of_same fun _ _ => rfl) (writable_slotRecords caSlot .cert)
    fun _ => recordsContinue_of_same fun _ _ => rfl

theorem Effect.recordsContinue {command : Command} (effect : Effect config crypto env data device command after)
    (runs : executes config device event = some (env, command, data)) (written : ∀ path, env.write path = .done)
    (fresh : DrawsUnrecorded config device event) (stays : command ≠ .resetDevice) : RecordsContinue device after := by
  have general (plain : command ∈ framedCommands ∧ command ∉ issuedCommands) : RecordsContinue device after :=
    effect.related plain.1 (fun file _ slot => writable_slotRecords slot file) (fun inside => absurd inside plain.2)
      fun _ => recordsContinue_of_same fun _ _ => rfl
  have persisted (signs : command ∈ signers) (issue : Issue) (drawn : (genSerial env device).1 = .ok issue.serial) :
      recordAt device (hexName issue.serial) = none := fresh env command data issue.serial runs signs drawn
  cases effect with
  | refused => exact refl device
  | signCsr | signCsrSlot =>
    apply caSignCsrSlot_related
    intro issue drawn
    exact persistIssue_continues (persisted (by simp [signers]) issue drawn)
  | signKeySlot =>
    apply caSignKeySlot_related
    intro issue drawn
    exact installIssue_continues _ (persisted (by simp [signers]) issue drawn)
  | autoExpire => exact caAutoExpire_respects (remarks_continue written _) _ device
  | revokeCert serial nowUnix => exact caRevokeCert_continues written serial nowUnix device
  | protectSlot => exact caProtectSlot_respects (writable_slotRecords _ _) (remarks_continue written _) _ device
  | deleteKey =>
    apply caDeleteKey_respects
    intro device
    apply recordsContinue_of_same
    exact storageSlotDelete_respects (fun file name => by simp) device
  | resetDevice => exact absurd rfl stays
  | elsewhere _ bonds => exact recordsContinue_of_same (withClients_sameOutside (fun _ _ _ => by simp) device bonds)
  | _ => exact general (by decide)

/-- Without a wipe every record continues. -/
theorem step_recordsContinue (written : ∀ path, event.env.write path = .done)
    (fresh : DrawsUnrecorded config device event)
    (unwiped : ¬ Wipes config device event) : RecordsContinue device (step config crypto device event) := by
  rcases step_cases config crypto device event with same | ⟨env, command, data, runs, effect⟩ |
    ⟨env, volume, rfl, booted⟩
  · rw [same]
    exact refl device
  · rw [executes_env runs] at written
    by_cases resets : command = .resetDevice
    · subst resets
      rw [step_unconfirmed runs fun confirm => unwiped ⟨env, data, runs, confirm⟩]
      exact refl device
    · exact effect.recordsContinue runs written fresh resets
  · exact boot_continues env volume device

/-- Refused for its arguments, or acknowledged. -/
theorem handleRevokeCert_cases (config : Config) (env : Env) (data : Bytes) (device : Device) :
    handleRevokeCert config env data device = (.ok (refusal .invalidArgs), device) ∨
      ∃ nowUnix err, (err = .ok ↔ (caRevokeCert env (revokedSerial data) nowUnix device).1 = .ok ()) ∧
        handleRevokeCert config env data device =
          (.ok (refusal err), (caRevokeCert env (revokedSerial data) nowUnix device).2) := by
  simp only [handleRevokeCert]
  obtain ⟨nowUnix, time⟩ : ∃ nowUnix, nowUnix =
      if data.length - 1 - (data.headD 0).toNat = 8 then u64Arg (1 + (data.headD 0).toNat) data else 0 := ⟨_, rfl⟩
  rw [← time]
  split_ifs
  case neg =>
    refine .inr ⟨nowUnix, ?_⟩
    rw [Op.bind_apply, Op.attempt_apply, revokedSerial]
    rcases (caRevokeCert env (fieldAt 1 (data.headD 0).toNat data) nowUnix device).1 with error | ⟨⟩
    · cases error <;> exact ⟨_, by simp, rfl⟩
    · exact ⟨.ok, by simp, rfl⟩
  all_goals exact .inl rfl

theorem refusal_eq_ok {err : Protocol.Err} :
    (Except.ok (refusal err) : Except Errno Answer) = .ok (refusal .ok) ↔ err = .ok := by
  simp [refusal]

theorem step_refusesCleanly (config : Config) (crypto : Crypto) (device : Device)
    (written : ∀ path, event.env.write path = .done) : RefusesCleanly config crypto device event where
  unchanged env data runs refused := by
    rw [executes_env runs] at written
    rw [step_of_executes runs]
    show (handleRevokeCert config env data device).2 = device
    rcases handleRevokeCert_cases config env data device with same | ⟨nowUnix, err, acknowledged, same⟩
    · rw [same]
    · rw [same] at refused ⊢
      rcases outcome : (caRevokeCert env (revokedSerial data) nowUnix device).1 with error | ⟨⟩
      · exact caRevokeCert_failsCleanly written _ nowUnix device error outcome
      · exact absurd (refusal_eq_ok.mpr (acknowledged.mpr outcome)) refused
  refuses env data runs blocked := by
    rcases handleRevokeCert_cases config env data device with same | ⟨nowUnix, err, acknowledged, same⟩
    · rw [same]
      simp [refusal]
    · rw [same, Ne, refusal_eq_ok, acknowledged]
      intro revoked
      simp only [caRevokeCert, Op.read_ok_iff, Op.ensure_ok, exists_const] at revoked
      obtain ⟨_, record, read, free, live, _⟩ := revoked
      rcases blocked record read with guarded | already
      · exact guarded free
      · exact already live

end Steps

/-- No record loses a flag, a revocation or its origin. -/
theorem revocation_permanent (config : Config) (crypto : Crypto) (start : Device) (events : List Event)
    (written : ∀ event ∈ events, ∀ path, event.env.write path = .done)
    (fresh : ∀ visit ∈ visits (step config crypto) start events, DrawsUnrecorded config visit.1 visit.2) :
    (∀ before middle after, events = before ++ (middle ++ after) →
      (∀ visit ∈ visits (step config crypto) (run (step config crypto) start before) middle,
        ¬ Wipes config visit.1 visit.2) →
      RecordsContinue (run (step config crypto) start before)
        (run (step config crypto) start (before ++ middle))) ∧
      ∀ visit ∈ visits (step config crypto) start events, RefusesCleanly config crypto visit.1 visit.2 := by
  constructor
  · rintro before middle after rfl unwiped
    rw [run_append]
    apply run_related
    intro visit visited
    have seen : visit ∈ visits (step config crypto) start (before ++ (middle ++ after)) := by
      rw [visits_append, visits_append]
      exact List.mem_append_right _ (List.mem_append_left _ visited)
    exact step_recordsContinue (written _ (event_of_visit seen)) (fresh visit seen) (unwiped visit visited)
  · intro visit visited
    exact step_refusesCleanly config crypto visit.1 (written _ (event_of_visit visited))

/-- Issued, revoked twice, and another one issued. -/
def revocations : List Event :=
  [request 3 .signCsr (plainPoint (List.replicate 32 9)), request 4 .revokeCert (8 :: List.replicate 8 3),
    request 4 .revokeCert (8 :: List.replicate 8 3), request 6 .signCsr (plainPoint (List.replicate 32 9))]

def afterRevocations (count : Nat) : Device :=
  run (step .default plainCrypto) provisionedDevice (revocations.take count)

theorem revocations_states :
    ((genSerial (plainEnv 3) (afterRevocations 0)).1 = .ok (List.replicate 8 3) ∧
        recordAt (afterRevocations 0) (hexName (List.replicate 8 3)) = none) ∧
      ((genSerial (plainEnv 6) (afterRevocations 3)).1 = .ok (7 :: List.replicate 7 6) ∧
        recordAt (afterRevocations 3) (hexName (7 :: List.replicate 7 6)) = none) ∧
      (recordAt (afterRevocations 1) (hexName (List.replicate 8 3))).map (·.flags) = some 0 ∧
      (recordAt (afterRevocations 4) (hexName (List.replicate 8 3))).map (·.flags) = some issuedFlagRevoked := by
  decide +kernel

/-- Another command's code neither issues nor wipes. -/
theorem drawsUnrecorded_request {config : Config} {device : Device} {random : UInt8} {known : Command} (data : Bytes)
    (other : known ∉ signers) : DrawsUnrecorded config device (request random known data) := by
  intro env command content serial runs signs
  obtain ⟨_, rfl, _⟩ := executes_code runs
  exact absurd signs other

theorem unwiped_request {config : Config} {device : Device} {random : UInt8} {known : Command} (data : Bytes)
    (other : known ≠ .resetDevice) : ¬ Wipes config device (request random known data) := by
  rintro ⟨env, content, runs, _⟩
  exact other (executes_code runs).2.1.symm

theorem revocations_fresh : ∀ visit ∈ visits (step .default plainCrypto) provisionedDevice revocations,
    DrawsUnrecorded .default visit.1 visit.2 := by
  obtain ⟨⟨first, firstFresh⟩, ⟨second, secondFresh⟩, _⟩ := revocations_states
  simp only [revocations, visits_cons, visits_nil, List.forall_mem_cons]
  refine ⟨?_, drawsUnrecorded_request _ (by decide), drawsUnrecorded_request _ (by decide), ?_, by simp⟩
  all_goals
    intro env command data serial runs _ drawn
    obtain ⟨rfl, _, _⟩ := executes_code runs
  · exact firstFresh
  · obtain rfl := Except.ok.inj (second.symm.trans drawn)
    exact secondFresh

/-- The revoked record continues the issued one. -/
theorem revocations_permanent :
    (recordAt (afterRevocations 1) (hexName (List.replicate 8 3))).map (·.flags) = some 0 ∧
      (recordAt (afterRevocations 4) (hexName (List.replicate 8 3))).map (·.flags) = some issuedFlagRevoked ∧
      RecordsContinue (afterRevocations 1) (afterRevocations 4) := by
  refine ⟨revocations_states.2.2.1, revocations_states.2.2.2, ?_⟩
  have written : ∀ event ∈ revocations, ∀ path, event.env.write path = .done := by
    simp only [revocations, List.forall_mem_cons]
    exact ⟨fun _ => rfl, fun _ => rfl, fun _ => rfl, fun _ => rfl, by simp⟩
  obtain ⟨permanent, _⟩ :=
    revocation_permanent .default plainCrypto provisionedDevice revocations written revocations_fresh
  apply permanent (revocations.take 1) (revocations.drop 1) [] (by rw [List.append_nil, List.take_append_drop])
  simp only [revocations, List.drop_succ_cons, List.drop_zero, visits_cons, visits_nil,
    List.forall_mem_cons]
  exact ⟨unwiped_request _ (by decide), unwiped_request _ (by decide), unwiped_request _ (by decide), by simp⟩

end Cantil.Dispatcher
