import Cantil.Proof.Issuance

namespace Cantil.Ca
open Library

/-- The metadata of the slot asks for protected certificates. -/
def ProtectsIssued (device : Device) (slot : Slot) : Prop :=
  ∃ record, (metaRead slot device).1 = .ok record ∧ record.protectIssued = 1

/-- The record of the serial is marked protected. -/
def Flagged (device : Device) (serial : Bytes) : Prop :=
  ∃ record, (readIssuedMeta serial device).1 = .ok record ∧ record.flags &&& issuedFlagProtected ≠ 0

/-- A protected record that no revocation changes. -/
structure Shielded (device : Device) (serial : Bytes) : Prop where
  flagged : Flagged device serial
  refused : ∀ env nowUnix, caRevokeCert env serial nowUnix device = (.error .eacces, device)

end Cantil.Ca

namespace Cantil.Dispatcher
open Library Ca Trace
open Protocol (Command)

section Step

variable {config : Config} {crypto : Crypto} {env : Env} {data : Bytes} {device : Device} {issue : Issue}

/-- With all writes done, a certificate has its record. -/
theorem handle_records {command : Command} (written : ∀ path, env.write path = .done)
    (signed : signs config crypto env data device command = some issue) :
    recordAt (handle config crypto env data command device).2 (hexName issue.serial) = some issue.readBack := by
  have short := signs_short signed
  have persisted (between : Device) :
      recordAt (persistIssue env issue between).2 (hexName issue.serial) = some issue.readBack :=
    (persistIssue_done short (written _) (written _) between).2
  cases command
  case signCsr =>
      rw [handle, handleSignCsr_signed signed]
      exact persisted device
  case signCsrSlot =>
      rw [handle, handleSignCsrSlot_signed signed]
      exact persisted device
  case signKeySlot =>
      rw [handle, handleSignKeySlot_signed signed]
      have installed : storageSlotCertWrite env.toFaults (slotArg (data.drop 4)) issue.der device =
          (.ok (), _) := writeFile_done (written _) issue.der device
      rw [Op.bind_of_ok installed]
      exact persisted _
  all_goals cases signed

/-- The record of a certificate that was just issued has no flag. -/
theorem step_issues {event : Event} (written : ∀ path, event.env.write path = .done)
    (issued : issues config crypto device event = some issue) :
    (readIssuedMeta issue.serial (step config crypto device event)).1 = .ok issue.readBack := by
  obtain ⟨⟨env, command, data⟩, runs, signed⟩ := Option.bind_eq_some_iff.mp issued
  have short := signs_short signed
  rw [executes_env runs] at written
  rw [step_of_executes runs]
  have recorded := handle_records written signed
  rw [← readIssuedMeta_toOption short] at recorded
  exact toOption_eq_some.mp recorded

end Step

/-- What a protecting slot issues is shielded from then on. -/
def Inherits (config : Config) (crypto : Crypto) (start : Device) (events : List Event) : Prop :=
  ∀ before event middle after issue, events = before ++ event :: (middle ++ after) →
    issues config crypto (run (step config crypto) start before) event = some issue →
    ProtectsIssued (run (step config crypto) start before) issue.issuerSlot →
    Shielded (run (step config crypto) start (before ++ event :: middle)) issue.serial

/-- Protection is inherited unless a protecting slot issues. -/
theorem run_inherits_iff (config : Config) (crypto : Crypto) (start : Device) (events : List Event)
    (written : ∀ event ∈ events, ∀ path, event.env.write path = .done) :
    Inherits config crypto start events ↔
      ∀ visit ∈ visits (step config crypto) start events, ∀ issue,
        issues config crypto visit.1 visit.2 = some issue → ¬ ProtectsIssued visit.1 issue.issuerSlot := by
  constructor
  · rintro inherits ⟨device, event⟩ visited issue issued protects
    obtain ⟨before, after, rfl, rfl⟩ := (mem_visits_iff _ _ _ _ _).mp visited
    obtain ⟨record, read, flagged⟩ := (inherits before event [] after issue rfl issued protects).flagged
    rw [run_append, run_cons, run_nil,
      step_issues (written event (by simp)) issued] at read
    obtain rfl := Except.ok.inj read
    -- The record is made with no flag at all.
    exact flagged (by rw [Issue.readBack_flags, UInt8.zero_and])
  · rintro apart before event middle after issue rfl issued protects
    have visited := (mem_visits_iff (step config crypto) start (before ++ event :: (middle ++ after)) _ _).mpr
      ⟨before, middle ++ after, rfl, rfl⟩
    exact absurd protects (apart _ visited issue issued)

/-- Slot 1, which protects nothing, issues a certificate. -/
def subIssuance : List Event :=
  [request 1 .provisionCa [], request 2 .genKey [], request 3 .pushKeyX509 ([0, 0, 0, 1] ++ plainParams),
    request 4 .signCsrSlot ([0, 0, 0, 1] ++ plainPoint (List.replicate 32 9))]

/-- A certificate is issued, and none under protection. -/
theorem provisioning_inherits : Inherits .default plainCrypto blankDevice subIssuance ∧
    ∃ visit ∈ visits (step .default plainCrypto) blankDevice subIssuance,
      (issues .default plainCrypto visit.1 visit.2).isSome = true := by
  have written : ∀ event ∈ subIssuance, ∀ path, event.env.write path = .done := by
    intro event inside path
    simp only [subIssuance, List.mem_cons, List.not_mem_nil, or_false] at inside
    rcases inside with rfl | rfl | rfl | rfl <;> rfl
  have free : (visits (step .default plainCrypto) blankDevice subIssuance).all (fun visit =>
      (issues .default plainCrypto visit.1 visit.2).all fun issue =>
        (metaRead issue.issuerSlot visit.1).1.toOption.all fun record => record.protectIssued = 0) = true := by
    decide +kernel
  refine ⟨(run_inherits_iff .default plainCrypto blankDevice subIssuance written).mpr ?_, ?_⟩
  · rintro visit visited issue issued ⟨record, read, set⟩
    have unset := List.all_eq_true.mp free visit visited
    rw [issued, Option.all_some, read] at unset
    rw [of_decide_eq_true unset] at set
    exact absurd set (by decide)
  · have signs : (visits (step .default plainCrypto) blankDevice subIssuance).any (fun visit =>
        (issues .default plainCrypto visit.1 visit.2).isSome) = true := by decide +kernel
    exact List.any_eq_true.mp signs

/-- The root protects, and its first certificate is unprotected. -/
theorem signCsr_loses_protection :
    ¬ Inherits .default plainCrypto blankDevice
      (provisioning ++ [request 3 .signCsr (plainPoint (List.replicate 32 9))]) := by
  intro inherits
  have signed : (issues .default plainCrypto provisionedDevice
      (request 3 .signCsr (plainPoint (List.replicate 32 9)))).map Issue.issuerSlot = some caSlot := by
    decide +kernel
  obtain ⟨issue, issued, root⟩ := Option.map_eq_some_iff.mp signed
  have protects : ProtectsIssued provisionedDevice caSlot := by
    have asked : (metaRead caSlot provisionedDevice).1.toOption.map SlotMeta.protectIssued = some 1 := by
      decide +kernel
    obtain ⟨record, read, set⟩ := Option.map_eq_some_iff.mp asked
    exact ⟨record, toOption_eq_some.mp read, set⟩
  obtain ⟨record, read, flagged⟩ :=
    (inherits provisioning _ [] [] issue rfl issued (root.symm ▸ protects)).flagged
  rw [run_append, run_cons, run_nil, ← provisionedDevice,
    step_issues (fun _ => rfl) issued] at read
  obtain rfl := Except.ok.inj read
  exact flagged (by rw [Issue.readBack_flags, UInt8.zero_and])

end Cantil.Dispatcher
