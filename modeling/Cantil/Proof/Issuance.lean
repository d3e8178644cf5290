import Cantil.Firmware.Effects
import Cantil.Firmware.PlainBackend

namespace Cantil.Ca
open Library

section Persist

variable {env : Env} {issue : Issue} {device : Device}

/-- A drawn serial has eight octets. -/
theorem genSerial_length {serial : Bytes} (drawn : (genSerial env device).1 = .ok serial) :
    serial.length = 8 := by
  obtain ⟨⟨bytes, sized⟩, _, drawn⟩ := Op.read_ok drawn
  cases bytes with
  | nil => simp at sized
  | cons first rest =>
    obtain rfl := Except.ok.inj drawn
    simpa using sized

theorem hexPath_short {serial : Bytes} (short : serial.length ≤ 20) (file : IssuedFile) :
    hexPath serial file = .ok (.issued (hexName serial) file) := by
  rw [hexPath, if_neg (by simp only [pathMaxLen]; omega), if_neg (by simp only [pathMaxLen]; omega)]

/-- Certificate and record take one write each. -/
theorem persistIssue_eq (short : issue.serial.length ≤ 20) :
    persistIssue env issue =
      (do writeFile env.toFaults (.issued (hexName issue.serial) .cert) issue.der
          writeFile env.toFaults (.issued (hexName issue.serial) .metadata) issue.record.bytes) := by
  have room : issue.serial.length * 2 + 1 ≤ pathMaxLen := by
    simp only [pathMaxLen]
    omega
  funext device
  simp [persistIssue, storageIssuedCertWrite, storageIssuedMetaWrite, hexPath_short short, Op.bind_apply,
    Op.ensure, room]

/-- A fresh record comes back in the current version. -/
def Issue.readBack (issue : Issue) : IssuedMeta := { issue.record with version := issuedMetaVersion }

@[simp] theorem Issue.readBack_flags (issue : Issue) : issue.readBack.flags = 0 := rfl

/-- The record of a certificate is found where it was stored. -/
theorem recordAt_put (issue : Issue) (place : Nat) (device : Device) :
    recordAt { device with fs := device.fs.put place (.issued (hexName issue.serial) .metadata) issue.record.bytes }
      (hexName issue.serial) = some issue.readBack := by
  have whole : issue.record.bytes.take (issuedMetaSize + 8) = issue.record.bytes :=
    List.take_of_length_le (by rw [issue.record.bytes_length]; omega)
  have parsed : parseIssuedMeta issue.record.bytes = .ok issue.readBack :=
    parseIssuedMeta_bytes_v1 issue.record rfl
  simp [recordAt, whole, parsed, Except.toOption]

/-- With both writes done the record stands. -/
theorem persistIssue_done (short : issue.serial.length ≤ 20)
    (cert : env.write (.issued (hexName issue.serial) .cert) = .done)
    (record : env.write (.issued (hexName issue.serial) .metadata) = .done) (device : Device) :
    (persistIssue env issue device).1 = .ok () ∧
      recordAt (persistIssue env issue device).2 (hexName issue.serial) = some issue.readBack := by
  rw [persistIssue_eq short, Op.bind_of_ok (writeFile_done cert issue.der device), writeFile_done record]
  exact ⟨rfl, recordAt_put issue env.place _⟩

end Persist

end Cantil.Ca

namespace Cantil.Dispatcher
open Library Ca
open Protocol (Command)

/-- The certificate that a signing command makes, if any. -/
def signs (config : Config) (crypto : Crypto) (env : Env) (data : Bytes) (device : Device) :
    Command → Option Issue
  | .signCsr => (prepareCsrIssue config crypto env caSlot data respCapacity device).1.toOption
  | .signCsrSlot =>
    if data.length < 5 ∨ slotArg data ≥ config.maxKeySlots then none
    else (prepareCsrIssue config crypto env (slotArg data) (data.drop 4) respCapacity device).1.toOption
  | .signKeySlot =>
    if data.length < 8 ∨ slotArg data ≥ config.maxKeySlots then none
    else (prepareKeyIssue config crypto env (slotArg data) (slotArg (data.drop 4)) device).1.toOption
  | _ => none

/-- The certificate that an event makes. -/
def issues (config : Config) (crypto : Crypto) (device : Device) (event : Event) : Option Issue :=
  (executes config device event).bind fun (env, command, data) => signs config crypto env data device command

section Signing

variable {config : Config} {crypto : Crypto} {env : Env} {data : Bytes} {device : Device} {issue : Issue}

theorem signs_sized {command : Command} (signed : signs config crypto env data device command = some issue) :
    issue.serial.length = 8 := by
  cases command
  case signCsr => exact genSerial_length (prepareCsrIssue_drawn (toOption_eq_some.mp signed))
  case signCsrSlot =>
      simp only [signs] at signed
      split_ifs at signed
      exact genSerial_length (prepareCsrIssue_drawn (toOption_eq_some.mp signed))
  case signKeySlot =>
      simp only [signs] at signed
      split_ifs at signed
      exact genSerial_length (prepareKeyIssue_drawn (toOption_eq_some.mp signed))
  all_goals cases signed

theorem signs_short {command : Command} (signed : signs config crypto env data device command = some issue) :
    issue.serial.length ≤ 20 := by
  have sized := signs_sized signed
  omega

theorem signErr_ne_ok (error : Errno) : signErr (.error error) ≠ .ok := by
  cases error <;> decide

theorem signErr_eq_ok_iff {outcome : Except Errno Unit} : signErr outcome = .ok ↔ outcome = .ok () := by
  cases outcome with
  | error error => simp [signErr_ne_ok]
  | ok value => simp [signErr]

/-- The reply is sent whatever became of the record. -/
theorem handleSignCsr_signed (signed : signs config crypto env data device .signCsr = some issue) :
    handleSignCsr config crypto env data device =
      (.ok (.reply ⟨if (persistIssue env issue device).1 = .ok () then .ok else .crypto,
        RespData.of issue.der⟩), (persistIssue env issue device).2) := by
  have prepared : prepareCsrIssue config crypto env caSlot data respCapacity device = (.ok issue, device) :=
    Op.read_eq (toOption_eq_some.mp signed)
  simp only [handleSignCsr, caSignCsr, caSignCsrSlot, Op.bind_apply, Op.attempt_apply, prepared]
  rcases persistIssue env issue device with ⟨error | ⟨⟩, after⟩
  · simp [filled]
  · simp [filled]

theorem handleSignCsr_unsigned (unsigned : signs config crypto env data device .signCsr = none) :
    handleSignCsr config crypto env data device =
      (.ok (.reply ⟨.crypto, RespData.untouched⟩), device) := by
  obtain ⟨error, failed⟩ := toOption_eq_none.mp unsigned
  have prepared : prepareCsrIssue config crypto env caSlot data respCapacity device = (.error error, device) :=
    Op.read_eq failed
  simp [handleSignCsr, caSignCsr, caSignCsrSlot, Op.bind_apply, prepared, filled]

/-- The certificate is sent only with its record. -/
theorem handleSignCsrSlot_signed (signed : signs config crypto env data device .signCsrSlot = some issue) :
    handleSignCsrSlot config crypto env data device =
      (.ok (.reply (if (persistIssue env issue device).1 = .ok () then ⟨.ok, RespData.of issue.der⟩
        else ⟨signErr (persistIssue env issue device).1, RespData.none⟩)), (persistIssue env issue device).2) := by
  simp only [signs] at signed
  split_ifs at signed with short
  have prepared : prepareCsrIssue config crypto env (slotArg data) (data.drop 4) respCapacity device =
      (.ok issue, device) :=
    Op.read_eq (toOption_eq_some.mp signed)
  obtain ⟨long, inside⟩ := not_or.mp short
  simp only [handleSignCsrSlot, if_neg long, if_neg inside, caSignCsrSlot, Op.bind_apply, Op.attempt_apply, prepared]
  rcases persistIssue env issue device with ⟨error | ⟨⟩, after⟩
  · simp [refusal]
  · simp [filled]

theorem handleSignCsrSlot_unsigned (unsigned : signs config crypto env data device .signCsrSlot = none) :
    ∃ err, err ≠ .ok ∧ handleSignCsrSlot config crypto env data device = (.ok (refusal err), device) := by
  by_cases short : data.length < 5
  · exact ⟨.invalidArgs, by decide, by simp [handleSignCsrSlot, short]⟩
  by_cases outside : slotArg data ≥ config.maxKeySlots
  · exact ⟨.invalidArgs, by decide, by simp [handleSignCsrSlot, short, outside]⟩
  rw [signs, if_neg (not_or.mpr ⟨short, outside⟩)] at unsigned
  obtain ⟨error, failed⟩ := toOption_eq_none.mp unsigned
  have prepared : prepareCsrIssue config crypto env (slotArg data) (data.drop 4) respCapacity device =
      (.error error, device) := Op.read_eq failed
  refine ⟨signErr (.error error), signErr_ne_ok error, ?_⟩
  simp [handleSignCsrSlot, short, outside, caSignCsrSlot, Op.bind_apply, prepared]

/-- The third one installs the certificate first. -/
theorem handleSignKeySlot_signed (signed : signs config crypto env data device .signKeySlot = some issue) :
    handleSignKeySlot config crypto env data device =
      (let installed := (do
        storageSlotCertWrite env.toFaults (slotArg (data.drop 4)) issue.der
        let _ ← (storageSlotChainDelete env.toFaults (slotArg (data.drop 4))).attempt
        persistIssue env issue) device
       (.ok (refusal (signErr installed.1)), installed.2)) := by
  simp only [signs] at signed
  split_ifs at signed with short
  have prepared : prepareKeyIssue config crypto env (slotArg data) (slotArg (data.drop 4)) device =
      (.ok issue, device) :=
    Op.read_eq (toOption_eq_some.mp signed)
  obtain ⟨long, inside⟩ := not_or.mp short
  simp only [handleSignKeySlot, if_neg long, if_neg inside, caSignKeySlot]
  rw [Op.bind_apply, Op.attempt_apply, Op.bind_of_ok prepared]
  rfl

theorem handleSignKeySlot_unsigned (unsigned : signs config crypto env data device .signKeySlot = none) :
    ∃ err, err ≠ .ok ∧ handleSignKeySlot config crypto env data device = (.ok (refusal err), device) := by
  by_cases short : data.length < 8
  · exact ⟨.invalidArgs, by decide, by simp [handleSignKeySlot, short]⟩
  by_cases outside : slotArg data ≥ config.maxKeySlots
  · exact ⟨.invalidArgs, by decide, by simp [handleSignKeySlot, short, outside]⟩
  rw [signs, if_neg (not_or.mpr ⟨short, outside⟩)] at unsigned
  obtain ⟨error, failed⟩ := toOption_eq_none.mp unsigned
  have prepared : prepareKeyIssue config crypto env (slotArg data) (slotArg (data.drop 4)) device =
      (.error error, device) := Op.read_eq failed
  refine ⟨signErr (.error error), signErr_ne_ok error, ?_⟩
  simp [handleSignKeySlot, short, outside, caSignKeySlot, Op.bind_apply, prepared]

end Signing

end Cantil.Dispatcher
