import Cantil.Firmware.Ca.Slots

namespace Cantil.Ca
open Library

/-- A certificate that is signed and waits for its record. -/
structure Issue where
  serial : Bytes
  der : Bytes
  issuerSlot : Slot
  cn : Bytes
  deriving DecidableEq, Repr

/-- A fresh record has no flag set. Its name is cut to 63 bytes. -/
def Issue.record (issue : Issue) : IssuedMeta where
  version := 1
  flags := 0
  serialLen := UInt8.ofNat issue.serial.length
  revocationReason := 0
  issuerSlot := issue.issuerSlot
  notBeforeUnix := UInt64.ofNat signCsrNotBeforeUnix
  notAfterUnix := UInt64.ofNat (signCsrNotBeforeUnix + signCsrValidityDays * 86400)
  serial := padTo 20 issue.serial
  serial_length := padTo_length _ _
  cn := padTo 64 ((cString issue.cn).take 63)
  cn_length := padTo_length _ _
  revokedAtUnix := 0

variable (config : Config) (crypto : Crypto) (env : Env) (nowUnix : UInt64) (slot : Slot)

/-- The certificate is stored first and its record second. -/
def persistIssue (issue : Issue) : Op Device Errno Unit := do
  storageIssuedCertWrite env.toFaults issue.serial issue.der
  storageIssuedMetaWrite env.toFaults issue.serial issue.record.bytes

/-- What `ca_sign_csr_slot` does before its first write. -/
def prepareCsrIssue (issuerSlot : Slot) (csr : Bytes) (capacity : Nat) : Op Device Errno Issue := do
  .ensure (csr.length ≠ 0 ∧ capacity ≠ 0) .einval
  .ensure (issuerSlot < config.maxKeySlots) .einval
  .ensure ((← storageSlotKeyExists issuerSlot) = true) .enoent
  .ensure (issuerSlot ≠ caSlot ∨ (← caReady) = true) .enoent
  let (subjectDn, subjectPub) ← .lift (certparseCsr crypto.toWolfReader csr)
  let issuerParams ← loadIssuerX509Params issuerSlot
  let privkey ← loadSlotPrivkey crypto env issuerSlot
  let serial ← genSerial env
  let der ← .lift (env.buildCert {
    subjectKey := .pub subjectPub
    issuerPriv := privkey
    subjectDn
    issuerDn := paramsToDn issuerParams
    serial
    notBefore := notBeforeBase
    notAfter := computeNotAfter signCsrValidityDays
    emitBc := true
    isCa := false
    pathLen := none
    keyUsage := kuDigitalSignature })
  .ensure (der.length ≤ capacity) .enomem
  return ⟨serial, der, issuerSlot, subjectDn.cn⟩

/-- The caller's buffer is filled before the writes. -/
def caSignCsrSlot (issuerSlot : Slot) (csr : Bytes) (capacity : Nat) :
    Op Device Errno (Option Bytes × Except Errno Unit) := do
  match ← (prepareCsrIssue config crypto env issuerSlot csr capacity).attempt with
  | .error error => return (none, .error error)
  | .ok issue => return (some issue.der, ← (persistIssue env issue).attempt)

def caSignCsr (csr : Bytes) (capacity : Nat) : Op Device Errno (Option Bytes × Except Errno Unit) :=
  caSignCsrSlot config crypto env caSlot csr capacity

/-- What `ca_sign_key_slot` does before its first write. -/
def prepareKeyIssue (issuerSlot subjectSlot : Slot) : Op Device Errno Issue := do
  .ensure (issuerSlot < config.maxKeySlots ∧ subjectSlot < config.maxKeySlots) .einval
  .ensure ((← storageSlotKeyExists issuerSlot) = true) .enoent
  .ensure ((← storageSlotKeyExists subjectSlot) = true) .enoent
  let issuerParams ← orNotFound (loadIssuerX509Params issuerSlot)
  let subjectParams ← orNotFound (loadIssuerX509Params subjectSlot)
  let subjectPub ← deriveSlotPubkey crypto env subjectSlot
  let privkey ← loadSlotPrivkey crypto env issuerSlot
  let serial ← genSerial env
  let isCa := subjectParams.isCa ≠ 0
  let keyUsage := if isCa then subjectParams.keyUsage ||| kuKeyCertSign ||| kuCrlSign
    else subjectParams.keyUsage
  let der ← .lift (env.buildCert {
    subjectKey := .pub subjectPub
    issuerPriv := privkey
    subjectDn := paramsToDn subjectParams
    issuerDn := paramsToDn issuerParams
    serial
    notBefore := notBeforeBase
    notAfter := computeNotAfter signCsrValidityDays
    emitBc := true
    isCa
    pathLen := pathLenArg subjectParams.pathLen
    keyUsage := if keyUsage = 0 then kuDigitalSignature else keyUsage })
  return ⟨serial, der, issuerSlot, subjectParams.cn⟩
where
  /-- Any failure to load the parameters is reported as missing. -/
  orNotFound (load : Op Device Errno X509Params) : Op Device Errno X509Params := do
    match ← load.attempt with
    | .ok params => return params
    | .error _ => .fail .enoent

/-- The certificate is installed before its record exists. -/
def caSignKeySlot (issuerSlot subjectSlot : Slot) : Op Device Errno Unit := do
  let issue ← prepareKeyIssue config crypto env issuerSlot subjectSlot
  storageSlotCertWrite env.toFaults subjectSlot issue.der
  let _ ← (storageSlotChainDelete env.toFaults subjectSlot).attempt
  persistIssue env issue

/-- A failure to store the bumped CRL number is ignored. -/
def caRevokeCert (serial : Bytes) (nowUnix : UInt64) : Op Device Errno Unit := do
  .ensure (serial.length ≠ 0 ∧ serial.length ≤ 20) .einval
  let record ← readIssuedMeta serial
  .ensure (record.flags &&& issuedFlagProtected = 0) .eacces
  .ensure (record.flags &&& issuedFlagRevoked = 0) .ealready
  storageIssuedMetaWrite env.toFaults serial { record with
    flags := record.flags ||| issuedFlagRevoked
    revokedAtUnix := nowUnix
    revocationReason := 0 : IssuedMeta }.bytes
  let number ← (storageSlotCrlNumberRead record.issuerSlot).attempt
  let _ ← (storageSlotCrlNumberWrite env.toFaults record.issuerSlot
    (number.toOption.getD 0 + 1)).attempt

/-- The count of expired records, and the error that stopped. -/
structure ExpireContext where
  count : UInt32
  err : Option Errno

def expireCb (serial : Bytes) (context : ExpireContext) : Op Device Errno (ExpireContext × Bool) := do
  match ← (readIssuedMeta serial).attempt with
  | .error _ => return (context, false)
  | .ok record =>
    if record.notAfterUnix = 0 then return (context, false)
    if record.flags &&& issuedFlagExpired ≠ 0 then return (context, false)
    if nowUnix < record.notAfterUnix then return (context, false)
    match ← (storageIssuedMetaWrite env.toFaults serial
        { record with flags := record.flags ||| issuedFlagExpired : IssuedMeta }.bytes).attempt with
    | .error error => return ({ context with err := some error }, true)
    | .ok () => return ({ context with count := context.count + 1 }, false)

def caAutoExpire : Op Device Errno UInt32 := do
  .ensure (nowUnix ≠ 0) .einval
  let context ← storageIssuedCertsIter (expireCb env nowUnix) ⟨0, none⟩
  match context.err with
  | some error => .fail error
  | none => return context.count

/-- The sweep marks what the protected slot issued so far. -/
def propagateProtectedCb (serial : Bytes) (count : UInt32) : Op Device Errno (UInt32 × Bool) := do
  match ← (readIssuedMeta serial).attempt with
  | .error _ => return (count, false)
  | .ok record =>
    if record.issuerSlot ≠ slot then return (count, false)
    if record.flags &&& issuedFlagProtected ≠ 0 then return (count, false)
    match ← (storageIssuedMetaWrite env.toFaults serial
        { record with flags := record.flags ||| issuedFlagProtected : IssuedMeta }.bytes).attempt with
    | .ok () => return (count + 1, false)
    | .error _ => return (count, false)

def caProtectSlot (protectIssued : Bool) : Op Device Errno Unit := do
  .ensure (slot < config.maxKeySlots) .einval
  .ensure ((← storageSlotKeyExists slot) = true) .enoent
  let record ← metaRead slot
  metaWrite env.toFaults slot { record with
    isProtected := 1
    protectIssued := if protectIssued then 1 else 0 }
  if protectIssued then
    let _ ← storageIssuedCertsIter (propagateProtectedCb env slot) 0

def caUnprotectSlot : Op Device Errno Unit := do
  .ensure (slot < config.maxKeySlots) .einval
  .ensure ((← storageSlotKeyExists slot) = true) .enoent
  let record ← metaRead slot
  metaWrite env.toFaults slot { record with isProtected := 0, protectIssued := 0 }

end Cantil.Ca
