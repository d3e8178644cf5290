import Cantil.Firmware.Ca.Frames

namespace Cantil.Ca
open Library

/-- The certificate that the issuer makes out of a request. -/
def csrSpec (subject : Dn × Bytes) (issuerParams : X509Params) (privkey serial : Bytes) : CertSpec where
  subjectKey := .pub subject.2
  issuerPriv := privkey
  subjectDn := subject.1
  issuerDn := paramsToDn issuerParams
  serial
  notBefore := notBeforeBase
  notAfter := computeNotAfter signCsrValidityDays
  emitBc := true
  isCa := false
  pathLen := none
  keyUsage := kuDigitalSignature

/-- The certificate that the issuer makes for another slot. -/
def keySpec (subjectPub : Bytes) (subjectParams issuerParams : X509Params) (privkey serial : Bytes) : CertSpec where
  subjectKey := .pub subjectPub
  issuerPriv := privkey
  subjectDn := paramsToDn subjectParams
  issuerDn := paramsToDn issuerParams
  serial
  notBefore := notBeforeBase
  notAfter := computeNotAfter signCsrValidityDays
  emitBc := true
  isCa := subjectParams.isCa ≠ 0
  pathLen := pathLenArg subjectParams.pathLen
  keyUsage :=
    let keyUsage := if subjectParams.isCa ≠ 0 then subjectParams.keyUsage ||| kuKeyCertSign ||| kuCrlSign
      else subjectParams.keyUsage
    if keyUsage = 0 then kuDigitalSignature else keyUsage

/-- The certificate that a slot makes for itself. -/
def selfSpec (params : X509Params) (privkey serial : Bytes) : CertSpec where
  subjectKey := .priv privkey
  issuerPriv := privkey
  subjectDn := paramsToDn params
  issuerDn := paramsToDn params
  serial
  notBefore := notBeforeBase
  notAfter := computeNotAfter params.validityDays
  emitBc := params.isCa ≠ 0
  isCa := params.isCa ≠ 0
  pathLen := pathLenArg params.pathLen
  keyUsage := if params.isCa ≠ 0 then params.keyUsage ||| kuKeyCertSign ||| kuCrlSign else params.keyUsage

/-- What the issuing slot brings to a signature. -/
structure IssuerReady (config : Config) (crypto : Crypto) (env : Env) (device : Device) (slot : Slot)
    (params : X509Params) (privkey serial : Bytes) : Prop where
  inside : slot < config.maxKeySlots
  keyed : (device.fs.files (.slot slot .key)).isSome = true
  params : (loadIssuerX509Params slot device).1 = .ok params
  privkey : (loadSlotPrivkey crypto env slot device).1 = .ok privkey
  serial : (genSerial env device).1 = .ok serial

/-- Slot 0 is provisioned and holds a certificate. -/
def CaReady (device : Device) (slot : Slot) : Prop :=
  slot ≠ caSlot ∨ device.provisioned = true ∧ (device.fs.files (.slot caSlot .cert)).isSome = true

section Prepared

variable {config : Config} {crypto : Crypto} {env : Env} {device : Device} {issue : Issue}

theorem caReady_apply (device : Device) :
    caReady device = (.ok (device.provisioned && (device.fs.files (.slot caSlot .cert)).isSome), device) := by
  simp [caReady, Op.bind_apply, storageSlotCertExists, fileExists]

variable {capacity : Nat} {slot : Slot} {csr : Bytes}

/-- Signed when issuer, request and writer are ready. -/
theorem prepareCsrIssue_iff :
    (prepareCsrIssue config crypto env slot csr capacity device).1 = .ok issue ↔
      capacity ≠ 0 ∧ CaReady device slot ∧ ∃ params privkey subject,
        IssuerReady config crypto env device slot params privkey issue.serial ∧
        certparseCsr crypto.toWolfReader csr = .ok subject ∧
        env.buildCert (csrSpec subject params privkey issue.serial) = .ok issue.der ∧
        issue.der.length ≤ capacity ∧ issue.issuerSlot = slot ∧ issue.cn = subject.1.cn := by
  simp only [prepareCsrIssue, Op.read_ok_iff, Op.ensure_ok, exists_const]
  constructor
  · rintro ⟨⟨_, some⟩, inside, _, found, present, ready, readiness, needed, subject, read, params, loaded, privkey,
      decrypted, serial, drawn, der, built, fits, prepared⟩
    obtain rfl := Except.ok.inj prepared
    obtain rfl := Except.ok.inj readiness
    refine ⟨some, ?_, params, privkey, subject, ⟨inside, (Except.ok.inj found).trans present, loaded, decrypted,
      drawn⟩, read, built, fits, rfl, rfl⟩
    simpa [CaReady] using needed
  · rintro ⟨some, ready, params, privkey, subject, issuer, read, built, fits, rfl, named⟩
    have length : csr.length ≠ 0 := by
      intro empty
      simp [certparseCsr, empty] at read
    exact ⟨⟨length, some⟩, issuer.inside, true, congrArg _ issuer.keyed, rfl, _, by rw [caReady_apply],
      by simpa [CaReady] using ready, subject, read, params, issuer.params, privkey, issuer.privkey, _, issuer.serial,
      _, built, fits, by rw [← named]; rfl⟩

theorem orNotFound_ok {load : Op Device Errno X509Params} {params : X509Params} :
    (prepareKeyIssue.orNotFound load device).1 = .ok params ↔ (load device).1 = .ok params := by
  rw [prepareKeyIssue.orNotFound, Op.bind_apply, Op.attempt_apply]
  rcases load device with ⟨_ | held, after⟩
  · simp
  · simp

/-- Issuer and subject are ready, and the writer succeeds. -/
def KeyIssue (config : Config) (crypto : Crypto) (env : Env) (device : Device) (issuer subject : Slot)
    (issue : Issue) : Prop :=
  subject < config.maxKeySlots ∧ (device.fs.files (.slot subject .key)).isSome = true ∧
    ∃ params privkey subjectParams subjectPub,
      IssuerReady config crypto env device issuer params privkey issue.serial ∧
      (loadIssuerX509Params subject device).1 = .ok subjectParams ∧
      (deriveSlotPubkey crypto env subject device).1 = .ok subjectPub ∧
      env.buildCert (keySpec subjectPub subjectParams params privkey issue.serial) = .ok issue.der ∧
      issue.issuerSlot = issuer ∧ issue.cn = subjectParams.cn

theorem prepareKeyIssue_iff {issuer subject : Slot} :
    (prepareKeyIssue config crypto env issuer subject device).1 = .ok issue ↔
      KeyIssue config crypto env device issuer subject issue := by
  simp only [prepareKeyIssue, Op.read_ok_iff, Op.ensure_ok, exists_const, orNotFound_ok]
  constructor
  · rintro ⟨⟨inside, subjectInside⟩, _, found, present, _, subjectFound, subjectPresent, params, loaded,
      subjectParams, subjectLoaded, pub, derived, privkey, decrypted, serial, drawn, der, built, prepared⟩
    obtain rfl := Except.ok.inj prepared
    exact ⟨subjectInside, (Except.ok.inj subjectFound).trans subjectPresent, params, privkey, subjectParams, pub,
      ⟨inside, (Except.ok.inj found).trans present, loaded, decrypted, drawn⟩, subjectLoaded, derived, built, rfl,
      rfl⟩
  · rintro ⟨subjectInside, keyed, params, privkey, subjectParams, pub, issuer, loaded, derived, built, rfl, named⟩
    exact ⟨⟨issuer.inside, subjectInside⟩, true, congrArg _ issuer.keyed, rfl, true, congrArg _ keyed, rfl, params,
      issuer.params, subjectParams, loaded, pub, derived, privkey, issuer.privkey, _, issuer.serial, _, built,
      by rw [← named]; rfl⟩

theorem prepareCsrIssue_drawn
    (prepared : (prepareCsrIssue config crypto env slot csr capacity device).1 = .ok issue) :
    (genSerial env device).1 = .ok issue.serial := by
  obtain ⟨_, _, _, _, _, ready, _⟩ := prepareCsrIssue_iff.mp prepared
  exact ready.serial

theorem prepareKeyIssue_drawn {issuer subject : Slot}
    (prepared : (prepareKeyIssue config crypto env issuer subject device).1 = .ok issue) :
    (genSerial env device).1 = .ok issue.serial := by
  obtain ⟨_, _, _, _, _, _, ready, _⟩ := prepareKeyIssue_iff.mp prepared
  exact ready.serial

variable {relation : Device → Device → Prop} [IsPreorder Device relation]

/-- A signing command does what its two writes do. -/
theorem caSignCsrSlot_related (persisted : ∀ issue : Issue, (genSerial env device).1 = .ok issue.serial →
      relation device (persistIssue env issue device).2) :
    relation device (caSignCsrSlot config crypto env slot csr capacity device).2 := by
  refine Op.relates_reader
    fun outcome prepared => ?_
  cases outcome with
  | error => exact refl device
  | ok issue =>
    have drawn := prepareCsrIssue_drawn (Except.ok.inj prepared)
    exact Op.relates_bind (persisted issue drawn) fun _ between _ => refl between

/-- This one installs the certificate before these writes. -/
theorem caSignKeySlot_related {issuer subject : Slot}
    (installed : ∀ issue : Issue, (genSerial env device).1 = .ok issue.serial →
      relation device ((do
        storageSlotCertWrite env.toFaults subject issue.der
        let _ ← (storageSlotChainDelete env.toFaults subject).attempt
        persistIssue env issue) device).2) :
    relation device (caSignKeySlot config crypto env issuer subject device).2 := by
  refine Op.relates_reader fun issue prepared => ?_
  exact installed issue (prepareKeyIssue_drawn prepared)

end Prepared

end Cantil.Ca
