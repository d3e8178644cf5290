import Cantil.Firmware.Ca.Frames
import Cantil.Firmware.Pairing

namespace Cantil.Ca
open Library

/-- The files of `/session`. -/
inductive SessionFile where
  | key
  | idKey
  | cert
  | csr
  | chain
  | metadata
  deriving DecidableEq, Repr

/-- It binds the Noise key in an extension of its own. -/
structure SessionCertSpec extends CertSpec where
  x25519 : Bytes
  deriving DecidableEq, Repr

/-- The same for a command that may touch the session slot. -/
structure SessionEnv extends Env where
  sessionWrite : SessionFile → WriteOutcome
  chainUnlink : Option Errno
  dhKeygen : Except Errno { pair : Bytes × Bytes // pair.2.length = 32 }
  buildSessionCert : SessionCertSpec → Except Errno Bytes
  buildSessionCsr : (priv : Bytes) → Dn → (keyUsage : UInt16) → (x25519 : Bytes) → Except Errno Bytes
  /-- The device identifier, if the hardware gives one. -/
  deviceId : Option Bytes

/-- What `certgen_build_cert` fills of a wolfCrypt `Cert`. -/
structure WolfCert where
  subject : Dn
  issuer : Dn
  serial : Bytes
  beforeDate : Bytes
  afterDate : Bytes
  /-- The CA flag and the path length, if they are emitted. -/
  basicConstraints : Option (Bool × Option UInt8)
  keyUsage : UInt16
  deriving DecidableEq, Repr

/-- Each attribute is cut to its buffer. The texts hold no NUL byte. -/
def fillCertname (nameSize : Nat) (dn : Dn) : Dn :=
  let copy (text : Bytes) : Bytes := text.take (nameSize - 1)
  ⟨copy dn.cn, copy dn.o, copy dn.ou, copy dn.c, copy dn.st, copy dn.l⟩

def encodeTime (stamp : Bytes) : Bytes :=
  if digits (stamp.take 4) < 2050 then asnUtcTime :: 13 :: (fieldAt 2 12 stamp ++ [90])
  else asnGeneralizedTime :: 15 :: (stamp.take 14 ++ [90])

/-- The part in front of `wc_MakeCert`. -/
def certgenBuildCert (nameSize : Nat) (spec : CertSpec) : WolfCert where
  subject := fillCertname nameSize spec.subjectDn
  issuer := fillCertname nameSize spec.issuerDn
  serial := spec.serial
  beforeDate := encodeTime spec.notBefore
  afterDate := encodeTime spec.notAfter
  basicConstraints := if spec.emitBc then some (spec.isCa, if spec.isCa then spec.pathLen else none) else none
  keyUsage := spec.keyUsage

variable (wolf : WolfReader) (env : SessionEnv) (cert constant cn : Bytes)

/-- The identity is never a CA. A given name replaces the constant's. -/
def sessionParams : Except Errno X509Params := do
  let params ← x509Parse constant
  if params.isCa ≠ 0 then .error .einval
  else if cString cn = [] then .ok params
  else if (cString cn).length ≥ 65 then .error .einval
  else .ok { params with cn := cString cn }

def caBuildSessionCert (idPriv x25519 : Bytes) : Op Device Errno Bytes := do
  let params ← .lift (sessionParams constant cn)
  let serial ← genSerial env.toEnv
  let dn := paramsToDn params
  .lift (env.buildSessionCert {
    subjectKey := .priv idPriv
    issuerPriv := idPriv
    subjectDn := dn
    issuerDn := dn
    serial
    notBefore := notBeforeBase
    notAfter := computeNotAfter params.validityDays
    emitBc := false
    isCa := false
    pathLen := some 0
    keyUsage := params.keyUsage
    x25519 })

def caBuildSessionCsr (idPriv x25519 : Bytes) : Op Device Errno Bytes := do
  let params ← .lift (sessionParams constant cn)
  .lift (env.buildSessionCsr idPriv (paramsToDn params) params.keyUsage x25519)

def caSignSessionCert (config : Config) (crypto : Crypto) (env : SessionEnv) (issuerSlot : Slot)
    (constant cn idPriv x25519 : Bytes) : Op Device Errno Bytes := do
  .ensure (issuerSlot < config.maxKeySlots) .einval
  .ensure ((← storageSlotKeyExists issuerSlot) = true) .enoent
  .ensure (issuerSlot ≠ caSlot ∨ (← caReady) = true) .enoent
  let params ← .lift (sessionParams constant cn)
  let issuerParams ← loadIssuerX509Params issuerSlot
  let caPriv ← loadSlotPrivkey crypto env.toEnv issuerSlot
  let serial ← genSerial env.toEnv
  .lift (env.buildSessionCert {
    subjectKey := .priv idPriv
    issuerPriv := caPriv
    subjectDn := paramsToDn params
    issuerDn := paramsToDn issuerParams
    serial
    notBefore := notBeforeBase
    notAfter := computeNotAfter params.validityDays
    emitBc := true
    isCa := false
    pathLen := none
    keyUsage := params.keyUsage
    x25519 })

/-- The device name is not compared, and the end only if self-signed. -/
def caSessionCertMatchesConstant : Except Errno Bool := do
  let want ← x509Parse constant
  let got ← certparseCert wolf cert
  let notAfter := computeNotAfter want.validityDays
  return !got.dnOverflow &&
    (cString got.subject.o = cString want.o ∧ cString got.subject.ou = cString want.ou ∧
      cString got.subject.c = cString want.c ∧ cString got.subject.st = cString want.st ∧
      cString got.subject.l = cString want.l) &&
    got.keyUsage = want.keyUsage &&
    (!got.selfSigned || (got.naYear = digits (notAfter.take 4) ∧ got.naMon = digits (fieldAt 4 2 notAfter) ∧
      got.naDay = digits (fieldAt 6 2 notAfter)))

/-- The chain is well formed to its end, up to one byte. -/
def splitPushedChain : (room : Nat) → Bytes → Except Errno (List Bytes)
  | 0, rest => if rest.length ≤ 1 then .ok [] else .error .einval
  | room + 1, rest =>
    if rest.length ≤ 1 then .ok []
    else
      match DerWrite.derTlvLen rest 0x30 with
      | .error _ => .error .einval
      | .ok size => do return rest.take size :: (← splitPushedChain room (rest.drop size))

/-- The last one is the anchor, the others intermediates. -/
def verifyParts (parts : List Bytes) : Except Errno Unit :=
  match parts.getLast? with
  | none => .error .einval
  | some anchor => certparseVerifyChain wolf cert parts.dropLast anchor

/-- The chain above a self-signed certificate is not looked at. -/
def caValidatePushedSessionCert (chain idPub x25519 constant : Bytes) : Except Errno Bool :=
  match certparseCert wolf cert with
  | .error _ => .error .einval
  | .ok leaf =>
    if leaf.pubkey ≠ some idPub then .error .einval
    else if leaf.x25519 ≠ some x25519 then .error .einval
    else if (caSessionCertMatchesConstant wolf cert constant).toOption ≠ some true then .error .einval
    else if leaf.selfSigned then .ok false
    else if chain.length = 0 then .error .einval
    else
      match splitPushedChain certparseMaxChain chain with
      | .error error => .error error
      | .ok parts =>
        match verifyParts wolf cert parts with
        | .error _ => .error .einval
        | .ok () => .ok true

section Readers

variable {relation : Device → Device → Prop} [IsPreorder Device relation]

instance (env : SessionEnv) (constant cn idPriv x25519 : Bytes) :
    Op.Reader (caBuildSessionCert env constant cn idPriv x25519) := by
  unfold caBuildSessionCert
  infer_instance

instance (env : SessionEnv) (constant cn idPriv x25519 : Bytes) :
    Op.Reader (caBuildSessionCsr env constant cn idPriv x25519) := by
  unfold caBuildSessionCsr
  infer_instance

instance (config : Config) (crypto : Crypto) (env : SessionEnv) (issuerSlot : Slot)
    (constant cn idPriv x25519 : Bytes) :
    Op.Reader (caSignSessionCert config crypto env issuerSlot constant cn idPriv x25519) :=
  .read fun _ => .read fun _ => .read fun _ => .read fun _ => .read fun _ => inferInstance

end Readers

/-- The writer made the certificate for this Noise key. -/
theorem caBuildSessionCert_built {env : SessionEnv} {constant cn idPriv x25519 cert : Bytes} {device : Device}
    (made : (caBuildSessionCert env constant cn idPriv x25519 device).1 = .ok cert) :
    ∃ spec, env.buildSessionCert spec = .ok cert ∧ spec.x25519 = x25519 := by
  obtain ⟨params, _, made⟩ := Op.read_ok made
  obtain ⟨serial, _, made⟩ := Op.read_ok made
  exact ⟨_, made, rfl⟩

theorem caSignSessionCert_built {config : Config} {crypto : Crypto} {env : SessionEnv} {issuerSlot : Slot}
    {constant cn idPriv x25519 cert : Bytes} {device : Device}
    (made : (caSignSessionCert config crypto env issuerSlot constant cn idPriv x25519 device).1 = .ok cert) :
    ∃ spec, env.buildSessionCert spec = .ok cert ∧ spec.x25519 = x25519 := by
  simp only [caSignSessionCert, Op.read_ok_iff, Op.ensure_ok, exists_const] at made
  obtain ⟨_, _, _, _, _, _, _, params, _, issuerParams, _, caPriv, _, serial, _, made⟩ := made
  exact ⟨_, made, rfl⟩

/-- Keys and constant match, and a signed leaf's chain verifies. -/
theorem caValidatePushedSessionCert_ok {wolf : WolfReader} {cert chain idPub x25519 constant : Bytes} {caSigned : Bool}
    (accepted : caValidatePushedSessionCert wolf cert chain idPub x25519 constant = .ok caSigned) :
    ∃ leaf, certparseCert wolf cert = .ok leaf ∧ (leaf.pubkey = some idPub ∧ leaf.x25519 = some x25519 ∧
      caSessionCertMatchesConstant wolf cert constant = .ok true) ∧ caSigned = !leaf.selfSigned ∧
      (leaf.selfSigned = false → ∃ parts, splitPushedChain certparseMaxChain chain = .ok parts ∧
        verifyParts wolf cert parts = .ok ()) := by
  unfold caValidatePushedSessionCert at accepted
  rcases parsed : certparseCert wolf cert with error | leaf
  · rw [parsed] at accepted
    cases accepted
  · rw [parsed] at accepted
    dsimp only at accepted
    split_ifs at accepted with pubkey binding subject self empty
    · obtain rfl := Except.ok.inj accepted
      have held := And.intro (not_not.mp pubkey)
        (And.intro (not_not.mp binding) (toOption_eq_some.mp (not_not.mp subject)))
      exact ⟨leaf, rfl, held, by rw [self]; rfl, fun other => by rw [self] at other; cases other⟩
    · rcases split : splitPushedChain certparseMaxChain chain with error | parts
      · rw [split] at accepted
        cases accepted
      · rw [split] at accepted
        dsimp only at accepted
        rcases verified : verifyParts wolf cert parts with error | _
        · rw [verified] at accepted
          cases accepted
        · rw [verified] at accepted
          obtain rfl := Except.ok.inj accepted
          have other : leaf.selfSigned = false := Bool.eq_false_iff.mpr self
          have held := And.intro (not_not.mp pubkey)
            (And.intro (not_not.mp binding) (toOption_eq_some.mp (not_not.mp subject)))
          exact ⟨leaf, rfl, held, by rw [other]; rfl, fun _ => ⟨parts, rfl, verified⟩⟩

end Cantil.Ca
