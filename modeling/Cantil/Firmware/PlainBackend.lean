import Cantil.Firmware.Dispatcher
import Cantil.Library.Trace

namespace Cantil.Dispatcher
open Library Ca
open Protocol (Command)

/-- The plain point of a scalar repeats it. -/
def plainPoint (scalar : Bytes) : Bytes := 0x04 :: (scalar ++ scalar)

/-- The name of every plain certificate. -/
def plainName : Bytes := [0x30, 0x02, 0x05, 0x00]

variable (random : UInt8) (isCa : Bool) (point : Bytes)

/-- A plain certificate is a fixed name in front of the point. -/
def plainCert : Bytes := plainName ++ point

def plainDecoded : DecodedCert where
  serial := [1]
  subjectCn := some [65]
  subjectO := none
  subjectOu := none
  subjectC := none
  subjectSt := none
  subjectL := none
  subjectRaw := [0x05, 0x00]
  subjectStart := 2
  issuerRaw := [0x05, 0x00]
  selfSigned := true
  isCa := true
  extKeyUsage := none
  afterDate := []
  publicKey := point
  keyOid := 0
  extensions := []

/-- A backend without secrets: clear keys and bare points. -/
def plainCrypto : Crypto where
  parseCert der :=
    if der.length = 69 ∧ der.take 4 = plainName then some (plainDecoded (der.drop 4)) else none
  parseCertReq der := if der.length = 65 then some (plainDecoded der) else none
  checkCertSigPubKey _ _ _ := true
  pubkeyFromPrivkey priv := .ok (plainPoint priv)
  decryptBlob blob := .ok blob
  sha256 _ := List.replicate 32 0

/-- Nothing fails, the user confirms, random bytes repeat. -/
def plainEnv : Env where
  toFaults := Faults.none 0
  gestureState := .unlocked
  inRecovery := false
  storageKeyDerive := .ok ()
  trng count := .ok ⟨List.replicate count random, List.length_replicate⟩
  keygen := .ok (List.replicate 32 random)
  encryptBlob priv := .ok priv
  buildCert spec :=
    let point := match spec.subjectKey with
      | .priv scalar => plainPoint scalar
      | .pub point => point
    if point.length = 65 ∧ point.head? = some 0x04 then .ok (plainCert point) else .error .einval
  buildCsr _ _ := .ok []
  sign _ _ := .ok (List.replicate 64 1)
  confirm := .ok
  elsewhere := (⟨.ok, RespData.none⟩, fun _ _ => none)

/-- A formatted volume without a file. -/
def blankDevice : Device := ⟨Fs.empty, .valid, false⟩

def request (command : Command) (data : Bytes) : Event :=
  .request (plainEnv random) command.code data

/-- The parameters of a certificate authority with the name `A`. -/
def plainParams : Bytes := [0x0E, 0x42, 1, 0xFF, 0, 0, 1, 65, 0, 0, 0, 0, 0]

def provisioning : List Event :=
  [request 1 .provisionCa [], request 2 .pushKeyX509 ([0, 0, 0, 0] ++ plainParams)]

def provisionedDevice : Device := Trace.run (step .default plainCrypto) blankDevice provisioning

/-- An open certificate shows all that it was made of. -/
def openHead (serial point signer : Bytes) (subjectLength : Nat) : Bytes :=
  (if isCa then 1 else 0) :: (serial ++ (point ++ (signer ++ [0x30, UInt8.ofNat subjectLength])))

def openCert (serial point signer subject issuer : Bytes) : Bytes :=
  openHead isCa serial point signer subject.length ++ (subject ++ issuer)

def openSubjectLength (der : Bytes) : Nat := bigEndianValue (fieldAt 140 1 der)

def openDecoded (der : Bytes) : DecodedCert :=
  { plainDecoded (fieldAt 9 65 der) with
    serial := fieldAt 1 8 der
    subjectRaw := (der.drop 141).take (openSubjectLength der)
    subjectStart := 141
    issuerRaw := (der.drop 141).drop (openSubjectLength der)
    isCa := der.headD 0 = 1 }

/-- Certificates are open, and signed with the signer's point. -/
def openCrypto : Crypto :=
  { plainCrypto with
    parseCert := fun der => if 141 ≤ der.length then some (openDecoded der) else none
    checkCertSigPubKey := fun der key _ => fieldAt 74 65 der = key }

def plainKey : KeyArg → Bytes
  | .priv scalar => plainPoint scalar
  | .pub point => point

/-- The name of a holder is its common name. -/
def openBuild (spec : CertSpec) : Except Errno Bytes :=
  if (plainKey spec.subjectKey).length = 65 ∧ spec.issuerPriv.length = 32 ∧ spec.serial.length = 8 ∧
      spec.subjectDn.cn.length < 256 then
    .ok (openCert spec.isCa spec.serial (plainKey spec.subjectKey) (plainPoint spec.issuerPriv) spec.subjectDn.cn
      spec.issuerDn.cn)
  else .error .einval

def openEnv : Env := { plainEnv random with buildCert := openBuild }

def openRequest (command : Command) (data : Bytes) : Event :=
  .request (openEnv random) command.code data

/-- An open certificate is read back as it was made. -/
theorem openDecoded_openCert {serial point signer subject : Bytes} (issuer : Bytes) (serialSize : serial.length = 8)
    (pointSize : point.length = 65) (signerSize : signer.length = 65) (subjectSize : subject.length < 256) :
    openDecoded (openCert isCa serial point signer subject issuer) =
        { plainDecoded point with
          serial, subjectRaw := subject, subjectStart := 141, issuerRaw := issuer, isCa } ∧
      fieldAt 74 65 (openCert isCa serial point signer subject issuer) = signer := by
  have head : (openHead isCa serial point signer subject.length).length = 141 := by
    simp [openHead, serialSize, pointSize, signerSize]
  have tail : (openCert isCa serial point signer subject issuer).drop 141 = subject ++ issuer := by
    rw [openCert, ← head, List.drop_left]
  have length : openSubjectLength (openCert isCa serial point signer subject issuer) = subject.length := by
    have field : fieldAt 140 1 (openCert isCa serial point signer subject issuer) =
        [UInt8.ofNat subject.length] := by
      simp [openCert, openHead, fieldAt_cons, fieldAt_skip, serialSize, pointSize, signerSize]
      rfl
    rw [openSubjectLength, field]
    simp [bigEndianValue, Nat.mod_eq_of_lt subjectSize]
  have flag : (openCert isCa serial point signer subject issuer).headD 0 = if isCa then 1 else 0 := rfl
  have fields : fieldAt 1 8 (openCert isCa serial point signer subject issuer) = serial ∧
      fieldAt 9 65 (openCert isCa serial point signer subject issuer) = point ∧
      fieldAt 74 65 (openCert isCa serial point signer subject issuer) = signer := by
    simp [openCert, openHead, fieldAt_cons, fieldAt_skip, fieldAt_here, serialSize, pointSize, signerSize]
  refine ⟨?_, fields.2.2⟩
  simp only [openDecoded, length, tail, flag, fields, List.take_left, List.drop_left]
  cases isCa <;> rfl

theorem openBuild_eq_ok {spec : CertSpec} {der : Bytes} (built : openBuild spec = .ok der) :
    141 ≤ der.length ∧
      openDecoded der =
        { plainDecoded (plainKey spec.subjectKey) with
          serial := spec.serial, subjectRaw := spec.subjectDn.cn, subjectStart := 141,
          issuerRaw := spec.issuerDn.cn, isCa := spec.isCa } ∧
      fieldAt 74 65 der = plainPoint spec.issuerPriv := by
  unfold openBuild at built
  split_ifs at built with sizes
  obtain ⟨point, privkey, serial, subject⟩ := sizes
  obtain rfl := Except.ok.inj built
  have signer : (plainPoint spec.issuerPriv).length = 65 := by simp [plainPoint, privkey]
  refine ⟨?_, openDecoded_openCert spec.isCa spec.issuerDn.cn serial point signer subject⟩
  simp only [openCert, openHead, List.length_append, List.length_cons, serial, point, signer]
  omega

end Cantil.Dispatcher
