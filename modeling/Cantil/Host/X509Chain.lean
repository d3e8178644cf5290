import Cantil.Firmware.CertParse
import Cantil.Host.Trust

namespace Cantil.Host
open Library

/-- The two identifiers that the profile pins. -/
structure ProfiledCert extends DecodedCert where
  signatureOid : Nat
  pkCurveOid : Nat

/-- wolfSSL's parser, and the identifiers of the profile. -/
structure WolfSsl where
  parse : Bytes → Option ProfiledCert
  checkCertSigPubKey : (cert publicKey : Bytes) → (keyOid : Nat) → Bool
  ctcSha256wEcdsa : Nat
  ecdsak : Nat
  eccSecp256r1 : Nat

variable (ssl : WolfSsl)

/-- The same library as the device reads it. -/
def WolfSsl.reader : WolfReader where
  parseCert der := (ssl.parse der).map ProfiledCert.toDecodedCert
  parseCertReq _ := none
  checkCertSigPubKey := ssl.checkCertSigPubKey

/-- ECDSA with SHA-256 over a P-256 key. -/
def WolfSsl.profileOk (cert : ProfiledCert) : Bool :=
  cert.signatureOid = ssl.ctcSha256wEcdsa ∧ cert.keyOid = ssl.ecdsak ∧ cert.pkCurveOid = ssl.eccSecp256r1

/-- The manager of wolfSSL. What is loaded is an anchor. -/
structure CertManager where
  Store : Type
  new : Option Store
  loadCaBuffer : Store → Bytes → Option Store
  verifyBuffer : Store → Bytes → Bool

variable (manager : CertManager)

inductive X509Result where
  | ok
  | parse
  | chain
  | internal
  deriving DecidableEq, Repr

/-- An intermediate of the peer, and whether it was loaded. -/
structure Candidate where
  der : Bytes
  promoted : Bool

/-- A candidate is loaded once it verifies. -/
def tryLoad (store : manager.Store) (item : Candidate) : Option manager.Store :=
  if item.promoted ∨ item.der.length = 0 then none
  else if manager.verifyBuffer store item.der then manager.loadCaBuffer store item.der
  else none

theorem tryLoad_eq_some {manager : CertManager} {store next : manager.Store} {item : Candidate} :
    tryLoad manager store item = some next ↔ item.promoted = false ∧ item.der.length ≠ 0 ∧
      manager.verifyBuffer store item.der = true ∧ manager.loadCaBuffer store item.der = some next := by
  unfold tryLoad
  split_ifs with skipped verified
  · refine iff_of_false (by simp) ?_
    rintro ⟨fresh, nonempty, _⟩
    rcases skipped with old | empty
    · simp [fresh] at old
    · exact nonempty empty
  · rw [not_or] at skipped
    simp [verified, skipped.2, Bool.not_eq_true _ |>.mp skipped.1]
  · simp [verified]

/-- A pass loads every candidate that verifies by then. -/
def loadPass (manager : CertManager) :
    manager.Store → List Candidate → (manager.Store × List Candidate) × Bool
  | store, [] => ((store, []), false)
  | store, item :: rest =>
    let loaded := tryLoad manager store item
    let ((last, items), progress) := loadPass manager (loaded.getD store) rest
    ((last, { item with promoted := item.promoted || loaded.isSome } :: items), loaded.isSome || progress)

def buildRounds (manager : CertManager) (leafDer : Bytes) :
    (rounds : Nat) → manager.Store × List Candidate → X509Result
  | 0, _ => .chain
  | rounds + 1, (store, items) =>
    if manager.verifyBuffer store leafDer then .ok
    else
      let (next, progress) := loadPass manager store items
      if progress then buildRounds manager leafDer rounds next else .chain

/-- The anchor is loaded first. The leaf fits the profile. -/
def x509VerifyChain (calloc : Nat → Bool) (leafDer : Bytes) (interDers : List Bytes) (caDer : Bytes) : X509Result :=
  if leafDer.length = 0 ∨ caDer.length = 0 then .parse
  else
    match ssl.parse leafDer with
    | none => .parse
    | some leaf =>
      if ¬ ssl.profileOk leaf then .chain
      else
        match manager.new with
        | none => .internal
        | some empty =>
          match manager.loadCaBuffer empty caDer with
          | none => .parse
          | some store =>
            if interDers.length > 0 ∧ ¬ calloc interDers.length then .internal
            else buildRounds manager leafDer (interDers.length + 1)
              (store, interDers.map fun der => ⟨der, false⟩)

/-- The seam of the trust policy on this backend. -/
def wolfSslX509 (calloc : Nat → Bool) (readers : X509) : X509 :=
  { readers with
    verifyChain := fun leaf intermediates anchor => x509VerifyChain ssl manager calloc leaf intermediates anchor = .ok
    calloc }

end Cantil.Host
