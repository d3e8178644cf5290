import Cantil.Library.Bytes

namespace Cantil.Host
open Library

/-- The host's X.509 seam and its allocator. The binding is never asked for. -/
structure X509 where
  subjectDer : Bytes → Option Bytes
  subjectCn : Bytes → Option Bytes
  verifyChain : Bytes → List Bytes → Bytes → Bool
  calloc : Nat → Bool
  x25519Binding : Bytes → Option Bytes

/-- The four trust tiers. -/
inductive TrustMode where
  | none
  | pinnedSelfSigned
  | caAllowlist
  | caPlusCnPin
  deriving DecidableEq, Repr

structure TrustPolicy where
  mode : TrustMode
  expectedFingerprint : Option Bytes
  expectedSubjectDer : Option Bytes
  trustStore : Option (List Bytes)
  expectedCn : Option Bytes
  deriving DecidableEq, Repr

inductive TrustVerdict where
  | ok
  | invalidArg
  | trust
  deriving DecidableEq, Repr

def x509SubjectMax : Nat := 512

def cnBufSize : Nat := 128

/-- The subject pin is skipped when absent or empty. -/
def tier2CheckSubject (x509 : X509) (policy : TrustPolicy) (leaf : Bytes) : TrustVerdict :=
  match policy.expectedSubjectDer with
  | none => .ok
  | some [] => .ok
  | some expected =>
    match x509.subjectDer leaf with
    | none => .trust
    | some subject =>
      if subject.length > x509SubjectMax then .trust
      else if subject = expected then .ok
      else .trust

/-- One anchor of the store suffices. -/
def tier3ChainValidate (x509 : X509) (policy : TrustPolicy) (chain : List Bytes) : TrustVerdict :=
  match policy.trustStore with
  | none => .invalidArg
  | some [] => .invalidArg
  | some anchors =>
    match chain with
    | [] => .trust
    | leaf :: intermediates =>
      if intermediates.length > 0 ∧ ¬ x509.calloc intermediates.length then .trust
      else if anchors.any (fun anchor => x509.verifyChain leaf intermediates anchor) then .ok
      else .trust

def extractCn (x509 : X509) (leaf : Bytes) : Except TrustVerdict Bytes :=
  match x509.subjectCn leaf with
  | none => .error .trust
  | some name => if name.length + 1 > cnBufSize then .error .invalidArg else .ok name

def tier4CnValidate (x509 : X509) (policy : TrustPolicy) (chain : List Bytes) : TrustVerdict :=
  match tier3ChainValidate x509 policy chain with
  | .ok =>
    match policy.expectedCn with
    | none => .invalidArg
    | some expected =>
      match chain with
      | [] => .trust
      | leaf :: _ =>
        match extractCn x509 leaf with
        | .error verdict => verdict
        | .ok name => if cString name = expected then .ok else .trust
  | verdict => verdict

/-- The policy reads the received chain only. -/
def trustCheckPolicy (sha256 : Bytes → Bytes) (x509 : X509) (policy : Option TrustPolicy)
    (chain : List Bytes) : TrustVerdict :=
  match policy with
  | none => .ok
  | some policy =>
    match policy.mode with
    | .none => .ok
    | .pinnedSelfSigned =>
      match policy.expectedFingerprint with
      | none => .invalidArg
      | some fingerprint =>
        match chain with
        | [] => .trust
        | leaf :: _ =>
          if sha256 leaf ≠ fingerprint then .trust else tier2CheckSubject x509 policy leaf
    | .caAllowlist => tier3ChainValidate x509 policy chain
    | .caPlusCnPin => tier4CnValidate x509 policy chain

/-- A policy of tier 2, 3 or 4 that accepts has seen a leaf. -/
theorem chain_ne_nil_of_accepted (sha256 : Bytes → Bytes) (x509 : X509) (policy : TrustPolicy)
    (chain : List Bytes) (inspects : policy.mode ≠ .none)
    (accepted : trustCheckPolicy sha256 x509 (some policy) chain = .ok) : chain ≠ [] := by
  rintro rfl
  cases mode : policy.mode with
  | none => exact inspects mode
  | pinnedSelfSigned =>
    simp only [trustCheckPolicy, mode] at accepted
    split at accepted <;> cases accepted
  | caAllowlist =>
    simp only [trustCheckPolicy, mode, tier3ChainValidate] at accepted
    split at accepted <;> cases accepted
  | caPlusCnPin =>
    simp only [trustCheckPolicy, mode, tier4CnValidate, tier3ChainValidate] at accepted
    split at accepted <;> split at * <;> simp_all

end Cantil.Host
