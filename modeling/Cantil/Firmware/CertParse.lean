import Cantil.Firmware.Config
import Cantil.Library.Bytes

namespace Cantil
open Library

/-- The six name attributes that Cantil reads and issues. -/
structure Dn where
  cn : Bytes
  o : Bytes
  ou : Bytes
  c : Bytes
  st : Bytes
  l : Bytes
  deriving DecidableEq, Repr

def Dn.empty : Dn := ⟨[], [], [], [], [], []⟩

/-- What wolfCrypt decodes. An attribute may be absent. -/
structure DecodedCert where
  serial : Bytes
  subjectCn : Option Bytes
  subjectO : Option Bytes
  subjectOu : Option Bytes
  subjectC : Option Bytes
  subjectSt : Option Bytes
  subjectL : Option Bytes
  /-- The subject without its header, and where it starts. -/
  subjectRaw : Bytes
  subjectStart : Nat
  issuerRaw : Bytes
  selfSigned : Bool
  isCa : Bool
  extKeyUsage : Option UInt16
  afterDate : Bytes
  publicKey : Bytes
  keyOid : Nat
  extensions : Bytes
  deriving DecidableEq, Repr

/-- The reader of wolfCrypt: two parsers and one check. -/
structure WolfReader where
  parseCert : Bytes → Option DecodedCert
  parseCertReq : Bytes → Option DecodedCert
  checkCertSigPubKey : (cert publicKey : Bytes) → (keyOid : Nat) → Bool

def certparseSerialMax : Nat := 32

def certparseSubjectMax : Nat := 320

def certparseMaxInter : Nat := 8

/-- Everything that the CA reads out of a certificate. -/
structure ParsedCert where
  serial : Bytes
  subject : Dn
  dnOverflow : Bool
  subjectDer : Bytes
  pubkey : Option Bytes
  selfSigned : Bool
  isCa : Bool
  keyUsage : UInt16
  naYear : Nat
  naMon : Nat
  naDay : Nat
  x25519 : Option Bytes
  deriving DecidableEq, Repr

/-- An attribute is cut to the field, and the cut is reported. -/
def dnSet (capacity : Nat) : Option Bytes → Bytes × Bool
  | none => ([], false)
  | some source =>
    if source.length ≥ capacity then (source.take (capacity - 1), true) else (source, false)

variable (cert : DecodedCert) (wolf : WolfReader) (der : Bytes)

def fillDn : Dn × Bool :=
  let cn := dnSet 65 cert.subjectCn
  let o := dnSet 65 cert.subjectO
  let ou := dnSet 65 cert.subjectOu
  let c := dnSet 3 cert.subjectC
  let st := dnSet 65 cert.subjectSt
  let l := dnSet 65 cert.subjectL
  (⟨cn.1, o.1, ou.1, c.1, st.1, l.1⟩, cn.2 || o.2 || ou.2 || c.2 || st.2 || l.2)

def oidSessionX25519 : Bytes := [0x2b, 0x06, 0x01, 0x04, 0x01, 0x83, 0xc7, 0x1e, 0x01, 0x01]

/-- What follows the first occurrence of the needle. -/
def findBytes (needle : Bytes) : Bytes → Option Bytes
  | [] => if needle = [] then some [] else none
  | byte :: rest =>
    if needle.isPrefixOf (byte :: rest) then some ((byte :: rest).drop needle.length)
    else findBytes needle rest

/-- The identifier is searched, then an octet string of 32 bytes. -/
def extractX25519 : Option Bytes := do
  let after ← findBytes oidSessionX25519 cert.extensions
  let value ← findBytes [0x04, 0x20] after
  if value.length < 32 then none else some (value.take 32)

/-- The point is the last 65 bytes, and uncompressed. -/
def extractPubkey : Option Bytes :=
  if cert.publicKey.length < 65 then none
  else
    let point := cert.publicKey.drop (cert.publicKey.length - 65)
    if point.head? = some 0x04 then some point else none

def asnUtcTime : UInt8 := 0x17

def asnGeneralizedTime : UInt8 := 0x18

def isDigit (char : UInt8) : Bool := 48 ≤ char ∧ char ≤ 57

def digits (text : Bytes) : Nat := text.foldl (fun value char => value * 10 + (char.toNat - 48)) 0

/-- The end of the validity, or zeros when it cannot be read. -/
def parseAfterDate : Nat × Nat × Nat :=
  match cert.afterDate with
  | tag :: second :: rest =>
    let tagged := tag = asnUtcTime ∨ tag = asnGeneralizedTime
    let text := if tagged then rest else tag :: second :: rest
    let length := if tagged then second.toNat else cert.afterDate.length
    let generalized := if tagged then tag = asnGeneralizedTime else length ≥ 15
    let need := if generalized then 8 else 6
    if length < need ∨ ¬ (text.take need).all isDigit then (0, 0, 0)
    else
      let year := if generalized then digits (text.take 4)
        else if digits (text.take 2) < 50 then 2000 + digits (text.take 2)
        else 1900 + digits (text.take 2)
      let tail := text.drop (need - 4)
      (year, digits (tail.take 2), digits ((tail.drop 2).take 2))
  | _ => (0, 0, 0)

/-- The subject with its header, or nothing without one. -/
def fillSubjectDer : Bytes :=
  let content := cert.subjectRaw.length
  let header := if content < 0x80 then 2 else if content ≤ 0xFF then 3
    else if content ≤ 0xFFFF then 4 else 5
  if content = 0 ∨ cert.subjectStart < header ∨ header + content > certparseSubjectMax then []
  else if der[cert.subjectStart - header]? ≠ some 0x30 then []
  else (der.drop (cert.subjectStart - header)).take (header + content)

def certparseCert : Except Errno ParsedCert :=
  if der.length = 0 then .error .einval
  else
    match wolf.parseCert der with
    | none => .error .einval
    | some cert =>
      let subject := fillDn cert
      let after := parseAfterDate cert
      .ok {
        serial := if cert.serial.length ≤ certparseSerialMax then cert.serial else []
        subject := subject.1
        dnOverflow := subject.2
        subjectDer := fillSubjectDer cert der
        pubkey := extractPubkey cert
        selfSigned := cert.selfSigned
        isCa := cert.isCa
        keyUsage := cert.extKeyUsage.getD 0
        naYear := after.1
        naMon := after.2.1
        naDay := after.2.2
        x25519 := extractX25519 cert }

/-- A request is read without a check of its own signature. -/
def certparseCsr : Except Errno (Dn × Bytes) :=
  if der.length = 0 then .error .einval
  else
    match wolf.parseCertReq der with
    | none => .error .einval
    | some request =>
      let subject := (fillDn request).1
      match extractPubkey request with
      | none => .error .einval
      | some pubkey => if cString subject.cn = [] then .error .einval else .ok (subject, pubkey)

/-- A link needs the name, a CA parent and the signature. -/
def signedBy (childDer : Bytes) (child parent : DecodedCert) : Bool :=
  child.issuerRaw = parent.subjectRaw ∧ child.issuerRaw ≠ [] ∧ parent.isCa ∧
    wolf.checkCertSigPubKey childDer parent.publicKey parent.keyOid

/-- An intermediate. Only a parsed one can become trusted. -/
structure Intermediate where
  der : Bytes
  cert : Option DecodedCert
  trusted : Bool

/-- Signed by an intermediate that is trusted already. -/
def signedByTrusted (childDer : Bytes) (child : DecodedCert) (others : List Intermediate) : Bool :=
  others.any fun other => other.trusted && other.cert.any (signedBy wolf childDer child)

/-- One pass in order, in which a promotion counts at once. -/
def promotePass (wolf : WolfReader) (anchor : DecodedCert) :
    (done rest : List Intermediate) → List Intermediate × Bool
  | done, [] => (done, false)
  | done, item :: rest =>
    let promoted := !item.trusted && item.cert.any fun cert =>
      signedBy wolf item.der cert anchor || signedByTrusted wolf item.der cert (done ++ rest)
    let (all, progress) :=
      promotePass wolf anchor (done ++ [{ item with trusted := item.trusted || promoted }]) rest
    (all, promoted || progress)

def verifyRounds (wolf : WolfReader) (leafDer : Bytes) (leaf anchor : DecodedCert) :
    (rounds : Nat) → List Intermediate → Bool
  | 0, _ => false
  | rounds + 1, intermediates =>
    if signedBy wolf leafDer leaf anchor then true
    else if signedByTrusted wolf leafDer leaf intermediates then true
    else
      let (next, progress) := promotePass wolf anchor [] intermediates
      if progress then verifyRounds wolf leafDer leaf anchor rounds next else false

/-- Only the anchor is trusted at first. -/
def certparseVerifyChain (leafDer : Bytes) (interDers : List Bytes) (anchorDer : Bytes) : Except Errno Unit :=
  if leafDer.length = 0 ∨ anchorDer.length = 0 then .error .einval
  else if interDers.length > certparseMaxInter then .error .einval
  else
    match wolf.parseCert leafDer, wolf.parseCert anchorDer with
    | some leaf, some anchor =>
      let intermediates := interDers.map fun der =>
        Intermediate.mk der (if der.length = 0 then none else wolf.parseCert der) false
      if verifyRounds wolf leafDer leaf anchor (interDers.length + 1) intermediates then .ok ()
      else .error .einval
    | _, _ => .error .einval

end Cantil
