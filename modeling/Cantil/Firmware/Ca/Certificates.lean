import Cantil.Firmware.Ca.Records
import Cantil.Firmware.CertParse
import Cantil.Firmware.Protocol

namespace Cantil.Ca
open Library

def caSlot : Slot := 0

def keyBlobMax : Nat := 128

def certDerMax : Nat := 2048

def x509DataMax : Nat := 512

def signCsrValidityDays : Nat := 365

def signCsrNotBeforeUnix : Nat := 1767225600

def kuDigitalSignature : UInt16 := 0x0080

def kuKeyCertSign : UInt16 := 0x0004

def kuCrlSign : UInt16 := 0x0002

def keyTypeP256 : UInt8 := 1

/-- The parameters that a host pushes for a slot. -/
structure X509Params where
  validityDays : Nat
  isCa : UInt8
  pathLen : UInt8
  keyUsage : UInt16
  cn : Bytes
  o : Bytes
  ou : Bytes
  c : Bytes
  st : Bytes
  l : Bytes
  deriving DecidableEq, Repr

/-- A text behind its length, with room for the terminator. -/
def parseStrField (capacity : Nat) : Bytes → Except Errno (Bytes × Bytes)
  | [] => .error .einval
  | count :: rest =>
    if count.toNat ≥ capacity ∨ count.toNat > rest.length then .error .einval
    else .ok (rest.take count.toNat, rest.drop count.toNat)

def x509Parse (data : Bytes) : Except Errno X509Params := do
  if data.length < 6 then .error .einval
  let (cn, rest) ← parseStrField 65 (data.drop 6)
  let (o, rest) ← parseStrField 65 rest
  let (ou, rest) ← parseStrField 65 rest
  let (c, rest) ← parseStrField 3 rest
  let (st, rest) ← parseStrField 65 rest
  let (l, _) ← parseStrField 65 rest
  let validityDays := bigEndianValue (data.take 2)
  if cString cn = [] ∨ validityDays = 0 then .error .einval
  if cString c ≠ [] ∧ (cString c).length ≠ 2 then .error .einval
  return {
    validityDays
    isCa := data.getD 2 0
    pathLen := data.getD 3 0
    keyUsage := UInt16.ofNat (bigEndianValue (fieldAt 4 2 data))
    cn, o, ou, c, st, l }

theorem parseStrField_length {capacity : Nat} {data text rest : Bytes}
    (parsed : parseStrField capacity data = .ok (text, rest)) : text.length < capacity := by
  unfold parseStrField at parsed
  split at parsed
  · cases parsed
  · split_ifs at parsed with long
    obtain ⟨rfl, rfl⟩ := Prod.mk.inj (Except.ok.inj parsed)
    rw [List.length_take]
    omega

/-- What the parser has tested. -/
structure X509Params.Sound (data : Bytes) (params : X509Params) : Prop where
  validity : params.validityDays = bigEndianValue (data.take 2) ∧ params.validityDays ≠ 0
  named : cString params.cn ≠ []
  country : cString params.c = [] ∨ (cString params.c).length = 2
  cn : params.cn.length < 65
  o : params.o.length < 65
  ou : params.ou.length < 65
  c : params.c.length < 3
  st : params.st.length < 65
  l : params.l.length < 65

theorem x509Parse_sound {data : Bytes} {params : X509Params} (parsed : x509Parse data = .ok params) :
    params.Sound data := by
  unfold x509Parse at parsed
  split_ifs at parsed
  · cases parsed
  obtain ⟨⟨cn, _⟩, cnRead, parsed⟩ := except_bind_ok parsed
  obtain ⟨⟨o, _⟩, oRead, parsed⟩ := except_bind_ok parsed
  obtain ⟨⟨ou, _⟩, ouRead, parsed⟩ := except_bind_ok parsed
  obtain ⟨⟨c, _⟩, cRead, parsed⟩ := except_bind_ok parsed
  obtain ⟨⟨st, _⟩, stRead, parsed⟩ := except_bind_ok parsed
  obtain ⟨⟨l, _⟩, lRead, parsed⟩ := except_bind_ok parsed
  dsimp only at parsed
  by_cases unusable : cString cn = [] ∨ bigEndianValue (data.take 2) = 0
  · rw [if_pos unusable] at parsed
    cases parsed
  rw [if_neg unusable] at parsed
  by_cases country : cString c ≠ [] ∧ (cString c).length ≠ 2
  · rw [if_pos country] at parsed
    cases parsed
  rw [if_neg country] at parsed
  obtain rfl := Except.ok.inj parsed
  exact {
    validity := ⟨rfl, (not_or.mp unusable).2⟩
    named := (not_or.mp unusable).1
    country := by rwa [not_and_or, not_not, not_not] at country
    cn := parseStrField_length cnRead
    o := parseStrField_length oRead
    ou := parseStrField_length ouRead
    c := parseStrField_length cRead
    st := parseStrField_length stRead
    l := parseStrField_length lRead }

def paramsToDn (params : X509Params) : Dn :=
  ⟨cString params.cn, cString params.o, cString params.ou, cString params.c, cString params.st,
    cString params.l⟩

/-- The given number of decimal digits. -/
def decimal (width value : Nat) : Bytes :=
  (List.range width).reverse.map fun place => UInt8.ofNat (48 + value / 10 ^ place % 10)

def notBeforeBase : Bytes := decimal 4 2026 ++ decimal 2 1 ++ decimal 2 1 ++ decimal 6 0

/-- Years have 365 days, months 30, and days stay below 29. -/
def computeNotAfter (validityDays : Nat) : Bytes :=
  let remaining := validityDays % 365
  let month := 1 + remaining / 30
  let day := 1 + remaining % 30
  decimal 4 (2026 + validityDays / 365) ++ decimal 2 (min month 12) ++ decimal 2 (min day 28) ++
    decimal 6 0

/-- A key is given by its private scalar or by its public point. -/
inductive KeyArg where
  | priv (scalar : Bytes)
  | pub (point : Bytes)
  deriving DecidableEq, Repr

/-- The arguments of the certificate writer. -/
structure CertSpec where
  subjectKey : KeyArg
  issuerPriv : Bytes
  subjectDn : Dn
  issuerDn : Dn
  serial : Bytes
  notBefore : Bytes
  notAfter : Bytes
  emitBc : Bool
  isCa : Bool
  /-- Absent for an unconstrained path. -/
  pathLen : Option UInt8
  keyUsage : UInt16
  deriving DecidableEq, Repr

/-- Backend functions with one answer for each input. -/
structure Crypto extends WolfReader where
  pubkeyFromPrivkey : Bytes → Except Errno Bytes
  decryptBlob : Bytes → Except Errno Bytes
  sha256 : Bytes → Bytes

/-- What a handler leaves in front of stale octets. -/
structure RespData where
  known : Bytes
  length : Nat
  deriving DecidableEq, Repr

structure Reply where
  err : Protocol.Err
  data : RespData
  deriving DecidableEq, Repr

/-- What medium, backend and user do during one command. -/
structure Env extends Faults where
  /-- The gesture state, and the slot's recovery mode. -/
  gestureState : Gesture.GestureState
  inRecovery : Bool
  storageKeyDerive : Except Errno Unit
  trng : (count : Nat) → Except Errno { bytes : Bytes // bytes.length = count }
  keygen : Except Errno Bytes
  encryptBlob : Bytes → Except Errno Bytes
  buildCert : CertSpec → Except Errno Bytes
  buildCsr : (priv : Bytes) → Dn → Except Errno Bytes
  sign : (priv digest : Bytes) → Except Errno Bytes
  /-- The answer to a request for a confirming tap. -/
  confirm : Protocol.Err
  /-- The reply of a command that touches no slot, and the bonds. -/
  elsewhere : Reply × (Bytes → ClientFile → Option Bytes)

def loadSlotPrivkey (crypto : Crypto) (env : Env) (slot : Slot) : Op Device Errno Bytes := do
  .lift env.storageKeyDerive
  let blob ← storageKeyRead slot keyBlobMax
  let privkey ← .lift (crypto.decryptBlob blob)
  .ensure (privkey.length = 32) .eio
  return privkey

/-- The serial is made positive and non-zero. -/
def genSerial (env : Env) : Op Device Errno Bytes := do
  let bytes ← .lift (env.trng 8)
  match bytes.1 with
  | [] => return []
  | first :: rest => return ((first &&& 0x7F) ||| 0x01) :: rest

def deriveSlotPubkey (crypto : Crypto) (env : Env) (slot : Slot) : Op Device Errno Bytes := do
  let privkey ← loadSlotPrivkey crypto env slot
  let pub ← .lift (crypto.pubkeyFromPrivkey privkey)
  .ensure (pub.length = 65) .eio
  return pub

def loadIssuerX509Params (slot : Slot) : Op Device Errno X509Params := do
  let buf ← storageSlotX509Read slot x509DataMax
  .lift (x509Parse buf)

def pathLenArg (pathLen : UInt8) : Option UInt8 := if pathLen = 0xFF then none else some pathLen

def buildSelfSignedCert (config : Config) (crypto : Crypto) (env : Env) (slot : Slot)
    (params : X509Params) : Op Device Errno Unit := do
  .ensure (slot < config.maxKeySlots) .einval
  let privkey ← loadSlotPrivkey crypto env slot
  let serial ← genSerial env
  let dn := paramsToDn params
  let der ← .lift (env.buildCert {
    subjectKey := .priv privkey
    issuerPriv := privkey
    subjectDn := dn
    issuerDn := dn
    serial
    notBefore := notBeforeBase
    notAfter := computeNotAfter params.validityDays
    emitBc := params.isCa ≠ 0
    isCa := params.isCa ≠ 0
    pathLen := pathLenArg params.pathLen
    keyUsage := if params.isCa ≠ 0 then params.keyUsage ||| kuKeyCertSign ||| kuCrlSign
      else params.keyUsage })
  storageSlotCertWrite env.toFaults slot der

end Cantil.Ca
