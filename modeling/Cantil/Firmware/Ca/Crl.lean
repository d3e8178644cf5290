import Cantil.Firmware.Ca.Issued
import Cantil.Firmware.DerWrite

namespace Cantil.Ca
open Library DerWrite

def crlMaxRevoked : Nat := 64

def oidCrlNumber : Bytes := [0x55, 0x1D, 0x14]

def oidEcdsaSha256 : Bytes := [0x2A, 0x86, 0x48, 0xCE, 0x3D, 0x04, 0x03, 0x02]

structure CrlEntry where
  serial : Bytes
  revokedAtUnix : UInt64
  deriving DecidableEq, Repr

structure CrlContext where
  entries : List CrlEntry
  overflow : Bool
  deriving DecidableEq, Repr

/-- A full collector drops the rest and remembers it. -/
def crlCollectCb (slot : Slot) (thisUpdate : UInt64) (serial : Bytes) (context : CrlContext) :
    Op Device Errno (CrlContext × Bool) := do
  match ← (readIssuedMeta serial).attempt with
  | .error _ => return (context, false)
  | .ok record =>
    if record.issuerSlot ≠ slot then return (context, false)
    if record.flags &&& issuedFlagRevoked = 0 then return (context, false)
    if context.entries.length ≥ crlMaxRevoked then return ({ context with overflow := true }, false)
    let revokedAt := if record.revokedAtUnix ≠ 0 then record.revokedAtUnix else thisUpdate
    return ({ context with entries := context.entries ++ [⟨serial, revokedAt⟩] }, false)

def isLeap (year : Nat) : Bool := (year % 4 = 0 ∧ year % 100 ≠ 0) ∨ year % 400 = 0

def yearDays (year : Nat) : Nat := if isLeap year then 366 else 365

/-- Whole years are taken off the days since 1970. -/
def yearLoop (days year : Nat) : Nat × Nat :=
  if days < yearDays year then (days, year) else yearLoop (days - yearDays year) (year + 1)
termination_by days
decreasing_by
  have some : 0 < yearDays year := by
    unfold yearDays
    split <;> omega
  omega

def monthLoop (leap : Bool) : List Nat → (days month : Nat) → Nat × Nat
  | [], days, month => (days, month)
  | length :: rest, days, month =>
    let length := length + if month = 1 ∧ leap then 1 else 0
    if days < length then (days, month) else monthLoop leap rest (days - length) (month + 1)

def monthLengths : List Nat := [31, 28, 31, 30, 31, 30, 31, 31, 30, 31, 30, 31]

structure CivilTime where
  year : Nat
  month : Nat
  day : Nat
  hour : Nat
  minute : Nat
  second : Nat
  deriving DecidableEq, Repr

def unixToYmdhms (secs : UInt64) : CivilTime :=
  let second := secs.toNat % 86400
  let (days, year) := yearLoop (secs.toNat / 86400) 1970
  let (days, month) := monthLoop (isLeap year) monthLengths days 0
  ⟨year, month + 1, days + 1, second / 3600, second % 3600 / 60, second % 60⟩

/-- At least the given number of decimal digits. -/
def decimalWide (width value : Nat) : Bytes :=
  if value < 10 ^ width then decimal width value
  else (Nat.toDigits 10 value).map fun char => UInt8.ofNat char.toNat

/-- The short form up to 2049. The long one is cut. -/
def timeElement (secs : UInt64) : UInt8 × Bytes :=
  let time := unixToYmdhms secs
  let rest := decimal 2 time.month ++ decimal 2 time.day ++ decimal 2 time.hour ++
    decimal 2 time.minute ++ decimal 2 time.second ++ [90]
  if 1950 ≤ time.year ∧ time.year < 2050 then (asn1UtcTime, decimal 2 (time.year % 100) ++ rest)
  else (asn1GeneralizedTime, (decimalWide 4 time.year ++ rest).take 15)

def writeTime (secs : UInt64) : Writer := (derRaw (timeElement secs).2).wrap (timeElement secs).1

def writeSerialInt (serial : Bytes) : Writer := fun buf =>
  if serial.length = 0 ∨ serial.length > 20 then .error .invalidData
  else ((derRaw serial).andThen derSign).wrap asn1Integer buf

def writeRevokedEntry (entry : CrlEntry) : Writer :=
  ((writeTime entry.revokedAtUnix).andThen (writeSerialInt entry.serial)).wrap asn1Sequence

/-- The last entry is written first. -/
def writeRevokedEntries : List CrlEntry → Writer
  | [] => fun buf => .ok (buf, 0)
  | entry :: rest => (writeRevokedEntries rest).andThen (writeRevokedEntry entry)

def writeRevokedCertificates (entries : List CrlEntry) : Writer :=
  if entries = [] then fun buf => .ok (buf, 0) else (writeRevokedEntries entries).wrap asn1Sequence

def writeCrlExtensions (crlNumber : UInt32) : Writer :=
  (((((derInt crlNumber).wrap asn1OctetString).andThen (derOid oidCrlNumber)).wrap
    asn1Sequence).wrap asn1Sequence).wrap asn1Context0

def writeAlgEcdsaSha256 : Writer := (derOid oidEcdsaSha256).wrap asn1Sequence

def writeTbsCertList (issuerRaw : Bytes) (thisUpdate nextUpdate : UInt64) (entries : List CrlEntry)
    (crlNumber : UInt32) : Writer :=
  (((((((writeCrlExtensions crlNumber).andThen (writeRevokedCertificates entries)).andThen
    (writeTime nextUpdate)).andThen (writeTime thisUpdate)).andThen (derRaw issuerRaw)).andThen
    writeAlgEcdsaSha256).andThen (derInt 1)).wrap asn1Sequence

/-- The raw code of the writer goes to the caller. -/
def chkAdd {Value : Type} : Except DerError Value → Except Errno Value
  | .ok value => .ok value
  | .error .bufTooSmall => .error .derBufTooSmall
  | .error .invalidData => .error .derInvalidData

/-- The signature in the form of two integers. -/
def encodeSignature (rawSig : Bytes) : Except Errno Bytes := do
  let (buf, _) ← chkAdd (((derMpint (rawSig.drop 32)).andThen (derMpint (rawSig.take 32))).wrap
    asn1Sequence ⟨80, []⟩)
  return buf.out

/-- Octets put in front by hand, if there is space. -/
def prepend (bytes : Bytes) (buf : DerBuf) : Except Errno DerBuf :=
  if buf.space < bytes.length then .error .enomem
  else .ok ⟨buf.space - bytes.length, bytes ++ buf.out⟩

/-- Assembled from the right, from signature to header. -/
def assembleCrl (tbs sigDer : Bytes) (capacity : Nat) : Except Errno Bytes := do
  let (buf, sigLen) ← chkAdd (derRaw sigDer ⟨capacity, []⟩)
  let buf ← prepend [0x00] buf
  let (buf, lenLen) ← chkAdd (derLen (sigLen + 1) buf)
  let (buf, tagLen) ← chkAdd (derTag asn1BitString buf)
  let (buf, algLen) ← chkAdd (writeAlgEcdsaSha256 buf)
  let buf ← prepend tbs buf
  let outerLen := sigLen + 1 + lenLen + tagLen + algLen + tbs.length
  let (buf, headLen) ← chkAdd (derLen outerLen buf)
  let (buf, lastLen) ← chkAdd (derTag asn1Sequence buf)
  return buf.out.take (outerLen + headLen + lastLen)

/-- A list that was never bumped has the number 1. -/
def crlNumberShown (stored : Except Errno UInt32) : UInt32 :=
  if stored.toOption.getD 0 = 0 then 1 else stored.toOption.getD 0

def buildCrlDer (config : Config) (crypto : Crypto) (env : Env) (slot : Slot) (nowUnix : UInt64)
    (capacity : Nat) : Op Device Errno Bytes := do
  let context ← storageIssuedCertsIter (crlCollectCb slot nowUnix) ⟨[], false⟩
  let stored ← (storageSlotCrlNumberRead slot).attempt
  let issuerCert ← storageSlotCertRead slot certDerMax
  match certparseCert crypto.toWolfReader issuerCert with
  | .error _ => .fail .eio
  | .ok issuer =>
    .ensure (issuer.subjectDer ≠ []) .eio
    let nextUpdate := nowUnix + UInt64.ofNat config.crlValiditySec
    match writeTbsCertList issuer.subjectDer nowUnix nextUpdate context.entries
        (crlNumberShown stored) ⟨certDerMax, []⟩ with
    | .error .bufTooSmall => .fail .enomem
    | .error .invalidData => .fail .eio
    | .ok (tbs, _) =>
      let privkey ← loadSlotPrivkey crypto env slot
      match env.sign privkey (crypto.sha256 tbs.out) with
      | .error _ => .fail .eio
      | .ok rawSig =>
        .ensure (rawSig.length = 64) .eio
        let sigDer ← .lift (encodeSignature rawSig)
        .lift (assembleCrl tbs.out sigDer capacity)

def caGetCrl (config : Config) (crypto : Crypto) (env : Env) (slot : Slot) (nowUnix : UInt64)
    (capacity : Nat) : Op Device Errno Bytes := do
  .ensure (capacity ≠ 0) .einval
  .ensure (slot < config.maxKeySlots) .einval
  .ensure (nowUnix ≠ 0) .einval
  .ensure ((← storageSlotKeyExists slot) = true) .enoent
  .ensure ((← storageSlotCertExists slot) = true) .enoent
  buildCrlDer config crypto env slot nowUnix capacity

end Cantil.Ca
