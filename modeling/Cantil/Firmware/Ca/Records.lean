import Cantil.Firmware.Storage

namespace Cantil.Ca
open Library

def issuedMetaVersion : UInt8 := 2

def issuedMetaSize : Nat := 116

def issuedMetaV1Size : Nat := 108

def issuedFlagRevoked : UInt8 := 0x01

def issuedFlagProtected : UInt8 := 0x02

def issuedFlagExpired : UInt8 := 0x04

/-- Version 1 lacks the reason and the time of revocation. -/
structure IssuedMeta where
  version : UInt8
  flags : UInt8
  serialLen : UInt8
  revocationReason : UInt8
  issuerSlot : Slot
  notBeforeUnix : UInt64
  notAfterUnix : UInt64
  serial : Bytes
  serial_length : serial.length = 20
  cn : Bytes
  cn_length : cn.length = 64
  revokedAtUnix : UInt64
  deriving DecidableEq, Repr

variable (record : IssuedMeta) (buf : Bytes)

/-- The packed layout in the byte order of the processor. -/
def IssuedMeta.bytes : Bytes :=
  [record.version, record.flags, record.serialLen, record.revocationReason] ++
    (littleEndian 4 record.issuerSlot.toNat ++ (littleEndian 8 record.notBeforeUnix.toNat ++
    (littleEndian 8 record.notAfterUnix.toNat ++ (record.serial ++ (record.cn ++
    littleEndian 8 record.revokedAtUnix.toNat)))))

/-- The fields of a packed record, zeros where missing. -/
def IssuedMeta.ofBytes : IssuedMeta where
  version := buf.getD 0 0
  flags := buf.getD 1 0
  serialLen := buf.getD 2 0
  revocationReason := buf.getD 3 0
  issuerSlot := UInt32.ofNat (littleEndianValue (fieldAt 4 4 buf))
  notBeforeUnix := UInt64.ofNat (littleEndianValue (fieldAt 8 8 buf))
  notAfterUnix := UInt64.ofNat (littleEndianValue (fieldAt 16 8 buf))
  serial := padTo 20 (fieldAt 24 20 buf)
  serial_length := padTo_length _ _
  cn := padTo 64 (fieldAt 44 64 buf)
  cn_length := padTo_length _ _
  revokedAtUnix := UInt64.ofNat (littleEndianValue (fieldAt 108 8 buf))

/-- Records of version 1 are upgraded in memory. -/
def parseIssuedMeta : Except Errno IssuedMeta :=
  match buf with
  | [] => .error .einval
  | version :: _ =>
    if version = issuedMetaVersion then
      if buf.length < issuedMetaSize then .error .einval else .ok (.ofBytes buf)
    else if version = 1 then
      if buf.length < issuedMetaV1Size then .error .einval
      else
        .ok { IssuedMeta.ofBytes (buf.take issuedMetaV1Size) with
          revocationReason := 0
          version := issuedMetaVersion }
    else .error .einval

def readIssuedMeta (serial : Bytes) : Op Device Errno IssuedMeta := do
  let buf ← storageIssuedMetaRead serial (issuedMetaSize + 8)
  .lift (parseIssuedMeta buf)

/-- The metadata of a key slot. -/
structure SlotMeta where
  version : UInt8
  keyType : UInt8
  isProtected : UInt8
  protectIssued : UInt8
  flags : UInt32
  createdUnix : UInt64
  reserved : Bytes
  reserved_length : reserved.length = 8
  deriving DecidableEq, Repr

def slotMetaSize : Nat := 24

def SlotMeta.bytes (record : SlotMeta) : Bytes :=
  [record.version, record.keyType, record.isProtected, record.protectIssued] ++
    (littleEndian 4 record.flags.toNat ++ (littleEndian 8 record.createdUnix.toNat ++ record.reserved))

def SlotMeta.ofBytes : SlotMeta where
  version := buf.getD 0 0
  keyType := buf.getD 1 0
  isProtected := buf.getD 2 0
  protectIssued := buf.getD 3 0
  flags := UInt32.ofNat (littleEndianValue (fieldAt 4 4 buf))
  createdUnix := UInt64.ofNat (littleEndianValue (fieldAt 8 8 buf))
  reserved := padTo 8 (fieldAt 16 8 buf)
  reserved_length := padTo_length _ _

def parseSlotMeta : Except Errno SlotMeta :=
  if buf.length ≠ slotMetaSize ∨ buf.getD 0 0 ≠ 1 then .error .einval else .ok (.ofBytes buf)

def metaRead (slot : Slot) : Op Device Errno SlotMeta := do
  let buf ← storageSlotMetaRead slot slotMetaSize
  .lift (parseSlotMeta buf)

def metaWrite (faults : Faults) (slot : Slot) (record : SlotMeta) : Op Device Errno Unit :=
  storageSlotMetaWrite faults slot record.bytes

theorem IssuedMeta.bytes_length : record.bytes.length = issuedMetaSize := by
  simp [IssuedMeta.bytes, record.serial_length, record.cn_length, issuedMetaSize]

theorem ofNat_littleEndian64 (value : UInt64) :
    UInt64.ofNat (littleEndianValue (littleEndian 8 value.toNat)) = value := by
  rw [littleEndianValue_littleEndian_of_lt value.toNat_lt, UInt64.ofNat_toNat]

/-- The packed layout keeps every field. -/
theorem IssuedMeta.ofBytes_bytes : IssuedMeta.ofBytes record.bytes = record := by
  obtain ⟨version, flags, serialLen, reason, slot, notBefore, notAfter, serial, serialFull, cn, cnFull,
    revokedAt⟩ := record
  have serialKept := padTo_of_length serialFull
  have cnKept := padTo_of_length cnFull
  simp only [IssuedMeta.ofBytes, IssuedMeta.bytes, List.cons_append, List.nil_append]
  simp [fieldAt_cons, fieldAt_skip, fieldAt_here, fieldAt_all, serialFull,
    cnFull, ofNat_littleEndian32, ofNat_littleEndian64, serialKept, cnKept]

/-- A current record is read back as it was written. -/
theorem parseIssuedMeta_bytes (current : record.version = issuedMetaVersion) :
    parseIssuedMeta record.bytes = .ok record := by
  have long := record.bytes_length
  have whole := record.ofBytes_bytes
  have head : record.bytes = issuedMetaVersion :: record.bytes.drop 1 := by
    rw [← current]
    rfl
  rw [parseIssuedMeta.eq_def]
  split
  case h_1 empty => rw [empty] at head; cases head
  case h_2 version rest shape =>
    rw [shape] at head
    obtain ⟨rfl, _⟩ := List.cons.inj head
    simp [long, whole]

/-- The first version lacks only the time of revocation. -/
theorem IssuedMeta.ofBytes_take :
    IssuedMeta.ofBytes (buf.take issuedMetaV1Size) = { IssuedMeta.ofBytes buf with revokedAtUnix := 0 } := by
  have none : fieldAt 108 8 (buf.take issuedMetaV1Size) = [] := by
    simp [fieldAt, issuedMetaV1Size]
  simp only [IssuedMeta.ofBytes, none]
  simp [issuedMetaV1Size, fieldAt_take, littleEndianValue, bigEndianValue]

/-- A record of version 1 comes back upgraded. -/
theorem parseIssuedMeta_bytes_v1 (old : record.version = 1) :
    parseIssuedMeta record.bytes = .ok { record with
      version := issuedMetaVersion
      revocationReason := 0
      revokedAtUnix := 0 } := by
  have long := record.bytes_length
  have cut := IssuedMeta.ofBytes_take record.bytes
  rw [record.ofBytes_bytes] at cut
  have head : record.bytes = 1 :: record.bytes.drop 1 := by
    rw [← old]
    rfl
  rw [parseIssuedMeta.eq_def]
  split
  case h_1 empty => rw [empty] at head; cases head
  case h_2 version rest shape =>
    rw [shape] at head
    obtain ⟨rfl, _⟩ := List.cons.inj head
    rw [cut, long]
    rfl

/-- What is read has the current version and its flags. -/
theorem parseIssuedMeta_ok {buf : Bytes} {record : IssuedMeta} (read : parseIssuedMeta buf = .ok record) :
    record.version = issuedMetaVersion ∧ record.flags = buf.getD 1 0 := by
  cases buf with
  | nil => cases read
  | cons version rest =>
    simp only [parseIssuedMeta] at read
    split_ifs at read with current short first cut
    · obtain rfl := Except.ok.inj read
      exact ⟨current, rfl⟩
    · obtain rfl := Except.ok.inj read
      simp [IssuedMeta.ofBytes, issuedMetaV1Size]

theorem SlotMeta.bytes_length (record : SlotMeta) : record.bytes.length = slotMetaSize := by
  simp [SlotMeta.bytes, record.reserved_length, slotMetaSize]

theorem SlotMeta.ofBytes_bytes (record : SlotMeta) : SlotMeta.ofBytes record.bytes = record := by
  obtain ⟨version, keyType, isProtected, protectIssued, flags, created, reserved, full⟩ := record
  have reservedKept := padTo_of_length full
  simp only [SlotMeta.ofBytes, SlotMeta.bytes, List.cons_append, List.nil_append]
  simp [fieldAt_cons, fieldAt_skip, fieldAt_here, fieldAt_all, full, ofNat_littleEndian32,
    ofNat_littleEndian64, reservedKept]

theorem parseSlotMeta_bytes (record : SlotMeta) (current : record.version = 1) :
    parseSlotMeta record.bytes = .ok record := by
  have version : record.bytes.getD 0 0 = 1 := current
  unfold parseSlotMeta
  rw [record.bytes_length, version]
  simp [record.ofBytes_bytes]

end Cantil.Ca
