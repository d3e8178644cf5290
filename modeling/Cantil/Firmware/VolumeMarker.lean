import Cantil.Firmware.SessionSlot

namespace Cantil.VolumeMarker
open Library

def volumeMagic : UInt32 := 0x4C544E43

def volumeVersion : UInt16 := 1

/-- The record of `/volume.bin`. -/
structure Marker where
  magic : UInt32
  version : UInt16
  reserved : UInt16
  partitionOffset : UInt32
  partitionSize : UInt32
  deviceId : Bytes
  deviceId_length : deviceId.length = 8
  crc32 : UInt32

def markerSize : Nat := 28

def markerCrcLen : Nat := 24

/-- This build's partition, its die, and the kernel's checksum. -/
structure Partition where
  offset : UInt32
  size : UInt32
  deviceId : Bytes
  deviceId_length : deviceId.length = 8
  crc32Ieee : Bytes → UInt32

variable (part : Partition) (marker : Marker)

/-- Everything before the checksum. -/
def Marker.covered : Bytes :=
  littleEndian 4 marker.magic.toNat ++ (littleEndian 2 marker.version.toNat ++
    (littleEndian 2 marker.reserved.toNat ++ (littleEndian 4 marker.partitionOffset.toNat ++
      (littleEndian 4 marker.partitionSize.toNat ++ marker.deviceId))))

def Marker.bytes : Bytes := marker.covered ++ littleEndian 4 marker.crc32.toNat

theorem Marker.deviceId_padded (buf : Bytes) : (padTo 8 (fieldAt 16 8 buf)).length = 8 := padTo_length _ _

def Marker.ofBytes (buf : Bytes) : Marker where
  magic := UInt32.ofNat (littleEndianValue (fieldAt 0 4 buf))
  version := UInt16.ofNat (littleEndianValue (fieldAt 4 2 buf))
  reserved := UInt16.ofNat (littleEndianValue (fieldAt 6 2 buf))
  partitionOffset := UInt32.ofNat (littleEndianValue (fieldAt 8 4 buf))
  partitionSize := UInt32.ofNat (littleEndianValue (fieldAt 12 4 buf))
  deviceId := padTo 8 (fieldAt 16 8 buf)
  deviceId_length := deviceId_padded buf
  crc32 := UInt32.ofNat (littleEndianValue (fieldAt 24 4 buf))

/-- The fields that this build and this die expect. -/
def expected : Marker where
  magic := volumeMagic
  version := volumeVersion
  reserved := 0
  partitionOffset := part.offset
  partitionSize := part.size
  deviceId := part.deviceId
  deviceId_length := part.deviceId_length
  crc32 := 0

def markerFill : Marker :=
  { expected part with crc32 := part.crc32Ieee (expected part).covered }

/-- A file that is there may fail to be read. -/
def markerRead (unreadable : Bool) : Option Bytes → Except Errno Bytes
  | none => .error .enoent
  | some data => if unreadable then .error .eio else .ok (data.take markerSize)

/-- An older layout version passes. -/
def markerCheck : Except Errno Bytes → VolumeState
  | .error .enoent => .unmarked
  | .error _ => .mismatch
  | .ok buf =>
    let got := Marker.ofBytes buf
    let want := markerFill part
    if buf.length ≠ markerSize then .mismatch
    else if part.crc32Ieee (buf.take markerCrcLen) ≠ got.crc32 then .mismatch
    else if got.magic ≠ want.magic then .mismatch
    else if got.version > want.version then .mismatch
    else if got.partitionOffset = want.partitionOffset ∧ got.partitionSize = want.partitionSize ∧
        got.deviceId = want.deviceId then .valid
    else .mismatch

/-- The state of the volume in RAM and its marker. -/
structure MarkedVolume where
  state : VolumeState
  marker : Option Bytes
  deriving DecidableEq, Repr

def storageVolumeVerify (unreadable : Bool) (volume : MarkedVolume) : MarkedVolume :=
  { volume with state := markerCheck part (markerRead unreadable volume.marker) }

/-- A marker is never replaced. -/
def storageVolumeMarkerWrite (outcome : WriteOutcome) : Op MarkedVolume Errno Unit := fun volume =>
  if volume.marker.isSome then (.error .eexist, volume)
  else
    match SessionSlot.writeContent outcome volume.marker (markerFill part).bytes with
    | (.ok (), marker) => (.ok (), ⟨.valid, marker⟩)
    | (.error error, marker) => (.error error, { volume with marker })

theorem Marker.covered_length : marker.covered.length = markerCrcLen := by
  simp [Marker.covered, marker.deviceId_length, markerCrcLen]

theorem Marker.bytes_length : marker.bytes.length = markerSize := by
  simp [Marker.bytes, marker.covered_length, markerCrcLen, markerSize]

theorem ofNat_littleEndian16 (word : UInt16) : UInt16.ofNat (littleEndianValue (littleEndian 2 word.toNat)) = word := by
  rw [littleEndianValue_littleEndian_of_lt word.toNat_lt, UInt16.ofNat_toNat]

theorem Marker.ofBytes_bytes : Marker.ofBytes marker.bytes = marker := by
  obtain ⟨magic, version, reserved, offset, size, deviceId, full, crc⟩ := marker
  have idKept := padTo_of_length full
  simp only [Marker.ofBytes, Marker.bytes, Marker.covered, List.append_assoc]
  simp [fieldAt_skip, fieldAt_here, fieldAt_all, full, ofNat_littleEndian32, ofNat_littleEndian16, idKept]

/-- A marker tells its build and die from all others. -/
theorem markerCheck_of_fill {other : Partition} (same : other.crc32Ieee = part.crc32Ieee) :
    markerCheck other (markerRead false (some (markerFill part).bytes)) =
      if part.offset = other.offset ∧ part.size = other.size ∧ part.deviceId = other.deviceId then .valid
      else .mismatch := by
  have long := (markerFill part).bytes_length
  have whole : (markerFill part).bytes.take markerSize = (markerFill part).bytes :=
    List.take_of_length_le (Nat.le_of_eq long)
  have front : (markerFill part).bytes.take markerCrcLen = (expected part).covered := by
    rw [Marker.bytes, ← (markerFill part).covered_length, List.take_left]
    rfl
  have sealed : (markerFill part).crc32 = part.crc32Ieee (expected part).covered := rfl
  rw [markerRead, if_neg Bool.false_ne_true, whole]
  have magic : (markerFill part).magic = (markerFill other).magic := rfl
  have version : (markerFill part).version = (markerFill other).version := rfl
  simp only [markerCheck, long, front, Marker.ofBytes_bytes, sealed, same, magic, version, ne_eq, not_true_eq_false,
    if_false]
  rfl

/-- The marker that a build writes is the one that it accepts. -/
theorem markerCheck_markerFill : markerCheck part (markerRead false (some (markerFill part).bytes)) = .valid := by
  rw [markerCheck_of_fill part rfl, if_pos ⟨rfl, rfl, rfl⟩]

end Cantil.VolumeMarker
