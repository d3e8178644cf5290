import Cantil.Firmware.VolumeMarker

namespace Cantil.VolumeMarker
open Library

/-- A marker identifies build and die, a failure is retried. -/
structure MarksOrRetries (part : Partition) (outcome : Except Errno Unit × MarkedVolume) : Prop where
  own : outcome.1 = .ok () → markerCheck part (markerRead false outcome.2.marker) = .valid
  foreign : outcome.1 = .ok () → ∀ other : Partition, other.crc32Ieee = part.crc32Ieee →
    ¬ (part.offset = other.offset ∧ part.size = other.size ∧ part.deviceId = other.deviceId) →
    markerCheck other (markerRead false outcome.2.marker) = .mismatch
  retry : ∀ error, outcome.1 = .error error → (storageVolumeMarkerWrite part .done outcome.2).1 = .ok ()

/-- Fails before it makes the file, or commits all of it. -/
def CleanWrite : WriteOutcome → Prop
  | .done | .mkdirFailed _ | .openFailed _ => True
  | .short _ | .uncommitted => False

variable {part : Partition} {volume : MarkedVolume}

theorem markerWrite_of_unmarked (unmarked : volume.marker = none) :
    (storageVolumeMarkerWrite part .done volume).1 = .ok () := by
  simp [storageVolumeMarkerWrite, unmarked, SessionSlot.writeContent]

/-- Usable exactly when no part of a marker is left. -/
theorem marker_write_iff (part : Partition) (outcome : WriteOutcome) (volume : MarkedVolume)
    (unmarked : volume.marker = none) :
    MarksOrRetries part (storageVolumeMarkerWrite part outcome volume) ↔ CleanWrite outcome := by
  unfold storageVolumeMarkerWrite
  rw [unmarked]
  rcases outcome with _ | error | error | (_ | kept) | _
  · refine iff_of_true ⟨fun _ => markerCheck_markerFill part,
      fun _ other same differs => ?_, fun _ failed => ?_⟩ trivial
    · exact (markerCheck_of_fill part same).trans (if_neg differs)
    · cases failed
  · exact iff_of_true ⟨fun ok => (by cases ok), fun ok => (by cases ok), fun _ _ => markerWrite_of_unmarked rfl⟩ trivial
  · exact iff_of_true ⟨fun ok => (by cases ok), fun ok => (by cases ok), fun _ _ => markerWrite_of_unmarked rfl⟩ trivial
  · exact iff_of_false (fun sound => by cases sound.retry .eio rfl) id
  · exact iff_of_false (fun sound => by cases sound.retry .eio rfl) id
  · exact iff_of_false (fun sound => by cases sound.own rfl) id

def samplePart : Partition := ⟨0, 0x10000, List.replicate 8 1, rfl, fun _ => 0⟩

/-- A whole write marks the volume. -/
theorem samplePart_marked :
    MarksOrRetries samplePart (storageVolumeMarkerWrite samplePart .done ⟨.unmarked, none⟩) :=
  (marker_write_iff samplePart .done ⟨.unmarked, none⟩ rfl).mpr trivial

/-- After a short write the volume is foreign for good. -/
theorem short_marker_stuck :
    let (result, volume) := storageVolumeMarkerWrite samplePart (.short (some 5)) ⟨.unmarked, none⟩
    result = .error .eio ∧ markerCheck samplePart (markerRead false volume.marker) = .mismatch ∧
      ∀ outcome, storageVolumeMarkerWrite samplePart outcome volume = (.error .eexist, volume) :=
  ⟨rfl, by decide, fun _ => rfl⟩

end Cantil.VolumeMarker
