import Cantil.Proof.CrlEncoding
import Cantil.Proof.Dates

namespace Cantil.Ca
open Library Library.Der Library.Calendar DerWrite

/-- A buffer is too small, or the output reads back. -/
def CrlRoundTrip (issuer : Bytes) (thisUpdate nextUpdate : UInt64) (entries : List CrlEntry) (crlNumber : UInt32)
    (rawSig : Bytes) (capacity : Nat) : Prop :=
  match encodeCrl (tlv 0x30 issuer) thisUpdate nextUpdate entries crlNumber rawSig capacity with
  | .error errno => (errno = .enomem ∨ errno = .derBufTooSmall) ∧
      ¬ CrlFits issuer thisUpdate nextUpdate entries crlNumber rawSig capacity
  | .ok crl => CrlFits issuer thisUpdate nextUpdate entries crlNumber rawSig capacity ∧ crl.length ≤ capacity ∧
      Crl.readStrictly crl = some ⟨1, issuer, thisUpdate.toNat, nextUpdate.toNat,
        entries.map fun entry => (bigEndianValue entry.serial, (entry.revokedAtUnix.toNat : Int)), crlNumber.toNat,
        (bigEndianValue (rawSig.take 32), bigEndianValue (rawSig.drop 32))⟩

theorem timeElement_unix {secs : UInt64} (early : secs.toNat < yearTenThousand) :
    (readTime (timeElement secs)).map Moment.unix = some (secs.toNat : Int) := by
  rw [((timeSound_iff secs).mpr early).reads, Option.map_some, (unixToYmdhms_moment secs).2]

/-- A built list is read back, and fails only for lack of room. -/
theorem crl_round_trip (issuer : Bytes) {thisUpdate nextUpdate : UInt64} {entries : List CrlEntry}
    (crlNumber : UInt32) {rawSig : Bytes} (capacity : Nat) (started : thisUpdate.toNat < yearTenThousand)
    (ended : nextUpdate.toNat < yearTenThousand)
    (serials : ∀ entry ∈ entries, 0 < entry.serial.length ∧ entry.serial.length ≤ 20 ∧ entry.serial.headD 0 ≠ 0)
    (dated : ∀ entry ∈ entries, entry.revokedAtUnix.toNat < yearTenThousand) (signed : rawSig.length = 64) :
    CrlRoundTrip issuer thisUpdate nextUpdate entries crlNumber rawSig capacity := by
  have sized : Sized entries := fun entry held => ⟨(serials entry held).1, (serials entry held).2.1⟩
  have outcome := encodeCrl_outcome issuer thisUpdate nextUpdate sized crlNumber signed capacity
  unfold CrlRoundTrip
  split
  · rename_i errno failed
    rw [failed] at outcome
    exact outcome
  · rename_i crl built
    rw [built] at outcome
    obtain ⟨fits, rfl⟩ := outcome
    have hold : List.Forall₂ Crl.Entry (crlContents issuer thisUpdate nextUpdate entries crlNumber).entries
        (entries.map fun entry => (bigEndianValue entry.serial, (entry.revokedAtUnix.toNat : Int))) := by
      refine List.forall₂_map_left_iff.mpr (List.forall₂_map_right_iff.mpr (List.forall₂_same.mpr ?_))
      intro entry held
      exact ⟨congrArg positive (minimalBytes_bigEndianValue (.inl (serials entry held).2.2)).symm,
        timeElement_unix (dated entry held)⟩
    exact ⟨fits, fits.2, Crl.readStrictly_encode _ (timeElement_unix started) (timeElement_unix ended) hold
      (crlText_length fits.1 signed)⟩

/-- One revoked certificate, in a buffer of 512. -/
theorem one_entry_round_trip : (1767225600 : UInt64).toNat < yearTenThousand ∧
    (∀ entry ∈ [CrlEntry.mk [0x81, 7] 1767225600], entry.serial.headD 0 ≠ 0) ∧
    CrlRoundTrip [] 1767225600 1767312000 [⟨[0x81, 7], 1767225600⟩] 2 (List.replicate 64 0x80) 512 :=
  ⟨by decide, by decide, crl_round_trip [] 2 512 (by decide) (by decide)
    (List.forall_mem_singleton.mpr (by decide)) (List.forall_mem_singleton.mpr (by decide)) (by decide)⟩

end Cantil.Ca
