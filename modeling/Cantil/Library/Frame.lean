import Cantil.Library.Bytes

namespace Library

/-- The places below the given one do not depend on it. -/
theorem bigEndian_add_mul (width value high : Nat) :
    bigEndian width (high * 256 ^ width + value) = bigEndian width value := by
  induction width generalizing high with
  | zero => rfl
  | succ width ih =>
    have split : high * 256 ^ (width + 1) = high * 256 * 256 ^ width := by ring
    rw [bigEndian_succ, bigEndian_succ, split, ih, Nat.mul_comm, Nat.mul_add_div (Nat.pow_pos (by decide))]
    simp

/-- The value of some bytes has these bytes as its places. -/
theorem bigEndian_bigEndianValue (bytes : Bytes) : bigEndian bytes.length (bigEndianValue bytes) = bytes := by
  induction bytes with
  | nil => rfl
  | cons byte rest ih =>
    have below := bigEndianValue_lt rest
    rw [List.length_cons, bigEndian_succ, bigEndianValue, bigEndian_add_mul, ih, Nat.mul_comm,
      Nat.mul_add_div (Nat.pow_pos (by decide)), Nat.div_eq_of_lt below, Nat.add_zero, UInt8.ofNat_toNat]

namespace Frame

/-- A frame is its payload behind the two places of its length. -/
def encode (payload : Bytes) : Bytes := bigEndian 2 payload.length ++ payload

/-- The two length bytes as a sender shifts and masks them. -/
theorem encode_eq (payload : Bytes) :
    encode payload = [UInt8.ofNat (payload.length >>> 8), UInt8.ofNat (payload.length &&& 0xFF)] ++ payload := by
  have low : UInt8.ofNat (payload.length &&& 0xFF) = UInt8.ofNat payload.length := by
    apply UInt8.toNat_inj.mp
    rw [UInt8.toNat_ofNat', UInt8.toNat_ofNat', Nat.and_two_pow_sub_one_eq_mod payload.length 8]
    omega
  rw [encode, bigEndian_succ, low, Nat.shiftRight_eq_div_pow]
  simp [bigEndian]

@[simp] theorem encode_length (payload : Bytes) : (encode payload).length = 2 + payload.length := by
  simp [encode]

/-- Two length bytes hold the length that was written. -/
theorem header_iff {header : Bytes} {length : Nat} :
    header.length = 2 ∧ bigEndianValue header = length ↔ header = bigEndian 2 length ∧ length < 65536 := by
  constructor
  · rintro ⟨two, rfl⟩
    have below := bigEndianValue_lt header
    rw [two] at below
    refine ⟨?_, below⟩
    conv_lhs => rw [← bigEndian_bigEndianValue header, two]
  · rintro ⟨rfl, small⟩
    exact ⟨bigEndian_length 2 length, bigEndianValue_bigEndian_of_lt small⟩

/-- A header and the bytes that it announces are one frame. -/
theorem encode_iff {stream payload rest : Bytes} :
    (∃ header, stream = header ++ (payload ++ rest) ∧ header.length = 2 ∧ payload.length = bigEndianValue header) ↔
      stream = encode payload ++ rest ∧ payload.length < 65536 := by
  constructor
  · rintro ⟨header, rfl, two, announced⟩
    obtain ⟨rfl, small⟩ := header_iff.mp ⟨two, announced.symm⟩
    exact ⟨by rw [encode, List.append_assoc], small⟩
  · rintro ⟨rfl, small⟩
    obtain ⟨two, announced⟩ := header_iff.mpr ⟨rfl, small⟩
    exact ⟨bigEndian 2 payload.length, by rw [encode, List.append_assoc], two, announced.symm⟩

end Frame

/-- A cut gives the front part of the length, and the rest. -/
theorem cut_iff {stream front rest : Bytes} {length : Nat} :
    (length ≤ stream.length ∧ stream.take length = front ∧ stream.drop length = rest) ↔
      stream = front ++ rest ∧ front.length = length := by
  constructor
  · rintro ⟨enough, rfl, rfl⟩
    exact ⟨(List.take_append_drop length stream).symm, List.length_take_of_le enough⟩
  · rintro ⟨rfl, rfl⟩
    rw [List.length_append, List.take_left, List.drop_left]
    exact ⟨Nat.le_add_right _ _, rfl, rfl⟩

end Library
