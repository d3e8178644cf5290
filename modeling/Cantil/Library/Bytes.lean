import Mathlib.Data.List.Basic
import Mathlib.Data.List.Range
import Mathlib.Algebra.Order.Group.Nat
import Mathlib.Tactic.Ring

namespace Library

/-- A byte string. -/
abbrev Bytes := List UInt8

instance (text : Bytes) (texts : List Bytes) : Decidable (text ∈ texts) :=
  List.instDecidableMemOfLawfulBEq text texts

/-- A C string ends at its first NUL byte. -/
def cString (text : Bytes) : Bytes := text.takeWhile (· ≠ 0)

variable (width value : Nat) (bytes : Bytes)

/-- Base-256 places of a value, highest place first. -/
def bigEndian : Bytes :=
  (List.range width).reverse.map fun place => UInt8.ofNat (value / 256 ^ place)

/-- The value of a byte string with its highest place first. -/
def bigEndianValue : Bytes → Nat
  | [] => 0
  | byte :: rest => byte.toNat * 256 ^ rest.length + bigEndianValue rest

@[simp] theorem bigEndian_length : (bigEndian width value).length = width := by
  simp [bigEndian]

theorem bigEndian_succ : bigEndian (width + 1) value = UInt8.ofNat (value / 256 ^ width) :: bigEndian width value := by
  simp [bigEndian, List.range_succ]

/-- The places of a value give it back up to their number. -/
theorem bigEndianValue_bigEndian : bigEndianValue (bigEndian width value) = value % 256 ^ width := by
  induction width with
  | zero => simp [bigEndian, bigEndianValue, Nat.mod_one]
  | succ width ih =>
    have place : (UInt8.ofNat (value / 256 ^ width)).toNat = value / 256 ^ width % 256 := by simp
    rw [bigEndian_succ, bigEndianValue, ih, bigEndian_length, place, Nat.mod_pow_succ]
    rw [Nat.mul_comm, Nat.add_comm]

/-- A value that fits its places is read back unchanged. -/
theorem bigEndianValue_bigEndian_of_lt {width value : Nat} (fits : value < 256 ^ width) :
    bigEndianValue (bigEndian width value) = value := by
  rw [bigEndianValue_bigEndian, Nat.mod_eq_of_lt fits]

/-- The last place counts once, those before 256 times. -/
theorem bigEndianValue_snoc (last : UInt8) :
    bigEndianValue (bytes ++ [last]) = bigEndianValue bytes * 256 + last.toNat := by
  induction bytes with
  | nil => simp [bigEndianValue]
  | cons byte rest ih =>
    rw [List.cons_append, bigEndianValue, ih, bigEndianValue, List.length_append,
      List.length_singleton]
    ring

/-- Base-256 places of a value, lowest place first. -/
def littleEndian : Bytes := (bigEndian width value).reverse

def littleEndianValue : Nat := bigEndianValue bytes.reverse

@[simp] theorem littleEndian_length : (littleEndian width value).length = width := by
  simp [littleEndian]

theorem littleEndianValue_littleEndian_of_lt {width value : Nat} (fits : value < 256 ^ width) :
    littleEndianValue (littleEndian width value) = value := by
  rw [littleEndianValue, littleEndian, List.reverse_reverse, bigEndianValue_bigEndian_of_lt fits]

/-- A number survives its field. -/
theorem ofNat_littleEndian32 (value : UInt32) :
    UInt32.ofNat (littleEndianValue (littleEndian 4 value.toNat)) = value := by
  rw [littleEndianValue_littleEndian_of_lt value.toNat_lt, UInt32.ofNat_toNat]

/-- The bytes cut or zero-filled to the width. -/
def padTo : Bytes := (bytes ++ List.replicate width 0).take width

@[simp] theorem padTo_length : (padTo width bytes).length = width := by
  simp [padTo]

theorem padTo_of_length {width : Nat} {bytes : Bytes} (full : bytes.length = width) :
    padTo width bytes = bytes := by
  rw [padTo, ← full, List.take_left]

/-- The field of a record at the given offset. -/
def fieldAt (offset width : Nat) (record : Bytes) : Bytes := (record.drop offset).take width

/-- A field behind the first part lies in the rest. -/
theorem fieldAt_skip {offset width : Nat} {before rest : Bytes} (behind : before.length ≤ offset) :
    fieldAt offset width (before ++ rest) = fieldAt (offset - before.length) width rest := by
  rw [fieldAt, List.drop_append, List.drop_eq_nil_of_le behind, List.nil_append, fieldAt]

theorem fieldAt_cons (offset width : Nat) (byte : UInt8) (rest : Bytes) :
    fieldAt (offset + 1) width (byte :: rest) = fieldAt offset width rest := rfl

/-- A field inside the kept part survives the cut. -/
theorem fieldAt_take {offset width kept : Nat} (record : Bytes) (inside : offset + width ≤ kept) :
    fieldAt offset width (record.take kept) = fieldAt offset width record := by
  rw [fieldAt, fieldAt, List.drop_take, List.take_take, Nat.min_eq_left (by omega)]

theorem fieldAt_here {width : Nat} {field after : Bytes} (spans : field.length = width) :
    fieldAt 0 width (field ++ after) = field := by
  rw [fieldAt, List.drop_zero, ← spans, List.take_left]

theorem fieldAt_all {width : Nat} {field : Bytes} (spans : field.length = width) :
    fieldAt 0 width field = field := by
  rw [fieldAt, List.drop_zero, ← spans, List.take_length]

/-- Bits outside a mask do not show through it. -/
theorem and_mask_or {flags bits mask : UInt8} (apart : bits &&& mask = 0) :
    (flags ||| bits) &&& mask = flags &&& mask := by
  apply UInt8.toBitVec_inj.mp
  have apart := congrArg UInt8.toBitVec apart
  rw [UInt8.toBitVec_and] at apart
  ext index inside
  have here := congrArg (fun word => word.getLsbD index) apart
  simp only [BitVec.getLsbD_and] at here
  simp [Bool.and_or_distrib_right, ← BitVec.getLsbD_eq_getElem, here]

/-- The top bit of an octet. -/
theorem high_iff (byte : UInt8) : byte &&& 0x80 = 0 ↔ byte < 0x80 := by
  have table : ∀ value : Fin 256, value.val &&& 128 = 0 ↔ value.val < 128 := by decide +kernel
  rw [← UInt8.toNat_inj, UInt8.toNat_and, UInt8.lt_iff_toNat_lt]
  exact table ⟨byte.toNat, byte.toNat_lt⟩

theorem low_eq (byte : UInt8) : (byte &&& 0x7F).toNat = byte.toNat % 128 := by
  rw [UInt8.toNat_and]
  exact Nat.and_two_pow_sub_one_eq_mod byte.toNat 7

theorem bigEndianValue_lt : bigEndianValue bytes < 256 ^ bytes.length := by
  induction bytes with
  | nil => simp [bigEndianValue]
  | cons byte rest ih =>
    have high : byte.toNat + 1 ≤ 256 := byte.toNat_lt
    calc byte.toNat * 256 ^ rest.length + bigEndianValue rest
        < byte.toNat * 256 ^ rest.length + 256 ^ rest.length := by omega
      _ = (byte.toNat + 1) * 256 ^ rest.length := by ring
      _ ≤ 256 * 256 ^ rest.length := Nat.mul_le_mul_right _ high
      _ = 256 ^ (byte :: rest).length := by rw [List.length_cons, Nat.pow_succ, Nat.mul_comm]

end Library
