import Cantil.Common.Cbor
import Cantil.Library.Frame
import Cantil.Library.Visits

namespace Cantil.Cbor
open Library

def keyCmd : Bytes := [0x63, 0x6D, 0x64]

def encodeRequest (max : Nat) (cmd seq : UInt32) (data : Bytes) : Except Errno Bytes :=
  encodeMap max keyCmd cmd keySeq seq keyData data

/-- Why a decoder stops. Only unbounded arithmetic tells wrapping strings. -/
inductive Halt where
  | errno (error : Errno)
  | tooDeep
  | overlong
  deriving DecidableEq, Repr

/-- The walk counts the invocations of `skip_item`. -/
abbrev Visit (Value : Type) := Walker Halt Value

def reading {Value : Type} (result : Except Errno Value) : Visit Value := .lift (result.mapError .errno)

instance {Value : Type} (result : Except Errno Value) : Op.Reader (reading result) := .lift _

/-- Where a string of the given length ends. -/
abbrev StringEnd := (len off value : Nat) → Except Halt Nat

/-- The bound is tested in 64 bits, the offset advances in `size_t`. -/
def machineEnd (sizeBits : Nat) : StringEnd := fun len off value =>
  if (off + value) % 2 ^ 64 > len then .error (.errno .einval)
  else .ok ((off + value % 2 ^ sizeBits) % 2 ^ sizeBits)

/-- Unbounded arithmetic tells the strings that leave 64 bits. -/
def exactEnd : StringEnd := fun len off value =>
  if 2 ^ 64 ≤ off + value then .error .overlong
  else if off + value > len then .error (.errno .einval)
  else .ok (off + value)

/-- The offset stays where it was unless the text matches. -/
def matchTstr (buf : Bytes) (off : Nat) (text : Bytes) : Except Errno Nat := do
  let (major, value, off) ← readHead buf off
  if major ≠ mtTstr then .error .einval
  else if value ≠ text.length ∨ off + text.length > buf.length then .error .enoent
  else if (buf.drop off).take text.length ≠ text then .error .enoent
  else return off + text.length

/-- The two string readers differ in their major type. -/
def readString (stringEnd : StringEnd) (sizeBits : Nat) (wanted : UInt8) (buf : Bytes) (off : Nat) :
    Except Halt (Span × Nat) := do
  let (major, value, off) ← (readHead buf off).mapError .errno
  if major ≠ wanted then .error (.errno .einval)
  else
    let stop ← stringEnd buf.length off value
    return (⟨off, value % 2 ^ sizeBits⟩, stop)

def readTstr (sizeBits : Nat) (buf : Bytes) (off : Nat) : Except Errno (Span × Nat) := do
  let (major, value, off) ← readHead buf off
  if major ≠ mtTstr then .error .einval
  else if (off + value) % 2 ^ 64 > buf.length then .error .einval
  else return (⟨off, value % 2 ^ sizeBits⟩, (off + value % 2 ^ sizeBits) % 2 ^ sizeBits)

/-- The depth bounds a recursion that the source leaves to the stack. -/
def skipItemWith (stringEnd : StringEnd) (buf : Bytes) : (depth off : Nat) → Visit Nat
  | 0, _ => .fail .tooDeep
  | depth + 1, off => do
      Walker.visit
      let (major, value, off) ← reading (readHead buf off)
      if major = mtUint then return off
      else if major = mtBstr ∨ major = mtTstr then .lift (stringEnd buf.length off value)
      -- A pair is a key and a value.
      else if major = mtMap then Walker.repeated (skipItemWith stringEnd buf depth) (2 * value) off
      else if major = mtArray then Walker.repeated (skipItemWith stringEnd buf depth) value off
      else .fail (.errno .einval)

def skipItem (sizeBits : Nat) (buf : Bytes) (depth off : Nat) : Visit Nat :=
  skipItemWith (machineEnd sizeBits) buf depth off

/-- A field that was not met is absent. -/
structure DecodedFields where
  int1 : Option UInt32
  int2 : Option UInt32
  data : Option Span
  deriving DecidableEq, Repr

/-- An entry is a known key with its value, or an unknown pair. -/
def decodeEntries (stringEnd : StringEnd) (sizeBits depth : Nat) (buf name1 name2 : Bytes) :
    (entries off : Nat) → DecodedFields → Visit DecodedFields
  | 0, _, fields => pure fields
  | entries + 1, off, fields =>
    match matchTstr buf off name1 with
    | .ok off => do
        let (value, off) ← reading (readUint32 buf off)
        decodeEntries stringEnd sizeBits depth buf name1 name2 entries off { fields with int1 := some value }
    | .error _ =>
      match matchTstr buf off name2 with
      | .ok off => do
          let (value, off) ← reading (readUint32 buf off)
          decodeEntries stringEnd sizeBits depth buf name1 name2 entries off { fields with int2 := some value }
      | .error _ =>
        match matchTstr buf off keyData with
        | .ok off => do
            let (span, off) ← .lift (readString stringEnd sizeBits mtBstr buf off)
            decodeEntries stringEnd sizeBits depth buf name1 name2 entries off { fields with data := some span }
        | .error _ => do
            let off ← skipItemWith stringEnd buf depth off
            let off ← skipItemWith stringEnd buf depth off
            decodeEntries stringEnd sizeBits depth buf name1 name2 entries off fields

/-- A message is a map of two or three entries. -/
def messageHead (buf : Bytes) : Except Errno (Nat × Nat) := do
  if buf.length = 0 then .error .einval
  let (major, value, off) ← readHead buf 0
  if major ≠ mtMap then .error .einval
  else if value < 2 ∨ value > 3 then .error .einval
  else return (value, off)

/-- The two integers have to be there. -/
def requiredFields (fields : DecodedFields) : Except Errno (UInt32 × UInt32 × Option Span) :=
  match fields.int1, fields.int2 with
  | some int1, some int2 => .ok (int1, int2, fields.data)
  | _, _ => .error .enoent

def decodeMapWith (stringEnd : StringEnd) (sizeBits depth : Nat) (buf name1 name2 : Bytes) :
    Visit (UInt32 × UInt32 × Option Span) := do
  let (entries, off) ← reading (messageHead buf)
  let fields ← decodeEntries stringEnd sizeBits depth buf name1 name2 entries off ⟨none, none, none⟩
  reading (requiredFields fields)

def decodeMap (sizeBits depth : Nat) (buf name1 name2 : Bytes) : Visit (UInt32 × UInt32 × Option Span) :=
  decodeMapWith (machineEnd sizeBits) sizeBits depth buf name1 name2

/-- The command, the sequence number and the data of a request. -/
def decodeRequest (sizeBits depth : Nat) (buf : Bytes) : Visit (UInt32 × UInt32 × Bytes) := do
  let (cmd, seq, data) ← decodeMap sizeBits depth buf keyCmd keySeq
  return (cmd, seq, data.elim [] (Span.bytes buf))

/-- The sequence number, the error and the data of a response. -/
def decodeResponse (sizeBits depth : Nat) (buf : Bytes) : Visit (UInt32 × UInt32 × Bytes) := do
  let (err, seq, data) ← decodeMap sizeBits depth buf keyErr keySeq
  return (seq, err, data.elim [] (Span.bytes buf))

/-- A head is one octet, or has a field behind it. -/
theorem readHead_shape {buf : Bytes} {off next value : Nat} {major : UInt8}
    (read : readHead buf off = .ok (major, value, next)) :
    next ≤ buf.length ∧ ((value < 24 ∧ next = off + 1) ∨
      ∃ width ∈ [1, 2, 4, 8], value < 256 ^ width ∧ next = off + 1 + width) := by
  unfold readHead at read
  rcases found : buf[off]? with _ | initial
  · simp [found] at read
  · have within : off < buf.length := (List.getElem?_eq_some_iff.mp found).1
    simp only [found] at read
    have field (width : Nat) (known : width ∈ [1, 2, 4, 8]) (room : ¬ off + 1 + width > buf.length)
        (wide : Except.ok (initial &&& 0xE0, bigEndianValue ((buf.drop (off + 1)).take width), off + 1 + width) =
          (.ok (major, value, next) : Except Errno _)) :
        next ≤ buf.length ∧ ((value < 24 ∧ next = off + 1) ∨
          ∃ width ∈ [1, 2, 4, 8], value < 256 ^ width ∧ next = off + 1 + width) := by
      obtain ⟨_, rfl, rfl⟩ := wide
      have small := bigEndianValue_lt ((buf.drop (off + 1)).take width)
      have places : (256 : Nat) ^ ((buf.drop (off + 1)).take width).length ≤ 256 ^ width :=
        Nat.pow_le_pow_right (by decide) (by rw [List.length_take]; omega)
      exact ⟨Nat.not_lt.mp room, .inr ⟨width, known, lt_of_lt_of_le small places, rfl⟩⟩
    split_ifs at read with narrow one short two short four short eight short
    · obtain ⟨_, rfl, rfl⟩ := read
      exact ⟨within, .inl ⟨UInt8.lt_iff_toNat_lt.mp narrow, rfl⟩⟩
    · exact field 1 (by decide) short read
    · exact field 2 (by decide) short read
    · exact field 4 (by decide) short read
    · exact field 8 (by decide) short read

/-- A head takes at least one octet and lies inside the buffer. -/
theorem readHead_bounds {buf : Bytes} {off next value : Nat} {major : UInt8}
    (read : readHead buf off = .ok (major, value, next)) :
    off < next ∧ next ≤ buf.length ∧ value < 2 ^ 64 := by
  obtain ⟨within, ⟨small, rfl⟩ | ⟨width, known, small, rfl⟩⟩ := readHead_shape read
  · exact ⟨by omega, within, lt_trans small (by decide)⟩
  · have narrow : ∀ width ∈ [1, 2, 4, 8], width ≤ 8 := by decide
    have places : (256 : Nat) ^ width ≤ 256 ^ 8 := Nat.pow_le_pow_right (by decide) (narrow width known)
    exact ⟨by omega, within, lt_of_lt_of_le small places⟩

/-- Within 64 bits a string ends as in unbounded arithmetic. -/
theorem machineEnd_eq {sizeBits len off value : Nat} (fits : len < 2 ^ sizeBits) (short : off + value < 2 ^ 64) :
    machineEnd sizeBits len off value = exactEnd len off value := by
  have low : (off + value) % 2 ^ 64 = off + value := Nat.mod_eq_of_lt short
  unfold machineEnd exactEnd
  rw [low, if_neg (Nat.not_le.mpr short)]
  split_ifs with long
  · rfl
  · rw [Nat.mod_eq_of_lt (by omega : value < 2 ^ sizeBits), Nat.mod_eq_of_lt (by omega : off + value < 2 ^ sizeBits)]

theorem exactEnd_ok {len off value stop : Nat} (ends : exactEnd len off value = .ok stop) :
    stop = off + value ∧ stop ≤ len ∧ off + value < 2 ^ 64 := by
  unfold exactEnd at ends
  split_ifs at ends with wraps long
  obtain rfl := Except.ok.inj ends
  exact ⟨rfl, Nat.not_lt.mp long, Nat.not_le.mp wraps⟩

/-- Both readers of strings, at their major type. -/
theorem readBstr_eq (sizeBits : Nat) (buf : Bytes) (off : Nat) :
    (readBstr sizeBits buf off).mapError .errno = readString (machineEnd sizeBits) sizeBits mtBstr buf off := by
  unfold readBstr readString machineEnd
  rcases readHead buf off with error | ⟨major, value, next⟩
  · rfl
  · simp only [bind, Except.bind, Except.mapError]
    split_ifs <;> rfl

theorem readTstr_eq (sizeBits : Nat) (buf : Bytes) (off : Nat) :
    (readTstr sizeBits buf off).mapError .errno = readString (machineEnd sizeBits) sizeBits mtTstr buf off := by
  unfold readTstr readString machineEnd
  rcases readHead buf off with error | ⟨major, value, next⟩
  · rfl
  · simp only [bind, Except.bind, Except.mapError]
    split_ifs <;> rfl

end Cantil.Cbor
