import Cantil.Firmware.Config
import Cantil.Library.Bytes

namespace Cantil.Cbor
open Library

def mtUint : UInt8 := 0x00

def mtBstr : UInt8 := 0x40

def mtTstr : UInt8 := 0x60

def mtArray : UInt8 := 0x80

def mtMap : UInt8 := 0xA0

/-- The shortest head for a value. -/
def headBytes (major : UInt8) (value : Nat) : Bytes :=
  if value < 24 then [major ||| UInt8.ofNat value]
  else if value < 0x100 then (major ||| 24) :: bigEndian 1 value
  else if value < 0x10000 then (major ||| 25) :: bigEndian 2 value
  else if value < 0x100000000 then (major ||| 26) :: bigEndian 4 value
  else (major ||| 27) :: bigEndian 8 value

/-- Emitters append, and refuse to pass the buffer size. -/
def emitBytes (max : Nat) (out data : Bytes) : Except Errno Bytes :=
  if out.length + data.length > max then .error .enomem else .ok (out ++ data)

def emitHead (max : Nat) (out : Bytes) (major : UInt8) (value : Nat) : Except Errno Bytes :=
  emitBytes max out (headBytes major value)

def emitTstr (max : Nat) (out text : Bytes) : Except Errno Bytes := do
  let out ← emitHead max out mtTstr text.length
  emitBytes max out text

def emitBstr (max : Nat) (out data : Bytes) : Except Errno Bytes := do
  let out ← emitHead max out mtBstr data.length
  emitBytes max out data

/-- The texts of the map keys. -/
def keyErr : Bytes := [0x65, 0x72, 0x72]

def keySeq : Bytes := [0x73, 0x65, 0x71]

def keyData : Bytes := [0x64, 0x61, 0x74, 0x61]

def encodeMap (max : Nat) (key1 : Bytes) (value1 : UInt32) (key2 : Bytes) (value2 : UInt32)
    (key3 data : Bytes) : Except Errno Bytes := do
  let out ← emitHead max [] mtMap (if data.length > 0 then 3 else 2)
  let out ← emitTstr max out key1
  let out ← emitHead max out mtUint value1.toNat
  let out ← emitTstr max out key2
  let out ← emitHead max out mtUint value2.toNat
  if data.length > 0 then
    let out ← emitTstr max out key3
    emitBstr max out data
  else return out

def encodeResponse (max : Nat) (seq err : UInt32) (data : Bytes) : Except Errno Bytes :=
  encodeMap max keyErr err keySeq seq keyData data

/-- A head gives the major type, the value and the next offset. -/
def readHead (buf : Bytes) (off : Nat) : Except Errno (UInt8 × Nat × Nat) :=
  match buf[off]? with
  | none => .error .einval
  | some initial =>
    let major := initial &&& 0xE0
    let additional := initial &&& 0x1F
    let off := off + 1
    let wide (width : Nat) : Except Errno (UInt8 × Nat × Nat) :=
      if off + width > buf.length then .error .einval
      else .ok (major, bigEndianValue ((buf.drop off).take width), off + width)
    if additional < 24 then .ok (major, additional.toNat, off)
    else if additional = 24 then wide 1
    else if additional = 25 then wide 2
    else if additional = 26 then wide 4
    else if additional = 27 then wide 8
    else .error .einval

def readUint32 (buf : Bytes) (off : Nat) : Except Errno (UInt32 × Nat) := do
  let (major, value, off) ← readHead buf off
  if major ≠ mtUint then .error .einval
  else if value > 0xFFFFFFFF then .error .erange
  else return (UInt32.ofNat value, off)

/-- A span of the input buffer. -/
structure Span where
  start : Nat
  length : Nat
  deriving DecidableEq, Repr

/-- A span may leave the buffer. What lies behind it reads as zero. -/
def Span.bytes (buf : Bytes) (span : Span) : Bytes := (buf.drop span.start).takeD span.length 0

/-- The bound is tested in 64 bits, the length cut to `size_t`. -/
def readBstr (sizeBits : Nat) (buf : Bytes) (off : Nat) : Except Errno (Span × Nat) := do
  let (major, value, off) ← readHead buf off
  if major ≠ mtBstr then .error .einval
  else if (off + value) % 2 ^ 64 > buf.length then .error .einval
  else return (⟨off, value % 2 ^ sizeBits⟩, (off + value % 2 ^ sizeBits) % 2 ^ sizeBits)

def sessionCborKeyChain : UInt32 := 1

/-- The loop stops at an item that is malformed or does not fit. -/
def collectCerts (sizeBits maxCerts maxTotal : Nat) (pt : Bytes) :
    (remaining off total : Nat) → (certs : List Bytes) → List Bytes
  | 0, _, _, certs => certs
  | remaining + 1, off, total, certs =>
    match readBstr sizeBits pt off with
    | .error _ => certs
    | .ok (span, off) =>
      let grown := (total + span.length) % 2 ^ sizeBits
      if certs.length ≥ maxCerts then certs
      else if grown > maxTotal then certs
      else collectCerts sizeBits maxCerts maxTotal pt remaining off grown
        (certs ++ [span.bytes pt])

/-- One array of certificates under the chain key. -/
def parseChain (sizeBits maxCerts maxTotal : Nat) (pt : Bytes) : List Bytes :=
  let parsed : Except Errno (List Bytes) := do
    if pt.length = 0 then return []
    let (major, value, off) ← readHead pt 0
    -- The loop over the pairs returns in its first pass.
    if major ≠ mtMap ∨ value % 2 ^ sizeBits = 0 then return []
    let (key, off) ← readUint32 pt off
    if key ≠ sessionCborKeyChain then return []
    let (arrayMajor, count, off) ← readHead pt off
    if arrayMajor ≠ mtArray then return []
    return collectCerts sizeBits maxCerts maxTotal pt (count % 2 ^ sizeBits) off 0 []
  parsed.toOption.getD []

/-- The emitter appends the octets or runs out of room. -/
def Appends (max : Nat) (emit : Bytes → Except Errno Bytes) (text : Bytes) : Prop :=
  ∀ out, out.length ≤ max → emit out = emitBytes max out text

/-- Two emitters run out of room when their joint output does. -/
theorem Appends.andThen {max : Nat} {emit next : Bytes → Except Errno Bytes} {first second : Bytes}
    (head : Appends max emit first) (tail : Appends max next second) :
    Appends max (fun out => emit out >>= next) (first ++ second) := by
  intro out room
  simp only [head out room, emitBytes, List.length_append]
  by_cases fits : out.length + first.length ≤ max
  · have within : (out ++ first).length ≤ max := by simpa using fits
    rw [if_neg (by omega)]
    show next (out ++ first) = _
    rw [tail _ within, emitBytes, List.length_append, List.append_assoc]
    simp only [Nat.add_assoc]
  · rw [if_pos (by omega), if_pos (by omega)]
    rfl

theorem emitHead_appends (max : Nat) (major : UInt8) (value : Nat) :
    Appends max (fun out => emitHead max out major value) (headBytes major value) := fun _ _ => rfl

theorem emitTstr_appends (max : Nat) (text : Bytes) :
    Appends max (fun out => emitTstr max out text) (headBytes mtTstr text.length ++ text) :=
  (emitHead_appends max mtTstr text.length).andThen fun _ _ => rfl

theorem emitBstr_appends (max : Nat) (data : Bytes) :
    Appends max (fun out => emitBstr max out data) (headBytes mtBstr data.length ++ data) :=
  (emitHead_appends max mtBstr data.length).andThen fun _ _ => rfl

/-- The data item is left out when there is no data. -/
def dataItem (key data : Bytes) : Bytes :=
  if data.length > 0 then headBytes mtTstr key.length ++ key ++ (headBytes mtBstr data.length ++ data) else []

def mapBytes (key1 : Bytes) (value1 : UInt32) (key2 : Bytes) (value2 : UInt32) (key3 data : Bytes) : Bytes :=
  headBytes mtMap (if data.length > 0 then 3 else 2) ++ (headBytes mtTstr key1.length ++ key1 ++
    (headBytes mtUint value1.toNat ++ (headBytes mtTstr key2.length ++ key2 ++
    (headBytes mtUint value2.toNat ++ dataItem key3 data))))

/-- The encoder writes the whole map or has no room. -/
theorem encodeMap_eq (max : Nat) (key1 : Bytes) (value1 : UInt32) (key2 : Bytes) (value2 : UInt32)
    (key3 data : Bytes) :
    encodeMap max key1 value1 key2 value2 key3 data =
      emitBytes max [] (mapBytes key1 value1 key2 value2 key3 data) := by
  have item : Appends max (fun out => if data.length > 0 then do
      let out ← emitTstr max out key3
      emitBstr max out data else return out) (dataItem key3 data) := by
    intro out room
    unfold dataItem
    split_ifs
    · exact (emitTstr_appends max key3).andThen (emitBstr_appends max data) out room
    · have within : ¬ out.length + ([] : Bytes).length > max := by simpa using room
      rw [emitBytes, if_neg within, List.append_nil]
      rfl
  exact (emitHead_appends max mtMap _).andThen ((emitTstr_appends max key1).andThen
    ((emitHead_appends max mtUint _).andThen ((emitTstr_appends max key2).andThen
    ((emitHead_appends max mtUint _).andThen item)))) [] (Nat.zero_le max)

/-- The octets of a response that fits. -/
def responseBytes (seq err : UInt32) (data : Bytes) : Bytes := mapBytes keyErr err keySeq seq keyData data

theorem encodeResponse_eq (max : Nat) (seq err : UInt32) (data : Bytes) :
    encodeResponse max seq err data =
      if (responseBytes seq err data).length ≤ max then .ok (responseBytes seq err data) else .error .enomem := by
  rw [encodeResponse, encodeMap_eq, emitBytes, List.length_nil, List.nil_append, ← responseBytes]
  by_cases fits : (responseBytes seq err data).length ≤ max
  · rw [if_neg (by omega), if_pos fits]
  · rw [if_pos (by omega), if_neg fits]

theorem headBytes_length_pos (major : UInt8) (value : Nat) : 0 < (headBytes major value).length := by
  unfold headBytes
  split_ifs
  all_goals simp

theorem headBytes_small {value : Nat} (small : value < 24) (major : UInt8) :
    (headBytes major value).length = 1 := by
  rw [headBytes, if_pos small]
  rfl

/-- The codes of one digit take the same room. -/
theorem responseBytes_length {err : UInt32} (small : err.toNat < 24) (seq : UInt32) (data : Bytes) :
    (responseBytes seq err data).length = (responseBytes seq 0 data).length := by
  have zero : (0 : UInt32).toNat < 24 := by decide
  simp only [responseBytes, mapBytes, List.length_append, headBytes_small small, headBytes_small zero]

/-- Around its data a response has at least seventeen octets. -/
theorem responseBytes_long {data : Bytes} (some : data ≠ []) (seq err : UInt32) :
    data.length + 17 ≤ (responseBytes seq err data).length := by
  have present : data.length > 0 := List.length_pos_iff.mpr some
  have map := headBytes_length_pos mtMap 3
  have key1 := headBytes_length_pos mtTstr keyErr.length
  have code := headBytes_length_pos mtUint err.toNat
  have key2 := headBytes_length_pos mtTstr keySeq.length
  have number := headBytes_length_pos mtUint seq.toNat
  have key3 := headBytes_length_pos mtTstr keyData.length
  have head := headBytes_length_pos mtBstr data.length
  have texts : keyErr.length = 3 ∧ keySeq.length = 3 ∧ keyData.length = 4 := ⟨rfl, rfl, rfl⟩
  simp only [responseBytes, mapBytes, dataItem, if_pos present, List.length_append]
  omega

/-- The loop records no more certificates than it has room for. -/
theorem collectCerts_length_le (sizeBits maxCerts maxTotal : Nat) (pt : Bytes)
    (remaining off total : Nat) (certs : List Bytes) (room : certs.length ≤ maxCerts) :
    (collectCerts sizeBits maxCerts maxTotal pt remaining off total certs).length
      ≤ maxCerts := by
  induction remaining generalizing off total certs with
  | zero => exact room
  | succ remaining ih =>
    unfold collectCerts
    split
    · exact room
    · dsimp only
      split_ifs with full long
      · exact room
      · exact room
      · apply ih
        rw [List.length_append, List.length_singleton]
        omega

theorem parseChain_length_le (sizeBits maxCerts maxTotal : Nat) (pt : Bytes) :
    (parseChain sizeBits maxCerts maxTotal pt).length ≤ maxCerts := by
  have collected (remaining off : Nat) :=
    collectCerts_length_le sizeBits maxCerts maxTotal pt remaining off 0 [] (Nat.zero_le _)
  unfold parseChain
  simp only [bind, Except.bind, pure, Except.pure]
  repeat' split
  all_goals first | exact collected _ _ | exact Nat.zero_le _

end Cantil.Cbor
