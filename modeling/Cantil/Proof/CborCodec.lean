import Cantil.Common.CborBuffer
import Cantil.Common.ChainPayload

namespace Cantil.Cbor
open Library

/-! The encoders on a buffer. -/

namespace Buffer

variable {sizeBits max : Nat}

theorem headNeed_eq (major : UInt8) (value : Nat) : headNeed value = (headBytes major value).length := by
  unfold headNeed headBytes
  split_ifs
  all_goals simp

/-- The octets are written whole, or there is no room. -/
structure Written (max : Nat) (octets : Bytes) (output : Output) (outcome : Except Errno Unit × Output) : Prop where
  fits : output.off + octets.length ≤ max →
    outcome = (.ok (), ⟨output.memory.store output.off octets, output.off + octets.length⟩)
  full : max < output.off + octets.length → outcome.1 = .error .enomem
  inside : ∀ index, max ≤ index → outcome.2.memory index = output.memory index

/-- What an emitter does while `size_t` holds the offsets. -/
def Emits (sizeBits max : Nat) (emit : Emit) (octets : Bytes) : Prop :=
  ∀ output, output.off ≤ max → output.off + octets.length < 2 ^ sizeBits → Written max octets output (emit output)

theorem emitOctets_emits {need : Nat} {octets : Bytes} (exact : need = octets.length) :
    Emits sizeBits max (emitOctets sizeBits max need octets) octets := by
  intro output start small
  rw [emitOctets, exact, Nat.mod_eq_of_lt small]
  split_ifs with exceeds
  · exact ⟨fun room => absurd exceeds (Nat.not_lt.mpr room), fun _ => rfl, fun _ _ => rfl⟩
  · exact ⟨fun _ => rfl, fun beyond => absurd beyond exceeds, fun index beyond => Memory.store_outside (by omega)⟩

theorem skip_emits : Emits sizeBits max (pure ()) [] := by
  intro output start small
  have same : output.memory.store output.off [] = output.memory := by
    funext index
    exact Memory.store_outside (by rw [List.length_nil]; omega)
  refine ⟨fun _ => ?_, fun exceeds => ?_, fun _ _ => rfl⟩
  · rw [same]
    rfl
  · rw [List.length_nil] at exceeds
    omega

/-- Two emitters run out of room when their joint output does. -/
theorem Emits.andThen {emit next : Emit} {first second : Bytes} (head : Emits sizeBits max emit first)
    (tail : Emits sizeBits max next second) : Emits sizeBits max (do emit; next) (first ++ second) := by
  intro output start small
  rw [List.length_append] at small
  have begun := head output start (by omega)
  rw [Op.bind_apply]
  by_cases room : output.off + first.length ≤ max
  · rw [begun.fits room]
    have rest := tail ⟨output.memory.store output.off first, output.off + first.length⟩ room (by dsimp only; omega)
    dsimp only at rest ⊢
    exact {
      fits := fun enough => by
        rw [List.length_append] at enough ⊢
        rw [rest.fits (by dsimp only; omega), Memory.store_append, Nat.add_assoc]
      full := fun exceeds => by
        rw [List.length_append] at exceeds
        exact rest.full (by dsimp only; omega)
      inside := fun index beyond => by
        rw [rest.inside index beyond]
        exact Memory.store_outside (by omega) }
  · have stopped := begun.full (Nat.not_le.mp room)
    have kept := begun.inside
    rcases outcome : emit output with ⟨error | done, after⟩
    · rw [outcome] at stopped kept
      exact {
        fits := fun enough => by
          rw [List.length_append] at enough
          omega
        full := fun _ => congrArg _ (Except.error.inj stopped)
        inside := kept }
    · rw [outcome] at stopped
      cases stopped

theorem emitHead_emits (major : UInt8) (value : Nat) :
    Emits sizeBits max (emitHead sizeBits max major value) (headBytes major value) :=
  emitOctets_emits (headNeed_eq major value)

theorem emitTstr_emits (text : Bytes) :
    Emits sizeBits max (emitTstr sizeBits max text) (headBytes mtTstr text.length ++ text) :=
  (emitHead_emits mtTstr text.length).andThen (emitOctets_emits rfl)

theorem emitBstr_emits (data : Bytes) :
    Emits sizeBits max (emitBstr sizeBits max data) (headBytes mtBstr data.length ++ data) :=
  (emitHead_emits mtBstr data.length).andThen (emitOctets_emits rfl)

/-- The items of a map in front of the offset that is returned. -/
def emitMap (sizeBits max : Nat) (key1 : Bytes) (value1 : UInt32) (key2 : Bytes) (value2 : UInt32)
    (key3 data : Bytes) : Emit := do
  emitHead sizeBits max mtMap (if data.length > 0 then 3 else 2)
  emitTstr sizeBits max key1
  emitHead sizeBits max mtUint value1.toNat
  emitTstr sizeBits max key2
  emitHead sizeBits max mtUint value2.toNat
  if data.length > 0 then
    emitTstr sizeBits max key3
    emitBstr sizeBits max data

theorem emitMap_emits (key1 : Bytes) (value1 : UInt32) (key2 : Bytes) (value2 : UInt32) (key3 data : Bytes) :
    Emits sizeBits max (emitMap sizeBits max key1 value1 key2 value2 key3 data)
      (mapBytes key1 value1 key2 value2 key3 data) := by
  have item : Emits sizeBits max (if data.length > 0 then do
      emitTstr sizeBits max key3
      emitBstr sizeBits max data else pure ()) (dataItem key3 data) := by
    unfold dataItem
    split_ifs
    · exact (emitTstr_emits key3).andThen (emitBstr_emits data)
    · exact skip_emits
  exact (emitHead_emits mtMap _).andThen ((emitTstr_emits key1).andThen ((emitHead_emits mtUint _).andThen
    ((emitTstr_emits key2).andThen ((emitHead_emits mtUint _).andThen item))))

theorem encodeMap_eq_emitMap (key1 : Bytes) (value1 : UInt32) (key2 : Bytes) (value2 : UInt32) (key3 data : Bytes) :
    encodeMap sizeBits max key1 value1 key2 value2 key3 data = (do
      emitMap sizeBits max key1 value1 key2 value2 key3 data
      Op.reads fun output => .ok (intOfSize output.off)) := by
  unfold encodeMap emitMap
  simp only [Op.bind_assoc]
  split_ifs
  · simp only [Op.bind_assoc]
  · rfl

theorem intOfSize_eq {size : Nat} (small : size < 2 ^ 31) : intOfSize size = size := by
  unfold intOfSize
  rw [BitVec.toInt_eq_toNat_cond, BitVec.toNat_ofNat]
  rw [Nat.mod_eq_of_lt (by omega), if_pos (by omega)]

/-- The buffer gets the canonical encoding, or has no room. -/
theorem encodeMap_written (max : Nat) (key1 : Bytes) (value1 : UInt32)
    (key2 : Bytes) (value2 : UInt32) (key3 data : Bytes)
    (wide : 31 ≤ sizeBits) (small : (mapBytes key1 value1 key2 value2 key3 data).length < 2 ^ 31) (memory : Memory) :
    (encodeMap sizeBits max key1 value1 key2 value2 key3 data ⟨memory, 0⟩).1 =
        (if (mapBytes key1 value1 key2 value2 key3 data).length ≤ max then
          .ok (mapBytes key1 value1 key2 value2 key3 data).length else .error .enomem) ∧
      ((mapBytes key1 value1 key2 value2 key3 data).length ≤ max →
        (encodeMap sizeBits max key1 value1 key2 value2 key3 data ⟨memory, 0⟩).2.memory =
          memory.store 0 (mapBytes key1 value1 key2 value2 key3 data)) ∧
      ∀ index, max ≤ index →
        (encodeMap sizeBits max key1 value1 key2 value2 key3 data ⟨memory, 0⟩).2.memory index = memory index := by
  have spread : (2 : Nat) ^ 31 ≤ 2 ^ sizeBits := Nat.pow_le_pow_right (by decide) wide
  have written : Written max (mapBytes key1 value1 key2 value2 key3 data) ⟨memory, 0⟩
      (emitMap sizeBits max key1 value1 key2 value2 key3 data ⟨memory, 0⟩) :=
    emitMap_emits key1 value1 key2 value2 key3 data ⟨memory, 0⟩ (Nat.zero_le _) (by dsimp only; omega)
  generalize mapBytes key1 value1 key2 value2 key3 data = octets at *
  rw [encodeMap_eq_emitMap, Op.bind_apply]
  by_cases room : octets.length ≤ max
  · have done := written.fits (by simpa using room)
    rw [done, if_pos room]
    dsimp only [Op.reads_apply]
    rw [Nat.zero_add, intOfSize_eq small]
    exact ⟨rfl, fun _ => rfl, fun index beyond => Memory.store_outside (by omega)⟩
  · have stopped := written.full (by simpa using Nat.not_le.mp room)
    have kept := written.inside
    rcases outcome : emitMap sizeBits max key1 value1 key2 value2 key3 data ⟨memory, 0⟩ with ⟨error | done, after⟩
    · rw [outcome] at stopped kept
      rw [if_neg room]
      exact ⟨congrArg _ (Except.error.inj stopped), fun fits => absurd fits room, kept⟩
    · rw [outcome] at stopped
      cases stopped

end Buffer

/-! The decoder on what the encoders write. -/

section Decoding

variable {buf rest : Bytes} {off sizeBits : Nat}
variable {data : Bytes} {value : UInt32}

/-- The rest of the buffer from the offset on. -/
def At (buf : Bytes) (off : Nat) (rest : Bytes) : Prop := ∃ before, before.length = off ∧ buf = before ++ rest

theorem At.start (buf : Bytes) : At buf 0 buf := ⟨[], rfl, rfl⟩

theorem At.behind {first : Bytes} (here : At buf off (first ++ rest)) : At buf (off + first.length) rest := by
  obtain ⟨before, rfl, rfl⟩ := here
  exact ⟨before ++ first, List.length_append, (List.append_assoc _ _ _).symm⟩

theorem At.bytes (here : At buf off (data ++ rest)) : Span.bytes buf ⟨off, data.length⟩ = data := by
  obtain ⟨before, rfl, rfl⟩ := here
  rw [Span.bytes, List.drop_left, List.takeD_left]

theorem At.inside {first : Bytes} (here : At buf off (first ++ rest)) : off + first.length ≤ buf.length := by
  obtain ⟨before, rfl, rfl⟩ := here
  simp only [List.length_append]
  omega

theorem At.head {major : UInt8} {value : Nat} (here : At buf off (headBytes major value ++ rest))
    (known : Major major) (small : value < 2 ^ 64) :
    readHead buf off = .ok (major, value, off + (headBytes major value).length) := by
  obtain ⟨before, rfl, rfl⟩ := here
  rw [← List.append_assoc]
  exact readHead_headBytes known small before rest

/-- A text is matched by its own name only. -/
theorem At.text {text : Bytes} (here : At buf off (headBytes mtTstr text.length ++ text ++ rest))
    (small : text.length < 2 ^ 64) (name : Bytes) :
    matchTstr buf off name =
      if text = name then .ok (off + (headBytes mtTstr text.length ++ text).length) else .error .enoent := by
  have within := here.inside
  rw [List.append_assoc] at here
  have taken : (buf.drop (off + (headBytes mtTstr text.length).length)).take text.length = text := by
    obtain ⟨before, same, rfl⟩ := here.behind
    rw [← same, List.drop_left, List.take_left]
  rw [List.length_append] at within ⊢
  simp only [matchTstr, here.head (by decide) small, bind, Except.bind, ne_eq, not_true_eq_false, if_false]
  by_cases same : text = name
  · subst same
    rw [if_neg (by omega), taken, if_neg (by simp), if_pos rfl, Nat.add_assoc]
    rfl
  · split_ifs with misfit agrees
    · rfl
    · simp only [not_or, not_not] at misfit
      rw [← misfit.1] at agrees
      exact absurd (taken.symm.trans agrees) same
    · rfl

theorem At.uint (here : At buf off (headBytes mtUint value.toNat ++ rest)) :
    readUint32 buf off = .ok (value, off + (headBytes mtUint value.toNat).length) := by
  have small : value.toNat < 2 ^ 32 := value.toNat_lt
  simp only [readUint32, here.head (by decide) (lt_trans small (by decide)), bind, Except.bind, ne_eq,
    not_true_eq_false, if_false]
  rw [if_neg (by omega), UInt32.ofNat_toNat]
  rfl

/-- Both kinds of strings are read back wherever they stand. -/
theorem At.string {wanted : UInt8} (here : At buf off (headBytes wanted data.length ++ data ++ rest))
    (known : Major wanted) (small : off + (headBytes wanted data.length ++ data).length < 2 ^ 31)
    (wide : 31 ≤ sizeBits) :
    readString (machineEnd sizeBits) sizeBits wanted buf off =
      .ok (⟨off + (headBytes wanted data.length).length, data.length⟩,
        off + (headBytes wanted data.length ++ data).length) := by
  have spread : (2 : Nat) ^ 31 ≤ 2 ^ sizeBits := Nat.pow_le_pow_right (by decide) wide
  have within := here.inside
  rw [List.append_assoc] at here
  rw [List.length_append] at within small ⊢
  have ends : machineEnd sizeBits buf.length (off + (headBytes wanted data.length).length) data.length =
      .ok (off + ((headBytes wanted data.length).length + data.length)) := by
    rw [machineEnd, if_neg (by omega), Nat.mod_eq_of_lt (by omega : data.length < _),
      Nat.mod_eq_of_lt (by omega), Nat.add_assoc]
  simp only [readString, here.head known (by omega), bind, Except.bind, Except.mapError, ne_eq,
    not_true_eq_false, if_false, ends]
  rw [Nat.mod_eq_of_lt (by omega)]
  rfl

theorem At.bstr (here : At buf off (bstrBytes data ++ rest)) (small : off + (bstrBytes data).length < 2 ^ 31)
    (wide : 31 ≤ sizeBits) :
    readString (machineEnd sizeBits) sizeBits mtBstr buf off =
      .ok (⟨off + (headBytes mtBstr data.length).length, data.length⟩, off + (bstrBytes data).length) :=
  At.string here (by decide) small wide

/-- The octets of a key, of a number and of the data. -/
def keyBytes (key : Bytes) : Bytes := headBytes mtTstr key.length ++ key

def numberBytes (key : Bytes) (value : UInt32) : Bytes := keyBytes key ++ headBytes mtUint value.toNat

def dataBytes (data : Bytes) : Bytes := keyBytes keyData ++ bstrBytes data

variable {depth : Nat} {name1 name2 : Bytes} {fields : DecodedFields} {entries visits : Nat}

/-- The names of the two numbers and of the data are told apart. -/
structure Names (name1 name2 : Bytes) : Prop where
  short : name1.length < 24 ∧ name2.length < 24
  apart : name2 ≠ name1 ∧ keyData ≠ name1 ∧ keyData ≠ name2

theorem messageHead_at (here : At buf 0 (headBytes mtMap entries ++ rest)) (few : 2 ≤ entries ∧ entries ≤ 3) :
    messageHead buf = .ok (entries, (headBytes mtMap entries).length) := by
  have within := here.inside
  have filled := headBytes_length_pos mtMap entries
  have read := here.head (by decide) (by omega)
  rw [Nat.zero_add] at read
  have present : ¬ buf.length = 0 := by omega
  have count : ¬ (entries < 2 ∨ entries > 3) := by omega
  simp only [messageHead, if_neg present, read, bind, Except.bind, pure, Except.pure, ne_eq, not_true_eq_false,
    if_false, if_neg count]

variable (names : Names name1 name2)
include names

theorem decodeEntries_first (here : At buf off (numberBytes name1 value ++ rest)) :
    decodeEntries (machineEnd sizeBits) sizeBits depth buf name1 name2 (entries + 1) off fields =
      decodeEntries (machineEnd sizeBits) sizeBits depth buf name1 name2 entries
        (off + (numberBytes name1 value).length) { fields with int1 := some value } := by
  have small : name1.length < 2 ^ 64 := lt_trans names.short.1 (by decide)
  rw [numberBytes, List.append_assoc] at here
  have number := here.behind.uint
  rw [decodeEntries, here.text small, if_pos rfl]
  dsimp only
  rw [show headBytes mtTstr name1.length ++ name1 = keyBytes name1 from rfl, number]
  rw [numberBytes, List.length_append, Nat.add_assoc]
  rfl

theorem decodeEntries_second (here : At buf off (numberBytes name2 value ++ rest)) :
    decodeEntries (machineEnd sizeBits) sizeBits depth buf name1 name2 (entries + 1) off fields =
      decodeEntries (machineEnd sizeBits) sizeBits depth buf name1 name2 entries
        (off + (numberBytes name2 value).length) { fields with int2 := some value } := by
  have small : name2.length < 2 ^ 64 := lt_trans names.short.2 (by decide)
  rw [numberBytes, List.append_assoc] at here
  have number := here.behind.uint
  rw [decodeEntries, here.text small, if_neg names.apart.1, here.text small, if_pos rfl]
  dsimp only
  rw [show headBytes mtTstr name2.length ++ name2 = keyBytes name2 from rfl, number]
  rw [numberBytes, List.length_append, Nat.add_assoc]
  rfl

theorem decodeEntries_data (here : At buf off (dataBytes data ++ rest))
    (small : off + (dataBytes data).length < 2 ^ 31) (wide : 31 ≤ sizeBits) :
    decodeEntries (machineEnd sizeBits) sizeBits depth buf name1 name2 (entries + 1) off fields =
      decodeEntries (machineEnd sizeBits) sizeBits depth buf name1 name2 entries (off + (dataBytes data).length)
        { fields with data := some ⟨off + ((keyBytes keyData).length + (headBytes mtBstr data.length).length),
          data.length⟩ } := by
  have short : keyData.length < 2 ^ 64 := by decide
  rw [dataBytes, List.append_assoc] at here
  rw [dataBytes, List.length_append, ← Nat.add_assoc] at small
  have string := here.behind.bstr small wide
  rw [decodeEntries, here.text short, if_neg names.apart.2.1, here.text short, if_neg names.apart.2.2,
    here.text short, if_pos rfl]
  dsimp only
  rw [show headBytes mtTstr keyData.length ++ keyData = keyBytes keyData from rfl, string]
  rw [dataBytes, List.length_append, ← Nat.add_assoc, ← Nat.add_assoc]
  rfl

/-- A message without data is decoded, whatever follows it. -/
theorem decodeMap_numbers {value1 value2 : UInt32}
    (here : At buf 0 (headBytes mtMap 2 ++ (numberBytes name1 value1 ++ (numberBytes name2 value2 ++ rest)))) :
    decodeMap sizeBits depth buf name1 name2 visits = (.ok (value1, value2, none), visits) := by
  have first := here.behind
  rw [Nat.zero_add] at first
  rw [decodeMap, decodeMapWith, messageHead_at here (by decide), reading, Op.bind_apply, Op.lift_apply]
  dsimp only [Except.mapError]
  rw [decodeEntries_first names first, decodeEntries_second names first.behind]
  rfl

/-- A message with data is decoded, whatever follows it. -/
theorem decodeMap_data {value1 value2 : UInt32} (wide : 31 ≤ sizeBits)
    (here : At buf 0 (headBytes mtMap 3 ++ (numberBytes name1 value1 ++
      (numberBytes name2 value2 ++ (dataBytes data ++ rest)))))
    (small : (headBytes mtMap 3 ++ (numberBytes name1 value1 ++
      (numberBytes name2 value2 ++ dataBytes data))).length < 2 ^ 31) :
    ∃ span, decodeMap sizeBits depth buf name1 name2 visits = (.ok (value1, value2, some span), visits) ∧
      span.bytes buf = data := by
  simp only [List.length_append] at small
  have first := here.behind
  rw [Nat.zero_add] at first
  have third := first.behind.behind
  have octets := third
  rw [dataBytes, bstrBytes, List.append_assoc, List.append_assoc, ← List.append_assoc (keyBytes keyData)] at octets
  have spanned := octets.behind.bytes
  rw [List.length_append] at spanned
  refine ⟨_, ?_, spanned⟩
  rw [decodeMap, decodeMapWith, messageHead_at here (by decide), reading, Op.bind_apply, Op.lift_apply]
  dsimp only [Except.mapError]
  rw [decodeEntries_first names first, decodeEntries_second names first.behind,
    decodeEntries_data names third (by omega) wide]
  rfl

end Decoding

/-! Messages are read back as they were written. -/

section RoundTrip

variable {sizeBits : Nat}
variable {data name1 name2 : Bytes} {value1 value2 : UInt32}

def requestBytes (cmd seq : UInt32) (data : Bytes) : Bytes := mapBytes keyCmd cmd keySeq seq keyData data

/-- A message with empty data, which no encoder writes. -/
def emptyDataBytes (name1 : Bytes) (value1 : UInt32) (name2 : Bytes) (value2 : UInt32) : Bytes :=
  headBytes mtMap 3 ++ (numberBytes name1 value1 ++ (numberBytes name2 value2 ++ dataBytes []))

theorem headBytes_length_le (major : UInt8) (value : Nat) : (headBytes major value).length ≤ 9 := by
  unfold headBytes
  split_ifs
  all_goals simp

theorem mapBytes_filled (filled : data ≠ []) (name1 : Bytes) (value1 : UInt32) (name2 : Bytes) (value2 : UInt32) :
    mapBytes name1 value1 name2 value2 keyData data =
      headBytes mtMap 3 ++ (numberBytes name1 value1 ++ (numberBytes name2 value2 ++ dataBytes data)) := by
  have present : data.length > 0 := List.length_pos_iff.mpr filled
  simp only [mapBytes, dataItem, if_pos present, numberBytes, keyBytes, dataBytes, bstrBytes, List.append_assoc]

theorem mapBytes_empty (name1 : Bytes) (value1 : UInt32) (name2 : Bytes) (value2 : UInt32) :
    mapBytes name1 value1 name2 value2 keyData [] =
      headBytes mtMap 2 ++ (numberBytes name1 value1 ++ numberBytes name2 value2) := by
  simp [mapBytes, dataItem, numberBytes, keyBytes]

/-- The encoder on a buffer does what that of byte strings does. -/
theorem encodeMap_refines {max : Nat} (key1 : Bytes) (value1 : UInt32) (key2 : Bytes) (value2 : UInt32)
    (key3 data : Bytes) (wide : 31 ≤ sizeBits) (small : (mapBytes key1 value1 key2 value2 key3 data).length < 2 ^ 31)
    (memory : Memory) :
    (Buffer.encodeMap sizeBits max key1 value1 key2 value2 key3 data ⟨memory, 0⟩).1 =
      (encodeMap max key1 value1 key2 value2 key3 data).map fun octets => (octets.length : Int) := by
  rw [(Buffer.encodeMap_written max key1 value1 key2 value2 key3 data wide small memory).1, encodeMap_eq, emitBytes,
    List.length_nil, Nat.zero_add]
  by_cases room : (mapBytes key1 value1 key2 value2 key3 data).length ≤ max
  · rw [if_pos room, if_neg (Nat.not_lt.mpr room)]
    rfl
  · rw [if_neg room, if_pos (Nat.not_le.mp room)]
    rfl

/-- What is promised of a message, and of one with empty data. -/
structure RoundTrip (encode : (max : Nat) → Memory → Except Errno Int × Memory)
    (decode : Bytes → Visit (UInt32 × UInt32 × Bytes)) (canonical emptyData : Bytes)
    (message : UInt32 × UInt32 × Bytes) : Prop where
  refuses : ∀ max memory, (encode max memory).1 = .error .enomem ↔ max < canonical.length
  inside : ∀ max memory index, max ≤ index → (encode max memory).2 index = memory index
  writes : ∀ max memory, canonical.length ≤ max →
    (encode max memory).1 = .ok canonical.length ∧ (encode max memory).2.read 0 canonical.length = canonical
  decodes : ∀ rest visits, decode (canonical ++ rest) visits = (.ok message, visits)
  empty : message.2.2 = [] → ∀ rest visits, decode (emptyData ++ rest) visits = (.ok message, visits)

/-- The canonical encoding is decoded, whatever follows it. -/
theorem decodeMap_canonical {buf rest : Bytes} (depth visits : Nat) (names : Names name1 name2) (wide : 31 ≤ sizeBits)
    (here : At buf 0 (mapBytes name1 value1 name2 value2 keyData data ++ rest))
    (small : (mapBytes name1 value1 name2 value2 keyData data).length < 2 ^ 31) :
    ∃ span, decodeMap sizeBits depth buf name1 name2 visits = (.ok (value1, value2, span), visits) ∧
      span.elim [] (Span.bytes buf) = data := by
  by_cases filled : data = []
  · subst filled
    rw [mapBytes_empty, List.append_assoc, List.append_assoc] at here
    exact ⟨none, decodeMap_numbers names here, rfl⟩
  · rw [mapBytes_filled filled] at here small
    simp only [List.append_assoc] at here
    obtain ⟨span, decoded, spanned⟩ := decodeMap_data names wide here small
    exact ⟨some span, decoded, spanned⟩

/-- Two messages with the same octets are the same. -/
theorem mapBytes_inj {other : Bytes} {other1 other2 : UInt32} (names : Names name1 name2)
    (small : (mapBytes name1 value1 name2 value2 keyData data).length < 2 ^ 31)
    (same : mapBytes name1 value1 name2 value2 keyData data = mapBytes name1 other1 name2 other2 keyData other) :
    value1 = other1 ∧ value2 = other2 ∧ data = other := by
  have start (octets : Bytes) : At octets 0 (octets ++ []) := ⟨[], rfl, by simp⟩
  have first := decodeMap_canonical 0 0 names (Nat.le_refl 31) (start _) small
  have second := decodeMap_canonical 0 0 names (Nat.le_refl 31) (start _) (same ▸ small)
  rw [same] at first
  obtain ⟨span, decoded, spanned⟩ := first
  obtain ⟨otherSpan, otherDecoded, otherSpanned⟩ := second
  have equal := Except.ok.inj (Prod.mk.inj (decoded.symm.trans otherDecoded)).1
  obtain ⟨rfl, rfl, rfl⟩ := equal
  exact ⟨rfl, rfl, spanned.symm.trans otherSpanned⟩

theorem decodeMap_emptyData {buf rest : Bytes} (depth visits : Nat) (names : Names name1 name2) (wide : 31 ≤ sizeBits)
    (here : At buf 0 (emptyDataBytes name1 value1 name2 value2 ++ rest)) :
    ∃ span, decodeMap sizeBits depth buf name1 name2 visits = (.ok (value1, value2, span), visits) ∧
      span.elim [] (Span.bytes buf) = [] := by
  have small : (emptyDataBytes name1 value1 name2 value2).length < 2 ^ 31 := by
    have short := names.short
    have map := headBytes_length_le mtMap 3
    have text := headBytes_length_le mtTstr
    have first := headBytes_length_le mtUint value1.toNat
    have second := headBytes_length_le mtUint value2.toNat
    have data := headBytes_length_le mtBstr ([] : Bytes).length
    have key : keyData.length = 4 := rfl
    have text1 := text name1.length
    have text2 := text name2.length
    have text3 := text keyData.length
    simp only [emptyDataBytes, numberBytes, keyBytes, dataBytes, bstrBytes, List.length_append, List.length_nil] at *
    omega
  rw [emptyDataBytes] at here small
  simp only [List.append_assoc] at here
  obtain ⟨span, decoded, spanned⟩ := decodeMap_data names wide here small
  exact ⟨some span, decoded, spanned⟩

/-- An encoder and a decoder over the same keys. -/
theorem roundTrip_of_names (names : Names name1 name2) (wide : 31 ≤ sizeBits) (depth : Nat)
    (order : UInt32 → UInt32 → UInt32 × UInt32)
    (small : (mapBytes name1 value1 name2 value2 keyData data).length < 2 ^ 31) :
    RoundTrip
      (fun max memory =>
        ((Buffer.encodeMap sizeBits max name1 value1 name2 value2 keyData data ⟨memory, 0⟩).1,
          (Buffer.encodeMap sizeBits max name1 value1 name2 value2 keyData data ⟨memory, 0⟩).2.memory))
      (fun buf => do
        let (value1, value2, span) ← decodeMap sizeBits depth buf name1 name2
        return ((order value1 value2).1, (order value1 value2).2, span.elim [] (Span.bytes buf)))
      (mapBytes name1 value1 name2 value2 keyData data) (emptyDataBytes name1 value1 name2 value2)
      ((order value1 value2).1, (order value1 value2).2, data) := by
  have written (max : Nat) (memory : Memory) :=
    Buffer.encodeMap_written max name1 value1 name2 value2 keyData data wide small memory
  exact {
    refuses := fun max memory => by
      rw [(written max memory).1]
      split_ifs with room
      · simp only [false_iff]
        omega
      · simp only [true_iff]
        omega
    inside := fun max memory => (written max memory).2.2
    writes := fun max memory room => by
      rw [(written max memory).1, if_pos room, (written max memory).2.1 room]
      exact ⟨rfl, Memory.read_store memory 0 _⟩
    decodes := fun rest visits => by
      obtain ⟨span, decoded, spanned⟩ := decodeMap_canonical depth visits names wide (At.start _) small
      rw [Op.bind_of_ok decoded]
      dsimp only
      rw [spanned]
      rfl
    empty := fun blank rest visits => by
      subst blank
      obtain ⟨span, decoded, spanned⟩ := decodeMap_emptyData depth visits names wide (At.start _)
      rw [Op.bind_of_ok decoded]
      dsimp only
      rw [spanned]
      rfl }

/-- No head that is read as the value is shorter. -/
def Shortest (major : UInt8) (value : Nat) (head : Bytes) : Prop :=
  readHead head 0 = .ok (major, value, head.length) ∧
    ∀ buf off next, readHead buf off = .ok (major, value, next) → off + head.length ≤ next

theorem headBytes_shortest {major : UInt8} (known : Major major) {value : Nat} (small : value < 2 ^ 64) :
    Shortest major value (headBytes major value) := by
  have read : readHead (headBytes major value) 0 = .ok (major, value, (headBytes major value).length) := by
    have here : At (headBytes major value) 0 (headBytes major value ++ []) := ⟨[], rfl, by simp⟩
    rw [here.head known small, Nat.zero_add]
  refine ⟨read, ?_⟩
  intro buf off next other
  have need := Buffer.headNeed_eq major value
  unfold Buffer.headNeed at need
  obtain ⟨_, ⟨narrow, rfl⟩ | ⟨width, known, narrow, rfl⟩⟩ := readHead_shape other
  · rw [if_pos narrow] at need
    omega
  · simp only [List.mem_cons, List.not_mem_nil, or_false] at known
    rcases known with rfl | rfl | rfl | rfl
    all_goals
      split_ifs at need
      all_goals omega

/-- Messages are read back as written, with the shortest heads. -/
theorem message_round_trip (wide : 32 ≤ sizeBits) (depth : Nat) (code seq : UInt32) (data : Bytes) :
    ((requestBytes code seq data).length < 2 ^ 31 →
      RoundTrip (fun max memory => Buffer.encodeRequest sizeBits max memory code seq data)
        (decodeRequest sizeBits depth) (requestBytes code seq data) (emptyDataBytes keyCmd code keySeq seq)
        (code, seq, data)) ∧
    ((responseBytes seq code data).length < 2 ^ 31 →
      RoundTrip (fun max memory => Buffer.encodeResponse sizeBits max memory seq code data)
        (decodeResponse sizeBits depth) (responseBytes seq code data) (emptyDataBytes keyErr code keySeq seq)
        (seq, code, data)) ∧
    ∀ major value, Major major → value < 2 ^ 64 → Shortest major value (headBytes major value) := by
  have enough : 31 ≤ sizeBits := Nat.le_of_succ_le wide
  refine ⟨?_, ?_, fun major value known small => headBytes_shortest known small⟩
  · intro small
    exact roundTrip_of_names ⟨by decide, by decide⟩ enough depth (fun value1 value2 => (value1, value2)) small
  · intro small
    exact roundTrip_of_names ⟨by decide, by decide⟩ enough depth (fun value1 value2 => (value2, value1)) small

/-- A request without data and a response with one octet. -/
theorem message_round_trip_short :
    RoundTrip (fun max memory => Buffer.encodeRequest 32 max memory 3 7 []) (decodeRequest 32 4) (requestBytes 3 7 [])
      (emptyDataBytes keyCmd 3 keySeq 7) (3, 7, []) ∧
    RoundTrip (fun max memory => Buffer.encodeResponse 64 max memory 7 0 [5]) (decodeResponse 64 4)
      (responseBytes 7 0 [5]) (emptyDataBytes keyErr 0 keySeq 7) (7, 0, [5]) :=
  ⟨(message_round_trip (by decide) 4 3 7 []).1 (by decide),
    (message_round_trip (by decide) 4 0 7 [5]).2.1 (by decide)⟩

end RoundTrip

end Cantil.Cbor
