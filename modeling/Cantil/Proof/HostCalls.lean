import Mathlib.Data.List.TakeWhile
import Cantil.Host.Ca
import Cantil.Proof.Handshake

namespace Cantil.Host
open Library Library.Noise Handshake

/-! The buffer of a receive. -/

/-- The caller's memory. All that opens is written. -/
def recvMemory (suite : Suite) (maxLen : Nat) (state : Session × Link Errno) (memory : Memory) (start : Nat) : Memory :=
  match (sessionRecvTo suite maxLen state).1 with
  | .ok plain => memory.store start plain
  | .error _ => memory

/-- A receive reports and writes no more than the buffer holds. -/
structure WithinBuffer (suite : Suite) (maxLen : Nat) (state : Session × Link Errno) : Prop where
  reported : ∀ received, (sessionRecvTo suite maxLen state).1 = .ok received → received.length ≤ maxLen
  written : ∀ (memory : Memory) (start index : Nat), index < start ∨ start + maxLen ≤ index →
    recvMemory suite maxLen state memory start index = memory index

/-- The buffer is respected exactly when refused or large enough. -/
theorem recv_within_buffer_iff {suite : Suite} (lawful : suite.Lawful) {session : Session} {link after : Link Errno}
    {plain : Bytes} (arrived : Link.recvFrame (maxFramePayload + noiseTagLen) .enobufs link =
      (.ok (suite.encrypt session.rxKey session.rxNonce [] plain), after)) (maxLen : Nat) :
    WithinBuffer suite maxLen (session, link) ↔ maxLen < noiseTagLen ∨ plain.length ≤ maxLen := by
  by_cases room : noiseTagLen ≤ maxLen
  · have received := congrArg Prod.fst (sessionRecvTo_of_frame lawful room arrived)
    constructor
    · intro within
      exact .inr (within.reported plain received)
    · rintro (refused | fits)
      · exact absurd room (Nat.not_le.mpr refused)
      · refine ⟨fun found same => ?_, fun memory start index outside => ?_⟩
        · obtain rfl := Except.ok.inj (received.symm.trans same)
          exact fits
        · simp only [recvMemory, received]
          exact Memory.store_outside (outside.imp_right (Nat.add_le_add_left fits start).trans)
  · have refused : (sessionRecvTo suite maxLen (session, link)).1 = .error .enobufs := by
      simp only [sessionRecvTo, if_pos (Nat.not_le.mp room)]
    refine iff_of_true ⟨fun found same => ?_, fun memory start index _ => ?_⟩ (.inl (Nat.not_le.mp room))
    · rw [refused] at same
      cases same
    · simp only [recvMemory, refused]

/-- A host that has just opened its session. -/
def freshSession : Session := ⟨[], [], 0, 0, [], [], []⟩

/-- A message of the device waits in the transport. -/
def frameOf (plain : Bytes) : Link Errno :=
  ⟨Frame.encode (taggedSuite.encrypt [] 0 [] plain), [], [], .etimedout⟩

/-- A reply of the expected size stays in its buffer. -/
theorem passkey_reply_fits :
    ∃ after, Link.recvFrame (maxFramePayload + noiseTagLen) .enobufs (frameOf [0xA1, 1, 0]) =
        (.ok (taggedSuite.encrypt [] 0 [] [0xA1, 1, 0]), after) ∧
      WithinBuffer taggedSuite 32 (freshSession, frameOf [0xA1, 1, 0]) := by
  have arrived : Link.recvFrame (maxFramePayload + noiseTagLen) .enobufs (frameOf [0xA1, 1, 0]) =
      (.ok (taggedSuite.encrypt [] 0 [] [0xA1, 1, 0]), ⟨[], [], [], .etimedout⟩) := by decide +kernel
  exact ⟨_, arrived, (@recv_within_buffer_iff _ taggedSuite_lawful freshSession _ _ _ arrived 32).mpr
    (.inr (by decide))⟩

/-- The reply of 40 octets is read into 32. -/
theorem passkey_reply_overruns :
    (sessionRecvTo taggedSuite 32 (freshSession, frameOf (List.replicate 40 0))).1 =
        .ok (List.replicate 40 0) ∧
      ¬ WithinBuffer taggedSuite 32 (freshSession, frameOf (List.replicate 40 0)) := by
  have received : (sessionRecvTo taggedSuite 32 (freshSession, frameOf (List.replicate 40 0))).1 =
      .ok (List.replicate 40 0) := by decide +kernel
  exact ⟨received, fun within => absurd (within.reported _ received) (by decide)⟩

/-! The parameters of a certificate. -/

section X509

variable {slot : UInt32} {data : X509Data}

/-- What the device is to hold for the data of the host. -/
def deviceParams (data : X509Data) : Ca.X509Params where
  validityDays := data.validityDays.toNat
  isCa := if data.isCa then 1 else 0
  pathLen := pathLenByte data.pathLen
  keyUsage := data.keyUsage
  cn := data.cn.1
  o := data.o.1
  ou := data.ou.1
  c := data.c.1
  st := data.st.1
  l := data.l.1

/-- The data that the host sends. -/
structure Sendable (data : X509Data) : Prop where
  validityDays : data.validityDays ≠ 0
  named : data.cn.1 ≠ []
  country : data.c.1 = [] ∨ data.c.1.length = 2
  cn : data.cn.1.length ≤ 64
  o : data.o.1.length ≤ 64
  ou : data.ou.1.length ≤ 64
  st : data.st.1.length ≤ 64
  l : data.l.1.length ≤ 64

/-- A text behind its length. -/
def textField (text : CText) : Bytes := UInt8.ofNat text.1.length :: text.1

def x509Fields (data : X509Data) : Bytes :=
  textField data.cn ++ (textField data.o ++ (textField data.ou ++ (textField data.c ++ (textField data.st ++
    textField data.l))))

def x509Body (data : X509Data) : Bytes := x509Head data ++ x509Fields data

theorem cString_text (text : CText) : cString text.1 = text.1 := by
  rw [cString, List.takeWhile_eq_self_iff]
  intro byte inside
  simpa using ne_of_mem_of_not_mem inside text.2

theorem parseStrField_textField {capacity : Nat} {text : CText} (short : text.1.length < capacity)
    (narrow : text.1.length ≤ 64) (rest : Bytes) :
    Ca.parseStrField capacity (textField text ++ rest) = .ok (text.1, rest) := by
  have count : (UInt8.ofNat text.1.length).toNat = text.1.length := by
    rw [UInt8.toNat_ofNat']
    omega
  have room : ¬ (text.1.length ≥ capacity ∨ text.1.length > (text.1 ++ rest).length) := by
    rw [List.length_append]
    omega
  simp only [textField, List.cons_append, Ca.parseStrField, count, if_neg room, List.take_left, List.drop_left]

theorem x509Head_length (data : X509Data) : (x509Head data).length = 6 := by simp [x509Head]

/-- The device reads what the host has put together. -/
theorem x509Parse_body (sendable : Sendable data) : Ca.x509Parse (x509Body data) = .ok (deviceParams data) := by
  have long : ¬ (x509Body data).length < 6 := by
    rw [x509Body, List.length_append, x509Head_length]
    omega
  have validity : bigEndianValue ((x509Body data).take 2) = data.validityDays.toNat := by
    have start : (x509Body data).take 2 = bigEndian 2 data.validityDays.toNat := rfl
    rw [start]
    exact bigEndianValue_bigEndian_of_lt data.validityDays.toNat_lt
  have usage : bigEndianValue (fieldAt 4 2 (x509Body data)) = data.keyUsage.toNat := by
    have behind : fieldAt 4 2 (x509Body data) = bigEndian 2 data.keyUsage.toNat := rfl
    rw [behind]
    exact bigEndianValue_bigEndian_of_lt data.keyUsage.toNat_lt
  have isCa : (x509Body data).getD 2 0 = if data.isCa then 1 else 0 := rfl
  have pathLen : (x509Body data).getD 3 0 = pathLenByte data.pathLen := rfl
  have fields : (x509Body data).drop 6 = x509Fields data := rfl
  have country : data.c.1.length ≤ 2 := by
    rcases sendable.country with none | two
    · simp [none]
    · exact two.le
  have usable : ¬ (data.cn.1 = [] ∨ data.validityDays.toNat = 0) := by
    rintro (empty | zero)
    · exact sendable.named empty
    · exact sendable.validityDays (UInt16.toNat_inj.mp zero)
  have known : ¬ (data.c.1 ≠ [] ∧ data.c.1.length ≠ 2) := by
    rw [not_and_or, not_not, not_not]
    exact sendable.country
  have last : Ca.parseStrField 65 (textField data.l) = .ok (data.l.1, []) := by
    simpa using parseStrField_textField (Nat.lt_succ_of_le sendable.l) sendable.l []
  simp only [Ca.x509Parse, if_neg long, fields, x509Fields, last, bind, Except.bind, pure, Except.pure, cString_text,
    parseStrField_textField (Nat.lt_succ_of_le sendable.cn) sendable.cn,
    parseStrField_textField (Nat.lt_succ_of_le sendable.o) sendable.o,
    parseStrField_textField (Nat.lt_succ_of_le sendable.ou) sendable.ou,
    parseStrField_textField (Nat.lt_succ_of_le country) (country.trans (by decide)),
    parseStrField_textField (Nat.lt_succ_of_le sendable.st) sendable.st, validity, usage, isCa, pathLen, if_neg usable,
    if_neg known, UInt16.ofNat_toNat]
  rfl

theorem x509EmitStr_eq_some {capacity : Nat} {out after : Bytes} {text : CText} :
    x509EmitStr capacity out text = some after ↔
      text.1.length ≤ 64 ∧ out.length + 1 + text.1.length ≤ capacity ∧ out ++ textField text = after := by
  unfold x509EmitStr textField
  split_ifs with long full
  · simp [long]
  · simp [full]
  · simp only [Option.some.injEq, Nat.not_lt.mp long, Nat.not_lt.mp full, true_and]

/-- The host puts the body together when the device takes it. -/
theorem pushKeyX509_eq_some {body : Bytes} : pushKeyX509 slot data = some body ↔
    Sendable data ∧ bigEndian 4 slot.toNat ++ x509Body data = body := by
  unfold pushKeyX509
  constructor
  · intro sent
    split_ifs at sent with never unnamed country
    simp only [Option.bind_eq_bind, Option.bind_eq_some_iff, x509EmitStr_eq_some] at sent
    obtain ⟨_, ⟨cn, _, rfl⟩, _, ⟨o, _, rfl⟩, _, ⟨ou, _, rfl⟩, _, ⟨c, _, rfl⟩, _, ⟨st, _, rfl⟩, l, _, rfl⟩ := sent
    refine ⟨⟨never, fun empty => unnamed (.inl (by rw [empty]; rfl)), ?_, cn, o, ou, st, l⟩, ?_⟩
    · rwa [not_and_or, not_not, not_not, List.length_eq_zero_iff] at country
    · simp only [x509Body, x509Fields, List.append_assoc]
  · rintro ⟨sendable, rfl⟩
    have named : ¬ (data.cn.1.length = 0 ∨ data.cn.1.length > 64) := by
      rw [List.length_eq_zero_iff, not_or]
      exact ⟨sendable.named, Nat.not_lt.mpr sendable.cn⟩
    have country : ¬ (data.c.1.length ≠ 0 ∧ data.c.1.length ≠ 2) := by
      rw [not_and_or, not_not, not_not, List.length_eq_zero_iff]
      exact sendable.country
    have c : data.c.1.length ≤ 64 := by omega
    obtain ⟨never, _, _, cn, o, ou, st, l⟩ := sendable
    have joined : bigEndian 4 slot.toNat ++ x509Head data ++ textField data.cn ++
      textField data.o ++ textField data.ou ++
        textField data.c ++ textField data.st ++ textField data.l = bigEndian 4 slot.toNat ++ x509Body data := by
      simp only [x509Body, x509Fields, List.append_assoc]
    rw [if_neg never, if_neg named, if_neg country]
    simp only [Option.bind_eq_bind, Option.bind_eq_some_iff, x509EmitStr_eq_some]
    refine ⟨_, ⟨cn, ?_, rfl⟩, _, ⟨o, ?_, rfl⟩, _, ⟨ou, ?_, rfl⟩, _, ⟨c, ?_, rfl⟩, _, ⟨st, ?_, rfl⟩, l, ?_, joined⟩
    all_goals
      simp only [List.length_append, bigEndian_length, x509Head_length, textField, List.length_cons, x509RequestMax]
      omega

theorem sendable_of_parsed {body : Bytes} (parsed : Ca.x509Parse body = .ok (deviceParams data)) : Sendable data := by
  have sound := Ca.x509Parse_sound parsed
  refine ⟨fun zero => sound.validity.2 ?_, ?_, ?_, ?_, ?_, ?_, ?_, ?_⟩
  · rw [deviceParams, zero]
    rfl
  · rw [← cString_text]
    exact sound.named
  · rw [← cString_text]
    exact sound.country
  · exact Nat.le_of_lt_succ sound.cn
  · exact Nat.le_of_lt_succ sound.o
  · exact Nat.le_of_lt_succ sound.ou
  · exact Nat.le_of_lt_succ sound.st
  · exact Nat.le_of_lt_succ sound.l

/-- What the host sends is read back, and nothing else. -/
theorem x509_codec (slot : UInt32) (data : X509Data) :
    (∀ body, pushKeyX509 slot data = some body →
        Dispatcher.slotArg body = slot ∧ Ca.x509Parse (body.drop 4) = .ok (deviceParams data)) ∧
      ((pushKeyX509 slot data).isSome ↔ ∃ body, Ca.x509Parse body = .ok (deviceParams data)) := by
  constructor
  · intro body sent
    obtain ⟨sendable, rfl⟩ := pushKeyX509_eq_some.mp sent
    constructor
    · show UInt32.ofNat (bigEndianValue (bigEndian 4 slot.toNat)) = slot
      rw [bigEndianValue_bigEndian_of_lt slot.toNat_lt, UInt32.ofNat_toNat]
    · exact x509Parse_body sendable
  · rw [Option.isSome_iff_exists]
    constructor
    · rintro ⟨body, sent⟩
      exact ⟨_, x509Parse_body (pushKeyX509_eq_some.mp sent).1⟩
    · rintro ⟨body, parsed⟩
      exact ⟨_, pushKeyX509_eq_some.mpr ⟨sendable_of_parsed parsed, rfl⟩⟩

end X509

end Cantil.Host
