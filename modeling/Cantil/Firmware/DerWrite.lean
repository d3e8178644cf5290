import Cantil.Library.Der

namespace Cantil.DerWrite
open Library Library.Der

inductive DerError where
  | bufTooSmall
  | invalidData
  deriving DecidableEq, Repr

/-- Writers move left, so the free space is in front. -/
structure DerBuf where
  space : Nat
  out : Bytes
  deriving DecidableEq, Repr

/-- A writer puts its octets in front and returns their number. -/
abbrev Writer := DerBuf → Except DerError (DerBuf × Nat)

def derRaw (bytes : Bytes) : Writer := fun buf =>
  if bytes.length > buf.space then .error .bufTooSmall
  else .ok (⟨buf.space - bytes.length, bytes ++ buf.out⟩, bytes.length)

def derTag (tag : UInt8) : Writer := fun buf =>
  if buf.space = 0 then .error .bufTooSmall else .ok (⟨buf.space - 1, tag :: buf.out⟩, 1)

/-- The long forms test the space for the whole header first. -/
def derLen (count : Nat) : Writer := fun buf =>
  let header := lengthBytes count
  if buf.space < header.length then .error .bufTooSmall
  else .ok (⟨buf.space - header.length, header ++ buf.out⟩, header.length)

/-- One writer after the other, with the sum of their lengths. -/
def Writer.andThen (first second : Writer) : Writer := fun buf => do
  let (buf, count) ← first buf
  let (buf, more) ← second buf
  return (buf, count + more)

/-- The content, then its length, then the tag. -/
def Writer.wrap (content : Writer) (tag : UInt8) : Writer := fun buf => do
  let (buf, count) ← content buf
  let (buf, header) ← derLen count buf
  let (buf, one) ← derTag tag buf
  return (buf, count + header + one)

/-- The octets of a value, from the last one on. -/
def derIntDigits (value : Nat) : Writer := fun buf =>
  if small : value < 256 then derTag (UInt8.ofNat value) buf
  else (derTag (UInt8.ofNat value)).andThen (derIntDigits (value / 256)) buf
termination_by value
decreasing_by omega

/-- A zero octet keeps a magnitude from reading as negative. -/
def derSign : Writer := fun buf =>
  if 0x80 ≤ buf.out.headD 0 then derTag 0x00 buf else .ok (buf, 0)

/-- The size of the first item, within `size_t`. -/
def derTlvLen (available : Bytes) (tag : UInt8) : Except DerError Nat :=
  match available with
  | first :: length :: body =>
    if first ≠ tag then .error .invalidData
    else if length &&& 0x80 ≠ 0 then
      let places := (length &&& 0x7F).toNat
      if places = 0 ∨ places > 4 ∨ available.length < 2 + places then .error .invalidData
      else
        let content := bigEndianValue (body.take places)
        if content > available.length - (2 + places) then .error .invalidData else .ok (2 + places + content)
    else if length.toNat > available.length - 2 then .error .invalidData
    else .ok (2 + length.toNat)
  | _ => .error .invalidData

section Reader

/-- The item ends behind its content, which has to be there. -/
def closeItem (available : Bytes) (header content : Nat) : Except DerError Nat :=
  if content > available.length - header then .error .invalidData else .ok (header + content)

/-- The octets of a length field behind the two first ones. -/
def readLength (wordOctets : Nat) (available : Bytes) (places : Nat) : Option Nat :=
  (List.range places).foldlM (fun length place => do
    return (length <<< 8 ||| (← available[2 + place]?).toNat) % 256 ^ wordOctets) 0

/-- A read outside of what is available gives `none`. -/
def derTlvLenOf (wordOctets : Nat) (available : Bytes) (tag : UInt8) : Option (Except DerError Nat) := do
  if available.length < 2 then return .error .invalidData
  if (← available[0]?) ≠ tag then return .error .invalidData
  let lead ← available[1]?
  if lead &&& 0x80 = 0 then return closeItem available 2 lead.toNat
  let places := (lead &&& 0x7F).toNat
  if places = 0 ∨ places > wordOctets ∨ available.length < 2 + places then return .error .invalidData
  return closeItem available (2 + places) (← readLength wordOctets available places)

/-- The length is the value of its octets. -/
theorem readLength_eq {wordOctets places : Nat} (first lead : UInt8) {body : Bytes} (narrow : places ≤ wordOctets)
    (inside : places ≤ body.length) :
    readLength wordOctets (first :: lead :: body) places = some (bigEndianValue (body.take places)) := by
  induction places with
  | zero => rfl
  | succ places ih =>
    have here : (first :: lead :: body)[2 + places]? = some body[places] := by
      rw [Nat.add_comm, List.getElem?_cons_succ, List.getElem?_cons_succ, List.getElem?_eq_getElem inside]
    have before := ih (by omega) (by omega)
    have whole : bigEndianValue (body.take (places + 1)) =
        bigEndianValue (body.take places) * 256 + body[places].toNat := by
      rw [List.take_succ_eq_append_getElem inside, bigEndianValue_snoc]
    have small : bigEndianValue (body.take (places + 1)) < 256 ^ wordOctets := by
      refine (bigEndianValue_lt _).trans_le (Nat.pow_le_pow_right (by decide) ?_)
      rw [List.length_take]
      omega
    have joined : bigEndianValue (body.take places) <<< 8 ||| body[places].toNat =
        bigEndianValue (body.take (places + 1)) := by
      rw [whole, ← Nat.shiftLeft_add_eq_or_of_lt body[places].toNat_lt, Nat.shiftLeft_eq]
    unfold readLength at before ⊢
    rw [List.range_succ, List.foldlM_append, before]
    simp [here, joined, Nat.mod_eq_of_lt small]

variable {wordOctets : Nat} {available : Bytes} {tag : UInt8}

/-- Every octet that is read is available. -/
theorem derTlvLenOf_cons (first lead : UInt8) (body : Bytes) :
    derTlvLenOf wordOctets (first :: lead :: body) tag = some (
      let available := first :: lead :: body
      let places := lead.toNat % 128
      if first ≠ tag then .error .invalidData
      else if lead < 0x80 then closeItem available 2 lead.toNat
      else if places = 0 ∨ places > wordOctets ∨ available.length < 2 + places then .error .invalidData
      else closeItem available (2 + places) (bigEndianValue (body.take places))) := by
  have long : ¬ (first :: lead :: body).length < 2 := by simp
  simp only [derTlvLenOf, if_neg long, List.getElem?_cons_zero, List.getElem?_cons_succ, high_iff, low_eq, pure,
    Option.bind_eq_bind, Option.bind_some]
  split_ifs with other short malformed
  · rfl
  · rfl
  · rfl
  · have read : readLength wordOctets (first :: lead :: body) (lead.toNat % 128) = _ :=
      readLength_eq first lead (by omega) (by simp only [List.length_cons] at malformed; omega)
    rw [read]
    rfl

theorem closeItem_bounds {header content size : Nat} (two : 2 ≤ header) (inside : header ≤ available.length)
    (closed : closeItem available header content = .ok size) : 2 ≤ size ∧ size ≤ available.length := by
  unfold closeItem at closed
  split_ifs at closed with long
  obtain rfl := Except.ok.inj closed
  omega

theorem derTlvLenOf_total (available : Bytes) (tag : UInt8) :
    ∃ outcome, derTlvLenOf wordOctets available tag = some outcome ∧
      ∀ size, outcome = .ok size → 2 ≤ size ∧ size ≤ available.length := by
  match available with
  | [] => exact ⟨_, rfl, fun size failed => by cases failed⟩
  | [_] => exact ⟨_, rfl, fun size failed => by cases failed⟩
  | first :: lead :: body =>
    refine ⟨_, derTlvLenOf_cons first lead body, fun size measured => ?_⟩
    dsimp only at measured
    split_ifs at measured with other short malformed
    · exact closeItem_bounds (Nat.le_refl 2) (by simp) measured
    · exact closeItem_bounds (by omega) (by omega) measured

/-- On the device a word has four octets. -/
theorem derTlvLenOf_four (available : Bytes) (tag : UInt8) :
    derTlvLenOf 4 available tag = some (derTlvLen available tag) := by
  match available with
  | [] => rfl
  | [_] => rfl
  | first :: lead :: body =>
    rw [derTlvLenOf_cons, derTlvLen]
    simp only [ne_eq, high_iff, low_eq, closeItem, ite_not]

/-- The reader finds the end of a well-formed element. -/
theorem derTlvLenOf_tlv (wide : 4 ≤ wordOctets) (tag : UInt8) {content : Bytes} (fits : content.length < 2 ^ 32)
    (rest : Bytes) : derTlvLenOf wordOctets (tlv tag content ++ rest) tag = some (.ok (tlv tag content).length) := by
  obtain ⟨lead, field, shape, ⟨short, same, rfl⟩ | ⟨long, places, few, counted, spans, _, same⟩⟩ :=
    lengthBytes_cases fits
  all_goals
    simp only [tlv, shape, List.cons_append, List.nil_append, List.append_assoc, derTlvLenOf_cons, closeItem]
    rw [if_neg (fun other => other rfl)]
    simp only [List.length_cons, List.length_append]
  · rw [if_pos short, same, if_neg (by omega), Nat.add_comm]
  · have width : lead.toNat % 128 = field.length := by omega
    rw [if_neg long, width, List.take_left, same, if_neg (by omega), if_neg (by omega)]
    exact congrArg (some ∘ Except.ok) (by omega)

/-- An item has a header and lies within what is available. -/
theorem derTlvLen_bounds {size : Nat} (measured : derTlvLen available tag = .ok size) :
    2 ≤ size ∧ size ≤ available.length := by
  obtain ⟨outcome, read, bounds⟩ := @derTlvLenOf_total 4 available tag
  rw [derTlvLenOf_four] at read
  exact bounds size ((Option.some.inj read).symm.trans measured)

end Reader

/-- In front of a cut the same whole items are found. -/
theorem derTlvLen_take {available : Bytes} {tag : UInt8} {size limit : Nat} :
    derTlvLen (available.take limit) tag = .ok size ↔ derTlvLen available tag = .ok size ∧ size ≤ limit := by
  by_cases tiny : limit < 2
  · constructor
    · intro measured
      have bounds := derTlvLen_bounds measured
      rw [List.length_take] at bounds
      omega
    · rintro ⟨measured, fits⟩
      have bounds := derTlvLen_bounds measured
      omega
  · obtain ⟨room, rfl⟩ := Nat.exists_eq_add_of_le' (Nat.not_lt.mp tiny)
    match available with
    | [] => simp [derTlvLen]
    | [_] => simp [derTlvLen]
    | first :: length :: body =>
      simp only [derTlvLen, List.take_succ_cons, List.length_cons, List.length_take, List.take_take]
      generalize (length &&& 0x7F).toNat = places
      by_cases header : places ≤ room
      · rw [Nat.min_eq_left header]
        split_ifs <;> simp only [Except.ok.injEq, false_and, iff_false, false_iff, not_and] <;> omega
      · split_ifs <;> simp only [Except.ok.injEq, false_and, iff_false, false_iff, not_and] <;> omega

def asn1Integer : UInt8 := 0x02

def asn1BitString : UInt8 := 0x03

def asn1OctetString : UInt8 := 0x04

def asn1Oid : UInt8 := 0x06

def asn1UtcTime : UInt8 := 0x17

def asn1GeneralizedTime : UInt8 := 0x18

/-- `SEQUENCE` with its constructed bit. -/
def asn1Sequence : UInt8 := 0x30

/-- The context tag 0 with its constructed bit. -/
def asn1Context0 : UInt8 := 0xA0

def derInt (value : UInt32) : Writer :=
  ((derIntDigits value.toNat).andThen derSign).wrap asn1Integer

/-- Leading zeros are dropped while more than one octet is left. -/
def stripZeros : Bytes → Bytes
  | 0 :: second :: rest => stripZeros (second :: rest)
  | bytes => bytes

def derMpint (magnitude : Bytes) : Writer :=
  ((derRaw (stripZeros magnitude)).andThen derSign).wrap asn1Integer

def derOid (oid : Bytes) : Writer := (derRaw oid).wrap asn1Oid

/-- The writer prepends this encoding, or has no room. -/
def Writes (writer : Writer) (encoding : Bytes) : Prop :=
  ∀ buf, writer buf = if encoding.length ≤ buf.space then
    .ok (⟨buf.space - encoding.length, encoding ++ buf.out⟩, encoding.length)
  else .error .bufTooSmall

theorem derRaw_writes (bytes : Bytes) : Writes (derRaw bytes) bytes := by
  intro buf
  unfold derRaw
  split_ifs <;> first | rfl | omega

theorem derLen_writes (count : Nat) : Writes (derLen count) (lengthBytes count) := by
  intro buf
  simp only [derLen]
  split_ifs <;> first | rfl | omega

theorem derTag_writes (tag : UInt8) : Writes (derTag tag) [tag] := by
  intro buf
  simp only [derTag, List.length_singleton]
  split_ifs <;> first | rfl | omega

/-- What is written later stands in front. -/
theorem Writes.andThen {first second : Writer} {left right : Bytes} (firstWrites : Writes first right)
    (secondWrites : Writes second left) : Writes (first.andThen second) (left ++ right) := by
  intro buf
  simp only [Writer.andThen, firstWrites buf, List.length_append]
  by_cases room : right.length ≤ buf.space
  · rw [if_pos room]
    simp only [bind, Except.bind, secondWrites _]
    by_cases more : left.length ≤ buf.space - right.length
    · rw [if_pos more, if_pos (by omega)]
      simp only [pure, Except.pure, List.append_assoc, Except.ok.injEq, Prod.mk.injEq,
        DerBuf.mk.injEq, and_true]
      omega
    · rw [if_neg more, if_neg (by omega)]
  · rw [if_neg room, if_neg (by omega)]
    rfl

theorem Writes.wrap {content : Writer} {encoding : Bytes} (writes : Writes content encoding)
    (tag : UInt8) : Writes (content.wrap tag) (tlv tag encoding) := by
  intro buf
  have all := (writes.andThen (derLen_writes encoding.length)).andThen (derTag_writes tag) buf
  have split : content.wrap tag buf =
      ((content.andThen (derLen encoding.length)).andThen (derTag tag)) buf := by
    simp only [Writer.wrap, Writer.andThen, writes buf]
    split
    · simp only [bind, Except.bind]
      cases derLen encoding.length _ <;> rfl
    · rfl
  rw [split, all]
  rfl

/-- The sign octet goes in front of a magnitude that needs it. -/
theorem Writes.sign {content : Writer} {magnitude : Bytes} (writes : Writes content magnitude)
    (some : magnitude ≠ []) : Writes (content.andThen derSign) (positive magnitude) := by
  intro buf
  obtain ⟨first, rest, rfl⟩ := List.exists_cons_of_ne_nil some
  by_cases high : 0x80 ≤ first
  · have padded := writes.andThen (derTag_writes 0x00) buf
    have encoding : positive (first :: rest) = [0x00] ++ (first :: rest) := by
      simp [positive, high]
    rw [encoding, ← padded]
    simp only [Writer.andThen, writes buf]
    split
    · simp [bind, Except.bind, derSign, high]
    · rfl
  · have encoding : positive (first :: rest) = first :: rest := by
      simp [positive, high]
    rw [encoding]
    simp only [Writer.andThen, writes buf]
    split
    · simp [bind, Except.bind, derSign, high, pure, Except.pure]
    · rfl

theorem derIntDigits_writes (value : Nat) : Writes (derIntDigits value) (minimalBytes value) := by
  induction value using Nat.strong_induction_on with
  | _ value ih =>
    unfold minimalBytes
    split
    case isTrue small =>
      have one : derIntDigits value = derTag (UInt8.ofNat value) := by
        funext buf
        rw [derIntDigits, dif_pos small]
      rw [one]
      exact derTag_writes _
    case isFalse large =>
      have more : derIntDigits value =
          (derTag (UInt8.ofNat value)).andThen (derIntDigits (value / 256)) := by
        funext buf
        rw [derIntDigits, dif_neg large]
      rw [more]
      exact (derTag_writes _).andThen (ih (value / 256) (by omega))

theorem derInt_writes (value : UInt32) :
    Writes (derInt value) (tlv asn1Integer (positive (minimalBytes value.toNat))) :=
  ((derIntDigits_writes value.toNat).sign (minimalBytes_ne_nil _)).wrap asn1Integer

theorem derOid_writes (oid : Bytes) : Writes (derOid oid) (tlv asn1Oid oid) :=
  (derRaw_writes oid).wrap asn1Oid

end Cantil.DerWrite
