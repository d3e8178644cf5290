import Cantil.Proof.CrlEncoding

namespace Cantil.DerWrite
open Library Library.Der

/-- The two writers put a header in front of a content. -/
def Wrote (tag : UInt8) (content item : Bytes) : Prop :=
  ∃ space left count, (derLen content.length).andThen (derTag tag) ⟨space, content⟩ = .ok (⟨left, item⟩, count)

theorem Wrote.eq_tlv {tag : UInt8} {content item : Bytes} (wrote : Wrote tag content item) :
    item = tlv tag content := by
  obtain ⟨space, left, count, ran⟩ := wrote
  rw [(derLen_writes content.length).andThen (derTag_writes tag)] at ran
  split_ifs at ran
  exact (congrArg (DerBuf.out ·.1) (Except.ok.inj ran)).symm

/-- The reader from item to item, within a budget. -/
def splitItems (wordOctets : Nat) (tag : UInt8) : (budget : Nat) → Bytes → Option (List Bytes)
  | _, [] => some []
  | 0, _ :: _ => none
  | budget + 1, first :: more =>
    match derTlvLenOf wordOctets (first :: more) tag with
    | some (.ok size) =>
      (splitItems wordOctets tag budget ((first :: more).drop size)).map ((first :: more).take size :: ·)
    | _ => none

theorem splitItems_wrote {wordOctets : Nat} (wide : 4 ≤ wordOctets) {tag : UInt8} {items : List Bytes} {budget : Nat}
    (enough : items.length ≤ budget)
    (written : ∀ item ∈ items, ∃ content, content.length < 2 ^ 32 ∧ Wrote tag content item) :
    splitItems wordOctets tag budget items.flatten = some items := by
  induction items generalizing budget with
  | nil => cases budget <;> rfl
  | cons item others ih =>
    obtain ⟨⟨content, fits, wrote⟩, later⟩ := List.forall_mem_cons.mp written
    obtain ⟨budget, rfl⟩ := Nat.exists_eq_add_of_le' ((Nat.succ_le_succ (Nat.zero_le _)).trans enough)
    obtain rfl := wrote.eq_tlv
    have measured := derTlvLenOf_tlv wide tag fits others.flatten
    rw [List.flatten_cons, tlv, List.cons_append, splitItems, ← List.cons_append, ← tlv, measured]
    dsimp only
    rw [List.drop_left, List.take_left, ih (Nat.le_of_succ_le_succ enough) later]
    rfl

/-- Both widths of `size_t`, four and eight octets, are instances. -/
theorem tlvLen_inverts_writer (wordOctets : Nat) (wide : 4 ≤ wordOctets) :
    (∀ available tag, ∃ outcome, derTlvLenOf wordOctets available tag = some outcome ∧
      ∀ size, outcome = .ok size → 2 ≤ size ∧ size ≤ available.length) ∧
    (∀ tag content item rest, content.length < 2 ^ 32 → Wrote tag content item →
      derTlvLenOf wordOctets (item ++ rest) tag = some (.ok item.length)) ∧
    ∀ items budget, (∀ item ∈ items, ∃ content, content.length < 2 ^ 32 ∧ Wrote asn1Sequence content item) →
      items.length ≤ budget → splitItems wordOctets asn1Sequence budget items.flatten = some items := by
  refine ⟨derTlvLenOf_total, ?_, fun items budget written enough => splitItems_wrote wide enough written⟩
  intro tag content item rest fits wrote
  rw [wrote.eq_tlv]
  exact derTlvLenOf_tlv wide tag fits rest

/-- Two sequences in a row are taken apart again. -/
theorem two_sequences_split : splitItems 4 asn1Sequence 2 [0x30, 0x00, 0x30, 0x01, 0x05] =
    some [[0x30, 0x00], [0x30, 0x01, 0x05]] := by
  refine (tlvLen_inverts_writer 4 (by decide)).2.2 [[0x30, 0x00], [0x30, 0x01, 0x05]] 2 ?_ (by decide)
  rw [List.forall_mem_cons, List.forall_mem_singleton]
  exact ⟨⟨[], by decide, 2, 0, 2, rfl⟩, [0x05], by decide, 2, 0, 2, rfl⟩

/-- The shortest INTEGER stands in front, or does not fit. -/
def WritesInteger (value : Nat) (buf : DerBuf) (outcome : Option (Except DerError (DerBuf × Nat))) : Prop :=
  ∃ content, Shortest value content ∧
    let encoding := tlv asn1Integer content
    outcome = some (if encoding.length ≤ buf.space then
      .ok (⟨buf.space - encoding.length, encoding ++ buf.out⟩, encoding.length) else .error .bufTooSmall)

/-- `none` is the octet read outside an empty magnitude. -/
def derMpintFrom (given : Bytes) (buf : DerBuf) : Option (Except DerError (DerBuf × Nat)) :=
  let val := stripZeros given
  let len := if val.length = 0 then 1 else val.length
  if len > buf.space then some (.error .bufTooSmall)
  else if len > val.length then none
  else some (((derRaw val).andThen derSign).wrap asn1Integer buf)

/-- What was given is not empty, so no other octet is read. -/
theorem derMpintFrom_eq {given : Bytes} (some : given ≠ []) (buf : DerBuf) :
    derMpintFrom given buf = Option.some (derMpint given buf) := by
  have kept : (stripZeros given).length ≠ 0 := by
    rw [(Ca.stripZeros_shortest some).1]
    exact fun none => minimalBytes_ne_nil _ (List.length_eq_zero_iff.mp none)
  simp only [derMpintFrom, if_neg kept, derMpint, Nat.lt_irrefl, gt_iff_lt, if_false]
  split_ifs with full
  · simp [Writer.wrap, Writer.andThen, derRaw, full, bind, Except.bind]
  · rfl

/-- Integers are written right, except an empty magnitude with room. -/
theorem integers_written_iff (value : UInt32) (given : Bytes) (buf : DerBuf) :
    (WritesInteger value.toNat buf (some (derInt value buf)) ∧
      WritesInteger (bigEndianValue given) buf (derMpintFrom given buf)) ↔ given ≠ [] ∨ buf.space = 0 := by
  have small : WritesInteger value.toNat buf (some (derInt value buf)) :=
    ⟨_, positive_minimalBytes_shortest _, congrArg some (derInt_writes value buf)⟩
  rw [and_iff_right small]
  by_cases empty : given = []
  · subst empty
    by_cases full : buf.space = 0
    · refine iff_of_true ⟨_, positive_minimalBytes_shortest _, ?_⟩ (.inr full)
      simp [derMpintFrom, stripZeros, full, tlv]
    · have outside : derMpintFrom [] buf = none := by simp [derMpintFrom, stripZeros, full]
      rw [outside]
      refine iff_of_false ?_ (by simp [full])
      rintro ⟨_, _, written⟩
      cases written
  · rw [derMpintFrom_eq empty]
    exact iff_of_true ⟨_, positive_minimalBytes_shortest _, congrArg some (Ca.derMpint_writes empty buf)⟩
      (.inl empty)

/-- An octet behind an empty magnitude is written as its value. -/
theorem empty_magnitude_overread : derMpintFrom [] ⟨3, []⟩ = none ∧
    ¬ WritesInteger 0 ⟨3, []⟩ (derMpintFrom [] ⟨3, []⟩) := by
  refine ⟨rfl, ?_⟩
  rintro ⟨_, _, written⟩
  cases written

end Cantil.DerWrite