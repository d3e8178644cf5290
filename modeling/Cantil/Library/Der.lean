import Cantil.Library.Bytes

namespace Library.Der

/-- The length octets of an element. -/
def lengthBytes (count : Nat) : Bytes :=
  if count < 0x80 then [UInt8.ofNat count]
  else if count ≤ 0xFF then 0x81 :: bigEndian 1 count
  else if count ≤ 0xFFFF then 0x82 :: bigEndian 2 count
  else if count ≤ 0xFFFFFF then 0x83 :: bigEndian 3 count
  else 0x84 :: bigEndian 4 count

/-- An element is its tag, its length and its content. -/
def tlv (tag : UInt8) (content : Bytes) : Bytes := tag :: (lengthBytes content.length ++ content)

/-- The content of the given length and what follows it. -/
def takeContent (tag : UInt8) (count : Nat) (rest : Bytes) : Option (UInt8 × Bytes × Bytes) :=
  if count ≤ rest.length then some (tag, rest.take count, rest.drop count) else none

/-- The first element: its tag, its content and what follows it. -/
def readTlv : Bytes → Option (UInt8 × Bytes × Bytes)
  | tag :: first :: rest =>
    if first < 0x80 then takeContent tag first.toNat rest
    else
      let width := first.toNat - 0x80
      if width = 0 ∨ width > 4 ∨ width > rest.length then none
      else takeContent tag (bigEndianValue (rest.take width)) (rest.drop width)
  | _ => none

/-- The elements in a row, as long as the budget lasts. -/
def readAll : (budget : Nat) → Bytes → Option (List (UInt8 × Bytes))
  | _, [] => some []
  | 0, _ :: _ => none
  | budget + 1, first :: rest => do
      let (tag, content, after) ← readTlv (first :: rest)
      let others ← readAll budget after
      return (tag, content) :: others

/-- A zero goes in front where the first octet reads as a sign. -/
def positive (magnitude : Bytes) : Bytes :=
  if 0x80 ≤ magnitude.headD 0 then 0 :: magnitude else magnitude

/-- The shortest magnitude of a value. Zero takes one octet. -/
def minimalBytes (value : Nat) : Bytes :=
  if value < 256 then [UInt8.ofNat value]
  else minimalBytes (value / 256) ++ [UInt8.ofNat value]
termination_by value
decreasing_by omega

/-- The sign octet does not change the value. -/
theorem bigEndianValue_positive (magnitude : Bytes) :
    bigEndianValue (positive magnitude) = bigEndianValue magnitude := by
  unfold positive
  split
  · simp [bigEndianValue]
  · rfl

theorem bigEndianValue_minimalBytes (value : Nat) : bigEndianValue (minimalBytes value) = value := by
  induction value using Nat.strong_induction_on with
  | _ value ih =>
    unfold minimalBytes
    split
    case isTrue small => simp [bigEndianValue, Nat.mod_eq_of_lt small]
    case isFalse large =>
      rw [bigEndianValue_snoc, ih (value / 256) (by omega), UInt8.toNat_ofNat']
      omega

theorem bigEndianValue_pos {bytes : Bytes} (lead : bytes.headD 0 ≠ 0) : 0 < bigEndianValue bytes := by
  cases bytes with
  | nil => exact absurd rfl lead
  | cons first rest =>
    have positive : 0 < first.toNat := Nat.pos_of_ne_zero fun zero => lead (UInt8.toNat_inj.mp zero)
    exact Nat.lt_of_lt_of_le (Nat.mul_pos positive (Nat.pow_pos (by decide))) (Nat.le_add_right _ _)

/-- Without a zero in front a magnitude is the shortest. -/
theorem minimalBytes_bigEndianValue {bytes : Bytes} (lead : bytes.headD 0 ≠ 0 ∨ bytes.length = 1) :
    minimalBytes (bigEndianValue bytes) = bytes := by
  induction bytes using List.reverseRecOn with
  | nil => simp at lead
  | append_singleton front last ih =>
    have low := last.toNat_lt
    rw [bigEndianValue_snoc]
    cases front with
    | nil => simp [minimalBytes, bigEndianValue, low]
    | cons first rest =>
      have heads : (first :: rest).headD 0 ≠ 0 := by simpa using lead
      have some := bigEndianValue_pos heads
      have same : UInt8.ofNat (bigEndianValue (first :: rest) * 256 + last.toNat) = last := by
        rw [← UInt8.toNat_inj, UInt8.toNat_ofNat']
        omega
      rw [minimalBytes, if_neg (by omega), same, Nat.mul_comm, Nat.mul_add_div (by decide),
        Nat.div_eq_of_lt low, Nat.add_zero, ih (.inl heads)]

/-- The number of an INTEGER, whose first bit is the sign. -/
def integerValue : Bytes → Int
  | [] => 0
  | first :: rest => bigEndianValue (first :: rest) - if 0x80 ≤ first then (256 : Int) ^ (rest.length + 1) else 0

/-- Every other content of an INTEGER of this value is longer. -/
def Shortest (value : Nat) (content : Bytes) : Prop :=
  content ≠ [] ∧ integerValue content = value ∧
    ∀ other ≠ [], integerValue other = value → other ≠ content → content.length < other.length

/-- Without a sign bit a content stands for its magnitude. -/
theorem integerValue_eq_iff {first : UInt8} {rest : Bytes} {value : Nat} :
    integerValue (first :: rest) = value ↔ first < 0x80 ∧ bigEndianValue (first :: rest) = value := by
  have below := bigEndianValue_lt (first :: rest)
  rw [List.length_cons] at below
  simp only [integerValue]
  split_ifs with negative
  · have high : ¬ first < 0x80 := UInt8.not_lt.mpr negative
    have below : (bigEndianValue (first :: rest) : Int) < 256 ^ (rest.length + 1) := by exact_mod_cast below
    simp only [high, false_and, iff_false]
    omega
  · simp [UInt8.not_le.mp negative]

/-- Octets of a positive number are the shortest or longer. -/
theorem eq_or_longer (first : UInt8) (rest : Bytes) (low : first < 0x80) :
    let shortest := positive (minimalBytes (bigEndianValue (first :: rest)))
    first :: rest = shortest ∨ shortest.length < (first :: rest).length := by
  have unsigned : positive (first :: rest) = first :: rest := if_neg (UInt8.not_le.mpr low)
  induction rest generalizing first with
  | nil => exact .inl (by rw [minimalBytes_bigEndianValue (.inr rfl), unsigned])
  | cons second more ih =>
    by_cases lead : first = 0
    · subst lead
      have same : bigEndianValue (0 :: second :: more) = bigEndianValue (second :: more) := by simp [bigEndianValue]
      rw [same]
      by_cases small : second < 0x80
      · refine .inr ?_
        rcases ih second small (if_neg (UInt8.not_le.mpr small)) with equal | shorter
        · rw [← equal, List.length_cons]
          exact Nat.lt_succ_self _
        · exact Nat.lt_succ_of_lt shorter
      · have high := UInt8.not_lt.mp small
        have some : (second :: more).headD 0 ≠ 0 := by
          rintro rfl
          exact absurd high (by decide)
        rw [minimalBytes_bigEndianValue (.inl some)]
        exact .inl (if_pos high).symm
    · have whole : (first :: second :: more).headD 0 ≠ 0 := lead
      exact .inl (by rw [minimalBytes_bigEndianValue (.inl whole), unsigned])

theorem minimalBytes_ne_nil (value : Nat) : minimalBytes value ≠ [] := by
  unfold minimalBytes
  split <;> simp

theorem positive_minimalBytes_shortest (value : Nat) : Shortest value (positive (minimalBytes value)) := by
  obtain ⟨first, rest, magnitude⟩ := List.exists_cons_of_ne_nil (minimalBytes_ne_nil value)
  have denotes : bigEndianValue (first :: rest) = value := by rw [← magnitude, bigEndianValue_minimalBytes]
  have split : ∃ lead others, positive (minimalBytes value) = lead :: others ∧ lead < 0x80 := by
    rw [magnitude, positive, List.headD_cons]
    split_ifs with high
    · exact ⟨0, _, rfl, by decide⟩
    · exact ⟨first, rest, rfl, UInt8.not_le.mp high⟩
  obtain ⟨lead, others, content, low⟩ := split
  have own : bigEndianValue (lead :: others) = value := by
    rw [← content, bigEndianValue_positive, bigEndianValue_minimalBytes]
  refine ⟨by simp [content], ?_, ?_⟩
  · rw [content]
    exact integerValue_eq_iff.mpr ⟨low, own⟩
  · intro other some same different
    obtain ⟨start, more, rfl⟩ := List.exists_cons_of_ne_nil some
    obtain ⟨unsigned, equal⟩ := integerValue_eq_iff.mp same
    rcases eq_or_longer start more unsigned with here | longer
    · rw [equal] at here
      exact absurd here different
    · rwa [equal] at longer

/-- A length has one octet, or as few as it needs. -/
theorem lengthBytes_cases {count : Nat} (fits : count < 2 ^ 32) : ∃ lead field, lengthBytes count = lead :: field ∧
    ((lead < 0x80 ∧ lead.toNat = count ∧ field = []) ∨ (¬ lead < 0x80 ∧ ∃ places < 4, lead.toNat = 0x81 + places ∧
      field.length = places + 1 ∧ 256 ^ places ≤ count ∧ bigEndianValue field = count)) := by
  have long (places : Nat) (few : places < 4) (least : 256 ^ places ≤ count) (holds : count < 256 ^ (places + 1)) :
      ¬ UInt8.ofNat (0x81 + places) < 0x80 ∧ ∃ width < 4, (UInt8.ofNat (0x81 + places)).toNat = 0x81 + width ∧
        (bigEndian (places + 1) count).length = width + 1 ∧ 256 ^ width ≤ count ∧
        bigEndianValue (bigEndian (places + 1) count) = count := by
    have lead : (UInt8.ofNat (0x81 + places)).toNat = 0x81 + places :=
      UInt8.toNat_ofNat_of_lt' (show 0x81 + places < 256 by omega)
    refine ⟨?_, places, few, lead, bigEndian_length _ _, least, bigEndianValue_bigEndian_of_lt holds⟩
    rw [UInt8.lt_iff_toNat_lt, lead]
    exact Nat.not_lt.mpr (Nat.le_add_right_of_le (by decide))
  unfold lengthBytes
  split_ifs with short one two three
  · have same : (UInt8.ofNat count).toNat = count := UInt8.toNat_ofNat_of_lt' (short.trans (by decide))
    refine ⟨_, _, rfl, .inl ⟨?_, same, rfl⟩⟩
    rw [UInt8.lt_iff_toNat_lt, same]
    exact short
  · exact ⟨_, _, rfl, .inr (long 0 (by omega) (by omega) (by omega))⟩
  · exact ⟨_, _, rfl, .inr (long 1 (by omega) (by omega) (by omega))⟩
  · exact ⟨_, _, rfl, .inr (long 2 (by omega) (by omega) (by omega))⟩
  · exact ⟨_, _, rfl, .inr (long 3 (by omega) (by omega) (by omega))⟩

theorem takeContent_append (tag : UInt8) (content rest : Bytes) :
    takeContent tag content.length (content ++ rest) = some (tag, content, rest) := by
  simp [takeContent]

/-- The first element is read back with the rest. -/
theorem readTlv_tlv (tag : UInt8) {content : Bytes} (rest : Bytes) (fits : content.length < 2 ^ 32) :
    readTlv (tlv tag content ++ rest) = some (tag, content, rest) := by
  obtain ⟨lead, field, shape, ⟨short, same, rfl⟩ | ⟨long, places, few, counted, spans, _, same⟩⟩ :=
    lengthBytes_cases fits
  · simp only [tlv, shape, List.cons_append, List.nil_append, readTlv]
    rw [if_pos short, same, takeContent_append]
  · have width : lead.toNat - 0x80 = field.length := by omega
    have inside : ¬ (field.length = 0 ∨ field.length > 4 ∨ field.length > (field ++ (content ++ rest)).length) := by
      rw [List.length_append]
      omega
    simp only [tlv, shape, List.cons_append, List.append_assoc, readTlv]
    rw [if_neg long, width, if_neg inside, List.take_left, List.drop_left, same, takeContent_append]

/-- The other elements are read from what follows the first. -/
theorem readAll_tlv (tag : UInt8) {content : Bytes} (rest : Bytes) (budget : Nat)
    (fits : content.length < 2 ^ 32) :
    readAll (budget + 1) (tlv tag content ++ rest) =
      (readAll budget rest).map fun others => (tag, content) :: others := by
  have first := readTlv_tlv tag rest fits
  simp only [tlv, List.cons_append, List.append_assoc] at first ⊢
  cases others : readAll budget rest <;> simp [readAll, first, others]

/-- A list of elements is read back element by element. -/
theorem readAll_flatMap (elements : List (UInt8 × Bytes)) (budget : Nat)
    (enough : elements.length ≤ budget) (fit : ∀ element ∈ elements, element.2.length < 2 ^ 32) :
    readAll budget (elements.flatMap fun element => tlv element.1 element.2) = some elements := by
  induction elements generalizing budget with
  | nil => cases budget <;> rfl
  | cons element rest ih =>
    cases budget with
    | zero => cases enough
    | succ budget =>
      have others := ih budget (by simpa using enough)
        fun element held => fit element (List.mem_cons_of_mem _ held)
      rw [List.flatMap_cons, readAll_tlv element.1 _ budget (fit element List.mem_cons_self), others]
      rfl

end Library.Der
