import Cantil.Common.CborDecode

namespace Cantil.Cbor
open Library Walker

/-! Every invocation of `skip_item` is counted. -/

section Counting

theorem repeated_respects {step : Nat → Visit Nat} (steps : ∀ start, Op.Respects (· ≤ ·) (step start)) (count : Nat) :
    ∀ start, Op.Respects (· ≤ ·) (repeated step count start) := by
  induction count with
  | zero => exact fun start => .pure _
  | succ count ih => exact fun start => (steps start).bind ih

/-- The count never goes back, and an item counts once at least. -/
theorem skipItemWith_counts (stringEnd : StringEnd) (buf : Bytes) (depth : Nat) :
    ∀ off visits, visits ≤ (skipItemWith stringEnd buf depth off visits).2 ∧
      (0 < depth → visits < (skipItemWith stringEnd buf depth off visits).2) := by
  induction depth with
  | zero => exact fun off visits => ⟨Nat.le_refl _, fun positive => absurd positive (Nat.lt_irrefl 0)⟩
  | succ depth ih =>
    intro off visits
    have inner (start : Nat) : Op.Respects (· ≤ ·) (skipItemWith stringEnd buf depth start) :=
      fun visits => (ih start visits).1
    have more : visits + 1 ≤ (skipItemWith stringEnd buf (depth + 1) off visits).2 := by
      refine (.read fun head => ?_ : Op.Respects (· ≤ ·) _) (visits + 1)
      dsimp only
      split_ifs
      · exact .pure _
      · exact .of_reader
      · exact repeated_respects inner _ _
      · exact repeated_respects inner _ _
      · exact .fail _
    exact ⟨Nat.le_of_succ_le more, fun _ => more⟩

end Counting

/-! The decoder in unbounded arithmetic. -/

variable {visits next : Nat}

section Reference

variable {buf : Bytes}

theorem exactEnd_pays {off value : Nat} (inside : off ≤ buf.length) :
    Pays buf.length off visits ((.lift (exactEnd buf.length off value) : Visit Nat) visits) where
  ahead := by
    intro stop found
    obtain ⟨rfl, within, _⟩ := exactEnd_ok found
    dsimp only [Op.lift_apply]
    omega
  owes := by
    dsimp only [Op.lift_apply]
    omega

/-- Each invocation takes an octet, up to the one that fails. -/
theorem skipItemWith_pays (buf : Bytes) (depth : Nat) :
    ∀ off visits, off ≤ buf.length →
      Pays buf.length off visits (skipItemWith exactEnd buf depth off visits) := by
  induction depth with
  | zero =>
    intro off visits inside
    exact ⟨fun _ found => (by cases found), by show visits + off ≤ _; omega⟩
  | succ depth ih =>
    intro off visits inside
    rw [skipItemWith, Op.bind_apply]
    dsimp only [visit]
    rw [Op.bind_apply, reading, Op.lift_apply]
    rcases read : readHead buf off with error | ⟨major, value, next⟩
    · exact ⟨fun _ found => (by cases found), by show visits + 1 + off ≤ _; omega⟩
    · obtain ⟨forward, within, _⟩ := readHead_bounds read
      dsimp only [Except.mapError]
      apply Pays.of_later (by omega : visits + 1 + off ≤ visits + next) (Nat.le_of_lt forward)
      split_ifs
      · exact pays_here within
      · exact exactEnd_pays within
      · exact repeated_pays ih _ _ _ within
      · exact repeated_pays ih _ _ _ within
      · exact ⟨fun _ found => (by cases found), by show visits + 1 + next ≤ _; omega⟩

/-- No item is nested deeper than the octets that are left. -/
theorem skipItemWith_shallow (buf : Bytes) (depth : Nat) :
    ∀ off visits, off ≤ buf.length → buf.length < depth + off →
      (skipItemWith exactEnd buf depth off visits).1 ≠ .error .tooDeep := by
  induction depth with
  | zero => omega
  | succ depth ih =>
    intro off visits inside room
    rw [skipItemWith, Op.bind_apply]
    dsimp only [visit]
    rw [Op.bind_apply, reading, Op.lift_apply]
    rcases read : readHead buf off with error | ⟨major, value, next⟩
    · intro ended
      cases ended
    · obtain ⟨forward, within, _⟩ := readHead_bounds read
      have deeper (count : Nat) :=
        repeated_avoids .tooDeep next (skipItemWith_pays buf depth)
          (fun start visits above inside => ih start visits inside (by omega)) count next (visits + 1)
          (Nat.le_refl _) within
      dsimp only [Except.mapError]
      split_ifs
      · intro ended
        cases ended
      · rw [exactEnd]
        split_ifs
        all_goals
          intro ended
          cases ended
      · exact deeper _
      · exact deeper _
      · intro ended
        cases ended

/-- A string whose end lies beyond 64 bits stands at the offset. -/
def overlong (buf : Bytes) (off : Nat) : Bool :=
  match readHead buf off with
  | .ok (major, value, next) => (major == mtBstr || major == mtTstr) && decide (2 ^ 64 ≤ next + value)
  | .error _ => false

theorem overlong_of_head {off value : Nat} {major : UInt8} (read : readHead buf off = .ok (major, value, next)) :
    overlong buf off ↔ (major = mtBstr ∨ major = mtTstr) ∧ 2 ^ 64 ≤ next + value := by
  simp [overlong, read]

/-- The walk comes to an overlong string only where one stands. -/
theorem skipItemWith_bounded (plain : ∀ off ≤ buf.length, ¬ overlong buf off) (depth : Nat) :
    ∀ off visits, off ≤ buf.length → (skipItemWith exactEnd buf depth off visits).1 ≠ .error .overlong := by
  induction depth with
  | zero => exact fun off visits _ ended => by cases ended
  | succ depth ih =>
    intro off visits inside
    rw [skipItemWith, Op.bind_apply]
    dsimp only [visit]
    rw [Op.bind_apply, reading, Op.lift_apply]
    rcases read : readHead buf off with error | ⟨major, value, next⟩
    · intro ended
      cases ended
    · obtain ⟨_, within, _⟩ := readHead_bounds read
      have inner (count : Nat) :=
        repeated_avoids .overlong 0 (skipItemWith_pays buf depth)
          (fun start visits _ inside => ih start visits inside) count next (visits + 1) (Nat.zero_le _) within
      dsimp only [Except.mapError]
      split_ifs with number string
      · intro ended
        cases ended
      · have short : ¬ 2 ^ 64 ≤ next + value :=
          fun wraps => plain off inside ((overlong_of_head read).mpr ⟨string, wraps⟩)
        rw [exactEnd]
        split_ifs
        all_goals
          intro ended
          cases ended
      · exact inner _
      · exact inner _
      · intro ended
        cases ended

end Reference

/-! The code keeps to the reference until that one comes to an overlong string. -/

variable {stringEnd : StringEnd} {wanted : UInt8} {span : Span} {Value : Type}

section Machine

variable {buf : Bytes} {sizeBits : Nat}
variable {off stop : Nat}

theorem stringEnd_follows (fits : buf.length < 2 ^ sizeBits) (off value : Nat) :
    Follows .overlong (.lift (machineEnd sizeBits buf.length off value) : Visit Nat)
      (.lift (exactEnd buf.length off value)) := by
  intro visits allowed
  have short : off + value < 2 ^ 64 := by
    by_contra wraps
    rw [exactEnd, if_pos (Nat.not_lt.mp wraps)] at allowed
    exact allowed rfl
  rw [machineEnd_eq fits short]

theorem skipItem_follows (fits : buf.length < 2 ^ sizeBits) (depth : Nat) :
    ∀ off, Follows .overlong (skipItem sizeBits buf depth off) (skipItemWith exactEnd buf depth off) := by
  induction depth with
  | zero => exact fun off => .same _
  | succ depth ih =>
    intro off
    refine (Follows.same _).bind fun _ => (Follows.same _).bind fun (major, value, next) => ?_
    dsimp only
    split_ifs
    · exact .same _
    · exact stringEnd_follows fits next value
    · exact repeated_follows ih _ _
    · exact repeated_follows ih _ _
    · exact .same _

/-- Without overlong strings an item ends inside the buffer. -/
theorem skipItem_inside (fits : buf.length < 2 ^ sizeBits) (plain : ∀ off ≤ buf.length, ¬ overlong buf off)
    {depth after : Nat} (inside : off ≤ buf.length)
    (skipped : skipItem sizeBits buf depth off visits = (.ok stop, after)) : off < stop ∧ stop ≤ buf.length := by
  rw [skipItem_follows fits depth off visits (skipItemWith_bounded plain depth off visits inside)] at skipped
  have counted : visits < (skipItemWith exactEnd buf depth off visits).2 := by
    apply (skipItemWith_counts exactEnd buf depth off visits).2
    cases depth with
    | zero => cases skipped
    | succ depth => exact Nat.succ_pos depth
  exact (skipItemWith_pays buf depth off visits inside).moves (by rw [skipped]) counted

/-- A reader of strings moves on inside the buffer. -/
structure Held (buf : Bytes) (off : Nat) (wanted : UInt8) (span : Span) (stop : Nat) : Prop where
  moves : off < stop ∧ stop ≤ buf.length
  span_inside : span.start + span.length ≤ buf.length
  encoded : readHead buf off = .ok (wanted, span.length, span.start)

/-- A string has the wanted head, and ends where its length says. -/
theorem readString_ok (read : readString stringEnd sizeBits wanted buf off = .ok (span, stop)) :
    ∃ value next, readHead buf off = .ok (wanted, value, next) ∧ stringEnd buf.length next value = .ok stop ∧
      span = ⟨next, value % 2 ^ sizeBits⟩ := by
  unfold readString at read
  rcases head : readHead buf off with error | ⟨major, value, next⟩
  · rw [head] at read
    cases read
  · simp only [head, bind, Except.bind, Except.mapError] at read
    split_ifs at read with other
    obtain rfl : major = wanted := not_not.mp other
    rcases ends : stringEnd buf.length next value with halt | last
    · rw [ends] at read
      cases read
    · rw [ends] at read
      obtain ⟨rfl, rfl⟩ := Prod.mk.inj (Except.ok.inj read)
      exact ⟨value, next, rfl, ends, rfl⟩

theorem readString_inside (fits : buf.length < 2 ^ sizeBits)
    (string : wanted = mtBstr ∨ wanted = mtTstr) (plain : ¬ overlong buf off)
    (read : readString (machineEnd sizeBits) sizeBits wanted buf off = .ok (span, stop)) :
    Held buf off wanted span stop := by
  obtain ⟨value, next, head, ends, rfl⟩ := readString_ok read
  obtain ⟨forward, _, _⟩ := readHead_bounds head
  have short : next + value < 2 ^ 64 := by
    by_contra wraps
    exact plain ((overlong_of_head head).mpr ⟨string, Nat.not_lt.mp wraps⟩)
  rw [machineEnd_eq fits short] at ends
  obtain ⟨rfl, within, _⟩ := exactEnd_ok ends
  have whole : value % 2 ^ sizeBits = value := Nat.mod_eq_of_lt (by omega)
  rw [whole]
  exact ⟨⟨by omega, within⟩, within, head⟩

/-- An overlong string is accepted and leaves the buffer. -/
theorem readString_overlong (wraps : overlong buf off) (object : buf.length < 2 ^ (sizeBits - 1))
    (size : sizeBits = 32 ∨ sizeBits = 64) :
    ∃ wanted span stop, (wanted = mtBstr ∨ wanted = mtTstr) ∧
      readString (machineEnd sizeBits) sizeBits wanted buf off = .ok (span, stop) ∧
      ¬ Held buf off wanted span stop := by
  rcases head : readHead buf off with error | ⟨major, value, next⟩
  · simp [overlong, head] at wraps
  · obtain ⟨string, wraps⟩ := (overlong_of_head head).mp wraps
    obtain ⟨_, within, small⟩ := readHead_bounds head
    have narrow : buf.length < 2 ^ 63 := by
      rcases size with rfl | rfl
      · exact lt_trans object (by decide)
      · exact object
    have passes : ¬ (next + value) % 2 ^ 64 > buf.length := by omega
    refine ⟨major, ⟨next, value % 2 ^ sizeBits⟩, (next + value % 2 ^ sizeBits) % 2 ^ sizeBits, string, ?_, ?_⟩
    · simp only [readString, head, bind, Except.bind, Except.mapError, ne_eq, not_true_eq_false, if_false,
        machineEnd, if_neg passes]
      rfl
    · intro held
      have encoded := held.encoded
      rw [head] at encoded
      have whole : value = value % 2 ^ sizeBits := by
        simpa using encoded
      have span := held.span_inside
      dsimp only at span
      omega

/-- The three readers stay inside the buffer from the offset. -/
structure Inside (sizeBits : Nat) (buf : Bytes) (off : Nat) : Prop where
  bstr : ∀ span stop, readBstr sizeBits buf off = .ok (span, stop) → Held buf off mtBstr span stop
  tstr : ∀ span stop, readTstr sizeBits buf off = .ok (span, stop) → Held buf off mtTstr span stop
  skip : ∀ depth visits stop after, skipItem sizeBits buf depth off visits = (.ok stop, after) →
    off < stop ∧ stop ≤ buf.length

theorem mapError_ok {result : Except Errno Value} {value : Value}
    (mapped : result.mapError Halt.errno = .ok value) : result = .ok value := by
  cases result with
  | error error => cases mapped
  | ok found => exact congrArg _ (Except.ok.inj mapped)

theorem Inside.string (inside : Inside sizeBits buf off)
    (string : wanted = mtBstr ∨ wanted = mtTstr)
    (read : readString (machineEnd sizeBits) sizeBits wanted buf off = .ok (span, stop)) :
    Held buf off wanted span stop := by
  rcases string with rfl | rfl
  · exact inside.bstr span stop (mapError_ok ((readBstr_eq sizeBits buf off).trans read))
  · exact inside.tstr span stop (mapError_ok ((readTstr_eq sizeBits buf off).trans read))

/-- Readers stay inside exactly without an overlong string. -/
theorem readers_inside_iff (size : sizeBits = 32 ∨ sizeBits = 64) (object : buf.length < 2 ^ (sizeBits - 1)) :
    (∀ off ≤ buf.length, Inside sizeBits buf off) ↔ ∀ off ≤ buf.length, ¬ overlong buf off := by
  have fits : buf.length < 2 ^ sizeBits := lt_of_lt_of_le object (Nat.pow_le_pow_right (by decide) (by omega))
  constructor
  · intro inside off within wraps
    obtain ⟨wanted, span, stop, string, read, outside⟩ := readString_overlong wraps object size
    exact outside ((inside off within).string string read)
  · intro plain off within
    have held {wanted : UInt8} (string : wanted = mtBstr ∨ wanted = mtTstr) {result : Except Errno (Span × Nat)}
        (same : result.mapError Halt.errno = readString (machineEnd sizeBits) sizeBits wanted buf off)
        (span : Span) (stop : Nat) (read : result = .ok (span, stop)) : Held buf off wanted span stop := by
      apply readString_inside fits string (plain off within)
      rw [← same, read]
      rfl
    exact {
      bstr := held (.inl rfl) (readBstr_eq sizeBits buf off)
      tstr := held (.inr rfl) (readTstr_eq sizeBits buf off)
      skip := fun _ _ _ _ skipped => skipItem_inside fits plain within skipped }

/-- The head of a byte string of 2^64 - 9 octets. -/
def wrappingString : Bytes := [0x5B, 0xFF, 0xFF, 0xFF, 0xFF, 0xFF, 0xFF, 0xFF, 0xF7]

/-- The nine octets are read as a string that leaves them. -/
theorem wrappingString_leaves :
    readBstr 64 wrappingString 0 = .ok (⟨9, 2 ^ 64 - 9⟩, 0) ∧
      readBstr 32 wrappingString 0 = .ok (⟨9, 2 ^ 32 - 9⟩, 0) ∧
      ¬ Inside 64 wrappingString 0 ∧ ¬ Inside 32 wrappingString 0 := by
  have wide : readBstr 64 wrappingString 0 = .ok (⟨9, 2 ^ 64 - 9⟩, 0) := by decide
  have narrow : readBstr 32 wrappingString 0 = .ok (⟨9, 2 ^ 32 - 9⟩, 0) := by decide
  refine ⟨wide, narrow, ?_, ?_⟩
  · intro inside
    exact absurd (inside.bstr _ _ wide).moves.1 (by decide)
  · intro inside
    exact absurd (inside.bstr _ _ narrow).moves.1 (by decide)

/-- An array of two strings of one octet. -/
def plainArray : Bytes := [0x82, 0x41, 0x07, 0x61, 0x61]

/-- The readers stay inside a plain array. -/
theorem plainArray_inside : plainArray.length = 5 ∧ ∀ off ≤ plainArray.length, Inside 32 plainArray off :=
  ⟨rfl, (readers_inside_iff (.inl rfl) (by decide)).mpr (by decide)⟩

end Machine

/-! The work of decoding a message. -/

section Work

variable {buf name1 name2 : Bytes} {sizeBits : Nat}
variable {off stop depth : Nat}

theorem matchTstr_bounds {text : Bytes} (found : matchTstr buf off text = .ok stop) :
    off ≤ stop ∧ stop ≤ buf.length := by
  unfold matchTstr at found
  rcases head : readHead buf off with error | ⟨major, value, next⟩
  · rw [head] at found
    cases found
  · obtain ⟨forward, _, _⟩ := readHead_bounds head
    simp only [head, bind, Except.bind] at found
    split_ifs at found with other long differs
    obtain rfl := Except.ok.inj found
    omega

theorem readUint32_bounds {value : UInt32} (read : readUint32 buf off = .ok (value, stop)) :
    off ≤ stop ∧ stop ≤ buf.length := by
  unfold readUint32 at read
  rcases head : readHead buf off with error | ⟨major, number, next⟩
  · rw [head] at read
    cases read
  · obtain ⟨forward, within, _⟩ := readHead_bounds head
    simp only [head, bind, Except.bind] at read
    split_ifs at read
    obtain ⟨_, rfl⟩ := Prod.mk.inj (Except.ok.inj read)
    exact ⟨Nat.le_of_lt forward, within⟩

theorem readString_exact_bounds
    (read : readString exactEnd sizeBits wanted buf off = .ok (span, stop)) : off ≤ stop ∧ stop ≤ buf.length := by
  obtain ⟨value, next, head, ends, _⟩ := readString_ok read
  obtain ⟨forward, _, _⟩ := readHead_bounds head
  obtain ⟨rfl, within, _⟩ := exactEnd_ok ends
  exact ⟨by omega, within⟩

theorem mapError_shallow (result : Except Errno Value) :
    result.mapError Halt.errno ≠ .error .tooDeep := by
  cases result with
  | error error | ok value => exact fun ended => by cases ended

theorem readString_shallow : readString exactEnd sizeBits wanted buf off ≠ .error .tooDeep := by
  unfold readString exactEnd
  rcases readHead buf off with error | ⟨major, value, next⟩
  · exact fun ended => by cases ended
  · simp only [bind, Except.bind, Except.mapError]
    split_ifs <;> exact fun ended => by cases ended

/-- What reads, skips and stops keep holds of the loop. -/
theorem decodeEntries_rule (holds : (off visits : Nat) → Except Halt DecodedFields × Nat → Prop)
    (stops : ∀ off visits result, off ≤ buf.length → result ≠ .error .tooDeep → holds off visits (result, visits))
    (advances : ∀ off later visits outcome, off ≤ later → holds later visits outcome → holds off visits outcome)
    (skips : ∀ off visits next, off ≤ buf.length →
      (∀ later after, off ≤ later → later ≤ buf.length → holds later after (next later after)) →
      holds off visits ((skipItemWith exactEnd buf depth off >>= next) visits))
    (entries : Nat) :
    ∀ off fields visits, off ≤ buf.length →
      holds off visits (decodeEntries exactEnd sizeBits depth buf name1 name2 entries off fields visits) := by
  induction entries with
  | zero => exact fun off fields visits inside => stops off visits _ inside fun ended => by cases ended
  | succ entries ih =>
    intro off fields visits inside
    -- A value that is read from a later offset moves on or stops the loop.
    have reads {Value : Type} {result : Except Halt (Value × Nat)} (store : Value → DecodedFields) {place : Nat}
        (ahead : off ≤ place) (shallow : result ≠ .error .tooDeep)
        (bounds : ∀ value stop, result = .ok (value, stop) → place ≤ stop ∧ stop ≤ buf.length) :
        holds off visits ((Op.lift result >>= fun (value, stop) =>
          decodeEntries exactEnd sizeBits depth buf name1 name2 entries stop (store value)) visits) := by
      rcases result with halt | ⟨value, stop⟩
      · exact stops off visits _ inside fun ended => shallow (congrArg _ (Except.error.inj ended))
      · obtain ⟨later, within⟩ := bounds value stop rfl
        exact advances off stop visits _ (Nat.le_trans ahead later) (ih stop _ visits within)
    unfold decodeEntries
    rcases first : matchTstr buf off name1 with _ | place
    · rcases second : matchTstr buf off name2 with _ | place
      · rcases third : matchTstr buf off keyData with _ | place
        · exact skips off visits _ inside fun later after _ within =>
            skips later after _ within fun last visits _ inner => ih last fields visits inner
        · exact reads (fun span => { fields with data := some span }) (matchTstr_bounds third).1 readString_shallow
            fun _ _ => readString_exact_bounds
      · exact reads (fun value => { fields with int2 := some value }) (matchTstr_bounds second).1
          (mapError_shallow _) fun _ _ read => readUint32_bounds (mapError_ok read)
    · exact reads (fun value => { fields with int1 := some value }) (matchTstr_bounds first).1
        (mapError_shallow _) fun _ _ read => readUint32_bounds (mapError_ok read)

/-- Entries take an octet for each invocation. -/
theorem decodeEntries_owes (sizeBits : Nat) (buf name1 name2 : Bytes) (depth entries off : Nat)
    (fields : DecodedFields) (visits : Nat) (inside : off ≤ buf.length) :
    (decodeEntries exactEnd sizeBits depth buf name1 name2 entries off fields visits).2 + off ≤
      visits + buf.length + 1 := by
  apply decodeEntries_rule fun off visits outcome => outcome.2 + off ≤ visits + buf.length + 1
  · omega
  · omega
  · intro off visits next within rest
    exact (skipItemWith_pays buf depth off visits within).bind_owes rest
  · exact inside

theorem messageHead_bounds {entries : Nat} (read : messageHead buf = .ok (entries, off)) :
    0 < off ∧ off ≤ buf.length := by
  unfold messageHead at read
  split_ifs at read
  · cases read
  · rcases head : readHead buf 0 with error | ⟨major, value, next⟩
    · simp [head, bind, Except.bind] at read
    · obtain ⟨forward, within, _⟩ := readHead_bounds head
      simp only [head, bind, Except.bind, pure, Except.pure] at read
      split_ifs at read
      obtain ⟨_, rfl⟩ := Prod.mk.inj (Except.ok.inj read)
      exact ⟨forward, within⟩

/-- No more invocations than octets. -/
theorem decodeMapWith_work (depth : Nat) :
    (decodeMapWith exactEnd sizeBits depth buf name1 name2 0).2 ≤ buf.length := by
  rw [decodeMapWith, Op.bind_apply, reading]
  rcases read : messageHead buf with error | ⟨entries, off⟩
  · exact Nat.zero_le _
  · obtain ⟨positive, inside⟩ := messageHead_bounds read
    have owed := decodeEntries_owes sizeBits buf name1 name2 depth entries off ⟨none, none, none⟩ 0 inside
    apply Nat.le_trans (Nat.le_of_eq (Op.bind_state (fun fields => .lift _) 0))
    omega

/-- The depth that the octets allow is enough. -/
theorem decodeMapWith_shallow (enough : buf.length < depth) :
    (decodeMapWith exactEnd sizeBits depth buf name1 name2 0).1 ≠ .error .tooDeep := by
  rw [decodeMapWith, Op.bind_apply, reading]
  rcases read : messageHead buf with error | ⟨entries, off⟩
  · exact fun ended => by cases ended
  · obtain ⟨_, inside⟩ := messageHead_bounds read
    have shallow : (decodeEntries exactEnd sizeBits depth buf name1 name2 entries off ⟨none, none, none⟩ 0).1 ≠
        .error .tooDeep := by
      apply decodeEntries_rule (fun _ _ outcome => outcome.1 ≠ .error .tooDeep)
      · exact fun _ _ _ _ shallow => shallow
      · exact fun _ _ _ _ _ shallow => shallow
      · intro off visits next within rest
        have item := skipItemWith_shallow buf depth off visits within (by omega)
        have pays := skipItemWith_pays buf depth off visits within
        rw [Op.bind_apply]
        rcases outcome : skipItemWith exactEnd buf depth off visits with ⟨halt | later, after⟩
        · rw [outcome] at item
          exact fun ended => item (congrArg _ (Except.error.inj ended))
        · rw [outcome] at pays
          obtain ⟨forward, inner, _⟩ := pays.ahead later rfl
          exact rest later after forward inner
      · exact inside
    show ((decodeEntries exactEnd sizeBits depth buf name1 name2 entries off ⟨none, none, none⟩ >>= fun fields =>
      reading (requiredFields fields)) 0).1 ≠ _
    rw [Op.bind_apply]
    rcases outcome : decodeEntries exactEnd sizeBits depth buf name1 name2 entries off ⟨none, none, none⟩ 0
      with ⟨halt | fields, after⟩
    · rw [outcome] at shallow
      exact fun ended => shallow (congrArg _ (Except.error.inj ended))
    · exact mapError_shallow _

theorem readString_follows (fits : buf.length < 2 ^ sizeBits) (wanted : UInt8) (off : Nat) :
    Follows .overlong (.lift (readString (machineEnd sizeBits) sizeBits wanted buf off) : Visit (Span × Nat))
      (.lift (readString exactEnd sizeBits wanted buf off)) := by
  intro visits allowed
  unfold readString at allowed ⊢
  rcases head : readHead buf off with error | ⟨major, value, next⟩
  · rfl
  · simp only [head, bind, Except.bind, Except.mapError] at allowed ⊢
    split_ifs at allowed ⊢ with other
    · rfl
    · have short : next + value < 2 ^ 64 := by
        by_contra wraps
        rw [show exactEnd buf.length next value = .error .overlong from if_pos (Nat.not_lt.mp wraps)] at allowed
        exact allowed rfl
      rw [machineEnd_eq fits short]

/-- Two decoders agree where their readers do. -/
theorem decodeMapWith_follows {barred : Halt} {modelEnd : StringEnd} {modelDepth : Nat}
    (strings : ∀ off, Follows barred (.lift (readString stringEnd sizeBits mtBstr buf off) : Visit (Span × Nat))
      (.lift (readString modelEnd sizeBits mtBstr buf off)))
    (items : ∀ off, Follows barred (skipItemWith stringEnd buf depth off) (skipItemWith modelEnd buf modelDepth off)) :
    Follows barred (decodeMapWith stringEnd sizeBits depth buf name1 name2)
      (decodeMapWith modelEnd sizeBits modelDepth buf name1 name2) := by
  have loop (entries : Nat) : ∀ off fields, Follows barred
      (decodeEntries stringEnd sizeBits depth buf name1 name2 entries off fields)
      (decodeEntries modelEnd sizeBits modelDepth buf name1 name2 entries off fields) := by
    induction entries with
    | zero => exact fun off fields => .same _
    | succ entries ih =>
      intro off fields
      unfold decodeEntries
      split
      · exact (Follows.same _).bind fun (value, stop) => ih stop _
      · split
        · exact (Follows.same _).bind fun (value, stop) => ih stop _
        · split
          · exact (strings _).bind fun (span, stop) => ih stop _
          · exact (items _).bind fun later => (items later).bind fun last => ih last fields
  exact (Follows.same _).bind fun (entries, off) => (loop entries off _).bind fun _ => .same _

/-- More depth changes nothing for an item that was read. -/
theorem skipItemWith_deeper (stringEnd : StringEnd) (buf : Bytes) (depth more : Nat) :
    ∀ off, Follows .tooDeep (skipItemWith stringEnd buf (depth + more) off)
      (skipItemWith stringEnd buf depth off) := by
  induction depth with
  | zero => exact fun off visits allowed => absurd rfl allowed
  | succ depth ih =>
    intro off
    rw [Nat.succ_add_eq_add_succ]
    refine (Follows.same _).bind fun _ => (Follows.same _).bind fun (major, value, next) => ?_
    dsimp only
    split_ifs
    · exact .same _
    · exact .same _
    · exact repeated_follows ih _ _
    · exact repeated_follows ih _ _
    · exact .same _

/-- Unbounded decoding meets no string that ends beyond 64 bits. -/
def Plain (sizeBits : Nat) (buf name1 name2 : Bytes) : Prop :=
  (decodeMapWith exactEnd sizeBits (buf.length + 1) buf name1 name2 0).1 ≠ .error .overlong

/-- One outcome, with one invocation per octet at most. -/
def BoundedWork (sizeBits : Nat) (buf name1 name2 : Bytes) : Prop :=
  ∃ result visits, result ≠ .error .tooDeep ∧ visits ≤ buf.length ∧
    ∀ depth, buf.length < depth → decodeMap sizeBits depth buf name1 name2 0 = (result, visits)

/-- Without an overlong string the work is bounded. -/
theorem decodeMap_boundedWork (fits : buf.length < 2 ^ sizeBits) (plain : Plain sizeBits buf name1 name2) :
    BoundedWork sizeBits buf name1 name2 := by
  have machine (depth : Nat) : Follows .overlong (decodeMap sizeBits depth buf name1 name2)
      (decodeMapWith exactEnd sizeBits depth buf name1 name2) :=
    decodeMapWith_follows (readString_follows fits mtBstr) (skipItem_follows fits depth)
  have shallow : (decodeMapWith exactEnd sizeBits (buf.length + 1) buf name1 name2 0).1 ≠ .error .tooDeep :=
    decodeMapWith_shallow (Nat.lt_succ_self buf.length)
  have work : (decodeMapWith exactEnd sizeBits (buf.length + 1) buf name1 name2 0).2 ≤ buf.length :=
    decodeMapWith_work (buf.length + 1)
  refine ⟨_, _, shallow, work, ?_⟩
  intro depth enough
  obtain ⟨more, rfl⟩ := Nat.exists_eq_add_of_lt enough
  have deeper : decodeMapWith exactEnd sizeBits (buf.length + more + 1) buf name1 name2 0 =
      decodeMapWith exactEnd sizeBits (buf.length + 1) buf name1 name2 0 := by
    rw [Nat.add_right_comm]
    exact decodeMapWith_follows (fun _ => .same _) (skipItemWith_deeper exactEnd buf _ more) 0 shallow
  have same := machine (buf.length + more + 1) 0
  rw [deeper] at same
  exact same plain

/-- An array that holds a string ending where it begins. -/
def circularRequest : Bytes := [0xA2, 0x82, 0x5B, 0xFF, 0xFF, 0xFF, 0xFF, 0xFF, 0xFF, 0xFF, 0xF6]

theorem skipItem_of_bstr {value : Nat} (read : readHead buf off = .ok (mtBstr, value, next)) (depth visits : Nat) :
    skipItem sizeBits buf (depth + 1) off visits = (machineEnd sizeBits buf.length next value, visits + 1) := by
  simp only [skipItem, skipItemWith, Op.bind_apply, visit, reading, Op.lift_apply, read, Except.mapError]
  rw [if_neg (by decide), if_pos (.inl trivial), Op.lift_apply]

theorem skipItem_of_array {value : Nat} (read : readHead buf off = .ok (mtArray, value, next))
    (depth visits : Nat) :
    skipItem sizeBits buf (depth + 1) off visits =
      repeated (skipItem sizeBits buf depth) value next (visits + 1) := by
  simp only [skipItem, skipItemWith, Op.bind_apply, visit, reading, Op.lift_apply, read, Except.mapError]
  rfl

/-- The array at 1 is reached again from its first element. -/
theorem circularRequest_loops (size : sizeBits = 32 ∨ sizeBits = 64) (depth : Nat) :
    ∀ visits, (skipItem sizeBits circularRequest depth 1 visits).1 = .error .tooDeep := by
  have array : readHead circularRequest 1 = .ok (mtArray, 2, 2) := by decide
  have string : readHead circularRequest 2 = .ok (mtBstr, 2 ^ 64 - 10, 11) := by decide
  have back : machineEnd sizeBits circularRequest.length 11 (2 ^ 64 - 10) = .ok 1 := by
    rcases size with rfl | rfl
    · decide
    · decide
  induction depth with
  | zero => exact fun visits => rfl
  | succ depth ih =>
    intro visits
    rw [skipItem_of_array array, repeated, Op.bind_apply]
    cases depth with
    | zero => rfl
    | succ depth =>
      rw [skipItem_of_bstr string, back]
      exact Op.bind_error (ih (visits + 1 + 1))

/-- The request is never decoded, whatever the depth. -/
theorem circularRequest_unbounded :
    ¬ BoundedWork 32 circularRequest keyCmd keySeq ∧ ¬ BoundedWork 64 circularRequest keyCmd keySeq := by
  have loops {sizeBits : Nat} (size : sizeBits = 32 ∨ sizeBits = 64) :
      ¬ BoundedWork sizeBits circularRequest keyCmd keySeq := by
    rintro ⟨result, visits, shallow, _, decodes⟩
    have again := circularRequest_loops size 12 0
    have unknown : matchTstr circularRequest 1 keyCmd = .error .einval ∧
        matchTstr circularRequest 1 keySeq = .error .einval ∧
        matchTstr circularRequest 1 keyData = .error .einval := by decide
    have entries : (decodeEntries (machineEnd sizeBits) sizeBits 12 circularRequest keyCmd keySeq 2 1
        ⟨none, none, none⟩ 0).1 = .error .tooDeep := by
      exact Op.bind_error again
    have decoded : (decodeMap sizeBits 12 circularRequest keyCmd keySeq 0).1 = .error .tooDeep := by
      rw [decodeMap, decodeMapWith, Op.bind_apply, reading]
      exact Op.bind_error entries
    rw [decodes 12 (by decide)] at decoded
    exact shallow decoded
  exact ⟨loops (.inl rfl), loops (.inr rfl)⟩

def plainRequest : Bytes :=
  [0xA3, 0x63, 0x63, 0x6D, 0x64, 0x01, 0x63, 0x73, 0x65, 0x71, 0x02, 0x61, 0x78, 0x82, 0x00, 0x41, 0x07]

/-- An unknown key of a plain request is skipped. -/
theorem plainRequest_boundedWork : BoundedWork 32 plainRequest keyCmd keySeq :=
  decodeMap_boundedWork (by decide) (by unfold Plain; decide)

end Work

end Cantil.Cbor
