import Mathlib.Order.Defs.Unbundled

namespace Library

variable {Error Value : Type}

variable {outcome : Except Error Value}

theorem toOption_eq_some {value : Value} :
    outcome.toOption = some value ↔ outcome = .ok value := by
  cases outcome <;> simp [Except.toOption]

theorem toOption_eq_none :
    outcome.toOption = none ↔ ∃ error, outcome = .error error := by
  cases outcome <;> simp [Except.toOption]

/-- A chain of results succeeds in both of its parts. -/
theorem except_bind_ok {Next : Type} {first : Except Error Value} {next : Value → Except Error Next} {result : Next}
    (outcome : (first >>= next) = .ok result) : ∃ value, first = .ok value ∧ next value = .ok result := by
  cases first with
  | error error => cases outcome
  | ok value => exact ⟨value, rfl, outcome⟩

/-- A fallible operation. A failure keeps its state. -/
def Op (State Error Value : Type) : Type := State → Except Error Value × State

namespace Op

variable {State Error Value Next : Type}
variable {op : Op State Error Value} {next : Value → Op State Error Next}
  {state between : State} {result : Next} {error : Error}

protected def bind (op : Op State Error Value) (next : Value → Op State Error Next) :
    Op State Error Next := fun state =>
  match op state with
  | (.ok value, after) => next value after
  | (.error error, after) => (.error error, after)

instance : Monad (Op State Error) where
  pure value := fun state => (.ok value, state)
  bind := Op.bind

/-- The operation stops with an error. -/
def fail (error : Error) : Op State Error Value := fun state => (.error error, state)

/-- The operation reads the state and changes nothing. -/
def reads (read : State → Except Error Value) : Op State Error Value := fun state =>
  (read state, state)

/-- The operation stops with an error unless the condition holds. -/
def ensure (condition : Prop) [Decidable condition] (error : Error) : Op State Error Unit :=
  if condition then pure () else fail error

/-- A failure is a value for the caller. -/
def attempt (op : Op State Error Value) : Op State Error (Except Error Value) := fun state =>
  (.ok (op state).1, (op state).2)

/-- A result computed elsewhere becomes the outcome. -/
def lift (result : Except Error Value) : Op State Error Value := fun state => (result, state)

@[simp] theorem pure_apply (value : Value) (state : State) :
    (pure value : Op State Error Value) state = (.ok value, state) := rfl

@[simp] theorem fail_apply (error : Error) (state : State) :
    (fail error : Op State Error Value) state = (.error error, state) := rfl

@[simp] theorem reads_apply (read : State → Except Error Value) (state : State) :
    reads read state = (read state, state) := rfl

@[simp] theorem attempt_apply (state : State) : attempt op state = (.ok (op state).1, (op state).2) := rfl

@[simp] theorem lift_apply (result : Except Error Value) (state : State) :
    lift result state = (result, state) := rfl

theorem bind_apply (state : State) :
    (op >>= next) state = match op state with
      | (.ok value, after) => next value after
      | (.error error, after) => (.error error, after) := rfl

variable {after : State}

/-- A sequence succeeds exactly when both of its parts do. -/
theorem bind_eq_ok :
    (op >>= next) state = (.ok result, after) ↔
      ∃ value between, op state = (.ok value, between) ∧ next value between = (.ok result, after) := by
  rw [bind_apply]
  rcases op state with ⟨_ | value, between⟩ <;> simp [and_assoc]

theorem bind_ok_iff : ((op >>= next) state).1 = .ok result ↔
    ∃ value, (op state).1 = .ok value ∧ (next value (op state).2).1 = .ok result := by
  rw [bind_apply]
  rcases op state with ⟨_ | value, between⟩ <;> simp

theorem bind_error_iff : ((op >>= next) state).1 = .error error ↔ (op state).1 = .error error ∨
    ∃ value, (op state).1 = .ok value ∧ (next value (op state).2).1 = .error error := by
  rw [bind_apply]
  rcases op state with ⟨_ | value, between⟩ <;> simp

theorem bind_of_ok {value : Value} (first : op state = (.ok value, between)) :
    (op >>= next) state = next value between := by
  rw [bind_apply, first]

theorem bind_of_error (first : op state = (.error error, between)) : (op >>= next) state = (.error error, between) := by
  rw [bind_apply, first]

/-- A first part that stops with an error is the whole result. -/
theorem bind_error (stops : (op state).1 = .error error) : ((op >>= next) state).1 = .error error := by
  rw [bind_apply]
  rcases outcome : op state with ⟨reached | value, after⟩
  · rw [outcome] at stops
    exact congrArg _ (Except.error.inj stops)
  · rw [outcome] at stops
    cases stops

theorem bind_assoc {Last : Type} (last : Next → Op State Error Last) :
    (op >>= next >>= last) = op >>= fun value => next value >>= last := by
  funext state
  rw [bind_apply, bind_apply, bind_apply]
  rcases op state with ⟨_ | value, between⟩ <;> rfl

variable {condition : Prop} {nothing : Unit}

theorem ensure_eq_ok [Decidable condition] :
    (ensure condition error : Op State Error Unit) state = (.ok nothing, after) ↔
      condition ∧ after = state := by
  unfold ensure
  split <;> simp_all [eq_comm]

/-- Every outcome is related to the first state. -/
def Respects (relation : State → State → Prop) (op : Op State Error Value) : Prop :=
  ∀ state, relation state (op state).2

/-- An operation that only reads leaves the state as it is. -/
class Reader (op : Op State Error Value) : Prop where
  kept : ∀ state, (op state).2 = state

instance Reader.pure (value : Value) : Reader (pure value : Op State Error Value) := ⟨fun _ => rfl⟩

instance Reader.fail (error : Error) : Reader (fail error : Op State Error Value) := ⟨fun _ => rfl⟩

instance Reader.reads (read : State → Except Error Value) : Reader (reads read) := ⟨fun _ => rfl⟩

instance Reader.lift (result : Except Error Value) : Reader (lift result : Op State Error Value) := ⟨fun _ => rfl⟩

instance [Reader op] : Reader (attempt op) := ⟨‹Reader op›.kept⟩

instance {condition : Prop} [Decidable condition] {first second : Op State Error Value} [Reader first]
    [Reader second] : Reader (if condition then first else second) := by
  split <;> assumption

instance (condition : Prop) [Decidable condition] (error : Error) :
    Reader (ensure condition error : Op State Error Unit) :=
  inferInstanceAs (Reader (if condition then _ else _))

instance [Reader op] [∀ value, Reader (next value)] : Reader (op >>= next) where
  kept state := by
    have kept := ‹Reader op›.kept state
    rw [bind_apply]
    rcases outcome : op state with ⟨_ | value, between⟩
    · rw [outcome] at kept
      exact kept
    · rw [outcome] at kept
      exact (Reader.kept between).trans kept

theorem Reader.read [Reader op] (rest : ∀ value, Reader (next value)) : Reader (op >>= next) := inferInstance

theorem read_state [Reader op] {result : Except Error Value} (outcome : op state = (result, between)) :
    between = state := by
  rw [← ‹Reader op›.kept state, outcome]

theorem read_eq [Reader op] {result : Except Error Value} (outcome : (op state).1 = result) :
    op state = (result, state) :=
  Prod.ext outcome (Reader.kept state)

/-- A sequence behind a reader succeeds in both parts. -/
theorem read_ok_iff [Reader op] : ((op >>= next) state).1 = .ok result ↔
    ∃ value, (op state).1 = .ok value ∧ (next value state).1 = .ok result := by
  rw [bind_ok_iff, Reader.kept]

theorem read_ok [Reader op] (outcome : ((op >>= next) state).1 = .ok result) :
    ∃ value, (op state).1 = .ok value ∧ (next value state).1 = .ok result := read_ok_iff.mp outcome

/-- A sequence behind a reader fails there, or is its rest. -/
theorem read_cases (op : Op State Error Value) [Reader op] (next : Value → Op State Error Next) (state : State) :
    (∃ error, (op >>= next) state = (.error error, state)) ∨
      ∃ value, (op state).1 = .ok value ∧ (op >>= next) state = next value state := by
  rcases outcome : op state with ⟨error | value, between⟩
  · obtain rfl := read_state outcome
    exact .inl ⟨error, bind_of_error outcome⟩
  · obtain rfl := read_state outcome
    exact .inr ⟨value, rfl, bind_of_ok outcome⟩

theorem ensure_ok [Decidable condition] :
    (ensure condition error state).1 = .ok nothing ↔ condition := by
  by_cases holds : condition <;> simp [ensure, holds]

theorem ensure_bind_ok [Decidable condition] {next : Unit → Op State Error Next}
    (outcome : ((ensure condition error >>= next) state).1 = .ok result) :
    condition ∧ (next () state).1 = .ok result := by
  obtain ⟨nothing, holds, rest⟩ := read_ok outcome
  exact ⟨ensure_ok.mp holds, rest⟩

/-- What only reads keeps the state. -/
theorem bind_state (reader : ∀ value, Reader (next value)) (state : State) :
    ((op >>= next) state).2 = (op state).2 := by
  rw [bind_apply]
  rcases op state with ⟨_ | value, between⟩
  · rfl
  · exact (reader value).kept between

/-- Every run ends in a value with the property. -/
def Yields (property : Value → Prop) (op : Op State Error Value) : Prop :=
  ∀ state, ∃ value, (op state).1 = .ok value ∧ property value

section Yields

variable {property : Value → Prop} {claim : Next → Prop}
variable {op : Op State Error Value}

theorem yields_pure {value : Value} (holds : property value) : Yields property (pure value : Op State Error Value) :=
  fun _ => ⟨value, rfl, holds⟩

theorem yields_reads (read : State → Value) :
    Yields (fun _ => True) (reads fun state => .ok (read state) : Op State Error Value) :=
  fun state => ⟨read state, rfl, trivial⟩

theorem Yields.bind {next : Value → Op State Error Next} (first : Yields property op)
    (second : ∀ value, property value → Yields claim (next value)) : Yields claim (op >>= next) := by
  intro state
  obtain ⟨value, ran, holds⟩ := first state
  rw [bind_of_ok (Prod.ext ran rfl)]
  exact second value holds (op state).2

/-- What follows has to do for every outcome. -/
theorem yields_attempt {next : Except Error Value → Op State Error Next}
    (second : ∀ result, Yields claim (next result)) : Yields claim (attempt op >>= next) :=
  fun state => second (op state).1 (op state).2

theorem yields_ite [Decidable condition] {first second : Op State Error Value}
    (yes : condition → Yields property first) (no : ¬ condition → Yields property second) :
    Yields property (if condition then first else second) := by
  by_cases holds : condition
  · rw [if_pos holds]
    exact yes holds
  · rw [if_neg holds]
    exact no holds

end Yields

/-- A failure leaves the state as it is. -/
def FailsCleanly (op : Op State Error Value) (state : State) : Prop :=
  ∀ error, (op state).1 = .error error → (op state).2 = state

theorem failsCleanly_of_ok {value : Value} (succeeds : (op state).1 = .ok value) : FailsCleanly op state := by
  intro error failed
  rw [succeeds] at failed
  cases failed

/-- Behind a reader only the rest can fail elsewhere. -/
theorem failsCleanly_reader_iff [Reader op] : FailsCleanly (op >>= next) state ↔
    ∀ value, (op state).1 = .ok value → FailsCleanly (next value) state := by
  constructor
  · intro clean value read error failed
    have goes : (op >>= next) state = next value state := bind_of_ok (read_eq read)
    rw [← goes]
    exact clean error (by rw [goes]; exact failed)
  · intro rest error failed
    rcases read_cases op next state with ⟨_, stopped⟩ | ⟨value, read, goes⟩
    · rw [stopped]
    · rw [goes] at failed ⊢
      exact rest value read error failed

theorem map_apply (change : Value → Next) (op : Op State Error Value) (state : State) :
    (change <$> op) state = ((op state).1.map change, (op state).2) := by
  show (op >>= fun value => pure (change value)) state = _
  rw [bind_apply]
  rcases op state with ⟨_ | value, between⟩ <;> rfl

/-- The invariant holds afterwards when it held before. -/
def Keeps (invariant : State → Prop) (before after : State) : Prop := invariant before → invariant after

instance (invariant : State → Prop) : IsPreorder State (Keeps invariant) where
  refl _ := id
  trans _ _ _ first second := second ∘ first

section Rules

variable {relation : State → State → Prop} [IsPreorder State relation]
variable {op : Op State Error Value} {next : Value → Op State Error Next} {state : State}

/-- What only reads respects every preorder. -/
theorem Respects.of_reader [Reader op] : Respects relation op := by
  intro state
  rw [Reader.kept]
  exact refl state

theorem Respects.pure (value : Value) : Respects relation (pure value : Op State Error Value) := .of_reader

theorem Respects.fail (error : Error) : Respects relation (fail error : Op State Error Value) := .of_reader

omit [IsPreorder State relation] in
theorem Respects.attempt (first : Respects relation op) : Respects relation (attempt op) :=
  fun state => first state

/-- The second part may use how the first one ended. -/
theorem relates_bind (first : relation state (op state).2)
    (second : ∀ value between, op state = (.ok value, between) → relation between (next value between).2) :
    relation state ((op >>= next) state).2 := by
  rw [bind_apply]
  rcases outcome : op state with ⟨_ | value, between⟩
  · simpa [outcome] using first
  · rw [outcome] at first
    exact IsTrans.trans state between _ first (second value between outcome)

/-- After a reader the rest runs on the same state. -/
theorem relates_reader [Reader op]
    (second : ∀ value, (op state).1 = .ok value → relation state (next value state).2) :
    relation state ((op >>= next) state).2 := by
  refine relates_bind (Respects.of_reader state) fun value between outcome => ?_
  obtain rfl := read_state outcome
  exact second value (by rw [outcome])

theorem relates_ensure [Decidable condition] {next : Unit → Op State Error Next}
    (second : condition → relation state (next () state).2) :
    relation state ((ensure condition error >>= next) state).2 :=
  relates_reader fun () passed =>
    second (ensure_eq_ok.mp (Prod.ext passed rfl)).1

theorem failsCleanly_ensure [Decidable condition] {next : Unit → Op State Error Next}
    (rest : condition → FailsCleanly (next ()) state) : FailsCleanly (ensure condition error >>= next) state :=
  failsCleanly_reader_iff.mpr fun () passed =>
    rest (ensure_eq_ok.mp (Prod.ext passed rfl)).1

theorem Respects.bind (first : Respects relation op) (second : ∀ value, Respects relation (next value)) :
    Respects relation (op >>= next) :=
  fun state => relates_bind (first state) fun value between _ => second value between

theorem Respects.read [Reader op] (rest : ∀ value, Respects relation (next value)) : Respects relation (op >>= next) :=
  Respects.of_reader.bind rest

end Rules

end Op

end Library
