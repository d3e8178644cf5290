import Cantil.Library.Op
import Mathlib.Algebra.Order.Group.Nat

namespace Library

/-- A walk over positions that counts its visits. -/
abbrev Walker (Error Value : Type) := Op Nat Error Value

namespace Walker

variable {Error Value : Type}
variable {limit start visits : Nat} {step : Nat → Walker Error Nat} {barred : Error}

def visit : Walker Error Unit := fun visits => (.ok (), visits + 1)

/-- The step is repeated from where it stopped. -/
def repeated (step : Nat → Walker Error Nat) : (count start : Nat) → Walker Error Nat
  | 0, start => pure start
  | count + 1, start => do repeated step count (← step start)

/-- A visit is paid with a position. A failure may owe one. -/
structure Pays (limit start visits : Nat) (outcome : Except Error Nat × Nat) : Prop where
  ahead : ∀ stop, outcome.1 = .ok stop → start ≤ stop ∧ stop ≤ limit ∧ outcome.2 + start ≤ visits + stop
  owes : outcome.2 + start ≤ visits + limit + 1

theorem pays_here (inside : start ≤ limit) :
    Pays limit start visits ((pure start : Walker Error Nat) visits) where
  ahead := by
    intro stop found
    obtain rfl := Except.ok.inj found
    exact ⟨Nat.le_refl _, inside, Nat.le_refl _⟩
  owes := by
    show visits + start ≤ _
    omega

theorem Pays.of_later {later after : Nat} {outcome : Except Error Nat × Nat} (paid : after + start ≤ visits + later)
    (forward : start ≤ later) (rest : Pays limit later after outcome) :
    Pays limit start visits outcome where
  ahead := by
    intro stop found
    obtain ⟨ahead, inside, cost⟩ := rest.ahead stop found
    exact ⟨Nat.le_trans forward ahead, inside, by omega⟩
  owes := by
    have owed := rest.owes
    omega

/-- What follows a paid walk pays from where that one stopped. -/
theorem Pays.bind {walk : Walker Error Nat} {next : Nat → Walker Error Nat}
    (first : Pays limit start visits (walk visits))
    (second : ∀ later after, start ≤ later → later ≤ limit → Pays limit later after (next later after)) :
    Pays limit start visits ((walk >>= next) visits) := by
  rw [Op.bind_apply]
  rcases outcome : walk visits with ⟨error | later, after⟩
  · rw [outcome] at first
    exact ⟨fun _ found => (by cases found), first.owes⟩
  · rw [outcome] at first
    obtain ⟨forward, inside, paid⟩ := first.ahead later rfl
    exact (second later after forward inside).of_later paid forward

theorem repeated_pays (pays : ∀ start visits, start ≤ limit → Pays limit start visits (step start visits))
    (count : Nat) : ∀ start visits, start ≤ limit → Pays limit start visits (repeated step count start visits) := by
  induction count with
  | zero => exact fun start visits inside => pays_here inside
  | succ count ih =>
    intro start visits inside
    exact (pays start visits inside).bind fun later after _ within => ih later after within

/-- What follows a paid walk owes at most one visit in all. -/
theorem Pays.bind_owes {walk : Walker Error Nat} {next : Nat → Walker Error Value}
    (first : Pays limit start visits (walk visits))
    (second : ∀ later after, start ≤ later → later ≤ limit → (next later after).2 + later ≤ after + limit + 1) :
    ((walk >>= next) visits).2 + start ≤ visits + limit + 1 := by
  rw [Op.bind_apply]
  rcases outcome : walk visits with ⟨error | later, after⟩
  · rw [outcome] at first
    exact first.owes
  · rw [outcome] at first
    obtain ⟨forward, inside, paid⟩ := first.ahead later rfl
    have owed := second later after forward inside
    dsimp only at paid ⊢
    omega

/-- Repeated steps that avoid an error avoid it together. -/
theorem repeated_avoids (barred : Error) (low : Nat)
    (pays : ∀ start visits, start ≤ limit → Pays limit start visits (step start visits))
    (avoids : ∀ start visits, low ≤ start → start ≤ limit → (step start visits).1 ≠ .error barred) (count : Nat) :
    ∀ start visits, low ≤ start → start ≤ limit → (repeated step count start visits).1 ≠ .error barred := by
  induction count with
  | zero =>
    intro start visits _ _ ended
    cases ended
  | succ count ih =>
    intro start visits above inside
    rw [repeated, Op.bind_apply]
    have first := pays start visits inside
    have free := avoids start visits above inside
    rcases outcome : step start visits with ⟨error | later, after⟩
    · rw [outcome] at free
      exact free
    · rw [outcome] at first
      obtain ⟨forward, within, _⟩ := first.ahead later rfl
      exact ih later after (Nat.le_trans above forward) within

/-- A walk that takes a visit of its own before it stops moves on. -/
theorem Pays.moves {stop : Nat} {outcome : Except Error Nat × Nat} (pays : Pays limit start visits outcome)
    (found : outcome.1 = .ok stop) (counted : visits < outcome.2) : start < stop ∧ stop ≤ limit := by
  obtain ⟨_, inside, cost⟩ := pays.ahead stop found
  exact ⟨by omega, inside⟩

/-- The walks agree unless the second ends in this error. -/
def Follows (barred : Error) (walk model : Walker Error Value) : Prop :=
  ∀ visits, (model visits).1 ≠ .error barred → walk visits = model visits

theorem Follows.same (walk : Walker Error Value) : Follows barred walk walk := fun _ _ => rfl

theorem Follows.bind {Next : Type} {walk model : Walker Error Value} {next modelNext : Value → Walker Error Next}
    (first : Follows barred walk model) (second : ∀ value, Follows barred (next value) (modelNext value)) :
    Follows barred (walk >>= next) (model >>= modelNext) := by
  intro visits allowed
  rw [Op.bind_apply] at allowed
  rw [Op.bind_apply, Op.bind_apply]
  rcases outcome : model visits with ⟨error | value, after⟩
  · have free : (model visits).1 ≠ .error barred := by
      rw [outcome] at allowed ⊢
      intro ended
      exact allowed (congrArg _ (Except.error.inj ended))
    rw [first visits free, outcome]
  · have free : (model visits).1 ≠ .error barred := by
      rw [outcome]
      intro ended
      cases ended
    rw [outcome] at allowed
    rw [first visits free, outcome]
    exact second value after allowed

theorem repeated_follows {model : Nat → Walker Error Nat}
    (follows : ∀ start, Follows barred (step start) (model start)) (count : Nat) :
    ∀ start, Follows barred (repeated step count start) (repeated model count start) := by
  induction count with
  | zero => exact fun start => .same _
  | succ count ih => exact fun start => (follows start).bind ih

end Walker

end Library
