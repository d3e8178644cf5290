import Mathlib.Data.List.Chain

namespace Library.Saturation

section Rounds

variable {State : Type}

/-- Each round tests and passes, until there is no progress. -/
def rounds (accept : State → Bool) (pass : State → State × Bool) : Nat → State → Bool
  | 0, _ => false
  | bound + 1, state =>
    if accept state then true
    else if (pass state).2 then rounds accept pass bound (pass state).1
    else false

/-- The passes of a search, without its tests. -/
def passes (pass : State → State × Bool) : Nat → State → State
  | 0, state => state
  | count + 1, state => passes pass count (pass state).1

theorem passes_invariant {pass : State → State × Bool} {invariant : State → Prop}
    (preserved : ∀ state, invariant state → invariant (pass state).1) (count : Nat) {state : State}
    (initial : invariant state) : invariant (passes pass count state) := by
  induction count generalizing state with
  | zero => exact initial
  | succ count ih => exact ih (preserved state initial)

/-- A search decides its goal when progress uses up a measure. -/
theorem rounds_iff {accept : State → Bool} {pass : State → State × Bool} {invariant : State → Prop}
    {measure : State → Nat} {goal : Prop}
    (preserved : ∀ state, invariant state → invariant (pass state).1)
    (sound : ∀ state, invariant state → accept state = true → goal)
    (complete : ∀ state, invariant state → (pass state).2 = false → goal → accept state = true)
    (decreases : ∀ state, (pass state).2 = true → measure (pass state).1 < measure state)
    {bound : Nat} {state : State} (initial : invariant state) (enough : measure state < bound) :
    rounds accept pass bound state = true ↔ goal := by
  induction bound generalizing state with
  | zero => omega
  | succ bound ih =>
    rw [rounds]
    by_cases accepted : accept state = true
    · rw [if_pos accepted]
      exact iff_of_true rfl (sound state initial accepted)
    · rw [if_neg accepted]
      cases progress : (pass state).2 with
      | true =>
        have smaller := decreases state progress
        exact ih (preserved state initial) (by omega)
      | false =>
        refine iff_of_false (by simp) fun reached => ?_
        exact accepted (complete state initial progress reached)

end Rounds

section Reach

variable {Item : Type}

/-- The item hangs on the anchor through parents of the pool. -/
inductive Reaches (parent : Item → Item → Prop) (pool : Item → Prop) (anchor : Item) : Item → Prop
  | direct {item : Item} : parent item anchor → Reaches parent pool anchor item
  | through {item next : Item} : pool next → parent item next → Reaches parent pool anchor next →
      Reaches parent pool anchor item

variable {parent : Item → Item → Prop} {pool other : Item → Prop} {anchor item : Item}

theorem Reaches.mono (reached : Reaches parent pool anchor item)
    (wider : ∀ child next, parent child next → pool next → other next) :
    Reaches parent other anchor item := by
  induction reached with
  | direct signed => exact .direct signed
  | through inside signed _ ih => exact .through (wider _ _ signed inside) signed ih

/-- The members on the way, in order from the item to the anchor. -/
theorem reaches_iff_chain :
    Reaches parent pool anchor item ↔
      ∃ path : List Item, (∀ next ∈ path, pool next) ∧ List.IsChain parent (item :: (path ++ [anchor])) := by
  constructor
  · intro reached
    induction reached with
    | direct signed => exact ⟨[], by simp, by simpa using signed⟩
    | through inside signed _ ih =>
      obtain ⟨path, members, chain⟩ := ih
      refine ⟨_ :: path, List.forall_mem_cons.mpr ⟨inside, members⟩, ?_⟩
      exact List.isChain_cons_cons.mpr ⟨signed, chain⟩
  · rintro ⟨path, members, chain⟩
    induction path generalizing item with
    | nil => exact .direct (by simpa using chain)
    | cons next path ih =>
      obtain ⟨inside, members⟩ := List.forall_mem_cons.mp members
      obtain ⟨signed, chain⟩ := List.isChain_cons_cons.mp chain
      exact .through inside signed (ih members chain)

/-- How a search marks the members of a pool that reach the anchor. -/
structure Marking (State : Type) (parent : Item → Item → Prop) (pool : Item → Prop) (anchor : Item) where
  pass : State → State × Bool
  invariant : State → Prop
  marked : State → Item → Prop
  unmarked : State → Nat
  preserved : ∀ state, invariant state → invariant (pass state).1
  reaches : ∀ state, invariant state → ∀ item, marked state item → pool item ∧ Reaches parent pool anchor item
  closed : ∀ state, invariant state → (pass state).2 = false → ∀ item, pool item →
    (parent item anchor ∨ ∃ next, marked state next ∧ parent item next) → marked state item
  decreases : ∀ state, (pass state).2 = true → unmarked (pass state).1 < unmarked state

variable {State : Type}

/-- Without progress all that reach the anchor are marked. -/
theorem Marking.marked_of_reaches (marking : Marking State parent pool anchor) {state : State}
    (holds : marking.invariant state) (still : (marking.pass state).2 = false)
    (reached : Reaches parent pool anchor item) (inside : pool item) : marking.marked state item := by
  induction reached with
  | direct signed => exact marking.closed state holds still _ inside (.inl signed)
  | through next signed _ ih => exact marking.closed state holds still _ inside (.inr ⟨_, ih next, signed⟩)

/-- An item is accepted exactly when it reaches the anchor. -/
theorem Marking.rounds_iff_reaches (marking : Marking State parent pool anchor) {accept : State → Bool}
    (accepts : ∀ state, marking.invariant state →
      (accept state = true ↔ parent item anchor ∨ ∃ next, marking.marked state next ∧ parent item next))
    {bound : Nat} {state : State} (initial : marking.invariant state) (enough : marking.unmarked state < bound) :
    rounds accept marking.pass bound state = true ↔ Reaches parent pool anchor item := by
  refine rounds_iff marking.preserved ?_ ?_ marking.decreases initial enough
  · intro state holds accepted
    rcases (accepts state holds).mp accepted with signed | ⟨next, marked, signed⟩
    · exact .direct signed
    · obtain ⟨inside, reached⟩ := marking.reaches state holds next marked
      exact .through inside signed reached
  · intro state holds still reached
    refine (accepts state holds).mpr ?_
    cases reached with
    | direct signed => exact .inl signed
    | through inside signed reached =>
      exact .inr ⟨_, marking.marked_of_reaches holds still reached inside, signed⟩

end Reach

end Library.Saturation
