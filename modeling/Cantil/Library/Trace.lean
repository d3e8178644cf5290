import Mathlib.Data.List.Basic
import Mathlib.Order.Defs.Unbundled

namespace Library.Trace

variable {State Event : Type} (step : State → Event → State)

/-- A run feeds the events to the machine one after the other. -/
def run (state : State) (events : List Event) : State :=
  events.foldl step state

@[simp] theorem run_nil (state : State) : run step state [] = state := rfl

@[simp] theorem run_cons (state : State) (event : Event) (rest : List Event) :
    run step state (event :: rest) = run step (step state event) rest := rfl

theorem run_append (state : State) (first second : List Event) :
    run step state (first ++ second) = run step (run step state first) second :=
  List.foldl_append

/-- The visits pair each event with the state that receives it. -/
def visits (step : State → Event → State) : State → List Event → List (State × Event)
  | _, [] => []
  | state, event :: rest => (state, event) :: visits step (step state event) rest

@[simp] theorem visits_nil (state : State) : visits step state [] = [] := rfl

@[simp] theorem visits_cons (state : State) (event : Event) (rest : List Event) :
    visits step state (event :: rest) = (state, event) :: visits step (step state event) rest := rfl

theorem visits_append (state : State) (first second : List Event) :
    visits step state (first ++ second) =
      visits step state first ++ visits step (run step state first) second := by
  induction first generalizing state with
  | nil => rfl
  | cons event rest ih =>
    rw [List.cons_append, visits_cons, ih (step state event)]
    rfl

/-- The visited states are those of the prefixes. -/
theorem mem_visits_iff (start : State) (events : List Event) (state : State) (event : Event) :
    (state, event) ∈ visits step start events ↔
      ∃ before after, events = before ++ event :: after ∧ state = run step start before := by
  induction events generalizing start with
  | nil => simp
  | cons head rest ih =>
    rw [visits_cons, List.mem_cons, ih (step start head)]
    constructor
    · rintro (here | ⟨before, after, split, reached⟩)
      · obtain ⟨rfl, rfl⟩ := Prod.mk.inj here
        exact ⟨[], rest, rfl, rfl⟩
      · exact ⟨head :: before, after, by simp [split], by simpa using reached⟩
    · rintro ⟨before, after, split, reached⟩
      cases before with
      | nil =>
        obtain ⟨rfl, rfl⟩ := List.cons.inj split
        exact .inl (by rw [reached, run_nil])
      | cons first before =>
        obtain ⟨rfl, tail⟩ := List.cons.inj split
        exact .inr ⟨before, after, tail, by simpa using reached⟩

theorem event_of_visit {step : State → Event → State} {start : State} {events : List Event} {visit : State × Event}
    (visited : visit ∈ visits step start events) : visit.2 ∈ events := by
  obtain ⟨before, after, split, _⟩ := (mem_visits_iff step start events visit.1 visit.2).mp visited
  simp [split]

variable (invariant : State → Prop)

/-- What lawful steps keep holds at the end of a lawful run. -/
theorem run_invariant_of (condition : State → Event → Prop)
    (preserved : ∀ state event, condition state event → invariant state → invariant (step state event))
    (start : State) (events : List Event) (met : ∀ visit ∈ visits step start events, condition visit.1 visit.2)
    (initial : invariant start) : invariant (run step start events) := by
  induction events generalizing start with
  | nil => exact initial
  | cons event rest ih =>
    rw [visits_cons, List.forall_mem_cons] at met
    exact ih (step start event) met.2 (preserved start event met.1 initial)

/-- With a condition, every prefix of a lawful run has it. -/
theorem prefix_invariant (lawful : Event → Prop) (condition : State → Event → Prop)
    (preserved : ∀ state event, lawful event → condition state event → invariant state → invariant (step state event))
    {start : State} {events : List Event} (laws : ∀ event ∈ events, lawful event)
    (met : ∀ visit ∈ visits step start events, condition visit.1 visit.2) (initial : invariant start)
    {before after : List Event} (split : events = before ++ after) : invariant (run step start before) := by
  subst split
  apply run_invariant_of step invariant (fun state event => lawful event ∧ condition state event)
    (fun state event both => preserved state event both.1 both.2) start before ?_ initial
  intro visit visited
  have seen : visit ∈ visits step start (before ++ after) := by
    rw [visits_append]
    exact List.mem_append_left _ visited
  exact ⟨laws visit.2 (event_of_visit seen), met visit seen⟩

section Preserved

variable (preserved : ∀ state event, invariant state → invariant (step state event))
include preserved

/-- An invariant of every step holds at the end of every run. -/
theorem run_invariant (start : State) (events : List Event) (initial : invariant start) :
    invariant (run step start events) := by
  apply run_invariant_of step invariant (fun _ _ => True) (fun state event _ => preserved state event) start events ?_
    initial
  intro visit _
  trivial

/-- An invariant of every step holds of every visited state. -/
theorem visits_invariant (start : State) (events : List Event) (initial : invariant start) {state : State}
    {event : Event} (visited : (state, event) ∈ visits step start events) : invariant state := by
  obtain ⟨before, _, _, reached⟩ := (mem_visits_iff step start events state event).mp visited
  rw [reached]
  exact run_invariant step invariant preserved start before initial

/-- A property decided visit by visit is one of the run. -/
theorem forall_visits_congr (property condition : State → Event → Prop)
    (locally : ∀ state event, invariant state → (property state event ↔ condition state event)) (start : State)
    (events : List Event) (initial : invariant start) :
    (∀ visit ∈ visits step start events, property visit.1 visit.2) ↔
      ∀ visit ∈ visits step start events, condition visit.1 visit.2 := by
  have agrees (visit : State × Event) (visited : visit ∈ visits step start events) :
      property visit.1 visit.2 ↔ condition visit.1 visit.2 :=
    locally visit.1 visit.2 (visits_invariant step invariant preserved start events initial visited)
  exact forall₂_congr agrees

end Preserved

/-- The same when the condition is what keeps the invariant. -/
theorem forall_visits_iff (property condition : State → Event → Prop) (start : State) (events : List Event)
    (locally : ∀ state, ∀ event ∈ events, invariant state → (property state event ↔ condition state event))
    (preserved : ∀ state, ∀ event ∈ events, invariant state → condition state event → invariant (step state event))
    (initial : invariant start) :
    (∀ visit ∈ visits step start events, property visit.1 visit.2) ↔
      ∀ visit ∈ visits step start events, condition visit.1 visit.2 := by
  induction events generalizing start with
  | nil => simp
  | cons event rest ih =>
    have here := locally start event List.mem_cons_self initial
    have later (kept : condition start event) := ih (step start event)
      (fun state next inside => locally state next (List.mem_cons_of_mem event inside))
      (fun state next inside => preserved state next (List.mem_cons_of_mem event inside))
      (preserved start event List.mem_cons_self initial kept)
    simp only [visits_cons, List.forall_mem_cons, here]
    exact and_congr_right later

/-- A preorder that every step respects relates end to start. -/
theorem run_related (relation : State → State → Prop) [IsPreorder State relation] (start : State)
    (events : List Event) (related : ∀ visit ∈ visits step start events, relation visit.1 (step visit.1 visit.2)) :
    relation start (run step start events) := by
  induction events generalizing start with
  | nil => exact refl start
  | cons event rest ih =>
    simp only [visits_cons, List.forall_mem_cons] at related
    exact IsTrans.trans _ _ _ related.1 (ih (step start event) related.2)

/-- Behind the last first-kind entry is no second-kind one. -/
def Since {Entry : Type} (starts ends : Entry → Prop) (log : List Entry) : Prop :=
  ∃ before entry after, log = before ++ entry :: after ∧ starts entry ∧ ∀ later ∈ after, ¬ ends later

theorem not_since_nil {Entry : Type} (starts ends : Entry → Prop) : ¬ Since starts ends [] := by
  rintro ⟨before, entry, after, split, _⟩
  simp at split

/-- The last entry decides, or leaves it at what held before. -/
theorem since_append {Entry : Type} (starts ends : Entry → Prop) (log : List Entry) (last : Entry) :
    Since starts ends (log ++ [last]) ↔ starts last ∨ Since starts ends log ∧ ¬ ends last := by
  constructor
  · rintro ⟨before, entry, after, split, start, open'⟩
    rcases List.eq_nil_or_concat' after with rfl | ⟨front, final, rfl⟩
    · obtain ⟨_, same⟩ := List.append_inj' split rfl
      obtain rfl := List.head_eq_of_cons_eq same
      exact .inl start
    · rw [← List.cons_append, ← List.append_assoc] at split
      obtain ⟨rest, same⟩ := List.append_inj' split rfl
      obtain rfl := List.head_eq_of_cons_eq same
      refine .inr ⟨⟨before, entry, front, rest, start, fun later present => ?_⟩, ?_⟩
      · exact open' later (List.mem_append_left _ present)
      · exact open' last (List.mem_append_right _ List.mem_cons_self)
  · rintro (start | ⟨⟨before, entry, after, rfl, start, open'⟩, stays⟩)
    · exact ⟨log, last, [], rfl, start, List.forall_mem_nil _⟩
    · refine ⟨before, entry, after ++ [last], by simp, start, fun later present => ?_⟩
      rcases List.mem_append.mp present with inside | final
      · exact open' later inside
      · obtain rfl := List.mem_singleton.mp final
        exact stays

end Library.Trace
