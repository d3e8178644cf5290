import Mathlib.Data.List.Nodup
import Mathlib.Data.Finset.Card

namespace Library.Walk

/-- A node ends the walk, or names the next and leaves a label. -/
inductive Hop (Node Label Result : Type) where
  | stop (result : Result)
  | go (label : Label) (next : Node)
  deriving DecidableEq

variable {Node Label Result : Type} {hop : Node → Hop Node Label Result}

/-- A walk of bounded length, with the labels on its way. -/
def follow (hop : Node → Hop Node Label Result) : Nat → Node → Option (List Label × Result)
  | 0, _ => none
  | bound + 1, node =>
    match hop node with
    | .stop result => some ([], result)
    | .go label next => (follow hop bound next).map fun out => (label :: out.1, out.2)

/-- The nodes that the walk has left, with their labels. -/
inductive Passes (hop : Node → Hop Node Label Result) : Node → List (Node × Label) → Node → Prop
  | here (node : Node) : Passes hop node [] node
  | go {node next last : Node} {label : Label} {path : List (Node × Label)} :
      hop node = .go label next → Passes hop next path last → Passes hop node ((node, label) :: path) last

/-- The walk arrives at a node that it has left before. -/
def Revisits (hop : Node → Hop Node Label Result) (start : Node) : Prop :=
  ∃ path last, Passes hop start path last ∧ last ∈ path.map Prod.fst

variable {start last middle : Node} {path : List (Node × Label)}

theorem follow_eq_some {bound : Nat} {labels : List Label} {result : Result} :
    follow hop bound start = some (labels, result) ↔
      ∃ path last, Passes hop start path last ∧ hop last = .stop result ∧ labels = path.map Prod.snd ∧
        path.length < bound := by
  induction bound generalizing start labels with
  | zero => simp [follow]
  | succ bound ih =>
    rw [follow]
    cases step : hop start with
    | stop other =>
      constructor
      · intro found
        obtain ⟨rfl, rfl⟩ := Prod.mk.inj (Option.some.inj found)
        exact ⟨[], start, .here start, step, rfl, Nat.succ_pos bound⟩
      · rintro ⟨path, last, passes, stops, rfl, _⟩
        cases passes with
        | here =>
          obtain rfl := Hop.stop.inj (step.symm.trans stops)
          rfl
        | go moved _ => cases step.symm.trans moved
    | go label next =>
      simp only [Option.map_eq_some_iff, Prod.mk.injEq, Prod.exists]
      constructor
      · rintro ⟨rest, other, found, rfl, rfl⟩
        obtain ⟨path, last, passes, stops, rfl, short⟩ := ih.mp found
        exact ⟨(start, label) :: path, last, .go step passes, stops, rfl, Nat.succ_lt_succ short⟩
      · rintro ⟨path, last, passes, stops, rfl, short⟩
        cases passes with
        | here => cases step.symm.trans stops
        | go moved passes =>
          obtain ⟨rfl, rfl⟩ := Hop.go.inj (step.symm.trans moved)
          exact ⟨_, _, ih.mpr ⟨_, last, passes, stops, rfl, Nat.lt_of_succ_lt_succ short⟩, rfl, rfl⟩

theorem follow_eq_none {bound : Nat} :
    follow hop bound start = none ↔ ∃ path last, Passes hop start path last ∧ path.length = bound := by
  induction bound generalizing start with
  | zero => exact iff_of_true rfl ⟨[], start, .here start, rfl⟩
  | succ bound ih =>
    rw [follow]
    cases step : hop start with
    | stop result =>
      refine iff_of_false (by simp) ?_
      rintro ⟨path, last, passes, long⟩
      cases passes with
      | here => cases long
      | go moved _ => cases step.symm.trans moved
    | go label next =>
      simp only [Option.map_eq_none_iff]
      constructor
      · intro lost
        obtain ⟨path, last, passes, rfl⟩ := ih.mp lost
        exact ⟨(start, label) :: path, last, .go step passes, rfl⟩
      · rintro ⟨path, last, passes, long⟩
        cases passes with
        | here => cases long
        | go moved passes =>
          obtain ⟨rfl, rfl⟩ := Hop.go.inj (step.symm.trans moved)
          exact ih.mpr ⟨_, last, passes, Nat.succ.inj long⟩

/-- A walk that stops runs through every walk from its start. -/
theorem Passes.rest {result : Result} {part : List (Node × Label)} (whole : Passes hop start path last)
    (stops : hop last = .stop result) (passes : Passes hop start part middle) :
    ∃ rest, path = part ++ rest ∧ Passes hop middle rest last := by
  induction passes generalizing path with
  | here => exact ⟨path, rfl, whole⟩
  | go moved _ ih =>
    cases whole with
    | here => cases stops.symm.trans moved
    | go other whole =>
      obtain ⟨rfl, rfl⟩ := Hop.go.inj (moved.symm.trans other)
      obtain ⟨rest, rfl, onward⟩ := ih whole
      exact ⟨rest, rfl, onward⟩

/-- A walk from a node that stops it goes nowhere. -/
theorem Passes.stays {result : Result} (passes : Passes hop start path last) (stops : hop start = .stop result) :
    last = start := by
  cases passes with
  | here => rfl
  | go moved _ => cases stops.symm.trans moved

/-- A walk arrives at every node that it leaves. -/
theorem Passes.arrives (passes : Passes hop start path last) (left : middle ∈ path.map Prod.fst) :
    ∃ part, Passes hop start part middle ∧ part.length < path.length := by
  induction passes with
  | here => simp at left
  | go moved _ ih =>
    rw [List.map_cons, List.mem_cons] at left
    rcases left with rfl | later
    · exact ⟨[], .here _, Nat.succ_pos _⟩
    · obtain ⟨part, arrived, short⟩ := ih later
      exact ⟨_ :: part, .go moved arrived, Nat.succ_lt_succ short⟩

/-- A walk that comes back never stops. -/
theorem Revisits.never_stops (revisits : Revisits hop start) {result : Result}
    (passes : Passes hop start path last) : hop last ≠ .stop result := by
  intro stops
  obtain ⟨around, back, turned, left⟩ := revisits
  obtain ⟨first, arrived, short⟩ := turned.arrives left
  -- From the node that comes twice the walk would stop after two different numbers of hops.
  obtain ⟨early, earlyPath, earlyPasses⟩ := passes.rest stops arrived
  obtain ⟨late, latePath, latePasses⟩ := passes.rest stops turned
  obtain ⟨_, split, _⟩ := earlyPasses.rest stops latePasses
  obtain ⟨_, joined, _⟩ := latePasses.rest stops earlyPasses
  have lengths := congrArg List.length (earlyPath.symm.trans latePath)
  have more := congrArg List.length split
  have fewer := congrArg List.length joined
  simp only [List.length_append] at lengths more fewer
  omega

/-- Without a return the nodes of a walk differ. -/
theorem Passes.nodup (passes : Passes hop start path last) (once : ¬ Revisits hop start) :
    (path.map Prod.fst).Nodup := by
  induction passes with
  | here => exact List.nodup_nil
  | @go node next last label path moved passes ih =>
    have later : ¬ Revisits hop next := by
      rintro ⟨around, back, turned, left⟩
      exact once ⟨(node, label) :: around, back, .go moved turned, List.mem_cons_of_mem _ left⟩
    refine List.nodup_cons.mpr ⟨fun again => once ?_, ih later⟩
    obtain ⟨part, arrived, _⟩ := passes.arrives again
    exact ⟨(node, label) :: part, node, .go moved arrived, List.mem_cons_self⟩

theorem Passes.append {rest : List (Node × Label)} (first : Passes hop start path middle)
    (second : Passes hop middle rest last) : Passes hop start (path ++ rest) last := by
  induction first with
  | here => exact second
  | go moved _ ih => exact .go moved (ih second)

/-- A walk comes through every node that it leaves. -/
theorem Passes.split (passes : Passes hop start path last) (left : middle ∈ path.map Prod.fst) :
    ∃ first label next rest, Passes hop start first middle ∧ hop middle = .go label next ∧
      Passes hop next rest last := by
  induction passes with
  | here => simp at left
  | @go node next last label path moved passes ih =>
    rw [List.map_cons, List.mem_cons] at left
    rcases left with rfl | later
    · exact ⟨[], label, next, path, .here _, moved, passes⟩
    · obtain ⟨first, onward, after, rest, arrived, leaves, ends⟩ := ih later
      exact ⟨(node, label) :: first, onward, after, rest, .go moved arrived, leaves, ends⟩

/-- A walk that has left its start was sent to where it is. -/
theorem Passes.sent (passes : Passes hop start path last) (left : path ≠ []) :
    ∃ node label, hop node = .go label last := by
  induction passes with
  | here => exact absurd rfl left
  | @go node next last label path moved passes ih =>
    cases passes with
    | here => exact ⟨node, label, moved⟩
    | go _ _ => exact ih (List.cons_ne_nil _ _)

/-- A walk can be cut where it first arrives. -/
theorem Passes.first (passes : Passes hop start path last) :
    ∃ part, Passes hop start part last ∧ last ∉ part.map Prod.fst := by
  induction passes with
  | here node => exact ⟨[], .here node, by simp⟩
  | @go node next last label path moved passes ih =>
    by_cases arrived : node = last
    · subst arrived
      exact ⟨[], .here node, by simp⟩
    · obtain ⟨part, onward, fresh⟩ := ih
      refine ⟨(node, label) :: part, .go moved onward, ?_⟩
      rw [List.map_cons, List.mem_cons, not_or]
      exact ⟨fun same => arrived same.symm, fresh⟩

/-- No walk comes back. -/
def Acyclic (hop : Node → Hop Node Label Result) : Prop := ∀ start, ¬ Revisits hop start

/-- No node is reached from the node after it. -/
theorem acyclic_iff : Acyclic hop ↔
    ∀ node label next, hop node = .go label next → ¬ ∃ path, Passes hop next path node := by
  constructor
  · rintro acyclic node label next moved ⟨path, around⟩
    exact acyclic node ⟨(node, label) :: path, node, .go moved around, List.mem_cons_self⟩
  · rintro once start ⟨path, last, passes, left⟩
    obtain ⟨_, label, next, rest, _, moved, back⟩ := passes.split left
    exact once last label next moved ⟨rest, back⟩

section Changed

variable {before after : Node → Hop Node Label Result} {changed : Node}

variable (others : ∀ node label next, node ≠ changed → after node = .go label next → before node = .go label next)
include others

/-- A walk around the changed node is a walk of before. -/
theorem Passes.transfer (passes : Passes after start path last) (around : changed ∉ path.map Prod.fst) :
    Passes before start path last := by
  induction passes with
  | here node => exact .here node
  | go moved passes ih =>
    rw [List.map_cons, List.mem_cons, not_or] at around
    exact .go (others _ _ _ (Ne.symm around.1) moved) (ih around.2)

/-- The changed node is first reached by old hops. -/
theorem Passes.reached (passes : Passes after start path changed) : ∃ part, Passes before start part changed := by
  obtain ⟨part, arrived, fresh⟩ := passes.first
  exact ⟨part, arrived.transfer others fresh⟩

/-- A node may be sent where the way does not come back to it. -/
theorem Acyclic.change (acyclic : Acyclic before)
    (away : ∀ label next, after changed = .go label next → ¬ ∃ path, Passes before next path changed) :
    Acyclic after := by
  rw [acyclic_iff]
  rintro node label next moved ⟨path, back⟩
  by_cases here : node = changed
  · subst here
    exact away label next moved (back.reached others)
  by_cases through : changed ∈ path.map Prod.fst
  · obtain ⟨first, onward, beyond, rest, arrived, leaves, ends⟩ := back.split through
    exact away onward beyond leaves ((ends.append (.go moved arrived)).reached others)
  · exact acyclic_iff.mp acyclic node label next (others node label next here moved)
      ⟨path, back.transfer others through⟩

end Changed

theorem Acyclic.mono {before after : Node → Hop Node Label Result} (acyclic : Acyclic before)
    (kept : ∀ node label next, after node = .go label next → before node = .go label next) : Acyclic after := by
  intro start
  have still : Acyclic after := by
    apply acyclic.change (fun node label next _ moved => kept node label next moved)
    intro label next moved
    exact acyclic_iff.mp acyclic start label next (kept start label next moved)
  exact still start

section Ranked

variable {rank : Node → Nat} {bound : Nat}

variable (injective : Function.Injective rank)
variable (inside : ∀ node label next, hop node = .go label next → rank node < bound)
include inside

theorem Passes.ranks_lt (passes : Passes hop start path last) :
    ∀ number ∈ (path.map Prod.fst).map rank, number < bound := by
  induction passes with
  | here => simp
  | go moved _ ih => exact List.forall_mem_cons.mpr ⟨inside _ _ _ moved, ih⟩

include injective

/-- A walk to a ranked node has fewer hops than ranks. -/
theorem Passes.length_lt {result : Result} (passes : Passes hop start path last) (stops : hop last = .stop result)
    (low : rank last < bound) : path.length < bound := by
  have once : ¬ Revisits hop start := fun again => again.never_stops passes stops
  have new : last ∉ path.map Prod.fst := fun left => once ⟨path, last, passes, left⟩
  have distinct := (List.nodup_cons.mpr ⟨new, passes.nodup once⟩).map injective
  have few : (last :: path.map Prod.fst).map rank ⊆ List.range bound := by
    intro number inPath
    rw [List.map_cons, List.mem_cons] at inPath
    rw [List.mem_range]
    rcases inPath with rfl | left
    · exact low
    · exact passes.ranks_lt inside number left
  have most := (List.subperm_of_subset distinct few).length_le
  simp only [List.length_map, List.length_cons, List.length_range] at most
  exact most

/-- As many hops as ranks mean a return or an unranked node. -/
theorem follow_eq_none_iff_revisits :
    follow hop bound start = none ↔
      Revisits hop start ∨ ∃ path last, Passes hop start path last ∧ path.length = bound ∧ bound ≤ rank last := by
  constructor
  · intro lost
    obtain ⟨path, last, passes, long⟩ := follow_eq_none.mp lost
    by_cases again : Revisits hop start
    · exact .inl again
    · refine .inr ⟨path, last, passes, long, ?_⟩
      by_contra low
      -- The ranks of the nodes that were left are all the numbers below the bound.
      have distinct := (passes.nodup again).map injective
      have few : (path.map Prod.fst).map rank ⊆ List.range bound := fun number inPath =>
        List.mem_range.mpr (passes.ranks_lt inside number inPath)
      have all := List.Subperm.perm_of_length_le (List.subperm_of_subset distinct few) (by simp [long])
      have here : rank last ∈ (path.map Prod.fst).map rank := all.mem_iff.mpr (List.mem_range.mpr (by omega))
      obtain ⟨node, left, same⟩ := List.mem_map.mp here
      exact again ⟨path, last, passes, injective same ▸ left⟩
  · rintro (again | ⟨path, last, passes, long, _⟩)
    · cases found : follow hop bound start with
      | none => rfl
      | some out =>
        obtain ⟨path, last, passes, stops, _⟩ := follow_eq_some.mp found
        exact absurd stops (again.never_stops passes)
    · exact follow_eq_none.mpr ⟨path, last, passes, long⟩

end Ranked

end Library.Walk
