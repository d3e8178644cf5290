import Cantil.Library.Bytes

namespace Library

/-- The octets at all addresses. -/
abbrev Memory := Nat → UInt8

namespace Memory

variable {memory : Memory} {start index : Nat} {data : Bytes}

/-- The data is copied to the addresses from the given one on. -/
def store (memory : Memory) (start : Nat) (data : Bytes) : Memory := fun index =>
  if start ≤ index then (data[index - start]?).getD (memory index) else memory index

/-- The octets of another memory from an address on. -/
def copy (memory : Memory) (start : Nat) (source : Memory) (place length : Nat) : Memory := fun index =>
  if start ≤ index ∧ index < start + length then source (place + (index - start)) else memory index

/-- The octets from the given address on. -/
def read (memory : Memory) (start length : Nat) : Bytes := (List.range length).map fun index => memory (start + index)

@[simp] theorem read_length (memory : Memory) (start length : Nat) : (memory.read start length).length = length := by
  simp [read]

/-- The addresses outside the copy keep their octets. -/
theorem store_outside (outside : index < start ∨ start + data.length ≤ index) :
    memory.store start data index = memory index := by
  unfold store
  split_ifs with behind
  · have past : data.length ≤ index - start := by omega
    rw [List.getElem?_eq_none past, Option.getD_none]
  · rfl

theorem store_inside (memory : Memory) (start : Nat) (inside : index < data.length) :
    memory.store start data (start + index) = data[index] := by
  unfold store
  rw [if_pos (Nat.le_add_right start index), Nat.add_sub_cancel_left, List.getElem?_eq_getElem inside, Option.getD_some]

/-- Two copies behind each other are one copy. -/
theorem store_append (memory : Memory) (start : Nat) (first second : Bytes) :
    memory.store start (first ++ second) = (memory.store start first).store (start + first.length) second := by
  funext index
  by_cases before : index < start + first.length
  · rw [store_outside (.inl before)]
    unfold store
    split_ifs with behind
    · rw [List.getElem?_append_left (by omega)]
    · rfl
  · have behind : start ≤ index := by omega
    have later : start + first.length ≤ index := Nat.not_lt.mp before
    rw [store, store, if_pos behind, if_pos later, store_outside (.inr later),
      List.getElem?_append_right (by omega), Nat.sub_add_eq]

/-- What was copied is read back. -/
theorem read_store (memory : Memory) (start : Nat) (data : Bytes) :
    (memory.store start data).read start data.length = data := by
  apply List.ext_getElem
  · simp
  · intro index inside within
    simp only [read, List.getElem_map, List.getElem_range]
    exact store_inside memory start within

theorem read_copy (memory : Memory) (start : Nat) (source : Memory) (place length : Nat) :
    (memory.copy start source place length).read start length = source.read place length := by
  apply List.map_congr_left
  intro index inside
  have within : index < length := List.mem_range.mp inside
  rw [copy, if_pos (by omega), Nat.add_sub_cancel_left]

/-- What lies before the copy is read as it was. -/
theorem read_copy_before {source : Memory} {place length first count : Nat} (before : first + count ≤ start) :
    (memory.copy start source place length).read first count = memory.read first count := by
  apply List.map_congr_left
  intro index inside
  have within : index < count := List.mem_range.mp inside
  rw [copy, if_neg (by omega)]

/-- A part of what was stored is read back. -/
theorem read_store_part {place length : Nat} (inside : place + length ≤ data.length) :
    (memory.store 0 data).read place length = (data.drop place).take length := by
  apply List.ext_getElem
  · simp only [read_length, List.length_take, List.length_drop]
    omega
  · intro index here within
    rw [read_length] at here
    simp only [read, List.getElem_map, List.getElem_range, List.getElem_take, List.getElem_drop]
    have stored := store_inside memory 0 (by omega : place + index < data.length)
    rw [Nat.zero_add] at stored
    exact stored

end Memory

end Library
