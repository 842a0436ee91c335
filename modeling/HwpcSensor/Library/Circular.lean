import Mathlib.Data.List.Basic

namespace HwpcSensor.Circular

variable {β : Type} [Inhabited β]

-- The cell of a circular store that an absolute position falls on.
def cell (store : List β) (position : Nat) : β :=
  store.getD (position % store.length) default

-- The cells of a run of absolute positions.
def window (store : List β) (position count : Nat) : List β :=
  (List.range count).map fun i => cell store (position + i)

-- Write values at consecutive absolute positions.
def put (store : List β) (position : Nat) : List β → List β
  | [] => store
  | value :: rest => put (store.set (position % store.length) value) (position + 1) rest

omit [Inhabited β] in
@[simp] theorem length_put (store : List β) (position : Nat) (values : List β) :
    (put store position values).length = store.length := by
  induction values generalizing store position with
  | nil => rfl
  | cons value rest ih => simp only [put, ih, List.length_set]

@[simp] theorem length_window (store : List β) (position count : Nat) :
    (window store position count).length = count := by
  simp [window]

-- Positions closer than the size of the store fall on different cells.
theorem mod_ne_of_close {size low high : Nat} (hlow : low < high) (hhigh : high < low + size) :
    high % size ≠ low % size := by
  intro h
  have hz := Nat.sub_mod_eq_zero_of_mod_eq h
  rw [Nat.mod_eq_of_lt (by omega)] at hz
  omega

theorem cell_set_ne {store : List β} {low high : Nat} (value : β) (hlow : low < high)
    (hhigh : high < low + store.length) :
    cell (store.set (high % store.length) value) low = cell store low := by
  have hne := mod_ne_of_close hlow hhigh
  simp only [cell, List.length_set, List.getD_eq_getElem?_getD]
  rw [List.getElem?_set_ne hne]

-- What is written stays clear of the positions that are less than one store
-- size behind it.
theorem cell_put_before (store : List β) (values : List β) (position old : Nat)
    (hbefore : old < position) (hfits : position + values.length ≤ old + store.length) :
    cell (put store position values) old = cell store old := by
  induction values generalizing store position with
  | nil => rfl
  | cons value rest ih =>
      simp only [List.length_cons] at hfits
      rw [put, ih _ (position + 1) (by omega) (by simp only [List.length_set]; omega)]
      exact cell_set_ne value hbefore (by omega)

theorem cell_put (store : List β) (values : List β) (position i : Nat)
    (hi : i < values.length) (hfits : values.length ≤ store.length) :
    cell (put store position values) (position + i) = values[i] := by
  induction values generalizing store position i with
  | nil => simp at hi
  | cons value rest ih =>
      simp only [List.length_cons] at hi hfits
      rw [put]
      cases i with
      | zero =>
          have hlt : position % store.length < store.length := Nat.mod_lt _ (by omega)
          have hkeep := cell_put_before (store.set (position % store.length) value) rest
            (position + 1) position (by omega) (by simp only [List.length_set]; omega)
          simpa [cell, List.getD_eq_getElem?_getD, hlt] using hkeep
      | succ i =>
          have hstep := ih (store.set (position % store.length) value) (position + 1) i
            (by omega) (by simp only [List.length_set]; omega)
          simpa [Nat.add_assoc, Nat.add_comm 1 i] using hstep

theorem window_put_self (store : List β) (values : List β) (position : Nat)
    (hfits : values.length ≤ store.length) :
    window (put store position values) position values.length = values := by
  apply List.ext_getElem (by simp)
  intro i hi _
  simp only [window, List.getElem_map, List.getElem_range]
  exact cell_put store values position i (by simpa using hi) hfits

theorem window_put_before (store : List β) (values : List β) (position old count : Nat)
    (hbefore : old + count ≤ position)
    (hfits : position + values.length ≤ old + store.length) :
    window (put store position values) old count = window store old count := by
  apply List.map_congr_left
  intro i hi
  have := List.mem_range.mp hi
  exact cell_put_before store values position (old + i) (by omega) (by omega)

theorem window_append (store : List β) (position first second : Nat) :
    window store position (first + second) =
      window store position first ++ window store (position + first) second := by
  simp only [window, List.range_add, List.map_append, List.map_map, Nat.add_assoc]
  rfl

theorem take_window (store : List β) (position count n : Nat) (h : n ≤ count) :
    (window store position count).take n = window store position n := by
  obtain ⟨rest, rfl⟩ := Nat.exists_eq_add_of_le h
  rw [window_append, List.take_left' (by simp)]

theorem drop_window (store : List β) (position skip count : Nat) :
    (window store position (skip + count)).drop skip = window store (position + skip) count := by
  rw [window_append, List.drop_left' (by simp)]

-- A part of a window is a window.
theorem take_drop_window (store : List β) (position skip count total : Nat)
    (h : skip + count ≤ total) :
    ((window store position total).drop skip).take count =
      window store (position + skip) count := by
  obtain ⟨rest, rfl⟩ := Nat.exists_eq_add_of_le h
  rw [Nat.add_assoc, drop_window, take_window _ _ _ _ (by omega)]

-- A window that ends before the end of the store is read in place.
theorem take_drop_eq_window (store : List β) (position count : Nat)
    (h : position % store.length + count ≤ store.length) :
    (store.drop (position % store.length)).take count = window store position count := by
  apply List.ext_getElem
  · simp only [List.length_take, List.length_drop, length_window]
    omega
  · intro i hi _
    simp only [List.length_take, List.length_drop] at hi
    have hmod : (position + i) % store.length = position % store.length + i := by
      rw [Nat.add_mod, Nat.mod_eq_of_lt (a := i) (by omega), Nat.mod_eq_of_lt (by omega)]
    have hlt : position % store.length + i < store.length := by omega
    simp [window, cell, hmod, List.getD_eq_getElem?_getD, hlt]

-- A window that runs over the end of the store is read in two parts: what is
-- left up to the end, and the rest from the start.
theorem drop_append_take_eq_window (store : List β) (position count : Nat)
    (hpos : 0 < store.length) (hwrap : store.length ≤ position % store.length + count)
    (hfits : count ≤ store.length) :
    store.drop (position % store.length) ++
      store.take (count - (store.length - position % store.length)) =
      window store position count := by
  have hlt : position % store.length < store.length := Nat.mod_lt _ hpos
  obtain ⟨rest, hrest⟩ := Nat.exists_eq_add_of_le
    (show store.length - position % store.length ≤ count by omega)
  rw [hrest, Nat.add_sub_cancel_left, window_append]
  congr 1
  · rw [← take_drop_eq_window _ _ _ (by omega), List.take_of_length_le (by simp)]
  · have hend : (position + (store.length - position % store.length)) % store.length = 0 := by
      have hdiv := Nat.div_add_mod position store.length
      have hnext : position + (store.length - position % store.length) =
          store.length * (position / store.length + 1) := by
        rw [Nat.mul_add, Nat.mul_one]
        omega
      rw [hnext, Nat.mul_mod_right]
    have h := take_drop_eq_window store
      (position + (store.length - position % store.length)) rest (by omega)
    rwa [hend, List.drop_zero] at h

end HwpcSensor.Circular
