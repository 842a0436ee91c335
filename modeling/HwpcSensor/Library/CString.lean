import Mathlib.Data.List.GetD

namespace HwpcSensor.CString

-- Characters by their addresses.
abbrev Memory := Nat → Char

def nul : Char := '\x00'

-- How many characters `snprintf` stores: none without room for one, and else what
-- fits with the terminator.
def stored (size : Nat) (text : List Char) : Nat :=
  if size = 0 then 0 else min (size - 1) text.length + 1

def print (memory : Memory) (start size : Nat) (text : List Char) : Memory := fun p =>
  if start ≤ p ∧ p < start + stored size text then
    (text.take (size - 1)).getD (p - start) nul
  else memory p

-- A string starts at the address 0.
structure Reads (memory : Memory) (text : List Char) : Prop where
  chars : ∀ i (hi : i < text.length), memory i = text[i]
  terminated : memory text.length = nul

-- The string in the first `limit` characters.
def read_string (memory : Memory) (limit : Nat) : List Char :=
  ((List.range limit).map memory).takeWhile (· ≠ nul)

variable {memory : Memory} {start size limit : Nat} {text full : List Char}

theorem print_of_outside {p : Nat} (h : p < start ∨ start + stored size text ≤ p) :
    print memory start size text p = memory p := by
  rw [print, if_neg (by omega)]

theorem stored_le : stored size text ≤ size := by
  unfold stored
  split <;> omega

-- A string is continued where it ends, as far as there is room.
theorem Reads.print (h : Reads memory full) (hroom : full.length < limit) :
    Reads (print memory full.length (limit - full.length) text)
      ((full ++ text).take (limit - 1)) := by
  have hstored : stored (limit - full.length) text =
      min (limit - full.length - 1) text.length + 1 := if_neg (by omega)
  have hlength : ((full ++ text).take (limit - 1)).length =
      full.length + min (limit - full.length - 1) text.length := by
    rw [List.length_take, List.length_append]
    omega
  constructor
  · intro i hi
    rw [List.getElem_take]
    by_cases hold : i < full.length
    · rw [print_of_outside (Or.inl hold), h.chars i hold, List.getElem_append_left hold]
    · rw [hlength] at hi
      have hget : i - full.length < (text.take (limit - full.length - 1)).length := by
        rw [List.length_take]
        omega
      rw [CString.print, if_pos (by omega), List.getD_eq_getElem _ _ hget, List.getElem_take,
        List.getElem_append_right (by omega)]
  · have hend : (text.take (limit - full.length - 1)).length ≤
        min (limit - full.length - 1) text.length :=
      Nat.le_of_eq List.length_take
    rw [hlength, CString.print, if_pos (by omega), Nat.add_sub_cancel_left,
      List.getD_eq_default _ _ hend]

theorem Reads.read_string (h : Reads memory text) (hnul : nul ∉ text)
    (hlimit : text.length < limit) : read_string memory limit = text := by
  have htext : (List.range text.length).map memory = text :=
    List.ext_getElem (by simp) fun i hi hi' => by simp [h.chars i hi']
  obtain ⟨rest, rfl⟩ := Nat.exists_eq_add_of_lt hlimit
  have hall : ∀ x ∈ text, decide (x ≠ nul) = true := fun x hx =>
    decide_eq_true fun heq => hnul (heq ▸ hx)
  rw [CString.read_string, Nat.add_assoc, List.range_add, List.map_append, htext,
    List.takeWhile_append_of_pos hall, List.range_succ_eq_map, List.map_cons, List.map_cons,
    Nat.add_zero, List.takeWhile_cons_of_neg (by simp [h.terminated]), List.append_nil]

end HwpcSensor.CString
