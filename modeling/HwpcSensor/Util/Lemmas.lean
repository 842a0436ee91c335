import HwpcSensor.Util

namespace HwpcSensor

theorem NUL_notMem_c_string (s : List Char) : NUL ∉ c_string s := by
  intro h
  simpa using List.mem_takeWhile_imp h

theorem c_string_of_notMem {text : List Char} (h : NUL ∉ text) : c_string text = text := by
  apply List.takeWhile_eq_self_iff.mpr
  intro c hc
  have hne : c ≠ NUL := fun he => h (he ▸ hc)
  simpa using hne

theorem c_string_append_NUL {text : List Char} (h : NUL ∉ text) (rest : List Char) :
    c_string (text ++ NUL :: rest) = text := by
  induction text with
  | nil => simp [c_string]
  | cons c text ih =>
      simp only [List.mem_cons, not_or] at h
      simp only [c_string, List.cons_append] at ih ⊢
      rw [List.takeWhile_cons_of_pos (by simpa using Ne.symm h.1), ih h.2]

-- The buffer represents a text: the text stands at the front with its
-- terminator, and the two sizes agree with it.
def strbuffer.Holds (sb : strbuffer) (text : List Char) : Prop :=
  NUL ∉ text ∧ sb.currsize = text.length ∧ sb.buffsize = sb.buffer.length ∧
    ∃ rest, sb.buffer = text ++ NUL :: rest

theorem strnew_holds {allocated : Bool} {size : Nat} {sb : strbuffer}
    (h : strnew allocated size = some sb) : sb.Holds [] := by
  unfold strnew at h
  split_ifs at h with hsize hallocated
  obtain rfl := Option.some.inj h
  obtain ⟨n, rfl⟩ := Nat.exists_eq_succ_of_ne_zero hsize
  exact ⟨by simp, rfl, by simp, List.replicate n NUL, by simp [List.replicate_succ]⟩

theorem strnew_eq_none_iff {allocated : Bool} {size : Nat} :
    strnew allocated size = none ↔ size = 0 ∨ allocated = false := by
  unfold strnew
  split_ifs with hsize hallocated <;> simp_all

-- Each doubling adds at least one, so the fuel the loop is given is enough.
theorem lt_grow (fuel new_size needed : Nat) (hpos : 0 < new_size)
    (hfuel : needed < new_size + fuel) : needed < grow fuel new_size needed := by
  induction fuel generalizing new_size with
  | zero => exact hfuel
  | succ fuel ih =>
      unfold grow
      split_ifs with h
      · exact ih (new_size * 2) (by omega) (by omega)
      · omega

theorem strbuffer.Holds.write {sb : strbuffer} {text : List Char} (h : sb.Holds text)
    (to_append : List Char) (hroom : sb.currsize + (strlen to_append + 1) ≤ sb.buffsize) :
    (sb.write to_append).Holds (text ++ c_string to_append) := by
  obtain ⟨hclean, hcurr, hsize, rest, hbuffer⟩ := h
  refine ⟨?_, ?_, ?_, ?_⟩
  · simpa using ⟨hclean, NUL_notMem_c_string to_append⟩
  · simp [strbuffer.write, strlen, hcurr]
  · rw [hsize] at hroom
    simp only [strbuffer.write, strlen, List.length_append, List.length_take, List.length_drop,
      List.length_singleton] at hroom ⊢
    omega
  · refine ⟨sb.buffer.drop (sb.currsize + (strlen to_append + 1)), ?_⟩
    simp [strbuffer.write, hbuffer, hcurr]

-- With a reallocation that succeeds, appending to the buffer appends to its text.
theorem strapp_holds {sb : strbuffer} {text : List Char} (h : sb.Holds text)
    (fresh : Nat → Char) (to_append : List Char) :
    (strapp (some fresh) sb to_append).Holds (text ++ c_string to_append) := by
  have ⟨hclean, hcurr, hsize, rest, hbuffer⟩ := h
  have hpos : 0 < sb.buffsize := by
    rw [hsize, hbuffer]
    exact List.length_pos_of_mem (List.mem_append_right _ List.mem_cons_self)
  have hlt := lt_grow (sb.currsize + (strlen to_append + 1) + 1) sb.buffsize
    (sb.currsize + (strlen to_append + 1)) hpos (by omega)
  simp only [strapp]
  split_ifs with hgrown
  · apply strbuffer.Holds.write
    · refine ⟨hclean, hcurr, ?_, ?_⟩
      · simp only [List.length_append, List.length_map, List.length_range, ← hsize]
        omega
      · exact ⟨_, by rw [hbuffer, List.append_assoc, List.cons_append]⟩
    · exact hlt.le
  · exact h.write to_append (by omega)

theorem strfreewrap_eq {sb : strbuffer} {text : List Char} (h : sb.Holds text) :
    strfreewrap sb = text := by
  obtain ⟨hclean, _, _, rest, hbuffer⟩ := h
  rw [strfreewrap, hbuffer, c_string_append_NUL hclean]

end HwpcSensor
