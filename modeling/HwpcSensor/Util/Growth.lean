import HwpcSensor.Util.Lemmas
import Mathlib.Algebra.Order.Ring.Nat
import Mathlib.Tactic.Ring

namespace HwpcSensor.SizeT

-- The number of values of a `size_t`.
def RANGE : Nat := 2 ^ 64

-- `while (new_size <= currsize + append_len) new_size *= 2;`, where the product
-- wraps; `none` when the rounds do not suffice.
def double_size : Nat → Nat → Nat → Option Nat
  | 0, new_size, needed => if new_size ≤ needed then none else some new_size
  | rounds + 1, new_size, needed =>
      if new_size ≤ needed then double_size rounds (new_size * 2 % RANGE) needed
      else some new_size

-- One call of `strapp` and what `realloc` answers in it.
structure strapp_call where
  realloc : Option (Nat → Char)
  to_append : List Char

def strapp_call.append_len (call : strapp_call) : Nat :=
  (strlen call.to_append + 1) % RANGE

-- The copy at the end of `strapp`.
def strapp_call.copy (call : strapp_call) (sb : strbuffer) : strbuffer :=
  { sb.write call.to_append with
    currsize := (sb.currsize + (call.append_len + (RANGE - 1))) % RANGE }

-- `strapp` on `size_t`. Sixty-four doublings shift every bit out, so a loop that
-- has not stopped by then never does.
def strapp (call : strapp_call) (sb : strbuffer) : Option strbuffer :=
  match double_size 64 sb.buffsize ((sb.currsize + call.append_len) % RANGE) with
  | none => none
  | some new_size =>
      if new_size > sb.buffsize then
        match call.realloc with
        | none => some sb
        | some fresh =>
            some (call.copy
              { sb with
                buffer := sb.buffer ++ (List.range (new_size - sb.buffsize)).map fresh
                buffsize := new_size })
      else some (call.copy sb)

def strapp_calls : strbuffer → List strapp_call → Option strbuffer
  | sb, [] => some sb
  | sb, call :: calls => (strapp call sb).bind (strapp_calls · calls)

-- The call asks for a larger block and does not get it.
def strapp_call.Fails (call : strapp_call) (sb : strbuffer) : Prop :=
  call.realloc = none ∧ sb.buffsize ≤ sb.currsize + (strlen call.to_append + 1)

instance (call : strapp_call) (sb : strbuffer) : Decidable (call.Fails sb) := by
  unfold strapp_call.Fails
  infer_instance

-- The strings of the calls that do not fail, one after the other.
def appended : strbuffer → List strapp_call → List Char
  | _, [] => []
  | sb, call :: calls =>
      (if call.Fails sb then [] else c_string call.to_append) ++
        match strapp call sb with
        | none => []
        | some sb' => appended sb' calls

def total_length (calls : List strapp_call) : Nat :=
  (calls.map fun call => strlen call.to_append).sum

theorem double_size_zero (rounds needed : Nat) : double_size rounds 0 needed = none := by
  induction rounds with
  | zero => simp [double_size]
  | succ rounds ih => simpa [double_size] using ih

-- A loop that has not stopped after some rounds goes on with what they made of
-- the size.
theorem double_size_add (first rounds new_size needed : Nat) (hlt : new_size < RANGE)
    (hnone : double_size first new_size needed = none) :
    double_size (first + rounds) new_size needed =
      double_size rounds (new_size * 2 ^ first % RANGE) needed := by
  induction first generalizing new_size with
  | zero => rw [Nat.zero_add, pow_zero, Nat.mul_one, Nat.mod_eq_of_lt hlt]
  | succ first ih =>
      have hle : new_size ≤ needed := by
        by_contra hover
        simp [double_size, hover] at hnone
      simp only [double_size, if_pos hle] at hnone
      rw [Nat.succ_add, double_size, if_pos hle,
        ih (new_size * 2 % RANGE) (Nat.mod_lt _ (by decide)) hnone, Nat.mod_mul_mod]
      congr 2
      ring

-- Sixty-four rounds decide whether the loop stops at all.
theorem double_size_eq_none {new_size needed : Nat} (hlt : new_size < RANGE)
    (hnone : double_size 64 new_size needed = none) (rounds : Nat) :
    double_size (64 + rounds) new_size needed = none := by
  have hzero : new_size * 2 ^ 64 % RANGE = 0 := Nat.mul_mod_left new_size RANGE
  rw [double_size_add 64 rounds new_size needed hlt hnone, hzero, double_size_zero]

-- Below half of the range the loop stops at the first doubling that exceeds what
-- is needed, and no product wraps on the way.
theorem double_size_spec (rounds fuel new_size needed : Nat) (hpos : 0 < new_size)
    (hlt : new_size < RANGE) (hneeded : needed < 2 ^ 63) (hrounds : needed < new_size * 2 ^ rounds)
    (hfuel : needed < new_size + fuel) :
    ∃ doublings, double_size rounds new_size needed = some (new_size * 2 ^ doublings) ∧
      grow fuel new_size needed = new_size * 2 ^ doublings ∧
      needed < new_size * 2 ^ doublings ∧ new_size * 2 ^ doublings < RANGE := by
  induction rounds generalizing fuel new_size with
  | zero =>
      have hover : ¬ new_size ≤ needed := by omega
      refine ⟨0, by simp [double_size, hover], ?_, by omega, by omega⟩
      cases fuel <;> simp [grow, hover]
  | succ rounds ih =>
      by_cases hle : new_size ≤ needed
      · have hhalf : new_size * 2 < RANGE := by
          unfold RANGE
          omega
        cases fuel with
        | zero => omega
        | succ fuel =>
            have hpow : new_size * 2 ^ (rounds + 1) = new_size * 2 * 2 ^ rounds := by ring
            obtain ⟨doublings, hloop, hgrow, hneed, hsize⟩ :=
              ih fuel (new_size * 2) (by omega) hhalf (by omega) (by omega)
            have hnext : new_size * 2 ^ (doublings + 1) = new_size * 2 * 2 ^ doublings := by ring
            refine ⟨doublings + 1, ?_, ?_, by omega, by omega⟩
            · rw [double_size, if_pos hle, Nat.mod_eq_of_lt hhalf, hloop, hnext]
            · rw [grow, if_pos hle, hgrow, hnext]
      · refine ⟨0, by simp [double_size, hle], ?_, by omega, by omega⟩
        cases fuel <;> simp [grow, hle]

section Call

variable {call : strapp_call} {sb : strbuffer} {text : List Char}

theorem append_len_eq (h : strlen call.to_append + 1 < RANGE) :
    call.append_len = strlen call.to_append + 1 :=
  Nat.mod_eq_of_lt h

theorem copy_eq (h : sb.currsize + (strlen call.to_append + 1) < RANGE) :
    call.copy sb = sb.write call.to_append := by
  have hcurr : (sb.currsize + (call.append_len + (RANGE - 1))) % RANGE =
      sb.currsize + strlen call.to_append := by
    have hsum : sb.currsize + (strlen call.to_append + 1 + (RANGE - 1)) =
        sb.currsize + strlen call.to_append + RANGE := by
      unfold RANGE
      omega
    rw [append_len_eq (by omega), hsum, Nat.add_mod_right, Nat.mod_eq_of_lt (by omega)]
  rw [strapp_call.copy, hcurr]
  rfl

-- As long as the text stays below 2 ^ 62 the machine's arithmetic is exact.
theorem strapp_eq (hpos : 0 < sb.buffsize) (hlt : sb.buffsize < RANGE)
    (hroom : sb.currsize + strlen call.to_append < 2 ^ 62) :
    ∃ doublings,
      double_size 64 sb.buffsize ((sb.currsize + call.append_len) % RANGE) =
        some (sb.buffsize * 2 ^ doublings) ∧
      sb.currsize + (strlen call.to_append + 1) < sb.buffsize * 2 ^ doublings ∧
      sb.buffsize * 2 ^ doublings < RANGE ∧
      strapp call sb = some (HwpcSensor.strapp call.realloc sb call.to_append) := by
  have hneeded : (sb.currsize + call.append_len) % RANGE =
      sb.currsize + (strlen call.to_append + 1) := by
    rw [append_len_eq (by unfold RANGE; omega), Nat.mod_eq_of_lt (by unfold RANGE; omega)]
  obtain ⟨doublings, hloop, hgrow, hneed, hsize⟩ := double_size_spec 64
    (sb.currsize + (strlen call.to_append + 1) + 1) sb.buffsize
    (sb.currsize + (strlen call.to_append + 1)) hpos hlt (by omega) (by omega) (by omega)
  refine ⟨doublings, by rw [hneeded, hloop], hneed, hsize, ?_⟩
  simp only [strapp, HwpcSensor.strapp, hneeded, hloop, hgrow]
  split_ifs with hgrown
  · cases call.realloc with
    | none => rfl
    | some fresh =>
        have hwide : sb.currsize + (strlen call.to_append + 1) < RANGE := by
          unfold RANGE
          omega
        exact congrArg some (copy_eq hwide)
  · rw [copy_eq (by unfold RANGE; omega)]

-- A call that fails leaves everything as it was.
theorem strapp_of_fails (hpos : 0 < sb.buffsize) (hfails : call.Fails sb) :
    HwpcSensor.strapp call.realloc sb call.to_append = sb := by
  have hgrown := lt_grow (sb.currsize + (strlen call.to_append + 1) + 1) sb.buffsize
    (sb.currsize + (strlen call.to_append + 1)) hpos (by omega)
  have hle := hfails.2
  simp only [HwpcSensor.strapp, hfails.1]
  rw [if_pos (by omega)]

theorem strapp_of_not_fails (h : sb.Holds text) (hfails : ¬ call.Fails sb) :
    (HwpcSensor.strapp call.realloc sb call.to_append).Holds
      (text ++ c_string call.to_append) := by
  cases hrealloc : call.realloc with
  | some fresh => exact strapp_holds h fresh call.to_append
  | none =>
      have hroom : ¬ sb.buffsize ≤ sb.currsize + (strlen call.to_append + 1) :=
        fun hle => hfails ⟨hrealloc, hle⟩
      simp only [HwpcSensor.strapp, grow, if_neg hroom, gt_iff_lt, Nat.lt_irrefl, if_false]
      exact h.write call.to_append (by omega)

theorem buffsize_pos (h : sb.Holds text) : text.length < sb.buffsize := by
  obtain ⟨_, _, hsize, rest, hbuffer⟩ := h
  rw [hsize, hbuffer, List.length_append, List.length_cons]
  omega

-- The block is replaced by the one whose size the loop has found, or stays.
theorem strapp_buffsize {doublings : Nat} (hlt : sb.buffsize < RANGE)
    (hloop : double_size 64 sb.buffsize ((sb.currsize + call.append_len) % RANGE) =
      some (sb.buffsize * 2 ^ doublings))
    (hsize : sb.buffsize * 2 ^ doublings < RANGE) {after : strbuffer}
    (h : strapp call sb = some after) : after.buffsize < RANGE := by
  simp only [strapp, hloop] at h
  split_ifs at h with hgrown
  · cases hrealloc : call.realloc with
    | none =>
        simp only [hrealloc, Option.some.injEq] at h
        rw [← h]
        exact hlt
    | some fresh =>
        simp only [hrealloc, Option.some.injEq] at h
        rw [← h]
        exact hsize
  · obtain rfl := Option.some.inj h
    exact hlt

end Call

-- What holds of the buffer between two calls.
structure Represents (sb : strbuffer) (text : List Char) : Prop where
  holds : sb.Holds text
  lt_range : sb.buffsize < RANGE

-- The text after a call, with the string appended unless the call fails.
def text_after (sb : strbuffer) (text : List Char) (call : strapp_call) : List Char :=
  text ++ if call.Fails sb then [] else c_string call.to_append

theorem length_text_after_le (sb : strbuffer) (text : List Char) (call : strapp_call) :
    (text_after sb text call).length ≤ text.length + strlen call.to_append := by
  unfold text_after strlen
  split_ifs <;> simp

-- What one call does to a buffer that represents a text.
theorem Represents.strapp {sb : strbuffer} {text : List Char} (h : Represents sb text)
    (call : strapp_call) (hroom : text.length + strlen call.to_append < 2 ^ 62) :
    ∃ after doublings,
      double_size 64 sb.buffsize ((sb.currsize + call.append_len) % RANGE) =
        some (sb.buffsize * 2 ^ doublings) ∧
      sb.buffsize * 2 ^ doublings < RANGE ∧
      strapp call sb = some after ∧ Represents after (text_after sb text call) ∧
      (call.Fails sb → after = sb) ∧
      (¬ call.Fails sb → sb.currsize + (strlen call.to_append + 1) ≤ after.buffsize) := by
  have hcurr := h.holds.2.1
  have hpos : 0 < sb.buffsize := Nat.zero_lt_of_lt (buffsize_pos h.holds)
  have hshort : sb.currsize + strlen call.to_append < 2 ^ 62 := by omega
  obtain ⟨doublings, hloop, hneed, hsize, hcall⟩ := strapp_eq hpos h.lt_range hshort
  refine ⟨_, doublings, hloop, hsize, hcall, ?_, strapp_of_fails hpos, ?_⟩
  · refine ⟨?_, strapp_buffsize h.lt_range hloop hsize hcall⟩
    unfold text_after
    split_ifs with hfails
    · rw [strapp_of_fails hpos hfails, List.append_nil]
      exact h.holds
    · exact strapp_of_not_fails h.holds hfails
  · intro hfails
    have hlong := buffsize_pos (strapp_of_not_fails h.holds hfails)
    rw [List.length_append] at hlong
    unfold strlen
    omega

-- A whole sequence of calls keeps the representation.
theorem Represents.strapp_calls {sb : strbuffer} {text : List Char} (h : Represents sb text)
    (calls : List strapp_call) (hroom : text.length + total_length calls < 2 ^ 62) :
    ∃ after, strapp_calls sb calls = some after ∧ Represents after (text ++ appended sb calls) ∧
      (text ++ appended sb calls).length ≤ text.length + total_length calls := by
  induction calls generalizing sb text with
  | nil => exact ⟨sb, rfl, by simpa [appended] using h, by simp [appended]⟩
  | cons call calls ih =>
      have htotal : total_length (call :: calls) =
          strlen call.to_append + total_length calls := by
        simp [total_length]
      obtain ⟨next, _, _, _, hcall, hnext, _, _⟩ := h.strapp call (by omega)
      have hlength := length_text_after_le sb text call
      obtain ⟨after, hcalls, hafter, hle⟩ := ih hnext (by omega)
      have happended : text ++ appended sb (call :: calls) =
          text_after sb text call ++ appended next calls := by
        simp only [appended, hcall, text_after, List.append_assoc]
      refine ⟨after, by simp [SizeT.strapp_calls, hcall, hcalls], ?_, ?_⟩
      · rw [happended]
        exact hafter
      · rw [happended]
        omega

-- One more call only adds to the text, and to what is appended.
theorem appended_concat {sb before : strbuffer} {calls : List strapp_call}
    (h : strapp_calls sb calls = some before) (call : strapp_call) :
    appended sb (calls ++ [call]) = text_after before (appended sb calls) call := by
  induction calls generalizing sb with
  | nil =>
      obtain rfl := Option.some.inj h
      simp only [List.nil_append, appended, text_after]
      cases strapp call sb <;> simp
  | cons first calls ih =>
      obtain ⟨next, hnext, hrest⟩ := Option.bind_eq_some_iff.mp h
      simp only [List.cons_append, appended, hnext, ih hrest, text_after, List.append_assoc]

-- The buffer represents the text of the calls that did not fail, after every call
-- of every sequence.
theorem strbuffer_represents {allocated : Bool} {size : Nat} {sb : strbuffer}
    (hsize : size < RANGE) (hnew : strnew allocated size = some sb)
    (calls : List strapp_call) (call : strapp_call)
    (htotal : total_length (calls ++ [call]) < 2 ^ 62) :
    ∃ before after doublings,
      strapp_calls sb calls = some before ∧
      double_size 64 before.buffsize ((before.currsize + call.append_len) % RANGE) =
        some (before.buffsize * 2 ^ doublings) ∧
      before.buffsize * 2 ^ doublings < RANGE ∧
      strapp call before = some after ∧
      after.buffsize = after.buffer.length ∧
      (¬ call.Fails before →
        before.currsize + (strlen call.to_append + 1) ≤ after.buffsize) ∧
      after.currsize < after.buffsize ∧
      after.buffer[after.currsize]? = some NUL ∧
      after.buffer.take after.currsize = appended sb (calls ++ [call]) ∧
      (call.Fails before → after = before) := by
  have hstart : Represents sb [] := by
    refine ⟨strnew_holds hnew, ?_⟩
    unfold strnew at hnew
    split_ifs at hnew
    obtain rfl := Option.some.inj hnew
    exact hsize
  have hsum : total_length (calls ++ [call]) =
      total_length calls + strlen call.to_append := by
    simp [total_length]
  obtain ⟨before, hcalls, hbefore, hlength⟩ :=
    hstart.strapp_calls calls (by simp only [List.length_nil]; omega)
  simp only [List.nil_append, List.length_nil, Nat.zero_add] at hbefore hlength
  obtain ⟨after, doublings, hloop, hover, hcall, hafter, hfails, hcopy⟩ :=
    hbefore.strapp call (by omega)
  rw [← appended_concat hcalls] at hafter
  obtain ⟨_, hcurr, hblock, rest, hbuffer⟩ := hafter.holds
  refine ⟨before, after, doublings, hcalls, hloop, hover, hcall, hblock, hcopy, ?_, ?_, ?_, hfails⟩
  · rw [hcurr]
    exact buffsize_pos hafter.holds
  · rw [hcurr, hbuffer, List.getElem?_append_right (Nat.le_refl _), Nat.sub_self]
    rfl
  · rw [hcurr, hbuffer, List.take_left' rfl]

-- A buffer of one byte that grows once, and then a string for which there is no
-- memory.
theorem strbuffer_represents_one : ∃ before after doublings,
    strapp_calls ⟨[NUL], 1, 0⟩ [⟨some fun _ => NUL, ['a', 'b']⟩] = some before ∧
    double_size 64 before.buffsize
        ((before.currsize + (strapp_call.mk none ['c', 'd']).append_len) % RANGE) =
      some (before.buffsize * 2 ^ doublings) ∧
    before.buffsize * 2 ^ doublings < RANGE ∧
    strapp ⟨none, ['c', 'd']⟩ before = some after ∧
    after.buffsize = after.buffer.length ∧
    (¬ (strapp_call.mk none ['c', 'd']).Fails before →
      before.currsize + (strlen ['c', 'd'] + 1) ≤ after.buffsize) ∧
    after.currsize < after.buffsize ∧
    after.buffer[after.currsize]? = some NUL ∧
    after.buffer.take after.currsize =
      appended ⟨[NUL], 1, 0⟩ [⟨some fun _ => NUL, ['a', 'b']⟩, ⟨none, ['c', 'd']⟩] ∧
    ((strapp_call.mk none ['c', 'd']).Fails before → after = before) :=
  strbuffer_represents (by decide) (show strnew true 1 = some ⟨[NUL], 1, 0⟩ from rfl)
    [⟨some fun _ => NUL, ['a', 'b']⟩] ⟨none, ['c', 'd']⟩ (by decide)

end HwpcSensor.SizeT
