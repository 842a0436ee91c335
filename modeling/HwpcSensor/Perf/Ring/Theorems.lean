import HwpcSensor.Perf.Ring.Delivery
import HwpcSensor.Perf.Ring.Lemmas

namespace HwpcSensor.Perf

open Transition

@[simp] theorem sample_size_nil : sample_size [] = 0 := rfl

@[simp] theorem sample_size_cons (sample : sample_record) (samples : List sample_record) :
    sample_size (sample :: samples) = sample.record.size + sample_size samples := by
  simp [sample_size]

@[simp] theorem sample_size_append (first second : List sample_record) :
    sample_size (first ++ second) = sample_size first + sample_size second := by
  simp [sample_size]

theorem sample_size_pos {samples : List sample_record} (h : samples ≠ []) :
    0 < sample_size samples := by
  obtain ⟨sample, rest, rfl⟩ := List.exists_cons_of_ne_nil h
  have := size_pos sample.record
  simp only [sample_size_cons]
  omega

-- What the state of the consumer says about the records consumed by the call in
-- progress and those still pending.
def reader_state.Consistent (first_tail tail : Nat)
    (consumed current pending : List sample_record) : reader_state → Prop
  | .idle => current = []
  | .reading dwfl old_tail head callchains =>
      old_tail = first_tail + sample_size consumed ∧
      callchains.Holds (current.flatMap (sample_record.render dwfl)) ∧
      ∃ due later, pending = due ++ later ∧ head = tail + sample_size due ∧ current ++ due ≠ []

structure ring_system.Invariant (first_tail : Nat) (s : ring_system)
    (consumed current pending : List sample_record) : Prop where
  appended_eq : s.appended = consumed ++ current ++ pending
  tail_eq : s.buffer.data_tail = first_tail + sample_size consumed + sample_size current
  ring : s.buffer.Pending (pending.map sample_record.record)
  delivers : Delivers first_tail s.delivered consumed
  reader : s.reader.Consistent first_tail s.buffer.data_tail consumed current pending

theorem start_invariant (data : List UInt8) (tail : Nat) (htail : tail < 2 ^ 64) :
    (ring_system.start data tail).Invariant tail [] [] [] where
  appended_eq := rfl
  tail_eq := rfl
  ring := ⟨rfl, htail, Nat.zero_le _, rfl⟩
  delivers := .nil
  reader := rfl

theorem round_invariant {first_tail : Nat} {s : ring_system}
    {consumed current pending : List sample_record}
    (h : s.Invariant first_tail consumed current pending) {dwfl : Option Dwfl}
    {old_tail head : Nat} {callchains : strbuffer} (mem : memory)
    (hreading : s.reader = .reading dwfl old_tail head callchains)
    (hlt : s.buffer.data_tail < head) :
    ∃ sample rest, pending = sample :: rest ∧
      ({ s with
        buffer := (consume_record mem dwfl s.buffer callchains).1
        reader := .reading dwfl old_tail head
          (consume_record mem dwfl s.buffer callchains).2 } : ring_system).Invariant
        first_tail consumed (current ++ [sample]) rest := by
  have hreader := h.reader
  rw [hreading] at hreader
  obtain ⟨hold, hholds, due, later, hpending, hhead, hne⟩ := hreader
  cases due with
  | nil => simp only [sample_size_nil] at hhead; omega
  | cons sample due =>
      have hring := h.ring
      rw [hpending, List.cons_append, List.map_cons] at hring
      obtain ⟨view, hshows, hbuffer, htext⟩ := consume_record_spec mem dwfl hring hholds
      refine ⟨sample, due ++ later, hpending, ?_, ?_, ?_, h.delivers, ?_⟩
      · simpa [hpending] using h.appended_eq
      · have htail := h.tail_eq
        simp only [hbuffer, sample_size_append, sample_size_cons, sample_size_nil]
        omega
      · simpa only [hbuffer] using hring.consumed
      · refine ⟨hold, ?_, due, later, rfl, ?_, by simp⟩
        · rw [hshows.interpret_sample] at htext
          simpa using htext
        · simp only [hbuffer, sample_size_cons] at hhead ⊢
          omega

theorem leave_invariant {first_tail : Nat} {s : ring_system}
    {consumed current pending : List sample_record}
    (h : s.Invariant first_tail consumed current pending) {dwfl : Option Dwfl}
    {old_tail head : Nat} {callchains : strbuffer}
    (hreading : s.reader = .reading dwfl old_tail head callchains)
    (hdone : ¬s.buffer.data_tail < head) :
    ({ s with
      reader := .idle
      delivered := s.delivered ++ [{
        dwfl, allocated := true, old_tail, head, new_tail := s.buffer.data_tail,
        result := some (strfreewrap callchains) }] } : ring_system).Invariant
      first_tail (consumed ++ current) [] pending := by
  have hreader := h.reader
  rw [hreading] at hreader
  obtain ⟨hold, hholds, due, later, hpending, hhead, hne⟩ := hreader
  -- the snapshot is reached, so nothing that was due at entry is left
  have hdue : due = [] := by
    by_contra hdue
    have := sample_size_pos hdue
    omega
  subst hdue
  simp only [sample_size_nil, Nat.add_zero, List.append_nil] at hhead hne
  have htail := h.tail_eq
  refine ⟨by simpa using h.appended_eq, ?_, h.ring, ?_, rfl⟩
  · simp only [sample_size_append, sample_size_nil]
    omega
  · refine .complete _ current h.delivers hold ?_ hhead.symm (Or.inl rfl) ?_
    · simp only
      omega
    · rw [if_neg hne, strfreewrap_eq hholds]

-- Every step of either side keeps the ring invariant.
theorem ring_step_invariant {first_tail : Nat} {s s' : ring_system} {action : ring_action}
    (h : ∃ consumed current pending, s.Invariant first_tail consumed current pending)
    (hstep : RingStep s action s') :
    ∃ consumed current pending, s'.Invariant first_tail consumed current pending := by
  obtain ⟨consumed, current, pending, h⟩ := h
  cases hstep with
  | append sample hfits htraffic =>
      refine ⟨consumed, current, pending ++ [sample], ?_, h.tail_eq, ?_, h.delivers, ?_⟩
      · simp [h.appended_eq]
      · simpa using h.ring.appended sample.record hfits htraffic
      · have hreader := h.reader
        unfold reader_state.Consistent at hreader ⊢
        cases hr : s.reader with
        | idle => simpa [hr] using hreader
        | reading dwfl old_tail head callchains =>
            simp only [hr] at hreader ⊢
            obtain ⟨hold, hholds, due, later, hpending, hhead, hne⟩ := hreader
            exact ⟨hold, hholds, due, later ++ [sample], by simp [hpending], hhead, hne⟩
  | empty dwfl allocated hidle hempty =>
      have hcurrent : current = [] := by simpa [hidle, reader_state.Consistent] using h.reader
      subst hcurrent
      have htail := h.tail_eq
      simp only [sample_size_nil, Nat.add_zero] at htail
      refine ⟨consumed, [], pending, h.appended_eq, h.tail_eq, h.ring, ?_, h.reader⟩
      have hnext := Delivers.complete
        ⟨dwfl, allocated, s.buffer.data_tail, s.buffer.data_head, s.buffer.data_tail, none⟩ []
        h.delivers htail (by simpa using hempty) hempty.symm (Or.inr rfl) rfl
      simpa using hnext
  | out_of_memory dwfl allocated hidle hne hnew =>
      have hcurrent : current = [] := by simpa [hidle, reader_state.Consistent] using h.reader
      subst hcurrent
      have htail := h.tail_eq
      simp only [sample_size_nil, Nat.add_zero] at htail
      have hfailed : allocated = false :=
        (strnew_eq_none_iff.mp hnew).resolve_left (by decide)
      exact ⟨consumed, [], pending, h.appended_eq, h.tail_eq, h.ring,
        .out_of_memory _ h.delivers hfailed htail rfl rfl, h.reader⟩
  | enter dwfl allocated callchains hidle hne hnew =>
      have hcurrent : current = [] := by simpa [hidle, reader_state.Consistent] using h.reader
      subst hcurrent
      have htail := h.tail_eq
      have hhead := h.ring.head_eq
      simp only [sample_size_nil, Nat.add_zero] at htail
      refine ⟨consumed, [], pending, h.appended_eq, h.tail_eq, h.ring, h.delivers,
        htail, strnew_holds hnew, pending, [], by simp, hhead, ?_⟩
      rintro hnil
      simp only [List.nil_append] at hnil
      subst hnil
      exact hne (by simpa using hhead)
  | round mem hreading hlt =>
      obtain ⟨sample, rest, -, hnext⟩ := round_invariant h mem hreading hlt
      exact ⟨consumed, current ++ [sample], rest, hnext⟩
  | leave hreading hdone =>
      exact ⟨consumed ++ current, [], pending, leave_invariant h hreading hdone⟩

theorem ring_run_invariant {data : List UInt8} {tail : Nat} (htail : tail < 2 ^ 64)
    {actions : List ring_action} {s : ring_system}
    (h : Run RingStep (ring_system.start data tail) actions s) :
    ∃ consumed current pending, s.Invariant tail consumed current pending :=
  h.invariant _ ⟨[], [], [], start_invariant data tail htail⟩
    fun _ _ _ hinv hstep => ring_step_invariant hinv hstep

-- Left to itself, a call in progress takes the records that are due and returns.
theorem reading_returns {first_tail : Nat} (mem : memory) {s : ring_system}
    {consumed current pending : List sample_record}
    (h : s.Invariant first_tail consumed current pending) :
    ∃ actions s', Run RingStep s actions s' ∧ (∀ a ∈ actions, a ≠ .append) ∧
      s'.reader = .idle := by
  cases hr : s.reader with
  | idle => exact ⟨[], s, .nil, by simp, hr⟩
  | reading dwfl old_tail head callchains =>
      by_cases hlt : s.buffer.data_tail < head
      · obtain ⟨sample, rest, hpending, hnext⟩ := round_invariant h mem hr hlt
        have hstep := RingStep.round mem hr hlt
        obtain ⟨actions, s', hrun, hactions, hidle⟩ := reading_returns mem hnext
        refine ⟨.round :: actions, s', (Run.single hstep).append hrun, ?_, hidle⟩
        intro a ha
        rcases List.mem_cons.mp ha with rfl | ha
        · simp
        · exact hactions a ha
      · exact ⟨[.leave], _, Run.single (.leave hr hlt), by simp, rfl⟩
termination_by pending.length
decreasing_by simp [hpending]

-- The loop of `get_callchains` is the consumer's rounds with no producer step
-- in between.
theorem consume_records_run (mem : memory) (dwfl : Option Dwfl) (old_tail head rounds : Nat)
    (s : ring_system) {callchains callchains' : strbuffer} {buffer' : perf_event_mmap_page}
    (hreading : s.reader = .reading dwfl old_tail head callchains)
    (h : consume_records mem dwfl head rounds s.buffer callchains = some (buffer', callchains')) :
    (∃ actions, Run RingStep s actions
      { s with buffer := buffer', reader := .reading dwfl old_tail head callchains' }) ∧
    ¬buffer'.data_tail < head := by
  induction rounds generalizing s callchains with
  | zero =>
      unfold consume_records at h
      split_ifs at h with hlt
      simp only [Option.some.injEq, Prod.mk.injEq] at h
      obtain ⟨rfl, rfl⟩ := h
      rw [← hreading]
      exact ⟨⟨[], .nil⟩, hlt⟩
  | succ rounds ih =>
      unfold consume_records at h
      split_ifs at h with hlt
      · obtain ⟨⟨actions, hrun⟩, hdone⟩ := ih
          { s with
            buffer := (consume_record mem dwfl s.buffer callchains).1
            reader := .reading dwfl old_tail head
              (consume_record mem dwfl s.buffer callchains).2 } rfl h
        exact ⟨⟨.round :: actions, (Run.single (.round mem hreading hlt)).append hrun⟩, hdone⟩
      · simp only [Option.some.injEq, Prod.mk.injEq] at h
        obtain ⟨rfl, rfl⟩ := h
        rw [← hreading]
        exact ⟨⟨[], .nil⟩, hlt⟩

-- A whole call of `get_callchains` is a run of the consumer.
theorem get_callchains_run (mem : memory) (allocated : Bool) (dwfl : Option Dwfl)
    (s : ring_system) {buffer' : perf_event_mmap_page} {result : Option (List Char)}
    (hidle : s.reader = .idle)
    (h : get_callchains mem allocated dwfl s.buffer = some (buffer', result)) :
    ∃ actions, Run RingStep s actions
      { s with
        buffer := buffer'
        delivered := s.delivered ++ [{
          dwfl, allocated, old_tail := s.buffer.data_tail, head := s.buffer.data_head,
          new_tail := buffer'.data_tail, result }] } := by
  unfold get_callchains at h
  simp only at h
  split_ifs at h with hempty
  · simp only [Option.some.injEq, Prod.mk.injEq] at h
    obtain ⟨rfl, rfl⟩ := h
    exact ⟨_, Run.single (.empty dwfl allocated hidle hempty)⟩
  · cases hnew : strnew allocated 1024 with
    | none =>
        simp only [hnew, Option.some.injEq, Prod.mk.injEq] at h
        obtain ⟨rfl, rfl⟩ := h
        exact ⟨_, Run.single (.out_of_memory dwfl allocated hidle hempty hnew)⟩
    | some callchains =>
        simp only [hnew] at h
        split at h
        · cases h
        · rename_i last callchains' hloop
          simp only [Option.some.injEq, Prod.mk.injEq] at h
          obtain ⟨rfl, rfl⟩ := h
          have hallocated : allocated = true := by
            by_contra hne
            have hnone : strnew allocated 1024 = none :=
              strnew_eq_none_iff.mpr (Or.inr (by simpa using hne))
            rw [hnone] at hnew
            cases hnew
          subst hallocated
          obtain ⟨⟨actions, hrun⟩, hdone⟩ := consume_records_run mem dwfl s.buffer.data_tail
            s.buffer.data_head _
            { s with reader := .reading dwfl s.buffer.data_tail s.buffer.data_head callchains }
            rfl hloop
          have henter := Run.single (RingStep.enter dwfl true callchains hidle hempty hnew)
          have hleave := (henter.append hrun).snoc (.leave rfl hdone)
          rw [hidle]
          exact ⟨_, hleave⟩

-- For every interleaving, the finished calls consumed a prefix of the appended
-- records, each record once and in order, the call in progress took the next
-- ones, and the rest is still in the ring. A call in progress always returns.
theorem exactly_once_delivery {data : List UInt8} {tail : Nat} (htail : tail < 2 ^ 64)
    {actions : List ring_action} {s : ring_system}
    (h : Run RingStep (ring_system.start data tail) actions s) :
    (∃ consumed current pending, s.appended = consumed ++ current ++ pending ∧
      Delivers tail s.delivered consumed ∧
      s.buffer.data_tail = tail + sample_size consumed + sample_size current ∧
      s.buffer.Pending (pending.map sample_record.record) ∧
      (s.reader = .idle → current = [])) ∧
    ∃ more s', Run RingStep s more s' ∧ (∀ a ∈ more, a ≠ .append) ∧ s'.reader = .idle := by
  obtain ⟨consumed, current, pending, hinv⟩ := ring_run_invariant htail h
  refine ⟨⟨consumed, current, pending, hinv.appended_eq, hinv.delivers, hinv.tail_eq,
    hinv.ring, ?_⟩, reading_returns ⟨fun _ => 0, fun _ => NUL⟩ hinv⟩
  intro hidle
  simpa [hidle, reader_state.Consistent] using hinv.reader

-- A one-frame sample in a data area of forty bytes, starting five bytes before
-- its end: the header itself runs over the end.
theorem misc_zero_lt : 0 < 2 ^ 16 := by
  decide

def split_sample : sample_record where
  misc := 0
  ips := [42]
  misc_lt := misc_zero_lt
  ips_lt := by decide
  size_le := by decide

theorem exactly_once_delivery_split : ∃ s : ring_system, s.appended = [split_sample] ∧
    s.buffer.data_tail = 59 ∧ Delivers 35 s.delivered [split_sample] := by
  have happend : RingStep (ring_system.start (List.replicate 40 0) 35) .append _ :=
    .append split_sample (by decide) (by decide)
  have henter := (Run.single happend).snoc (.enter none true ⟨List.replicate 1024 NUL, 1024, 0⟩
    rfl (by decide) (by rfl))
  have hround := henter.snoc (.round ⟨fun _ => 0, fun _ => NUL⟩ rfl (by decide))
  have hrun := hround.snoc (.leave rfl (by decide))
  obtain ⟨⟨consumed, current, pending, happended, hdelivers, htail, hring, hidle⟩, -⟩ :=
    exactly_once_delivery (by decide) hrun
  obtain rfl := hidle rfl
  have htail' : (59 : Nat) = 35 + sample_size consumed := htail
  cases consumed with
  | nil => simp at htail'
  | cons sample rest =>
      have hone : [split_sample] = sample :: rest ++ [] ++ pending := happended
      simp only [List.append_nil, List.cons_append, List.cons.injEq, List.nil_eq,
        List.append_eq_nil_iff] at hone
      obtain ⟨rfl, rfl, -⟩ := hone
      exact ⟨_, by rfl, by rfl, hdelivers⟩

end HwpcSensor.Perf
