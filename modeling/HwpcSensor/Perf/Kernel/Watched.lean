import HwpcSensor.Perf.Kernel.Ticks
import HwpcSensor.Perf.Populate.Walk
import Mathlib.Algebra.Order.Field.Basic
import Mathlib.Algebra.Order.Field.Rat

namespace HwpcSensor.Perf

open Interaction Syscall Transition

-- A read of a leader: what its times were when the counts were last reset, whether
-- the counts were reset after it, and whether a warning came after it.
structure timed_read where
  reading : reading
  before : Nat × Nat
  complete : Bool
  warned : Bool

namespace timed_read

-- The time for which the counters that were read have counted.
def interval (x : timed_read) : Nat × Nat :=
  (x.reading.time_enabled - x.before.1, x.reading.time_running - x.before.2)

def with_complete (x : timed_read) : timed_read := { x with complete := true }

def with_warned (x : timed_read) : timed_read := { x with warned := true }

-- In every stretch of time a group runs for no longer than it is enabled.
structure Clocked (x : timed_read) : Prop where
  before : x.before.2 ≤ x.before.1
  grown : ∃ enabled running, running ≤ enabled ∧
    x.reading.time_enabled = x.before.1 + enabled ∧ x.reading.time_running = x.before.2 + running

end timed_read

def revise_last (f : timed_read → timed_read) (reads : List timed_read) : List timed_read :=
  reads.dropLast ++ (reads.getLast?.map f).toList

@[simp] theorem revise_last_concat (f : timed_read → timed_read) (reads : List timed_read)
    (x : timed_read) : revise_last f (reads ++ [x]) = reads ++ [f x] := by
  simp [revise_last]

theorem revise_last_forall {P : timed_read → Prop} {f : timed_read → timed_read}
    {reads : List timed_read} (h : ∀ x ∈ reads, P x) (hf : ∀ x, P x → P (f x)) :
    ∀ x ∈ revise_last f reads, P x := by
  rcases reads.eq_nil_or_concat' with rfl | ⟨reads, x, rfl⟩
  · simp [revise_last]
  · rw [revise_last_concat]
    obtain ⟨hreads, hx⟩ := List.forall_mem_append.mp h
    exact List.forall_mem_append.mpr ⟨hreads, by simpa using hf x (by simpa using hx)⟩

theorem map_reading_revise_last {f : timed_read → timed_read}
    (hf : ∀ x, (f x).reading = x.reading) (reads : List timed_read) :
    (revise_last f reads).map timed_read.reading = reads.map timed_read.reading := by
  rcases reads.eq_nil_or_concat' with rfl | ⟨reads, x, rfl⟩
  · rfl
  · rw [revise_last_concat]
    simp [hf]

-- The kernel with the times at the last reset of each leader, and the reads so far.
structure watched where
  kernel : kernel
  reset_at : Int → Nat × Nat
  reads : List timed_read

namespace watched

-- Each call, with the kernel after it.
def watch (s : watched) (after : Perf.kernel) : (call : syscall) → syscall_answer call → watched
  | .read fd _, some _ =>
      ⟨after, s.reset_at, s.reads ++ [⟨after.reading fd, s.reset_at fd, false, false⟩]⟩
  | .ioctl_reset fd, err =>
      if (show Int from err) = 0 then
        ⟨after, Function.update s.reset_at fd (after.times fd),
          revise_last timed_read.with_complete s.reads⟩
      else ⟨after, s.reset_at, s.reads⟩
  | .warning, _ => ⟨after, s.reset_at, revise_last timed_read.with_warned s.reads⟩
  | _, _ => ⟨after, s.reset_at, s.reads⟩

-- The times only grow, and the time for which a group runs does not grow faster
-- than the one for which it is enabled.
def ClocksAdvance (before after : Perf.kernel) : Prop :=
  ∀ fd, ∃ enabled running, running ≤ enabled ∧
    after.times fd = ((before.times fd).1 + enabled, (before.times fd).2 + running)

def step (atomic : Prop) : Semantics syscall syscall_answer watched :=
  fun s call answer s' => ∃ after, Perf.kernel.step atomic s.kernel call answer after ∧
    ClocksAdvance s.kernel after ∧ s' = s.watch after call answer

theorem watch_kernel (s : watched) (after : Perf.kernel) (call : syscall)
    (answer : syscall_answer call) : (s.watch after call answer).kernel = after := by
  unfold watch
  split
  · rfl
  · split_ifs <;> rfl
  · rfl
  · rfl

variable {atomic : Prop} {s s' : watched}

theorem step_kernel {call : syscall} {answer : syscall_answer call}
    (h : watched.step atomic s call answer s') :
    Perf.kernel.step atomic s.kernel call answer s'.kernel := by
  obtain ⟨after, hstep, -, rfl⟩ := h
  rw [watch_kernel]
  exact hstep

theorem exec_kernel {α : Type} {program : program α} {result : α}
    (h : Exec (watched.step atomic) program s result s') :
    Exec (Perf.kernel.step atomic) program s.kernel result s'.kernel :=
  h.project watched.kernel fun _ _ _ _ => step_kernel

-- The reads that the kernel has on record, and the times of each leader.
structure Clocked (old : List reading) (s : watched) : Prop where
  readings : s.kernel.readings = old ++ s.reads.map timed_read.reading
  resets : ∀ fd, (s.reset_at fd).2 ≤ (s.reset_at fd).1
  grown : ∀ fd, ∃ enabled running, running ≤ enabled ∧
    s.kernel.times fd = ((s.reset_at fd).1 + enabled, (s.reset_at fd).2 + running)
  reads : ∀ x ∈ s.reads, x.Clocked

theorem Clocked.advance {old : List reading} {after : Perf.kernel} (h : Clocked old s)
    (hadvance : ClocksAdvance s.kernel after) (fd : Int) : ∃ enabled running, running ≤ enabled ∧
      after.times fd = ((s.reset_at fd).1 + enabled, (s.reset_at fd).2 + running) := by
  obtain ⟨enabled, running, hle, htimes⟩ := h.grown fd
  obtain ⟨enabled', running', hle', htimes'⟩ := hadvance fd
  refine ⟨enabled + enabled', running + running', Nat.add_le_add hle hle', ?_⟩
  rw [htimes', htimes, Nat.add_assoc, Nat.add_assoc]

-- A read shows the times that the clocks have come to.
theorem Clocked.read {old : List reading} {after : Perf.kernel} {fd : Int} (h : Clocked old s)
    (hadvance : ClocksAdvance s.kernel after)
    (hreadings : after.readings = s.kernel.readings ++ [after.reading fd]) :
    Clocked old ⟨after, s.reset_at,
      s.reads ++ [⟨after.reading fd, s.reset_at fd, false, false⟩]⟩ := by
  refine ⟨?_, h.resets, h.advance hadvance, ?_⟩
  · simp only [hreadings, h.readings, List.map_append, List.append_assoc]
    rfl
  · refine List.forall_mem_append.mpr ⟨h.reads, List.forall_mem_singleton.mpr ?_⟩
    obtain ⟨enabled, running, hle, htimes⟩ := h.advance hadvance fd
    exact ⟨h.resets fd, enabled, running, hle, congrArg Prod.fst htimes,
      congrArg Prod.snd htimes⟩

-- From a reset on, the clocks of a leader are compared with what they are now.
theorem Clocked.reset {old : List reading} {after : Perf.kernel} {fd : Int} (h : Clocked old s)
    (hadvance : ClocksAdvance s.kernel after)
    (hreadings : after.readings = old ++ s.reads.map timed_read.reading) :
    Clocked old ⟨after, Function.update s.reset_at fd (after.times fd),
      revise_last timed_read.with_complete s.reads⟩ := by
  refine ⟨?_, fun other => ?_, fun other => ?_,
    revise_last_forall h.reads fun x hx => ⟨hx.before, hx.grown⟩⟩
  · dsimp only
    rw [map_reading_revise_last (f := timed_read.with_complete) fun _ => rfl]
    exact hreadings
  · dsimp only
    by_cases hother : other = fd
    · subst hother
      rw [Function.update_self]
      obtain ⟨enabled, running, hle, htimes⟩ := h.advance hadvance other
      rw [htimes]
      exact Nat.add_le_add (h.resets other) hle
    · rw [Function.update_of_ne hother]
      exact h.resets other
  · dsimp only
    by_cases hother : other = fd
    · subst hother
      rw [Function.update_self]
      exact ⟨0, 0, Nat.le_refl 0, rfl⟩
    · rw [Function.update_of_ne hother]
      exact h.advance hadvance other

theorem Clocked.step {old : List reading} {call : syscall} {answer : syscall_answer call}
    (h : Clocked old s) (hstep : watched.step atomic s call answer s') : Clocked old s' := by
  obtain ⟨after, hkernel, hadvance, rfl⟩ := hstep
  have hgrown := h.advance hadvance
  cases call with
  | read fd size =>
      obtain ⟨m, hbetween, hserve⟩ := hkernel
      cases answer with
      | none =>
          obtain rfl : after = m.forget := hserve
          exact ⟨hbetween.still.readings.trans h.readings, h.resets, hgrown, h.reads⟩
      | some report =>
          obtain ⟨-, -, -, rfl⟩ := hserve
          exact h.read hadvance (congrArg (· ++ [m.reading fd]) hbetween.still.readings)
  | ioctl_reset fd =>
      have hreadings := (step_readings hkernel (by simp)).trans h.readings
      simp only [watch]
      split_ifs
      · exact h.reset hadvance hreadings
      · exact ⟨hreadings, h.resets, hgrown, h.reads⟩
  | warning =>
      refine ⟨?_, h.resets, hgrown, revise_last_forall h.reads fun x hx => ⟨hx.before, hx.grown⟩⟩
      simp only [watch]
      rw [map_reading_revise_last (f := timed_read.with_warned) fun _ => rfl]
      exact (step_readings hkernel (by simp)).trans h.readings
  | _ => exact ⟨(step_readings hkernel (by simp)).trans h.readings, h.resets, hgrown, h.reads⟩

theorem exec_clocked {α : Type} {program : program α} {result : α} {old : List reading}
    (h : Exec (watched.step atomic) program s result s') (hstart : Clocked old s) :
    Clocked old s' :=
  h.preserves (Clocked old) (fun _ _ _ _ hs hstep => hs.step hstep) hstart

end watched

theorem ratio_lt_one_iff (report : perf_read_format) :
    compute_perf_multiplexing_ratio report < 1 ↔ report.time_running < report.time_enabled := by
  unfold compute_perf_multiplexing_ratio
  by_cases hzero : report.time_enabled = 0
  · rw [if_pos hzero, hzero]
    simp
  · have hpos : (0 : Rat) < report.time_enabled := by exact_mod_cast Nat.pos_of_ne_zero hzero
    rw [if_neg hzero, div_lt_one hpos]
    exact_mod_cast Iff.rfl

-- The warning comes for the whole time since the counters were enabled.
def timed_read.Warned (x : timed_read) : Prop :=
  x.warned = true ↔ x.complete = true ∧ x.reading.time_running < x.reading.time_enabled

-- The reads of a program, all of them complete when it ends well.
def Noted (ok : Prop) (s s' : watched) : Prop :=
  ∃ new, s'.reads = s.reads ++ new ∧ ∀ x ∈ new, x.Warned ∧ (ok → x.complete = true)

section Noted

variable {ok ok' ok'' : Prop} {s s' s'' : watched} {atomic : Prop}

theorem Noted.of_eq (h : s'.reads = s.reads) : Noted ok s s' :=
  ⟨[], by simpa using h, by simp⟩

theorem Noted.mono (h : Noted ok s s') (hok : ok' → ok) : Noted ok' s s' := by
  obtain ⟨new, hnew, hall⟩ := h
  exact ⟨new, hnew, fun x hx => ⟨(hall x hx).1, fun h' => (hall x hx).2 (hok h')⟩⟩

theorem Noted.trans (h : Noted ok s s') (h' : Noted ok' s' s'') (hok : ok'' → ok ∧ ok') :
    Noted ok'' s s'' := by
  obtain ⟨new, hnew, hall⟩ := h
  obtain ⟨new', hnew', hall'⟩ := h'
  refine ⟨new ++ new', by rw [hnew', hnew, List.append_assoc], List.forall_mem_append.mpr ⟨?_, ?_⟩⟩
  · exact fun x hx => ⟨(hall x hx).1, fun h'' => (hall x hx).2 (hok h'').1⟩
  · exact fun x hx => ⟨(hall' x hx).1, fun h'' => (hall' x hx).2 (hok h'').2⟩

-- The calls that leave the reads as they are.
def Unwatched : syscall → Prop
  | .read _ _ | .ioctl_reset _ | .warning => False
  | _ => True

theorem exec_unwatched {α : Type} {program : program α} {result : α}
    (huses : program.Uses Unwatched) (h : Exec (watched.step atomic) program s result s') :
    s'.reads = s.reads := by
  refine h.preserves_uses huses (fun t => t.reads = s.reads) ?_ rfl
  rintro t call answer t' hcall hreads ⟨after, -, -, rfl⟩
  cases call with
  | read | ioctl_reset | warning => exact False.elim hcall
  | _ => exact hreads

theorem exec_watched_read_cpu {cpu_ctx : perf_group_cpu_context} {size : Nat}
    {report : Option perf_read_format}
    (h : Exec (watched.step atomic) (perf_events_group_read_cpu cpu_ctx size) s report s') :
    match report with
    | none => Noted False s s'
    | some report => ∃ x, s'.reads = s.reads ++ [x] ∧ x.complete = true ∧ x.warned = false ∧
        report.time_enabled = x.reading.time_enabled ∧
        report.time_running = x.reading.time_running := by
  unfold perf_events_group_read_cpu at h
  cases hfds : cpu_ctx.perf_fds with
  | nil =>
      rw [hfds] at h
      obtain ⟨rfl, rfl⟩ := exec_pure.mp h
      exact Noted.of_eq rfl
  | cons leader fds =>
      rw [hfds] at h
      obtain ⟨answer, s₁, hread, h₁⟩ := exec_bind.mp h
      obtain ⟨after, ⟨m, -, hserve⟩, -, rfl⟩ := exec_perform.mp hread
      cases answer with
      | none =>
          obtain ⟨rfl, rfl⟩ := exec_pure.mp h₁
          exact Noted.of_eq rfl
      | some answer =>
          obtain ⟨-, -, hanswer, hafter⟩ := hserve
          obtain ⟨err, s₂, hreset, h₂⟩ := exec_bind.mp h₁
          obtain ⟨after', -, -, rfl⟩ := exec_perform.mp hreset
          by_cases herr : err = 0
          · rw [if_neg (by simpa using herr)] at h₂
            obtain ⟨rfl, rfl⟩ := exec_pure.mp h₂
            subst herr
            refine ⟨⟨after.reading leader, s.reset_at leader, true, false⟩, ?_, rfl, rfl, ?_, ?_⟩
            · simp [watched.watch, timed_read.with_complete]
            · rw [hanswer, hafter]
              rfl
            · rw [hanswer, hafter]
              rfl
          · rw [if_pos herr] at h₂
            obtain ⟨rfl, rfl⟩ := exec_pure.mp h₂
            refine ⟨[⟨after.reading leader, s.reset_at leader, false, false⟩], ?_, ?_⟩
            · simp only [watched.watch]
              rw [if_neg herr]
            · exact List.forall_mem_singleton.mpr
                ⟨⟨fun h => absurd h (by simp), fun h => absurd h.1 (by simp)⟩, False.elim⟩

theorem exec_warn_multiplexing {report : perf_read_format} {reads : List timed_read}
    {x : timed_read} (hreads : s.reads = reads ++ [x]) (hcomplete : x.complete = true)
    (hwarned : x.warned = false) (henabled : report.time_enabled = x.reading.time_enabled)
    (hrunning : report.time_running = x.reading.time_running)
    (h : Exec (watched.step atomic) (warn_multiplexing report) s () s') :
    ∃ y, s'.reads = reads ++ [y] ∧ y.Warned ∧ y.complete = true := by
  unfold warn_multiplexing at h
  by_cases hratio : compute_perf_multiplexing_ratio report < 1
  · rw [if_pos hratio] at h
    obtain ⟨after, -, -, rfl⟩ := exec_perform.mp h
    refine ⟨x.with_warned, ?_, ?_, hcomplete⟩
    · simp only [watched.watch, hreads, revise_last_concat]
    · rw [ratio_lt_one_iff, henabled, hrunning] at hratio
      exact iff_of_true rfl ⟨hcomplete, hratio⟩
  · rw [if_neg hratio] at h
    obtain ⟨-, rfl⟩ := exec_pure.mp h
    refine ⟨x, hreads, ?_, hcomplete⟩
    rw [ratio_lt_one_iff, henabled, hrunning] at hratio
    exact iff_of_false (by simp [hwarned]) fun h => hratio h.2

variable {order : hash_order} {dwfl : Option Dwfl} {group : events_group} {state : populate_state}
  {result : Int × populate_state}

theorem unwatched_store_callchain (buffer : Option Nat) (events : zhashx event_value) :
    (store_callchain order dwfl buffer events).Uses Unwatched := by
  unfold store_callchain
  cases buffer with
  | none => exact Prog.Uses.pure _
  | some buffer =>
      refine Prog.Uses.bind (Prog.Uses.perform trivial) fun callchain => ?_
      cases callchain <;> exact Prog.Uses.pure _

theorem exec_watched_malloc {allocated : Bool}
    (h : Exec (watched.step atomic) malloc s allocated s') :
    allocated = true ∧ s'.reads = s.reads :=
  ⟨(exec_malloc_still (watched.exec_kernel h)).1,
    exec_unwatched (Prog.Uses.perform (show Unwatched .malloc from trivial)) h⟩

theorem noted_populate_cpu {item : String × perf_group_cpu_context}
    (h : Exec (watched.step atomic) (populate_cpu order dwfl group item state) s result s') :
    Noted (result.1 = 0) s s' := by
  obtain ⟨allocated, s₁, hmalloc, h₁⟩ := exec_bind.mp h
  obtain ⟨rfl, hreads₁⟩ := exec_watched_malloc hmalloc
  rw [if_neg (by simp)] at h₁
  obtain ⟨report, s₂, hread, h₂⟩ := exec_bind.mp h₁
  have hnoted := exec_watched_read_cpu hread
  cases report with
  | none =>
      obtain ⟨rfl, rfl⟩ := exec_pure.mp h₂
      exact (Noted.of_eq hreads₁ : Noted False s s₁).trans hnoted fun h => absurd h (by simp)
  | some report =>
      obtain ⟨x, hx, hcomplete, hwarned, henabled, hrunning⟩ := hnoted
      obtain ⟨_, s₃, hwarn, h₃⟩ := exec_bind.mp h₂
      obtain ⟨y, hy, hright, hcomplete'⟩ :=
        exec_warn_multiplexing hx hcomplete hwarned henabled hrunning hwarn
      obtain ⟨events, s₄, hcallchain, h₄⟩ := exec_bind.mp h₃
      obtain ⟨rfl, rfl⟩ := exec_pure.mp h₄
      have hreads₄ := exec_unwatched (unwatched_store_callchain _ _) hcallchain
      refine ⟨[y], by rw [hreads₄, hy, hreads₁], ?_⟩
      exact List.forall_mem_singleton.mpr ⟨hright, fun _ => hcomplete'⟩

theorem noted_populate_payload {ctx : perf_context} {payload : payload}
    (h : Exec (watched.step atomic) (populate_payload order ctx payload) s result s') :
    Noted (result.1 = 0) s s' := by
  have hinv : PopulateInvariant (.executions (watched.step atomic)) order ctx.dwfl
      (read_groups ctx) (fun _ _ t => Noted True s t) fun _ t => Noted False s t := by
    refine PopulateInvariant.of_state (fun hnoted allocated t' hmalloc => ?_) ?_
    · obtain ⟨rfl, hreads⟩ := exec_watched_malloc hmalloc
      refine ⟨fun hnone => absurd hnone (by simp), fun _ => ?_⟩
      exact hnoted.trans (Noted.of_eq hreads : Noted True _ _) fun _ => ⟨trivial, trivial⟩
    · intro done group item state t _ hnoted result t' hexec
      have hcpu := noted_populate_cpu hexec
      exact ⟨fun hzero => hnoted.trans hcpu fun _ => ⟨trivial, hzero⟩,
        fun _ => hnoted.trans hcpu False.elim⟩
  obtain ⟨hdone, hfailed⟩ := hinv.payload_walk (Noted.of_eq rfl) _ _ h
  by_cases hzero : result.1 = 0
  · exact (hdone hzero).mono fun _ => trivial
  · exact (hfailed hzero).mono fun hok => hzero hok

end Noted

end HwpcSensor.Perf
