import HwpcSensor.Perf.Kernel

namespace HwpcSensor.Perf

open Interaction

-- A call of `get_callchains` drains the ring.
theorem ring.get_callchains_drained (r : ring) (mem : memory) (dwfl : Option Dwfl) :
    ∃ text, get_callchains mem true dwfl r.page = some (r.drained.page, text) := by
  by_cases hempty : r.records = []
  · have hhead : r.page.data_head = r.page.data_tail := by
      rw [r.pending.head_eq, hempty]
      rfl
    have hdrained : r.drained.page = { r.page with data_tail := r.page.data_tail } := by
      change { r.page with data_tail := r.page.data_head } = _
      rw [hhead]
    refine ⟨none, ?_⟩
    unfold get_callchains
    rw [if_pos hhead, hdrained]
  · obtain ⟨views, -, hcall⟩ := get_callchains_spec mem dwfl r.pending (by simpa using hempty)
    exact ⟨_, hcall⟩

namespace kernel

-- Every enabled counter counts once, unless a leader has just been read.
def count_once (s : kernel) : kernel :=
  let counts : Int → Nat := fun fd => if s.enabled fd ∧ s.last_read = none then 1 else 0
  { s with
    value := fun fd => s.value fd + counts fd
    counted := fun fd => s.counted fd + counts fd }

theorem between_count_once (atomic : Prop) (s : kernel) : Between atomic s s.count_once := by
  refine .count _ s.times s.rings ?_ ?_
  · intro fd hcounts
    by_cases h : s.enabled fd ∧ s.last_read = none
    · exact ⟨h.1, fun _ leader hleader => by rw [h.2] at hleader; exact absurd hleader (by simp)⟩
    · rw [if_neg h] at hcounts
      omega
  · intro buffer
    cases s.rings buffer with
    | none => exact .none
    | some r => exact .some .refl

theorem between_refl (atomic : Prop) (s : kernel) : Between atomic s s := by
  refine .count (fun _ => 0) s.times s.rings (fun fd hcounts => absurd hcounts (by simp)) ?_
  intro buffer
  cases s.rings buffer with
  | none => exact .none
  | some r => exact .some .refl

end kernel

def blank : memory := ⟨fun _ => 0, fun _ => NUL⟩

-- Nothing is open yet.
def idle : kernel where
  wiring := ⟨[], fun _ => ⟨⟨0, 0, false, 0, false, false, false, false, 0, 0, false, false, false⟩,
    0, 0, 0, 0⟩, List.nodup_nil, by simp⟩
  value := fun _ => 0
  enabled := fun _ => false
  times := fun _ => (0, 0)
  rings := fun _ => none
  last_read := none
  counted := fun _ => 0
  taken := fun _ => 0
  readings := []
  consumed := []
  sent := []

def new_ring : ring where
  page := ⟨[], 0, 0⟩
  records := []
  pending := ⟨rfl, by decide, Nat.zero_le _, rfl⟩

theorem descriptor_nonneg (opened : List Int) : 0 ≤ (3 + opened.length : Int) := by
  omega

-- A kernel that can be run: it counts at each allocation, gives counters as long
-- as it has numbers for them, maps nothing, and answers the reads of the leaders
-- it is told to.
def counting (answers : Int → Bool) (s : kernel) :
    (call : syscall) → syscall_answer call × kernel
  | .malloc => (true, s.count_once.forget)
  | .open _ => ((-1 : Int), s.forget)
  | .perf_event_open attr pid cpu group_fd flags =>
      let fd : Int := 3 + s.wiring.opened.length
      if hfresh : fd ∉ s.wiring.opened then
        (fd, s.add fd ⟨attr, pid, cpu, group_fd, flags⟩ hfresh (descriptor_nonneg _))
      else ((-1 : Int), s.forget)
  | .mmap _ => (none, s.forget)
  | .close fd => ((), s.close fd)
  | .ioctl_reset fd =>
      if fd ∈ s.wiring.opened then ((0 : Int), s.reset fd) else ((-1 : Int), s.forget)
  | .ioctl_enable fd =>
      if fd ∈ s.wiring.opened then ((0 : Int), s.enable fd) else ((-1 : Int), s.forget)
  | .read fd size =>
      if answers fd = true ∧ fd ∈ s.wiring.opened ∧
          size = perf_read_size (s.members fd).length then (some (s.report fd), s.read fd)
      else (none, s.forget)
  | .get_callchains buffer dwfl =>
      match s.rings buffer with
      | none => (none, s.forget)
      | some r =>
          let text := (get_callchains blank true dwfl r.page).bind Prod.snd
          (text, s.consume buffer dwfl r text)
  | .fopen _ => (none, s.forget)
  | .getline _ => (none, s.forget)
  | .fgets _ => (none, s.forget)
  | .fclose _ => ((), s.forget)
  | .init_dwfl _ => (none, s.forget)
  | .dwfl_end => ((), s.forget)
  | .warning => ((), s.forget)
  | .send payload => ((), s.send payload)

theorem counting_step (atomic : Prop) (answers : Int → Bool) (s : kernel) (call : syscall) :
    kernel.step atomic s call (counting answers s call).1 (counting answers s call).2 := by
  have hstay := kernel.between_refl atomic s
  cases call with
  | malloc => exact ⟨_, kernel.between_count_once atomic s, rfl, rfl⟩
  | perf_event_open attr pid cpu group_fd flags =>
      refine ⟨s, hstay, ?_⟩
      simp only [counting]
      by_cases hfresh : 3 + (s.wiring.opened.length : Int) ∉ s.wiring.opened
      · rw [dif_pos hfresh]
        exact Or.inr ⟨hfresh, by omega, rfl⟩
      · rw [dif_neg hfresh]
        exact Or.inl ⟨Int.negSucc_lt_zero 0, rfl⟩
  | ioctl_reset fd =>
      refine ⟨s, hstay, ?_⟩
      simp only [counting]
      by_cases hopened : fd ∈ s.wiring.opened
      · rw [if_pos hopened]
        exact Or.inl ⟨rfl, hopened, rfl⟩
      · rw [if_neg hopened]
        exact Or.inr ⟨Int.negSucc_ne_zero 0, rfl⟩
  | ioctl_enable fd =>
      refine ⟨s, hstay, ?_⟩
      simp only [counting]
      by_cases hopened : fd ∈ s.wiring.opened
      · rw [if_pos hopened]
        exact Or.inl ⟨rfl, hopened, rfl⟩
      · rw [if_neg hopened]
        exact Or.inr ⟨Int.negSucc_ne_zero 0, rfl⟩
  | read fd size =>
      refine ⟨s, hstay, ?_⟩
      simp only [counting]
      by_cases hanswered : answers fd = true ∧ fd ∈ s.wiring.opened ∧
          size = perf_read_size (s.members fd).length
      · rw [if_pos hanswered]
        exact ⟨hanswered.2.1, hanswered.2.2, rfl, rfl⟩
      · rw [if_neg hanswered]
        rfl
  | get_callchains buffer dwfl =>
      refine ⟨s, hstay, ?_⟩
      simp only [counting, kernel.Serve]
      cases s.rings buffer with
      | none => rfl
      | some r =>
          obtain ⟨text, hcall⟩ := r.get_callchains_drained blank dwfl
          dsimp only
          rw [hcall]
          exact ⟨blank, hcall, rfl⟩
  | _ => exact ⟨s, hstay, rfl⟩

end HwpcSensor.Perf
