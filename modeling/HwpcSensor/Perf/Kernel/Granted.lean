import HwpcSensor.Perf.Kernel.Attribution
import HwpcSensor.Perf.Populate.Walk
import Mathlib.Data.Finset.Defs
import Mathlib.Order.Interval.Finset.Nat

namespace HwpcSensor.Perf

open Interaction Syscall

-- The calls that the actor depends on succeed. With `taken`, number 0 is in use
-- already, as it is for a standard input. A read succeeds when it asks an open
-- leader for its whole group.
def Granted (taken : Prop) (s : kernel) : (call : syscall) → syscall_answer call → Prop
  | .open _, fd => (0 : Int) ≤ fd ∧ (taken → fd ≠ (0 : Int))
  | .perf_event_open _ _ _ _ _, fd => (0 : Int) ≤ fd ∧ (taken → fd ≠ (0 : Int))
  | .mmap _, buffer => buffer ≠ none
  | .ioctl_reset fd, err => fd ∈ s.wiring.opened → err = (0 : Int)
  | .ioctl_enable fd, err => fd ∈ s.wiring.opened → err = (0 : Int)
  | .read fd size, report => fd ∈ s.wiring.opened →
      size = perf_read_size (s.members fd).length → report ≠ none
  | _, _ => True

def granted_step (taken : Prop) : Semantics syscall syscall_answer kernel :=
  fun s call answer s' => kernel.step False s call answer s' ∧ Granted taken s call answer

-- Number 0 is given out as soon as it is free.
def GivesZero (s : kernel) : (call : syscall) → syscall_answer call → Prop
  | .open _, fd => fd = (0 : Int)
  | .perf_event_open _ _ _ _ _, fd => (0 : Int) ∉ s.wiring.opened → fd = (0 : Int)
  | _, _ => True

def zero_step : Semantics syscall syscall_answer kernel :=
  fun s call answer s' => granted_step False s call answer s' ∧ GivesZero s call answer

section Progress

variable {taken : Prop} {s s' : kernel}

theorem exec_of_granted {α : Type} {program : program α} {result : α}
    (h : Exec (granted_step taken) program s result s') :
    Exec (kernel.step False) program s result s' :=
  h.mono fun _ _ _ _ hstep => hstep.1

theorem exec_of_zero (hfree : ¬taken) {α : Type} {program : program α} {result : α}
    (h : Exec zero_step program s result s') :
    Exec (granted_step taken) program s result s' := by
  refine h.mono fun t call answer t' hstep => ⟨hstep.1.1, ?_⟩
  have hgranted := hstep.1.2
  cases call with
  | «open» path => exact ⟨hgranted.1, fun h => absurd h hfree⟩
  | perf_event_open attr pid cpu group_fd flags =>
      exact ⟨hgranted.1, fun h => absurd h hfree⟩
  | _ => exact hgranted

-- There are addresses left to map at.
def Roomy (s : kernel) : Prop :=
  ∃ bound, ∀ buffer, bound ≤ buffer → s.rings buffer = none

theorem Roomy.update {bound buffer : Nat} {r : ring} {rings : Nat → Option ring}
    (h : ∀ other, bound ≤ other → rings other = none) :
    ∃ bound, ∀ other, bound ≤ other → Function.update rings buffer (some r) other = none := by
  refine ⟨max bound (buffer + 1), fun other hother => ?_⟩
  rw [Function.update_of_ne (by omega)]
  exact h other (by omega)

theorem Roomy.between {atomic : Prop} (h : Roomy s) (hbetween : kernel.Between atomic s s') :
    Roomy s' := by
  obtain ⟨bound, hbound⟩ := h
  cases hbetween with
  | count counts times rings hcounts hrings =>
      refine ⟨bound, fun buffer hbuffer => ?_⟩
      have hrel := hrings buffer
      rw [hbound buffer hbuffer] at hrel
      cases hring : rings buffer with
      | none => exact hring
      | some r =>
          rw [hring] at hrel
          cases hrel

theorem Roomy.effect {call : syscall} (h : Roomy s) (heffect : kernel.Effect s call s') :
    Roomy s' := by
  obtain ⟨bound, hbound⟩ := h
  cases heffect with
  | map => exact Roomy.update hbound
  | consume => exact Roomy.update hbound
  | _ => exact ⟨bound, hbound⟩

theorem exec_roomy {atomic : Prop} {α : Type} {program : program α} {result : α} (h : Roomy s)
    (hexec : Exec (kernel.step atomic) program s result s') : Roomy s' := by
  refine hexec.preserves Roomy ?_ h
  intro t call answer t' hroomy hstep
  obtain ⟨m, hbetween, heffect⟩ := kernel.step_effect hstep
  exact (hroomy.between hbetween).effect heffect

theorem exists_fresh (opened : List Int) : ∃ fd : Int, 0 < fd ∧ fd ∉ opened := by
  obtain ⟨n, hn⟩ := Infinite.exists_notMem_finset (opened.map fun fd => fd.toNat - 1).toFinset
  refine ⟨n + 1, by omega, fun hmem => hn ?_⟩
  exact List.mem_toFinset.mpr (List.mem_map.mpr ⟨n + 1, hmem, by omega⟩)

-- How a kernel that has addresses left grants a call.
theorem exists_granted (taken : Prop) (hroomy : Roomy s) (call : syscall) :
    ∃ answer s', s.Serve call answer s' ∧ Granted taken s call answer := by
  cases call with
  | malloc => exact ⟨true, _, ⟨rfl, rfl⟩, trivial⟩
  | «open» path => exact ⟨(1 : Int), _, rfl, Int.one_nonneg, fun _ => Int.one_ne_zero⟩
  | perf_event_open attr pid cpu group_fd flags =>
      obtain ⟨fd, hpos, hfresh⟩ := exists_fresh s.wiring.opened
      exact ⟨fd, _, Or.inr ⟨hfresh, hpos.le, rfl⟩, hpos.le, fun _ => hpos.ne'⟩
  | mmap fd =>
      obtain ⟨bound, hbound⟩ := hroomy
      exact ⟨some bound, _, ⟨hbound bound (Nat.le_refl _), new_ring, rfl, rfl⟩,
        Option.some_ne_none bound⟩
  | close fd => exact ⟨(), _, rfl, trivial⟩
  | ioctl_reset fd =>
      by_cases hopened : fd ∈ s.wiring.opened
      · exact ⟨(0 : Int), _, Or.inl ⟨rfl, hopened, rfl⟩, fun _ => rfl⟩
      · exact ⟨(1 : Int), _, Or.inr ⟨Int.one_ne_zero, rfl⟩, fun h => absurd h hopened⟩
  | ioctl_enable fd =>
      by_cases hopened : fd ∈ s.wiring.opened
      · exact ⟨(0 : Int), _, Or.inl ⟨rfl, hopened, rfl⟩, fun _ => rfl⟩
      · exact ⟨(1 : Int), _, Or.inr ⟨Int.one_ne_zero, rfl⟩, fun h => absurd h hopened⟩
  | read fd size =>
      by_cases hfull : fd ∈ s.wiring.opened ∧ size = perf_read_size (s.members fd).length
      · exact ⟨some (s.report fd), _, ⟨hfull.1, hfull.2, rfl, rfl⟩,
          fun _ _ => Option.some_ne_none _⟩
      · exact ⟨none, _, rfl, fun hopened hsize => absurd ⟨hopened, hsize⟩ hfull⟩
  | get_callchains buffer dwfl =>
      cases hring : s.rings buffer with
      | none =>
          refine ⟨none, s.forget, ?_, trivial⟩
          simp only [kernel.Serve, hring]
      | some r =>
          obtain ⟨text, hcall⟩ := r.get_callchains_drained blank dwfl
          refine ⟨text, s.consume buffer dwfl r text, ?_, trivial⟩
          simp only [kernel.Serve, hring]
          exact ⟨blank, hcall, trivial⟩
  | fopen path => exact ⟨none, _, rfl, trivial⟩
  | getline stream => exact ⟨none, _, rfl, trivial⟩
  | fgets stream => exact ⟨none, _, rfl, trivial⟩
  | fclose stream => exact ⟨(), _, rfl, trivial⟩
  | init_dwfl pid => exact ⟨none, _, rfl, trivial⟩
  | dwfl_end => exact ⟨(), _, rfl, trivial⟩
  | warning => exact ⟨(), _, rfl, trivial⟩
  | send payload => exact ⟨(), _, rfl, trivial⟩

theorem exists_zero (hroomy : Roomy s) (call : syscall) :
    ∃ answer s', s.Serve call answer s' ∧ Granted False s call answer ∧
      GivesZero s call answer := by
  obtain ⟨answer, s', hserve, hgranted⟩ := exists_granted False hroomy call
  cases call with
  | «open» path => exact ⟨(0 : Int), _, rfl, ⟨Int.le_refl 0, False.elim⟩, rfl⟩
  | perf_event_open attr pid cpu group_fd flags =>
      by_cases hzero : (0 : Int) ∈ s.wiring.opened
      · exact ⟨answer, s', hserve, hgranted, fun hfree => absurd hzero hfree⟩
      · exact ⟨(0 : Int), _, Or.inr ⟨hzero, Int.le_refl 0, rfl⟩, ⟨Int.le_refl 0, False.elim⟩,
          fun _ => rfl⟩
  | _ => exact ⟨answer, s', hserve, hgranted, trivial⟩

theorem step_of_serve {call : syscall} {answer : syscall_answer call} (hroomy : Roomy s)
    (hserve : s.Serve call answer s') : kernel.step False s call answer s' ∧ Roomy s' := by
  have hstep : kernel.step False s call answer s' := ⟨s, kernel.between_refl False s, hserve⟩
  obtain ⟨m, hbetween, heffect⟩ := kernel.step_effect hstep
  exact ⟨hstep, (hroomy.between hbetween).effect heffect⟩

theorem granted_total (taken : Prop) (s : kernel) (call : syscall) (hroomy : Roomy s) :
    ∃ answer s', granted_step taken s call answer s' ∧ Roomy s' := by
  obtain ⟨answer, s', hserve, hgranted⟩ := exists_granted taken hroomy call
  obtain ⟨hstep, hroomy'⟩ := step_of_serve hroomy hserve
  exact ⟨answer, s', ⟨hstep, hgranted⟩, hroomy'⟩

theorem zero_total (s : kernel) (call : syscall) (hroomy : Roomy s) :
    ∃ answer s', zero_step s call answer s' ∧ Roomy s' := by
  obtain ⟨answer, s', hserve, hgranted, hzero⟩ := exists_zero hroomy call
  obtain ⟨hstep, hroomy'⟩ := step_of_serve hroomy hserve
  exact ⟨answer, s', ⟨⟨hstep, hgranted⟩, hzero⟩, hroomy'⟩

end Progress

section Setup

variable {taken : Prop} {order : hash_order} {perf_flags : Nat} {t t' : kernel}

theorem granted_open_events (htaken : taken) {ctx : perf_context} {cpu group_fd : Int}
    {events : List event_config} {cpu_ctx : perf_group_cpu_context}
    {result : Int × perf_group_cpu_context}
    (h : Exec (granted_step taken) (open_events ctx perf_flags cpu group_fd events cpu_ctx) t
      result t') : result.1 = 0 := by
  induction events generalizing group_fd cpu_ctx t with
  | nil =>
      obtain ⟨rfl, -⟩ := exec_pure.mp h
      rfl
  | cons event rest ih =>
      unfold open_events at h
      by_cases hleads : group_fd = -1 ∧ ctx.cgroup_fd > -1
      · rw [if_pos hleads] at h
        obtain ⟨fd, t₁, hopen, h₁⟩ := exec_bind.mp h
        have hnonneg : (0 : Int) ≤ fd := (exec_perform.mp hopen).2.1
        have hfd : fd ≠ (0 : Int) := (exec_perform.mp hopen).2.2 htaken
        rw [if_neg (by omega)] at h₁
        obtain ⟨buffer, t₂, hmap, h₂⟩ := exec_bind.mp h₁
        cases buffer with
        | none => exact absurd rfl (exec_perform.mp hmap).2
        | some buffer => exact ih h₂
      · rw [if_neg hleads] at h
        obtain ⟨fd, t₁, hopen, h₁⟩ := exec_bind.mp h
        have hnonneg : (0 : Int) ≤ fd := (exec_perform.mp hopen).2.1
        have hfd : fd ≠ (0 : Int) := (exec_perform.mp hopen).2.2 htaken
        rw [if_neg (by omega)] at h₁
        exact ih h₁

theorem granted_malloc {allocated : Bool} (h : Exec (granted_step taken) malloc t allocated t') :
    allocated = true ∧ t'.wiring = t.wiring :=
  exec_malloc (exec_of_granted h)

theorem granted_setup_cpu (htaken : taken) {group : events_group} {cpu_id : String}
    {s : setup_state} {result : Int × setup_state} (hparse : parse_cpu_id cpu_id ≠ none)
    (h : Exec (granted_step taken) (setup_cpu order perf_flags group cpu_id s) t result t') :
    result.1 = 0 ∧ result.2.ctx = s.ctx := by
  obtain ⟨allocated, t₁, hmalloc, h₁⟩ := exec_bind.mp h
  obtain ⟨rfl, -⟩ := granted_malloc hmalloc
  rw [if_neg (by simp)] at h₁
  obtain ⟨setup, t₂, hsetup, h₂⟩ := exec_bind.mp h₁
  have hzero : setup.1 = 0 := by
    unfold perf_events_group_setup_cpu at hsetup
    cases hcpu : parse_cpu_id cpu_id with
    | none => exact absurd hcpu hparse
    | some cpu =>
        rw [hcpu] at hsetup
        exact granted_open_events htaken hsetup
  rw [if_neg (by simpa using hzero)] at h₂
  obtain ⟨rfl, -⟩ := exec_pure.mp h₂
  exact ⟨rfl, rfl⟩

-- No cpu fails when each of them has a number and 0 is not given out.
theorem granted_setup {hwinfo : HwpcSensor.hwinfo} {cpus : List (events_group × String)}
    (hcpus : ∀ cpu ∈ cpus, parse_cpu_id cpu.2 ≠ none ∧ taken) :
    SetupInvariant (.executions (granted_step taken)) order perf_flags hwinfo cpus
      (fun _ s _ => s.ctx.config.hwinfo = hwinfo) fun _ _ => False where
  hwinfo_eq := fun h => h
  malloc := fun h allocated t' hmalloc =>
    ⟨fun hnone => absurd ((granted_malloc hmalloc).1.symm.trans hnone) (by simp), fun _ => h⟩
  cpu := by
    intro done group cpu_id s t hpart h result t' hexec
    obtain ⟨hparse, htaken⟩ := hcpus (group, cpu_id) (hpart.subset (by simp))
    obtain ⟨hzero, hctx⟩ := granted_setup_cpu htaken hparse hexec
    have hkept : result.2.ctx.config.hwinfo = hwinfo := by
      rw [hctx]
      exact h
    exact ⟨fun _ => hkept, fun hne => hne hzero⟩
  group := fun _ h => h
  pkg := fun h => h
  store_group := fun group_name h => hwinfo_store_group h group_name
  store_pkg := fun pkg_id h => hwinfo_store_pkg h pkg_id
  no_group := fun h => h
  no_pkg := fun h => h

theorem granted_initialize {ctx : perf_context} {result : Int × perf_context}
    (hcgroup : ctx.config.target.cgroup_path ≠ none → taken)
    (hcpus : ∀ cpu ∈ config_cpus ctx.config.hwinfo ctx.config.events_groups,
      parse_cpu_id cpu.2 ≠ none ∧ taken)
    (h : Exec (granted_step taken) ( perf_events_groups_initialize order ctx) t result t') :
    result.1 = 0 := by
  have hgroups : ∀ {ctx' : perf_context} {perf_flags : Nat} {t₁ : kernel},
      Exec (granted_step taken) (setup_groups order perf_flags ctx') t₁ result t' →
      ctx'.config = ctx.config → result.1 = 0 := by
    intro ctx' perf_flags t₁ hexec hconfig
    rw [← hconfig] at hcpus
    exact (granted_setup hcpus).setup_groups (Q := fun result _ => result.1 = 0) rfl
      (fun _ _ _ => rfl) (fun _ _ hfalse => hfalse.elim) _ _ hexec
  unfold perf_events_groups_initialize at h
  cases hpath : ctx.config.target.cgroup_path with
  | none =>
      rw [hpath] at h
      exact hgroups h rfl
  | some cgroup_path =>
      rw [hpath] at h
      obtain ⟨fd, t₁, hopen, h₁⟩ := exec_bind.mp h
      have hnonneg : (0 : Int) ≤ fd := (exec_perform.mp hopen).2.1
      have hfd : fd ≠ (0 : Int) := (exec_perform.mp hopen).2.2 (hcgroup (by simp [hpath]))
      rw [if_neg (by omega)] at h₁
      exact hgroups h₁ rfl

end Setup

section Zero

variable {order : hash_order} {perf_flags : Nat} {t t' : kernel}

theorem zero_open_events {ctx : perf_context} {cpu : Int} {events : List event_config}
    {cpu_ctx : perf_group_cpu_context} {result : Int × perf_group_cpu_context}
    (hopened : t.wiring.opened = [])
    (h : Exec zero_step (open_events ctx perf_flags cpu (-1) events cpu_ctx) t result t')
    (hok : result.1 = 0) : t'.wiring.opened = [] := by
  cases events with
  | nil =>
      obtain ⟨-, rfl⟩ := exec_pure.mp h
      exact hopened
  | cons event rest =>
      -- the leader gets number 0, which counts as a failure
      exfalso
      have hfree : (0 : Int) ∉ t.wiring.opened := by simp [hopened]
      unfold open_events at h
      by_cases hleads : (-1 : Int) = -1 ∧ ctx.cgroup_fd > -1
      · rw [if_pos hleads] at h
        obtain ⟨fd, t₁, hopen, h₁⟩ := exec_bind.mp h
        have hfd : fd = (0 : Int) := (exec_perform.mp hopen).2 hfree
        rw [if_pos (by omega)] at h₁
        obtain ⟨rfl, -⟩ := exec_pure.mp h₁
        exact absurd hok (by simp)
      · rw [if_neg hleads] at h
        obtain ⟨fd, t₁, hopen, h₁⟩ := exec_bind.mp h
        have hfd : fd = (0 : Int) := (exec_perform.mp hopen).2 hfree
        rw [if_pos (by omega)] at h₁
        obtain ⟨rfl, -⟩ := exec_pure.mp h₁
        exact absurd hok (by simp)

theorem zero_malloc {allocated : Bool} (h : Exec zero_step malloc t allocated t') :
    allocated = true ∧ t'.wiring = t.wiring :=
  exec_malloc (exec_of_granted (exec_of_zero not_false h))

-- The set up gets past a cpu only when it opens nothing there.
theorem zero_setup {hwinfo : HwpcSensor.hwinfo} {cpus : List (events_group × String)} :
    SetupInvariant (.executions zero_step) order perf_flags hwinfo cpus
      (fun _ s t => s.ctx.config.hwinfo = hwinfo ∧ t.wiring.opened = []) fun _ _ => True where
  hwinfo_eq := fun h => h.1
  malloc := by
    intro done s t h allocated t' hmalloc
    refine ⟨fun _ => trivial, fun _ => ⟨h.1, ?_⟩⟩
    rw [(zero_malloc hmalloc).2]
    exact h.2
  cpu := by
    intro done group cpu_id s t _ h result t' hexec
    refine ⟨fun hok => ?_, fun _ => trivial⟩
    obtain ⟨allocated, t₁, hmalloc, h₁⟩ := exec_bind.mp hexec
    obtain ⟨rfl, hwiring⟩ := zero_malloc hmalloc
    rw [if_neg (by simp)] at h₁
    obtain ⟨setup, t₂, hsetup, h₂⟩ := exec_bind.mp h₁
    by_cases hzero : setup.1 = 0
    · rw [if_neg (by simpa using hzero)] at h₂
      obtain ⟨rfl, rfl⟩ := exec_pure.mp h₂
      refine ⟨h.1, ?_⟩
      unfold perf_events_group_setup_cpu at hsetup
      cases hcpu : parse_cpu_id cpu_id with
      | none =>
          rw [hcpu] at hsetup
          obtain ⟨rfl, -⟩ := exec_pure.mp hsetup
          exact absurd hzero (by simp)
      | some cpu =>
          rw [hcpu] at hsetup
          exact zero_open_events (hwiring ▸ h.2) hsetup hzero
    · rw [if_pos hzero] at h₂
      obtain ⟨rfl, -⟩ := exec_pure.mp h₂
      exact absurd hok (by simp)
  group := fun _ h => h
  pkg := fun h => h
  store_group := fun group_name h => ⟨hwinfo_store_group h.1 group_name, h.2⟩
  store_pkg := fun pkg_id h => ⟨hwinfo_store_pkg h.1 pkg_id, h.2⟩
  no_group := fun h => h
  no_pkg := fun h => h

theorem zero_initialize {ctx : perf_context} {result : Int × perf_context}
    (hopened : t.wiring.opened = [])
    (h : Exec zero_step ( perf_events_groups_initialize order ctx) t result t')
    (hok : result.1 = 0) :
    ctx.config.target.cgroup_path = none ∧ t'.wiring.opened = [] := by
  unfold perf_events_groups_initialize at h
  cases hpath : ctx.config.target.cgroup_path with
  | none =>
      rw [hpath] at h
      refine ⟨rfl, zero_setup.setup_groups
        (Q := fun result t' => result.1 = 0 → t'.wiring.opened = []) ⟨rfl, hopened⟩
        (fun _ _ hs _ => hs.2) (fun _ _ _ failed t' hfailed hzero => ?_) _ _ h hok⟩
      exact absurd hzero (by simp [initialize_error_result hfailed])
  | some cgroup_path =>
      rw [hpath] at h
      obtain ⟨fd, t₁, hopen, h₁⟩ := exec_bind.mp h
      have hfd : fd = (0 : Int) := (exec_perform.mp hopen).2
      rw [if_pos (by omega)] at h₁
      exact absurd hok (by simp [initialize_error_result h₁])

end Zero

section Populate

variable {taken : Prop} {order : hash_order} {dwfl : Option Dwfl} {group : events_group}
  {w : wiring} {t t' : kernel} {s : populate_state} {result : Int × populate_state}

-- There is a leader to read, and its group is what the buffer is sized for.
def Readable (w : wiring) (group : events_group) (cpu_ctx : perf_group_cpu_context) : Prop :=
  ∃ leader rest, cpu_ctx.perf_fds = leader :: rest ∧ leader ∈ w.opened ∧
    (w.members leader).length = group.events.length

theorem granted_read_cpu {cpu_ctx : perf_group_cpu_context} {report : Option perf_read_format}
    (hreadable : Readable t.wiring group cpu_ctx)
    (h : Exec (granted_step taken)
      (perf_events_group_read_cpu cpu_ctx (perf_read_size group.events.length)) t report t') :
    report ≠ none := by
  obtain ⟨leader, rest, hfds, hopened, hlength⟩ := hreadable
  unfold perf_events_group_read_cpu at h
  rw [hfds] at h
  obtain ⟨answer, t₁, hread, h₁⟩ := exec_bind.mp h
  obtain ⟨hstep, hgranted⟩ := exec_perform.mp hread
  have hsize : perf_read_size group.events.length = perf_read_size (t.members leader).length := by
    rw [← hlength]
    rfl
  cases answer with
  | none => exact absurd rfl (hgranted hopened hsize)
  | some answer =>
      have hopened' : leader ∈ t₁.wiring.opened := by
        rw [step_wiring (show KeepsCounters (.read leader _) from trivial) hstep]
        exact hopened
      obtain ⟨err, t₂, hreset, h₂⟩ := exec_bind.mp h₁
      have herr : err = 0 := (exec_perform.mp hreset).2 hopened'
      rw [if_neg (by simpa using herr)] at h₂
      obtain ⟨rfl, -⟩ := exec_pure.mp h₂
      exact Option.some_ne_none answer

theorem granted_populate_cpu {item : String × perf_group_cpu_context}
    (hreadable : Readable t.wiring group item.2)
    (h : Exec (granted_step taken) (populate_cpu order dwfl group item s) t result t') :
    result.1 = 0 ∧ t'.wiring = t.wiring := by
  have hwiring := exec_wiring ((populates_cpu dwfl group item s).mono fun _ => keeps_of_populates)
    (exec_of_granted h)
  obtain ⟨allocated, t₁, hmalloc, h₁⟩ := exec_bind.mp h
  obtain ⟨rfl, hsame⟩ := granted_malloc hmalloc
  rw [if_neg (by simp)] at h₁
  obtain ⟨report, t₂, hread, h₂⟩ := exec_bind.mp h₁
  rw [← hsame] at hreadable
  cases report with
  | none => exact absurd rfl (granted_read_cpu hreadable hread)
  | some report =>
      obtain ⟨_, t₃, -, h₃⟩ := exec_bind.mp h₂
      obtain ⟨events, t₄, -, h₄⟩ := exec_bind.mp h₃
      obtain ⟨rfl, -⟩ := exec_pure.mp h₄
      exact ⟨rfl, hwiring⟩

theorem granted_populate_payload {ctx : perf_context} {payload : payload}
    (hreadable : ∀ cpu ∈ read_groups ctx, Readable t.wiring cpu.1 cpu.2.2)
    (h : Exec (granted_step taken) (populate_payload order ctx payload) t result t') :
    result.1 = 0 := by
  have hinv : PopulateInvariant (.executions (granted_step taken)) order ctx.dwfl (read_groups ctx)
      (fun _ _ t' => t'.wiring = t.wiring) fun _ _ => False := by
    refine PopulateInvariant.of_state (fun h allocated t' hmalloc => ?_) ?_
    · obtain ⟨rfl, hsame⟩ := granted_malloc hmalloc
      exact ⟨fun hnone => absurd hnone (by simp), fun _ => hsame.trans h⟩
    · intro done group item s t₁ hpart hsame result t₂ hexec
      have hcpu := hreadable (group, item) (hpart.subset (by simp))
      obtain ⟨hzero, hwiring⟩ := granted_populate_cpu (hsame ▸ hcpu) hexec
      exact ⟨fun _ => hwiring.trans hsame, fun hne => hne hzero⟩
  by_contra hne
  exact (hinv.payload_walk rfl _ _ h).2 hne

end Populate

end HwpcSensor.Perf
