import HwpcSensor.Perf.Actor
import HwpcSensor.Perf.Populate.Walk

namespace HwpcSensor.Perf

open Interaction Syscall

-- The calls that neither open nor close a descriptor.
def QuietCall : syscall → Prop
  | .open _ | .perf_event_open _ _ _ _ _ | .mmap _ | .close _ | .fopen _ | .fclose _ => False
  | _ => True

-- The calls that neither open nor close a counter.
def KeepsCounters : syscall → Prop
  | .perf_event_open _ _ _ _ _ | .close _ => False
  | _ => True

-- The calls that fill a payload.
def Populates : syscall → Prop
  | .malloc | .read _ _ | .ioctl_reset _ | .warning | .get_callchains _ _ => True
  | _ => False

theorem uses_enable {P : syscall → Prop} (hreset : ∀ fd, P (.ioctl_reset fd))
    (henable : ∀ fd, P (.ioctl_enable fd)) (ctx : perf_context) :
    (perf_events_groups_enable ctx).Uses P := by
  refine Prog.Uses.for_all fun group_item _ => Prog.Uses.for_all fun pkg_item _ =>
    Prog.Uses.for_all fun cpu_item _ => ?_
  unfold enable_cpu
  cases cpu_item.2.perf_fds with
  | nil => exact Prog.Uses.pure ()
  | cons fd fds =>
      exact Prog.Uses.bind (Prog.Uses.perform (hreset fd)) fun _ =>
        Prog.Uses.bind (Prog.Uses.perform (henable fd)) fun _ => Prog.Uses.pure ()

theorem quiet_enable (ctx : perf_context) : (perf_events_groups_enable ctx).Uses QuietCall :=
  uses_enable (fun _ => trivial) (fun _ => trivial) ctx

section Populate

variable {order : hash_order}

theorem populates_read_cpu (cpu_ctx : perf_group_cpu_context) (buffer_size : Nat) :
    (perf_events_group_read_cpu cpu_ctx buffer_size).Uses Populates := by
  unfold perf_events_group_read_cpu
  cases cpu_ctx.perf_fds with
  | nil => exact Prog.Uses.pure none
  | cons fd fds =>
      refine Prog.Uses.bind (Prog.Uses.perform trivial) fun report => ?_
      cases report with
      | none => exact Prog.Uses.pure none
      | some report =>
          refine Prog.Uses.bind (Prog.Uses.perform trivial) fun err => ?_
          split_ifs <;> exact Prog.Uses.pure _

theorem populates_store_callchain (dwfl : Option Dwfl) (buffer : Option Nat)
    (events : zhashx event_value) : (store_callchain order dwfl buffer events).Uses Populates := by
  unfold store_callchain
  cases buffer with
  | none => exact Prog.Uses.pure events
  | some buffer =>
      refine Prog.Uses.bind (Prog.Uses.perform trivial) fun callchain => ?_
      cases callchain <;> exact Prog.Uses.pure _

theorem populates_warn_multiplexing (report : perf_read_format) :
    (warn_multiplexing report).Uses Populates := by
  unfold warn_multiplexing
  split_ifs
  · exact Prog.Uses.perform trivial
  · exact Prog.Uses.pure ()

theorem populate_cpu_payload (dwfl : Option Dwfl) (group : events_group)
    (item : String × perf_group_cpu_context) (s : populate_state) :
    (populate_cpu order dwfl group item s).Yields fun result => result.2.payload = s.payload := by
  refine Prog.Yields.ignore fun allocated => ?_
  by_cases hallocated : allocated = false
  · rw [if_pos hallocated]
    exact Prog.Yields.pure rfl
  · rw [if_neg hallocated]
    refine Prog.Yields.ignore fun report => ?_
    cases report with
    | none => exact Prog.Yields.pure rfl
    | some report =>
        exact Prog.Yields.ignore fun _ => Prog.Yields.ignore fun _ => Prog.Yields.pure rfl

theorem populates_cpu (dwfl : Option Dwfl) (group : events_group)
    (item : String × perf_group_cpu_context) (s : populate_state) :
    (populate_cpu order dwfl group item s).Uses Populates := by
  refine Prog.Uses.bind (Prog.Uses.perform trivial) fun allocated => ?_
  by_cases hallocated : allocated = false
  · rw [if_pos hallocated]
    exact Prog.Uses.pure _
  · rw [if_neg hallocated]
    refine Prog.Uses.bind (populates_read_cpu _ _) fun report => ?_
    cases report with
    | none => exact Prog.Uses.pure _
    | some report =>
        refine Prog.Uses.bind (populates_warn_multiplexing report) fun _ =>
          Prog.Uses.bind (populates_store_callchain _ _ _) fun _ => Prog.Uses.pure _

-- The calls that fill a payload, and what of it they leave as it is.
theorem populate_payload_uses (ctx : perf_context) (payload : payload) :
    (populate_payload order ctx payload).Uses Populates ∧
      (populate_payload order ctx payload).Yields fun result =>
        result.2.payload.timestamp = payload.timestamp ∧
          result.2.payload.target_name = payload.target_name := by
  have hinv : PopulateInvariant (.uses Populates) order ctx.dwfl (read_groups ctx)
      (fun _ s _ => s.payload.timestamp = payload.timestamp ∧
        s.payload.target_name = payload.target_name)
      fun s _ => s.payload.timestamp = payload.timestamp ∧
        s.payload.target_name = payload.target_name := by
    refine ⟨fun h => ⟨Prog.Uses.perform trivial, fun _ => ⟨fun _ => h, fun _ => h⟩⟩, ?_,
      fun h => h, fun h => h, ?_, ?_, fun h => h, fun h => h⟩
    · intro done group item s t _ h
      refine ⟨populates_cpu ctx.dwfl group item s, ?_⟩
      refine (populate_cpu_payload ctx.dwfl group item s).mono fun result hsame => ?_
      have hkept : result.2.payload.timestamp = payload.timestamp ∧
          result.2.payload.target_name = payload.target_name := by
        rw [hsame]
        exact h
      exact ⟨fun _ => hkept, fun _ => hkept⟩
    · intro done s t group_name h
      unfold populate_state.store_group
      cases s.group_data <;> exact h
    · intro done s t pkg_id h
      unfold populate_state.store_pkg
      cases s.pkg_data <;> exact h
  obtain ⟨huses, hyields⟩ := hinv.payload_walk (t := ()) ⟨rfl, rfl⟩
  refine ⟨huses, hyields.mono fun result hended => ?_⟩
  by_cases hzero : result.1 = 0
  · exact hended.1 hzero
  · exact hended.2 hzero

theorem populates_payload (ctx : perf_context) (payload : payload) :
    (populate_payload order ctx payload).Uses Populates :=
  (populate_payload_uses ctx payload).1

end Populate

-- Monitoring ends the loop or finds the symbol tables, and leaves the rest of
-- the context as it was set up.
def SameSetup (ctx ctx' : perf_context) : Prop :=
  ∃ terminated dwfl, ctx' = { ctx with terminated := terminated, dwfl := dwfl }

theorem SameSetup.refl (ctx : perf_context) : SameSetup ctx ctx :=
  ⟨ctx.terminated, ctx.dwfl, rfl⟩

theorem SameSetup.config {ctx ctx' : perf_context} (h : SameSetup ctx ctx') :
    ctx'.config = ctx.config := by
  obtain ⟨terminated, dwfl, rfl⟩ := h
  rfl

theorem SameSetup.cgroup_fd {ctx ctx' : perf_context} (h : SameSetup ctx ctx') :
    ctx'.cgroup_fd = ctx.cgroup_fd := by
  obtain ⟨terminated, dwfl, rfl⟩ := h
  rfl

theorem SameSetup.groups_ctx {ctx ctx' : perf_context} (h : SameSetup ctx ctx') :
    ctx'.groups_ctx = ctx.groups_ctx := by
  obtain ⟨terminated, dwfl, rfl⟩ := h
  rfl

theorem SameSetup.trans {ctx ctx' ctx'' : perf_context} (h : SameSetup ctx ctx')
    (h' : SameSetup ctx' ctx'') : SameSetup ctx ctx'' := by
  obtain ⟨terminated, dwfl, rfl⟩ := h
  obtain ⟨terminated', dwfl', rfl⟩ := h'
  exact ⟨terminated', dwfl', rfl⟩

section Same

variable {order : hash_order} {ctx ctx' : perf_context} {σ : Type} {s s' : σ}
  {step : Semantics syscall syscall_answer σ}

theorem handle_ticker_same {timestamp : Nat}
    (h : Exec step (handle_ticker order ctx timestamp) s ctx' s') : SameSetup ctx ctx' := by
  obtain ⟨allocated, s₁, -, h₁⟩ := exec_bind.mp h
  by_cases hallocated : allocated = false
  · rw [if_pos hallocated] at h₁
    obtain ⟨rfl, -⟩ := exec_pure.mp h₁
    exact SameSetup.refl _
  · rw [if_neg hallocated] at h₁
    obtain ⟨dwfl, s₂, -, h₂⟩ := exec_bind.mp h₁
    obtain ⟨populated, s₃, -, h₃⟩ := exec_bind.mp h₂
    by_cases hzero : populated.1 = 0
    · rw [if_neg (by simpa using hzero)] at h₃
      obtain ⟨_, s₄, -, h₄⟩ := exec_bind.mp h₃
      obtain ⟨rfl, -⟩ := exec_pure.mp h₄
      exact ⟨ctx.terminated, dwfl, rfl⟩
    · rw [if_pos hzero] at h₃
      obtain ⟨rfl, -⟩ := exec_pure.mp h₃
      exact ⟨ctx.terminated, dwfl, rfl⟩

theorem monitor_same {events : List poll_event}
    (h : Exec step (monitor order events ctx) s ctx' s') : SameSetup ctx ctx' := by
  induction events generalizing ctx s with
  | nil =>
      obtain ⟨rfl, -⟩ := exec_pure.mp h
      exact SameSetup.refl _
  | cons event rest ih =>
      obtain ⟨next, s₁, hevent, h₁⟩ := exec_bind.mp h
      have hsame : SameSetup ctx next := by
        cases event with
        | pipe command =>
            obtain ⟨rfl, -⟩ := exec_pure.mp hevent
            unfold handle_pipe
            split_ifs
            · exact ⟨true, ctx.dwfl, rfl⟩
            · exact SameSetup.refl _
        | ticker timestamp => exact handle_ticker_same hevent
      by_cases hterminated : next.terminated
      · rw [if_pos hterminated] at h₁
        obtain ⟨rfl, -⟩ := exec_pure.mp h₁
        exact hsame
      · rw [if_neg hterminated] at h₁
        exact hsame.trans (ih h₁)

end Same

-- The calls about memory, files, symbols and the log.
def Passive : syscall → Prop
  | .malloc | .open _ | .fopen _ | .getline _ | .fgets _ | .fclose _ | .init_dwfl _ | .dwfl_end
  | .warning => True
  | _ => False

section Passive

theorem passive_warn_multiplexing (report : perf_read_format) :
    (warn_multiplexing report).Uses Passive := by
  unfold warn_multiplexing
  split_ifs
  · exact Prog.Uses.perform trivial
  · exact Prog.Uses.pure ()

-- The calls with which the symbol tables are looked for.
def LooksUp : syscall → Prop
  | .fopen _ | .fgets _ | .fclose _ | .init_dwfl _ => True
  | _ => False

theorem looks_up_get_pid_from_cgroup (cgroup_path : String) :
    (get_pid_from_cgroup cgroup_path).Uses LooksUp := by
  refine Prog.Uses.bind (Prog.Uses.perform trivial) fun procs_file => ?_
  cases procs_file with
  | none => exact Prog.Uses.pure _
  | some procs_file =>
      refine Prog.Uses.bind (Prog.Uses.perform trivial) fun line => ?_
      have hfclose : (fclose procs_file).Uses LooksUp := Prog.Uses.perform trivial
      cases line with
      | none => exact Prog.Uses.bind hfclose fun _ => Prog.Uses.pure _
      | some line =>
          dsimp only
          split_ifs
          · exact Prog.Uses.bind hfclose fun _ => Prog.Uses.pure _
          · exact Prog.Uses.bind hfclose fun _ => Prog.Uses.pure _
          · exact Prog.Uses.bind (Prog.Uses.perform trivial) fun _ =>
              Prog.Uses.bind hfclose fun _ => Prog.Uses.pure _

theorem looks_up_find_dwfl (ctx : perf_context) : (find_dwfl ctx).Uses LooksUp := by
  unfold find_dwfl
  cases ctx.dwfl with
  | some dwfl => exact Prog.Uses.pure _
  | none =>
      cases ctx.config.target.cgroup_path with
      | none => exact Prog.Uses.pure _
      | some cgroup_path =>
          refine Prog.Uses.bind (looks_up_get_pid_from_cgroup cgroup_path) fun pid => ?_
          split_ifs
          · exact Prog.Uses.perform trivial
          · exact Prog.Uses.pure _

theorem passive_find_dwfl (ctx : perf_context) : (find_dwfl ctx).Uses Passive :=
  (looks_up_find_dwfl ctx).mono fun call hcall => by
    cases call <;> first | exact False.elim hcall | trivial

end Passive

section Keeps

variable {order : hash_order}

theorem keeps_of_quiet {call : syscall} (h : QuietCall call) : KeepsCounters call := by
  cases call <;> first | exact False.elim h | trivial

theorem quiet_of_populates {call : syscall} (h : Populates call) : QuietCall call := by
  cases call <;> first | exact False.elim h | trivial

theorem keeps_of_populates {call : syscall} (h : Populates call) : KeepsCounters call :=
  keeps_of_quiet (quiet_of_populates h)

theorem keeps_of_passive {call : syscall} (h : Passive call) : KeepsCounters call := by
  cases call <;> first | exact False.elim h | trivial

theorem keeps_handle_ticker (ctx : perf_context) (timestamp : Nat) :
    (handle_ticker order ctx timestamp).Uses KeepsCounters := by
  refine Prog.Uses.bind (Prog.Uses.perform trivial) fun allocated => ?_
  by_cases hallocated : allocated = false
  · rw [if_pos hallocated]
    exact Prog.Uses.pure _
  · rw [if_neg hallocated]
    refine Prog.Uses.bind ((passive_find_dwfl ctx).mono fun _ => keeps_of_passive) fun dwfl => ?_
    refine Prog.Uses.bind ((populates_payload _ _).mono fun _ => keeps_of_populates)
      fun populated => ?_
    split_ifs
    · exact Prog.Uses.pure _
    · exact Prog.Uses.bind (Prog.Uses.perform trivial) fun _ => Prog.Uses.pure _

theorem keeps_monitor (events : List poll_event) (ctx : perf_context) :
    (monitor order events ctx).Uses KeepsCounters := by
  induction events generalizing ctx with
  | nil => exact Prog.Uses.pure ctx
  | cons event rest ih =>
      refine Prog.Uses.bind ?_ fun ctx => ?_
      · unfold handle_event
        cases event with
        | pipe command => exact Prog.Uses.pure _
        | ticker timestamp => exact keeps_handle_ticker ctx timestamp
      · split_ifs
        · exact Prog.Uses.pure ctx
        · exact ih ctx

end Keeps

end HwpcSensor.Perf
