import HwpcSensor.Perf.Setup.Walk

namespace HwpcSensor.Perf

open Interaction Syscall

-- What each context has open.

def pkg_fds (ctx : perf_group_pkg_context) : List Int :=
  ctx.cpus_ctx.flatMap fun item => item.2.perf_fds

def group_fds (ctx : perf_group_context) : List Int :=
  ctx.pkgs_ctx.flatMap fun item => pkg_fds item.2

def groups_fds (ctx : perf_context) : List Int :=
  ctx.groups_ctx.flatMap fun item => group_fds item.2

section Insert

variable (order : hash_order) {key : String}

theorem pkg_fds_insert {pkg_ctx : perf_group_pkg_context} (h : key ∉ zhashx_keys pkg_ctx.cpus_ctx)
    (cpu_ctx : perf_group_cpu_context) :
    (cpu_ctx.perf_fds ++ pkg_fds pkg_ctx).Perm
      (pkg_fds { pkg_ctx with cpus_ctx := zhashx_insert order pkg_ctx.cpus_ctx key cpu_ctx }) :=
  ((zhashx_insert_perm order h cpu_ctx).flatMap_right
    fun item : String × perf_group_cpu_context => item.2.perf_fds).symm

-- The counters of a cpu that is met again are not stored.
theorem pkg_fds_insert_subperm (pkg_ctx : perf_group_pkg_context)
    (cpu_ctx : perf_group_cpu_context) :
    (pkg_fds { pkg_ctx with cpus_ctx := zhashx_insert order pkg_ctx.cpus_ctx key cpu_ctx }).Subperm
      (cpu_ctx.perf_fds ++ pkg_fds pkg_ctx) := by
  by_cases hmem : key ∈ zhashx_keys pkg_ctx.cpus_ctx
  · rw [zhashx_insert_of_mem order hmem]
    exact (List.sublist_append_right _ _).subperm
  · exact (pkg_fds_insert order hmem cpu_ctx).symm.subperm

theorem group_fds_insert {group_ctx : perf_group_context}
    (h : key ∉ zhashx_keys group_ctx.pkgs_ctx) (pkg_ctx : perf_group_pkg_context) :
    (pkg_fds pkg_ctx ++ group_fds group_ctx).Perm
      (group_fds { group_ctx with
        pkgs_ctx := zhashx_insert order group_ctx.pkgs_ctx key pkg_ctx }) :=
  ((zhashx_insert_perm order h pkg_ctx).flatMap_right
    fun item : String × perf_group_pkg_context => pkg_fds item.2).symm

theorem groups_fds_insert {ctx : perf_context} (h : key ∉ zhashx_keys ctx.groups_ctx)
    (group_ctx : perf_group_context) :
    (group_fds group_ctx ++ groups_fds ctx).Perm
      (groups_fds { ctx with groups_ctx := zhashx_insert order ctx.groups_ctx key group_ctx }) :=
  ((zhashx_insert_perm order h group_ctx).flatMap_right
    fun item : String × perf_group_context => group_fds item.2).symm

end Insert

-- The set up changes the table of groups of the context, and nothing else of it.

def perf_context.without_groups (ctx : perf_context) : perf_context :=
  { ctx with groups_ctx := [] }

section Keeps

variable {order : hash_order} {perf_flags : Nat} {ctx : perf_context} {s : setup_state}

theorem keeps_store_pkg (h : s.ctx.without_groups = ctx) (pkg_id : String) :
    (s.store_pkg order pkg_id).ctx.without_groups = ctx := by
  unfold setup_state.store_pkg
  cases s.pkg_ctx <;> exact h

theorem keeps_store_group (h : s.ctx.without_groups = ctx) (group_name : String) :
    (s.store_group order group_name).ctx.without_groups = ctx := by
  unfold setup_state.store_group
  cases s.group_ctx <;> exact h

-- The calls of the set up are those with which the events are opened.
theorem setup_uses {P : syscall → Prop} {cpus : List (events_group × String)}
    (hmalloc : P .malloc)
    (hopen : ∀ {ctx' : perf_context}, ctx'.without_groups = ctx → ∀ cpu events,
      (open_events ctx' perf_flags cpu (-1) events perf_group_cpu_context_create).Uses P) :
    SetupInvariant (.uses P) order perf_flags ctx.config.hwinfo cpus
      (fun _ s _ => s.ctx.without_groups = ctx) fun s _ => s.ctx.without_groups = ctx where
  hwinfo_eq := fun h => h ▸ rfl
  malloc := fun h => ⟨Prog.Uses.perform hmalloc, fun _ => ⟨fun _ => h, fun _ => h⟩⟩
  cpu := by
    intro done group cpu_id s t _ h
    refine judges_malloc ⟨Prog.Uses.perform hmalloc, fun _ => ⟨fun _ => h, fun _ => ?_⟩⟩
    have hsetup : ( perf_events_group_setup_cpu s.ctx perf_group_cpu_context_create group
        perf_flags cpu_id).Uses P := by
      unfold perf_events_group_setup_cpu
      cases parse_cpu_id cpu_id with
      | none => exact Prog.Uses.pure _
      | some cpu => exact hopen h cpu group.events
    refine Judgement.bind (Judgement.uses P) (Q := fun _ _ => True)
      ⟨hsetup, Prog.Yields.anything _⟩ fun setup _ _ => ?_
    split_ifs
    · exact Judgement.ret _ (ended_error h)
    · exact Judgement.ret _ (ended_ok h)
  group := fun _ h => h
  pkg := fun h => h
  store_group := fun group_name h => keeps_store_group h group_name
  store_pkg := fun pkg_id h => keeps_store_pkg h pkg_id
  no_group := fun h => h
  no_pkg := fun h => h

theorem initialize_error_keeps (h : s.ctx.without_groups = ctx) :
    (initialize_error s).Yields fun result => result.2.without_groups = ctx :=
  Prog.Yields.ignore fun _ => Prog.Yields.ignore fun _ => Prog.Yields.ignore fun _ =>
    Prog.Yields.ignore fun _ => Prog.Yields.pure h

end Keeps

theorem initialize_error_result {σ : Type} {step : Semantics syscall syscall_answer σ}
    {setup : setup_state} {result : Int × perf_context} {s s' : σ}
    (h : Exec step (initialize_error setup) s result s') : result = (-1, setup.ctx) := by
  obtain ⟨_, s₁, -, h₁⟩ := exec_bind.mp h
  obtain ⟨_, s₂, -, h₂⟩ := exec_bind.mp h₁
  obtain ⟨_, s₃, -, h₃⟩ := exec_bind.mp h₂
  obtain ⟨_, s₄, -, h₄⟩ := exec_bind.mp h₃
  exact (exec_pure.mp h₄).1

section Destroy

variable {P : syscall → Prop}

theorem uses_cpu_destroy (hclose : ∀ fd, P (.close fd)) (ctx : perf_group_cpu_context) :
    (perf_group_cpu_context_destroy ctx).Uses P :=
  Prog.Uses.for_all fun fd _ => Prog.Uses.perform (hclose fd)

theorem uses_pkg_destroy (hclose : ∀ fd, P (.close fd)) (ctx : perf_group_pkg_context) :
    (perf_group_pkg_context_destroy ctx).Uses P :=
  Prog.Uses.for_all fun item _ => uses_cpu_destroy hclose item.2

theorem uses_group_destroy (hclose : ∀ fd, P (.close fd)) (ctx : perf_group_context) :
    (perf_group_context_destroy ctx).Uses P :=
  Prog.Uses.for_all fun item _ => uses_pkg_destroy hclose item.2

theorem uses_destroy_pointer {α : Type} {destroy : α → program Unit}
    (h : ∀ ctx, (destroy ctx).Uses P) (pointer : Option α) :
    (destroy_pointer destroy pointer).Uses P := by
  cases pointer with
  | none => exact Prog.Uses.pure ()
  | some ctx => exact h ctx

theorem uses_initialize_error (hclose : ∀ fd, P (.close fd)) (s : setup_state) :
    (initialize_error s).Uses P :=
  Prog.Uses.bind (Prog.Uses.perform (hclose s.ctx.cgroup_fd)) fun _ =>
    Prog.Uses.bind (uses_destroy_pointer (uses_group_destroy hclose) s.group_ctx) fun _ =>
      Prog.Uses.bind (uses_destroy_pointer (uses_pkg_destroy hclose) s.pkg_ctx) fun _ =>
        Prog.Uses.bind (uses_destroy_pointer (uses_cpu_destroy hclose) s.cpu_ctx) fun _ =>
          Prog.Uses.pure _

end Destroy

section Initialize

-- The calls that the set up makes.
def SetsUp : syscall → Prop
  | .malloc | .open _ | .perf_event_open _ _ _ _ _ | .mmap _ | .close _ => True
  | _ => False

variable (order : hash_order) {perf_flags : Nat}

theorem sets_up_open_events (ctx : perf_context) (cpu group_fd : Int) (events : List event_config)
    (cpu_ctx : perf_group_cpu_context) :
    (open_events ctx perf_flags cpu group_fd events cpu_ctx).Uses SetsUp := by
  induction events generalizing group_fd cpu_ctx with
  | nil => exact Prog.Uses.pure _
  | cons event rest ih =>
      unfold open_events
      by_cases hleads : group_fd = -1 ∧ ctx.cgroup_fd > -1
      · rw [if_pos hleads]
        refine Prog.Uses.bind (Prog.Uses.perform trivial) fun perf_fd => ?_
        by_cases hfd : perf_fd < 1
        · rw [if_pos hfd]
          exact Prog.Uses.pure _
        · rw [if_neg hfd]
          refine Prog.Uses.bind (Prog.Uses.perform trivial) fun buffer => ?_
          cases buffer with
          | none => exact Prog.Uses.pure _
          | some buffer => exact ih perf_fd _
      · rw [if_neg hleads]
        refine Prog.Uses.bind (Prog.Uses.perform trivial) fun perf_fd => ?_
        by_cases hfd : perf_fd < 1
        · rw [if_pos hfd]
          exact Prog.Uses.pure _
        · rw [if_neg hfd]
          exact ih _ _

theorem setup_groups_uses {P : syscall → Prop} {ctx start : perf_context} (hmalloc : P .malloc)
    (hclose : ∀ fd, P (.close fd))
    (hopen : ∀ {ctx' : perf_context}, ctx'.without_groups = ctx → ∀ cpu events,
      (open_events ctx' perf_flags cpu (-1) events perf_group_cpu_context_create).Uses P)
    (hstart : start.without_groups = ctx) :
    (setup_groups order perf_flags start).Uses P ∧
      (setup_groups order perf_flags start).Yields fun result =>
        result.2.without_groups = ctx := by
  have hsetup : (Judgement.uses P).judges (setup_groups order perf_flags start)
      (fun result _ => result.2.without_groups = ctx) () :=
    (setup_uses hmalloc hopen).setup_groups hstart (fun _ _ h => h) fun _ _ h =>
      ⟨uses_initialize_error hclose _, initialize_error_keeps h⟩
  exact hsetup

theorem sets_up_setup_groups (ctx : perf_context) :
    (setup_groups order perf_flags ctx).Uses SetsUp :=
  (setup_groups_uses order trivial (fun _ => trivial)
    (fun _ _ _ => sets_up_open_events _ _ _ _ _) rfl).1

theorem setup_groups_keeps {order : hash_order} {ctx start : perf_context}
    (h : start.without_groups = ctx) :
    (setup_groups order perf_flags start).Yields fun result =>
      result.2.without_groups = ctx :=
  (setup_groups_uses order trivial (fun _ => trivial)
    (fun _ _ _ => sets_up_open_events _ _ _ _ _) h).2

theorem sets_up_initialize (ctx : perf_context) :
    ( perf_events_groups_initialize order ctx).Uses SetsUp := by
  unfold perf_events_groups_initialize
  cases ctx.config.target.cgroup_path with
  | none => exact sets_up_setup_groups order ctx
  | some cgroup_path =>
      refine Prog.Uses.bind (Prog.Uses.perform trivial) fun cgroup_fd => ?_
      dsimp only
      split_ifs
      · exact uses_initialize_error (fun _ => trivial) _
      · exact sets_up_setup_groups order _

end Initialize

end HwpcSensor.Perf
