import HwpcSensor.Perf.Setup

namespace HwpcSensor.Perf

open Interaction Syscall

-- The cpus of a package that a group is set up on.
def selected_cpus (group : events_group) (pkg : hwinfo_pkg) : List String :=
  match group.type with
  | .MONITOR_ALL_CPU_PER_SOCKET => pkg.cpus_id
  | .MONITOR_ONE_CPU_PER_SOCKET => pkg.cpus_id.take 1

theorem selected_subset {group : events_group} {pkg : hwinfo_pkg} {cpu_id : String}
    (h : cpu_id ∈ selected_cpus group pkg) : cpu_id ∈ pkg.cpus_id := by
  unfold selected_cpus at h
  cases htype : group.type with
  | MONITOR_ALL_CPU_PER_SOCKET => simpa [htype] using h
  | MONITOR_ONE_CPU_PER_SOCKET =>
      rw [htype] at h
      exact List.mem_of_mem_take h

theorem selected_cpus_ne_nil (group : events_group) {pkg : hwinfo_pkg} (h : pkg.cpus_id ≠ []) :
    selected_cpus group pkg ≠ [] := by
  unfold selected_cpus
  cases group.type with
  | MONITOR_ALL_CPU_PER_SOCKET => exact h
  | MONITOR_ONE_CPU_PER_SOCKET => simpa using h

theorem nodup_selected_cpus {group : events_group} {pkg : hwinfo_pkg}
    (h : pkg.cpus_id.Nodup) : (selected_cpus group pkg).Nodup := by
  unfold selected_cpus
  cases group.type with
  | MONITOR_ALL_CPU_PER_SOCKET => exact h
  | MONITOR_ONE_CPU_PER_SOCKET => exact h.sublist (List.take_sublist 1 _)

theorem setup_cpus_eq_for_each (order : hash_order) (perf_flags : Nat) (group : events_group)
    (pkg : hwinfo_pkg) (s : setup_state) :
    setup_cpus order perf_flags group pkg.cpus_id s =
      for_each (setup_cpu order perf_flags group) (selected_cpus group pkg) s := by
  unfold selected_cpus
  cases htype : group.type with
  | MONITOR_ALL_CPU_PER_SOCKET =>
      dsimp only
      induction pkg.cpus_id generalizing s with
      | nil => rfl
      | cons cpu_id rest ih =>
          simp only [setup_cpus, for_each, htype, ih]
          rfl
  | MONITOR_ONE_CPU_PER_SOCKET =>
      cases pkg.cpus_id with
      | nil => rfl
      | cons cpu_id rest =>
          simp only [setup_cpus, List.take_succ_cons, List.take_zero, for_each, htype]
          rfl

-- A failed allocation ends a step of the set up, and of the filling of a payload.
theorem judges_malloc {σ τ : Type} {J : Judgement syscall syscall_answer τ} {R F : σ → τ → Prop}
    {s : σ} {rest : program (Int × σ)} {t : τ}
    (h : J.judges malloc (fun allocated t' => (allocated = false → F s t') ∧
      (allocated = true → J.judges rest (Ended R F) t')) t) :
    J.judges (malloc >>= fun allocated => if allocated = false then pure (-1, s) else rest)
      (Ended R F) t := by
  refine J.bind h fun (allocated : Bool) t' hallocated => ?_
  cases allocated with
  | false => exact J.ret (ended_error (hallocated.1 rfl))
  | true => exact hallocated.2 rfl

section Walk

variable {τ : Type} {J : Judgement syscall syscall_answer τ} {order : hash_order}
  {perf_flags : Nat} {hwinfo : HwpcSensor.hwinfo} {cpus done : List (events_group × String)}
  {R : List (events_group × String) → setup_state → τ → Prop} {F : setup_state → τ → Prop}
  {s : setup_state} {t : τ}

theorem hwinfo_store_pkg (h : s.ctx.config.hwinfo = hwinfo) (pkg_id : String) :
    (s.store_pkg order pkg_id).ctx.config.hwinfo = hwinfo := by
  unfold setup_state.store_pkg
  cases s.pkg_ctx <;> exact h

theorem hwinfo_store_group (h : s.ctx.config.hwinfo = hwinfo) (group_name : String) :
    (s.store_group order group_name).ctx.config.hwinfo = hwinfo := by
  unfold setup_state.store_group
  cases s.group_ctx <;> exact h

-- What the loops of the set up keep, when each cpu that a group is set up on keeps
-- it: it holds after these cpus, or an error has left them.
structure SetupInvariant (J : Judgement syscall syscall_answer τ) (order : hash_order)
    (perf_flags : Nat) (hwinfo : HwpcSensor.hwinfo) (cpus : List (events_group × String))
    (R : List (events_group × String) → setup_state → τ → Prop) (F : setup_state → τ → Prop) :
    Prop where
  hwinfo_eq : ∀ {done s t}, R done s t → s.ctx.config.hwinfo = hwinfo
  malloc : ∀ {done s t}, R done s t → J.judges malloc (fun allocated t' =>
    (allocated = false → F s t') ∧ (allocated = true → R done s t')) t
  cpu : ∀ {done group cpu_id s t}, done ++ [(group, cpu_id)] <+: cpus → R done s t →
    J.judges (setup_cpu order perf_flags group cpu_id s)
      (Ended (R (done ++ [(group, cpu_id)])) F) t
  group : ∀ {done s t} group, R done s t →
    R done { s with group_ctx := some (perf_group_context_create group) } t
  pkg : ∀ {done s t}, R done s t →
    R done { s with pkg_ctx := some perf_group_pkg_context_create } t
  store_group : ∀ {done s t} group_name, R done s t → R done (s.store_group order group_name) t
  store_pkg : ∀ {done s t} pkg_id, R done s t → R done (s.store_pkg order pkg_id) t
  no_group : ∀ {s t}, F s t → F { s with group_ctx := none } t
  no_pkg : ∀ {s t}, F s t → F { s with pkg_ctx := none } t

def pkg_cpus (group : events_group) (item : String × hwinfo_pkg) : List (events_group × String) :=
  (selected_cpus group item.2).map fun cpu_id => (group, cpu_id)

def group_cpus (hwinfo : HwpcSensor.hwinfo) (item : String × events_group) :
    List (events_group × String) :=
  hwinfo.pkgs.flatMap (pkg_cpus item.2)

-- All that is set up, in order.
def config_cpus (hwinfo : HwpcSensor.hwinfo) (events_groups : zhashx events_group) :
    List (events_group × String) :=
  events_groups.flatMap (group_cpus hwinfo)

theorem mem_config_cpus {events_groups : zhashx events_group} {cpu : events_group × String} :
    cpu ∈ config_cpus hwinfo events_groups ↔ ∃ item ∈ events_groups, ∃ pkg_item ∈ hwinfo.pkgs,
      ∃ cpu_id ∈ selected_cpus item.2 pkg_item.2, (item.2, cpu_id) = cpu := by
  simp [config_cpus, group_cpus, pkg_cpus]

namespace SetupInvariant

theorem pkg_walk (h : SetupInvariant J order perf_flags hwinfo cpus R F) {group : events_group}
    {item : String × hwinfo_pkg} (hcpus : done ++ pkg_cpus group item <+: cpus)
    (hstart : R done s t) :
    J.judges (setup_pkg order perf_flags group item s)
      (Ended (R (done ++ pkg_cpus group item)) F) t := by
  refine judges_malloc (Judgement.mono (h.malloc hstart) fun allocated t₁ hmalloc =>
    ⟨fun hnone => h.no_pkg (hmalloc.1 hnone), fun hsome => ?_⟩)
  rw [setup_cpus_eq_for_each]
  refine Judgement.finish (Judgement.for_each
    (fun past => R (done ++ past.map fun cpu_id => (group, cpu_id))) ?_ ?_)
    fun s t hs => h.store_pkg item.1 hs
  · rw [List.map_nil, List.append_nil]
    exact h.pkg (hmalloc.2 hsome)
  · intro past cpu_id left s t hselected hs
    rw [List.map_append, List.map_singleton, ← List.append_assoc]
    refine h.cpu (List.IsPrefix.trans ?_ hcpus) hs
    rw [pkg_cpus, hselected]
    simp

theorem group_walk (h : SetupInvariant J order perf_flags hwinfo cpus R F)
    {item : String × events_group} (hcpus : done ++ group_cpus hwinfo item <+: cpus)
    (hstart : R done s t) :
    J.judges (setup_group order perf_flags item s)
      (Ended (R (done ++ group_cpus hwinfo item)) F) t := by
  refine judges_malloc (Judgement.mono (h.malloc hstart) fun allocated t₁ hmalloc =>
    ⟨fun hnone => h.no_group (hmalloc.1 hnone), fun hsome => ?_⟩)
  rw [h.hwinfo_eq hstart]
  refine Judgement.finish (Judgement.for_each
    (fun past => R (done ++ past.flatMap (pkg_cpus item.2))) ?_ ?_)
    fun s t hs => h.store_group item.1 hs
  · rw [List.flatMap_nil, List.append_nil]
    exact h.group item.2 (hmalloc.2 hsome)
  · intro past pkg left s t hpkgs hs
    rw [List.flatMap_append, List.flatMap_singleton, ← List.append_assoc]
    refine h.pkg_walk (List.IsPrefix.trans ?_ hcpus) hs
    rw [group_cpus, hpkgs]
    simp

theorem groups_walk {events_groups : zhashx events_group}
    (h : SetupInvariant J order perf_flags hwinfo (config_cpus hwinfo events_groups) R F)
    (hstart : R [] s t) :
    J.judges (for_each (setup_group order perf_flags) events_groups s)
      (Ended (R (config_cpus hwinfo events_groups)) F) t := by
  refine Judgement.for_each (fun past => R (past.flatMap (group_cpus hwinfo))) hstart ?_
  intro past item left s t hitems hs
  rw [List.flatMap_append, List.flatMap_singleton]
  refine h.group_walk ?_ hs
  rw [config_cpus, hitems]
  simp

-- What the set up of all groups returns, when it ends well and when it does not.
theorem setup_groups {ctx : perf_context} {Q : Int × perf_context → τ → Prop}
    (h : SetupInvariant J order perf_flags hwinfo (config_cpus hwinfo ctx.config.events_groups) R F)
    (hstart : R [] ⟨ctx, none, none, none⟩ t)
    (hok : ∀ s t, R (config_cpus hwinfo ctx.config.events_groups) s t → Q (0, s.ctx) t)
    (herror : ∀ s t, F s t → J.judges (initialize_error s) Q t) :
    J.judges (setup_groups order perf_flags ctx) Q t := by
  refine J.bind (h.groups_walk hstart) fun setup t' hended => ?_
  by_cases hzero : setup.1 ≠ 0
  · rw [if_pos hzero]
    exact herror _ _ (hended.2 hzero)
  · rw [if_neg hzero]
    exact J.ret (hok _ _ (hended.1 (not_not.mp hzero)))

end SetupInvariant

end Walk

end HwpcSensor.Perf
