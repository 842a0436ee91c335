import HwpcSensor.Perf.Kernel.Setup

namespace HwpcSensor.Perf

open Interaction Syscall

theorem sublist_append_cons {α : Type} {items done rest : List α} {item : α}
    (h : items = done ++ item :: rest) : (done ++ [item]).Sublist items := by
  rw [h]
  exact List.Sublist.append_left (List.singleton_sublist.mpr List.mem_cons_self) done

section Ready

-- What the set up leaves for each cpu, package and group of the configuration.

variable (config : perf_config) (cgroup_fd : Int) (perf_flags : Nat) (w : wiring)

def CpuReady (group : events_group) (cpu_id : String) (cpu_ctx : perf_group_cpu_context) :
    Prop :=
  ∃ cpu, parse_cpu_id cpu_id = some cpu ∧
    Wired cgroup_fd config.callchain_frequency perf_flags cpu w group cpu_ctx

def PkgReady (group : events_group) (item : String × hwinfo_pkg)
    (pkg_ctx : perf_group_pkg_context) : Prop :=
  Built id (CpuReady config cgroup_fd perf_flags w group) (selected_cpus group item.2)
    pkg_ctx.cpus_ctx

def GroupReady (item : String × events_group) (group_ctx : perf_group_context) : Prop :=
  group_ctx.config = item.2 ∧
    Built Prod.fst (PkgReady config cgroup_fd perf_flags w item.2) config.hwinfo.pkgs
      group_ctx.pkgs_ctx

variable {config cgroup_fd perf_flags w} {w' : wiring}

theorem CpuReady.extends (hext : Extends w w') {group : events_group} {cpu_id : String}
    {cpu_ctx : perf_group_cpu_context} (h : CpuReady config cgroup_fd perf_flags w group cpu_id
      cpu_ctx) : CpuReady config cgroup_fd perf_flags w' group cpu_id cpu_ctx := by
  obtain ⟨cpu, hparse, hwired⟩ := h
  exact ⟨cpu, hparse, hwired.extends hext⟩

theorem PkgReady.extends (hext : Extends w w') {group : events_group}
    {item : String × hwinfo_pkg} {pkg_ctx : perf_group_pkg_context}
    (h : PkgReady config cgroup_fd perf_flags w group item pkg_ctx) :
    PkgReady config cgroup_fd perf_flags w' group item pkg_ctx :=
  h.mono fun _ _ _ => CpuReady.extends hext

theorem GroupReady.extends (hext : Extends w w') {item : String × events_group}
    {group_ctx : perf_group_context}
    (h : GroupReady config cgroup_fd perf_flags w item group_ctx) :
    GroupReady config cgroup_fd perf_flags w' item group_ctx :=
  ⟨h.1, h.2.mono fun _ _ _ => PkgReady.extends hext⟩

end Ready

section Loops

variable {config : perf_config} {cgroup_fd : Int} {perf_flags : Nat} {order : hash_order}
  {atomic : Prop} {s : setup_state} {result : Int × setup_state} {t t' : kernel}

-- The context of the set up keeps its configuration and its cgroup.
def setup_state.Of (s : setup_state) (config : perf_config) (cgroup_fd : Int) : Prop :=
  s.ctx.config = config ∧ s.ctx.cgroup_fd = cgroup_fd

theorem exec_setup_cpu_ready {group : events_group} {cpu_id : String}
    (hof : s.Of config cgroup_fd) (hgrouped : Grouped t.wiring)
    (h : Exec (kernel.step atomic) (setup_cpu order perf_flags group cpu_id s) t result t')
    (hok : result.1 = 0) :
    ∃ cpu_ctx, result.2 = s.store_cpu order cpu_id cpu_ctx ∧
      CpuReady config cgroup_fd perf_flags t'.wiring group cpu_id cpu_ctx ∧
      Grown cpu_ctx.perf_fds t.wiring t'.wiring := by
  obtain ⟨allocated, t₁, hmalloc, h₁⟩ := exec_bind.mp h
  obtain ⟨rfl, hwiring⟩ := exec_malloc hmalloc
  rw [if_neg (by simp)] at h₁
  obtain ⟨setup, t₂, hsetup, h₂⟩ := exec_bind.mp h₁
  by_cases hzero : setup.1 = 0
  · rw [if_neg (by simpa using hzero)] at h₂
    obtain ⟨rfl, rfl⟩ := exec_pure.mp h₂
    unfold perf_events_group_setup_cpu at hsetup
    cases hparse : parse_cpu_id cpu_id with
    | none =>
        rw [hparse] at hsetup
        obtain ⟨rfl, -⟩ := exec_pure.mp hsetup
        exact absurd hzero (by simp)
    | some cpu =>
        rw [hparse] at hsetup
        obtain ⟨hopens, hleader⟩ := exec_open_group hsetup hzero
        rw [hwiring, hof.1, hof.2] at hopens
        obtain ⟨hgrown, hmembers⟩ := hopens.grown hleader hgrouped
        refine ⟨setup.2, rfl, ⟨cpu, hparse, hopens.new, ?_, hmembers⟩, hgrown⟩
        intro fd hfd
        rw [hopens.opened]
        exact List.mem_append_right _ hfd
  · rw [if_pos hzero] at h₂
    obtain ⟨rfl, -⟩ := exec_pure.mp h₂
    exact absurd hok (by simp)

theorem exec_setup_pkg_ready {group : events_group} {item : String × hwinfo_pkg}
    (hof : s.Of config cgroup_fd) (hgrouped : Grouped t.wiring)
    (h : Exec (kernel.step atomic) (setup_pkg order perf_flags group item s) t result t')
    (hok : result.1 = 0) :
    ∃ pkg_ctx, result.2.ctx = s.ctx ∧
      result.2.group_ctx = (s.group_ctx.map fun group_ctx =>
        { group_ctx with pkgs_ctx := zhashx_insert order group_ctx.pkgs_ctx item.1 pkg_ctx }) ∧
      PkgReady config cgroup_fd perf_flags t'.wiring group item pkg_ctx ∧
      Grown (pkg_fds pkg_ctx) t.wiring t'.wiring := by
  obtain ⟨allocated, t₁, hmalloc, h₁⟩ := exec_bind.mp h
  obtain ⟨rfl, hwiring⟩ := exec_malloc hmalloc
  rw [if_neg (by simp), setup_cpus_eq_for_each] at h₁
  obtain ⟨setup, t₂, hsetup, h₂⟩ := exec_bind.mp h₁
  by_cases hzero : setup.1 = 0
  · rw [if_neg (by simpa using hzero)] at h₂
    obtain ⟨rfl, rfl⟩ := exec_pure.mp h₂
    obtain ⟨pkg_ctx, hpkg, hctx, hgroup, hbuilt, hgrown⟩ := (exec_for_each hsetup
      (fun done s' t' => ∃ pkg_ctx, s'.pkg_ctx = some pkg_ctx ∧ s'.ctx = s.ctx ∧
        s'.group_ctx = s.group_ctx ∧
        Built id (CpuReady config cgroup_fd perf_flags t'.wiring group) done pkg_ctx.cpus_ctx ∧
        Grown (pkg_fds pkg_ctx) t.wiring t'.wiring)
      (fun _ _ => True)
      ⟨perf_group_pkg_context_create, rfl, rfl, rfl, Built.nil, Grown.of_eq hgrouped hwiring⟩ (by
        rintro done cpu_id rest s' t' result t'' hitems
          ⟨pkg_ctx, hpkg, hctx, hgroup, hbuilt, hgrown⟩ hexec
        refine ⟨fun hzero => ?_, fun _ => trivial⟩
        have hof' : s'.Of config cgroup_fd := by
          unfold setup_state.Of
          rw [hctx]
          exact hof
        obtain ⟨cpu_ctx, hstored, hready, hgrown'⟩ :=
          exec_setup_cpu_ready hof' hgrown.grouped hexec hzero
        have hold := hbuilt.mono fun _ _ _ => CpuReady.extends hgrown'.extends_old
        refine ⟨⟨zhashx_insert order pkg_ctx.cpus_ctx cpu_id cpu_ctx⟩, ?_, ?_, ?_,
          hold.insert_again order (fun _ _ hsame => hsame) hready, ?_⟩
        · rw [hstored, setup_state.store_cpu, hpkg]
          rfl
        · rw [hstored]
          exact hctx
        · rw [hstored]
          exact hgroup
        · exact (hgrown.trans hgrown').subperm (pkg_fds_insert_subperm order pkg_ctx cpu_ctx))).1
          hzero
    refine ⟨pkg_ctx, ?_, ?_, hbuilt, hgrown⟩
    · rw [setup_state.store_pkg, hpkg]
      exact hctx
    · rw [setup_state.store_pkg, hpkg, ← hgroup]
  · rw [if_pos hzero] at h₂
    obtain ⟨rfl, -⟩ := exec_pure.mp h₂
    exact absurd hok (by simp)

theorem exec_setup_group_ready {item : String × events_group} (hkeyed : config.Keyed)
    (hof : s.Of config cgroup_fd) (hgrouped : Grouped t.wiring)
    (h : Exec (kernel.step atomic) (setup_group order perf_flags item s) t result t')
    (hok : result.1 = 0) :
    ∃ group_ctx, result.2.ctx = { s.ctx with
        groups_ctx := zhashx_insert order s.ctx.groups_ctx item.1 group_ctx } ∧
      GroupReady config cgroup_fd perf_flags t'.wiring item group_ctx ∧
      Grown (group_fds group_ctx) t.wiring t'.wiring := by
  obtain ⟨allocated, t₁, hmalloc, h₁⟩ := exec_bind.mp h
  obtain ⟨rfl, hwiring⟩ := exec_malloc hmalloc
  rw [if_neg (by simp), hof.1] at h₁
  obtain ⟨setup, t₂, hsetup, h₂⟩ := exec_bind.mp h₁
  by_cases hzero : setup.1 = 0
  · rw [if_neg (by simpa using hzero)] at h₂
    obtain ⟨rfl, rfl⟩ := exec_pure.mp h₂
    obtain ⟨group_ctx, hgroup, hctx, hgroup_config, hbuilt, hgrown⟩ := (exec_for_each hsetup
      (fun done s' t' => ∃ group_ctx, s'.group_ctx = some group_ctx ∧ s'.ctx = s.ctx ∧
        group_ctx.config = item.2 ∧
        Built Prod.fst (PkgReady config cgroup_fd perf_flags t'.wiring item.2) done
          group_ctx.pkgs_ctx ∧
        Grown (group_fds group_ctx) t.wiring t'.wiring)
      (fun _ _ => True)
      ⟨perf_group_context_create item.2, rfl, rfl, rfl, Built.nil, Grown.of_eq hgrouped hwiring⟩ (by
        rintro done pkg_item rest s' t' result t'' hitems
          ⟨group_ctx, hgroup, hctx, hgroup_config, hbuilt, hgrown⟩ hexec
        refine ⟨fun hzero => ?_, fun _ => trivial⟩
        have hof' : s'.Of config cgroup_fd := by
          unfold setup_state.Of
          rw [hctx]
          exact hof
        obtain ⟨pkg_ctx, hctx', hgroup', hready, hgrown'⟩ :=
          exec_setup_pkg_ready hof' hgrown.grouped hexec hzero
        have hsub := hkeyed.pkgs.sublist ((sublist_append_cons hitems).map Prod.fst)
        have hold := hbuilt.mono fun _ _ _ => PkgReady.extends hgrown'.extends_old
        rw [hgroup] at hgroup'
        exact ⟨_, hgroup', hctx'.trans hctx, hgroup_config, hold.insert order hsub hready,
          (hgrown.trans hgrown').subperm
            (group_fds_insert order (hbuilt.fresh hsub) pkg_ctx).symm.subperm⟩)).1
      hzero
    refine ⟨group_ctx, ?_, ⟨hgroup_config, hbuilt⟩, hgrown⟩
    rw [setup_state.store_group, hgroup, ← hctx]
  · rw [if_pos hzero] at h₂
    obtain ⟨rfl, -⟩ := exec_pure.mp h₂
    exact absurd hok (by simp)

end Loops

section Initialize

variable {atomic : Prop} {order : hash_order} {t t' : kernel} {ctx ctx' : perf_context}

def perf_flags_of (target : target) : Nat :=
  if target.cgroup_path = none then 0 else PERF_FLAG_PID_CGROUP

-- What holds of a context from its initialisation on.
structure ContextReady (w : wiring) (ctx : perf_context) : Prop where
  built : Built Prod.fst
    (GroupReady ctx.config ctx.cgroup_fd (perf_flags_of ctx.config.target) w)
    ctx.config.events_groups ctx.groups_ctx
  nodup : (groups_fds ctx).Nodup

theorem exec_setup_groups_ready {perf_flags : Nat}
    (h : Exec (kernel.step atomic) (setup_groups order perf_flags ctx) t (0, ctx') t')
    (hkeyed : ctx.config.Keyed) (hempty : ctx.groups_ctx = []) (hopened : t.wiring.opened = []) :
    ctx'.config = ctx.config ∧ ctx'.cgroup_fd = ctx.cgroup_fd ∧
      Built Prod.fst (GroupReady ctx.config ctx.cgroup_fd perf_flags t'.wiring)
        ctx.config.events_groups ctx'.groups_ctx ∧ (groups_fds ctx').Nodup := by
  obtain ⟨setup, t₁, hloop, h₁⟩ := exec_bind.mp h
  have hgrouped : Grouped t.wiring := by
    intro fd hfd
    rw [hopened] at hfd
    exact absurd hfd (by simp)
  by_cases hzero : setup.1 = 0
  · rw [if_neg (by simpa using hzero)] at h₁
    obtain ⟨hresult, rfl⟩ := exec_pure.mp h₁
    obtain rfl : ctx' = setup.2.ctx := congrArg Prod.snd hresult
    have hstart : Built Prod.fst (GroupReady ctx.config ctx.cgroup_fd perf_flags t.wiring) []
        ctx.groups_ctx := by
      rw [hempty]
      exact Built.nil
    have hnone : Grown (groups_fds ctx) t.wiring t.wiring := by
      rw [groups_fds, hempty]
      exact Grown.of_eq hgrouped rfl
    obtain ⟨⟨hconfig, hcgroup⟩, hbuilt, hgrown⟩ := (exec_for_each hloop
      (fun done s' t' => s'.Of ctx.config ctx.cgroup_fd ∧
        Built Prod.fst (GroupReady ctx.config ctx.cgroup_fd perf_flags t'.wiring) done
          s'.ctx.groups_ctx ∧ Grown (groups_fds s'.ctx) t.wiring t'.wiring)
      (fun _ _ => True) ⟨⟨rfl, rfl⟩, hstart, hnone⟩ (by
        rintro done item rest s' t' result t'' hitems ⟨hof, hbuilt, hgrown⟩ hexec
        refine ⟨fun hzero => ?_, fun _ => trivial⟩
        obtain ⟨group_ctx, hctx, hready, hgrown'⟩ :=
          exec_setup_group_ready hkeyed hof hgrown.grouped hexec hzero
        have hsub := hkeyed.groups.sublist ((sublist_append_cons hitems).map Prod.fst)
        have hold := hbuilt.mono fun _ _ _ => GroupReady.extends hgrown'.extends_old
        unfold setup_state.Of
        rw [hctx]
        exact ⟨hof, hold.insert order hsub hready,
          (hgrown.trans hgrown').subperm
            (groups_fds_insert order (hbuilt.fresh hsub) group_ctx).symm.subperm⟩)).1
      hzero
    exact ⟨hconfig, hcgroup, hbuilt, hgrown.nodup⟩
  · rw [if_pos hzero] at h₁
    exact absurd (congrArg Prod.fst (initialize_error_result h₁)) (by simp)

theorem exec_initialize_ready
    (h : Exec (kernel.step atomic) ( perf_events_groups_initialize order ctx) t (0, ctx') t')
    (hkeyed : ctx.config.Keyed) (hempty : ctx.groups_ctx = []) (hopened : t.wiring.opened = []) :
    ctx'.config = ctx.config ∧ ContextReady t'.wiring ctx' := by
  unfold perf_events_groups_initialize at h
  cases hpath : ctx.config.target.cgroup_path with
  | none =>
      rw [hpath] at h
      obtain ⟨hconfig, hcgroup, hbuilt, hnodup⟩ := exec_setup_groups_ready h hkeyed hempty hopened
      refine ⟨hconfig, ?_, hnodup⟩
      rw [hconfig, hcgroup, perf_flags_of, if_pos hpath]
      exact hbuilt
  | some cgroup_path =>
      rw [hpath] at h
      obtain ⟨fd, t₁, hopen, h₁⟩ := exec_bind.mp h
      have hwiring := step_wiring (show KeepsCounters (.open cgroup_path) from trivial)
        (exec_perform.mp hopen)
      by_cases hfd : fd < 1
      · rw [if_pos hfd] at h₁
        exact absurd (congrArg Prod.fst (initialize_error_result h₁)) (by simp)
      · rw [if_neg hfd] at h₁
        obtain ⟨hconfig, hcgroup, hbuilt, hnodup⟩ :=
          exec_setup_groups_ready h₁ hkeyed hempty (hwiring ▸ hopened)
        refine ⟨hconfig, ?_, hnodup⟩
        rw [hconfig, hcgroup, perf_flags_of, if_neg (by rw [hpath]; simp)]
        exact hbuilt

end Initialize

end HwpcSensor.Perf
