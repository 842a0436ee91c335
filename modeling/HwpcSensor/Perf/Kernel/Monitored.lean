import HwpcSensor.Perf.Kernel.Granted

namespace HwpcSensor.Perf

open Interaction Syscall

-- What the configuration needs for its groups to be opened and read: each cpu that
-- a group is set up on has a number and an event to count, and number 0 is in use.
structure Openable (taken : Prop) (config : perf_config) : Prop where
  cgroup : config.target.cgroup_path ≠ none → taken
  cpu : ∀ item ∈ config.events_groups, ∀ pkg_item ∈ config.hwinfo.pkgs,
    ∀ cpu_id ∈ selected_cpus item.2 pkg_item.2,
      parse_cpu_id cpu_id ≠ none ∧ item.2.events ≠ [] ∧ taken

theorem ContextReady.readable {w : wiring} {ctx : perf_context} (h : ContextReady w ctx)
    {taken : Prop} (hopenable : Openable taken ctx.config) :
    ∀ cpu ∈ read_groups ctx, Readable w cpu.1 cpu.2.2 := by
  intro cpu hmem
  obtain ⟨group_item, hgroup, pkg_item, hpkg, cpu_item, hcpu, rfl⟩ := mem_read_groups.mp hmem
  obtain ⟨item, hitem, -, hconfig, hpkgs⟩ := h.built.of_mem hgroup
  obtain ⟨pkg, hpkg_mem, -, hcpus⟩ := hpkgs.of_mem hpkg
  obtain ⟨cpu_id, hcpu_id, -, number, -, hwired⟩ := hcpus.of_mem hcpu
  have hevents := (hopenable.cpu item hitem pkg hpkg_mem cpu_id hcpu_id).2.1
  have hlength := hwired.length_eq
  show Readable w group_item.2.config cpu_item.2
  rw [hconfig]
  cases hfds : cpu_item.2.perf_fds with
  | nil =>
      rw [hfds] at hlength
      exact absurd (List.length_eq_zero_iff.mp hlength.symm) hevents
  | cons leader rest =>
      have hhead : cpu_item.2.perf_fds.head? = some leader := by
        rw [hfds]
        rfl
      refine ⟨leader, rest, hfds, hwired.opened leader (List.mem_of_head? hhead), ?_⟩
      rw [hwired.members leader hhead, hlength]

-- Every group has an entry with its events for each cpu that it is set up on.
def Complete (config : perf_config) (payload : payload) : Prop :=
  Built Prod.fst (fun item group_data =>
    Built Prod.fst (fun pkg_item pkg_data =>
      Built id (fun _ cpu_data => ∀ event ∈ item.2.events,
          event.name ∈ zhashx_keys cpu_data.events)
        (selected_cpus item.2 pkg_item.2) pkg_data.cpus)
      config.hwinfo.pkgs group_data.pkgs)
    config.events_groups payload.groups

-- Whatever the other calls answer, the set up returns 0, and every later populate
-- of a payload returns 0 with a complete payload.
def Monitored (taken : Prop) (order : hash_order) (config : perf_config) : Prop :=
  ∀ target_name start, start.wiring.opened = [] → Roomy start →
    Returns (granted_step taken)
      ( perf_events_groups_initialize order (perf_context_create config target_name)) start
      fun initialized t => initialized.1 = 0 ∧
        ∀ events, Returns (granted_step taken) (until_tick order events initialized.2) t
          fun ctx t₁ => ∀ timestamp, Returns (granted_step taken)
            (populate_payload order ctx (payload_create timestamp ctx.target_name)) t₁
            fun populated _ => populated.1 = 0 ∧ Complete config populated.2.payload

section Complete

variable {atomic : Prop} {group : events_group} {fds : List Int} {r : reading}
  {t t' : kernel}

theorem mem_keys_of_entry {text : Option (List Char)} {events : zhashx event_value}
    (hentry : Entry group fds r text events) (hlength : fds.length = group.events.length) :
    ∀ event ∈ group.events, event.name ∈ zhashx_keys events := by
  intro event hevent
  have hvalue : entry_value group fds r event.name ≠ none := by
    obtain ⟨fd, -, hcounter⟩ := counter_of_exists hlength hevent
    unfold entry_value
    rw [hcounter]
    split_ifs <;> simp
  by_contra hmem
  have hlookup := zhashx_lookup_eq_none_iff.mpr hmem
  rw [hentry.lookup, Option.or_eq_none_iff] at hlookup
  exact hvalue hlookup.1

theorem complete_of_collected {ctx : perf_context} {payload : payload}
    (hready : ContextReady t'.wiring ctx)
    (hcollected : PayloadCollected atomic t t' ctx payload) : Complete ctx.config payload := by
  refine (hready.built.trans hcollected).mono ?_
  rintro item - group_data ⟨group_ctx, ⟨hconfig, hpkgs⟩, hgroup⟩
  refine (hpkgs.trans hgroup).mono ?_
  rintro pkg_item - pkg_data ⟨pkg_ctx, hcpus, hpkg⟩
  rw [hconfig] at hpkg
  refine (hcpus.trans hpkg).mono ?_
  rintro cpu_id - cpu_data ⟨cpu_ctx, ⟨cpu, -, hwired⟩, r, text, -, -, hentry, -⟩
  exact mem_keys_of_entry hentry hwired.length_eq

end Complete

section Monitored

variable {taken : Prop} {order : hash_order} {config : perf_config}

theorem granted_returns {α : Type} {program : program α} {s : kernel} {Q : α → kernel → Prop}
    (hroomy : Roomy s)
    (h : ∀ result s', Exec (granted_step taken) program s result s' → Q result s') :
    Returns (granted_step taken) program s Q :=
  returns_of_exists Roomy (granted_total taken) hroomy h

theorem monitored_of_openable (hkeyed : config.Keyed) (hopenable : Openable taken config) :
    Monitored taken order config := by
  intro target_name start hopened hroomy
  have hcpus : ∀ cpu ∈ config_cpus config.hwinfo config.events_groups,
      parse_cpu_id cpu.2 ≠ none ∧ taken := by
    intro cpu hmem
    obtain ⟨item, hitem, pkg_item, hpkg, cpu_id, hcpu, rfl⟩ := mem_config_cpus.mp hmem
    obtain ⟨hparse, -, htaken⟩ := hopenable.cpu item hitem pkg_item hpkg cpu_id hcpu
    exact ⟨hparse, htaken⟩
  refine granted_returns hroomy fun initialized t hinit => ?_
  have hzero := granted_initialize hopenable.cgroup hcpus hinit
  obtain ⟨err, ctx⟩ := initialized
  obtain rfl : err = 0 := hzero
  have hroomy₁ := exec_roomy hroomy (exec_of_granted hinit)
  refine ⟨rfl, fun events => granted_returns hroomy₁ fun ctx' t₁ hwait timestamp => ?_⟩
  have hroomy₂ := exec_roomy hroomy₁ (exec_of_granted hwait)
  obtain ⟨hconfig, -, hready⟩ := exec_until_tick_ready hkeyed hopened (exec_of_granted hinit)
    (exec_of_granted hwait)
  refine granted_returns hroomy₂ fun populated t₂ hpopulate => ?_
  have hok := granted_populate_payload (hready.readable (hconfig ▸ hopenable)) hpopulate
  obtain ⟨hready', hcollected⟩ := hready.collected (exec_of_granted hpopulate) hok
  exact ⟨hok, hconfig ▸ complete_of_collected hready' hcollected⟩

theorem idle_roomy : Roomy idle :=
  ⟨0, fun _ _ => rfl⟩

section Needs

variable {item : String × events_group} {pkg_item : String × hwinfo_pkg} {cpu_id : String}

-- A group that is set up on a cpu has been given a number for it, and is read there.
theorem Monitored.openable_cpu (h : Monitored taken order config) (hkeyed : config.Keyed)
    (hitem : item ∈ config.events_groups) (hpkg : pkg_item ∈ config.hwinfo.pkgs)
    (hcpu : cpu_id ∈ selected_cpus item.2 pkg_item.2) :
    parse_cpu_id cpu_id ≠ none ∧ item.2.events ≠ [] := by
  obtain ⟨⟨initialized, t, hinit⟩, hall⟩ := h "all" idle rfl idle_roomy
  obtain ⟨hzero, hlater⟩ := hall _ _ hinit
  obtain ⟨⟨ctx', t₁, hwait⟩, hall'⟩ := hlater []
  obtain ⟨⟨populated, t₂, hpopulate⟩, hall''⟩ := hall' _ _ hwait 0
  have hok := (hall'' _ _ hpopulate).1
  obtain ⟨err, ctx⟩ := initialized
  obtain rfl : err = 0 := hzero
  have hstart : idle.wiring.opened = [] := rfl
  obtain ⟨hconfig, -, hready⟩ := exec_until_tick_ready hkeyed hstart (exec_of_granted hinit)
    (exec_of_granted hwait)
  obtain ⟨hready', hcollected⟩ := hready.collected (exec_of_granted hpopulate) hok
  have hbuilt := hready'.built
  rw [hconfig] at hbuilt
  obtain ⟨group_data, -, group_ctx, ⟨hgroup_config, hpkgs⟩, hgroup⟩ :=
    (hbuilt.trans hcollected).entry item hitem
  obtain ⟨pkg_data, -, pkg_ctx, hcpus, hpkg_collected⟩ := (hpkgs.trans hgroup).entry pkg_item hpkg
  obtain ⟨cpu_data, -, cpu_ctx, ⟨cpu, hparse, hwired⟩, r, text, -, hleader, -⟩ :=
    (hcpus.trans hpkg_collected).entry cpu_id hcpu
  refine ⟨by simp [hparse], fun hnone => ?_⟩
  have hlength := hwired.length_eq
  rw [hnone] at hlength
  rw [List.length_eq_zero_iff.mp hlength] at hleader
  exact absurd hleader (by simp)

-- With number 0 free, the set up ends well only when it opens nothing.
theorem Monitored.zero_run (h : Monitored taken order config) (hkeyed : config.Keyed)
    (hfree : ¬taken) : config.target.cgroup_path = none ∧
      ∃ (ctx : perf_context) (t : kernel), ctx.config = config ∧ ContextReady t.wiring ctx ∧
        t.wiring.opened = [] := by
  obtain ⟨initialized, t, hzero⟩ := exec_exists Roomy zero_total
    ( perf_events_groups_initialize order (perf_context_create config "all")) idle_roomy
  have hinit := exec_of_zero hfree hzero
  have hok := ((h "all" idle rfl idle_roomy).2 _ _ hinit).1
  have hstart : idle.wiring.opened = [] := rfl
  obtain ⟨hcgroup, hopened⟩ := zero_initialize hstart hzero hok
  obtain ⟨err, ctx⟩ := initialized
  obtain rfl : err = 0 := hok
  obtain ⟨hconfig, hready⟩ := exec_initialize_ready (exec_of_granted hinit) hkeyed rfl hstart
  exact ⟨hcgroup, ctx, t, hconfig, hready, hopened⟩

theorem Monitored.taken_cpu (h : Monitored taken order config) (hkeyed : config.Keyed)
    (hitem : item ∈ config.events_groups) (hpkg : pkg_item ∈ config.hwinfo.pkgs)
    (hcpu : cpu_id ∈ selected_cpus item.2 pkg_item.2) : taken := by
  by_contra hfree
  obtain ⟨-, ctx, t, hconfig, hready, hopened⟩ := h.zero_run hkeyed hfree
  have hevents := (h.openable_cpu hkeyed hitem hpkg hcpu).2
  have hbuilt := hready.built
  rw [hconfig] at hbuilt
  obtain ⟨group_ctx, -, -, hpkgs⟩ := hbuilt.entry item hitem
  obtain ⟨pkg_ctx, -, hcpus⟩ := hpkgs.entry pkg_item hpkg
  obtain ⟨cpu_ctx, -, cpu, -, hwired⟩ := hcpus.entry cpu_id hcpu
  have hlength := hwired.length_eq
  cases hfds : cpu_ctx.perf_fds with
  | nil =>
      rw [hfds] at hlength
      exact hevents (List.length_eq_zero_iff.mp hlength.symm)
  | cons leader rest =>
      have hleader := hwired.opened leader (by rw [hfds]; exact List.mem_cons_self)
      rw [hopened] at hleader
      exact absurd hleader List.not_mem_nil

end Needs

theorem monitored_iff_openable (hkeyed : config.Keyed) :
    Monitored taken order config ↔ Openable taken config := by
  refine ⟨fun h => ⟨fun hcgroup => ?_, fun item hitem pkg_item hpkg cpu_id hcpu => ?_⟩,
    monitored_of_openable hkeyed⟩
  · by_contra hfree
    exact hcgroup (h.zero_run hkeyed hfree).1
  · obtain ⟨hparse, hevents⟩ := h.openable_cpu hkeyed hitem hpkg hcpu
    exact ⟨hparse, hevents, h.taken_cpu hkeyed hitem hpkg hcpu⟩

end Monitored

end HwpcSensor.Perf
