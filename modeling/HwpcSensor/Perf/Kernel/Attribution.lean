import HwpcSensor.Perf.Kernel.Collect
import HwpcSensor.Perf.Kernel.Counting

namespace HwpcSensor.Perf

open Interaction Syscall

section Names

variable {group : events_group} {fds : List Int} {name : String}

theorem counter_of_exists (hlength : fds.length = group.events.length) {event : event_config}
    (hevent : event ∈ group.events) : ∃ fd ∈ fds, counter_of group fds event.name = some fd := by
  obtain ⟨i, hi, rfl⟩ := List.mem_iff_getElem.mp hevent
  have hzip : i < (group.events.zip fds).length := by
    rw [List.length_zip]
    omega
  have hmem : (group.events[i], fds[i]) ∈ group.events.zip fds := by
    rw [← List.getElem_zip (h := hzip)]
    exact List.getElem_mem hzip
  have hsome : ((group.events.zip fds).find? fun pair =>
      pair.1.name = group.events[i].name).isSome := by
    rw [List.find?_isSome]
    exact ⟨_, hmem, by simp⟩
  obtain ⟨pair, hpair⟩ := Option.isSome_iff_exists.mp hsome
  refine ⟨pair.2, (List.of_mem_zip (List.mem_of_find?_eq_some hpair)).2, ?_⟩
  rw [counter_of, hpair]
  rfl

theorem counter_of_event {fd : Int} (h : counter_of group fds name = some fd) :
    ∃ event ∈ group.events, event.name = name := by
  obtain ⟨pair, hpair, -⟩ := Option.map_eq_some_iff.mp h
  have hname := List.find?_some hpair
  exact ⟨pair.1, (List.of_mem_zip (List.mem_of_find?_eq_some hpair)).1, by simpa using hname⟩

end Names

def reserved_names : List String :=
  ["time_enabled", "time_running", "callchain"]

-- Where the data of a cpu come from: one reading, taken since the kernel was at
-- `t`, of counters that were opened for the events of the group on that cpu.
structure Attributed (config : perf_config) (cgroup_fd : Int) (group : events_group) (cpu : Int)
    (t t' : kernel) (fds : List Int) (r : reading) (events : zhashx event_value) : Prop where
  requests : fds.map t'.wiring.request = group_requests cgroup_fd config.callchain_frequency
    (perf_flags_of config.target) cpu r.leader group.events
  leader : fds.head? = some r.leader
  taken_since : ∃ new, t'.readings = t.readings ++ new ∧ r ∈ new
  nodup : (zhashx_keys events).Nodup
  values : ∀ event ∈ group.events, ∃ fd ∈ fds, counter_of group fds event.name = some fd ∧
    zhashx_lookup events event.name = some (.counter (r.value fd))
  time_enabled : zhashx_lookup events "time_enabled" = some (.counter r.time_enabled)
  time_running : zhashx_lookup events "time_running" = some (.counter r.time_running)
  keys : ∀ key ∈ zhashx_keys events, (∃ event ∈ group.events, event.name = key) ∨
    key ∈ reserved_names

theorem attributed_of_entry {config : perf_config} {cgroup_fd : Int} {group : events_group}
    {cpu : Int} {t t' : kernel} {cpu_ctx : perf_group_cpu_context} {r : reading}
    {text : Option (List Char)} {events : zhashx event_value}
    (hwired : Wired cgroup_fd config.callchain_frequency (perf_flags_of config.target) cpu
      t'.wiring group cpu_ctx)
    (hleader : cpu_ctx.perf_fds.head? = some r.leader)
    (htaken : ∃ new, t'.readings = t.readings ++ new ∧ r ∈ new)
    (hentry : Entry group cpu_ctx.perf_fds r text events)
    (hreserved : ∀ event ∈ group.events, event.name ∉ reserved_names) :
    Attributed config cgroup_fd group cpu t t' cpu_ctx.perf_fds r events := by
  refine ⟨?_, hleader, htaken, hentry.nodup, ?_, ?_, ?_, ?_⟩
  · rw [hwired.requests, List.headD_eq_head?_getD, hleader]
    rfl
  · intro event hevent
    obtain ⟨fd, hfd, hcounter⟩ := counter_of_exists hwired.length_eq hevent
    have hname := hreserved event hevent
    simp only [reserved_names, List.mem_cons, List.not_mem_nil, or_false, not_or] at hname
    refine ⟨fd, hfd, hcounter, ?_⟩
    rw [hentry.lookup, entry_value, if_neg hname.1, if_neg hname.2.1, hcounter]
    rfl
  · rw [hentry.lookup]
    rfl
  · rw [hentry.lookup]
    rfl
  · intro key hkey
    by_cases hname : key ∈ reserved_names
    · exact Or.inr hname
    · simp only [reserved_names, List.mem_cons, List.not_mem_nil, or_false, not_or] at hname
      obtain ⟨value, hvalue⟩ := zhashx_lookup_of_mem_keys hkey
      rw [hentry.lookup, entry_value, if_neg hname.1, if_neg hname.2.1, if_neg hname.2.2,
        Option.or_none] at hvalue
      obtain ⟨fd, hcounter, -⟩ := Option.map_eq_some_iff.mp hvalue
      exact Or.inl (counter_of_event hcounter)

theorem parse_cpu_id_repr {n : Nat} {cpu : Int} (h : parse_cpu_id n.repr = some cpu) :
    cpu = n := by
  unfold parse_cpu_id at h
  rw [Nat.toList_repr, strtol_toDigits] at h
  split_ifs at h <;> simp_all

section Sound

variable {config : perf_config} {cgroup_fd : Int} {perf_flags : Nat} {w : wiring}

theorem PkgReady.sound {group : events_group} {item : String × hwinfo_pkg}
    {pkg_ctx : perf_group_pkg_context}
    (h : PkgReady config cgroup_fd perf_flags w group item pkg_ctx) : PkgSound w pkg_ctx := by
  refine ⟨h.distinct, fun cpu_item hcpu leader hleader => ?_⟩
  obtain ⟨cpu_id, -, -, cpu, -, hwired⟩ := h.of_mem hcpu
  exact hwired.members leader hleader

theorem GroupReady.sound {item : String × events_group} {group_ctx : perf_group_context}
    (h : GroupReady config cgroup_fd perf_flags w item group_ctx) : GroupSound w group_ctx := by
  refine ⟨h.2.distinct, fun pkg_item hpkg => ?_⟩
  obtain ⟨pkg, -, -, hready⟩ := h.2.of_mem hpkg
  exact hready.sound

-- What the context has for a cpu.
theorem ContextReady.wired {ctx : perf_context} (h : ContextReady w ctx)
    {group_item : String × perf_group_context} (hgroup : group_item ∈ ctx.groups_ctx)
    {pkg_item : String × perf_group_pkg_context} (hpkg : pkg_item ∈ group_item.2.pkgs_ctx) {cpu_item : String × perf_group_cpu_context}
    (hcpu : cpu_item ∈ pkg_item.2.cpus_ctx) :
    (∃ item ∈ ctx.config.events_groups, group_item.2.config = item.2) ∧
      ∃ cpu, Wired ctx.cgroup_fd ctx.config.callchain_frequency (perf_flags_of ctx.config.target)
        cpu w group_item.2.config cpu_item.2 := by
  obtain ⟨item, hitem, -, hconfig, hpkgs⟩ := h.built.of_mem hgroup
  obtain ⟨pkg, -, -, hcpus⟩ := hpkgs.of_mem hpkg
  obtain ⟨cpu_id, -, -, cpu, -, hwired⟩ := hcpus.of_mem hcpu
  rw [← hconfig] at hwired
  exact ⟨⟨item, hitem, hconfig⟩, cpu, hwired⟩

theorem ContextReady.sound {ctx : perf_context} (h : ContextReady w ctx) :
    ContextSound w ctx := by
  refine ⟨h.built.distinct, fun group_item hgroup => ?_, h.nodup⟩
  obtain ⟨item, -, -, hready⟩ := h.built.of_mem hgroup
  exact hready.sound

end Sound

-- What the actor does from the set up to the payload of a tick.
def until_tick (order : hash_order) (events : List poll_event) (ctx : perf_context) :
    program perf_context := do
  perf_events_groups_enable ctx
  let ctx ← monitor order events ctx
  let dwfl ← find_dwfl ctx
  pure { ctx with dwfl := dwfl }

theorem exec_until_tick {atomic : Prop} {order : hash_order} {events : List poll_event}
    {ctx ctx' : perf_context} {t t' : kernel}
    (h : Exec (kernel.step atomic) (until_tick order events ctx) t ctx' t') :
    SameSetup ctx ctx' ∧ t'.wiring = t.wiring := by
  obtain ⟨_, t₁, henable, h₁⟩ := exec_bind.mp h
  obtain ⟨next, t₂, hmonitor, h₂⟩ := exec_bind.mp h₁
  obtain ⟨dwfl, t₃, hdwfl, h₃⟩ := exec_bind.mp h₂
  obtain ⟨rfl, rfl⟩ := exec_pure.mp h₃
  refine ⟨(monitor_same hmonitor).trans ⟨next.terminated, dwfl, rfl⟩, ?_⟩
  rw [(exec_still (passive_find_dwfl next) hdwfl).wiring,
    exec_wiring (keeps_monitor events ctx) hmonitor,
    exec_wiring ((quiet_enable ctx).mono fun _ => keeps_of_quiet) henable]

theorem ContextReady.same {w : wiring} {ctx ctx' : perf_context} (h : ContextReady w ctx)
    (hsame : SameSetup ctx ctx') : ContextReady w ctx' := by
  obtain ⟨terminated, dwfl, rfl⟩ := hsame
  exact ⟨h.built, h.nodup⟩

section Tick

variable {atomic : Prop} {order : hash_order} {config : perf_config} {target_name : String}
  {events : List poll_event} {ctx ctx' : perf_context} {start t₁ t t' : kernel}

-- The context with which a tick is served.
theorem exec_until_tick_ready (hkeyed : config.Keyed) (hstart : start.wiring.opened = [])
    (hinit : Exec (kernel.step atomic)
      ( perf_events_groups_initialize order (perf_context_create config target_name))
      start (0, ctx) t₁)
    (hmonitor : Exec (kernel.step atomic) (until_tick order events ctx) t₁ ctx' t) :
    ctx'.config = config ∧ ctx'.cgroup_fd = ctx.cgroup_fd ∧ ContextReady t.wiring ctx' := by
  obtain ⟨hconfig, hready⟩ := exec_initialize_ready hinit hkeyed rfl hstart
  obtain ⟨hsame, hwiring⟩ := exec_until_tick hmonitor
  refine ⟨hsame.config.trans hconfig, hsame.cgroup_fd, ?_⟩
  rw [hwiring]
  exact hready.same hsame

theorem ContextReady.collected (hready : ContextReady t.wiring ctx)
    {timestamp : Nat} {populated : Int × populate_state}
    (hpopulate : Exec (kernel.step atomic)
      (populate_payload order ctx (payload_create timestamp ctx.target_name)) t populated t')
    (hok : populated.1 = 0) :
    ContextReady t'.wiring ctx ∧ PayloadCollected atomic t t' ctx populated.2.payload := by
  obtain ⟨hcollected, hpasses, -⟩ := exec_populate_payload hpopulate hready.sound rfl hok
  exact ⟨hpasses.wiring ▸ hready, hcollected⟩

end Tick

section Payload

variable (config : perf_config) (cgroup_fd : Int) (t t' : kernel)

-- One entry for each cpu that the group is set up on, under the id of the cpu.
def PkgAttributed (group : events_group) (pkg : hwinfo_pkg) (pkg_data : payload_pkg_data) :
    Prop :=
  Built id (fun cpu_id cpu_data => ∃ (cpu : Nat) (fds : List Int) (r : reading),
    cpu_id = cpu.repr ∧ Attributed config cgroup_fd group cpu t t' fds r cpu_data.events)
    (selected_cpus group pkg) pkg_data.cpus

def PayloadAttributed (payload : payload) : Prop :=
  Built Prod.fst (fun item group_data =>
    Built Prod.fst (fun pkg_item => PkgAttributed config cgroup_fd t t' item.2 pkg_item.2)
      config.hwinfo.pkgs group_data.pkgs)
    config.events_groups payload.groups

end Payload

section Attribution

variable {config : perf_config} {cgroup_fd : Int} {t t' : kernel} {atomic : Prop}

theorem attributed_of_collected {group : events_group} {n : Nat}
    {cpu_ctx : perf_group_cpu_context} {cpu_data : payload_cpu_data}
    (hready : CpuReady config cgroup_fd (perf_flags_of config.target) t'.wiring group n.repr
      cpu_ctx)
    (hcollected : Collected atomic group t t' cpu_ctx cpu_data)
    (hreserved : ∀ event ∈ group.events, event.name ∉ reserved_names) :
    ∃ (cpu : Nat) (fds : List Int) (r : reading), n.repr = cpu.repr ∧
      Attributed config cgroup_fd group cpu t t' fds r cpu_data.events := by
  obtain ⟨cpu, hparse, hwired⟩ := hready
  obtain ⟨r, text, htaken, hleader, hentry, -⟩ := hcollected
  obtain rfl := parse_cpu_id_repr hparse
  exact ⟨n, cpu_ctx.perf_fds, r, rfl, attributed_of_entry hwired hleader htaken hentry hreserved⟩

theorem pkg_attributed_of_collected {group : events_group} {item : String × hwinfo_pkg}
    {pkg_ctx : perf_group_pkg_context} {pkg_data : payload_pkg_data}
    (hready : PkgReady config cgroup_fd (perf_flags_of config.target) t'.wiring group item pkg_ctx)
    (hcollected : PkgCollected atomic group t t' pkg_ctx pkg_data)
    (hcanonical : ∀ cpu_id ∈ item.2.cpus_id, ∃ n : Nat, cpu_id = n.repr)
    (hreserved : ∀ event ∈ group.events, event.name ∉ reserved_names) :
    PkgAttributed config cgroup_fd t t' group item.2 pkg_data := by
  refine (hready.trans hcollected).mono ?_
  rintro cpu_id hcpu cpu_data ⟨cpu_ctx, hcpu_ready, hcpu_collected⟩
  obtain ⟨n, rfl⟩ := hcanonical cpu_id (selected_subset hcpu)
  exact attributed_of_collected hcpu_ready hcpu_collected hreserved

theorem payload_attributed_of_collected {ctx : perf_context} {payload : payload}
    (hready : ContextReady t'.wiring ctx) (hcollected : PayloadCollected atomic t t' ctx payload)
    (hcanonical : ∀ item ∈ ctx.config.hwinfo.pkgs, ∀ cpu_id ∈ item.2.cpus_id,
      ∃ n : Nat, cpu_id = n.repr)
    (hreserved : ∀ item ∈ ctx.config.events_groups, ∀ event ∈ item.2.events,
      event.name ∉ reserved_names) :
    PayloadAttributed ctx.config ctx.cgroup_fd t t' payload := by
  refine (hready.built.trans hcollected).mono ?_
  rintro item hitem group_data ⟨group_ctx, hgroup_ready, hgroup_collected⟩
  obtain ⟨hconfig, hpkgs⟩ := hgroup_ready
  refine (hpkgs.trans hgroup_collected).mono ?_
  rintro pkg_item hpkg pkg_data ⟨pkg_ctx, hpkg_ready, hpkg_collected⟩
  rw [hconfig] at hpkg_collected
  exact pkg_attributed_of_collected hpkg_ready hpkg_collected (hcanonical pkg_item hpkg)
    (hreserved item hitem)

end Attribution

-- Every payload that is populated after a set up has one entry for each cpu that
-- each group is set up on, and each value in it was read from the counter of its
-- event and cpu.
theorem populate_payload_attributed {atomic : Prop} {order : hash_order} {config : perf_config}
    {target_name : String} {events : List poll_event} {timestamp : Nat}
    {ctx ctx' : perf_context} {populated : Int × populate_state} {start t₁ t t' : kernel}
    (hvalid : config.Valid)
    (hcanonical : ∀ item ∈ config.hwinfo.pkgs, ∀ cpu_id ∈ item.2.cpus_id,
      ∃ n : Nat, cpu_id = n.repr)
    (hreserved : ∀ item ∈ config.events_groups, ∀ event ∈ item.2.events,
      event.name ∉ reserved_names)
    (hstart : start.wiring.opened = [])
    (hinit : Exec (kernel.step atomic)
      ( perf_events_groups_initialize order (perf_context_create config target_name))
      start (0, ctx) t₁)
    (hmonitor : Exec (kernel.step atomic) (until_tick order events ctx) t₁ ctx' t)
    (hpopulate : Exec (kernel.step atomic)
      (populate_payload order ctx' (payload_create timestamp ctx'.target_name)) t populated t')
    (hok : populated.1 = 0) :
    PayloadAttributed config ctx.cgroup_fd t t' populated.2.payload := by
  obtain ⟨hconfig, hcgroup, hready⟩ := exec_until_tick_ready hvalid.toKeyed hstart hinit hmonitor
  obtain ⟨hready', hcollected⟩ := hready.collected hpopulate hok
  have hattributed := payload_attributed_of_collected hready' hcollected (hconfig ▸ hcanonical)
    (hconfig ▸ hreserved)
  rwa [hconfig, hcgroup] at hattributed

-- Two events on both cpus of one package.
def core_config : perf_config where
  hwinfo := ⟨[("0", ⟨["0", "1"]⟩)]⟩
  events_groups := [("core", ⟨"core", .MONITOR_ALL_CPU_PER_SOCKET, [
    ⟨"cycles", ⟨0, 0, true, 11, false, false, false, false, 0, 0, false, false, false⟩⟩,
    ⟨"instructions", ⟨0, 1, true, 11, false, false, false, false, 0, 0, false, false, false⟩⟩]⟩)]
  target := ⟨.ALL, none, none⟩
  callchain_frequency := 0

def core_setup : (Int × perf_context) × kernel :=
  ( perf_events_groups_initialize in_order (perf_context_create core_config "all")).run
    (counting fun _ => true) idle

def core_wait : perf_context × kernel :=
  (until_tick in_order [.ticker 1] core_setup.1.2).run (counting fun _ => true) core_setup.2

def core_tick : (Int × populate_state) × kernel :=
  (populate_payload in_order core_wait.1 (payload_create 2 core_wait.1.target_name)).run
    (counting fun _ => true) core_wait.2

theorem core_setup_exec (atomic : Prop) : Exec (kernel.step atomic)
    ( perf_events_groups_initialize in_order (perf_context_create core_config "all")) idle
    (0, core_setup.1.2) core_setup.2 :=
  exec_run_ok _ (counting_step atomic fun _ => true) _ _ (by decide)

theorem populate_payload_attributed_core :
    PayloadAttributed core_config core_setup.1.2.cgroup_fd core_wait.2 core_tick.2
      core_tick.1.2.payload := by
  refine populate_payload_attributed ⟨⟨by decide, by decide⟩, by decide⟩ ?_
    (by decide) rfl (core_setup_exec True) (exec_run _ (counting_step True fun _ => true) _ _)
    (exec_run _ (counting_step True fun _ => true) _ _) ?_
  · intro item hitem cpu_id hcpu
    obtain rfl := List.mem_singleton.mp hitem
    rcases List.mem_pair.mp hcpu with rfl | rfl
    · exact ⟨0, by decide⟩
    · exact ⟨1, by decide⟩
  · decide

end HwpcSensor.Perf
