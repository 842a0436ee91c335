import HwpcSensor.Perf.Kernel.Filtering

namespace HwpcSensor.Perf

open Interaction Syscall

-- A payload that a run from the set up on came to.
inductive Reported (count : counted → Nat) (config : perf_config) : payload → Prop
  | intro {atomic : Prop} {directory : Int → String} {order : hash_order} {target_name : String}
      {events : List poll_event} {timestamp : Nat} {ctx ctx' : perf_context}
      {populated : Int × populate_state} {start t₁ t t' : kernel}
      (hstart : start.wiring.opened = [])
      (hinit : Exec (valued_step atomic count directory)
        ( perf_events_groups_initialize order (perf_context_create config target_name))
        start (0, ctx) t₁)
      (hmonitor : Exec (valued_step atomic count directory) (until_tick order events ctx) t₁ ctx' t)
      (hpopulate : Exec (valued_step atomic count directory)
        (populate_payload order ctx' (payload_create timestamp ctx'.target_name)) t populated t')
      (hok : populated.1 = 0) : Reported count config populated.2.payload

-- The events of a group are those that the names stand for, and the names are none
-- of those that the payload has of its own.
structure Named (encode : String → Option event_config) (config : perf_config) : Prop where
  events : ∀ item ∈ config.events_groups, ∀ event ∈ item.2.events, encode event.name = some event
  reserved : ∀ name ∈ reserved_names, encode name = none

theorem Named.injective {encode : String → Option event_config} {config : perf_config}
    (h : Named encode config) {item item' : String × events_group}
    (hitem : item ∈ config.events_groups) (hitem' : item' ∈ config.events_groups)
    {event event' : event_config} (hevent : event ∈ item.2.events)
    (hevent' : event' ∈ item'.2.events) (hname : event'.name = event.name) : event' = event := by
  have hencode := h.events item' hitem' event' hevent'
  rw [hname, h.events item hitem event hevent] at hencode
  exact (Option.some.inj hencode).symm

theorem Named.not_reserved {encode : String → Option event_config} {config : perf_config}
    (h : Named encode config) {item : String × events_group} (hitem : item ∈ config.events_groups)
    {event : event_config} (hevent : event ∈ item.2.events) : event.name ∉ reserved_names := by
  intro hmem
  have hencode := h.events item hitem event hevent
  rw [h.reserved _ hmem] at hencode
  exact absurd hencode (by simp)

def reported_value (count : counted → Nat) (config : perf_config) (events : List event_config)
    (cpu : Int) (event : event_config) : event_value :=
  .counter (count (counted_of (opened_attr config events event) cpu config.target.cgroup_path))

def CpuReported (count : counted → Nat) (config : perf_config) (group : events_group)
    (cpu_id : String) (cpu_data : payload_cpu_data) : Prop :=
  ∃ cpu, parse_cpu_id cpu_id = some cpu ∧ ∀ event ∈ group.events,
    zhashx_lookup cpu_data.events event.name =
      some (reported_value count config group.events cpu event)

def PayloadReported (count : counted → Nat) (config : perf_config) (payload : payload) : Prop :=
  Built Prod.fst (fun item group_data =>
    Built Prod.fst (fun pkg_item pkg_data =>
      Built id (CpuReported count config item.2) (selected_cpus item.2 pkg_item.2) pkg_data.cpus)
      config.hwinfo.pkgs group_data.pkgs)
    config.events_groups payload.groups

section Values

variable {encode : String → Option event_config} {count : counted → Nat} {config : perf_config}

theorem counted_of_request {cgroup_fd : Int} {directory : Int → String}
    (hnone : config.target.cgroup_path = none → cgroup_fd = -1)
    (hsome : ∀ path, config.target.cgroup_path = some path →
      0 < cgroup_fd ∧ directory cgroup_fd = path)
    {events : List event_config} {event : event_config} {request : perf_request}
    (hpid : request.pid = cgroup_fd) (hflags : request.flags = perf_flags_of config.target)
    (hattr : request.attr = if cgroup_fd > -1 ∧ LeadsGroup events event.name then
      sampling_attr event.attr config.callchain_frequency else event.attr) :
    request.counted directory =
      counted_of (opened_attr config events event) request.cpu config.target.cgroup_path := by
  unfold perf_request.counted opened_attr
  rw [hpid, hflags, hattr, perf_flags_of]
  cases hpath : config.target.cgroup_path with
  | none =>
      rw [hnone hpath]
      simp
  | some path =>
      obtain ⟨hpos, hdirectory⟩ := hsome path hpath
      have hcgroup : cgroup_fd > -1 := by omega
      simp [hcgroup, hdirectory, PERF_FLAG_PID_CGROUP]

theorem Reported.values (hvalid : config.Valid) (hnamed : Named encode config) {p : payload}
    (h : Reported count config p) : PayloadReported count config p := by
  obtain ⟨hstart, hinit, hmonitor, hpopulate, hok⟩ := h
  rename_i atomic directory order target_name events timestamp ctx ctx' populated start t₁ t t'
  obtain ⟨hnone, hsome⟩ := exec_initialize_cgroup hinit
  obtain ⟨hconfig, hcgroup, hready⟩ :=
    exec_until_tick_ready hvalid.toKeyed hstart (exec_of_valued hinit) (exec_of_valued hmonitor)
  obtain ⟨-, hcollected⟩ :=
    hready.collected (exec_of_valued hpopulate) hok
  obtain ⟨-, new, hnew, hvalued⟩ := exec_valued_since
    ((populates_payload _ _).mono fun _ => keeps_of_populates) hpopulate
  have hbuilt := hready.built
  rw [hconfig, hcgroup] at hbuilt
  refine (hbuilt.trans hcollected).mono ?_
  rintro item hitem group_data ⟨group_ctx, ⟨hgroup_config, hpkgs⟩, hgroup⟩
  refine (hpkgs.trans hgroup).mono ?_
  rintro pkg_item - pkg_data ⟨pkg_ctx, hcpus, hpkg⟩
  rw [hgroup_config] at hpkg
  refine (hcpus.trans hpkg).mono ?_
  rintro cpu_id - cpu_data ⟨cpu_ctx, ⟨cpu, hparse, hwired⟩, r, text, ⟨taken, htaken, hr⟩, hleader,
    hentry, -⟩
  refine ⟨cpu, hparse, fun event hevent => ?_⟩
  obtain ⟨fd, hfd, hcounter⟩ := counter_of_exists hwired.length_eq hevent
  obtain ⟨hcpu, hpid, hflags, hattr⟩ := request_of_counter hevent
    (fun other hother hname => hnamed.injective hitem hitem hevent hother hname)
    hwired.requests hcounter
  have hreserved := hnamed.not_reserved hitem hevent
  simp only [reserved_names, List.mem_cons, List.not_mem_nil, or_false, not_or] at hreserved
  obtain rfl := List.append_cancel_left (hnew.symm.trans htaken)
  have hvalue := hvalued r hr fd (by
    rw [kernel.members, hwired.members _ hleader]
    exact hfd)
  rw [counted_of_request hnone hsome hpid hflags hattr, hcpu] at hvalue
  rw [hentry.lookup, entry_value, if_neg hreserved.1, if_neg hreserved.2.1, hcounter,
    Option.map_some, hvalue]
  rfl

end Values

-- The lookups of a payload that is made of such tables.
section Lookups

variable {count : counted → Nat} {config : perf_config} {p : payload}

theorem PayloadReported.stored (h : PayloadReported count config p)
    {item : String × events_group} (hitem : item ∈ config.events_groups)
    {pkg_item : String × hwinfo_pkg} (hpkg : pkg_item ∈ config.hwinfo.pkgs) {cpu_id : String}
    (hcpu : cpu_id ∈ selected_cpus item.2 pkg_item.2) :
    ∃ cpu, parse_cpu_id cpu_id = some cpu ∧ ∀ event ∈ item.2.events,
      p.stored item.1 pkg_item.1 cpu_id event.name =
        some (reported_value count config item.2.events cpu event) := by
  obtain ⟨group_data, hgroup, hpkgs⟩ := h.entry item hitem
  obtain ⟨pkg_data, hpkg_data, hcpus⟩ := hpkgs.entry pkg_item hpkg
  obtain ⟨cpu_data, hcpu_data, cpu, hparse, hevents⟩ := hcpus.entry cpu_id hcpu
  have hdata : p.cpu_data item.1 pkg_item.1 cpu_id = some cpu_data := by
    simp only [payload.cpu_data, hgroup, hpkg_data, Option.bind_some]
    exact hcpu_data
  refine ⟨cpu, hparse, fun event hevent => ?_⟩
  rw [payload.stored, hdata]
  exact hevents event hevent

theorem PayloadReported.not_stored (h : PayloadReported count config p)
    {item : String × events_group} (hitem : item ∈ config.events_groups) {pkg cpu_id name : String}
    (hnone : ∀ pkg_item ∈ config.hwinfo.pkgs, pkg_item.1 = pkg →
      cpu_id ∉ selected_cpus item.2 pkg_item.2) : p.stored item.1 pkg cpu_id name = none := by
  obtain ⟨group_data, hgroup, hpkgs⟩ := h.entry item hitem
  have hdata : p.cpu_data item.1 pkg cpu_id = none := by
    simp only [payload.cpu_data, hgroup, Option.bind_some]
    cases hpkg : zhashx_lookup group_data.pkgs pkg with
    | none => rfl
    | some pkg_data =>
        obtain ⟨pkg_item, hmem, rfl, hcpus⟩ := hpkgs.of_mem (mem_of_zhashx_lookup hpkg)
        refine zhashx_lookup_eq_none_iff.mpr fun hkey => hnone pkg_item hmem rfl ?_
        simpa using (hcpus.keys cpu_id).mp hkey
  rw [payload.stored, hdata]
  rfl

end Lookups

-- The configuration with the events of each group in another order.
def perf_config.rearranged (config : perf_config)
    (arranged : String × events_group → List event_config) : perf_config :=
  { config with events_groups := config.events_groups.map fun item =>
      (item.1, { item.2 with events := arranged item }) }

-- An event that leads its group in one of the orders only counts as much when the
-- kernel is excluded.
def KernelUncounted (count : counted → Nat) (config : perf_config)
    (arranged : String × events_group → List event_config) : Prop :=
  ∀ path, config.target.cgroup_path = some path → ∀ item ∈ config.events_groups,
    ∀ pkg_item ∈ config.hwinfo.pkgs, ∀ cpu_id ∈ selected_cpus item.2 pkg_item.2, ∀ cpu,
      parse_cpu_id cpu_id = some cpu → ∀ event ∈ item.2.events,
        (LeadsGroup item.2.events event.name ↔ LeadsGroup (arranged item) event.name) ∨
          count (counted_of { event.attr with exclude_kernel := true } cpu (some path)) =
            count (counted_of event.attr cpu (some path))

section Orders

variable {encode : String → Option event_config} {count : counted → Nat} {config : perf_config}
  {arranged : String × events_group → List event_config}

theorem perf_config.Valid.rearranged (h : config.Valid) : (config.rearranged arranged).Valid := by
  refine ⟨⟨?_, h.pkgs⟩, h.cpus⟩
  rw [perf_config.rearranged, List.map_map]
  exact h.groups

theorem Named.rearranged (h : Named encode config)
    (hperm : ∀ item ∈ config.events_groups, (arranged item).Perm item.2.events) :
    Named encode (config.rearranged arranged) := by
  refine ⟨fun item hitem event hevent => ?_, h.reserved⟩
  obtain ⟨item, hmem, rfl⟩ := List.mem_map.mp hitem
  exact h.events item hmem event ((hperm item hmem).mem_iff.mp hevent)

theorem reported_value_eq_iff {events events' : List event_config} {cpu : Int}
    {event : event_config} :
    reported_value count config events cpu event =
        reported_value count (config.rearranged arranged) events' cpu event ↔
      ∀ path, config.target.cgroup_path = some path →
        (LeadsGroup events event.name ↔ LeadsGroup events' event.name) ∨
          count (counted_of { event.attr with exclude_kernel := true } cpu (some path)) =
            count (counted_of event.attr cpu (some path)) := by
  have htarget : (config.rearranged arranged).target = config.target := rfl
  have hsampled : ∀ frequency path, counted_of (sampling_attr event.attr frequency) cpu path =
      counted_of { event.attr with exclude_kernel := true } cpu path := fun _ _ => rfl
  unfold reported_value opened_attr
  rw [htarget, event_value.counter.injEq]
  cases hpath : config.target.cgroup_path with
  | none => simp
  | some path =>
      by_cases hfirst : LeadsGroup events event.name
      · by_cases hsecond : LeadsGroup events' event.name
        · simp [hfirst, hsecond, hsampled]
        · simp [hfirst, hsecond, hsampled]
      · by_cases hsecond : LeadsGroup events' event.name
        · simp [hfirst, hsecond, hsampled, eq_comm]
        · simp [hfirst, hsecond]

-- The values that are reported under the names of the events.
def SameValues (config : perf_config) (p p' : payload) : Prop :=
  ∀ item ∈ config.events_groups, ∀ event ∈ item.2.events, ∀ pkg cpu_id,
    p.stored item.1 pkg cpu_id event.name = p'.stored item.1 pkg cpu_id event.name

theorem same_values_iff {p p' : payload} (hvalid : config.Valid) (hnamed : Named encode config)
    (hperm : ∀ item ∈ config.events_groups, (arranged item).Perm item.2.events)
    (hp : Reported count config p) (hp' : Reported count (config.rearranged arranged) p') :
    SameValues config p p' ↔ KernelUncounted count config arranged := by
  have hvalues := hp.values hvalid hnamed
  have hvalues' := hp'.values hvalid.rearranged (hnamed.rearranged hperm)
  have hmem : ∀ item ∈ config.events_groups,
      (item.1, { item.2 with events := arranged item }) ∈
        (config.rearranged arranged).events_groups :=
    fun item hitem => List.mem_map.mpr ⟨item, hitem, rfl⟩
  -- the two values of an event on a cpu that its group is set up on
  have hboth : ∀ item ∈ config.events_groups, ∀ pkg_item ∈ config.hwinfo.pkgs,
      ∀ cpu_id ∈ selected_cpus item.2 pkg_item.2, ∃ cpu, parse_cpu_id cpu_id = some cpu ∧
        ∀ event ∈ item.2.events,
          p.stored item.1 pkg_item.1 cpu_id event.name =
            some (reported_value count config item.2.events cpu event) ∧
          p'.stored item.1 pkg_item.1 cpu_id event.name =
            some (reported_value count (config.rearranged arranged) (arranged item) cpu event) := by
    intro item hitem pkg_item hpkg cpu_id hcpu
    obtain ⟨cpu, hparse, hstored⟩ := hvalues.stored hitem hpkg hcpu
    obtain ⟨cpu', hparse', hstored'⟩ := hvalues'.stored (hmem item hitem) hpkg hcpu
    obtain rfl := Option.some.inj (hparse.symm.trans hparse')
    exact ⟨cpu, hparse, fun event hevent => ⟨hstored event hevent,
      hstored' event ((hperm item hitem).mem_iff.mpr hevent)⟩⟩
  constructor
  · intro hsame path hpath item hitem pkg_item hpkg cpu_id hcpu cpu hparse event hevent
    obtain ⟨cpu', hparse', hstored⟩ := hboth item hitem pkg_item hpkg cpu_id hcpu
    obtain rfl := Option.some.inj (hparse.symm.trans hparse')
    obtain ⟨hfirst, hsecond⟩ := hstored event hevent
    have heq := hsame item hitem event hevent pkg_item.1 cpu_id
    rw [hfirst, hsecond] at heq
    exact reported_value_eq_iff.mp (Option.some.inj heq) path hpath
  · intro huncounted item hitem event hevent pkg cpu_id
    by_cases hselected : ∃ pkg_item ∈ config.hwinfo.pkgs, pkg_item.1 = pkg ∧
        cpu_id ∈ selected_cpus item.2 pkg_item.2
    · obtain ⟨pkg_item, hpkg, rfl, hcpu⟩ := hselected
      obtain ⟨cpu, hparse, hstored⟩ := hboth item hitem pkg_item hpkg cpu_id hcpu
      obtain ⟨hfirst, hsecond⟩ := hstored event hevent
      rw [hfirst, hsecond]
      refine congrArg some (reported_value_eq_iff.mpr fun path hpath => ?_)
      exact huncounted path hpath item hitem pkg_item hpkg cpu_id hcpu cpu hparse event hevent
    · have hnone : ∀ pkg_item ∈ config.hwinfo.pkgs, pkg_item.1 = pkg →
          cpu_id ∉ selected_cpus item.2 pkg_item.2 :=
        fun pkg_item hpkg hkey hcpu => hselected ⟨pkg_item, hpkg, hkey, hcpu⟩
      rw [hvalues.not_stored hitem hnone]
      exact (hvalues'.not_stored (hmem item hitem) hnone).symm

-- For a group that is set up on some cpu, and whatever the kernel counts.
theorem kernel_uncounted_forall_iff :
    (∀ count, KernelUncounted count config arranged) ↔
      (config.target.cgroup_path ≠ none → ∀ item ∈ config.events_groups,
        ∀ pkg_item ∈ config.hwinfo.pkgs, ∀ cpu_id ∈ selected_cpus item.2 pkg_item.2,
          parse_cpu_id cpu_id ≠ none → ∀ event ∈ item.2.events,
            (LeadsGroup item.2.events event.name ↔ LeadsGroup (arranged item) event.name) ∨
              event.attr.exclude_kernel = true) := by
  constructor
  · intro huncounted hcgroup item hitem pkg_item hpkg cpu_id hcpu hparse event hevent
    obtain ⟨path, hpath⟩ := Option.ne_none_iff_exists'.mp hcgroup
    obtain ⟨cpu, hcpu_parse⟩ := Option.ne_none_iff_exists'.mp hparse
    rcases huncounted (fun c => if c.exclude_kernel then 0 else 1) path hpath item hitem pkg_item
      hpkg cpu_id hcpu cpu hcpu_parse event hevent with hleads | hcount
    · exact Or.inl hleads
    · exact Or.inr (by by_contra hkernel; simp [counted_of, hkernel] at hcount)
  · intro hexcluded count path hpath item hitem pkg_item hpkg cpu_id hcpu cpu hparse event hevent
    rcases hexcluded (by simp [hpath]) item hitem pkg_item hpkg cpu_id hcpu (by simp [hparse]) event
      hevent with hleads | hexclude
    · exact Or.inl hleads
    · exact Or.inr (by rw [← hexclude])

end Orders

-- Whatever the order of the events, when the kernel is not counted by those that
-- come to lead a group.
theorem rearranged_values_iff {m : platform} {count : counted → Nat} {config : perf_config}
    {arranged : String × events_group → List event_config} {p p' : payload}
    (hvalid : config.Valid) (hnamed : Named (event_config_create m) config)
    (hperm : ∀ item ∈ config.events_groups, (arranged item).Perm item.2.events)
    (hp : Reported count config p) (hp' : Reported count (config.rearranged arranged) p') :
    (∀ item ∈ config.events_groups, ∀ event ∈ item.2.events, ∀ pkg cpu_id,
      p.stored item.1 pkg cpu_id event.name = p'.stored item.1 pkg cpu_id event.name) ↔
      KernelUncounted count config arranged :=
  same_values_iff hvalid hnamed hperm hp hp'

-- A kernel that can be run, whose counters come to their values when they are read.

def count_to (count : counted → Nat) (directory : Int → String) (s : kernel) : kernel :=
  let missing (fd : Int) :=
    if s.enabled fd then count ((s.wiring.request fd).counted directory) - s.value fd else 0
  { s with
    value := fun fd => s.value fd + missing fd
    counted := fun fd => s.counted fd + missing fd }

theorem between_count_to (count : counted → Nat) (directory : Int → String) (s : kernel) :
    kernel.Between False s (count_to count directory s) := by
  refine .count _ s.times s.rings (fun fd hpos => ⟨?_, False.elim⟩) fun buffer => ?_
  · by_contra hdisabled
    rw [if_neg hdisabled] at hpos
    exact absurd hpos (Nat.lt_irrefl 0)
  · cases s.rings buffer with
    | none => exact .none
    | some r => exact .some .refl

instance (count : counted → Nat) (directory : Int → String) (s : kernel) (leader : Int) :
    Decidable (Valued count directory s leader) :=
  inferInstanceAs (Decidable (∀ fd ∈ s.members leader, _ = _))

def valuing (count : counted → Nat) (directory : Int → String) (s : kernel) :
    (call : syscall) → syscall_answer call × kernel
  | .malloc => (true, s.forget)
  | .open path => if directory 100 = path then ((100 : Int), s.forget) else ((-1 : Int), s.forget)
  | .mmap fd =>
      match s.rings fd.toNat with
      | none => (some fd.toNat, s.map fd.toNat new_ring)
      | some _ => (none, s.forget)
  | .read leader size =>
      let m := count_to count directory s
      if Valued count directory m leader ∧ leader ∈ m.wiring.opened ∧
          size = perf_read_size (m.members leader).length then
        (some (m.report leader), m.read leader)
      else (none, m.forget)
  | call => counting (fun _ => true) s call

theorem valuing_step (count : counted → Nat) (directory : Int → String) (s : kernel)
    (call : syscall) :
    valued_step False count directory s call (valuing count directory s call).1
      (valuing count directory s call).2 := by
  have hstay := kernel.between_refl False s
  cases call with
  | malloc => exact ⟨⟨s, hstay, rfl, rfl⟩, trivial⟩
  | «open» path =>
      simp only [valuing]
      split_ifs with hpath
      · exact ⟨⟨s, hstay, rfl⟩, fun _ => hpath⟩
      · exact ⟨⟨s, hstay, rfl⟩, fun hpos => absurd hpos (by simp)⟩
  | mmap fd =>
      simp only [valuing]
      cases hring : s.rings fd.toNat with
      | none => exact ⟨⟨s, hstay, hring, new_ring, rfl, rfl⟩, trivial⟩
      | some r => exact ⟨⟨s, hstay, rfl⟩, trivial⟩
  | read leader size =>
      simp only [valuing]
      split_ifs with hserved
      · exact ⟨⟨_, between_count_to count directory s, hserved.2.1, hserved.2.2, rfl, rfl⟩,
          hserved.1⟩
      · exact ⟨⟨_, between_count_to count directory s, rfl⟩, trivial⟩
  | _ => exact ⟨counting_step False (fun _ => true) s _, trivial⟩

-- Two events of a container on one cpu, and a kernel in which each of them counts
-- once in user mode and once in kernel mode.

def box_path : String := "/sys/fs/cgroup/perf_event/docker/box"

def box_config : perf_config :=
  { core_config with
    hwinfo := ⟨[("0", ⟨["0"]⟩)]⟩
    target := ⟨.DOCKER, none, some box_path⟩ }

def box_platform : platform where
  order := in_order
  pfm_get_os_event_encoding name attr :=
    if name = "cycles" then some attr
    else if name = "instructions" then some { attr with config := 1 }
    else none
  HAVE_MONGODB := false

def modes (c : counted) : Nat :=
  if c.exclude_kernel then 1 else 2

def box_setup (config : perf_config) : (Int × perf_context) × kernel :=
  ( perf_events_groups_initialize in_order (perf_context_create config "box")).run
    (valuing modes fun _ => box_path) idle

def box_wait (config : perf_config) : perf_context × kernel :=
  (until_tick in_order [] (box_setup config).1.2).run (valuing modes fun _ => box_path)
    (box_setup config).2

def box_tick (config : perf_config) : (Int × populate_state) × kernel :=
  (populate_payload in_order (box_wait config).1
    (payload_create 1 (box_wait config).1.target_name)).run
      (valuing modes fun _ => box_path) (box_wait config).2

theorem box_reported {config : perf_config} (hsetup : (box_setup config).1.1 = 0)
    (htick : (box_tick config).1.1 = 0) :
    Reported modes config (box_tick config).1.2.payload := by
  have hinit : Exec (valued_step False modes fun _ => box_path)
      ( perf_events_groups_initialize in_order (perf_context_create config "box")) idle
      (0, (box_setup config).1.2) (box_setup config).2 :=
    exec_run_ok _ (valuing_step modes fun _ => box_path) _ _ hsetup
  have hstart : idle.wiring.opened = [] := rfl
  exact .intro hstart hinit (exec_run _ (valuing_step modes fun _ => box_path) _ _)
    (exec_run _ (valuing_step modes fun _ => box_path) _ _) htick

def swapped (item : String × events_group) : List event_config :=
  item.2.events.reverse

theorem box_valid : box_config.Valid :=
  ⟨⟨by decide, by decide⟩, by decide⟩

theorem swapped_perm {item : String × events_group} : (swapped item).Perm item.2.events :=
  List.reverse_perm _

theorem box_named : Named (event_config_create box_platform) box_config :=
  ⟨by decide, by decide⟩

theorem rearranged_values_iff_box :
    (∀ item ∈ box_config.events_groups, ∀ event ∈ item.2.events, ∀ pkg cpu_id,
      (box_tick box_config).1.2.payload.stored item.1 pkg cpu_id event.name =
        (box_tick (box_config.rearranged swapped)).1.2.payload.stored item.1 pkg cpu_id
          event.name) ↔
      KernelUncounted modes box_config swapped :=
  rearranged_values_iff box_valid box_named (fun _ _ => swapped_perm)
    (box_reported (by decide) (by decide)) (box_reported (by decide) (by decide))

-- The first event is counted without the kernel, and the others with it.
theorem first_event_counts_less :
    ¬ ∀ (m : platform) (count : counted → Nat) (config : perf_config)
      (arranged : String × events_group → List event_config) (p p' : payload), config.Valid →
      Named (event_config_create m) config →
      (∀ item ∈ config.events_groups, (arranged item).Perm item.2.events) →
      Reported count config p → Reported count (config.rearranged arranged) p' →
      ∀ item ∈ config.events_groups, ∀ event ∈ item.2.events, ∀ pkg cpu_id,
        p.stored item.1 pkg cpu_id event.name = p'.stored item.1 pkg cpu_id event.name := by
  intro hclaim
  have hvalues := hclaim box_platform modes box_config swapped _ _ box_valid box_named
    (fun _ _ => swapped_perm) (box_reported (by decide) (by decide))
    (box_reported (by decide) (by decide)) (box_config.events_groups.head (by decide))
    (List.head_mem _) ((box_config.events_groups.head (by decide)).2.events.head (by decide))
    (List.head_mem _) "0" "0"
  exact absurd hvalues (by decide)

end HwpcSensor.Perf
