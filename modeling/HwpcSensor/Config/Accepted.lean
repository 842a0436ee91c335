import HwpcSensor.Config.Cli
import HwpcSensor.Config.File
import HwpcSensor.Perf.Kernel.Monitored

namespace HwpcSensor

open Getopt

inductive config_source where
  | cli (argv : List String)
  | file (doc : List (String × bson_value))

def config_source.setup (m : platform) (P_flag : Int) : config_source → Option config
  | .cli argv => config_setup_from_cli m argv (config_create P_flag)
  | .file doc => config_setup_from_file m (config_create P_flag) doc

structure Accepted (m : platform) (source : config_source) (config : config) : Prop where
  setup : ∃ P_flag, source.setup m P_flag = some config
  validate : config_validate m config = 0

-- The product is that of two `unsigned int`.
def callchain_frequency (config : config) : Nat :=
  config.sensor.callchains_per_report * config.sensor.frequency % 2 ^ 32

-- The configurations of the actors that `main` starts: one for the whole system,
-- one for each container that it discovers.
inductive StartedConfig (m : platform) (hwinfo : hwinfo) (config : config) : Perf.perf_config → Prop
  | system (hgroups : config.events.system.length ≠ 0) :
      StartedConfig m hwinfo config (Perf.perf_config_create m.order hwinfo config.events.system
        ⟨.ALL, none, none⟩ (callchain_frequency config))
  | container (hgroups : config.events.containers.length ≠ 0) (type : target_type)
      (cgroup_path : String) :
      StartedConfig m hwinfo config (Perf.perf_config_create m.order hwinfo config.events.containers
        ⟨type, some config.sensor.cgroup_basepath, some cgroup_path⟩ (callchain_frequency config))

def config_source.Names (kind : events_kind) (group_name : String) : config_source → Prop
  | .cli argv => ∃ option ∈ cli_options argv, names_group option = some (kind, group_name)
  | .file doc => ∃ fields, Describes doc kind group_name fields

-- The group is given an event where it is named.
def config_source.GivesEvent (kind : events_kind) (group_name : String) : config_source → Prop
  | .cli argv => GetsEvent (kind, group_name) (cli_options argv)
  | .file doc => ∃ fields, Describes doc kind group_name fields ∧ ListsEvent fields

def config_source.ops : config_source → List events_op
  | .cli argv => cli_ops none (cli_options argv)
  | .file doc => file_ops doc

-- Every group that is asked for can be opened on the cpus it selects. There the id of
-- the cpu reads as a number, the group has been given an event, and number 0, which
-- the actor takes for an error, is in use.
def config_source.Monitorable (taken : Prop) (hwinfo : hwinfo) (source : config_source) : Prop :=
  ∀ kind group_name group, asked_group kind group_name source.ops = some group →
    (kind = .containers → taken) ∧
      ∀ pkg_item ∈ hwinfo.pkgs, ∀ cpu_id ∈ Perf.selected_cpus group pkg_item.2,
        Perf.parse_cpu_id cpu_id ≠ none ∧ source.GivesEvent kind group_name ∧ taken

section

variable {taken : Prop} {m : platform} {hwinfo : HwpcSensor.hwinfo} {source : config_source}
  {accepted : config}

theorem gives_event_iff_ops {kind : events_kind} {group_name : String} :
    source.GivesEvent kind group_name ↔
      ∃ event_name, .append kind group_name event_name ∈ source.ops := by
  cases source with
  | cli argv => exact append_mem_cli_ops_none.symm
  | file doc => exact append_mem_file_ops.symm

-- The groups that are asked for are those that the source names.
theorem asked_isSome_iff_names {kind : events_kind} {group_name : String} :
    (asked_group kind group_name source.ops).isSome ↔ source.Names kind group_name := by
  rw [asked_group_isSome_iff]
  cases source with
  | cli argv => exact create_mem_cli_ops
  | file doc => exact create_mem_file_ops

theorem Accepted.reflects (h : Accepted m source accepted) :
    Reflects source.ops accepted.events := by
  obtain ⟨P_flag, hsetup⟩ := h.setup
  have hops : apply_ops m source.ops (config_create P_flag).events = some accepted.events := by
    cases source with
    | cli argv =>
        obtain ⟨s, hoptions, rfl⟩ := Option.map_eq_some_iff.mp hsetup
        exact handle_options_ops hoptions
    | file doc => exact iter_on_root_config_ops hsetup
  exact Reflects.nil.apply_ops hops

theorem selected_without_events (group : events_group) (pkg : hwinfo_pkg) :
    Perf.selected_cpus group.without_events pkg = Perf.selected_cpus group pkg :=
  rfl

-- What the source asks for is what the accepted groups have.
theorem Accepted.monitorable_iff (h : Accepted m source accepted) :
    source.Monitorable taken hwinfo ↔ ∀ kind, ∀ item ∈ accepted.events.groups kind,
      (kind = .containers → taken) ∧
        ∀ pkg_item ∈ hwinfo.pkgs, ∀ cpu_id ∈ Perf.selected_cpus item.2 pkg_item.2,
          Perf.parse_cpu_id cpu_id ≠ none ∧ item.2.events ≠ [] ∧ taken := by
  unfold config_source.Monitorable
  constructor
  · intro hsource kind item hitem
    have hlookup := (zhashx_lookup_eq_some_iff (h.reflects.nodup kind)).mpr hitem
    have hasked : asked_group kind item.1 source.ops = some item.2.without_events := by
      rw [h.reflects.asked, hlookup]
      rfl
    obtain ⟨hkind, hcpus⟩ := hsource kind item.1 _ hasked
    refine ⟨hkind, fun pkg_item hpkg cpu_id hcpu => ?_⟩
    obtain ⟨hparse, hevent, htaken⟩ := hcpus pkg_item hpkg cpu_id hcpu
    exact ⟨hparse, (h.reflects.filled kind item hitem).mpr (gives_event_iff_ops.mp hevent), htaken⟩
  · intro hgroups kind group_name group hasked
    rw [h.reflects.asked] at hasked
    obtain ⟨full, hlookup, rfl⟩ := Option.map_eq_some_iff.mp hasked
    have hitem := mem_of_zhashx_lookup hlookup
    obtain ⟨hkind, hcpus⟩ := hgroups kind _ hitem
    refine ⟨hkind, fun pkg_item hpkg cpu_id hcpu => ?_⟩
    rw [selected_without_events] at hcpu
    obtain ⟨hparse, hevents, htaken⟩ := hcpus pkg_item hpkg cpu_id hcpu
    exact ⟨hparse, gives_event_iff_ops.mpr ((h.reflects.filled kind _ hitem).mp hevents), htaken⟩

-- The actor gets copies of the hardware and of the groups.
theorem monitored_create_iff (hpkgs : (zhashx_keys hwinfo.pkgs).Nodup)
    {groups : zhashx events_group} (hgroups : (zhashx_keys groups).Nodup) (target : target)
    (callchain_frequency : Nat) :
    Perf.Monitored taken m.order
        (Perf.perf_config_create m.order hwinfo groups target callchain_frequency) ↔
      (target.cgroup_path ≠ none → taken) ∧ ∀ item ∈ groups, ∀ pkg_item ∈ hwinfo.pkgs,
        ∀ cpu_id ∈ Perf.selected_cpus item.2 pkg_item.2,
          Perf.parse_cpu_id cpu_id ≠ none ∧ item.2.events ≠ [] ∧ taken := by
  have hperm := zhashx_dup_perm m.order hgroups
  have hperm' : (hwinfo_dup m.order hwinfo).pkgs.Perm hwinfo.pkgs := zhashx_dup_perm m.order hpkgs
  rw [Perf.monitored_iff_openable ⟨(hperm.map Prod.fst).nodup_iff.mpr hgroups,
    (hperm'.map Prod.fst).nodup_iff.mpr hpkgs⟩]
  constructor
  · intro h
    exact ⟨h.cgroup, fun item hitem pkg_item hpkg =>
      h.cpu item (hperm.mem_iff.mpr hitem) pkg_item (hperm'.mem_iff.mpr hpkg)⟩
  · rintro ⟨hcgroup, hcpus⟩
    exact ⟨hcgroup, fun item hitem pkg_item hpkg =>
      hcpus item (hperm.mem_iff.mp hitem) pkg_item (hperm'.mem_iff.mp hpkg)⟩

theorem accepted_monitored_iff (hpkgs : (zhashx_keys hwinfo.pkgs).Nodup)
    (h : Accepted m source accepted) :
    (∀ config, StartedConfig m hwinfo accepted config → Perf.Monitored taken m.order config) ↔
      source.Monitorable taken hwinfo := by
  rw [h.monitorable_iff]
  constructor
  · intro hmonitored kind item hitem
    have hlength := Nat.ne_of_gt (List.length_pos_of_mem hitem)
    cases kind with
    | system =>
        have hsystem := (monitored_create_iff hpkgs (h.reflects.nodup .system) _ _).mp
          (hmonitored _ (.system hlength))
        exact ⟨by simp, hsystem.2 item hitem⟩
    | containers =>
        have hcontainer := (monitored_create_iff hpkgs (h.reflects.nodup .containers) _ _).mp
          (hmonitored _ (.container hlength .DOCKER ""))
        exact ⟨fun _ => hcontainer.1 (by simp), hcontainer.2 item hitem⟩
  · intro hgroups config hstarted
    cases hstarted with
    | system hlength =>
        exact (monitored_create_iff hpkgs (h.reflects.nodup .system) _ _).mpr
          ⟨by simp, fun item hitem => (hgroups .system item hitem).2⟩
    | container hlength type cgroup_path =>
        obtain ⟨item, hmem⟩ := List.exists_mem_of_length_pos (Nat.pos_of_ne_zero hlength)
        exact (monitored_create_iff hpkgs (h.reflects.nodup .containers) _ _).mpr
          ⟨fun _ => (hgroups .containers item hmem).1 rfl,
            fun item hitem => (hgroups .containers item hitem).2⟩

end

-- A machine with one cpu, whose events all have an encoding.
def one_cpu : hwinfo := ⟨[("0", ⟨["0"]⟩)]⟩

def all_events : platform := ⟨in_order, fun _ attr => some attr, false⟩

def with_group (group : events_group) : config where
  sensor := ⟨0, 1000, 20, DEFAULT_CGROUP_BASEPATH, some "x"⟩
  storage := ⟨.STORAGE_CSV, some "out", none, none, 0⟩
  events := ⟨[("g", group)], []⟩

theorem one_cpu_detected : one_cpu.Detected := by
  refine ⟨by decide, by decide, by decide, by decide, fun item hitem cpu_id hcpu => ?_⟩
  obtain rfl := List.mem_singleton.mp hitem
  obtain rfl := List.mem_singleton.mp hcpu
  exact ⟨0, by decide⟩

def cycles_source : config_source :=
  .cli ["hwpc-sensor", "-n", "x", "-U", "out", "-s", "g", "-e", "cycles"]

theorem cycles_monitorable : cycles_source.Monitorable True one_cpu := by
  intro kind group_name group hasked
  have hops : cycles_source.ops = [.create .system "g", .append .system "g" "cycles"] := rfl
  rw [hops] at hasked
  by_cases hnamed : kind = .system ∧ group_name = "g"
  · obtain ⟨rfl, rfl⟩ := hnamed
    refine ⟨by simp, fun pkg_item hpkg cpu_id hcpu => ?_⟩
    obtain rfl := List.mem_singleton.mp hpkg
    obtain rfl := List.mem_singleton.mp (Perf.selected_subset hcpu)
    exact ⟨by decide, ⟨[.value 'n' "x", .value 'U' "out"], .value 's' "g", _, rfl, rfl, [],
      "cycles", [], rfl, by simp⟩, trivial⟩
  · simp [asked_group, asked_after, hnamed] at hasked

def cycles_config : config :=
  with_group ⟨"g", .MONITOR_ALL_CPU_PER_SOCKET, [⟨"cycles", ⟨0, 0, true, 11, false, false, false,
    false, 0, 0, false, false, false⟩⟩]⟩

theorem accepted_monitored_iff_cycles :
    Perf.Monitored True in_order (Perf.perf_config_create in_order one_cpu
      cycles_config.events.system ⟨.ALL, none, none⟩ (callchain_frequency cycles_config)) :=
  (@accepted_monitored_iff True all_events one_cpu cycles_source cycles_config (by decide)
    ⟨⟨0, rfl⟩, by decide⟩).mpr cycles_monitorable _ (.system (by decide))

-- The validation counts the groups, not their events.
theorem accepted_without_event :
    ¬ ∀ (taken : Prop) (m : platform) (hwinfo : hwinfo) (source : config_source)
      (accepted : config), taken → hwinfo.Detected → Accepted m source accepted →
      ∀ config, StartedConfig m hwinfo accepted config → Perf.Monitored taken m.order config := by
  intro hclaim
  have haccepted : Accepted all_events
      (.cli ["hwpc-sensor", "-n", "x", "-U", "out", "-s", "g"])
      (with_group ⟨"g", .MONITOR_ALL_CPU_PER_SOCKET, []⟩) := ⟨⟨0, rfl⟩, by decide⟩
  have hmonitored := hclaim True _ _ _ _ trivial one_cpu_detected haccepted _ (.system (by decide))
  have hcpus := ((monitored_create_iff (by decide) (by decide) _ _).mp hmonitored).2
  have hevents := (hcpus ("g", ⟨"g", .MONITOR_ALL_CPU_PER_SOCKET, []⟩) List.mem_cons_self
    ("0", ⟨["0"]⟩) List.mem_cons_self "0" List.mem_cons_self).2.1
  exact hevents rfl

end HwpcSensor
