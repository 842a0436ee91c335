import HwpcSensor.Events
import HwpcSensor.Perf.Callchain
import HwpcSensor.Target

namespace HwpcSensor.Perf

structure perf_config where
  hwinfo : hwinfo
  events_groups : zhashx events_group
  target : target
  callchain_frequency : Nat

-- The tables are tables.
structure perf_config.Keyed (config : perf_config) : Prop where
  groups : (config.events_groups.map Prod.fst).Nodup
  pkgs : (config.hwinfo.pkgs.map Prod.fst).Nodup

-- No package lists a cpu twice.
structure perf_config.Valid (config : perf_config) : Prop extends config.Keyed where
  cpus : ∀ item ∈ config.hwinfo.pkgs, item.2.cpus_id.Nodup

def perf_config_create (order : hash_order) (hwinfo : hwinfo) (events_groups : zhashx events_group)
    (target : target) (callchain_frequency : Nat) : perf_config where
  hwinfo := hwinfo_dup order hwinfo
  events_groups := zhashx_dup order events_groups
  target := target
  callchain_frequency := callchain_frequency

-- `buffer` is the address of the ring-buffer mapping, when there is one.
structure perf_group_cpu_context where
  perf_fds : List Int
  buffer : Option Nat

structure perf_group_pkg_context where
  cpus_ctx : zhashx perf_group_cpu_context

structure perf_group_context where
  config : events_group
  pkgs_ctx : zhashx perf_group_pkg_context

structure perf_context where
  config : perf_config
  target_name : String
  terminated : Bool
  cgroup_fd : Int
  groups_ctx : zhashx perf_group_context
  dwfl : Option Dwfl

def perf_group_cpu_context_create : perf_group_cpu_context := ⟨[], none⟩

def perf_group_pkg_context_create : perf_group_pkg_context := ⟨[]⟩

def perf_group_context_create (group : events_group) : perf_group_context := ⟨group, []⟩

-- By default, system wide monitoring.
def perf_context_create (config : perf_config) (target_name : String) : perf_context where
  config := config
  target_name := target_name
  terminated := false
  cgroup_fd := -1
  groups_ctx := []
  dwfl := none

end HwpcSensor.Perf
