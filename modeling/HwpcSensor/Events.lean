import HwpcSensor.Strtol
import HwpcSensor.Zhashx

namespace HwpcSensor

-- The attributes that the sensor or the event encoder sets.
structure perf_event_attr where
  type : Nat
  config : Nat
  disabled : Bool
  read_format : Nat
  exclude_user : Bool
  exclude_kernel : Bool
  exclude_hv : Bool
  exclude_callchain_kernel : Bool
  sample_type : Nat
  sample_freq : Nat
  freq : Bool
  mmap : Bool
  cgroup : Bool
  deriving DecidableEq

inductive events_group_monitoring_type where
  | MONITOR_ALL_CPU_PER_SOCKET
  | MONITOR_ONE_CPU_PER_SOCKET
  deriving DecidableEq

structure event_config where
  name : String
  attr : perf_event_attr
  deriving DecidableEq

structure events_group where
  name : String
  type : events_group_monitoring_type
  events : List event_config
  deriving DecidableEq

structure hwinfo_pkg where
  cpus_id : List String
  deriving DecidableEq

structure hwinfo where
  pkgs : zhashx hwinfo_pkg

-- What the detection leaves: packages that have cpus, which sysfs numbers.
structure hwinfo.Detected (hwinfo : hwinfo) : Prop where
  pkgs : (hwinfo.pkgs.map Prod.fst).Nodup
  pkgs_nonempty : hwinfo.pkgs ≠ []
  cpus : ∀ item ∈ hwinfo.pkgs, item.2.cpus_id.Nodup
  cpus_nonempty : ∀ item ∈ hwinfo.pkgs, item.2.cpus_id ≠ []
  numbered : ∀ item ∈ hwinfo.pkgs, ∀ cpu_id ∈ item.2.cpus_id,
    ∃ n : Nat, n ≤ INT_MAX ∧ cpu_id = n.repr

def hwinfo_dup (order : hash_order) (hwinfo : hwinfo) : HwpcSensor.hwinfo :=
  ⟨zhashx_dup order hwinfo.pkgs⟩

theorem hwinfo.Detected.dup {hwinfo : hwinfo} (h : hwinfo.Detected) (order : hash_order) :
    (hwinfo_dup order hwinfo).Detected := by
  have hperm : (hwinfo_dup order hwinfo).pkgs.Perm hwinfo.pkgs := zhashx_dup_perm order h.pkgs
  refine ⟨(hperm.map Prod.fst).nodup_iff.mpr h.pkgs, fun hnil => h.pkgs_nonempty ?_,
    fun item hitem => h.cpus item (hperm.subset hitem),
    fun item hitem => h.cpus_nonempty item (hperm.subset hitem),
    fun item hitem => h.numbered item (hperm.subset hitem)⟩
  rw [hnil] at hperm
  exact hperm.nil_eq.symm

end HwpcSensor
