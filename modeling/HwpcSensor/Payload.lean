import HwpcSensor.Zhashx

namespace HwpcSensor

-- The values of a payload are reached through one kind of pointer, to a counter
-- or to the text of a callchain.
inductive event_value where
  | counter (value : Nat)
  | callchain (text : List Char)
  deriving DecidableEq

structure payload_cpu_data where
  events : zhashx event_value

structure payload_pkg_data where
  cpus : zhashx payload_cpu_data

structure payload_group_data where
  pkgs : zhashx payload_pkg_data

structure payload where
  timestamp : Nat
  target_name : String
  groups : zhashx payload_group_data

def payload_cpu_data_create : payload_cpu_data := ⟨[]⟩

def payload_pkg_data_create : payload_pkg_data := ⟨[]⟩

def payload_group_data_create : payload_group_data := ⟨[]⟩

def payload_create (timestamp : Nat) (target_name : String) : payload :=
  ⟨timestamp, target_name, []⟩

end HwpcSensor
