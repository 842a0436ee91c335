import HwpcSensor.Zhashx

namespace HwpcSensor

inductive target_type where
  | UNKNOWN
  | ALL
  | SYSTEM
  | KERNEL
  | DOCKER
  | KUBERNETES
  | LIBVIRT
  | LXC
  deriving DecidableEq

structure target where
  type : target_type
  cgroup_basedir : Option String
  cgroup_path : Option String
  deriving DecidableEq

-- The name in the configuration file of a container, and the ids of containers in
-- cgroup paths.
def CONTAINER_NAME_REGEX : String := "\"Name\":\"/([a-zA-Z0-9][a-zA-Z0-9_.-]+)\""

def DOCKER_CONTAINER_ID_REGEX : String := "perf_event/docker/([a-f0-9]{64})$"

def KUBERNETES_CONTAINER_ID_REGEX : String :=
  "perf_event/kubepods/(besteffort/|burstable/|)(pod[a-zA-Z0-9][a-zA-Z0-9.-]+)/" ++
    "([a-f0-9]{64})(/[a-zA-Z0-9][a-zA-Z0-9.-]+|)"

end HwpcSensor
