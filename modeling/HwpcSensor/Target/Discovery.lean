import HwpcSensor.Library.Regex
import HwpcSensor.Target

namespace HwpcSensor

open PosixRegex

def strstr (haystack needle : String) : Bool :=
  decide (needle.toList <:+: haystack.toList)

def target_detect_type : Option String → target_type
  | none => .ALL
  | some cgroup_path =>
      if strstr cgroup_path "perf_event/system" then .SYSTEM
      else if strstr cgroup_path "perf_event/kernel" then .KERNEL
      else if strstr cgroup_path "perf_event/docker" then .DOCKER
      else if strstr cgroup_path "perf_event/kubepods" then .KUBERNETES
      else if strstr cgroup_path "perf_event/machine.slice" then .LIBVIRT
      else if strstr cgroup_path "perf_event/lxc" then .LXC
      else .UNKNOWN

def target_type.flag : target_type → Nat
  | UNKNOWN => 1
  | ALL => 2
  | SYSTEM => 4
  | KERNEL => 8
  | DOCKER => 16
  | KUBERNETES => 32
  | LIBVIRT => 64
  | LXC => 128

def TARGET_TYPE_EVERYTHING : Nat := 255

-- `regcomp` and `regexec` in a row, with `REG_EXTENDED` and `REG_NEWLINE`.
def regex_search (pattern text : String) : Option Captures :=
  (Regex.comp pattern).bind fun re => re.exec text.toList

-- The two kinds of container differ in the pattern.
def container_validate (pattern : String) : Option String → Bool
  | none => false
  | some cgroup_path => (regex_search pattern cgroup_path).isSome

def target_docker_validate : Option String → Bool :=
  container_validate DOCKER_CONTAINER_ID_REGEX

def target_kubernetes_validate : Option String → Bool :=
  container_validate KUBERNETES_CONTAINER_ID_REGEX

def target_validate_type (type : target_type) (cgroup_path : Option String) : Bool :=
  match type with
  | .DOCKER => target_docker_validate cgroup_path
  | .KUBERNETES => target_kubernetes_validate cgroup_path
  | _ => true

-- The directories of a hierarchy: each has a name, directories in it and
-- directories beside it.
inductive cgroups where
  | none
  | cgroup (name : String) (children siblings : cgroups)
  deriving DecidableEq

def cgroups.count : cgroups → Nat
  | none => 0
  | cgroup _ _ siblings => siblings.count + 1

inductive fts_info where
  | FTS_D
  | FTS_DP
  deriving DecidableEq

structure FTSENT where
  fts_info : fts_info
  fts_path : String
  st_nlink : Nat
  deriving DecidableEq

-- A slash at the end of the parent, which only the base path can have, is not
-- doubled.
def fts_child_path (parent name : String) : String :=
  (if parent.toList.getLast? = some '/' then String.ofList parent.toList.dropLast else parent) ++
    "/" ++ name

-- Each directory in front of what is in it, and again behind it.
def fts_below (parent : String) : cgroups → List FTSENT
  | .none => []
  | .cgroup name children siblings =>
      ⟨.FTS_D, fts_child_path parent name, 2 + children.count⟩ ::
        (fts_below (fts_child_path parent name) children ++
          ⟨.FTS_DP, fts_child_path parent name, 2 + children.count⟩ :: fts_below parent siblings)

def fts_read (base_path : String) (tree : cgroups) : List FTSENT :=
  ⟨.FTS_D, base_path, 2 + tree.count⟩ ::
    (fts_below base_path tree ++ [⟨.FTS_DP, base_path, 2 + tree.count⟩])

-- The targets that exist, each known by its position, and the table.
structure discovery where
  created : List target
  targets : zhashx Nat

def target_create (type : target_type) (cgroup_basedir cgroup_path : Option String) : target where
  type := type
  cgroup_basedir := cgroup_basedir
  cgroup_path := cgroup_path

-- A leaf whose type is asked for.
def Wanted (type_mask : Nat) (node : FTSENT) : Prop :=
  (node.fts_info = .FTS_D ∧ node.st_nlink = 2) ∧
    (target_detect_type (some node.fts_path)).flag &&& type_mask ≠ 0 ∧
      target_validate_type (target_detect_type (some node.fts_path)) (some node.fts_path) = true

instance (type_mask : Nat) (node : FTSENT) : Decidable (Wanted type_mask node) :=
  inferInstanceAs (Decidable (_ ∧ _))

def discovered_target (base_path : String) (node : FTSENT) : target :=
  target_create (target_detect_type (some node.fts_path)) (some base_path) (some node.fts_path)

def discover (order : hash_order) (base_path : String) (type_mask : Nat) (d : discovery)
    (node : FTSENT) : discovery :=
  if Wanted type_mask node then
    { created := d.created ++ [discovered_target base_path node]
      targets := zhashx_insert order d.targets node.fts_path d.created.length }
  else d

-- The file system is absent when `fts_open` fails.
def target_discover_running (order : hash_order) (base_path : String) (type_mask : Nat)
    (file_system : Option cgroups) (d : discovery) : Int × discovery :=
  match file_system with
  | none => (-1, d)
  | some tree => (0, (fts_read base_path tree).foldl (discover order base_path type_mask) d)

end HwpcSensor
