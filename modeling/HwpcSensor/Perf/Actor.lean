import HwpcSensor.Perf.Populate
import HwpcSensor.Perf.Setup

namespace HwpcSensor.Perf

open Interaction Syscall

-- The text of a group of the leftmost match of a pattern, as `regexec` finds it.
abbrev regex_match := String → Nat → String → Option String

def container_config_path (id : String) : String :=
  ("/var/lib/docker/containers/" ++ id ++ "/config.v2.json").take 4095 |>.copy

-- The two kinds of container differ in the pattern of the id only.
def resolve_container_name (regexec : regex_match) (pattern : String) (group : Nat)
    (target : target) : program (Option String) :=
  match target.cgroup_path.bind (regexec pattern group) with
  | none => pure none
  | some id => do
      let json_file ← fopen (container_config_path id)
      match json_file with
      | none => pure none
      | some json_file => do
          let json ← getline json_file
          fclose json_file
          pure (json.bind (regexec CONTAINER_NAME_REGEX 1))

def target_docker_resolve_name (regexec : regex_match) (target : target) :
    program (Option String) :=
  resolve_container_name regexec DOCKER_CONTAINER_ID_REGEX 1 target

def target_kubernetes_resolve_name (regexec : regex_match) (target : target) :
    program (Option String) :=
  resolve_container_name regexec KUBERNETES_CONTAINER_ID_REGEX 3 target

def strdup (s : String) : program (Option String) := do
  let allocated ← malloc
  pure (if allocated then some s else none)

def target_real_name (regexec : regex_match) (target : target) : program (Option String) :=
  match target.type with
  | .DOCKER => target_docker_resolve_name regexec target
  | .KUBERNETES => target_kubernetes_resolve_name regexec target
  | .ALL => strdup "all"
  | .KERNEL => strdup "kernel"
  | .SYSTEM => strdup "system"
  | _ => pure none

-- An unresolved name is replaced by the path below the base directory.
def target_resolve_real_name (regexec : regex_match) (target : target) :
    program (Option String) := do
  let target_real_name ← target_real_name regexec target
  match target_real_name, target.cgroup_path, target.cgroup_basedir with
  | none, some cgroup_path, some cgroup_basedir =>
      strdup (cgroup_path.drop cgroup_basedir.length).copy
  | target_real_name, _, _ => pure target_real_name

-- What `zpoller_wait` returns: the pipe or the ticker.
inductive poll_event where
  | pipe (command : String)
  | ticker (timestamp : Nat)
  deriving DecidableEq

def handle_pipe (ctx : perf_context) (command : String) : perf_context :=
  if command = "$TERM" then { ctx with terminated := true } else ctx

def handle_event (order : hash_order) (ctx : perf_context) : poll_event → program perf_context
  | .pipe command => pure (handle_pipe ctx command)
  | .ticker timestamp => handle_ticker order ctx timestamp

-- The loop of the actor, over the events of its poller up to the one that ends
-- it. The end of the events is an interruption of the process.
def monitor (order : hash_order) : List poll_event → perf_context → program perf_context
  | [], ctx => pure ctx
  | event :: rest, ctx => do
      let ctx ← handle_event order ctx event
      if ctx.terminated then pure ctx else monitor order rest ctx

def perf_context_destroy (ctx : perf_context) : program Unit := do
  close ctx.cgroup_fd
  for_all (fun item => perf_group_context_destroy item.2) ctx.groups_ctx
  dwfl_end

def perf_monitoring_actor (order : hash_order) (regexec : regex_match) (config : perf_config)
    (events : List poll_event) : program Unit := do
  let target_name ← target_resolve_real_name regexec config.target
  match target_name with
  | none => pure ()
  | some target_name => do
      let allocated ← malloc
      if allocated = false then pure ()
      else
        let initialized ← perf_events_groups_initialize order
          (perf_context_create config target_name)
        if initialized.1 ≠ 0 then perf_context_destroy initialized.2
        else do
          perf_events_groups_enable initialized.2
          let ctx ← monitor order events initialized.2
          perf_context_destroy ctx

end HwpcSensor.Perf
