import HwpcSensor.Perf.Context
import HwpcSensor.Strtol
import HwpcSensor.Syscall

namespace HwpcSensor.Perf

open Interaction Syscall

def PERF_SAMPLE_CALLCHAIN : Nat := 2 ^ 5

def PERF_FLAG_PID_CGROUP : Nat := 2 ^ 2

-- The copy of the attributes with which the leader of a cgroup is sampled.
def sampling_attr (attr : perf_event_attr) (callchain_frequency : Nat) : perf_event_attr :=
  { attr with
    sample_type := PERF_SAMPLE_CALLCHAIN
    sample_freq := callchain_frequency
    freq := true
    mmap := true
    cgroup := true
    exclude_kernel := true
    exclude_callchain_kernel := true }

-- The cpu number of an id, when the whole of it is a number that is an `int`.
def parse_cpu_id (cpu_id : String) : Option Int :=
  let parsed := strtol cpu_id.toList 0
  if cpu_id = "" ∨ parsed.rest ≠ [] ∨ parsed.range_error then none
  else if parsed.value > INT_MAX ∨ parsed.value < INT_MIN then none
  else some parsed.value

-- The events of a group are opened in order; the first one becomes the leader.
def open_events (ctx : perf_context) (perf_flags : Nat) (cpu : Int) :
    Int → List event_config → perf_group_cpu_context → program (Int × perf_group_cpu_context)
  | _, [], cpu_ctx => pure (0, cpu_ctx)
  | group_fd, event :: rest, cpu_ctx =>
      if group_fd = -1 ∧ ctx.cgroup_fd > -1 then do
        let perf_fd ← perf_event_open (sampling_attr event.attr ctx.config.callchain_frequency)
          ctx.cgroup_fd cpu (-1) perf_flags
        if perf_fd < 1 then pure (-1, cpu_ctx)
        else
          let buffer ← mmap perf_fd
          match buffer with
          | none => pure (-1, cpu_ctx)
          | some buffer =>
              open_events ctx perf_flags cpu perf_fd rest
                { perf_fds := cpu_ctx.perf_fds ++ [perf_fd], buffer := some buffer }
      else do
        let perf_fd ← perf_event_open event.attr ctx.cgroup_fd cpu group_fd perf_flags
        if perf_fd < 1 then pure (-1, cpu_ctx)
        else
          open_events ctx perf_flags cpu (if group_fd = -1 then perf_fd else group_fd) rest
            { cpu_ctx with perf_fds := cpu_ctx.perf_fds ++ [perf_fd] }

def perf_events_group_setup_cpu (ctx : perf_context) (cpu_ctx : perf_group_cpu_context)
    (group : events_group) (perf_flags : Nat) (cpu_id : String) :
    program (Int × perf_group_cpu_context) :=
  match parse_cpu_id cpu_id with
  | none => pure (-1, cpu_ctx)
  | some cpu => open_events ctx perf_flags cpu (-1) group.events cpu_ctx

-- The loops of `perf_events_groups_initialize` share the context and the three
-- pointers that its error label destroys.
structure setup_state where
  ctx : perf_context
  group_ctx : Option perf_group_context
  pkg_ctx : Option perf_group_pkg_context
  cpu_ctx : Option perf_group_cpu_context

section

variable (order : hash_order)

def setup_state.store_cpu (s : setup_state) (cpu_id : String)
    (cpu_ctx : perf_group_cpu_context) : setup_state :=
  { s with
    cpu_ctx := some cpu_ctx
    pkg_ctx := s.pkg_ctx.map fun pkg_ctx =>
      { pkg_ctx with cpus_ctx := zhashx_insert order pkg_ctx.cpus_ctx cpu_id cpu_ctx } }

def setup_state.store_pkg (s : setup_state) (pkg_id : String) : setup_state :=
  match s.pkg_ctx with
  | none => s
  | some pkg_ctx =>
      { s with
        group_ctx := s.group_ctx.map fun group_ctx =>
          { group_ctx with pkgs_ctx := zhashx_insert order group_ctx.pkgs_ctx pkg_id pkg_ctx } }

def setup_state.store_group (s : setup_state) (group_name : String) : setup_state :=
  match s.group_ctx with
  | none => s
  | some group_ctx =>
      { s with
        ctx := { s.ctx with
          groups_ctx := zhashx_insert order s.ctx.groups_ctx group_name group_ctx } }

def setup_cpu (perf_flags : Nat) (group : events_group) (cpu_id : String) (s : setup_state) :
    program (Int × setup_state) := do
  let allocated ← malloc
  if allocated = false then pure (-1, { s with cpu_ctx := none })
  else
    let setup ← perf_events_group_setup_cpu s.ctx perf_group_cpu_context_create group perf_flags
      cpu_id
    if setup.1 ≠ 0 then pure (-1, { s with cpu_ctx := some setup.2 })
    else pure (0, s.store_cpu order cpu_id setup.2)

-- With `MONITOR_ONE_CPU_PER_SOCKET` the first cpu ends the loop.
def setup_cpus (perf_flags : Nat) (group : events_group) :
    List String → setup_state → program (Int × setup_state)
  | [], s => pure (0, s)
  | cpu_id :: rest, s => do
      let setup ← setup_cpu order perf_flags group cpu_id s
      if setup.1 ≠ 0 then pure (-1, setup.2)
      else if group.type = .MONITOR_ONE_CPU_PER_SOCKET then pure (0, setup.2)
      else setup_cpus perf_flags group rest setup.2

def setup_pkg (perf_flags : Nat) (group : events_group) (item : String × hwinfo_pkg)
    (s : setup_state) : program (Int × setup_state) := do
  let allocated ← malloc
  if allocated = false then pure (-1, { s with pkg_ctx := none })
  else
    let setup ← setup_cpus order perf_flags group item.2.cpus_id
      { s with pkg_ctx := some perf_group_pkg_context_create }
    if setup.1 ≠ 0 then pure (-1, setup.2) else pure (0, setup.2.store_pkg order item.1)

def setup_group (perf_flags : Nat) (item : String × events_group) (s : setup_state) :
    program (Int × setup_state) := do
  let allocated ← malloc
  if allocated = false then pure (-1, { s with group_ctx := none })
  else
    let setup ← for_each (setup_pkg order perf_flags item.2) s.ctx.config.hwinfo.pkgs
      { s with group_ctx := some (perf_group_context_create item.2) }
    if setup.1 ≠ 0 then pure (-1, setup.2) else pure (0, setup.2.store_group order item.1)

end

def perf_group_cpu_context_destroy (ctx : perf_group_cpu_context) : program Unit :=
  for_all close ctx.perf_fds

def perf_group_pkg_context_destroy (ctx : perf_group_pkg_context) : program Unit :=
  for_all (fun item => perf_group_cpu_context_destroy item.2) ctx.cpus_ctx

def perf_group_context_destroy (ctx : perf_group_context) : program Unit :=
  for_all (fun item => perf_group_pkg_context_destroy item.2) ctx.pkgs_ctx

-- The destructors do nothing on NULL.
def destroy_pointer {α : Type} (destroy : α → program Unit) : Option α → program Unit
  | none => pure ()
  | some ctx => destroy ctx

def initialize_error (s : setup_state) : program (Int × perf_context) := do
  close s.ctx.cgroup_fd
  destroy_pointer perf_group_context_destroy s.group_ctx
  destroy_pointer perf_group_pkg_context_destroy s.pkg_ctx
  destroy_pointer perf_group_cpu_context_destroy s.cpu_ctx
  pure (-1, s.ctx)

def setup_groups (order : hash_order) (perf_flags : Nat) (ctx : perf_context) :
    program (Int × perf_context) := do
  let setup ← for_each (setup_group order perf_flags) ctx.config.events_groups
    ⟨ctx, none, none, none⟩
  if setup.1 ≠ 0 then initialize_error setup.2 else pure (0, setup.2.ctx)

def perf_events_groups_initialize (order : hash_order) (ctx : perf_context) :
    program (Int × perf_context) :=
  match ctx.config.target.cgroup_path with
  | none => setup_groups order 0 ctx
  | some cgroup_path => do
      let cgroup_fd ← open_path cgroup_path
      let ctx := { ctx with cgroup_fd := cgroup_fd }
      if cgroup_fd < 1 then initialize_error ⟨ctx, none, none, none⟩
      else setup_groups order PERF_FLAG_PID_CGROUP ctx

-- A group without events has no leader to enable.
def enable_cpu (cpu_ctx : perf_group_cpu_context) : program Unit :=
  match cpu_ctx.perf_fds with
  | [] => pure ()
  | group_leader_fd :: _ => do
      let _ ← ioctl_reset group_leader_fd
      let _ ← ioctl_enable group_leader_fd
      pure ()

def perf_events_groups_enable (ctx : perf_context) : program Unit :=
  for_all (fun group_item : String × perf_group_context =>
    for_all (fun pkg_item : String × perf_group_pkg_context =>
      for_all (fun cpu_item : String × perf_group_cpu_context => enable_cpu cpu_item.2)
        pkg_item.2.cpus_ctx)
      group_item.2.pkgs_ctx)
    ctx.groups_ctx

end HwpcSensor.Perf
