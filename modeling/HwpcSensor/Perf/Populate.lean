import HwpcSensor.Perf.Context
import HwpcSensor.Strtol
import HwpcSensor.Syscall
import Mathlib.Data.Rat.Defs

namespace HwpcSensor.Perf

open Interaction Syscall

-- The leader is read, and reset for the counters to count per tick.
def perf_events_group_read_cpu (cpu_ctx : perf_group_cpu_context) (buffer_size : Nat) :
    program (Option perf_read_format) :=
  match cpu_ctx.perf_fds with
  | [] => pure none
  | group_leader_fd :: _ => do
      let report ← read group_leader_fd buffer_size
      match report with
      | none => pure none
      | some report => do
          let err ← ioctl_reset group_leader_fd
          if err ≠ 0 then pure none else pure (some report)

def compute_perf_multiplexing_ratio (report : perf_read_format) : Rat :=
  if report.time_enabled = 0 then 1
  else (report.time_running : Rat) / (report.time_enabled : Rat)

def warn_multiplexing (report : perf_read_format) : program Unit :=
  if compute_perf_multiplexing_ratio report < 1 then warning else pure ()

section

variable (order : hash_order)

-- The events and the values read are walked through side by side.
def store_values (values : List Nat) :
    List event_config → Nat → zhashx event_value → zhashx event_value
  | [], _, events => events
  | event :: rest, event_i, events =>
      store_values values rest (event_i + 1)
        (zhashx_insert order events event.name (.counter (values.getD event_i 0)))

def store_report (group_events : List event_config) (report : perf_read_format)
    (events : zhashx event_value) : zhashx event_value :=
  let events := zhashx_insert order events "time_enabled" (.counter report.time_enabled)
  let events := zhashx_insert order events "time_running" (.counter report.time_running)
  store_values order report.values group_events 0 events

def store_callchain (dwfl : Option Dwfl) (buffer : Option Nat) (events : zhashx event_value) :
    program (zhashx event_value) :=
  match buffer with
  | none => pure events
  | some buffer => do
      let callchain ← Syscall.get_callchains buffer dwfl
      match callchain with
      | none => pure events
      | some callchain => pure (zhashx_insert order events "callchain" (.callchain callchain))

-- The loops of `populate_payload` share the payload and the three pointers that
-- its error label destroys.
structure populate_state where
  payload : payload
  group_data : Option payload_group_data
  pkg_data : Option payload_pkg_data
  cpu_data : Option payload_cpu_data

def populate_state.store_cpu (s : populate_state) (cpu_id : String)
    (events : zhashx event_value) : populate_state :=
  { s with
    cpu_data := some ⟨events⟩
    pkg_data := s.pkg_data.map fun pkg_data =>
      { pkg_data with cpus := zhashx_insert order pkg_data.cpus cpu_id ⟨events⟩ } }

def populate_state.store_pkg (s : populate_state) (pkg_id : String) : populate_state :=
  match s.pkg_data with
  | none => s
  | some pkg_data =>
      { s with
        group_data := s.group_data.map fun group_data =>
          { group_data with pkgs := zhashx_insert order group_data.pkgs pkg_id pkg_data } }

def populate_state.store_group (s : populate_state) (group_name : String) : populate_state :=
  match s.group_data with
  | none => s
  | some group_data =>
      { s with
        payload := { s.payload with
          groups := zhashx_insert order s.payload.groups group_name group_data } }

def populate_cpu (dwfl : Option Dwfl) (group : events_group)
    (item : String × perf_group_cpu_context) (s : populate_state) :
    program (Int × populate_state) := do
  let allocated ← malloc
  if allocated = false then pure (-1, { s with cpu_data := none })
  else
    let report ← perf_events_group_read_cpu item.2 (perf_read_size group.events.length)
    match report with
    | none => pure (-1, { s with cpu_data := some payload_cpu_data_create })
    | some report => do
        warn_multiplexing report
        let events ← store_callchain order dwfl item.2.buffer
          (store_report order group.events report payload_cpu_data_create.events)
        pure (0, s.store_cpu order item.1 events)

def populate_pkg (dwfl : Option Dwfl) (group : events_group)
    (item : String × perf_group_pkg_context) (s : populate_state) :
    program (Int × populate_state) := do
  let allocated ← malloc
  if allocated = false then pure (-1, { s with pkg_data := none })
  else
    let populated ← for_each (populate_cpu order dwfl group) item.2.cpus_ctx
      { s with pkg_data := some payload_pkg_data_create }
    if populated.1 ≠ 0 then pure (-1, populated.2)
    else pure (0, populated.2.store_pkg order item.1)

-- Two allocations: the group data and the buffer that the reads share.
def populate_group (dwfl : Option Dwfl) (item : String × perf_group_context)
    (s : populate_state) : program (Int × populate_state) := do
  let allocated ← malloc
  if allocated = false then pure (-1, { s with group_data := none })
  else
    let s := { s with group_data := some payload_group_data_create }
    let buffer_allocated ← malloc
    if buffer_allocated = false then pure (-1, s)
    else
      let populated ← for_each (populate_pkg order dwfl item.2.config) item.2.pkgs_ctx s
      if populated.1 ≠ 0 then pure (-1, populated.2)
      else pure (0, populated.2.store_group order item.1)

-- On an error the pointers are destroyed, and what is left in the payload goes
-- with it; the state returned shows both.
def populate_payload (ctx : perf_context) (payload : payload) :
    program (Int × populate_state) :=
  for_each (populate_group order ctx.dwfl) ctx.groups_ctx ⟨payload, none, none, none⟩

end

-- The first line of `cgroup.procs`, when it is a number.
def get_pid_from_cgroup (cgroup_path : String) : program Int := do
  let procs_file ← fopen (cgroup_path ++ "/cgroup.procs")
  match procs_file with
  | none => pure (-1)
  | some procs_file => do
      let line ← fgets procs_file
      match line with
      | none => do
          fclose procs_file
          pure (-1)
      | some line => do
          let parsed := strtol line 10
          if parsed.range_error ∨ parsed.rest = line ∨ parsed.rest.head? ≠ some '\n' then do
            fclose procs_file
            pure (-1)
          else if parsed.value < 0 then do
            fclose procs_file
            pure (-1)
          else do
            -- a second line is only warned about
            let _ ← fgets procs_file
            fclose procs_file
            pure (parsed.value.bmod (2 ^ 32))

-- Without symbol tables, and with a cgroup, they are looked for at each tick.
def find_dwfl (ctx : perf_context) : program (Option Dwfl) :=
  match ctx.dwfl, ctx.config.target.cgroup_path with
  | none, some cgroup_path => do
      let pid ← get_pid_from_cgroup cgroup_path
      if pid > -1 then init_dwfl pid else pure none
  | dwfl, _ => pure dwfl

def handle_ticker (order : hash_order) (ctx : perf_context) (timestamp : Nat) :
    program perf_context := do
  let allocated ← malloc
  if allocated = false then pure ctx
  else
    let dwfl ← find_dwfl ctx
    let ctx := { ctx with dwfl := dwfl }
    let populated ← populate_payload order ctx (payload_create timestamp ctx.target_name)
    if populated.1 ≠ 0 then pure ctx
    else do
      send populated.2.payload
      pure ctx

end HwpcSensor.Perf
