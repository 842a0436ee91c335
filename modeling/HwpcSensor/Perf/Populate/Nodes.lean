import HwpcSensor.Perf.Populate

namespace HwpcSensor.Perf

open Interaction Syscall

-- The nodes of a payload, as the allocations number them.
structure pkg_node where
  node : Nat
  cpus : zhashx Nat

structure group_node where
  node : Nat
  pkgs : zhashx pkg_node

-- The failing steps of `populate_payload`, with what their messages say.
inductive populate_error where
  | group_data (group_name : String)
  | perf_read_buffer (group_name : String)
  | pkg_data (group_name pkg_id : String)
  | cpu_data (group_name pkg_id cpu_id : String)
  | perf_values (group_name pkg_id cpu_id : String)

-- The nodes that are in the payload, and those that the pointers point to.
structure populate_nodes where
  allocated : Nat
  groups : zhashx group_node
  group_data : Option group_node
  pkg_data : Option pkg_node
  cpu_data : Option Nat
  error : Option populate_error

namespace populate_nodes

def empty : populate_nodes := ⟨0, [], none, none, none, none⟩

def failed (n : populate_nodes) (error : populate_error) : populate_nodes :=
  { n with error := some error }

def payload_group_data_create (n : populate_nodes) : populate_nodes :=
  { n with group_data := some ⟨n.allocated, []⟩, allocated := n.allocated + 1 }

def payload_pkg_data_create (n : populate_nodes) : populate_nodes :=
  { n with pkg_data := some ⟨n.allocated, []⟩, allocated := n.allocated + 1 }

def payload_cpu_data_create (n : populate_nodes) : populate_nodes :=
  { n with cpu_data := some n.allocated, allocated := n.allocated + 1 }

variable (order : hash_order)

def store_cpu (n : populate_nodes) (cpu_id : String) : populate_nodes :=
  match n.cpu_data with
  | none => n
  | some cpu_data =>
      { n with pkg_data := n.pkg_data.map fun pkg_data =>
          { pkg_data with cpus := zhashx_insert order pkg_data.cpus cpu_id cpu_data } }

def store_pkg (n : populate_nodes) (pkg_id : String) : populate_nodes :=
  match n.pkg_data with
  | none => n
  | some pkg_data =>
      { n with group_data := n.group_data.map fun group_data =>
          { group_data with pkgs := zhashx_insert order group_data.pkgs pkg_id pkg_data } }

def store_group (n : populate_nodes) (group_name : String) : populate_nodes :=
  match n.group_data with
  | none => n
  | some group_data =>
      { n with groups := zhashx_insert order n.groups group_name group_data }

end populate_nodes

-- The nodes on which a destroy is called, in order: a null pointer is left alone,
-- and a table calls its destructor for each of its items.
def payload_cpu_data_destroy (data : Option Nat) : List Nat :=
  data.toList

def payload_pkg_data_destroy : Option pkg_node → List Nat
  | none => []
  | some data =>
      (data.cpus.flatMap fun item => payload_cpu_data_destroy (some item.2)) ++ [data.node]

def payload_group_data_destroy : Option group_node → List Nat
  | none => []
  | some data =>
      (data.pkgs.flatMap fun item => payload_pkg_data_destroy (some item.2)) ++ [data.node]

def payload_destroy (groups : zhashx group_node) : List Nat :=
  groups.flatMap fun item => payload_group_data_destroy (some item.2)

-- The error label, and then `handle_ticker`.
def populate_nodes.destroyed (n : populate_nodes) : List Nat :=
  payload_cpu_data_destroy n.cpu_data ++ payload_pkg_data_destroy n.pkg_data ++
    payload_group_data_destroy n.group_data ++ payload_destroy n.groups

section

variable (order : hash_order)

-- `populate_payload` with the nodes beside the values.
def populate_cpu_nodes (dwfl : Option Dwfl) (group_name pkg_id : String) (group : events_group)
    (item : String × perf_group_cpu_context) (s : populate_state × populate_nodes) :
    program (Int × populate_state × populate_nodes) := do
  let allocated ← malloc
  if allocated = false then
    pure (-1, { s.1 with cpu_data := none },
      { s.2 with cpu_data := none }.failed (.cpu_data group_name pkg_id item.1))
  else
    let nodes := s.2.payload_cpu_data_create
    let report ← perf_events_group_read_cpu item.2 (perf_read_size group.events.length)
    match report with
    | none =>
        pure (-1, { s.1 with cpu_data := some payload_cpu_data_create },
          nodes.failed (.perf_values group_name pkg_id item.1))
    | some report => do
        warn_multiplexing report
        let events ← store_callchain order dwfl item.2.buffer
          (store_report order group.events report payload_cpu_data_create.events)
        pure (0, s.1.store_cpu order item.1 events, nodes.store_cpu order item.1)

def populate_pkg_nodes (dwfl : Option Dwfl) (group_name : String) (group : events_group)
    (item : String × perf_group_pkg_context) (s : populate_state × populate_nodes) :
    program (Int × populate_state × populate_nodes) := do
  let allocated ← malloc
  if allocated = false then
    pure (-1, { s.1 with pkg_data := none },
      { s.2 with pkg_data := none }.failed (.pkg_data group_name item.1))
  else
    let populated ← for_each (populate_cpu_nodes order dwfl group_name item.1 group)
      item.2.cpus_ctx
      ({ s.1 with pkg_data := some payload_pkg_data_create }, s.2.payload_pkg_data_create)
    if populated.1 ≠ 0 then pure (-1, populated.2)
    else pure (0, populated.2.1.store_pkg order item.1, populated.2.2.store_pkg order item.1)

def populate_group_nodes (dwfl : Option Dwfl) (item : String × perf_group_context)
    (s : populate_state × populate_nodes) : program (Int × populate_state × populate_nodes) := do
  let allocated ← malloc
  if allocated = false then
    pure (-1, { s.1 with group_data := none },
      { s.2 with group_data := none }.failed (.group_data item.1))
  else
    let s := ({ s.1 with group_data := some payload_group_data_create },
      s.2.payload_group_data_create)
    let buffer_allocated ← malloc
    if buffer_allocated = false then pure (-1, s.1, s.2.failed (.perf_read_buffer item.1))
    else
      let populated ← for_each (populate_pkg_nodes order dwfl item.1 item.2.config)
        item.2.pkgs_ctx s
      if populated.1 ≠ 0 then pure (-1, populated.2)
      else
        pure (0, populated.2.1.store_group order item.1, populated.2.2.store_group order item.1)

def populate_payload_nodes (ctx : perf_context) (payload : payload) :
    program (Int × populate_state × populate_nodes) :=
  for_each (populate_group_nodes order ctx.dwfl) ctx.groups_ctx
    (⟨payload, none, none, none⟩, .empty)

end

section Values

variable {order : hash_order} {dwfl : Option Dwfl} {group : events_group}

-- Without the nodes, each level is the function that it is made from.

theorem populate_cpu_nodes_values (group_name pkg_id : String)
    (item : String × perf_group_cpu_context) (s : populate_state × populate_nodes) :
    (populate_cpu_nodes order dwfl group_name pkg_id group item s >>= fun result =>
      pure (result.1, result.2.1)) = populate_cpu order dwfl group item s.1 := by
  unfold populate_cpu_nodes populate_cpu
  rw [Prog.bind_assoc]
  refine congrArg _ (funext fun allocated => ?_)
  cases allocated with
  | false => rfl
  | true =>
      simp only [Bool.true_eq_false, if_false]
      rw [Prog.bind_assoc]
      refine congrArg _ (funext fun report => ?_)
      cases report with
      | none => rfl
      | some report =>
          rw [Prog.bind_assoc]
          refine congrArg _ (funext fun _ => ?_)
          rw [Prog.bind_assoc]
          rfl

theorem populate_pkg_nodes_values (group_name : String)
    (item : String × perf_group_pkg_context) (s : populate_state × populate_nodes) :
    (populate_pkg_nodes order dwfl group_name group item s >>= fun result =>
      pure (result.1, result.2.1)) = populate_pkg order dwfl group item s.1 := by
  unfold populate_pkg_nodes populate_pkg
  rw [Prog.bind_assoc]
  refine congrArg _ (funext fun allocated => ?_)
  cases allocated with
  | false => rfl
  | true =>
      simp only [Bool.true_eq_false, if_false]
      exact for_each_then_project Prod.fst
        (fun s => (s.1.store_pkg order item.1, s.2.store_pkg order item.1))
        (fun s => s.store_pkg order item.1) item.2.cpus_ctx
        (fun cpu_item _ s => populate_cpu_nodes_values group_name item.1 cpu_item s)
        (fun _ => rfl) _

theorem populate_group_nodes_values (item : String × perf_group_context)
    (s : populate_state × populate_nodes) :
    (populate_group_nodes order dwfl item s >>= fun result => pure (result.1, result.2.1)) =
      populate_group order dwfl item s.1 := by
  unfold populate_group_nodes populate_group
  rw [Prog.bind_assoc]
  refine congrArg _ (funext fun allocated => ?_)
  cases allocated with
  | false => rfl
  | true =>
      simp only [Bool.true_eq_false, if_false]
      rw [Prog.bind_assoc]
      refine congrArg _ (funext fun buffer_allocated => ?_)
      cases buffer_allocated with
      | false => rfl
      | true =>
          simp only [Bool.true_eq_false, if_false]
          exact for_each_then_project Prod.fst
            (fun s => (s.1.store_group order item.1, s.2.store_group order item.1))
            (fun s => s.store_group order item.1) item.2.pkgs_ctx
            (fun pkg_item _ s => populate_pkg_nodes_values item.1 pkg_item s) (fun _ => rfl) _

theorem populate_payload_nodes_values (ctx : perf_context) (payload : payload) :
    (populate_payload_nodes order ctx payload >>= fun result => pure (result.1, result.2.1)) =
      populate_payload order ctx payload :=
  for_each_project ctx.groups_ctx (fun item _ s => populate_group_nodes_values item s) _

end Values

end HwpcSensor.Perf
