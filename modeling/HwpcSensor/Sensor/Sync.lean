import HwpcSensor.Perf.Context

namespace HwpcSensor.Sensor

open ChainedTable Perf

-- What `main` knows of the container monitors: the table of actors, and as
-- history the configurations actors were created with (an actor is its position
-- in this list) and the actors that were destroyed.
structure monitors where
  container_monitoring_actors : Table String Nat
  created : List perf_config
  destroyed : List Nat

section

variable (hash : String → Nat) (order : hash_order) (hwinfo : hwinfo)
  (container_events_groups : zhashx events_group) (callchain_frequency : Nat)

-- The body of the first loop: the destructor of the table is `zactor_destroy`.
def stop_dead (running_targets : Table String target) (destroyed : List Nat)
    (actors : Table String Nat) (entry : String × Nat) : List Nat × Table String Nat :=
  match running_targets.lookup hash entry.1 with
  | none => (destroyed ++ [entry.2], actors.delete hash entry.1)
  | some _ => (destroyed, actors)

-- The body of the second loop.
def start_new (m : monitors) (entry : String × target) : monitors :=
  match m.container_monitoring_actors.lookup hash entry.1 with
  | none =>
      { m with
        container_monitoring_actors :=
          m.container_monitoring_actors.insert hash entry.1 m.created.length
        created := m.created ++ [perf_config_create order hwinfo container_events_groups entry.2
          callchain_frequency] }
  | some _ => m

-- `running_targets` is what `target_discover_running` has filled in, and absent
-- when it failed.
def sync_cgroups_running_monitored (m : monitors) :
    Option (Table String target) → monitors
  | none => m
  | some running_targets =>
      let stopped := Table.for_each (stop_dead hash running_targets) m.destroyed
        m.container_monitoring_actors
      (Table.for_each
        (fun m targets entry => (start_new hash order hwinfo container_events_groups
          callchain_frequency m entry, targets))
        { m with destroyed := stopped.1, container_monitoring_actors := stopped.2 }
        running_targets).1

end

def vanished (hash : String → Nat) (running_targets : Table String target) (path : String) : Bool :=
  (running_targets.lookup hash path).isNone

-- The monitored set follows the running set: one entry for each discovered
-- path, no other entry, and the actors of the vanished paths destroyed.
structure Follows (hash : String → Nat) (before : monitors) (running_targets : Table String target)
    (after : monitors) : Prop where
  keys_eq : after.container_monitoring_actors.keys.Perm running_targets.keys
  destroyed_eq : after.destroyed = before.destroyed ++
    (before.container_monitoring_actors.entries.filter
      fun entry => vanished hash running_targets entry.1).map Prod.snd

end HwpcSensor.Sensor
