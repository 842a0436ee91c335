import HwpcSensor.Library.Transition
import HwpcSensor.Sensor.Sync

namespace HwpcSensor.Sensor

open ChainedTable Perf Transition

-- How far `perf_monitoring_actor` has come. It gives up when its target has no
-- name, when its context cannot be created and when its groups cannot be
-- initialized; otherwise it stays in its loop until `$TERM` or an interruption.
inductive actor_status where
  | starting
  | monitoring
  | gave_up
  | interrupted
  | destroyed
  deriving DecidableEq

inductive startup where
  | unresolved_name
  | no_context
  | not_initialized
  | ready
  deriving DecidableEq

def startup.status : startup → actor_status
  | unresolved_name => .gave_up
  | no_context => .gave_up
  | not_initialized => .gave_up
  | ready => .monitoring

-- Where `main` stands in its loop.
inductive main_state where
  | checking
  | syncing
  | ticking
  | left
  deriving DecidableEq

structure sensor where
  main : main_state
  interrupted : Bool
  monitors : monitors
  status : Nat → actor_status

namespace sensor

abbrev actors (s : sensor) : Table String Nat := s.monitors.container_monitoring_actors

abbrev created (s : sensor) : List perf_config := s.monitors.created

def start (limit : Nat) : sensor where
  main := .checking
  interrupted := false
  monitors := ⟨⟨List.replicate limit [], 0, []⟩, [], []⟩
  status _ := .starting

-- `zactor_destroy` sends `$TERM` and waits for the actor to end.
def synced (s : sensor) (m : Sensor.monitors) : sensor :=
  { s with
    main := .ticking
    monitors := m
    status := fun actor => if actor ∈ m.destroyed then .destroyed else s.status actor }

def set_status (s : sensor) (actor : Nat) (status : actor_status) : sensor :=
  { s with status := fun other => if other = actor then status else s.status other }

end sensor

-- Each target that was found is filed under its own path.
structure Discovered (hash : String → Nat) (running_targets : Table String target) : Prop where
  valid : running_targets.Valid hash
  path_eq : ∀ entry ∈ running_targets.entries, entry.2.cgroup_path = some entry.1

inductive sensor_action where
  | check
  | sync (discovery : Option (Table String target))
  | tick
  | quit
  | startup (actor : Nat) (outcome : startup)
  | interrupt
  | leave (actor : Nat)
  | grow

-- The loop of `main`, the actors' own steps at any point between, and the table
-- moving its items over to other buckets as it grows.
inductive SensorStep (hash : String → Nat) (order : hash_order) (hwinfo : hwinfo)
    (container_events_groups : zhashx events_group) (callchain_frequency : Nat) :
    sensor → sensor_action → sensor → Prop
  | check {s : sensor} (hmain : s.main = .checking) (hgo : s.interrupted = false) :
      SensorStep hash order hwinfo container_events_groups callchain_frequency s .check
        { s with main := .syncing }
  | quit {s : sensor} (hmain : s.main = .checking) (hstop : s.interrupted = true) :
      SensorStep hash order hwinfo container_events_groups callchain_frequency s .quit
        { s with main := .left }
  | sync {s : sensor} (hmain : s.main = .syncing) (discovery : Option (Table String target))
      (hfound : ∀ running_targets, discovery = some running_targets →
        Discovered hash running_targets) :
      SensorStep hash order hwinfo container_events_groups callchain_frequency s (.sync discovery)
        (s.synced (sync_cgroups_running_monitored hash order hwinfo container_events_groups
          callchain_frequency s.monitors discovery))
  | tick {s : sensor} (hmain : s.main = .ticking) :
      SensorStep hash order hwinfo container_events_groups callchain_frequency s .tick
        { s with main := .checking }
  | startup {s : sensor} (actor : Nat) (hcreated : actor < s.created.length)
      (hstarting : s.status actor = .starting) (outcome : startup) :
      SensorStep hash order hwinfo container_events_groups callchain_frequency s
        (.startup actor outcome) (s.set_status actor outcome.status)
  | interrupt {s : sensor} :
      SensorStep hash order hwinfo container_events_groups callchain_frequency s .interrupt
        { s with interrupted := true }
  | leave {s : sensor} {actor : Nat} (hmonitoring : s.status actor = .monitoring)
      (hstop : s.interrupted = true) :
      SensorStep hash order hwinfo container_events_groups callchain_frequency s (.leave actor)
        (s.set_status actor .interrupted)
  | grow {s : sensor} (actors : Table String Nat) (hvalid : actors.Valid hash)
      (hperm : actors.entries.Perm s.actors.entries) :
      SensorStep hash order hwinfo container_events_groups callchain_frequency s .grow
        { s with monitors := { s.monitors with container_monitoring_actors := actors } }

-- What is asked of the table after a synchronisation: every discovered path has
-- an entry whose actor this call has started or that has not terminated.
def Monitored (before : sensor) (running_targets : Table String target) (after : sensor) : Prop :=
  ∀ path ∈ running_targets.keys, ∃ actor, (path, actor) ∈ after.actors.entries ∧
    (before.created.length ≤ actor ∨ after.status actor = .starting ∨
      after.status actor = .monitoring)

-- What the table does guarantee: a path without an entry gets an actor started
-- by this call. An existing entry keeps its actor, also one that gave up, and no
-- other actor is started for its path.
structure Covered (before : sensor) (running_targets : Table String target)
    (after : sensor) : Prop where
  has_entry : ∀ path ∈ running_targets.keys, ∃ actor config,
    (path, actor) ∈ after.actors.entries ∧ after.created[actor]? = some config ∧
      config.target.cgroup_path = some path ∧
      (path ∉ before.actors.keys ∧ before.created.length ≤ actor ∨
        (path, actor) ∈ before.actors.entries ∧
          (after.status actor = .starting ∨ after.status actor = .monitoring ∨
            after.status actor = .gave_up ∨
            after.status actor = .interrupted ∧ after.interrupted = true))
  keeps : ∀ entry ∈ before.actors.entries, entry.1 ∈ running_targets.keys →
    entry ∈ after.actors.entries ∧ after.status entry.2 = before.status entry.2
  starts : ∀ config ∈ after.created.drop before.created.length, ∀ path,
    config.target.cgroup_path = some path →
      path ∈ running_targets.keys ∧ path ∉ before.actors.keys

end HwpcSensor.Sensor
