import HwpcSensor.Library.ChainedTable
import HwpcSensor.Library.Transition
import HwpcSensor.Target.Discovery.Lemmas

namespace HwpcSensor.Sensor.Targets

open ChainedTable Transition

-- The life of `perf_monitoring_actor` as far as its target goes: it resolves the
-- name of the target, reads the path of the cgroup while it sets up its groups and
-- on ticks, and destroys the target with its configuration.
inductive monitor_phase where
  | resolving
  | initializing
  | monitoring
  | cleanup
  | config_destroyed
  | ended
  deriving DecidableEq

structure monitor where
  target : Nat
  phase : monitor_phase
  term : Bool
  deriving DecidableEq

-- An item of `running_targets`, and whether `target_destroy` is attached to it.
structure running_item where
  target : Nat
  freefn : Bool
  deriving DecidableEq

def zhashx_freefn (items : zhashx running_item) (key : String) : zhashx running_item :=
  items.map fun item =>
    (item.1, if item.1 = key then { item.2 with freefn := true } else item.2)

-- Where `main` is: at the head of its loop, in the two loops of
-- `sync_cgroups_running_monitored`, in the destruction of `running_targets`, and
-- behind the loop in the destruction of the actors. It waits in `zactor_destroy`.
inductive main_phase where
  | checking
  | stopping (entry : Option (String × Nat))
  | waiting (actor : Nat)
  | starting (remaining : zhashx running_item)
  | releasing (remaining : zhashx running_item)
  | ticking
  | destroying (remaining : List (String × Nat))
  | waiting_last (actor : Nat) (remaining : List (String × Nat))
  | done
  deriving DecidableEq

inductive owner where
  | running_targets
  | monitor (actor : Nat)
  deriving DecidableEq

-- Targets and actors are known by the order of their creation. As history: which
-- targets were for a cgroup that was monitored when they were discovered, and
-- which were destroyed, by whom.
structure process where
  main : main_phase
  interrupted : Bool
  created : List target
  running_targets : zhashx running_item
  container_monitoring_actors : Table String Nat
  monitors : List monitor
  monitored : List Bool
  destroyed : List (Nat × owner)

namespace process

def start (limit : Nat) : process where
  main := .checking
  interrupted := false
  created := []
  running_targets := []
  container_monitoring_actors := ⟨List.replicate limit [], 0, []⟩
  monitors := []
  monitored := []
  destroyed := []

abbrev actors (s : process) : Table String Nat := s.container_monitoring_actors

-- `zactor_destroy` sends `$TERM`, and then waits for the end of the actor.
def terminate (s : process) (actor : Nat) : process :=
  { s with monitors := s.monitors.modify actor fun m => { m with term := true } }

def Ended (s : process) (actor : Nat) : Prop :=
  ∃ m, s.monitors[actor]? = some m ∧ m.phase = .ended

-- The first loop goes on to the next actor.
def go_on (s : process) : process :=
  { s with
    main := .stopping s.actors.next.1
    container_monitoring_actors := s.actors.next.2 }

end process

def is_monitored (hash : String → Nat) (actors : Table String Nat) (t : target) : Bool :=
  match t.cgroup_path with
  | none => false
  | some path => (actors.lookup hash path).isSome

def running_items (targets : zhashx Nat) : zhashx running_item :=
  targets.map fun item => (item.1, ⟨item.2, false⟩)

-- What follows `target_discover_running`: a failure leaves for the destruction of
-- the table.
def discovered (hash : String → Nat) (s : process) (result : Int × discovery) : process :=
  { s with
    main :=
      if result.1 ≠ 0 then .releasing (running_items result.2.targets)
      else .stopping s.actors.first.1
    created := result.2.created
    running_targets := running_items result.2.targets
    container_monitoring_actors := s.actors.first.2
    monitored := s.monitored ++
      (result.2.created.drop s.created.length).map (is_monitored hash s.actors) }

-- One step of an actor, and whether it destroys its target.
inductive MonitorStep (interrupted : Bool) : monitor → Bool → monitor → Prop
  | resolved {m : monitor} (hphase : m.phase = .resolving) :
      MonitorStep interrupted m false { m with phase := .initializing }
  | unresolved {m : monitor} (hphase : m.phase = .resolving) :
      MonitorStep interrupted m false { m with phase := .cleanup }
  | initialized {m : monitor} (hphase : m.phase = .initializing) :
      MonitorStep interrupted m false { m with phase := .monitoring }
  | not_initialized {m : monitor} (hphase : m.phase = .initializing) :
      MonitorStep interrupted m false { m with phase := .cleanup }
  | handle_ticker {m : monitor} (hphase : m.phase = .monitoring) :
      MonitorStep interrupted m false m
  | handle_pipe {m : monitor} (hphase : m.phase = .monitoring) (hterm : m.term = true) :
      MonitorStep interrupted m false { m with phase := .cleanup }
  | terminated {m : monitor} (hphase : m.phase = .monitoring) (hstop : interrupted = true) :
      MonitorStep interrupted m false { m with phase := .cleanup }
  | perf_config_destroy {m : monitor} (hphase : m.phase = .cleanup) :
      MonitorStep interrupted m true { m with phase := .config_destroyed }
  | perf_context_destroy {m : monitor} (hphase : m.phase = .config_destroyed) :
      MonitorStep interrupted m false { m with phase := .ended }

-- One step of `main`.
inductive MainStep (hash : String → Nat) (order : hash_order) (base_path : String) :
    process → process → Prop
  -- there may be no groups for containers
  | no_groups {s : process} (hmain : s.main = .checking) (hgo : s.interrupted = false) :
      MainStep hash order base_path s { s with main := .ticking }
  | discover {s : process} (hmain : s.main = .checking) (hgo : s.interrupted = false)
      (file_system : Option cgroups) (hvalid : ∀ tree, file_system = some tree → tree.Valid) :
      MainStep hash order base_path s
        (discovered hash s (target_discover_running order base_path TARGET_TYPE_EVERYTHING
          file_system ⟨s.created, []⟩))
  | alive {s : process} {path : String} {actor : Nat} {item : running_item}
      (hmain : s.main = .stopping (some (path, actor)))
      (htarget : zhashx_lookup s.running_targets path = some item) :
      MainStep hash order base_path s s.go_on
  | dead {s : process} {path : String} {actor actor' : Nat}
      (hmain : s.main = .stopping (some (path, actor)))
      (htarget : zhashx_lookup s.running_targets path = none)
      (hactor : s.actors.lookup hash path = some actor') :
      MainStep hash order base_path s
        { s.terminate actor' with
          main := .waiting actor'
          running_targets := zhashx_freefn s.running_targets path
          container_monitoring_actors := s.actors.delete hash path }
  -- deleting a missing key does nothing
  | dead_missing {s : process} {path : String} {actor : Nat}
      (hmain : s.main = .stopping (some (path, actor)))
      (htarget : zhashx_lookup s.running_targets path = none)
      (hactor : s.actors.lookup hash path = none) :
      MainStep hash order base_path s
        { s with running_targets := zhashx_freefn s.running_targets path }.go_on
  | deleted {s : process} {actor : Nat} (hmain : s.main = .waiting actor)
      (hended : s.Ended actor) :
      MainStep hash order base_path s s.go_on
  | stopped {s : process} (hmain : s.main = .stopping none) :
      MainStep hash order base_path s { s with main := .starting s.running_targets }
  | new {s : process} {path : String} {item : running_item} {remaining : zhashx running_item}
      (hmain : s.main = .starting ((path, item) :: remaining))
      (hactor : s.actors.lookup hash path = none) :
      MainStep hash order base_path s
        { s with
          main := .starting remaining
          container_monitoring_actors := s.actors.insert hash path s.monitors.length
          monitors := s.monitors ++ [⟨item.target, .resolving, false⟩] }
  | kept {s : process} {path : String} {item : running_item} {remaining : zhashx running_item}
      {actor : Nat} (hmain : s.main = .starting ((path, item) :: remaining))
      (hactor : s.actors.lookup hash path = some actor) :
      MainStep hash order base_path s
        { s with
          main := .starting remaining
          running_targets := zhashx_freefn s.running_targets path }
  | started {s : process} (hmain : s.main = .starting []) :
      MainStep hash order base_path s { s with main := .releasing s.running_targets }
  | release {s : process} {path : String} {item : running_item}
      {remaining : zhashx running_item}
      (hmain : s.main = .releasing ((path, item) :: remaining)) :
      MainStep hash order base_path s
        { s with
          main := .releasing remaining
          destroyed := s.destroyed ++
            if item.freefn then [(item.target, owner.running_targets)] else [] }
  | released {s : process} (hmain : s.main = .releasing []) :
      MainStep hash order base_path s { s with main := .ticking, running_targets := [] }
  | tick {s : process} (hmain : s.main = .ticking) :
      MainStep hash order base_path s { s with main := .checking }
  | leave {s : process} (hmain : s.main = .checking) (hstop : s.interrupted = true) :
      MainStep hash order base_path s { s with main := .destroying s.actors.entries }
  | destroy {s : process} {path : String} {actor : Nat} {remaining : List (String × Nat)}
      (hmain : s.main = .destroying ((path, actor) :: remaining)) :
      MainStep hash order base_path s
        { s.terminate actor with main := .waiting_last actor remaining }
  | destroyed {s : process} {actor : Nat} {remaining : List (String × Nat)}
      (hmain : s.main = .waiting_last actor remaining) (hended : s.Ended actor) :
      MainStep hash order base_path s { s with main := .destroying remaining }
  | finish {s : process} (hmain : s.main = .destroying []) :
      MainStep hash order base_path s { s with main := .done }

inductive party where
  | main
  | monitor (actor : Nat)
  | table
  | user
  deriving DecidableEq

-- `main` and the actors, in any order, an interruption at any time, and the table
-- of actors moving its items over to other buckets as it grows.
inductive ProcessStep (hash : String → Nat) (order : hash_order) (base_path : String) :
    process → party → process → Prop
  | main {s s' : process} (hstep : MainStep hash order base_path s s') :
      ProcessStep hash order base_path s .main s'
  | monitor {s : process} {actor : Nat} {m m' : monitor} {destroys : Bool}
      (hmonitor : s.monitors[actor]? = some m)
      (hstep : MonitorStep s.interrupted m destroys m') :
      ProcessStep hash order base_path s (.monitor actor)
        { s with
          monitors := s.monitors.set actor m'
          destroyed := s.destroyed ++
            if destroys then [(m.target, owner.monitor actor)] else [] }
  | grow {s : process} (actors : Table String Nat) (hvalid : actors.Valid hash)
      (hperm : actors.entries.Perm s.actors.entries) :
      ProcessStep hash order base_path s .table { s with container_monitoring_actors := actors }
  | interrupt {s : process} :
      ProcessStep hash order base_path s .user { s with interrupted := true }

-- An actor that reads its target, now or later.
def monitor.Uses (m : monitor) : Prop :=
  m.phase = .resolving ∨ m.phase = .initializing ∨ m.phase = .monitoring

-- At the end every target has been destroyed once, by its owner.
def DestroyedOnce (s : process) : Prop :=
  ∀ i, i < s.created.length →
    (s.destroyed.map Prod.fst).count i = 1 ∧
    (s.monitored[i]? = some true ∧ (i, owner.running_targets) ∈ s.destroyed ∧
        (∀ m ∈ s.monitors, m.target ≠ i) ∨
      s.monitored[i]? = some false ∧ ∃ actor m, (i, owner.monitor actor) ∈ s.destroyed ∧
        s.monitors[actor]? = some m ∧ m.target = i ∧
        ∀ other m', s.monitors[other]? = some m' → m'.target = i → other = actor)

-- No target is destroyed twice, or while an actor can still use it.
def NeverEarly (s : process) : Prop :=
  (s.destroyed.map Prod.fst).Nodup ∧
    ∀ m ∈ s.monitors, m.Uses → m.target ∉ s.destroyed.map Prod.fst

end HwpcSensor.Sensor.Targets
