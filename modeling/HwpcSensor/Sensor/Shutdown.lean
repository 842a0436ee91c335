import HwpcSensor.Library.Transition

namespace HwpcSensor.Sensor.Shutdown

open Transition

-- A report on its way to the storage: the actor it comes from and its tick.
structure report where
  actor : Nat
  timestamp : Nat
  deriving DecidableEq

-- The loop of `perf_monitoring_actor`. At the top of the loop the actor has yet
-- to enter `zpoller_wait`, which looks for an interruption before it blocks.
inductive perf_phase where
  | starting
  | initializing
  | top
  | waiting
  | populating (timestamp : Nat)
  | ended
  deriving DecidableEq

inductive perf_kind where
  | system
  | container
  deriving DecidableEq

-- `ticks` are the clock ticks that wait in the socket, and `term` tells whether
-- `$TERM` waits in the pipe.
structure perf_process where
  kind : perf_kind
  phase : perf_phase
  ticks : List Nat
  term : Bool
  deriving DecidableEq

-- The loop of `reporting_actor`; it is storing while `storage_module_store_report`
-- runs.
inductive reporting_phase where
  | top
  | waiting
  | storing (payload : report)
  | ended
  deriving DecidableEq

-- Where `main` is: in its loop, where a synchronisation may start container
-- actors and wait for the end of others, at `storage_module_deinitialize`, and
-- behind it, where actors are destroyed kind by kind.
inductive main_phase where
  | checking
  | syncing
  | stopping (actor : Nat)
  | ticking
  | deinitializing
  | destroying (kind : perf_kind) (waiting_for : Option Nat)
  | destroying_reporting (waiting_for : Bool)
  | done
  deriving DecidableEq

structure process where
  main : main_phase
  interrupted : Bool
  deinitialized : Bool
  perf : List perf_process
  channel : List report
  reporting : reporting_phase
  reporting_term : Bool
  stored : List report
  deriving DecidableEq

namespace process

-- The reporting actor runs, and the system actor when there are system groups.
def start (system_groups : Bool) : process where
  main := .checking
  interrupted := false
  deinitialized := false
  perf := if system_groups then [⟨.system, .starting, [], false⟩] else []
  channel := []
  reporting := .top
  reporting_term := false
  stored := []

def set_perf (s : process) (i : Nat) (actor : perf_process) : process :=
  { s with perf := s.perf.set i actor }

end process

inductive action where
  | check
  | start_container
  | stop_container (actor : Nat)
  | stopped
  | synced
  | tick
  | deinit
  | destroy (actor : Nat)
  | destroyed
  | next_kind
  | destroy_reporting
  | finish
  | interrupt
  | perf (actor : Nat)
  | reporting
  deriving DecidableEq

-- Actors subscribe to the ticker while they initialize, and a subscriber that
-- lags behind may miss ticks: `reached` says who gets this one.
def perf_process.publish (timestamp : Nat) (reached : Bool) (actor : perf_process) :
    perf_process :=
  if reached ∧ actor.phase ≠ .starting ∧ actor.phase ≠ .ended then
    { actor with ticks := actor.ticks ++ [timestamp] }
  else actor

-- One step of a perf actor, with the report that it pushes.
inductive PerfStep (interrupted : Bool) (i : Nat) :
    perf_process → Option report → perf_process → Prop
  | create {actor : perf_process} (hphase : actor.phase = .starting) :
      PerfStep interrupted i actor none { actor with phase := .initializing }
  | unresolved {actor : perf_process} (hphase : actor.phase = .starting) :
      PerfStep interrupted i actor none { actor with phase := .ended }
  | not_initialized {actor : perf_process} (hphase : actor.phase = .initializing) :
      PerfStep interrupted i actor none { actor with phase := .ended }
  | initialized {actor : perf_process} (hphase : actor.phase = .initializing) :
      PerfStep interrupted i actor none { actor with phase := .top }
  | wait {actor : perf_process} (hphase : actor.phase = .top) (hgo : interrupted = false) :
      PerfStep interrupted i actor none { actor with phase := .waiting }
  | terminated {actor : perf_process} (hphase : actor.phase = .top ∨ actor.phase = .waiting)
      (hstop : interrupted = true) :
      PerfStep interrupted i actor none { actor with phase := .ended }
  | handle_pipe {actor : perf_process} (hphase : actor.phase = .waiting)
      (hterm : actor.term = true) :
      PerfStep interrupted i actor none { actor with phase := .ended }
  | handle_ticker {actor : perf_process} {timestamp : Nat} {ticks : List Nat}
      (hphase : actor.phase = .waiting) (hticks : actor.ticks = timestamp :: ticks) :
      PerfStep interrupted i actor none
        { actor with phase := .populating timestamp, ticks := ticks }
  | populated {actor : perf_process} {timestamp : Nat}
      (hphase : actor.phase = .populating timestamp) :
      PerfStep interrupted i actor (some ⟨i, timestamp⟩) { actor with phase := .top }
  | not_populated {actor : perf_process} {timestamp : Nat}
      (hphase : actor.phase = .populating timestamp) :
      PerfStep interrupted i actor none { actor with phase := .top }

-- One step of the reporting actor.
inductive ReportingStep : process → process → Prop
  | wait {s : process} (hphase : s.reporting = .top) (hgo : s.interrupted = false) :
      ReportingStep s { s with reporting := .waiting }
  | terminated {s : process} (hphase : s.reporting = .top ∨ s.reporting = .waiting)
      (hstop : s.interrupted = true) :
      ReportingStep s { s with reporting := .ended }
  | handle_pipe {s : process} (hphase : s.reporting = .waiting)
      (hterm : s.reporting_term = true) :
      ReportingStep s { s with reporting := .ended }
  -- Each actor pushes over a connection of its own: the pull socket keeps the order
  -- of one actor's reports, and takes up the connections in any order.
  | handle_reporting {s : process} {payload : report} {earlier later : List report}
      (hphase : s.reporting = .waiting) (hchannel : s.channel = earlier ++ payload :: later)
      (hfirst : ∀ other ∈ earlier, other.actor ≠ payload.actor) :
      ReportingStep s { s with reporting := .storing payload, channel := earlier ++ later }
  | stored {s : process} {payload : report} (hphase : s.reporting = .storing payload) :
      ReportingStep s { s with reporting := .top, stored := s.stored ++ [payload] }

-- The steps of `main` and of the actors, in any order.
inductive ProcessStep : process → action → process → Prop
  | check {s : process} (hmain : s.main = .checking) :
      ProcessStep s .check
        { s with main := if s.interrupted then .deinitializing else .syncing }
  | start_container {s : process} (hmain : s.main = .syncing) :
      ProcessStep s .start_container
        { s with perf := s.perf ++ [⟨.container, .starting, [], false⟩] }
  | stop_container {s : process} {i : Nat} {actor : perf_process} (hmain : s.main = .syncing)
      (hactor : s.perf[i]? = some actor) (hkind : actor.kind = .container) :
      ProcessStep s (.stop_container i)
        { s.set_perf i { actor with term := true } with main := .stopping i }
  | stopped {s : process} {i : Nat} {actor : perf_process} (hmain : s.main = .stopping i)
      (hactor : s.perf[i]? = some actor) (hended : actor.phase = .ended) :
      ProcessStep s .stopped { s with main := .syncing }
  | synced {s : process} (hmain : s.main = .syncing) :
      ProcessStep s .synced { s with main := .ticking }
  | tick {s : process} (hmain : s.main = .ticking) (timestamp : Nat) (reached : Nat → Bool) :
      ProcessStep s .tick
        { s with
          main := .checking
          perf := s.perf.mapIdx fun i => perf_process.publish timestamp (reached i) }
  | deinit {s : process} (hmain : s.main = .deinitializing) :
      ProcessStep s .deinit
        { s with main := .destroying .container none, deinitialized := true }
  | destroy {s : process} {i : Nat} {actor : perf_process} {kind : perf_kind}
      (hmain : s.main = .destroying kind none) (hactor : s.perf[i]? = some actor)
      (hkind : actor.kind = kind) :
      ProcessStep s (.destroy i)
        { s.set_perf i { actor with term := true } with main := .destroying kind (some i) }
  | destroyed {s : process} {i : Nat} {actor : perf_process} {kind : perf_kind}
      (hmain : s.main = .destroying kind (some i)) (hactor : s.perf[i]? = some actor)
      (hended : actor.phase = .ended) :
      ProcessStep s .destroyed { s with main := .destroying kind none }
  | next_kind {s : process} {kind : perf_kind} (hmain : s.main = .destroying kind none)
      (hall : ∀ actor ∈ s.perf, actor.kind = kind → actor.phase = .ended) :
      ProcessStep s .next_kind
        { s with main := match kind with
          | .container => .destroying .system none
          | .system => .destroying_reporting false }
  | destroy_reporting {s : process} (hmain : s.main = .destroying_reporting false) :
      ProcessStep s .destroy_reporting
        { s with main := .destroying_reporting true, reporting_term := true }
  | finish {s : process} (hmain : s.main = .destroying_reporting true)
      (hended : s.reporting = .ended) :
      ProcessStep s .finish { s with main := .done }
  | interrupt {s : process} : ProcessStep s .interrupt { s with interrupted := true }
  | perf {s : process} {i : Nat} {actor actor' : perf_process} {pushed : Option report}
      (hactor : s.perf[i]? = some actor) (hstep : PerfStep s.interrupted i actor pushed actor') :
      ProcessStep s (.perf i)
        { s.set_perf i actor' with channel := s.channel ++ pushed.toList }
  | reporting {s s' : process} (hstep : ReportingStep s s') : ProcessStep s .reporting s'

-- No `storage_module_store_report` runs on a deinitialized module.
def Safe (s : process) : Prop :=
  s.deinitialized = true → ∀ payload, s.reporting ≠ .storing payload

-- A report that is still to be pushed.
def perf_process.Pending (actor : perf_process) : Prop :=
  (∃ timestamp, actor.phase = .populating timestamp) ∨
    actor.phase = .waiting ∧ actor.ticks ≠ []

-- Nothing is being stored, and the reporting actor is not blocked in a wait that
-- a report can still end.
def Quiet (s : process) : Prop :=
  (∀ payload, s.reporting ≠ .storing payload) ∧
    (s.reporting = .waiting → s.channel = [] ∧ ∀ actor ∈ s.perf, ¬actor.Pending)

end HwpcSensor.Sensor.Shutdown
