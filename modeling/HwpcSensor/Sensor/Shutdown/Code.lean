import HwpcSensor.Sensor.Shutdown.Refinement

namespace HwpcSensor.Sensor.Shutdown

open Interaction Perf Syscall

-- The process once more, with actors that run their programs call by call.

-- Where the parts of `perf_monitoring_actor` between its waits lead.
inductive perf_point where
  | created (ctx : Option perf_context)
  | initialized (started : Bool) (ctx : perf_context)
  | handled (ctx : perf_context)
  | left

-- The part up to the context.
def create_context (config : perf_config) : program perf_point := do
  let target_name ← target_resolve_real_name regexec config.target
  match target_name with
  | none => pure (.created none)
  | some target_name => do
      let allocated ← malloc
      if allocated = false then pure (.created none)
      else pure (.created (some (perf_context_create config target_name)))

-- The part up to the loop.
def initialize_context (order : hash_order) (ctx : perf_context) : program perf_point := do
  let initialized ← perf_events_groups_initialize order ctx
  if initialized.1 ≠ 0 then pure (.initialized false initialized.2)
  else do
    perf_events_groups_enable initialized.2
    pure (.initialized true initialized.2)

-- One round of the loop, behind its wait.
def handle (order : hash_order) (ctx : perf_context) (event : poll_event) : program perf_point := do
  let ctx ← handle_event order ctx event
  pure (.handled ctx)

-- The part behind the loop.
def cleanup (ctx : perf_context) : program perf_point := do
  perf_context_destroy ctx
  pure .left

-- The actor is put together from the parts, around its loop.
theorem perf_monitoring_actor_parts (order : hash_order) (config : perf_config)
    (events : List poll_event) :
    perf_monitoring_actor order regexec config events = (do
      let point ← create_context config
      match point with
      | .created (some ctx) => do
          let point ← initialize_context order ctx
          match point with
          | .initialized true ctx => do
              let ctx ← monitor order events ctx
              perf_context_destroy ctx
          | .initialized false ctx => perf_context_destroy ctx
          | _ => pure ()
      | _ => pure ()) := by
  refine Eq.trans ?_ (Prog.bind_assoc _ _ _).symm
  refine congrArg (target_resolve_real_name regexec config.target >>= ·)
    (funext fun target_name => ?_)
  cases target_name with
  | none => rfl
  | some target_name =>
      refine Eq.trans ?_ (Prog.bind_assoc _ _ _).symm
      refine congrArg (malloc >>= ·) (funext fun allocated => ?_)
      cases allocated with
      | false => rfl
      | true =>
          refine Eq.trans ?_ (Prog.bind_assoc _ _ _).symm
          refine congrArg ( perf_events_groups_initialize order
            (perf_context_create config target_name) >>= ·) (funext fun initialized => ?_)
          by_cases hfailed : initialized.1 ≠ 0
          · rw [if_pos hfailed, if_pos hfailed]
            rfl
          · rw [if_neg hfailed, if_neg hfailed]
            refine Eq.trans ?_ (Prog.bind_assoc _ _ _).symm
            rfl

-- A perf actor is in one of the parts, with the rest of it to be run, or at one of
-- the two sides of a wait.
inductive perf_code where
  | running (rest : program perf_point)
  | top (ctx : perf_context)
  | waiting (ctx : perf_context)
  | ended

-- The ticker socket is opened with the context.
structure perf_actor where
  kind : perf_kind
  code : perf_code
  pipe : List String
  ticker : Option (List Nat)

def perf_actor.create (kind : perf_kind) (config : perf_config) : perf_actor where
  kind := kind
  code := .running (create_context config)
  pipe := []
  ticker := none

def perf_actor.publish (timestamp : Nat) (reached : Bool) (actor : perf_actor) : perf_actor :=
  if reached then { actor with ticker := actor.ticker.map (· ++ [timestamp]) } else actor

def zactor_destroy (actor : perf_actor) : perf_actor :=
  { actor with pipe := actor.pipe ++ ["$TERM"] }

def sent_by : syscall → Option payload
  | .send payload => some payload
  | _ => none

-- One call of a perf actor, or what it does between two calls.
inductive PerfCodeStep (order : hash_order) (interrupted : Bool) :
    perf_actor → Option payload → perf_actor → Prop
  | call {actor : perf_actor} {call : syscall} {next : syscall_answer call → program perf_point}
      (answer : syscall_answer call) (hcode : actor.code = .running (.call call next)) :
      PerfCodeStep order interrupted actor (sent_by call)
        { actor with code := .running (next answer) }
  | created {actor : perf_actor} {ctx : perf_context}
      (hcode : actor.code = .running (.ret (.created (some ctx)))) :
      PerfCodeStep order interrupted actor none
        { actor with code := .running (initialize_context order ctx), ticker := some [] }
  | not_created {actor : perf_actor} (hcode : actor.code = .running (.ret (.created none))) :
      PerfCodeStep order interrupted actor none { actor with code := .ended }
  | initialized {actor : perf_actor} {ctx : perf_context}
      (hcode : actor.code = .running (.ret (.initialized true ctx))) :
      PerfCodeStep order interrupted actor none { actor with code := .top ctx }
  | not_initialized {actor : perf_actor} {ctx : perf_context}
      (hcode : actor.code = .running (.ret (.initialized false ctx))) :
      PerfCodeStep order interrupted actor none { actor with code := .running (cleanup ctx) }
  | handled {actor : perf_actor} {ctx : perf_context}
      (hcode : actor.code = .running (.ret (.handled ctx))) :
      PerfCodeStep order interrupted actor none { actor with code := .top ctx }
  | left {actor : perf_actor} (hcode : actor.code = .running (.ret .left)) :
      PerfCodeStep order interrupted actor none { actor with code := .ended }
  | loop_ends {actor : perf_actor} {ctx : perf_context} (hcode : actor.code = .top ctx)
      (hterminated : ctx.terminated = true) :
      PerfCodeStep order interrupted actor none { actor with code := .running (cleanup ctx) }
  | wait {actor : perf_actor} {ctx : perf_context} (hcode : actor.code = .top ctx)
      (hrunning : ctx.terminated = false) (hgo : interrupted = false) :
      PerfCodeStep order interrupted actor none { actor with code := .waiting ctx }
  | terminated {actor : perf_actor} {ctx : perf_context}
      (hcode : actor.code = .top ctx ∧ ctx.terminated = false ∨ actor.code = .waiting ctx)
      (hstop : interrupted = true) :
      PerfCodeStep order interrupted actor none { actor with code := .running (cleanup ctx) }
  | handle_pipe {actor : perf_actor} {ctx : perf_context} {command : String} {pipe : List String}
      (hcode : actor.code = .waiting ctx) (hpipe : actor.pipe = command :: pipe) :
      PerfCodeStep order interrupted actor none
        { actor with code := .running (handle order ctx (.pipe command)), pipe := pipe }
  | handle_ticker {actor : perf_actor} {ctx : perf_context} {timestamp : Nat} {ticks : List Nat}
      (hcode : actor.code = .waiting ctx) (hticker : actor.ticker = some (timestamp :: ticks)) :
      PerfCodeStep order interrupted actor none
        { actor with
          code := .running (handle order ctx (.ticker timestamp)), ticker := some ticks }

-- The parts of `reporting_actor` behind its context, and where they lead.
inductive reporting_point where
  | handled (ctx : Report.report_context)
  | left

-- A payload in hand comes from a sender.
inductive reporting_code where
  | running (sender : Option Nat) (rest : Report.program reporting_point)
  | top (ctx : Report.report_context)
  | waiting (ctx : Report.report_context)
  | ended

def handle_report (ctx : Report.report_context) (event : Report.poll_event) :
    Report.program reporting_point := do
  let ctx ← Report.handle_event ctx event
  pure (.handled ctx)

def report_cleanup : Report.program reporting_point := do
  Report.free
  pure .left

def handed_over : Report.report_call → Option payload
  | .storage_module_store_report payload => some payload
  | _ => none

def stored_by (sender : Option Nat) (call : Report.report_call) : Option (Nat × payload) :=
  (handed_over call).bind fun payload => sender.map (·, payload)

-- `process` with code for the phases of its actors, and with payloads and their
-- senders for its reports. `ticks` and `sent` record what has happened so far.
structure coded_process where
  main : main_phase
  interrupted : Bool
  deinitialized : Bool
  perf : List perf_actor
  channel : List (Nat × payload)
  reporting : reporting_code
  reporting_pipe : List String
  stored : List (Nat × payload)
  ticks : List Nat
  sent : List (Nat × payload)

namespace coded_process

-- `zactor_new` has returned once the reporting actor has its context.
def start (system : Option perf_config) : coded_process where
  main := .checking
  interrupted := false
  deinitialized := false
  perf := (system.map fun config => perf_actor.create .system config).toList
  channel := []
  reporting := .top ⟨false⟩
  reporting_pipe := []
  stored := []
  ticks := []
  sent := []

def set_perf (c : coded_process) (i : Nat) (actor : perf_actor) : coded_process :=
  { c with perf := c.perf.set i actor }

end coded_process

-- One call of the reporting actor, or what it does between two calls.
inductive ReportingCodeStep : coded_process → coded_process → Prop
  | call {c : coded_process} {sender : Option Nat} {call : Report.report_call}
      {next : Report.report_answer call → Report.program reporting_point}
      (answer : Report.report_answer call)
      (hcode : c.reporting = .running sender (.call call next)) :
      ReportingCodeStep c
        { c with
          reporting := .running sender (next answer)
          stored := c.stored ++ (stored_by sender call).toList }
  | handled {c : coded_process} {sender : Option Nat} {ctx : Report.report_context}
      (hcode : c.reporting = .running sender (.ret (.handled ctx))) :
      ReportingCodeStep c { c with reporting := .top ctx }
  | left {c : coded_process} {sender : Option Nat}
      (hcode : c.reporting = .running sender (.ret .left)) :
      ReportingCodeStep c { c with reporting := .ended }
  | loop_ends {c : coded_process} {ctx : Report.report_context} (hcode : c.reporting = .top ctx)
      (hterminated : ctx.terminated = true) :
      ReportingCodeStep c { c with reporting := .running none report_cleanup }
  | wait {c : coded_process} {ctx : Report.report_context} (hcode : c.reporting = .top ctx)
      (hrunning : ctx.terminated = false) (hgo : c.interrupted = false) :
      ReportingCodeStep c { c with reporting := .waiting ctx }
  | terminated {c : coded_process} {ctx : Report.report_context}
      (hcode : c.reporting = .top ctx ∧ ctx.terminated = false ∨ c.reporting = .waiting ctx)
      (hstop : c.interrupted = true) :
      ReportingCodeStep c { c with reporting := .running none report_cleanup }
  | handle_pipe {c : coded_process} {ctx : Report.report_context} {command : String}
      {pipe : List String} (hcode : c.reporting = .waiting ctx)
      (hpipe : c.reporting_pipe = command :: pipe) :
      ReportingCodeStep c
        { c with
          reporting := .running none (handle_report ctx (.pipe command)), reporting_pipe := pipe }
  | handle_reporting {c : coded_process} {ctx : Report.report_context} {sender : Nat}
      {received : payload} {earlier later : List (Nat × payload)}
      (hcode : c.reporting = .waiting ctx)
      (hchannel : c.channel = earlier ++ (sender, received) :: later)
      (hfirst : ∀ other ∈ earlier, other.1 ≠ sender) :
      ReportingCodeStep c
        { c with
          reporting := .running (some sender) (handle_report ctx (.reporting (some received)))
          channel := earlier ++ later }

-- The steps of `main` as before, and those of the actors' code.
inductive CodedStep (order : hash_order) : coded_process → action → coded_process → Prop
  | check {c : coded_process} (hmain : c.main = .checking) :
      CodedStep order c .check
        { c with main := if c.interrupted then .deinitializing else .syncing }
  | start_container {c : coded_process} (hmain : c.main = .syncing) (config : perf_config) :
      CodedStep order c .start_container
        { c with perf := c.perf ++ [.create .container config] }
  | stop_container {c : coded_process} {i : Nat} {actor : perf_actor} (hmain : c.main = .syncing)
      (hactor : c.perf[i]? = some actor) (hkind : actor.kind = .container) :
      CodedStep order c (.stop_container i)
        { c.set_perf i (zactor_destroy actor) with main := .stopping i }
  | stopped {c : coded_process} {i : Nat} {actor : perf_actor} (hmain : c.main = .stopping i)
      (hactor : c.perf[i]? = some actor) (hended : actor.code = .ended) :
      CodedStep order c .stopped { c with main := .syncing }
  | synced {c : coded_process} (hmain : c.main = .syncing) :
      CodedStep order c .synced { c with main := .ticking }
  | tick {c : coded_process} (hmain : c.main = .ticking) (timestamp : Nat)
      (reached : Nat → Bool) :
      CodedStep order c .tick
        { c with
          main := .checking
          perf := c.perf.mapIdx fun i => perf_actor.publish timestamp (reached i)
          ticks := c.ticks ++ [timestamp] }
  | deinit {c : coded_process} (hmain : c.main = .deinitializing) :
      CodedStep order c .deinit
        { c with main := .destroying .container none, deinitialized := true }
  | destroy {c : coded_process} {i : Nat} {actor : perf_actor} {kind : perf_kind}
      (hmain : c.main = .destroying kind none) (hactor : c.perf[i]? = some actor)
      (hkind : actor.kind = kind) :
      CodedStep order c (.destroy i)
        { c.set_perf i (zactor_destroy actor) with main := .destroying kind (some i) }
  | destroyed {c : coded_process} {i : Nat} {actor : perf_actor} {kind : perf_kind}
      (hmain : c.main = .destroying kind (some i)) (hactor : c.perf[i]? = some actor)
      (hended : actor.code = .ended) :
      CodedStep order c .destroyed { c with main := .destroying kind none }
  | next_kind {c : coded_process} {kind : perf_kind} (hmain : c.main = .destroying kind none)
      (hall : ∀ actor ∈ c.perf, actor.kind = kind → actor.code = .ended) :
      CodedStep order c .next_kind
        { c with main := match kind with
          | .container => .destroying .system none
          | .system => .destroying_reporting false }
  | destroy_reporting {c : coded_process} (hmain : c.main = .destroying_reporting false) :
      CodedStep order c .destroy_reporting
        { c with
          main := .destroying_reporting true, reporting_pipe := c.reporting_pipe ++ ["$TERM"] }
  | finish {c : coded_process} (hmain : c.main = .destroying_reporting true)
      (hended : c.reporting = .ended) :
      CodedStep order c .finish { c with main := .done }
  | interrupt {c : coded_process} : CodedStep order c .interrupt { c with interrupted := true }
  | perf {c : coded_process} {i : Nat} {actor actor' : perf_actor} {sent : Option payload}
      (hactor : c.perf[i]? = some actor)
      (hstep : PerfCodeStep order c.interrupted actor sent actor') :
      CodedStep order c (.perf i)
        { c.set_perf i actor' with
          channel := c.channel ++ (sent.map (i, ·)).toList
          sent := c.sent ++ (sent.map (i, ·)).toList }
  | reporting {c c' : coded_process} (hstep : ReportingCodeStep c c') :
      CodedStep order c .reporting c'

end HwpcSensor.Sensor.Shutdown
