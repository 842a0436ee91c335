import HwpcSensor.Perf.Actor.Names
import HwpcSensor.Report
import HwpcSensor.Sensor.Shutdown

namespace HwpcSensor.Sensor.Shutdown

open Interaction Perf Transition

-- A perf actor on its own: the ticks and `$TERM` come from `main`, and the
-- interruption from outside.
structure perf_world where
  interrupted : Bool
  actor : perf_process

inductive perf_action where
  | perf (pushed : Option report)
  | tick (timestamp : Nat)
  | term
  | interrupt

inductive PerfWorldStep (i : Nat) : perf_world → perf_action → perf_world → Prop
  | perf {w : perf_world} {pushed : Option report} {actor : perf_process}
      (hstep : PerfStep w.interrupted i w.actor pushed actor) :
      PerfWorldStep i w (.perf pushed) { w with actor := actor }
  | tick {w : perf_world} (timestamp : Nat) :
      PerfWorldStep i w (.tick timestamp) { w with actor := w.actor.publish timestamp true }
  | term {w : perf_world} :
      PerfWorldStep i w .term { w with actor := { w.actor with term := true } }
  | interrupt {w : perf_world} : PerfWorldStep i w .interrupt { w with interrupted := true }

def perf_action.pushed : perf_action → Option report
  | perf pushed => pushed
  | _ => none

def perf_action.ticked : perf_action → Option Nat
  | tick timestamp => some timestamp
  | _ => none

-- The ticks that an actor's poller has seen.
def ticks_of (events : List poll_event) : List Nat :=
  events.filterMap fun
    | .ticker timestamp => some timestamp
    | .pipe _ => none

-- What a call adds to the reports sent.
def sends : (call : syscall) → syscall_answer call → List payload → List payload
  | .send payload, _, sent => sent ++ [payload]
  | _, _, sent => sent

section Calls

variable {order : hash_order} {ctx : perf_context} {sent : List payload}

-- Only one call sends.
def NoSend (call : syscall) : Prop :=
  ∀ payload, call ≠ .send payload

theorem no_send_of_passive {call : syscall} (h : Passive call) : NoSend call := by
  cases call <;> first | exact False.elim h | exact fun _ => syscall.noConfusion

theorem no_send_of_populates {call : syscall} (h : Populates call) : NoSend call := by
  cases call <;> first | exact False.elim h | exact fun _ => syscall.noConfusion

theorem no_send_of_sets_up {call : syscall} (h : SetsUp call) : NoSend call := by
  cases call <;> first | exact False.elim h | exact fun _ => syscall.noConfusion

-- A program that does not send, with what it returns.
theorem ends_no_send {α : Type} {Y : α → Prop} {program : program α}
    (huses : program.Uses NoSend) (hyields : program.Yields Y) :
    program.Ends sends (fun value sent' => Y value ∧ sent' = sent) sent := by
  refine Prog.Ends.of_uses huses hyields fun call answer s hcall => ?_
  cases call with
  | send payload => exact absurd rfl (hcall payload)
  | _ => rfl

-- A tick sends nothing, or one report with its timestamp.
inductive TickedAt (timestamp : Nat) (sent : List payload) : List payload → Prop
  | failed : TickedAt timestamp sent sent
  | sent (p : payload) (htimestamp : p.timestamp = timestamp) :
      TickedAt timestamp sent (sent ++ [p])

theorem handle_ticker_ends (timestamp : Nat) :
    (handle_ticker order ctx timestamp).Ends sends (fun ctx' sent' =>
      ctx'.terminated = ctx.terminated ∧ TickedAt timestamp sent sent') sent := by
  refine Prog.Ends.perform fun allocated => ?_
  cases allocated with
  | false => exact ⟨rfl, .failed⟩
  | true =>
      have hfind := (passive_find_dwfl ctx).mono fun _ => no_send_of_passive
      refine (ends_no_send hfind (Prog.Yields.anything _)).bind ?_
      rintro dwfl _ ⟨-, rfl⟩
      have hpopulate := (@populates_payload order { ctx with dwfl := dwfl }
        (payload_create timestamp ctx.target_name)).mono fun _ => no_send_of_populates
      refine (ends_no_send hpopulate ((populate_payload_uses _ _).2.mono fun _ h => h.1)).bind ?_
      rintro populated _ ⟨htimestamp, rfl⟩
      by_cases hzero : populated.1 ≠ 0
      · rw [if_pos hzero]
        exact ⟨rfl, .failed⟩
      · rw [if_neg hzero]
        exact fun _ => ⟨rfl, .sent _ htimestamp⟩

end Calls

-- What has become of an actor, seen from one of its states: it has ended, pushed
-- the reports that were sent since, and got no other ticks than its poller's.
def Follows (i : Nat) (w : perf_world) (events : List poll_event) (before sent : List payload) :
    Prop :=
  ∃ new actions last, sent = before ++ new ∧ Run (PerfWorldStep i) w actions last ∧
    last.actor.phase = .ended ∧
    actions.filterMap perf_action.pushed = new.map (fun p => ⟨i, p.timestamp⟩) ∧
    actions.filterMap perf_action.ticked <+: ticks_of events

section Follows

variable {i : Nat} {w w' : perf_world} {events rest : List poll_event} {before sent : List payload}
  {first : List perf_action}

-- Up to the end without a report or a tick.
theorem Follows.ended {last : perf_world} (hrun : Run (PerfWorldStep i) w first last)
    (hended : last.actor.phase = .ended) (hpushed : first.filterMap perf_action.pushed = [])
    (hticked : first.filterMap perf_action.ticked = []) : Follows i w events before before :=
  ⟨[], first, last, (List.append_nil before).symm, hrun, hended, hpushed, by
    rw [hticked]
    exact List.nil_prefix⟩

theorem Follows.after {new : List payload} (hrun : Run (PerfWorldStep i) w first w')
    (hpushed : first.filterMap perf_action.pushed = new.map fun p => ⟨i, p.timestamp⟩)
    (hticked : ticks_of events = first.filterMap perf_action.ticked ++ ticks_of rest)
    (h : Follows i w' rest (before ++ new) sent) : Follows i w events before sent := by
  obtain ⟨more, actions, last, rfl, hmore, hended, hmore_pushed, hmore_ticked⟩ := h
  refine ⟨new ++ more, first ++ actions, last, List.append_assoc before new more,
    hrun.append hmore, hended, ?_, ?_⟩
  · rw [List.filterMap_append, List.map_append, hpushed, hmore_pushed]
  · rw [List.filterMap_append, hticked]
    exact (List.prefix_append_right_inj _).mpr hmore_ticked

theorem Follows.after_silently (h : Follows i w' rest before sent)
    (hrun : Run (PerfWorldStep i) w first w') (hpushed : first.filterMap perf_action.pushed = [])
    (hticked : ticks_of events = first.filterMap perf_action.ticked ++ ticks_of rest) :
    Follows i w events before sent := by
  have h' : Follows i w' rest (before ++ []) sent := by rwa [List.append_nil]
  exact .after hrun (hpushed.trans List.map_nil.symm) hticked h'

end Follows

-- An actor in its loop, with nothing waiting for it.
def monitoring (kind : perf_kind) (phase : perf_phase) : perf_world :=
  ⟨false, ⟨kind, phase, [], false⟩⟩

section Monitor

variable {i : Nat} {kind : perf_kind} {phase : perf_phase}

theorem enters_wait (hphase : phase = .top ∨ phase = .waiting) :
    ∃ first, Run (PerfWorldStep i) (monitoring kind phase) first (monitoring kind .waiting) ∧
      first.filterMap perf_action.pushed = [] ∧ first.filterMap perf_action.ticked = [] := by
  rcases hphase with rfl | rfl
  · exact ⟨[.perf none], .single (.perf (.wait rfl rfl)), rfl, rfl⟩
  · exact ⟨[], .nil, rfl, rfl⟩

theorem interrupted_ends (hphase : phase = .top ∨ phase = .waiting) (events : List poll_event)
    (sent : List payload) : Follows i (monitoring kind phase) events sent sent := by
  have hinterrupt : Run (PerfWorldStep i) (monitoring kind phase) [.interrupt]
      { monitoring kind phase with interrupted := true } := .single .interrupt
  exact .ended (hinterrupt.append (.single (.perf (.terminated hphase rfl)))) rfl rfl rfl

theorem term_ends (events : List poll_event) (sent : List payload) :
    Follows i (monitoring kind .waiting) events sent sent := by
  have hterm : Run (PerfWorldStep i) (monitoring kind .waiting) [.term]
      { monitoring kind .waiting with actor := ⟨kind, .waiting, [], true⟩ } := .single .term
  exact .ended (hterm.append (.single (.perf (.handle_pipe rfl rfl)))) rfl rfl rfl

-- A tick is taken up, and populated or not.
theorem tick_follows {timestamp : Nat} {rest : List poll_event} {before middle sent : List payload}
    (hticked : TickedAt timestamp before middle)
    (h : Follows i (monitoring kind .top) rest middle sent) :
    Follows i (monitoring kind .waiting) (.ticker timestamp :: rest) before sent := by
  have htick : Run (PerfWorldStep i) (monitoring kind .waiting) [.tick timestamp]
      { monitoring kind .waiting with actor := ⟨kind, .waiting, [timestamp], false⟩ } :=
    .single (.tick timestamp)
  have htaken := htick.append (.single (.perf (.handle_ticker rfl rfl)))
  cases hticked with
  | failed =>
      have hrun := htaken.append (.single (.perf (.not_populated rfl)))
      exact h.after_silently hrun rfl rfl
  | sent p htimestamp =>
      have hrun := htaken.append (.single (.perf (.populated rfl)))
      refine .after hrun ?_ rfl h
      rw [← htimestamp]
      rfl

theorem monitor_follows {order : hash_order} (events : List poll_event) {ctx : perf_context}
    (hphase : phase = .top ∨ phase = .waiting) (hrunning : ctx.terminated = false)
    (before : List payload) :
    (monitor order events ctx).Ends sends
      (fun _ sent => Follows i (monitoring kind phase) events before sent) before := by
  induction events generalizing phase ctx before with
  | nil => exact interrupted_ends hphase [] before
  | cons event rest ih =>
      obtain ⟨first, hrun, hpushed, hticked⟩ := @enters_wait i kind phase hphase
      have hwaits : ∀ {rest' : List poll_event} {sent : List payload},
          ticks_of (event :: rest) = ticks_of rest' →
          Follows i (monitoring kind .waiting) rest' before sent →
          Follows i (monitoring kind phase) (event :: rest) before sent := by
        intro rest' sent hrest h
        exact h.after_silently hrun hpushed (by rw [hticked, List.nil_append, hrest])
      cases event with
      | pipe command =>
          change Prog.Ends sends _ (if (handle_pipe ctx command).terminated = true then
            pure (handle_pipe ctx command) else monitor order rest (handle_pipe ctx command)) before
          unfold handle_pipe
          by_cases hterm : command = "$TERM"
          · rw [if_pos hterm, if_pos rfl]
            exact hwaits rfl (term_ends _ _)
          · rw [if_neg hterm, if_neg (by simp [hrunning])]
            exact (ih (.inr rfl) hrunning before).mono fun _ _ h => hwaits rfl h
      | ticker timestamp =>
          refine (handle_ticker_ends timestamp).bind ?_
          rintro ctx' middle ⟨hterminated, hmiddle⟩
          rw [hrunning] at hterminated
          rw [if_neg (by simp [hterminated])]
          refine (ih (.inl rfl) hterminated middle).mono fun _ sent h => ?_
          exact hwaits rfl (tick_follows hmiddle h)

end Monitor

section Actor

variable {order : hash_order} {i : Nat} {kind : perf_kind}

theorem no_send_destroy (ctx : perf_context) : (perf_context_destroy ctx).Uses NoSend :=
  Prog.Uses.bind (Prog.Uses.perform fun _ => syscall.noConfusion) fun _ =>
    Prog.Uses.bind (Prog.Uses.for_all fun item _ =>
      uses_group_destroy (fun _ _ => syscall.noConfusion) item.2) fun _ =>
        Prog.Uses.perform fun _ => syscall.noConfusion

theorem initialize_terminated (ctx : perf_context) :
    ( perf_events_groups_initialize order ctx).Yields fun result =>
      result.2.terminated = ctx.terminated := by
  have hkeeps : ∀ {start result : perf_context},
      result.without_groups = start.without_groups → result.terminated = start.terminated := by
    intro start result h
    have hterminated := congrArg perf_context.terminated h
    exact hterminated
  unfold perf_events_groups_initialize
  cases ctx.config.target.cgroup_path with
  | none => exact (setup_groups_keeps rfl).mono fun _ h => hkeeps h
  | some cgroup_path =>
      refine Prog.Yields.ignore fun cgroup_fd => ?_
      dsimp only
      split_ifs
      · exact (initialize_error_keeps rfl).mono fun _ h => (hkeeps h).trans rfl
      · exact (setup_groups_keeps rfl).mono fun _ h => (hkeeps h).trans rfl

theorem perf_monitoring_actor_follows (config : perf_config) (events : List poll_event) :
    (perf_monitoring_actor order regexec config events).Ends sends
      (fun _ sent => Follows i (monitoring kind .starting) events [] sent) [] := by
  have hcreate : Run (PerfWorldStep i) (monitoring kind .starting) [.perf none]
      (monitoring kind .initializing) := .single (.perf (.create rfl))
  have hunresolved : Follows i (monitoring kind .starting) events [] [] :=
    .ended (.single (.perf (.unresolved rfl))) rfl rfl rfl
  have hresolve := (passive_target_resolve_real_name config.target).mono fun _ =>
    no_send_of_passive
  refine (ends_no_send hresolve (Prog.Yields.anything _)).bind ?_
  rintro target_name _ ⟨-, rfl⟩
  cases target_name with
  | none => exact hunresolved
  | some target_name =>
      refine Prog.Ends.perform fun allocated => ?_
      cases allocated with
      | false => exact hunresolved
      | true =>
          have hsets_up := ( sets_up_initialize order
            (perf_context_create config target_name)).mono fun _ => no_send_of_sets_up
          refine (ends_no_send hsets_up (initialize_terminated _)).bind ?_
          rintro initialized _ ⟨hterminated, rfl⟩
          by_cases hfailed : initialized.1 ≠ 0
          · rw [if_pos hfailed]
            refine (ends_no_send (no_send_destroy _) (Prog.Yields.anything _)).mono ?_
            rintro _ _ ⟨-, rfl⟩
            exact .ended (hcreate.append (.single (.perf (.not_initialized rfl)))) rfl rfl rfl
          · rw [if_neg hfailed]
            have henable : (perf_events_groups_enable initialized.2).Uses NoSend :=
              uses_enable (fun _ _ => syscall.noConfusion) (fun _ _ => syscall.noConfusion) _
            refine (ends_no_send henable (Prog.Yields.anything _)).bind ?_
            rintro _ _ ⟨-, rfl⟩
            have hmonitor := @monitor_follows i kind _ order events _ (.inl rfl) hterminated []
            refine hmonitor.bind fun ctx sent h => ?_
            refine (ends_no_send (no_send_destroy ctx) (Prog.Yields.anything _)).mono ?_
            rintro _ _ ⟨-, rfl⟩
            exact h.after_silently (hcreate.append (.single (.perf (.initialized rfl)))) rfl rfl

-- The ticks that an actor has taken up or has still to take up.
def perf_process.to_push (actor : perf_process) : List Nat :=
  (match actor.phase with
    | .populating timestamp => [timestamp]
    | _ => []) ++ actor.ticks

def pushed_timestamps (actions : List perf_action) : List Nat :=
  (actions.filterMap perf_action.pushed).map report.timestamp

-- A step pushes what it has taken up, or drops it.
theorem perf_world_step_pushes {action : perf_action} {w w' : perf_world}
    (hstep : PerfWorldStep i w action w') :
    ((action.pushed.map report.timestamp).toList ++ w'.actor.to_push).Sublist
      (w.actor.to_push ++ action.ticked.toList) := by
  cases hstep with
  | interrupt => simp [perf_action.pushed, perf_action.ticked]
  | term => simp [perf_action.pushed, perf_action.ticked, perf_process.to_push]
  | tick timestamp =>
      unfold perf_process.publish
      split_ifs
      · simp [perf_action.pushed, perf_action.ticked, perf_process.to_push]
      · simp [perf_action.pushed, perf_action.ticked]
  | perf hstep =>
      cases hstep with
      | create hphase | unresolved hphase | not_initialized hphase | initialized hphase
      | wait hphase | handle_pipe hphase | populated hphase | not_populated hphase =>
          simp [perf_action.pushed, perf_action.ticked, perf_process.to_push, hphase]
      | terminated hphase =>
          rcases hphase with hphase | hphase <;>
            simp [perf_action.pushed, perf_action.ticked, perf_process.to_push, hphase]
      | handle_ticker hphase hticks =>
          simp [perf_action.pushed, perf_action.ticked, perf_process.to_push, hphase, hticks]

-- Reports go out in the order of the ticks, at most one for each.
theorem perf_world_step_ordered {actions : List perf_action} {action : perf_action}
    {w w' : perf_world}
    (h : (pushed_timestamps actions ++ w.actor.to_push).Sublist
      (actions.filterMap perf_action.ticked))
    (hstep : PerfWorldStep i w action w') :
    (pushed_timestamps (actions ++ [action]) ++ w'.actor.to_push).Sublist
      ((actions ++ [action]).filterMap perf_action.ticked) := by
  have hpushed : pushed_timestamps (actions ++ [action]) =
      pushed_timestamps actions ++ (action.pushed.map report.timestamp).toList := by
    unfold pushed_timestamps
    rw [List.filterMap_append, List.map_append]
    cases hpushed : action.pushed <;> simp [hpushed]
  have hticked : (actions ++ [action]).filterMap perf_action.ticked =
      actions.filterMap perf_action.ticked ++ action.ticked.toList := by
    rw [List.filterMap_append]
    cases hticked : action.ticked <;> simp [hticked]
  rw [hpushed, hticked, List.append_assoc]
  refine ((perf_world_step_pushes hstep).append_left _).trans ?_
  rw [← List.append_assoc]
  exact h.append_right _

-- Whatever the calls of an actor answer, what it sends is what its model pushes in
-- one of its runs, from its start to its end: reports of ticks that its poller saw,
-- in their order.
theorem perf_monitoring_actor_refines (config : perf_config) (events : List poll_event) :
    (perf_monitoring_actor order regexec config events).Ends sends
      (fun _ sent => Follows i (monitoring kind .starting) events [] sent ∧
        (sent.map payload.timestamp).Sublist (ticks_of events)) [] := by
  refine (perf_monitoring_actor_follows config events).mono fun _ sent h => ⟨h, ?_⟩
  obtain ⟨new, actions, last, hsent, hrun, -, hpushed, hticked⟩ := h
  obtain rfl : sent = new := hsent
  have hordered := hrun.history
    (fun actions w => (pushed_timestamps actions ++ w.actor.to_push).Sublist
      (actions.filterMap perf_action.ticked)) (List.Sublist.refl [])
    fun _ _ _ _ h hstep => perf_world_step_ordered h hstep
  have htimestamps : pushed_timestamps actions = sent.map payload.timestamp := by
    rw [pushed_timestamps, hpushed, List.map_map]
    rfl
  rw [htimestamps] at hordered
  exact ((List.sublist_append_left _ _).trans hordered).trans hticked.sublist

end Actor

-- The reporting actor on its own: reports are pushed to it, and it is told to end.
inductive reporting_action where
  | reporting
  | push
  | term
  | interrupt

inductive ReportingWorldStep : process → reporting_action → process → Prop
  | reporting {s s' : process} (hstep : ReportingStep s s') :
      ReportingWorldStep s .reporting s'
  | push {s : process} (payload : report) :
      ReportingWorldStep s .push { s with channel := s.channel ++ [payload] }
  | term {s : process} : ReportingWorldStep s .term { s with reporting_term := true }
  | interrupt {s : process} : ReportingWorldStep s .interrupt { s with interrupted := true }

-- The payloads that arrive before the actor is told to end.
def received : List Report.poll_event → List payload
  | [] => []
  | .pipe command :: rest => if command = "$TERM" then [] else received rest
  | .reporting none :: rest => received rest
  | .reporting (some payload) :: rest => payload :: received rest

-- The calls that leave the actor, or end what it holds: those of a payload and of
-- its context. The others write to the log, or ask for the context.
def hands : Report.report_call → Option Report.report_call
  | .storage_module_store_report payload => some (.storage_module_store_report payload)
  | .payload_destroy payload => some (.payload_destroy payload)
  | .free => some .free
  | _ => none

def handed (calls : List (Σ call, Report.report_answer call)) : List Report.report_call :=
  calls.filterMap fun call => hands call.1

theorem handed_append (calls more : List (Σ call, Report.report_answer call)) :
    handed (calls ++ more) = handed calls ++ handed more :=
  List.filterMap_append

-- A payload is handed to the storage, and then destroyed.
def served (payload : payload) : List Report.report_call :=
  [.storage_module_store_report payload, .payload_destroy payload]

section Reporting

variable {sender : payload → Nat} {s : process} {phase : reporting_phase}

def report_of (sender : payload → Nat) (payload : payload) : report :=
  ⟨sender payload, payload.timestamp⟩

-- The actor ends when these payloads have become its model's reports.
def Stores (sender : payload → Nat) (s : process) (payloads : List payload) : Prop :=
  ∃ actions last, Run ReportingWorldStep s actions last ∧ last.reporting = .ended ∧
    last.channel = [] ∧ last.stored = s.stored ++ payloads.map (report_of sender)

theorem Stores.after {s' : process} {first : List reporting_action} {payloads : List payload}
    (hrun : Run ReportingWorldStep s first s') (hstored : s'.stored = s.stored)
    (h : Stores sender s' payloads) : Stores sender s payloads := by
  obtain ⟨actions, last, hmore, hended, hchannel, hlast⟩ := h
  exact ⟨first ++ actions, last, hrun.append hmore, hended, hchannel, hstored ▸ hlast⟩

-- The reporting actor in its loop, in any state of the others.
structure Listening (s : process) : Prop where
  phase : s.reporting = .top ∨ s.reporting = .waiting
  running : s.interrupted = false
  channel : s.channel = []

theorem Listening.interrupted (h : Listening s) : Stores sender s [] := by
  have hinterrupt : Run ReportingWorldStep s [.interrupt] { s with interrupted := true } :=
    .single .interrupt
  refine ⟨_, _, hinterrupt.append (.single (.reporting (.terminated h.phase rfl))), rfl,
    h.channel, ?_⟩
  exact (List.append_nil _).symm

theorem Listening.waits (h : Listening s) : ∃ first,
    Run ReportingWorldStep s first { s with reporting := .waiting } := by
  rcases h.phase with htop | hwaiting
  · exact ⟨[.reporting], .single (.reporting (.wait htop h.running))⟩
  · rw [← hwaiting]
    exact ⟨[], .nil⟩

theorem Listening.term (h : Listening s) : Stores sender s [] := by
  obtain ⟨first, hfirst⟩ := h.waits
  have hterm : Run ReportingWorldStep { s with reporting := .waiting } [.term]
      { s with reporting := .waiting, reporting_term := true } := .single .term
  refine .after hfirst rfl ⟨_, _, hterm.append (.single (.reporting (.handle_pipe rfl rfl))),
    rfl, h.channel, ?_⟩
  exact (List.append_nil _).symm

-- A payload comes in, and is stored.
theorem Listening.stores (h : Listening s) {p : payload} {payloads : List payload}
    (hmore : Stores sender { s with
      reporting := .top, channel := [], stored := s.stored ++ [report_of sender p] } payloads) :
    Stores sender s (p :: payloads) := by
  obtain ⟨first, hfirst⟩ := h.waits
  have hpush : Run ReportingWorldStep { s with reporting := .waiting } [.push]
      { s with reporting := .waiting, channel := [report_of sender p] } := by
    have hstep : ReportingWorldStep { s with reporting := .waiting } .push
        { s with reporting := .waiting, channel := s.channel ++ [report_of sender p] } :=
      .push _
    have hchannel : s.channel ++ [report_of sender p] = [report_of sender p] := by
      rw [h.channel]
      rfl
    rw [hchannel] at hstep
    exact .single hstep
  have htaken := (hfirst.append hpush).append (.single (.reporting (.handle_reporting rfl
    (List.nil_append _).symm fun _ hother => absurd hother List.not_mem_nil)))
  have hstored := htaken.append (.single (.reporting (.stored rfl)))
  obtain ⟨actions, last, hrun, hended, hchannel, hlast⟩ := hmore
  refine ⟨_, last, hstored.append hrun, hended, hchannel, ?_⟩
  rw [hlast, List.map_cons, List.append_assoc]
  rfl

theorem handle_reporting_records (payload : payload) :
    (Report.handle_reporting (some payload)).Records fun _ calls =>
      handed calls = served payload := by
  refine Prog.Records.perform fun failed => ?_
  split_ifs
  · exact fun _ _ => rfl
  · exact fun _ => rfl

theorem report_stores (events : List Report.poll_event) (h : Listening s) :
    (Report.report events ⟨false⟩).Records fun _ calls =>
      handed calls = (received events).flatMap served ∧ Stores sender s (received events) := by
  induction events generalizing s with
  | nil => exact ⟨rfl, h.interrupted⟩
  | cons event rest ih =>
      cases event with
      | pipe command =>
          by_cases hterm : command = "$TERM"
          · subst hterm
            exact fun _ => ⟨rfl, h.term⟩
          · have hreceived : received (.pipe command :: rest) = received rest := if_neg hterm
            have hloop : Report.report (.pipe command :: rest) ⟨false⟩ =
                (do
                  Report.zsys_error ("reporting: invalid pipe command: " ++ command)
                  Report.report rest ⟨false⟩) := by
              simp only [Report.report, Report.handle_event, Report.handle_pipe, if_neg hterm]
              rfl
            rw [hreceived, hloop]
            exact fun _ => (ih h).mono fun _ _ hrest => hrest
      | reporting payload =>
          cases payload with
          | none => exact ih h
          | some payload =>
              have hloop : Report.report (.reporting (some payload) :: rest) ⟨false⟩ =
                  (do
                    Report.handle_reporting (some payload)
                    Report.report rest ⟨false⟩) := Prog.bind_assoc _ _ _
              have hnext : Listening { s with
                  reporting := .top
                  channel := []
                  stored := s.stored ++ [report_of sender payload] } :=
                ⟨.inl rfl, h.running, rfl⟩
              rw [hloop]
              refine (handle_reporting_records payload).bind fun _ calls hcalls => ?_
              refine (ih hnext).mono fun _ more hmore => ⟨?_, h.stores hmore.2⟩
              rw [handed_append, hcalls, hmore.1]
              rfl

-- The actor asks for its context first. Without it, it does nothing with a payload;
-- otherwise, whatever the other calls answer, it hands each payload that it receives
-- to the storage and then destroys it, and gives its context back at the end, while
-- its model stores the reports of these payloads in one of its runs to its end.
theorem reporting_actor_refines (events : List Report.poll_event) (h : Listening s) :
    (Report.reporting_actor events).Records fun _ calls =>
      ∃ (allocated : Bool) (more : List (Σ call, Report.report_answer call)),
        calls = ⟨.malloc, allocated⟩ :: more ∧ (allocated = false → handed more = []) ∧
          (allocated = true → handed more = (received events).flatMap served ++ [.free] ∧
            Stores sender s (received events)) := by
  refine Prog.Records.perform fun (allocated : Bool) => ?_
  cases allocated with
  | false =>
      exact fun _ => ⟨false, _, rfl, fun _ => rfl, nofun⟩
  | true =>
      have hloop := @report_stores sender s events h
      refine hloop.bind fun _ calls hcalls => fun _ => ⟨true, _, rfl, nofun, fun _ => ?_⟩
      refine ⟨?_, hcalls.2⟩
      rw [handed_append, hcalls.1]
      rfl

end Reporting

def two_reports : List Report.poll_event :=
  [.reporting (some (payload_create 1 "all")), .pipe "$OTHER", .reporting none,
    .reporting (some (payload_create 2 "all")), .pipe "$TERM"]

theorem reporting_actor_refines_two :
    received two_reports = [payload_create 1 "all", payload_create 2 "all"] ∧
    (Report.reporting_actor two_reports).Records fun _ calls =>
      ∃ (allocated : Bool) (more : List (Σ call, Report.report_answer call)),
        calls = ⟨.malloc, allocated⟩ :: more ∧ (allocated = false → handed more = []) ∧
          (allocated = true → handed more = (received two_reports).flatMap served ++ [.free] ∧
            Stores (fun _ => 0) (process.start true) (received two_reports)) :=
  ⟨rfl, reporting_actor_refines two_reports ⟨.inl rfl, rfl, rfl⟩⟩

end HwpcSensor.Sensor.Shutdown
