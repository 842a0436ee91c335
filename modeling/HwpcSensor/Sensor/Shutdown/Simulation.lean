import HwpcSensor.Sensor.Shutdown.Code
import HwpcSensor.Sensor.Shutdown.Delivery

namespace HwpcSensor.Sensor.Shutdown

open Interaction Perf Syscall Transition

-- Where a part of an actor's program may lead in a phase of the actor, with the
-- payloads that are sent on the way.
inductive Leads : perf_phase → perf_point → List payload → Prop
  | not_created : Leads .starting (.created none) []
  | created {ctx : perf_context} (hrunning : ctx.terminated = false) :
      Leads .starting (.created (some ctx)) []
  | initialized {started : Bool} {ctx : perf_context} (hrunning : ctx.terminated = false) :
      Leads .initializing (.initialized started ctx) []
  | handled {ctx : perf_context} (hrunning : ctx.terminated = false) :
      Leads .top (.handled ctx) []
  | ticked {timestamp : Nat} {ctx : perf_context} {sent : List payload}
      (hrunning : ctx.terminated = false) (hticked : TickedAt timestamp [] sent) :
      Leads (.populating timestamp) (.handled ctx) sent
  | termed {ctx : perf_context} (hterminated : ctx.terminated = true) :
      Leads .ended (.handled ctx) []
  | left : Leads .ended .left []

inductive HasPhase : perf_code → perf_phase → Prop
  | running {rest : program perf_point} {phase : perf_phase}
      (hleads : rest.Ends sends (Leads phase) []) : HasPhase (.running rest) phase
  | top {ctx : perf_context} (hrunning : ctx.terminated = false) : HasPhase (.top ctx) .top
  | termed {ctx : perf_context} (hterminated : ctx.terminated = true) :
      HasPhase (.top ctx) .ended
  | waiting {ctx : perf_context} (hrunning : ctx.terminated = false) :
      HasPhase (.waiting ctx) .waiting
  | ended : HasPhase .ended .ended

namespace HasPhase

variable {ctx : perf_context} {phase : perf_phase}

theorem of_running (h : HasPhase (.top ctx) phase) (hrunning : ctx.terminated = false) :
    phase = .top := by
  cases h with
  | top _ => rfl
  | termed hterminated => exact absurd (hterminated.symm.trans hrunning) (by decide)

theorem of_terminated (h : HasPhase (.top ctx) phase) (hterminated : ctx.terminated = true) :
    phase = .ended := by
  cases h with
  | top hrunning => exact absurd (hterminated.symm.trans hrunning) (by decide)
  | termed _ => rfl

theorem of_ended (h : HasPhase .ended phase) : phase = .ended := by
  cases h with
  | ended => rfl

end HasPhase

section Parts

variable {order : hash_order}

theorem create_context_leads (config : perf_config) :
    (create_context config).Ends sends (Leads .starting) [] := by
  have hresolve := (passive_target_resolve_real_name config.target).mono fun _ =>
    no_send_of_passive
  refine (ends_no_send hresolve (Prog.Yields.anything _)).bind ?_
  rintro target_name _ ⟨-, rfl⟩
  cases target_name with
  | none => exact .not_created
  | some target_name =>
      refine Prog.Ends.perform fun allocated => ?_
      cases allocated with
      | false => exact .not_created
      | true => exact .created rfl

theorem initialize_context_leads {ctx : perf_context} (hrunning : ctx.terminated = false) :
    (initialize_context order ctx).Ends sends (Leads .initializing) [] := by
  have hsets_up := ( sets_up_initialize order ctx).mono fun _ => no_send_of_sets_up
  refine (ends_no_send hsets_up (initialize_terminated ctx)).bind ?_
  rintro initialized _ ⟨hterminated, rfl⟩
  have hrunning' := hterminated.trans hrunning
  by_cases hfailed : initialized.1 ≠ 0
  · rw [if_pos hfailed]
    exact .initialized hrunning'
  · rw [if_neg hfailed]
    have henable : (perf_events_groups_enable initialized.2).Uses NoSend :=
      uses_enable (fun _ _ => syscall.noConfusion) (fun _ _ => syscall.noConfusion) _
    refine (ends_no_send henable (Prog.Yields.anything _)).bind ?_
    rintro _ _ ⟨-, rfl⟩
    exact .initialized hrunning'

theorem handle_tick_leads {ctx : perf_context} (hrunning : ctx.terminated = false)
    (timestamp : Nat) :
    (handle order ctx (.ticker timestamp)).Ends sends (Leads (.populating timestamp)) [] := by
  refine (handle_ticker_ends timestamp).bind ?_
  rintro ctx' sent ⟨hterminated, hticked⟩
  exact .ticked (hterminated.trans hrunning) hticked

theorem handle_term_leads (ctx : perf_context) :
    (handle order ctx (.pipe "$TERM")).Ends sends (Leads .ended) [] :=
  .termed rfl

theorem cleanup_leads (ctx : perf_context) : (cleanup ctx).Ends sends (Leads .ended) [] := by
  refine (ends_no_send (no_send_destroy ctx) (Prog.Yields.anything _)).bind ?_
  rintro _ _ ⟨-, rfl⟩
  exact .left

end Parts

theorem sends_eq (call : syscall) (answer : syscall_answer call) (sent : List payload) :
    sends call answer sent = sent ++ (sent_by call).toList := by
  cases call <;> simp [sends, sent_by]

theorem answered (call : syscall) : Nonempty (syscall_answer call) := by
  cases call <;> unfold syscall_answer <;> infer_instance

-- Only a tick sends, and only once.
theorem Leads.sent_once {phase : perf_phase} {point : perf_point} {p : payload}
    {more : List payload} (h : Leads phase point (p :: more)) :
    phase = .populating p.timestamp ∧ Leads .top point more := by
  cases h with
  | ticked hrunning hticked =>
      cases hticked with
      | sent _ htimestamp => exact ⟨congrArg _ htimestamp.symm, .handled hrunning⟩

-- A call in a part sends nothing, or it is the one that sends the report of a tick.
theorem call_leads {phase : perf_phase} {call : syscall}
    {next : syscall_answer call → program perf_point}
    (h : (Prog.call call next).Ends sends (Leads phase) []) (answer : syscall_answer call) :
    sent_by call = none ∧ (next answer).Ends sends (Leads phase) [] ∨
      ∃ p, sent_by call = some p ∧ phase = .populating p.timestamp ∧
        (next answer).Ends sends (Leads .top) [] := by
  rcases h.after_call sends_eq answered answer with hsilent | ⟨p, hsent, hpossible, hnext⟩
  · exact .inl hsilent
  · obtain ⟨_, _, hpoint⟩ := hpossible
    exact .inr ⟨p, hsent, hpoint.sent_once.1, hnext.mono fun _ _ h => h.sent_once.2⟩

-- An ended actor never looks at its sockets again.
structure PerfRepresents (c : perf_actor) (a : perf_process) : Prop where
  kind : c.kind = a.kind
  phase : HasPhase c.code a.phase
  unsubscribed : a.phase = .starting → c.ticker = none ∧ a.ticks = []
  subscribed : a.phase ≠ .starting → a.phase ≠ .ended → c.ticker = some a.ticks
  term : a.phase ≠ .ended → (c.pipe ≠ [] ↔ a.term = true)
  commands : ∀ command ∈ c.pipe, command = "$TERM"

namespace PerfRepresents

variable {c : perf_actor} {a : perf_process} {code : perf_code} {phase : perf_phase}

theorem stays (h : PerfRepresents c a) (hcode : HasPhase code a.phase) :
    PerfRepresents { c with code := code } a :=
  { h with phase := hcode }

theorem moves (h : PerfRepresents c a) (hbefore : a.phase ≠ .starting ∧ a.phase ≠ .ended)
    (hafter : phase ≠ .starting) (hcode : HasPhase code phase) :
    PerfRepresents { c with code := code } { a with phase := phase } :=
  { h with
    phase := hcode
    unsubscribed := fun hstarting => absurd hstarting hafter
    subscribed := fun _ _ => h.subscribed hbefore.1 hbefore.2
    term := fun _ => h.term hbefore.2 }

theorem ends (h : PerfRepresents c a) (hcode : HasPhase code .ended) :
    PerfRepresents { c with code := code } { a with phase := .ended } :=
  { h with
    phase := hcode
    unsubscribed := fun hstarting => absurd hstarting (by simp)
    subscribed := fun _ hended => absurd rfl hended
    term := fun hended => absurd rfl hended }

end PerfRepresents

def report_by (sent : Nat × payload) : report :=
  ⟨sent.1, sent.2.timestamp⟩

-- Each call of an actor's code is one of its model's steps, or none.
theorem perf_code_step_simulated {order : hash_order} {interrupted : Bool} {c c' : perf_actor}
    {a : perf_process} {sent : Option payload} (i : Nat) (h : PerfRepresents c a)
    (hstep : PerfCodeStep order interrupted c sent c') :
    sent = none ∧ PerfRepresents c' a ∨
      ∃ a', PerfStep interrupted i a (sent.map fun p => report_by (i, p)) a' ∧
        PerfRepresents c' a' := by
  obtain ⟨kind, phase, ticks, term⟩ := a
  have hphase : HasPhase c.code phase := h.phase
  cases hstep with
  | call answer hcode =>
      rw [hcode] at hphase
      cases hphase with
      | running hleads =>
          rcases call_leads hleads answer with ⟨hsent, hnext⟩ | ⟨p, hsent, rfl, hnext⟩
          · exact .inl ⟨hsent, h.stays (.running hnext)⟩
          · rw [hsent]
            exact .inr ⟨_, .populated rfl, h.moves (by simp) (by simp) (.running hnext)⟩
  | created hcode =>
      rw [hcode] at hphase
      obtain ⟨hleads⟩ := hphase
      obtain _ | hrunning := hleads
      refine .inr ⟨_, .create rfl, ?_⟩
      exact
        { h with
          phase := .running (initialize_context_leads hrunning)
          unsubscribed := fun hphase => absurd hphase (by simp)
          subscribed := fun _ _ => congrArg some (h.unsubscribed rfl).2.symm
          term := fun _ => h.term (by simp) }
  | not_created hcode =>
      rw [hcode] at hphase
      obtain ⟨⟨⟩⟩ := hphase
      exact .inr ⟨_, .unresolved rfl, h.ends .ended⟩
  | initialized hcode =>
      rw [hcode] at hphase
      obtain ⟨hleads⟩ := hphase
      obtain _ | _ | hrunning := hleads
      exact .inr ⟨_, .initialized rfl, h.moves (by simp) (by simp) (.top hrunning)⟩
  | not_initialized hcode =>
      rw [hcode] at hphase
      obtain ⟨⟨⟩⟩ := hphase
      exact .inr ⟨_, .not_initialized rfl, h.ends (.running (cleanup_leads _))⟩
  | handled hcode =>
      rw [hcode] at hphase
      cases hphase with
      | running hleads =>
          cases hleads with
          | handled hrunning => exact .inl ⟨rfl, h.stays (.top hrunning)⟩
          | ticked hrunning _ =>
              exact .inr ⟨_, .not_populated rfl, h.moves (by simp) (by simp) (.top hrunning)⟩
          | termed hterminated => exact .inl ⟨rfl, h.stays (.termed hterminated)⟩
  | left hcode =>
      rw [hcode] at hphase
      obtain ⟨⟨⟩⟩ := hphase
      exact .inl ⟨rfl, h.stays .ended⟩
  | loop_ends hcode hterminated =>
      rw [hcode] at hphase
      obtain rfl := hphase.of_terminated hterminated
      exact .inl ⟨rfl, h.stays (.running (cleanup_leads _))⟩
  | wait hcode hrunning hgo =>
      rw [hcode] at hphase
      obtain rfl := hphase.of_running hrunning
      exact .inr ⟨_, .wait rfl hgo, h.moves (by simp) (by simp) (.waiting hrunning)⟩
  | terminated hcode hstop =>
      refine .inr ⟨_, .terminated ?_ hstop, h.ends (.running (cleanup_leads _))⟩
      rcases hcode with ⟨hcode, hrunning⟩ | hcode
      · rw [hcode] at hphase
        exact .inl (hphase.of_running hrunning)
      · rw [hcode] at hphase
        obtain ⟨⟩ := hphase
        exact .inr rfl
  | @handle_pipe ctx command pipe hcode hpipe =>
      rw [hcode] at hphase
      obtain ⟨⟩ := hphase
      have hcommands := h.commands
      rw [hpipe] at hcommands
      obtain rfl : command = "$TERM" := hcommands command List.mem_cons_self
      have hterm : term = true := (h.term (by simp)).mp (by simp [hpipe])
      have hleads : (handle order ctx (.pipe "$TERM")).Ends sends (Leads .ended) [] :=
        handle_term_leads ctx
      have hended := h.ends (.running hleads)
      refine .inr ⟨_, .handle_pipe rfl hterm, ?_⟩
      exact
        { hended with
          term := fun hended => absurd rfl hended
          commands := fun other hother => hcommands other (List.mem_cons_of_mem _ hother) }
  | @handle_ticker ctx timestamp rest hcode hticker =>
      rw [hcode] at hphase
      obtain _ | _ | _ | hrunning := hphase
      have hticks : ticks = timestamp :: rest := by
        have hsubscribed := h.subscribed (by simp) (by simp)
        rw [hticker] at hsubscribed
        exact (Option.some.inj hsubscribed).symm
      refine .inr ⟨_, .handle_ticker rfl hticks, ?_⟩
      exact
        { h with
          phase := .running (handle_tick_leads hrunning timestamp)
          unsubscribed := fun hphase => absurd hphase (by simp)
          subscribed := fun _ _ => rfl
          term := fun _ => h.term (by simp) }

-- The same for the reporting actor, with the payloads that go to the storage.
inductive ReportingLeads (sender : Option Nat) :
    reporting_phase → reporting_point → List payload → Prop
  | handled {ctx : Report.report_context} (hrunning : ctx.terminated = false) :
      ReportingLeads sender .top (.handled ctx) []
  | stored {i : Nat} {p : payload} {ctx : Report.report_context} (hsender : sender = some i)
      (hrunning : ctx.terminated = false) :
      ReportingLeads sender (.storing (report_by (i, p))) (.handled ctx) [p]
  | termed {ctx : Report.report_context} (hterminated : ctx.terminated = true) :
      ReportingLeads sender .ended (.handled ctx) []
  | left : ReportingLeads sender .ended .left []

def hands_over (call : Report.report_call) (_ : Report.report_answer call)
    (stored : List payload) : List payload :=
  stored ++ (handed_over call).toList

inductive HasReportingPhase : reporting_code → reporting_phase → Prop
  | running {sender : Option Nat} {rest : Report.program reporting_point} {phase : reporting_phase}
      (hleads : rest.Ends hands_over (ReportingLeads sender phase) []) :
      HasReportingPhase (.running sender rest) phase
  | top {ctx : Report.report_context} (hrunning : ctx.terminated = false) :
      HasReportingPhase (.top ctx) .top
  | termed {ctx : Report.report_context} (hterminated : ctx.terminated = true) :
      HasReportingPhase (.top ctx) .ended
  | waiting {ctx : Report.report_context} (hrunning : ctx.terminated = false) :
      HasReportingPhase (.waiting ctx) .waiting
  | ended : HasReportingPhase .ended .ended

namespace HasReportingPhase

variable {ctx : Report.report_context} {phase : reporting_phase}

theorem of_running (h : HasReportingPhase (.top ctx) phase)
    (hrunning : ctx.terminated = false) : phase = .top := by
  cases h with
  | top _ => rfl
  | termed hterminated => exact absurd (hterminated.symm.trans hrunning) (by decide)

theorem of_terminated (h : HasReportingPhase (.top ctx) phase)
    (hterminated : ctx.terminated = true) : phase = .ended := by
  cases h with
  | top hrunning => exact absurd (hterminated.symm.trans hrunning) (by decide)
  | termed _ => rfl

theorem of_ended (h : HasReportingPhase .ended phase) : phase = .ended := by
  cases h with
  | ended => rfl

end HasReportingPhase

theorem handle_report_hands_over (ctx : Report.report_context) (p : payload) :
    (handle_report ctx (.reporting (some p))).Ends hands_over
      (fun point stored => point = .handled ctx ∧ stored = [p]) [] := by
  have hhandles : (Report.handle_reporting (some p)).Ends hands_over
      (fun _ stored => stored = [p]) [] := by
    refine Prog.Ends.perform fun failed => ?_
    split_ifs
    · exact fun _ _ => rfl
    · exact fun _ => rfl
  have hevent : (Report.handle_event ctx (.reporting (some p))).Ends hands_over
      (fun ctx' stored => ctx' = ctx ∧ stored = [p]) [] :=
    hhandles.bind fun _ _ hstored => ⟨rfl, hstored⟩
  refine hevent.bind ?_
  rintro _ _ ⟨rfl, hstored⟩
  exact ⟨rfl, hstored⟩

theorem handle_report_leads {ctx : Report.report_context} (hrunning : ctx.terminated = false)
    (sender : Nat) (p : payload) :
    (handle_report ctx (.reporting (some p))).Ends hands_over
      (ReportingLeads (some sender) (.storing (report_by (sender, p)))) [] := by
  refine (handle_report_hands_over ctx p).mono ?_
  rintro _ _ ⟨rfl, rfl⟩
  exact .stored rfl hrunning

theorem handle_report_term_leads (ctx : Report.report_context) :
    (handle_report ctx (.pipe "$TERM")).Ends hands_over (ReportingLeads none .ended) [] :=
  fun _ => .termed rfl

theorem report_cleanup_leads :
    report_cleanup.Ends hands_over (ReportingLeads none .ended) [] :=
  fun _ => .left

theorem report_answered (call : Report.report_call) : Nonempty (Report.report_answer call) := by
  cases call <;> unfold Report.report_answer <;> infer_instance

-- Only the storage of a payload is of interest, and it comes once.
theorem ReportingLeads.stored_once {sender : Option Nat} {phase : reporting_phase}
    {point : reporting_point} {p : payload} {more : List payload}
    (h : ReportingLeads sender phase point (p :: more)) :
    (∃ i, sender = some i ∧ phase = .storing (report_by (i, p))) ∧
      ReportingLeads sender .top point more := by
  cases h with
  | stored hsender hrunning => exact ⟨⟨_, hsender, rfl⟩, .handled hrunning⟩

theorem report_call_leads {sender : Option Nat} {phase : reporting_phase}
    {call : Report.report_call} {next : Report.report_answer call → Report.program reporting_point}
    (h : (Prog.call call next).Ends hands_over (ReportingLeads sender phase) [])
    (answer : Report.report_answer call) :
    handed_over call = none ∧ (next answer).Ends hands_over (ReportingLeads sender phase) [] ∨
      ∃ i p, handed_over call = some p ∧ sender = some i ∧
        phase = .storing (report_by (i, p)) ∧
        (next answer).Ends hands_over (ReportingLeads sender .top) [] := by
  rcases h.after_call (fun _ _ _ => rfl) report_answered answer with
    hsilent | ⟨p, hstored, hpossible, hnext⟩
  · exact .inl hsilent
  · obtain ⟨_, _, hpoint⟩ := hpossible
    obtain ⟨⟨i, hsender, hphase⟩, -⟩ := hpoint.stored_once
    exact .inr ⟨i, p, hstored, hsender, hphase, hnext.mono fun _ _ h => h.stored_once.2⟩

section Lists

variable {α β : Type} {R : α → β → Prop} {xs : List α} {ys : List β}

theorem related_at (h : List.Forall₂ R xs ys) {i : Nat} {x : α} (hx : xs[i]? = some x) :
    ∃ y, ys[i]? = some y ∧ R x y := by
  induction h generalizing i with
  | nil => simp at hx
  | cons hxy _ ih =>
      cases i with
      | zero =>
          obtain rfl := Option.some.inj hx
          exact ⟨_, rfl, hxy⟩
      | succ i => exact ih hx

theorem related_set (h : List.Forall₂ R xs ys) (i : Nat) {x : α} {y : β} (hxy : R x y) :
    List.Forall₂ R (xs.set i x) (ys.set i y) := by
  induction h generalizing i with
  | nil => exact .nil
  | cons hhead htail ih =>
      cases i with
      | zero => exact .cons hxy htail
      | succ i => exact .cons hhead (ih i)

theorem related_mapIdx {f : Nat → α → α} {g : Nat → β → β} (h : List.Forall₂ R xs ys)
    (hfg : ∀ i x y, R x y → R (f i x) (g i y)) :
    List.Forall₂ R (xs.mapIdx f) (ys.mapIdx g) := by
  induction h generalizing f g with
  | nil => exact .nil
  | cons hxy _ ih =>
      rw [List.mapIdx_cons, List.mapIdx_cons]
      exact .cons (hfg 0 _ _ hxy) (ih fun i => hfg (i + 1))

end Lists

-- A process whose actors run their code, and a state and history of the model.
structure Represents (c : coded_process) (s : process) (hist : history) : Prop where
  main : c.main = s.main
  interrupted : c.interrupted = s.interrupted
  deinitialized : c.deinitialized = s.deinitialized
  perf : List.Forall₂ PerfRepresents c.perf s.perf
  channel : s.channel = c.channel.map report_by
  reporting : HasReportingPhase c.reporting s.reporting
  term : s.reporting ≠ .ended → (c.reporting_pipe ≠ [] ↔ s.reporting_term = true)
  commands : ∀ command ∈ c.reporting_pipe, command = "$TERM"
  stored : s.stored = c.stored.map report_by
  ticks : hist.ticks = c.ticks
  pushed : hist.pushed = c.sent.map report_by

theorem reporting_code_step_simulated {c c' : coded_process} {s : process} {hist : history}
    (h : Represents c s hist) (hstep : ReportingCodeStep c c') :
    Represents c' s hist ∨ ∃ s', ReportingStep s s' ∧ Represents c' s' hist := by
  obtain ⟨main, interrupted, deinitialized, perf, channel, phase, term, stored⟩ := s
  have hphase : HasReportingPhase c.reporting phase := h.reporting
  cases hstep with
  | call answer hcode =>
      rw [hcode] at hphase
      obtain ⟨hleads⟩ := hphase
      rcases report_call_leads hleads answer with
        ⟨hstored, hnext⟩ | ⟨i, p, hstored, rfl, rfl, hnext⟩
      · refine .inl { h with reporting := .running hnext, stored := ?_ }
        rw [stored_by, hstored]
        exact h.stored.trans (congrArg _ (List.append_nil _).symm)
      · refine .inr ⟨_, .stored rfl, ?_⟩
        refine
          { h with
            reporting := .running hnext
            term := fun _ => h.term (by simp)
            stored := ?_ }
        rw [stored_by, hstored, List.map_append, ← h.stored]
        rfl
  | handled hcode =>
      rw [hcode] at hphase
      obtain ⟨hleads⟩ := hphase
      cases hleads with
      | handled hrunning => exact .inl { h with reporting := .top hrunning }
      | termed hterminated => exact .inl { h with reporting := .termed hterminated }
  | left hcode =>
      rw [hcode] at hphase
      obtain ⟨⟨⟩⟩ := hphase
      exact .inl { h with reporting := .ended }
  | loop_ends hcode hterminated =>
      rw [hcode] at hphase
      obtain rfl := hphase.of_terminated hterminated
      exact .inl { h with reporting := .running report_cleanup_leads }
  | wait hcode hrunning hgo =>
      rw [hcode] at hphase
      obtain rfl := hphase.of_running hrunning
      refine .inr ⟨_, .wait rfl (h.interrupted.symm.trans hgo), ?_⟩
      exact { h with reporting := .waiting hrunning, term := fun _ => h.term (by simp) }
  | terminated hcode hstop =>
      refine .inr ⟨_, .terminated ?_ (h.interrupted.symm.trans hstop), ?_⟩
      · rcases hcode with ⟨hcode, hrunning⟩ | hcode
        · rw [hcode] at hphase
          exact .inl (hphase.of_running hrunning)
        · rw [hcode] at hphase
          obtain ⟨⟩ := hphase
          exact .inr rfl
      · exact
          { h with
            reporting := .running report_cleanup_leads
            term := fun hended => absurd rfl hended }
  | @handle_pipe ctx command pipe hcode hpipe =>
      rw [hcode] at hphase
      obtain ⟨⟩ := hphase
      have hcommands := h.commands
      rw [hpipe] at hcommands
      obtain rfl : command = "$TERM" := hcommands command List.mem_cons_self
      have hterm : term = true := (h.term (by simp)).mp (by simp [hpipe])
      refine .inr ⟨_, .handle_pipe rfl hterm, ?_⟩
      exact
        { h with
          reporting := .running (handle_report_term_leads ctx)
          term := fun hended => absurd rfl hended
          commands := fun other hother => hcommands other (List.mem_cons_of_mem _ hother) }
  | @handle_reporting ctx sender received earlier later hcode hchannel hfirst =>
      rw [hcode] at hphase
      obtain _ | _ | _ | hrunning := hphase
      have hreports : channel =
          earlier.map report_by ++ report_by (sender, received) :: later.map report_by := by
        have hmap := h.channel
        rw [hchannel, List.map_append, List.map_cons] at hmap
        exact hmap
      have hfirst_report : ∀ other ∈ earlier.map report_by, other.actor ≠ sender := by
        intro other hother
        obtain ⟨sent, hsent, rfl⟩ := List.mem_map.mp hother
        exact hfirst sent hsent
      refine .inr ⟨_, .handle_reporting rfl hreports hfirst_report, ?_⟩
      exact
        { h with
          channel := List.map_append.symm
          reporting := .running (handle_report_leads hrunning sender received)
          term := fun _ => h.term (by simp) }

-- `zactor_destroy` is the only one that sends commands.
theorem only_term {pipe : List String} (h : ∀ command ∈ pipe, command = "$TERM") :
    ∀ command ∈ pipe ++ ["$TERM"], command = "$TERM" := by
  intro command hcommand
  rcases List.mem_append.mp hcommand with hold | hnew
  · exact h command hold
  · exact List.mem_singleton.mp hnew

namespace PerfRepresents

variable {c : perf_actor} {a : perf_process}

theorem create (kind : perf_kind) (config : perf_config) :
    PerfRepresents (.create kind config) ⟨kind, .starting, [], false⟩ where
  kind := rfl
  phase := .running (create_context_leads config)
  unsubscribed _ := ⟨rfl, rfl⟩
  subscribed hstarting := absurd rfl hstarting
  term _ := by simp [perf_actor.create]
  commands := by simp [perf_actor.create]

theorem ended (h : PerfRepresents c a) (hended : c.code = .ended) : a.phase = .ended := by
  have hphase := h.phase
  rw [hended] at hphase
  exact hphase.of_ended

theorem destroy (h : PerfRepresents c a) :
    PerfRepresents (zactor_destroy c) { a with term := true } :=
  { h with
    term := fun _ => by simp [zactor_destroy]
    commands := only_term h.commands }

theorem publish (h : PerfRepresents c a) (timestamp : Nat) (reached : Bool) :
    PerfRepresents (c.publish timestamp reached) (a.publish timestamp reached) := by
  obtain ⟨kind, phase, ticks, term⟩ := a
  unfold perf_actor.publish perf_process.publish
  cases reached with
  | false => simpa using h
  | true =>
      by_cases hsubscribed : phase ≠ .starting ∧ phase ≠ .ended
      · have hticker := h.subscribed hsubscribed.1 hsubscribed.2
        rw [if_pos rfl, if_pos ⟨rfl, hsubscribed⟩, hticker]
        exact
          { h with
            unsubscribed := fun hstarting => absurd hstarting hsubscribed.1
            subscribed := fun _ _ => rfl }
      · rw [if_pos rfl, if_neg fun hall => hsubscribed hall.2]
        refine { h with unsubscribed := fun hstarting => ?_, subscribed := fun hnot hgo => ?_ }
        · obtain ⟨hticker, hticks⟩ := h.unsubscribed hstarting
          exact ⟨by rw [hticker]; rfl, hticks⟩
        · exact absurd ⟨hnot, hgo⟩ hsubscribed

end PerfRepresents

-- The steps that one actor takes for itself.
def action.of_actor : action → Bool
  | perf _ | reporting => true
  | _ => false

theorem coded_step_simulated {order : hash_order} {c c' : coded_process}
    {t : process × history} {label : action} (h : Represents c t.1 t.2)
    (hstep : CodedStep order c label c') :
    label.of_actor = true ∧ Represents c' t.1 t.2 ∨
      ∃ t', TracedStep t label t' ∧ Represents c' t'.1 t'.2 := by
  obtain ⟨s, hist⟩ := t
  cases hstep with
  | check hmain =>
      have hcheck := ProcessStep.check (h.main.symm.trans hmain)
      refine .inr ⟨_, .silent hcheck nofun nofun, ?_⟩
      exact { h with main := by rw [h.interrupted] }
  | start_container hmain config =>
      have hstart := ProcessStep.start_container (h.main.symm.trans hmain)
      refine .inr ⟨_, .silent hstart nofun nofun, ?_⟩
      exact { h with perf := List.rel_append h.perf (.cons (.create .container config) .nil) }
  | stop_container hmain hactor hkind =>
      obtain ⟨a, ha, hrep⟩ := related_at h.perf hactor
      have hstop := ProcessStep.stop_container (h.main.symm.trans hmain) ha
        (hrep.kind.symm.trans hkind)
      refine .inr ⟨_, .silent hstop nofun nofun, ?_⟩
      exact { h with main := rfl, perf := related_set h.perf _ hrep.destroy }
  | stopped hmain hactor hended =>
      obtain ⟨a, ha, hrep⟩ := related_at h.perf hactor
      have hstopped := ProcessStep.stopped (h.main.symm.trans hmain) ha (hrep.ended hended)
      exact .inr ⟨_, .silent hstopped nofun nofun, { h with main := rfl }⟩
  | synced hmain =>
      have hsynced := ProcessStep.synced (h.main.symm.trans hmain)
      exact .inr ⟨_, .silent hsynced nofun nofun, { h with main := rfl }⟩
  | tick hmain timestamp reached =>
      refine .inr ⟨_, .tick (h.main.symm.trans hmain) timestamp reached, ?_⟩
      have hpublish := related_mapIdx h.perf fun i _ _ hrep => hrep.publish timestamp (reached i)
      exact { h with main := rfl, perf := hpublish, ticks := by rw [h.ticks] }
  | deinit hmain =>
      have hdeinit := ProcessStep.deinit (h.main.symm.trans hmain)
      exact .inr ⟨_, .silent hdeinit nofun nofun, { h with main := rfl, deinitialized := rfl }⟩
  | destroy hmain hactor hkind =>
      obtain ⟨a, ha, hrep⟩ := related_at h.perf hactor
      have hdestroy := ProcessStep.destroy (h.main.symm.trans hmain) ha
        (hrep.kind.symm.trans hkind)
      refine .inr ⟨_, .silent hdestroy nofun nofun, ?_⟩
      exact { h with main := rfl, perf := related_set h.perf _ hrep.destroy }
  | destroyed hmain hactor hended =>
      obtain ⟨a, ha, hrep⟩ := related_at h.perf hactor
      have hdestroyed := ProcessStep.destroyed (h.main.symm.trans hmain) ha (hrep.ended hended)
      exact .inr ⟨_, .silent hdestroyed nofun nofun, { h with main := rfl }⟩
  | @next_kind kind hmain hall =>
      have hall_ended : ∀ a ∈ s.perf, a.kind = kind → a.phase = .ended := by
        intro a ha hkind
        obtain ⟨i, hi⟩ := List.mem_iff_getElem?.mp ha
        obtain ⟨actor, hactor, hrep⟩ := related_at h.perf.flip hi
        exact hrep.ended (hall actor (List.mem_of_getElem? hactor) (hrep.kind.trans hkind))
      have hnext := ProcessStep.next_kind (h.main.symm.trans hmain) hall_ended
      refine .inr ⟨_, .silent hnext nofun nofun, ?_⟩
      cases kind <;> exact { h with main := rfl }
  | destroy_reporting hmain =>
      have hdestroy := ProcessStep.destroy_reporting (h.main.symm.trans hmain)
      refine .inr ⟨_, .silent hdestroy nofun nofun, ?_⟩
      have hterm : c.reporting_pipe ++ ["$TERM"] ≠ [] ↔ true = true := by simp
      exact { h with main := rfl, term := fun _ => hterm, commands := only_term h.commands }
  | finish hmain hended =>
      have hreporting : s.reporting = .ended := by
        have hphase := h.reporting
        rw [hended] at hphase
        exact hphase.of_ended
      have hfinish := ProcessStep.finish (h.main.symm.trans hmain) hreporting
      exact .inr ⟨_, .silent hfinish nofun nofun, { h with main := rfl }⟩
  | interrupt => exact .inr ⟨_, .silent .interrupt nofun nofun, { h with interrupted := rfl }⟩
  | @perf i actor actor' sent hactor hstep =>
      obtain ⟨a, ha, hrep⟩ := related_at h.perf hactor
      rw [h.interrupted] at hstep
      rcases perf_code_step_simulated i hrep hstep with ⟨rfl, hrep'⟩ | ⟨a', hstep', hrep'⟩
      · have hperf := related_set h.perf i hrep'
        have hset : s.perf.set i a = s.perf := by
          obtain ⟨hi, rfl⟩ := List.getElem?_eq_some_iff.mp ha
          exact List.set_getElem_self hi
        rw [hset] at hperf
        have hkeeps : ∀ reports : List (Nat × payload),
            (reports ++ (none.map (i, ·)).toList).map report_by = reports.map report_by :=
          fun reports => congrArg _ (List.append_nil reports)
        refine .inl ⟨rfl, ?_⟩
        exact
          { h with
            perf := hperf
            channel := h.channel.trans (hkeeps _).symm
            pushed := h.pushed.trans (hkeeps _).symm }
      · have hadds : ∀ reports : List (Nat × payload),
            (reports ++ (sent.map (i, ·)).toList).map report_by =
              reports.map report_by ++ (sent.map fun p => report_by (i, p)).toList := by
          intro reports
          rw [List.map_append]
          cases sent <;> rfl
        refine .inr ⟨_, .perf ha hstep', ?_⟩
        exact
          { h with
            perf := related_set h.perf i hrep'
            channel := by rw [hadds, h.channel]
            pushed := by rw [hadds, h.pushed] }
  | reporting hstep =>
      rcases reporting_code_step_simulated h hstep with hsilent | ⟨s', hstep', hrep⟩
      · exact .inl ⟨rfl, hsilent⟩
      · exact .inr ⟨(s', hist), .silent (.reporting hstep') nofun nofun, hrep⟩

theorem represents_start (system : Option perf_config) :
    Represents (.start system) (traced_start system.isSome).1 (traced_start system.isSome).2 where
  main := rfl
  interrupted := rfl
  deinitialized := rfl
  perf := by
    cases system with
    | none => exact .nil
    | some config => exact .cons (.create .system config) .nil
  channel := rfl
  reporting := .top rfl
  term _ := by simp [coded_process.start, traced_start, process.start]
  commands := by simp [coded_process.start]
  stored := rfl
  ticks := rfl
  pushed := rfl

-- Whatever the calls of the actors answer, and however they interleave, what the
-- process does is what the model does in one of its runs, with the same steps of
-- `main` in the same order.
theorem coded_process_refines {order : hash_order} {system : Option perf_config}
    {labels : List action} {c : coded_process}
    (hrun : Run (CodedStep order) (.start system) labels c) :
    ∃ labels' t, Run TracedStep (traced_start system.isSome) labels' t ∧
      Represents c t.1 t.2 ∧ labels'.Sublist labels ∧
      labels'.filter (!action.of_actor ·) = labels.filter (!action.of_actor ·) :=
  hrun.simulated (fun c (t : process × history) => Represents c t.1 t.2) action.of_actor
    (represents_start system) fun _ _ _ _ h hstep => coded_step_simulated h hstep

section One

variable {c : coded_process} {actor : perf_actor}

-- The calls of the first actor in a run with one report.
theorem allocates {next : Bool → program perf_point} (hactor : c.perf[0]? = some actor)
    (hcode : actor.code = .running (.call .malloc next)) :
    CodedStep in_order c (.perf 0)
      { c.set_perf 0 { actor with code := .running (next true) } with
        channel := c.channel ++ [], sent := c.sent ++ [] } :=
  .perf hactor (@PerfCodeStep.call in_order c.interrupted actor .malloc next true hcode)

theorem sends_report {p : payload} {next : Unit → program perf_point}
    (hactor : c.perf[0]? = some actor)
    (hcode : actor.code = .running (.call (.send p) next)) :
    CodedStep in_order c (.perf 0)
      { c.set_perf 0 { actor with code := .running (next ()) } with
        channel := c.channel ++ [(0, p)], sent := c.sent ++ [(0, p)] } :=
  .perf hactor (@PerfCodeStep.call in_order c.interrupted actor (.send p) next () hcode)

end One

def no_groups : perf_config := ⟨⟨[]⟩, [], ⟨.ALL, none, none⟩, 0⟩

def first_payload : payload := payload_create 1000 "all"

theorem first_payload_sent :
    ∃ labels actor, Run (CodedStep in_order) (.start (some no_groups)) labels
      { coded_process.start (some no_groups) with
        perf := [actor], channel := [(0, first_payload)], ticks := [1000],
        sent := [(0, first_payload)] } := by
  have hresolved : Run (CodedStep in_order) (.start (some no_groups)) _ _ :=
    .single (allocates rfl rfl)
  have hcreated := (hresolved.snoc (allocates rfl rfl)).snoc
    (.perf (i := 0) rfl (.created rfl))
  have hready := (hcreated.snoc (.perf (i := 0) rfl (.initialized rfl))).snoc
    (.perf (i := 0) rfl (.wait rfl rfl rfl))
  have hticked := ((hready.snoc (.check rfl)).snoc (.synced rfl)).snoc
    (.tick rfl 1000 fun _ => true)
  have htaken := hticked.snoc (.perf (i := 0) rfl (.handle_ticker rfl rfl))
  have hallocated := htaken.snoc (allocates rfl rfl)
  have hsend := hallocated.snoc (sends_report rfl rfl)
  exact ⟨_, _, hsend⟩

theorem coded_process_refines_one :
    ∃ labels labels' t, Run TracedStep (traced_start true) labels' t ∧
      t.1.channel = [⟨0, 1000⟩] ∧ labels'.Sublist labels ∧
      labels'.filter (!action.of_actor ·) = labels.filter (!action.of_actor ·) := by
  obtain ⟨labels, actor, hsent⟩ := first_payload_sent
  obtain ⟨labels', t, hrun, hrep, hlabels⟩ := coded_process_refines hsent
  exact ⟨labels, labels', t, hrun, hrep.channel, hlabels⟩

end HwpcSensor.Sensor.Shutdown
