import HwpcSensor.Sensor.Shutdown.Theorems

namespace HwpcSensor.Sensor.Shutdown

open Transition

-- What has happened so far: the clock ticks of `main` and the reports pushed to
-- `inproc://reporting`, in their order.
structure history where
  ticks : List Nat
  pushed : List report

-- The steps of the process, with what they add to its history.
inductive TracedStep : process × history → action → process × history → Prop
  | tick {s : process} {h : history} (hmain : s.main = .ticking) (timestamp : Nat)
      (reached : Nat → Bool) :
      TracedStep (s, h) .tick
        ({ s with
            main := .checking
            perf := s.perf.mapIdx fun i => perf_process.publish timestamp (reached i) },
          { h with ticks := h.ticks ++ [timestamp] })
  | perf {s : process} {h : history} {i : Nat} {actor actor' : perf_process}
      {pushed : Option report} (hactor : s.perf[i]? = some actor)
      (hstep : PerfStep s.interrupted i actor pushed actor') :
      TracedStep (s, h) (.perf i)
        ({ s.set_perf i actor' with channel := s.channel ++ pushed.toList },
          { h with pushed := h.pushed ++ pushed.toList })
  | silent {s s' : process} {h : history} {label : action} (hstep : ProcessStep s label s')
      (htick : label ≠ .tick) (hperf : ∀ i, label ≠ .perf i) :
      TracedStep (s, h) label (s', h)

def traced_start (system_groups : Bool) : process × history :=
  (process.start system_groups, ⟨[], []⟩)

theorem TracedStep.process_step {t t' : process × history} {label : action}
    (hstep : TracedStep t label t') : ProcessStep t.1 label t'.1 := by
  cases hstep with
  | tick hmain timestamp reached => exact .tick hmain timestamp reached
  | perf hactor hstep => exact .perf hactor hstep
  | silent hstep htick hperf => exact hstep

theorem exists_traced_step {s s' : process} {label : action} (hstep : ProcessStep s label s')
    (h : history) : ∃ h', TracedStep (s, h) label (s', h') := by
  by_cases htick : label = .tick
  · subst htick
    cases hstep with
    | tick hmain timestamp reached => exact ⟨_, .tick hmain timestamp reached⟩
  · by_cases hperf : ∃ i, label = .perf i
    · obtain ⟨i, rfl⟩ := hperf
      cases hstep with
      | perf hactor hstep => exact ⟨_, .perf hactor hstep⟩
    · exact ⟨h, .silent hstep htick (not_exists.mp hperf)⟩

theorem exists_traced_run {s s' : process} {labels : List action}
    (hrun : Run ProcessStep s labels s') (h : history) :
    ∃ h', Run TracedStep (s, h) labels (s', h') := by
  induction hrun with
  | nil => exact ⟨h, .nil⟩
  | snoc _ hstep ih =>
      obtain ⟨h₁, hbefore⟩ := ih
      obtain ⟨h₂, hafter⟩ := exists_traced_step hstep h₁
      exact ⟨h₂, hbefore.snoc hafter⟩

-- The reports of one actor.
def reports_of (i : Nat) (reports : List report) : List report :=
  reports.filter fun r => r.actor = i

@[simp] theorem reports_of_append (i : Nat) (reports more : List report) :
    reports_of i (reports ++ more) = reports_of i reports ++ reports_of i more :=
  List.filter_append ..

theorem reports_of_eq_nil {i : Nat} {reports : List report}
    (h : ∀ r ∈ reports, r.actor ≠ i) : reports_of i reports = [] :=
  List.filter_eq_nil_iff.mpr fun r hr => by simpa using h r hr

theorem reports_of_eq_self {i : Nat} {reports : List report}
    (h : ∀ r ∈ reports, r.actor = i) : reports_of i reports = reports :=
  List.filter_eq_self.mpr fun r hr => by simpa using h r hr

-- The reports passed to `storage_module_store_report`, the one it works on last.
def passed (s : process) : List report :=
  s.stored ++ match s.reporting with
    | .storing payload => [payload]
    | .top | .waiting | .ended => []

-- The ticks that an actor has got and not yet answered.
def perf_process.unanswered (actor : perf_process) : List Nat :=
  (match actor.phase with
    | .populating timestamp => [timestamp]
    | .starting | .initializing | .top | .waiting | .ended => []) ++ actor.ticks

-- Every report pushed has been stored once, in the order of the ticks.
def Delivered (s : process) (h : history) : Prop :=
  ∀ i, reports_of i s.stored = reports_of i h.pushed ∧
    ((reports_of i s.stored).map report.timestamp).Sublist h.ticks

-- Each report pushed is in the socket or has been passed on, and an actor answers
-- its ticks in order.
structure Traced (s : process) (h : history) : Prop where
  accounted : ∀ i, reports_of i (passed s) ++ reports_of i s.channel = reports_of i h.pushed
  pushed : ∀ i, ((reports_of i h.pushed).map report.timestamp).Sublist h.ticks
  ordered : ∀ i actor, s.perf[i]? = some actor →
    ((reports_of i h.pushed).map report.timestamp ++ actor.unanswered).Sublist h.ticks

theorem traced_at_start (system_groups : Bool) :
    Traced (traced_start system_groups).1 (traced_start system_groups).2 := by
  refine ⟨fun i => rfl, fun i => List.nil_sublist _, fun i actor hactor => ?_⟩
  cases system_groups with
  | false => simp [traced_start, process.start] at hactor
  | true =>
      obtain ⟨-, rfl⟩ := by
        simpa [traced_start, process.start, List.getElem?_singleton] using hactor
      exact List.nil_sublist _

-- A perf actor answers the tick that it took from its socket, if it answers at all.
theorem perf_step_answers {interrupted : Bool} {i : Nat} {actor actor' : perf_process}
    {pushed : Option report} (hstep : PerfStep interrupted i actor pushed actor') :
    (∀ r ∈ pushed.toList, r.actor = i) ∧
      (pushed.toList.map report.timestamp ++ actor'.unanswered).Sublist actor.unanswered := by
  cases hstep with
  | create hphase => simp [perf_process.unanswered, hphase]
  | unresolved hphase => simp [perf_process.unanswered, hphase]
  | not_initialized hphase => simp [perf_process.unanswered, hphase]
  | initialized hphase => simp [perf_process.unanswered, hphase]
  | wait hphase hgo => simp [perf_process.unanswered, hphase]
  | terminated hphase hstop =>
      rcases hphase with hphase | hphase <;> simp [perf_process.unanswered, hphase]
  | handle_pipe hphase hterm => simp [perf_process.unanswered, hphase]
  | handle_ticker hphase hticks => simp [perf_process.unanswered, hphase, hticks]
  | populated hphase => simp [perf_process.unanswered, hphase]
  | not_populated hphase => simp [perf_process.unanswered, hphase]

theorem publish_unanswered (timestamp : Nat) (reached : Bool) (actor : perf_process) :
    (actor.publish timestamp reached).unanswered.Sublist (actor.unanswered ++ [timestamp]) := by
  unfold perf_process.publish
  split
  · simp [perf_process.unanswered]
  · exact List.sublist_append_left _ _

theorem reporting_step_accounted {s s' : process} (hstep : ReportingStep s s') (i : Nat) :
    reports_of i (passed s') ++ reports_of i s'.channel =
      reports_of i (passed s) ++ reports_of i s.channel := by
  cases hstep with
  | wait hphase hgo => simp [passed, hphase]
  | terminated hphase hstop => rcases hphase with hphase | hphase <;> simp [passed, hphase]
  | handle_pipe hphase hterm => simp [passed, hphase]
  | @handle_reporting payload earlier later hphase hchannel hfirst =>
      have hsplit : s.channel = earlier ++ ([payload] ++ later) := hchannel
      by_cases hactor : payload.actor = i
      · have hearlier : reports_of i earlier = [] :=
          reports_of_eq_nil fun other hother => hactor ▸ hfirst other hother
        simp only [passed, hphase, hsplit, reports_of_append, hearlier]
        simp [reports_of]
      · have hother : reports_of i [payload] = [] := reports_of_eq_nil (by simpa using hactor)
        simp only [passed, hphase, hsplit, reports_of_append, hother]
        simp [reports_of]
  | stored hphase => simp [passed, hphase]

theorem reporting_step_perf {s s' : process} (hstep : ReportingStep s s') :
    s'.perf = s.perf := by
  cases hstep <;> rfl

-- The steps of `main` that neither push nor answer anything.
theorem Traced.frame {s s' : process} {h : history} (ht : Traced s h)
    (hchannel : s'.channel = s.channel) (hpassed : passed s' = passed s)
    (hperf : ∀ (i : Nat) (actor' : perf_process), s'.perf[i]? = some actor' →
      actor'.unanswered = [] ∨
        ∃ actor, s.perf[i]? = some actor ∧ actor'.unanswered = actor.unanswered) :
    Traced s' h := by
  refine ⟨fun i => ?_, ht.pushed, fun i actor' hactor' => ?_⟩
  · rw [hchannel, hpassed]
    exact ht.accounted i
  · rcases hperf i actor' hactor' with hempty | ⟨actor, hactor, hsame⟩
    · rw [hempty, List.append_nil]
      exact ht.pushed i
    · rw [hsame]
      exact ht.ordered i actor hactor

-- `$TERM` in its pipe changes nothing else about an actor.
theorem terminated_at {perf : List perf_process} {i : Nat} {actor : perf_process}
    (hactor : perf[i]? = some actor) {j : Nat} {other : perf_process}
    (hother : (perf.set i { actor with term := true })[j]? = some other) :
    ∃ before, perf[j]? = some before ∧ other.phase = before.phase ∧
      other.ticks = before.ticks := by
  by_cases hji : i = j
  · subst hji
    rw [List.getElem?_set_self (List.getElem?_eq_some_iff.mp hactor).1] at hother
    obtain rfl := Option.some.inj hother
    exact ⟨actor, hactor, rfl, rfl⟩
  · rw [List.getElem?_set_ne hji] at hother
    exact ⟨other, hother, rfl, rfl⟩

theorem Traced.tick {s : process} {h : history} (ht : Traced s h) (timestamp : Nat)
    (reached : Nat → Bool) :
    Traced
      { s with
        main := .checking
        perf := s.perf.mapIdx fun i => perf_process.publish timestamp (reached i) }
      { h with ticks := h.ticks ++ [timestamp] } := by
  refine ⟨ht.accounted, fun i => (ht.pushed i).trans (List.sublist_append_left _ _), ?_⟩
  intro i actor' hactor'
  rw [List.getElem?_mapIdx] at hactor'
  obtain ⟨actor, hactor, rfl⟩ := Option.map_eq_some_iff.mp hactor'
  have hgot := publish_unanswered timestamp (reached i) actor
  refine ((List.Sublist.refl _).append hgot).trans ?_
  rw [← List.append_assoc]
  exact (ht.ordered i actor hactor).append (List.Sublist.refl _)

theorem Traced.perf {s : process} {h : history} (ht : Traced s h) {i : Nat}
    {actor actor' : perf_process} {pushed : Option report} (hactor : s.perf[i]? = some actor)
    (hstep : PerfStep s.interrupted i actor pushed actor') :
    Traced { s.set_perf i actor' with channel := s.channel ++ pushed.toList }
      { h with pushed := h.pushed ++ pushed.toList } := by
  obtain ⟨hown, hanswers⟩ := perf_step_answers hstep
  have hours : reports_of i pushed.toList = pushed.toList := reports_of_eq_self hown
  have hnone : ∀ j, i ≠ j → reports_of j pushed.toList = [] := fun j hj =>
    reports_of_eq_nil fun r hr => hown r hr ▸ hj
  have hordered : ((reports_of i h.pushed).map report.timestamp ++
      (pushed.toList.map report.timestamp ++ actor'.unanswered)).Sublist h.ticks :=
    ((List.Sublist.refl _).append hanswers).trans (ht.ordered i actor hactor)
  rw [← List.append_assoc] at hordered
  refine ⟨fun j => ?_, fun j => ?_, fun j other hother => ?_⟩
  · rw [reports_of_append, reports_of_append, ← ht.accounted j, List.append_assoc]
    rfl
  · by_cases hj : i = j
    · subst hj
      rw [reports_of_append, hours, List.map_append]
      exact (List.sublist_append_left _ _).trans hordered
    · rw [reports_of_append, hnone j hj, List.append_nil]
      exact ht.pushed j
  · by_cases hj : i = j
    · subst hj
      have hself : (s.perf.set i actor')[i]? = some other := hother
      rw [List.getElem?_set_self (List.getElem?_eq_some_iff.mp hactor).1] at hself
      obtain rfl := Option.some.inj hself
      rw [reports_of_append, hours, List.map_append]
      exact hordered
    · have hbefore : (s.perf.set i actor')[j]? = some other := hother
      rw [List.getElem?_set_ne hj] at hbefore
      rw [reports_of_append, hnone j hj, List.append_nil]
      exact ht.ordered j other hbefore

theorem Traced.silent {s s' : process} {h : history} {label : action} (ht : Traced s h)
    (hstep : ProcessStep s label s') (htick : label ≠ .tick) (hperf : ∀ i, label ≠ .perf i) :
    Traced s' h := by
  cases hstep with
  | check hmain => exact ht.frame rfl rfl fun i actor hactor => .inr ⟨actor, hactor, rfl⟩
  | start_container hmain =>
      refine ht.frame rfl rfl fun i actor' hactor' => ?_
      by_cases hi : i < s.perf.length
      · exact .inr ⟨actor', (List.getElem?_append_left hi).symm.trans hactor', rfl⟩
      · obtain ⟨-, rfl⟩ := by
          simpa [List.getElem?_append_right (Nat.le_of_not_lt hi), List.getElem?_singleton]
            using hactor'
        exact .inl rfl
  | stop_container hmain hactor hkind =>
      refine ht.frame rfl rfl fun j other hother => .inr ?_
      obtain ⟨before, hbefore, hphase, hticks⟩ := terminated_at hactor hother
      exact ⟨before, hbefore, by simp only [perf_process.unanswered, hphase, hticks]⟩
  | stopped hmain hactor hended =>
      exact ht.frame rfl rfl fun i actor hactor => .inr ⟨actor, hactor, rfl⟩
  | synced hmain => exact ht.frame rfl rfl fun i actor hactor => .inr ⟨actor, hactor, rfl⟩
  | tick hmain timestamp reached => exact absurd rfl htick
  | deinit hmain => exact ht.frame rfl rfl fun i actor hactor => .inr ⟨actor, hactor, rfl⟩
  | destroy hmain hactor hkind =>
      refine ht.frame rfl rfl fun j other hother => .inr ?_
      obtain ⟨before, hbefore, hphase, hticks⟩ := terminated_at hactor hother
      exact ⟨before, hbefore, by simp only [perf_process.unanswered, hphase, hticks]⟩
  | destroyed hmain hactor hended =>
      exact ht.frame rfl rfl fun i actor hactor => .inr ⟨actor, hactor, rfl⟩
  | next_kind hmain hall =>
      exact ht.frame rfl rfl fun i actor hactor => .inr ⟨actor, hactor, rfl⟩
  | destroy_reporting hmain =>
      exact ht.frame rfl rfl fun i actor hactor => .inr ⟨actor, hactor, rfl⟩
  | finish hmain hended =>
      exact ht.frame rfl rfl fun i actor hactor => .inr ⟨actor, hactor, rfl⟩
  | interrupt => exact ht.frame rfl rfl fun i actor hactor => .inr ⟨actor, hactor, rfl⟩
  | perf hactor hstep => exact absurd rfl (hperf _)
  | reporting hstep =>
      refine ⟨fun i => (reporting_step_accounted hstep i).trans (ht.accounted i), ht.pushed, ?_⟩
      rw [reporting_step_perf hstep]
      exact ht.ordered

theorem traced_run {system_groups : Bool} {labels : List action} {t : process × history}
    (hrun : Run TracedStep (traced_start system_groups) labels t) : Traced t.1 t.2 := by
  refine hrun.invariant (fun t => Traced t.1 t.2) (traced_at_start system_groups) ?_
  intro t label t' ht hstep
  cases hstep with
  | tick hmain timestamp reached => exact ht.tick timestamp reached
  | perf hactor hstep => exact ht.perf hactor hstep
  | silent hstep htick hperf => exact ht.silent hstep htick hperf

-- `main` can still send a tick that actor `i` is there to get: it only waits for
-- the end of other actors before.
def main_phase.Awaits (main : main_phase) (i : Nat) : Prop :=
  main = .syncing ∨ main = .ticking ∨ ∃ j, main = .stopping j ∧ j ≠ i

-- No report waits for the reporting actor, and none can follow.
def Drained (s : process) : Prop :=
  s.channel = [] ∧ ∀ i actor, s.perf[i]? = some actor →
    ¬actor.Pending ∧ (actor.phase = .waiting → ¬s.main.Awaits i)

-- The steps of a process whose reporting actor leaves its loop in drained states
-- only.
def DrainedStep (t : process × history) (label : action) (t' : process × history) : Prop :=
  TracedStep t label t' ∧ (t.1.reporting ≠ .ended → t'.1.reporting = .ended → Drained t.1)

-- `main` leaves its loop on an interruption, terminates the reporting actor behind
-- the loop, and returns behind the end of that actor.
structure Stopping (s : process) : Prop where
  left_loop : s.main.in_loop = false → s.interrupted = true
  term : s.reporting_term = true → s.main.in_loop = false
  ended : s.reporting = .ended → s.interrupted = true
  done : s.main = .done → s.reporting = .ended

theorem stopping_start (system_groups : Bool) : Stopping (process.start system_groups) := by
  refine ⟨?_, ?_, ?_, ?_⟩ <;> simp [process.start, main_phase.in_loop]

theorem Stopping.frame {s s' : process} (h : Stopping s)
    (hmain : s'.main.in_loop = false → s'.interrupted = true)
    (hterm : s.main.in_loop = false → s'.main.in_loop = false) (hdone : s'.main ≠ .done)
    (hinterrupted : s'.interrupted = s.interrupted)
    (hreporting : s'.reporting = s.reporting)
    (hreporting_term : s'.reporting_term = s.reporting_term) : Stopping s' := by
  refine ⟨hmain, fun ht => hterm (h.term (hreporting_term ▸ ht)), fun he => ?_, ?_⟩
  · rw [hinterrupted]
    exact h.ended (hreporting ▸ he)
  · exact fun hd => absurd hd hdone

theorem reporting_step_ended {s s' : process} (hstep : ReportingStep s s') :
    s.reporting ≠ .ended ∧ s'.reporting_term = s.reporting_term := by
  cases hstep with
  | wait hphase hgo => simp [hphase]
  | terminated hphase hstop => rcases hphase with hphase | hphase <;> simp [hphase]
  | handle_pipe hphase hterm => simp [hphase]
  | handle_reporting hphase hchannel hfirst => simp [hphase]
  | stored hphase => simp [hphase]

theorem Stopping.reporting {s s' : process} (h : Stopping s) (hstep : ReportingStep s s') :
    Stopping s' := by
  obtain ⟨hmain, hinterrupted, -⟩ := reporting_step_frame hstep
  obtain ⟨hrunning, hterm⟩ := reporting_step_ended hstep
  refine ⟨by rw [hmain, hinterrupted]; exact h.left_loop, by rw [hmain, hterm]; exact h.term,
    fun hended => ?_, fun hdone => absurd (h.done (hmain ▸ hdone)) hrunning⟩
  cases hstep with
  | wait hphase hgo => exact absurd hended (by simp)
  | terminated hphase hstop => exact hstop
  | handle_pipe hphase hasked => exact h.left_loop (h.term hasked)
  | handle_reporting hphase hchannel hfirst => exact absurd hended (by simp)
  | stored hphase => exact absurd hended (by simp)

theorem stopping_step {s s' : process} {label : action} (h : Stopping s)
    (hstep : ProcessStep s label s') : Stopping s' := by
  cases hstep with
  | check hmain =>
      by_cases hinterrupted : s.interrupted = true
      · refine h.frame (fun _ => hinterrupted) (fun hleft => ?_) ?_ rfl rfl rfl
        · simp [hmain, main_phase.in_loop] at hleft
        · simp [hinterrupted]
      · refine h.frame ?_ (fun hleft => ?_) ?_ rfl rfl rfl
        · simp [hinterrupted, main_phase.in_loop]
        · simp [hmain, main_phase.in_loop] at hleft
        · simp [hinterrupted]
  | start_container hmain =>
      exact h.frame h.left_loop id (by simp [hmain]) rfl rfl rfl
  | stop_container hmain hactor hkind =>
      refine h.frame (by simp [main_phase.in_loop]) ?_ (by simp) rfl rfl rfl
      simp [hmain, main_phase.in_loop]
  | stopped hmain hactor hended =>
      refine h.frame (by simp [main_phase.in_loop]) ?_ (by simp) rfl rfl rfl
      simp [hmain, main_phase.in_loop]
  | synced hmain =>
      refine h.frame (by simp [main_phase.in_loop]) ?_ (by simp) rfl rfl rfl
      simp [hmain, main_phase.in_loop]
  | tick hmain timestamp reached =>
      refine h.frame (by simp [main_phase.in_loop]) ?_ (by simp) rfl rfl rfl
      simp [hmain, main_phase.in_loop]
  | deinit hmain =>
      exact h.frame (fun _ => h.left_loop (by rw [hmain]; rfl)) (fun _ => rfl) (by simp) rfl rfl rfl
  | destroy hmain hactor hkind =>
      exact h.frame (fun _ => h.left_loop (by rw [hmain]; rfl)) (fun _ => rfl) (by simp) rfl rfl rfl
  | destroyed hmain hactor hended =>
      exact h.frame (fun _ => h.left_loop (by rw [hmain]; rfl)) (fun _ => rfl) (by simp) rfl rfl rfl
  | @next_kind kind hmain hall =>
      refine h.frame (fun _ => h.left_loop (by rw [hmain]; rfl)) (fun _ => ?_) ?_ rfl rfl rfl
      · cases kind <;> rfl
      · cases kind <;> simp
  | destroy_reporting hmain =>
      have hleft : s.interrupted = true := h.left_loop (by rw [hmain]; rfl)
      exact ⟨fun _ => hleft, fun _ => rfl, fun _ => hleft, fun hdone => absurd hdone (by simp)⟩
  | finish hmain hended =>
      have hleft : s.interrupted = true := h.left_loop (by rw [hmain]; rfl)
      exact ⟨fun _ => hleft, fun _ => rfl, fun _ => hleft, fun _ => hended⟩
  | interrupt => exact ⟨fun _ => rfl, h.term, fun _ => rfl, h.done⟩
  | perf hactor hstep => exact ⟨h.left_loop, h.term, h.ended, h.done⟩
  | reporting hstep => exact h.reporting hstep

-- Once interrupted, an actor does not go back to its wait.
theorem perf_step_not_waiting {i : Nat} {actor actor' : perf_process} {pushed : Option report}
    (hstep : PerfStep true i actor pushed actor') : actor'.phase ≠ .waiting := by
  cases hstep with
  | wait hphase hgo => exact absurd hgo (by decide)
  | create hphase => simp
  | unresolved hphase => simp
  | not_initialized hphase => simp
  | initialized hphase => simp
  | terminated hphase hstop => simp
  | handle_pipe hphase hterm => simp
  | handle_ticker hphase hticks => simp
  | populated hphase => simp
  | not_populated hphase => simp

theorem publish_phase (timestamp : Nat) (reached : Bool) (actor : perf_process) :
    (actor.publish timestamp reached).phase = actor.phase := by
  unfold perf_process.publish
  split <;> rfl

-- Actors that keep their phases and ticks stay idle, unless `main` begins to await
-- one that waits.
theorem Drained.frame {s s' : process} (h : Drained s) (hchannel : s'.channel = s.channel)
    (hperf : ∀ (i : Nat) (actor : perf_process), s'.perf[i]? = some actor → ∃ before,
      s.perf[i]? = some before ∧ actor.phase = before.phase ∧ actor.ticks = before.ticks)
    (hmain : ∀ (i : Nat) (actor : perf_process), s.perf[i]? = some actor →
      actor.phase = .waiting → s'.main.Awaits i → s.main.Awaits i) : Drained s' := by
  refine ⟨hchannel.trans h.1, fun i actor hactor => ?_⟩
  obtain ⟨before, hbefore, hphase, hticks⟩ := hperf i actor hactor
  obtain ⟨hpending, hidle⟩ := h.2 i before hbefore
  constructor
  · simpa only [perf_process.Pending, hphase, hticks] using hpending
  · intro hwaiting hawaits
    exact hidle (hphase ▸ hwaiting) (hmain i before hbefore (hphase ▸ hwaiting) hawaits)

theorem Drained.moves {s s' : process} (h : Drained s) (hchannel : s'.channel = s.channel)
    (hperf : s'.perf = s.perf)
    (hmain : ∀ (i : Nat) (actor : perf_process), s.perf[i]? = some actor →
      actor.phase = .waiting → s'.main.Awaits i → s.main.Awaits i) : Drained s' :=
  h.frame hchannel (fun _ actor hactor => ⟨actor, hperf ▸ hactor, rfl, rfl⟩) hmain

theorem Drained.started {s : process} (h : Drained s) :
    Drained { s with perf := s.perf ++ [⟨.container, .starting, [], false⟩] } := by
  refine ⟨h.1, fun i actor hactor => ?_⟩
  by_cases hi : i < s.perf.length
  · have hbefore := (List.getElem?_append_left hi).symm.trans hactor
    exact h.2 i actor hbefore
  · obtain ⟨-, rfl⟩ := by
      simpa [List.getElem?_append_right (Nat.le_of_not_lt hi), List.getElem?_singleton]
        using hactor
    simp [perf_process.Pending]

-- A tick finds no actor in its wait.
theorem Drained.ticked {s : process} (h : Drained s) (hmain : s.main = .ticking)
    (timestamp : Nat) (reached : Nat → Bool) :
    Drained { s with
      main := .checking
      perf := s.perf.mapIdx fun i => perf_process.publish timestamp (reached i) } := by
  refine ⟨h.1, fun i actor' hactor' => ?_⟩
  rw [List.getElem?_mapIdx] at hactor'
  obtain ⟨actor, hactor, rfl⟩ := Option.map_eq_some_iff.mp hactor'
  obtain ⟨hpending, hidle⟩ := h.2 i actor hactor
  have hphase := publish_phase timestamp (reached i) actor
  have hbusy : actor.phase ≠ .waiting := fun hwaiting => hidle hwaiting (Or.inr (Or.inl hmain))
  refine ⟨?_, fun hwaiting => absurd (hphase.symm.trans hwaiting) hbusy⟩
  rintro (⟨t, hpopulating⟩ | ⟨hwaiting, -⟩)
  · exact hpending (Or.inl ⟨t, hphase.symm.trans hpopulating⟩)
  · exact hbusy (hphase.symm.trans hwaiting)

theorem Drained.perf_step {s : process} (h : Drained s) (hinterrupted : s.interrupted = true)
    {i : Nat} {actor actor' : perf_process} {pushed : Option report}
    (hactor : s.perf[i]? = some actor) (hstep : PerfStep s.interrupted i actor pushed actor') :
    Drained { s.set_perf i actor' with channel := s.channel ++ pushed.toList } := by
  rw [hinterrupted] at hstep
  obtain ⟨hnone, hpending⟩ := perf_step_not_pending (h.2 i actor hactor).1 hstep
  refine ⟨by simp [hnone, h.1], fun j other hother => ?_⟩
  by_cases hj : i = j
  · subst hj
    have hself : (s.perf.set i actor')[i]? = some other := hother
    rw [List.getElem?_set_self (List.getElem?_eq_some_iff.mp hactor).1] at hself
    obtain rfl := Option.some.inj hself
    exact ⟨hpending, fun hwaiting => absurd hwaiting (perf_step_not_waiting hstep)⟩
  · have hbefore : (s.perf.set i actor')[j]? = some other := hother
    rw [List.getElem?_set_ne hj] at hbefore
    exact h.2 j other hbefore

-- Behind the end of the reporting actor a drained process stays drained.
theorem drained_process_step {s s' : process} {label : action} (h : Drained s)
    (hinterrupted : s.interrupted = true) (hended : s.reporting = .ended)
    (hstep : ProcessStep s label s') : Drained s' := by
  cases hstep with
  | check hmain =>
      refine h.moves rfl rfl fun i _ _ _ hawaits => ?_
      simp [hinterrupted, main_phase.Awaits] at hawaits
  | start_container hmain => exact h.started
  | stop_container hmain hactor hkind =>
      exact h.frame rfl (fun _ _ hother => terminated_at hactor hother)
        fun _ _ _ _ _ => Or.inl hmain
  | @stopped i actor hmain hactor hended =>
      refine h.moves rfl rfl fun j other hother hwaiting _ => ?_
      refine Or.inr (Or.inr ⟨i, hmain, ?_⟩)
      rintro rfl
      obtain rfl := Option.some.inj (hactor.symm.trans hother)
      exact absurd (hended.symm.trans hwaiting) (by simp)
  | synced hmain => exact h.moves rfl rfl fun _ _ _ _ _ => Or.inl hmain
  | tick hmain timestamp reached => exact h.ticked hmain timestamp reached
  | destroy hmain hactor hkind =>
      refine h.frame rfl (fun _ _ hother => terminated_at hactor hother) fun i _ _ _ hawaits => ?_
      simp [main_phase.Awaits] at hawaits
  | @next_kind kind hmain hall =>
      refine h.moves rfl rfl fun i _ _ _ hawaits => ?_
      cases kind <;> simp [main_phase.Awaits] at hawaits
  | deinit hmain | destroyed hmain hactor hended | destroy_reporting hmain | finish hmain hended =>
      refine h.moves rfl rfl fun i _ _ _ hawaits => ?_
      simp [main_phase.Awaits] at hawaits
  | interrupt => exact h
  | perf hactor hstep => exact h.perf_step hinterrupted hactor hstep
  | reporting hstep => exact absurd hended (reporting_step_ended hstep).1

-- The reporting actor leaves its loop with what it has not taken up left behind.
theorem leaves {s s' : process} {label : action} (hstep : ProcessStep s label s')
    (hrunning : s.reporting ≠ .ended) (hended : s'.reporting = .ended) :
    s' = { s with reporting := .ended } := by
  cases hstep with
  | reporting hstep =>
      cases hstep with
      | wait hphase hgo => exact absurd hended (by simp)
      | terminated hphase hstop => rfl
      | handle_pipe hphase hterm => rfl
      | handle_reporting hphase hchannel hfirst => exact absurd hended (by simp)
      | stored hphase => exact absurd hended (by simp)
  | _ => exact absurd hended hrunning

theorem drained_run {system_groups : Bool} {labels : List action} {t : process × history}
    (hrun : Run DrainedStep (traced_start system_groups) labels t) :
    Stopping t.1 ∧ (t.1.reporting = .ended → Drained t.1) := by
  refine hrun.invariant (fun t => Stopping t.1 ∧ (t.1.reporting = .ended → Drained t.1))
    ⟨stopping_start system_groups, fun h => absurd h (by simp [traced_start, process.start])⟩ ?_
  rintro t label t' ⟨hstopping, hdrained⟩ ⟨hstep, hleaves⟩
  have hprocess := hstep.process_step
  refine ⟨stopping_step hstopping hprocess, fun hended' => ?_⟩
  by_cases hended : t.1.reporting = .ended
  · exact drained_process_step (hdrained hended) (hstopping.ended hended) hended hprocess
  · have hbefore := hleaves hended hended'
    rw [leaves hprocess hended hended']
    exact hbefore

-- The actor whose end `main` waits for in its loop is there.
theorem awaited_step {s s' : process} {label : action}
    (h : ∀ j, s.main = .stopping j → j < s.perf.length) (hstep : ProcessStep s label s') :
    ∀ j, s'.main = .stopping j → j < s'.perf.length := by
  intro j hj
  cases hstep with
  | check hmain =>
      by_cases hinterrupted : s.interrupted = true <;> simp [hinterrupted] at hj
  | start_container hmain => exact absurd (hmain.symm.trans hj) (by simp)
  | stop_container hmain hactor hkind =>
      obtain rfl : _ = j := main_phase.stopping.inj hj
      exact (List.length_set ..).symm ▸ (List.getElem?_eq_some_iff.mp hactor).1
  | stopped hmain hactor hended => exact absurd hj (by simp)
  | synced hmain => exact absurd hj (by simp)
  | tick hmain timestamp reached => exact absurd hj (by simp)
  | deinit hmain => exact absurd hj (by simp)
  | destroy hmain hactor hkind => exact absurd hj (by simp)
  | destroyed hmain hactor hended => exact absurd hj (by simp)
  | @next_kind kind hmain hall => cases kind <;> simp at hj
  | destroy_reporting hmain => exact absurd hj (by simp)
  | finish hmain hended => exact absurd hj (by simp)
  | interrupt => exact h j hj
  | perf hactor hstep => exact (List.length_set ..).symm ▸ h j hj
  | reporting hstep =>
      rw [(reporting_step_frame hstep).1] at hj
      rw [reporting_step_perf hstep]
      exact h j hj

-- An interrupted actor can come to its end by itself.
theorem ends {s : process} (hinterrupted : s.interrupted = true) {i : Nat} {actor : perf_process}
    (hactor : s.perf[i]? = some actor) :
    ∃ labels perf channel actor',
      Run ProcessStep s labels { s with perf := perf, channel := channel } ∧
      perf[i]? = some actor' ∧ actor'.phase = .ended ∧
      ∀ j, i ≠ j → perf[j]? = s.perf[j]? := by
  have hmoves : ∀ (s : process) (actor actor' : perf_process), s.perf[i]? = some actor →
      PerfStep s.interrupted i actor none actor' →
      ProcessStep s (.perf i)
          { s with perf := s.perf.set i actor', channel := s.channel ++ none.toList } ∧
        (s.perf.set i actor')[i]? = some actor' ∧
        ∀ j, i ≠ j → (s.perf.set i actor')[j]? = s.perf[j]? := by
    intro s actor actor' hactor hstep
    exact ⟨.perf hactor hstep, List.getElem?_set_self (List.getElem?_eq_some_iff.mp hactor).1,
      fun j hj => List.getElem?_set_ne hj⟩
  cases hphase : actor.phase with
  | starting =>
      obtain ⟨hstep, hself, hothers⟩ := hmoves s actor _ hactor (.unresolved hphase)
      exact ⟨_, _, _, _, Run.single hstep, hself, rfl, hothers⟩
  | initializing =>
      obtain ⟨hstep, hself, hothers⟩ := hmoves s actor _ hactor (.not_initialized hphase)
      exact ⟨_, _, _, _, Run.single hstep, hself, rfl, hothers⟩
  | top =>
      obtain ⟨hstep, hself, hothers⟩ :=
        hmoves s actor _ hactor (.terminated (Or.inl hphase) hinterrupted)
      exact ⟨_, _, _, _, Run.single hstep, hself, rfl, hothers⟩
  | waiting =>
      obtain ⟨hstep, hself, hothers⟩ :=
        hmoves s actor _ hactor (.terminated (Or.inr hphase) hinterrupted)
      exact ⟨_, _, _, _, Run.single hstep, hself, rfl, hothers⟩
  | populating timestamp =>
      obtain ⟨hstep, hself, hothers⟩ := hmoves s actor _ hactor (.not_populated hphase)
      obtain ⟨hstep', hself', hothers'⟩ :=
        hmoves { s with perf := _, channel := _ } _ _ hself (.terminated (Or.inl rfl) hinterrupted)
      exact ⟨_, _, _, _, (Run.single hstep).snoc hstep', hself', rfl,
        fun j hj => (hothers' j hj).trans (hothers j hj)⟩
  | ended => exact ⟨_, s.perf, s.channel, actor, .nil, hactor, hphase, fun _ _ => rfl⟩

-- Nobody takes up what is in the socket any more.
def Lost (s : process) : Prop := s.reporting = .ended ∧ s.channel ≠ []

theorem lost_step {s s' : process} {label : action} (h : Lost s)
    (hstep : ProcessStep s label s') : Lost s' := by
  obtain ⟨hended, hchannel⟩ := h
  cases hstep with
  | perf hactor hstep => exact ⟨hended, List.append_ne_nil_of_left_ne_nil hchannel _⟩
  | reporting hstep => exact absurd hended (reporting_step_ended hstep).1
  | _ => exact ⟨hended, hchannel⟩

theorem not_delivered {s : process} {h : history} (ht : Traced s h) (hlost : Lost s) :
    ¬Delivered s h := by
  intro hdelivered
  obtain ⟨hended, hchannel⟩ := hlost
  obtain ⟨r, later, hcons⟩ := List.exists_cons_of_ne_nil hchannel
  have hpassed : passed s = s.stored := by simp [passed, hended]
  have haccounted := ht.accounted r.actor
  rw [hpassed, (hdelivered r.actor).1] at haccounted
  have hnone : reports_of r.actor s.channel = [] := List.append_right_eq_self.mp haccounted
  rw [hcons] at hnone
  simp [reports_of] at hnone

-- A tick for an actor in its wait ends in a report.
theorem ticked_pushes {s : process} (hmain : s.main = .ticking) {i : Nat} {actor : perf_process}
    (hactor : s.perf[i]? = some actor) (hwaiting : actor.phase = .waiting) :
    ∃ labels s', Run ProcessStep s labels s' ∧ s'.channel ≠ [] ∧
      s'.reporting = s.reporting := by
  have htick : ProcessStep s .tick _ := .tick hmain 0 fun _ => true
  have hgot : (s.perf.mapIdx fun _ => perf_process.publish 0 true)[i]? =
      some { actor with ticks := actor.ticks ++ [0] } := by
    rw [List.getElem?_mapIdx, hactor]
    simp [perf_process.publish, hwaiting]
  obtain ⟨labels, s', hrun, hchannel, hreporting, -⟩ :=
    pushes (s := { s with main := .checking, perf := _ }) hgot
      (Or.inr ⟨hwaiting, List.concat_ne_nil _ _⟩)
  exact ⟨_, s', (Run.single htick).append hrun, hchannel, hreporting⟩

theorem awaits_pushes {s : process} (hinterrupted : s.interrupted = true)
    (hawaited : ∀ j, s.main = .stopping j → j < s.perf.length) {i : Nat} {actor : perf_process}
    (hactor : s.perf[i]? = some actor) (hwaiting : actor.phase = .waiting)
    (hawaits : s.main.Awaits i) :
    ∃ labels s', Run ProcessStep s labels s' ∧ s'.channel ≠ [] ∧
      s'.reporting = s.reporting := by
  rcases hawaits with hmain | hmain | ⟨j, hmain, hj⟩
  · obtain ⟨labels, s', hrun, hs'⟩ := ticked_pushes
      (s := { s with main := .ticking }) rfl hactor hwaiting
    exact ⟨_, s', (Run.single (.synced hmain)).append hrun, hs'⟩
  · exact ticked_pushes hmain hactor hwaiting
  · have hother := List.getElem?_eq_getElem (hawaited j hmain)
    obtain ⟨labels, perf, channel, other', hends, hother', hended, hothers⟩ :=
      ends hinterrupted hother
    have hstopped := (hends.snoc (.stopped hmain hother' hended)).snoc (.synced rfl)
    obtain ⟨more, s', hrun, hs'⟩ := ticked_pushes
      (s := { s with main := .ticking, perf := perf, channel := channel }) rfl
      ((hothers i hj).trans hactor) hwaiting
    exact ⟨_, s', hstopped.append hrun, hs'⟩

theorem loses {s : process} (hinterrupted : s.interrupted = true)
    (hawaited : ∀ j, s.main = .stopping j → j < s.perf.length)
    (hended : s.reporting = .ended) (hnot : ¬Drained s) :
    ∃ labels s', Run ProcessStep s labels s' ∧ Lost s' := by
  by_cases hchannel : s.channel = []
  · have hmore : ∃ i actor, s.perf[i]? = some actor ∧
        (actor.Pending ∨ actor.phase = .waiting ∧ s.main.Awaits i) := by
      refine Classical.byContradiction fun hnone => hnot ⟨hchannel, fun i actor hactor => ?_⟩
      refine ⟨fun hp => hnone ⟨i, actor, hactor, Or.inl hp⟩, fun hwaiting hawaits => ?_⟩
      exact hnone ⟨i, actor, hactor, Or.inr ⟨hwaiting, hawaits⟩⟩
    obtain ⟨i, actor, hactor, hpending | ⟨hwaiting, hawaits⟩⟩ := hmore
    · obtain ⟨labels, s', hrun, hpushed, hreporting, -⟩ := pushes hactor hpending
      exact ⟨labels, s', hrun, hreporting.trans hended, hpushed⟩
    · obtain ⟨labels, s', hrun, hpushed, hreporting⟩ :=
        awaits_pushes hinterrupted hawaited hactor hwaiting hawaits
      exact ⟨labels, s', hrun, hreporting.trans hended, hpushed⟩
  · exact ⟨[], s, .nil, hended, hchannel⟩

-- The reports reach the storage in every run whose reporting actor leaves its loop
-- in drained states only, and each other end of it can lose one.
theorem reports_delivered (system_groups : Bool) :
    (∀ labels t, Run DrainedStep (traced_start system_groups) labels t →
      t.1.main = .done → Delivered t.1 t.2) ∧
      ∀ labels t t', Run TracedStep (traced_start system_groups) labels t →
        TracedStep t .reporting t' → t'.1.reporting = .ended → ¬Drained t.1 →
        ∃ more lost, Run TracedStep t' more lost ∧
          ∀ rest last, Run TracedStep lost rest last → ¬Delivered last.1 last.2 := by
  refine ⟨fun labels t hrun hdone i => ?_, fun labels t t' hrun hstep hended hnot => ?_⟩
  · obtain ⟨hstopping, hdrained⟩ := drained_run hrun
    have ht := traced_run (hrun.mono fun _ _ _ hstep => hstep.1)
    have hended := hstopping.done hdone
    have hpassed : passed t.1 = t.1.stored := by simp [passed, hended]
    have haccounted := ht.accounted i
    rw [hpassed, (hdrained hended).1] at haccounted
    have hstored : reports_of i t.1.stored = reports_of i t.2.pushed := by
      rw [← haccounted]
      exact (List.append_nil _).symm
    exact ⟨hstored, hstored ▸ ht.pushed i⟩
  · have hrun' := hrun.snoc hstep
    have hstopping : Stopping t'.1 ∧ ∀ j, t'.1.main = .stopping j → j < t'.1.perf.length := by
      refine hrun'.invariant
        (fun t => Stopping t.1 ∧ ∀ j, t.1.main = .stopping j → j < t.1.perf.length)
        ⟨stopping_start system_groups, fun j hj =>
          absurd hj (by simp [traced_start, process.start])⟩
        fun _ _ _ h hs => ⟨stopping_step h.1 hs.process_step, awaited_step h.2 hs.process_step⟩
    have hleft : ¬Drained t'.1 := by
      have hprocess := hstep.process_step
      cases hprocess with
      | reporting hreporting =>
          rw [leaves hstep.process_step (reporting_step_ended hreporting).1 hended]
          exact hnot
    obtain ⟨more, s, hmore, hlost⟩ :=
      loses (hstopping.1.ended hended) hstopping.2 hended hleft
    obtain ⟨h, htraced⟩ := exists_traced_run hmore t'.2
    refine ⟨more, (s, h), htraced, fun rest last hrest => ?_⟩
    have hlast : Lost last.1 :=
      hrest.invariant (fun t => Lost t.1) hlost fun _ _ _ h hs => lost_step h hs.process_step
    exact not_delivered (traced_run ((hrun'.append htraced).append hrest)) hlast

theorem drained_of_running {t t' : process × history} {label : action}
    (hstep : TracedStep t label t') (hrunning : t'.1.reporting ≠ .ended) :
    DrainedStep t label t' :=
  ⟨hstep, fun _ hended => absurd hended hrunning⟩

theorem drained_of_ended {t t' : process × history} {label : action}
    (hstep : TracedStep t label t') (hended : t.1.reporting = .ended) :
    DrainedStep t label t' :=
  ⟨hstep, fun hrunning => absurd hended hrunning⟩

-- The first report of the system actor waits for the reporting actor.
theorem first_report_pushed :
    ∃ labels, Run DrainedStep (traced_start true) labels
      ({ process.start true with
          perf := [⟨.system, .top, [], false⟩], channel := [⟨0, 1000⟩] },
        ⟨[1000], [⟨0, 1000⟩]⟩) := by
  have hready := ((Run.single (drained_of_running (.perf (i := 0) rfl (.create rfl)) nofun) :
    Run DrainedStep (traced_start true) _ _).snoc
      (drained_of_running (.perf (i := 0) rfl (.initialized rfl)) nofun)).snoc
      (drained_of_running (.perf (i := 0) rfl (.wait rfl rfl)) nofun)
  have hticked := ((hready.snoc
    (drained_of_running (.silent (.check rfl) nofun nofun) nofun)).snoc
    (drained_of_running (.silent (.synced rfl) nofun nofun) nofun)).snoc
    (drained_of_running (.tick rfl 1000 fun _ => true) nofun)
  have hpushed := (hticked.snoc
    (drained_of_running (.perf (i := 0) rfl (.handle_ticker rfl rfl)) nofun)).snoc
    (drained_of_running (.perf (i := 0) rfl (.populated rfl)) nofun)
  exact ⟨_, hpushed⟩

-- `main` returns when it sees the interruption behind the end of all actors.
theorem returns {s : process} (hmain : s.main = .checking) (hinterrupted : s.interrupted = true)
    (hended : s.reporting = .ended) (hall : ∀ actor ∈ s.perf, actor.phase = .ended)
    (h : history) :
    ∃ labels, Run DrainedStep (s, h) labels
      ({ s with main := .done, deinitialized := true, reporting_term := true }, h) := by
  have hcheck : ProcessStep s .check { s with main := .deinitializing } := by
    simpa [hinterrupted] using ProcessStep.check hmain
  have hchecked : TracedStep (s, h) .check _ := .silent hcheck nofun nofun
  have hleft := (Run.single (drained_of_ended hchecked hended)).snoc
    (drained_of_ended (.silent (.deinit rfl) nofun nofun) hended)
  have hcontainers :=
    @ProcessStep.next_kind { s with main := .destroying .container none, deinitialized := true }
      .container rfl fun actor hactor _ => hall actor hactor
  have hsystem :=
    @ProcessStep.next_kind { s with main := .destroying .system none, deinitialized := true }
      .system rfl fun actor hactor _ => hall actor hactor
  have hperf := (hleft.snoc
    (drained_of_ended (.silent hcontainers nofun nofun) hended)).snoc
    (drained_of_ended (.silent hsystem nofun nofun) hended)
  have hreporting := hperf.snoc
    (drained_of_ended (.silent (.destroy_reporting rfl) nofun nofun) hended)
  exact ⟨_, hreporting.snoc (drained_of_ended (.silent (.finish rfl hended) nofun nofun) hended)⟩

-- The report of the only tick is stored before the interruption.
theorem reports_delivered_one :
    ∃ labels s h, Run DrainedStep (traced_start true) labels (s, h) ∧ s.main = .done ∧
      s.stored = [⟨0, 1000⟩] ∧ Delivered s h := by
  obtain ⟨labels, hpushed⟩ := first_report_pushed
  have hchannel : [(⟨0, 1000⟩ : report)] = [] ++ ⟨0, 1000⟩ :: [] := rfl
  have hstored := ((hpushed.snoc
    (drained_of_running (.silent (.reporting (.wait rfl rfl)) nofun nofun) nofun)).snoc
    (drained_of_running
      (.silent (.reporting (.handle_reporting rfl hchannel nofun)) nofun nofun) nofun)).snoc
    (drained_of_running (.silent (.reporting (.stored rfl)) nofun nofun) nofun)
  have hperf := (hstored.snoc
    (drained_of_running (.silent .interrupt nofun nofun) nofun)).snoc
    (drained_of_running (.perf (i := 0) rfl (.terminated (Or.inl rfl) rfl)) nofun)
  have hended := hperf.snoc
    ⟨.silent (.reporting (.terminated (Or.inl rfl) rfl)) nofun nofun, fun _ _ => ⟨rfl, by
      intro i actor hactor
      obtain ⟨-, rfl⟩ := by simpa [process.set_perf, List.getElem?_singleton] using hactor
      simp [perf_process.Pending]⟩⟩
  obtain ⟨more, hdone⟩ := returns (s := { process.start true with
    perf := [⟨.system, .ended, [], false⟩], interrupted := true, reporting := .ended,
    stored := [⟨0, 1000⟩] }) rfl rfl rfl (by simp) ⟨[1000], [⟨0, 1000⟩]⟩
  have hrun := hended.append hdone
  exact ⟨_, _, _, hrun, rfl, rfl, (reports_delivered true).1 _ _ hrun rfl⟩

-- The system actor has pushed its first report when the interruption comes, and the
-- reporting actor has yet to enter its wait.
theorem queued_report_lost :
    ¬ ∀ (system_groups : Bool) (labels : List action) (t : process × history),
      Run TracedStep (traced_start system_groups) labels t → t.1.main = .done →
        Delivered t.1 t.2 := by
  intro hclaim
  obtain ⟨labels, hpushed⟩ := first_report_pushed
  have hended := (((hpushed.mono fun _ _ _ hstep => hstep.1).snoc
    (.silent .interrupt nofun nofun)).snoc
    (.silent (.reporting (.terminated (Or.inl rfl) rfl)) nofun nofun)).snoc
    (.perf (i := 0) rfl (.terminated (Or.inl rfl) rfl))
  obtain ⟨more, hdone⟩ := returns (s := { process.start true with
    perf := [⟨.system, .ended, [], false⟩], interrupted := true, reporting := .ended,
    channel := [⟨0, 1000⟩] }) rfl rfl rfl (by simp) ⟨[1000], [⟨0, 1000⟩]⟩
  have hrun := hended.append (hdone.mono fun _ _ _ hstep => hstep.1)
  have hnone := (hclaim true _ _ hrun rfl 0).1
  simp [reports_of, process.start] at hnone

end HwpcSensor.Sensor.Shutdown
