import HwpcSensor.Sensor.Shutdown

namespace HwpcSensor.Sensor.Shutdown

open Transition

def main_phase.in_loop : main_phase → Bool
  | checking | syncing | stopping _ | ticking => true
  | deinitializing | destroying _ _ | destroying_reporting _ | done => false

-- `main` leaves its loop on an interruption only, and nothing disturbs a process
-- that was quiet when the module was deinitialized.
structure Inv (s : process) : Prop where
  left_loop : s.main.in_loop = false → s.interrupted = true
  past : s.deinitialized = true → s.main.in_loop = false ∧ s.main ≠ .deinitializing
  quiet : s.deinitialized = true → Quiet s

theorem inv_start (system_groups : Bool) : Inv (process.start system_groups) := by
  refine ⟨?_, ?_, ?_⟩ <;> simp [process.start, main_phase.in_loop]

-- Once interrupted, an actor that has nothing to push never gets anything.
theorem perf_step_not_pending {i : Nat} {actor actor' : perf_process} {pushed : Option report}
    (hnot : ¬actor.Pending) (hstep : PerfStep true i actor pushed actor') :
    pushed = none ∧ ¬actor'.Pending := by
  cases hstep with
  | create hphase => exact ⟨rfl, by simp [perf_process.Pending]⟩
  | unresolved hphase => exact ⟨rfl, by simp [perf_process.Pending]⟩
  | not_initialized hphase => exact ⟨rfl, by simp [perf_process.Pending]⟩
  | initialized hphase => exact ⟨rfl, by simp [perf_process.Pending]⟩
  | wait hphase hgo => exact absurd hgo (by decide)
  | terminated hphase hstop => exact ⟨rfl, by simp [perf_process.Pending]⟩
  | handle_pipe hphase hterm => exact ⟨rfl, by simp [perf_process.Pending]⟩
  | handle_ticker hphase hticks => exact absurd (Or.inr ⟨hphase, by simp [hticks]⟩) hnot
  | populated hphase => exact absurd (Or.inl ⟨_, hphase⟩) hnot
  | not_populated hphase => exact absurd (Or.inl ⟨_, hphase⟩) hnot

theorem quiet_set_perf {s s' : process} (h : Quiet s) {i : Nat} {actor actor' : perf_process}
    (hactor : s.perf[i]? = some actor) (hnot : ¬actor.Pending → ¬actor'.Pending)
    (hperf : s'.perf = s.perf.set i actor') (hchannel : ¬actor.Pending → s'.channel = s.channel)
    (hreporting : s'.reporting = s.reporting) : Quiet s' := by
  refine ⟨fun payload => hreporting ▸ h.1 payload, fun hwaiting => ?_⟩
  obtain ⟨hempty, hidle⟩ := h.2 (hreporting ▸ hwaiting)
  have hactor_idle := hidle actor (List.mem_of_getElem? hactor)
  refine ⟨(hchannel hactor_idle).trans hempty, fun other hother => ?_⟩
  rw [hperf] at hother
  rcases List.mem_or_eq_of_mem_set hother with hmem | rfl
  · exact hidle other hmem
  · exact hnot hactor_idle

theorem quiet_perf {s : process} (h : Quiet s) (hinterrupted : s.interrupted = true) {i : Nat}
    {actor actor' : perf_process} {pushed : Option report} (hactor : s.perf[i]? = some actor)
    (hstep : PerfStep s.interrupted i actor pushed actor') :
    Quiet { s.set_perf i actor' with channel := s.channel ++ pushed.toList } := by
  rw [hinterrupted] at hstep
  refine quiet_set_perf h hactor (fun hnot => (perf_step_not_pending hnot hstep).2) rfl ?_ rfl
  intro hnot
  rw [(perf_step_not_pending hnot hstep).1]
  exact List.append_nil _

theorem quiet_reporting {s s' : process} (h : Quiet s) (hinterrupted : s.interrupted = true)
    (hstep : ReportingStep s s') : Quiet s' := by
  cases hstep with
  | wait hphase hgo => exact absurd (hinterrupted.symm.trans hgo) (by decide)
  | terminated hphase hstop => exact ⟨by simp, by simp⟩
  | handle_pipe hphase hterm => exact ⟨by simp, by simp⟩
  | handle_reporting hphase hchannel hfirst =>
      exact absurd (h.2 hphase).1 (by simp [hchannel])
  | stored hphase => exact absurd hphase (h.1 _)

theorem Inv.not_deinitialized {s : process} (h : Inv s)
    (hmain : s.main.in_loop = true ∨ s.main = .deinitializing) : s.deinitialized = false := by
  cases hd : s.deinitialized with
  | false => rfl
  | true =>
      obtain ⟨hleft, hnot⟩ := h.past hd
      rcases hmain with hloop | hmain
      · exact absurd (hloop.symm.trans hleft) (by decide)
      · exact absurd hmain hnot

-- Before the module is deinitialized there is nothing to lose.
theorem inv_of_not_deinitialized {s : process} (hd : s.deinitialized = false)
    (hleft : s.main.in_loop = false → s.interrupted = true) : Inv s :=
  ⟨hleft, fun h => absurd (h.symm.trans hd) (by decide),
    fun h => absurd (h.symm.trans hd) (by decide)⟩

-- Behind the deinitialization `main` only takes actors down.
theorem Inv.cleanup {s s' : process} (h : Inv s) (hbefore : s.main.in_loop = false)
    (hmain : s'.main.in_loop = false ∧ s'.main ≠ .deinitializing)
    (hinterrupted : s'.interrupted = s.interrupted)
    (hdeinitialized : s'.deinitialized = s.deinitialized) (hquiet : Quiet s → Quiet s') :
    Inv s' := by
  refine ⟨fun _ => ?_, fun _ => hmain, fun hd => hquiet (h.quiet ?_)⟩
  · rw [hinterrupted]
    exact h.left_loop hbefore
  · rw [← hdeinitialized]
    exact hd

theorem reporting_step_frame {s s' : process} (hstep : ReportingStep s s') :
    s'.main = s.main ∧ s'.interrupted = s.interrupted ∧ s'.deinitialized = s.deinitialized := by
  cases hstep <;> exact ⟨rfl, rfl, rfl⟩

theorem inv_step {s s' : process} {label : action} (h : Inv s) (hstep : ProcessStep s label s')
    (hquiet : label = .deinit → Quiet s) : Inv s' := by
  cases hstep with
  | check hmain =>
      refine inv_of_not_deinitialized (h.not_deinitialized (Or.inl (by rw [hmain]; rfl))) ?_
      by_cases hinterrupted : s.interrupted = true
      · exact fun _ => hinterrupted
      · simp [hinterrupted, main_phase.in_loop]
  | start_container hmain =>
      exact inv_of_not_deinitialized (h.not_deinitialized (Or.inl (by rw [hmain]; rfl)))
        (by simp [hmain, main_phase.in_loop])
  | stop_container hmain hactor hkind =>
      exact inv_of_not_deinitialized (h.not_deinitialized (Or.inl (by rw [hmain]; rfl)))
        (by simp [main_phase.in_loop])
  | stopped hmain hactor hended =>
      exact inv_of_not_deinitialized (h.not_deinitialized (Or.inl (by rw [hmain]; rfl)))
        (by simp [main_phase.in_loop])
  | synced hmain =>
      exact inv_of_not_deinitialized (h.not_deinitialized (Or.inl (by rw [hmain]; rfl)))
        (by simp [main_phase.in_loop])
  | tick hmain timestamp reached =>
      exact inv_of_not_deinitialized (h.not_deinitialized (Or.inl (by rw [hmain]; rfl)))
        (by simp [main_phase.in_loop])
  | deinit hmain =>
      exact ⟨fun _ => h.left_loop (by rw [hmain]; rfl), fun _ => ⟨rfl, by simp⟩,
        fun _ => hquiet rfl⟩
  | destroy hmain hactor hkind =>
      refine h.cleanup (by rw [hmain]; rfl) ⟨rfl, by simp⟩ rfl rfl fun hq => ?_
      refine quiet_set_perf hq hactor ?_ rfl (fun _ => rfl) rfl
      exact fun hnot => hnot
  | destroyed hmain hactor hended =>
      exact h.cleanup (by rw [hmain]; rfl) ⟨rfl, by simp⟩ rfl rfl id
  | @next_kind kind hmain hall =>
      refine h.cleanup (by rw [hmain]; rfl) ?_ rfl rfl id
      cases kind <;> exact ⟨rfl, by simp⟩
  | destroy_reporting hmain =>
      exact h.cleanup (by rw [hmain]; rfl) ⟨rfl, by simp⟩ rfl rfl id
  | finish hmain hended => exact h.cleanup (by rw [hmain]; rfl) ⟨rfl, by simp⟩ rfl rfl id
  | interrupt => exact ⟨fun _ => rfl, h.past, h.quiet⟩
  | perf hactor hstep =>
      exact ⟨h.left_loop, h.past, fun hd =>
        quiet_perf (h.quiet hd) (h.left_loop (h.past hd).1) hactor hstep⟩
  | reporting hstep =>
      obtain ⟨hmain, hinterrupted, hdeinitialized⟩ := reporting_step_frame hstep
      refine ⟨by rw [hmain, hinterrupted]; exact h.left_loop, ?_, ?_⟩
      · rw [hdeinitialized, hmain]
        exact h.past
      · rw [hdeinitialized]
        exact fun hd => quiet_reporting (h.quiet hd) (h.left_loop (h.past hd).1) hstep

-- The steps of a process whose `main` deinitializes the module in quiet states
-- only.
def QuietStep (s : process) (label : action) (s' : process) : Prop :=
  ProcessStep s label s' ∧ (label = .deinit → Quiet s)

theorem run_inv {system_groups : Bool} {labels : List action} {s : process}
    (hrun : Run QuietStep (process.start system_groups) labels s) : Inv s :=
  hrun.invariant Inv (inv_start system_groups) fun _ _ _ h hstep => inv_step h hstep.1 hstep.2

-- The reporting actor, blocked in its wait, takes up a report that has arrived.
theorem stores_from_channel {s : process} (hwaiting : s.reporting = .waiting)
    (hchannel : s.channel ≠ []) :
    ∃ s' payload, ProcessStep s .reporting s' ∧ s'.reporting = .storing payload ∧
      s'.deinitialized = s.deinitialized := by
  cases h : s.channel with
  | nil => exact absurd h hchannel
  | cons payload later =>
      have hchannel : s.channel = [] ++ payload :: later := h
      refine ⟨_, payload, .reporting (.handle_reporting hwaiting hchannel ?_), rfl, rfl⟩
      simp

-- An actor with something to push can bring it to the channel.
theorem pushes {s : process} {i : Nat} {actor : perf_process} (hactor : s.perf[i]? = some actor)
    (hpending : actor.Pending) :
    ∃ labels s', Run ProcessStep s labels s' ∧ s'.channel ≠ [] ∧
      s'.reporting = s.reporting ∧ s'.deinitialized = s.deinitialized := by
  have hpopulated : ∀ (s : process) (actor : perf_process) (timestamp : Nat),
      s.perf[i]? = some actor → actor.phase = .populating timestamp →
      ∃ s', ProcessStep s (.perf i) s' ∧ s'.channel ≠ [] ∧ s'.reporting = s.reporting ∧
        s'.deinitialized = s.deinitialized := by
    intro s actor timestamp hactor hphase
    exact ⟨_, .perf hactor (.populated hphase), List.concat_ne_nil _ _, rfl, rfl⟩
  rcases hpending with ⟨timestamp, hphase⟩ | ⟨hphase, hticks⟩
  · obtain ⟨s', hstep, hs'⟩ := hpopulated s actor timestamp hactor hphase
    exact ⟨_, s', Run.single hstep, hs'⟩
  · obtain ⟨timestamp, ticks, hcons⟩ := List.exists_cons_of_ne_nil hticks
    let taken : perf_process := { actor with phase := .populating timestamp, ticks := ticks }
    have hfirst : ProcessStep s (.perf i)
        { s.set_perf i taken with channel := s.channel ++ none.toList } :=
      .perf hactor (.handle_ticker hphase hcons)
    have hset : (s.perf.set i taken)[i]? = some taken :=
      List.getElem?_set_self (List.getElem?_eq_some_iff.mp hactor).1
    obtain ⟨s', hstep, hs'⟩ := hpopulated
      { s.set_perf i taken with channel := s.channel ++ none.toList } taken timestamp hset rfl
    exact ⟨_, s', (Run.single hfirst).snoc hstep, hs'⟩

theorem unsafe_of_storing {s : process} {payload : report} (hd : s.deinitialized = true)
    (hstoring : s.reporting = .storing payload) : ¬Safe s :=
  fun hsafe => hsafe hd payload hstoring

-- Deinitializing the module in any other state can end in a use of it.
theorem not_quiet_unsafe {s : process} (hmain : s.main = .deinitializing) (hnot : ¬Quiet s) :
    ∃ s₁ labels s₂, ProcessStep s .deinit s₁ ∧ Run ProcessStep s₁ labels s₂ ∧
      ¬Safe s₂ := by
  have hdeinit : ProcessStep s .deinit _ := .deinit hmain
  by_cases hstoring : ∃ payload, s.reporting = .storing payload
  · obtain ⟨payload, hpayload⟩ := hstoring
    exact ⟨_, _, _, hdeinit, .nil, unsafe_of_storing rfl hpayload⟩
  · have hidle : ∀ payload, s.reporting ≠ .storing payload := not_exists.mp hstoring
    have hwait : ¬(s.reporting = .waiting →
        s.channel = [] ∧ ∀ actor ∈ s.perf, ¬actor.Pending) := fun h => hnot ⟨hidle, h⟩
    obtain ⟨hwaiting, hmore⟩ := Classical.not_imp.mp hwait
    by_cases hempty : s.channel = []
    · have hpending : ∃ actor ∈ s.perf, actor.Pending := by
        refine Classical.byContradiction fun hnone => hmore ⟨hempty, ?_⟩
        exact fun actor hactor hp => hnone ⟨actor, hactor, hp⟩
      obtain ⟨actor, hactor, hp⟩ := hpending
      obtain ⟨i, hi⟩ := List.mem_iff_getElem?.mp hactor
      obtain ⟨labels, s₂, hrun, hchannel, hreporting, hd⟩ :=
        pushes (s := { s with main := .destroying .container none, deinitialized := true }) hi hp
      obtain ⟨s₃, payload, hstep, hstored, hd'⟩ :=
        stores_from_channel (hreporting.trans hwaiting) hchannel
      exact ⟨_, _, s₃, hdeinit, hrun.snoc hstep, unsafe_of_storing (hd'.trans hd) hstored⟩
    · obtain ⟨s₂, payload, hstep, hstored, hd⟩ := stores_from_channel
        (s := { s with main := .destroying .container none, deinitialized := true }) hwaiting hempty
      exact ⟨_, _, s₂, hdeinit, Run.single hstep, unsafe_of_storing hd hstored⟩

-- A process is safe as long as it deinitializes the module in quiet states, and
-- each other deinitialization can go wrong.
theorem deinitialized_module_unused (system_groups : Bool) :
    (∀ labels s, Run QuietStep (process.start system_groups) labels s → Safe s) ∧
      ∀ labels s, Run ProcessStep (process.start system_groups) labels s →
        s.main = .deinitializing → ¬Quiet s →
        ∃ s₁ more s₂, ProcessStep s .deinit s₁ ∧ Run ProcessStep s₁ more s₂ ∧
          ¬Safe s₂ :=
  ⟨fun _ _ hrun hd => ((run_inv hrun).quiet hd).1,
    fun _ _ _ hmain hnot => not_quiet_unsafe hmain hnot⟩

-- Interrupted before the first tick, with no report under way.
theorem deinitialized_module_unused_early :
    ∃ s, Run QuietStep (process.start false) [.interrupt, .check, .deinit] s ∧
      s.deinitialized = true ∧ Safe s := by
  have hinterrupted : Run QuietStep (process.start false) _ _ :=
    Run.single ⟨.interrupt, fun h => absurd h (by decide)⟩
  have hleft := hinterrupted.snoc ⟨.check rfl, fun h => absurd h (by decide)⟩
  have hdone := hleft.snoc ⟨.deinit rfl, fun _ => ⟨by simp [process.start], by
    simp [process.start]⟩⟩
  exact ⟨_, hdone, rfl, (deinitialized_module_unused false).1 _ _ hdone⟩

-- The first report of the system actor is being stored when the interruption
-- comes.
theorem stored_while_deinitialized :
    ¬ ∀ (system_groups : Bool) (labels : List action) (s : process),
      Run ProcessStep (process.start system_groups) labels s → Safe s := by
  intro hclaim
  have hready := ((Run.single (.perf (i := 0) rfl (.create rfl)) :
    Run ProcessStep (process.start true) _ _).snoc
      (.perf (i := 0) rfl (.initialized rfl))).snoc (.perf (i := 0) rfl (.wait rfl rfl))
  have hticked := ((hready.snoc (.check rfl)).snoc (.synced rfl)).snoc
    (.tick rfl 1000 fun _ => true)
  have hpushed := (hticked.snoc (.perf (i := 0) rfl (.handle_ticker rfl rfl))).snoc
    (.perf (i := 0) rfl (.populated rfl))
  have hchannel : [(⟨0, 1000⟩ : report)] = [] ++ ⟨0, 1000⟩ :: [] := rfl
  have hstoring := (hpushed.snoc (.reporting (.wait rfl rfl))).snoc
    (.reporting (.handle_reporting rfl hchannel (by simp)))
  have hdeinitialized := ((hstoring.snoc .interrupt).snoc (.check rfl)).snoc (.deinit rfl)
  exact hclaim true _ _ hdeinitialized rfl ⟨0, 1000⟩ rfl

end HwpcSensor.Sensor.Shutdown
