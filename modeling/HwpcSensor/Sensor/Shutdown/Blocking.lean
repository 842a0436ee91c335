import HwpcSensor.Sensor.Shutdown.Termination
import Mathlib.Algebra.Order.BigOperators.Group.List
import Mathlib.Algebra.Order.Group.Nat

namespace HwpcSensor.Sensor.Shutdown

open Transition

-- The process with the calls of `zsock_send` that are under way. A push socket has
-- no peer left once the reporting actor has closed its end, and the call does not
-- return without one.
structure sending_process where
  managed : managed
  sending : List Nat

inductive sending_action where
  | populate (actor : Nat)
  | act (label : action)
  deriving DecidableEq

-- Populating a payload and sending it are two steps, and the second one needs the
-- reporting actor.
inductive SendingStep : sending_process → sending_action → sending_process → Prop
  | populate {t : managed} {sending : List Nat} {i : Nat} {actor : perf_process}
      {timestamp : Nat} (hactor : t.process.perf[i]? = some actor)
      (hphase : actor.phase = .populating timestamp) (hnot : i ∉ sending) :
      SendingStep ⟨t, sending⟩ (.populate i) ⟨t, i :: sending⟩
  | send {t : managed} {sending : List Nat} {i : Nat} {actor : perf_process}
      {timestamp : Nat} (hactor : t.process.perf[i]? = some actor)
      (hphase : actor.phase = .populating timestamp) (hsending : i ∈ sending)
      (hpeer : t.process.reporting ≠ .ended) :
      SendingStep ⟨t, sending⟩ (.act (.perf i))
        ⟨⟨{ t.process.set_perf i { actor with phase := .top } with
            channel := t.process.channel ++ [⟨i, timestamp⟩] }, t.roster⟩, sending.erase i⟩
  | perf {t : managed} {sending : List Nat} {i : Nat} {actor actor' : perf_process}
      (hactor : t.process.perf[i]? = some actor) (hnot : i ∉ sending)
      (hstep : PerfStep t.process.interrupted i actor none actor') :
      SendingStep ⟨t, sending⟩ (.act (.perf i))
        ⟨⟨t.process.set_perf i actor', t.roster⟩, sending⟩
  | act {t t' : managed} {sending : List Nat} {label : action} (hother : ∀ i, label ≠ .perf i)
      (hstep : ManagedStep t label t') :
      SendingStep ⟨t, sending⟩ (.act label) ⟨t', sending⟩

namespace sending_process

def start (system_groups : Bool) : sending_process := ⟨.start system_groups, []⟩

abbrev process (b : sending_process) : Shutdown.process := b.managed.process

end sending_process

-- Nothing can happen but another interruption.
def Stuck (b : sending_process) : Prop :=
  ∀ label b', SendingStep b label b' → label = .act .interrupt

-- `main` has returned, with every actor ended and none left in its variables.
structure Returned (b : sending_process) : Prop where
  main : b.process.main = .done
  perf : ∀ actor ∈ b.process.perf, actor.phase = .ended
  reporting : b.process.reporting = .ended
  containers : b.managed.roster.container_monitoring_actors = []
  system : b.managed.roster.system_perf_monitor = none

-- `main` waits for an actor whose send has no peer.
def Hangs (b : sending_process) : Prop :=
  ∃ i ∈ b.sending, b.process.main.waits_for = some i ∧ b.process.reporting = .ended

section Steps

variable {t t' : managed} {b b' : sending_process} {label : sending_action} {i : Nat}

theorem managed_step_perf {actor actor' : perf_process} {pushed : Option report}
    (hactor : t.process.perf[i]? = some actor)
    (hstep : PerfStep t.process.interrupted i actor pushed actor') :
    ManagedStep t (.perf i) ⟨{ t.process.set_perf i actor' with
      channel := t.process.channel ++ pushed.toList }, t.roster⟩ :=
  ⟨.perf hactor hstep, rfl⟩

theorem managed_step_silent {actor actor' : perf_process}
    (hactor : t.process.perf[i]? = some actor)
    (hstep : PerfStep t.process.interrupted i actor none actor') :
    ManagedStep t (.perf i) ⟨t.process.set_perf i actor', t.roster⟩ := by
  have hmanaged := managed_step_perf hactor hstep
  rw [Option.toList_none, List.append_nil] at hmanaged
  exact hmanaged

-- The process goes on as before, but for the beginnings of the sends.
theorem sending_step_managed (hstep : SendingStep b label b') :
    (∃ l, label = .act l ∧ ManagedStep b.managed l b'.managed) ∨
      ∃ i, label = .populate i ∧ b'.managed = b.managed ∧ b'.sending = i :: b.sending := by
  cases hstep with
  | populate hactor hphase hnot => exact .inr ⟨_, rfl, rfl, rfl⟩
  | send hactor hphase hsending hpeer =>
      exact .inl ⟨_, rfl, managed_step_perf hactor (.populated hphase)⟩
  | perf hactor hnot hstep => exact .inl ⟨_, rfl, managed_step_silent hactor hstep⟩
  | act hother hstep => exact .inl ⟨_, rfl, hstep⟩

-- A step of somebody else leaves an actor where it is.
theorem managed_step_phase {l : action} (hother : ∀ i, l ≠ .perf i) (h : ManagedStep t l t')
    {actor : perf_process} (hactor : t.process.perf[i]? = some actor) :
    ∃ actor', t'.process.perf[i]? = some actor' ∧ actor'.phase = actor.phase := by
  have hset : ∀ {j : Nat} {other : perf_process}, t.process.perf[j]? = some other →
      ∃ actor', (t.process.perf.set j { other with term := true })[i]? = some actor' ∧
        actor'.phase = actor.phase := by
    intro j other hother
    by_cases heq : j = i
    · subst heq
      obtain rfl := Option.some.inj (hactor.symm.trans hother)
      exact ⟨_, List.getElem?_set_self (List.getElem?_eq_some_iff.mp hactor).1, rfl⟩
    · exact ⟨actor, (List.getElem?_set_ne heq).trans hactor, rfl⟩
  have hstep := h.1
  generalize t'.process = s' at hstep
  cases hstep with
  | check | stopped | synced | deinit | destroyed | next_kind | destroy_reporting | finish
  | interrupt => exact ⟨actor, hactor, rfl⟩
  | start_container hmain =>
      refine ⟨actor, ?_, rfl⟩
      exact (List.getElem?_append_left (List.getElem?_eq_some_iff.mp hactor).1).trans hactor
  | stop_container hmain hentry hkind => exact hset hentry
  | destroy hmain hentry hkind => exact hset hentry
  | tick hmain timestamp reached =>
      refine ⟨actor.publish timestamp (reached i), ?_, ?_⟩
      · rw [List.getElem?_mapIdx, hactor]
        rfl
      · unfold perf_process.publish
        split_ifs <;> rfl
  | perf => exact absurd rfl (hother _)
  | reporting hstep =>
      refine ⟨actor, ?_, rfl⟩
      rw [(reporting_step_work hstep).2]
      exact hactor

-- Each send that is under way is one of an actor that has populated a payload.
structure Sends (b : sending_process) : Prop where
  nodup : b.sending.Nodup
  populating : ∀ i ∈ b.sending, ∃ actor timestamp, b.process.perf[i]? = some actor ∧
    actor.phase = .populating timestamp

theorem Sends.step (h : Sends b) (hstep : SendingStep b label b') : Sends b' := by
  have hset : ∀ {t : managed} {sending : List Nat} {i j : Nat} {actor' : perf_process},
      (∀ k ∈ sending, ∃ actor timestamp, t.process.perf[k]? = some actor ∧
        actor.phase = .populating timestamp) → j ∈ sending → j ≠ i →
      ∃ actor timestamp, (t.process.perf.set i actor')[j]? = some actor ∧
        actor.phase = .populating timestamp := by
    intro t sending i j actor' hsending hj hne
    obtain ⟨actor, timestamp, hactor, hphase⟩ := hsending j hj
    exact ⟨actor, timestamp, (List.getElem?_set_ne (Ne.symm hne)).trans hactor, hphase⟩
  cases hstep with
  | populate hactor hphase hnot =>
      exact ⟨List.nodup_cons.mpr ⟨hnot, h.nodup⟩,
        List.forall_mem_cons.mpr ⟨⟨_, _, hactor, hphase⟩, h.populating⟩⟩
  | @send t sending i actor timestamp hactor hphase hsending hpeer =>
      refine ⟨h.nodup.erase i, fun j hj => ?_⟩
      obtain ⟨hne, hmem⟩ := h.nodup.mem_erase_iff.mp hj
      exact hset h.populating hmem hne
  | @perf t sending i actor actor' hactor hnot hstep =>
      refine ⟨h.nodup, fun j hj => ?_⟩
      exact hset h.populating hj fun heq => hnot (heq ▸ hj)
  | act hother hstep =>
      refine ⟨h.nodup, fun j hj => ?_⟩
      obtain ⟨actor, timestamp, hactor, hphase⟩ := h.populating j hj
      obtain ⟨actor', hactor', hsame⟩ := managed_step_phase hother hstep hactor
      exact ⟨actor', timestamp, hactor', hsame.trans hphase⟩

end Steps

theorem reporting_step_running {s s' : process} (hstep : ReportingStep s s') :
    s.reporting ≠ .ended := by
  intro hended
  cases hstep with
  | terminated hphase hstop =>
      rw [hended] at hphase
      simp at hphase
  | wait hphase | handle_pipe hphase | handle_reporting hphase | stored hphase =>
      exact reporting_phase.noConfusion (hended.symm.trans hphase)

section Ends

variable {t t' : Shutdown.managed} {b b' last : sending_process} {label : sending_action}
  {more : List sending_action}

-- Where `main` has destroyed the containers' actors, and the system's.

def main_phase.past_containers : main_phase → Bool
  | destroying .system _ | destroying_reporting _ | done => true
  | _ => false

def main_phase.past_system : main_phase → Bool
  | destroying_reporting _ | done => true
  | _ => false

structure Emptied (t : managed) : Prop where
  containers : t.process.main.past_containers = true → t.roster.actors = []
  system : t.process.main.past_system = true → t.roster.system_perf_monitor = none
  reporting : t.process.main = .done → t.process.reporting = .ended

theorem Emptied.step {l : action} (h : Emptied t) (hmanaged : ManagedStep t l t') :
    Emptied t' := by
  obtain ⟨s, r⟩ := t
  obtain ⟨s', r'⟩ := t'
  have hstep : ProcessStep s l s' := hmanaged.1
  have hfollows : r.Follows s l r' := hmanaged.2
  -- back in the loop nothing is asked
  have hloop : s'.main.past_containers = false → s'.main.past_system = false →
      s'.main ≠ .done → Emptied ⟨s', r'⟩ := by
    intro hcontainers hsystem hdone
    refine ⟨fun hpast => ?_, fun hpast => ?_, fun hmain => absurd hmain hdone⟩
    · exact absurd (hcontainers.symm.trans hpast) Bool.false_ne_true
    · exact absurd (hsystem.symm.trans hpast) Bool.false_ne_true
  cases hstep with
  | check hmain =>
      refine hloop ?_ ?_ ?_ <;> by_cases hstop : s.interrupted = true <;>
        simp [hstop, main_phase.past_containers, main_phase.past_system]
  | start_container hmain =>
      refine hloop ?_ ?_ ?_ <;>
        simp [hmain, main_phase.past_containers, main_phase.past_system]
  | stop_container | stopped | synced | tick | deinit => exact hloop rfl rfl nofun
  | @destroy i actor kind hmain hactor hkind =>
      refine ⟨fun hpast => ?_, nofun, nofun⟩
      cases kind with
      | container => exact absurd hpast Bool.false_ne_true
      | system =>
          have hnil : r.actors = [] := h.containers (by rw [hmain]; rfl)
          rcases hfollows with ⟨hmem, -⟩ | ⟨-, rfl⟩
          · exact absurd hmem (by rw [hnil]; exact List.not_mem_nil)
          · exact hnil
  | @destroyed i actor kind hmain hactor hended =>
      obtain rfl : r' = r := hfollows
      cases kind with
      | container => exact hloop rfl rfl nofun
      | system => exact ⟨fun _ => h.containers (by rw [hmain]; rfl), nofun, nofun⟩
  | @next_kind kind hmain hall =>
      obtain ⟨hcontainers, hsystem, rfl⟩ := hfollows
      cases kind with
      | container => exact ⟨fun _ => hcontainers hmain, nofun, nofun⟩
      | system =>
          exact ⟨fun _ => h.containers (by rw [hmain]; rfl), fun _ => hsystem hmain, nofun⟩
  | destroy_reporting hmain =>
      obtain rfl : r' = r := hfollows
      exact ⟨fun _ => h.containers (by rw [hmain]; rfl), fun _ => h.system (by rw [hmain]; rfl),
        nofun⟩
  | finish hmain hended =>
      obtain rfl : r' = r := hfollows
      exact ⟨fun _ => h.containers (by rw [hmain]; rfl), fun _ => h.system (by rw [hmain]; rfl),
        fun _ => hended⟩
  | interrupt | perf =>
      obtain rfl : r' = r := hfollows
      exact ⟨h.containers, h.system, h.reporting⟩
  | reporting hstep =>
      obtain rfl : r' = r := hfollows
      obtain ⟨hmain, -, -⟩ := reporting_step_frame hstep
      refine ⟨fun hpast => h.containers (hmain ▸ hpast), fun hpast => h.system (hmain ▸ hpast),
        fun hdone => ?_⟩
      exact absurd (h.reporting (hmain.symm.trans hdone)) (reporting_step_running hstep)

theorem returned_of_done (haccounted : Accounted b.managed) (h : Emptied b.managed)
    (hmain : b.process.main = .done) : Returned b := by
  have hcontainers : b.managed.roster.actors = [] := h.containers (by rw [hmain]; rfl)
  have hsystem := h.system (by rw [hmain]; rfl)
  refine ⟨hmain, fun actor hactor => ?_, h.reporting hmain, hcontainers, hsystem⟩
  obtain ⟨i, hactor⟩ := List.mem_iff_getElem?.mp hactor
  rcases haccounted.running i actor hactor with hended | hheld | hheld | hwaited
  · exact hended
  · exact absurd hheld (by rw [hcontainers]; exact List.not_mem_nil)
  · exact absurd (hsystem.symm.trans hheld) nofun
  · exact absurd hwaited (by rw [hmain]; nofun)

theorem Returned.no_sends (h : Returned b) (hsends : Sends b) : b.sending = [] := by
  refine List.eq_nil_iff_forall_not_mem.mpr fun i hi => ?_
  obtain ⟨actor, timestamp, hactor, hphase⟩ := hsends.populating i hi
  have hended := h.perf actor (List.mem_of_getElem? hactor)
  exact perf_phase.noConfusion (hphase.symm.trans hended)

-- What can still go on when `main` has not returned, other than a send.
theorem stuck_hangs (haccounted : Accounted b.managed) (hsends : Sends b) (hstuck : Stuck b)
    (hmain : b.process.main ≠ .done) : Hangs b := by
  obtain ⟨t, sending⟩ := b
  rcases haccounted.goes_on hmain with ⟨label, t', hlabel, hstep⟩ |
    ⟨i, actor, pushed, actor', hwaits, hactor, hstep⟩
  · have hother : ∀ i, label ≠ .perf i := by
      rintro i rfl
      exact Bool.false_ne_true hlabel
    obtain rfl : label = .interrupt :=
      sending_action.act.inj (hstuck _ _ (.act hother hstep))
    exact absurd hlabel Bool.false_ne_true
  · by_cases hsending : i ∈ sending
    · obtain ⟨other, timestamp, hother, hphase⟩ := hsends.populating i hsending
      refine ⟨i, hsending, hwaits, ?_⟩
      by_contra hpeer
      exact absurd (hstuck _ _ (.send hother hphase hsending hpeer)) (by simp)
    · cases pushed with
      | none => exact absurd (hstuck _ _ (.perf hactor hsending hstep)) (by simp)
      | some report =>
          cases hstep with
          | populated hphase =>
              exact absurd (hstuck _ _ (.populate hactor hphase hsending)) (by simp)

-- A send that has no peer never returns, and neither does `main`.
structure Blocked (i : Nat) (b : sending_process) : Prop where
  sending : i ∈ b.sending
  reporting : b.process.reporting = .ended

theorem Blocked.step {i : Nat} (h : Blocked i b) (hstep : SendingStep b label b') :
    Blocked i b' := by
  have hreporting : ∀ {t t' : managed} {l : action}, ManagedStep t l t' →
      t.process.reporting = .ended → t'.process.reporting = .ended := by
    intro t t' l hmanaged hended
    have hstep := hmanaged.1
    generalize t'.process = s' at hstep
    cases hstep with
    | reporting hstep => exact absurd hended (reporting_step_running hstep)
    | _ => exact hended
  cases hstep with
  | populate hactor hphase hnot => exact ⟨List.mem_cons_of_mem _ h.sending, h.reporting⟩
  | send hactor hphase hsending hpeer => exact absurd h.reporting hpeer
  | perf hactor hnot hstep => exact ⟨h.sending, h.reporting⟩
  | act hother hstep => exact ⟨h.sending, hreporting hstep h.reporting⟩

-- What is left to do, with each step twice: a payload that is not yet being sent has
-- the beginning of its send before it.
def sending_process.work (b : sending_process) : Nat :=
  2 * b.managed.work - b.sending.length

theorem length_le_sum {α : Type} (f : α → Nat) {items : List α} {places : List Nat}
    (hnodup : places.Nodup)
    (h : ∀ i ∈ places, ∃ item, items[i]? = some item ∧ 1 ≤ f item) :
    places.length ≤ (items.map f).sum := by
  have hitems : (List.range items.length).map (fun i => ((items.map f)[i]?).getD 0) =
      items.map f := by
    refine List.ext_getElem (by simp) fun i hi hi' => ?_
    rw [List.getElem_map, List.getElem_range, List.getElem?_eq_getElem hi', Option.getD_some]
  have hsubset : places ⊆ List.range items.length := by
    intro i hi
    obtain ⟨item, hitem, -⟩ := h i hi
    exact List.mem_range.mpr (List.getElem?_eq_some_iff.mp hitem).1
  obtain ⟨sorted, hperm, hsublist⟩ := List.subperm_of_subset hnodup hsubset
  rw [← hitems, ← hperm.length_eq, ← List.length_map (fun i => ((items.map f)[i]?).getD 0)]
  refine (List.length_le_sum_of_one_le _ fun n hn => ?_).trans
    ((hsublist.map _).sum_le_sum fun n _ => Nat.zero_le n)
  obtain ⟨i, hi, rfl⟩ := List.mem_map.mp hn
  obtain ⟨item, hitem, hone⟩ := h i (hperm.subset hi)
  rw [List.getElem?_map, hitem]
  exact hone

theorem Sends.length_le (h : Sends b) : b.sending.length ≤ b.managed.work := by
  have hsum : b.sending.length ≤ (b.managed.process.perf.map perf_process.work).sum := by
    refine length_le_sum perf_process.work h.nodup fun i hi => ?_
    obtain ⟨actor, timestamp, hactor, hphase⟩ := h.populating i hi
    refine ⟨actor, hactor, ?_⟩
    simp only [perf_process.work, perf_phase.work, hphase]
    omega
  refine hsum.trans ?_
  simp only [managed.work, process.actors_work]
  omega

theorem sending_step_interrupted (hstep : SendingStep b label b')
    (hinterrupted : b.process.interrupted = true) : b'.process.interrupted = true := by
  rcases sending_step_managed hstep with ⟨l, rfl, hmanaged⟩ | ⟨i, rfl, hsame, -⟩
  · exact managed_step_interrupted hmanaged hinterrupted
  · rw [sending_process.process, hsame]
    exact hinterrupted

theorem sending_work_lt (haccounted : Accounted b.managed) (hsends : Sends b)
    (hinterrupted : b.process.interrupted = true) (hstep : SendingStep b label b')
    (hlabel : label ≠ .act .interrupt) : b'.work < b.work := by
  have hlength' := (hsends.step hstep).length_le
  have hlength := hsends.length_le
  unfold sending_process.work
  cases hstep with
  | populate hactor hphase hnot =>
      simp only [List.length_cons] at hlength' ⊢
      omega
  | send hactor hphase hsending hpeer =>
      have hwork := work_lt haccounted hinterrupted
        (managed_step_perf hactor (.populated hphase)) nofun
      have herase := List.length_erase_of_mem hsending
      dsimp only at hlength hlength' hwork herase ⊢
      simp only [Option.toList_some] at hwork
      omega
  | perf hactor hnot hstep =>
      have hwork := work_lt haccounted hinterrupted (managed_step_silent hactor hstep) nofun
      dsimp only at hlength hlength' hwork ⊢
      omega
  | act hother hstep =>
      have hwork := work_lt haccounted hinterrupted hstep fun heq => hlabel (heq ▸ rfl)
      dsimp only at hlength hlength' hwork ⊢
      omega

theorem sending_work_le (hstep : SendingStep b (.act .interrupt) b') : b'.work ≤ b.work := by
  cases hstep with
  | act hother hstep =>
      have hwork := work_le hstep
      unfold sending_process.work
      simp only
      omega

structure Sound (b : sending_process) : Prop where
  accounted : Accounted b.managed
  emptied : Emptied b.managed
  sends : Sends b

theorem sound_start (system_groups : Bool) : Sound (.start system_groups) :=
  ⟨accounted_start system_groups, ⟨nofun, nofun, nofun⟩, ⟨List.nodup_nil, nofun⟩⟩

theorem Sound.step (h : Sound b) (hstep : SendingStep b label b') : Sound b' := by
  have hsends := h.sends.step hstep
  rcases sending_step_managed hstep with ⟨l, rfl, hmanaged⟩ | ⟨i, rfl, hsame, -⟩
  · exact ⟨accounted_step h.accounted hmanaged, h.emptied.step hmanaged, hsends⟩
  · exact ⟨hsame ▸ h.accounted, hsame ▸ h.emptied, hsends⟩

end Ends

-- An interrupted process comes to rest after a bounded number of steps, in any order.
-- It rests where `main` has returned, with every actor ended and destroyed, unless an
-- actor is in a send whose peer has ended: then `main` never returns.
theorem interrupted_process_ends {system_groups : Bool} {labels : List sending_action}
    {b : sending_process} (hrun : Run SendingStep (.start system_groups) labels b) :
    (b.process.interrupted = true → ∀ more last, Run SendingStep b more last →
      (more.filter (· ≠ .act .interrupt)).length + last.work ≤ b.work) ∧
    (Stuck b → b.sending = [] → Returned b) ∧ (Stuck b → b.sending ≠ [] → Hangs b) ∧
    (b.sending ≠ [] → b.process.reporting = .ended → ∀ more last, Run SendingStep b more last →
      last.process.main ≠ .done) := by
  have hsound : ∀ {more : List sending_action} {last : sending_process} (b : sending_process),
      Sound b → Run SendingStep b more last → Sound last :=
    fun b hb hmore => hmore.invariant Sound hb fun _ _ _ h hstep => h.step hstep
  have hb := hsound _ (sound_start system_groups) hrun
  refine ⟨fun hinterrupted more last hmore => ?_, fun hstuck hnone => ?_, fun hstuck hsome => ?_,
    fun hsome hended more last hmore hdone => ?_⟩
  · refine hmore.bounded (fun u => Sound u ∧ u.process.interrupted = true)
      (fun label => label ≠ .act .interrupt) sending_process.work ⟨hb, hinterrupted⟩ ?_ ?_ ?_
    · intro u label u' ⟨hu, hu_interrupted⟩ hstep
      exact ⟨hu.step hstep, sending_step_interrupted hstep hu_interrupted⟩
    · intro u label u' ⟨hu, hu_interrupted⟩ hstep hlabel
      exact sending_work_lt hu.accounted hu.sends hu_interrupted hstep (by simpa using hlabel)
    · intro u label u' _ hstep hlabel
      obtain rfl : label = .act .interrupt := by simpa using hlabel
      exact sending_work_le hstep
  · by_contra hnot
    obtain ⟨i, hi, -⟩ := stuck_hangs hb.accounted hb.sends hstuck fun hmain =>
      hnot (returned_of_done hb.accounted hb.emptied hmain)
    exact absurd hi (hnone ▸ List.not_mem_nil)
  · refine stuck_hangs hb.accounted hb.sends hstuck fun hmain => hsome ?_
    exact (returned_of_done hb.accounted hb.emptied hmain).no_sends hb.sends
  · obtain ⟨i, hi⟩ := List.exists_mem_of_ne_nil _ hsome
    have hblocked := hmore.invariant (Blocked i) ⟨hi, hended⟩ fun _ _ _ h hstep => h.step hstep
    have hlast := hsound b hb hmore
    have hnone := (returned_of_done hlast.accounted hlast.emptied hdone).no_sends hlast.sends
    exact absurd hblocked.sending (hnone ▸ List.not_mem_nil)

-- The process with the system's actor only.
def with_system (main : main_phase) (interrupted : Bool) (phase : perf_phase) (ticks : List Nat)
    (reporting : reporting_phase) : managed where
  process := { process.start true with
    main := main
    interrupted := interrupted
    perf := [⟨.system, phase, ticks, false⟩]
    reporting := reporting }
  roster := ⟨[], some 0, [], 0⟩

-- It has populated its first payload when the interruption comes, and the reporting
-- actor ends before it is sent.
def blocked_send : sending_process :=
  ⟨with_system .checking true (.populating 1) [] .ended, [0]⟩

theorem reaches_blocked_send : ∃ labels, Run SendingStep (.start true) labels blocked_send := by
  have hcreate : SendingStep (.start true) (.act (.perf 0))
      ⟨with_system .checking false .initializing [] .top, []⟩ :=
    .perf rfl List.not_mem_nil (.create rfl)
  have hinitialize : SendingStep ⟨with_system .checking false .initializing [] .top, []⟩
      (.act (.perf 0)) ⟨with_system .checking false .top [] .top, []⟩ :=
    .perf rfl List.not_mem_nil (.initialized rfl)
  have hwait : SendingStep ⟨with_system .checking false .top [] .top, []⟩ (.act (.perf 0))
      ⟨with_system .checking false .waiting [] .top, []⟩ :=
    .perf rfl List.not_mem_nil (.wait rfl rfl)
  have hcheck : SendingStep ⟨with_system .checking false .waiting [] .top, []⟩ (.act .check)
      ⟨with_system .syncing false .waiting [] .top, []⟩ :=
    .act nofun ⟨.check rfl, [], 0, List.nil_subperm, rfl⟩
  have hsynced : SendingStep ⟨with_system .syncing false .waiting [] .top, []⟩ (.act .synced)
      ⟨with_system .ticking false .waiting [] .top, []⟩ :=
    .act nofun ⟨.synced rfl, rfl, rfl, rfl⟩
  have htick : SendingStep ⟨with_system .ticking false .waiting [] .top, []⟩ (.act .tick)
      ⟨with_system .checking false .waiting [1] .top, []⟩ :=
    .act nofun ⟨.tick rfl 1 fun _ => true, rfl⟩
  have hticker : SendingStep ⟨with_system .checking false .waiting [1] .top, []⟩
      (.act (.perf 0)) ⟨with_system .checking false (.populating 1) [] .top, []⟩ :=
    .perf rfl List.not_mem_nil (.handle_ticker rfl rfl)
  have hpopulate : SendingStep ⟨with_system .checking false (.populating 1) [] .top, []⟩
      (.populate 0) ⟨with_system .checking false (.populating 1) [] .top, [0]⟩ :=
    .populate rfl rfl List.not_mem_nil
  have hinterrupt : SendingStep ⟨with_system .checking false (.populating 1) [] .top, [0]⟩
      (.act .interrupt) ⟨with_system .checking true (.populating 1) [] .top, [0]⟩ :=
    .act nofun ⟨.interrupt, rfl⟩
  have hended : SendingStep ⟨with_system .checking true (.populating 1) [] .top, [0]⟩
      (.act .reporting) blocked_send :=
    .act nofun ⟨.reporting (.terminated (.inl rfl) rfl), rfl⟩
  have hwaits := ((Run.single hcreate).snoc hinitialize).snoc hwait
  have hticked := ((hwaits.snoc hcheck).snoc hsynced).snoc htick
  exact ⟨_, (((hticked.snoc hticker).snoc hpopulate).snoc hinterrupt).snoc hended⟩

def interrupted_early : sending_process :=
  ⟨⟨{ process.start true with interrupted := true }, ⟨[], some 0, [], 0⟩⟩, []⟩

theorem interrupted_process_ends_blocked :
    (∀ more last, Run SendingStep interrupted_early more last →
      (more.filter (· ≠ .act .interrupt)).length + last.work ≤ 28) ∧
    (∀ more last, Run SendingStep interrupted_early more last → Stuck last →
      last.sending = [] → Returned last) ∧
    ∀ more last, Run SendingStep blocked_send more last →
      (more.filter (· ≠ .act .interrupt)).length + last.work ≤ 27 ∧
        last.process.main ≠ .done := by
  have hinterrupt : Run SendingStep (.start true) [.act .interrupt] interrupted_early :=
    .single (.act nofun ⟨.interrupt, rfl⟩)
  obtain ⟨labels, hblocked⟩ := reaches_blocked_send
  obtain ⟨hends, -, -, hhangs⟩ := interrupted_process_ends hblocked
  refine ⟨(interrupted_process_ends hinterrupt).1 rfl, fun more last hmore =>
    (interrupted_process_ends (hinterrupt.append hmore)).2.1, fun more last hmore =>
    ⟨hends rfl more last hmore, hhangs (by decide) rfl more last hmore⟩⟩

end HwpcSensor.Sensor.Shutdown
