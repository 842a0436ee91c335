import HwpcSensor.Sensor.Shutdown.Theorems
import Mathlib.Algebra.GroupWithZero.Nat
import Mathlib.Data.List.Perm.Subperm

namespace HwpcSensor.Sensor.Shutdown

open Transition

-- The variables of `main` that hold its actors, known by their numbers, and what
-- the synchronisation under way still has to do: the containers to stop, and how
-- many there are to start.
structure roster where
  container_monitoring_actors : List Nat
  system_perf_monitor : Option Nat
  stops : List Nat
  starts : Nat

structure managed where
  process : process
  roster : roster

namespace roster

abbrev actors (r : roster) : List Nat := r.container_monitoring_actors

-- What a step of `main` does to its variables. A synchronisation stops actors of
-- its table, and then starts as many as it found new containers. Behind the loop
-- each actor is destroyed once, the containers' ones by the table.
def Follows (s : Shutdown.process) (r : roster) : action → roster → Prop
  | .check, r' => ∃ stops starts, stops.Subperm r.actors ∧ r' = { r with stops, starts }
  | .stop_container i, r' => ∃ stops, r.stops = i :: stops ∧
      r' = { r with container_monitoring_actors := r.actors.erase i, stops }
  | .start_container, r' => ∃ starts, r.stops = [] ∧ r.starts = starts + 1 ∧
      r' = { r with container_monitoring_actors := r.actors ++ [s.perf.length], starts }
  | .synced, r' => r.stops = [] ∧ r.starts = 0 ∧ r' = r
  | .destroy i, r' =>
      i ∈ r.actors ∧ r' = { r with container_monitoring_actors := r.actors.erase i } ∨
        r.system_perf_monitor = some i ∧ r' = { r with system_perf_monitor := none }
  | .next_kind, r' => (s.main = .destroying .container none → r.actors = []) ∧
      (s.main = .destroying .system none → r.system_perf_monitor = none) ∧ r' = r
  | _, r' => r' = r

end roster

def ManagedStep (t : managed) (label : action) (t' : managed) : Prop :=
  ProcessStep t.process label t'.process ∧ t.roster.Follows t.process label t'.roster

def managed.start (system_groups : Bool) : managed where
  process := .start system_groups
  roster := ⟨[], if system_groups then some 0 else none, [], 0⟩

-- The actor whose end `main` waits for.
def main_phase.waits_for : main_phase → Option Nat
  | stopping i => some i
  | destroying _ waiting_for => waiting_for
  | _ => none

def main_phase.in_sync : main_phase → Bool
  | syncing | stopping _ => true
  | _ => false

-- Every actor that has not ended is in a variable of `main` or waited for, and
-- who is waited for has been told to end.
structure Accounted (t : managed) : Prop where
  nodup : t.roster.actors.Nodup
  containers : ∀ i ∈ t.roster.actors, ∃ actor, t.process.perf[i]? = some actor ∧
    actor.kind = .container
  system : ∀ i, t.roster.system_perf_monitor = some i → ∃ actor,
    t.process.perf[i]? = some actor ∧ actor.kind = .system
  plan : t.process.main.in_sync = true → t.roster.stops.Subperm t.roster.actors
  running : ∀ i actor, t.process.perf[i]? = some actor → actor.phase = .ended ∨
    i ∈ t.roster.actors ∨ t.roster.system_perf_monitor = some i ∨
      t.process.main.waits_for = some i
  awaited : ∀ i, t.process.main.waits_for = some i → ∃ actor,
    t.process.perf[i]? = some actor ∧ actor.term = true
  reporting : t.process.main = .destroying_reporting true → t.process.reporting_term = true

theorem accounted_start (system_groups : Bool) : Accounted (.start system_groups) := by
  cases system_groups with
  | true =>
      refine ⟨List.nodup_nil, by simp [managed.start, roster.actors], ?_, ?_, ?_, ?_, ?_⟩
      · rintro i hi
        obtain rfl : 0 = i := by simpa [managed.start] using hi
        exact ⟨_, rfl, rfl⟩
      · simp [managed.start, process.start, main_phase.in_sync]
      · intro i actor hactor
        cases i with
        | zero => exact Or.inr (Or.inr (Or.inl rfl))
        | succ i => simp [managed.start, process.start] at hactor
      · simp [managed.start, process.start, main_phase.waits_for]
      · simp [managed.start, process.start]
  | false =>
      refine ⟨List.nodup_nil, ?_, ?_, ?_, ?_, ?_, ?_⟩ <;>
        simp [managed.start, process.start, roster.actors, main_phase.in_sync,
          main_phase.waits_for]

-- What every step leaves of an actor: its kind, that it was told to end, and that
-- it has ended.
structure Continues (actor actor' : perf_process) : Prop where
  kind : actor'.kind = actor.kind
  term : actor.term = true → actor'.term = true
  ended : actor.phase = .ended → actor'.phase = .ended

theorem Continues.refl (actor : perf_process) : Continues actor actor :=
  ⟨rfl, id, id⟩

theorem continues_perf_step {interrupted : Bool} {i : Nat} {actor actor' : perf_process}
    {pushed : Option report} (hstep : PerfStep interrupted i actor pushed actor') :
    Continues actor actor' := by
  cases hstep with
  | terminated hphase hstop => exact ⟨rfl, id, fun _ => rfl⟩
  | create hphase | unresolved hphase | not_initialized hphase | initialized hphase
  | wait hphase | handle_pipe hphase | handle_ticker hphase | populated hphase
  | not_populated hphase => exact ⟨rfl, id, fun hended => by simp [hphase] at hended⟩

theorem continues_publish (timestamp : Nat) (reached : Bool) (actor : perf_process) :
    Continues actor (actor.publish timestamp reached) := by
  unfold perf_process.publish
  split_ifs
  · exact ⟨rfl, id, id⟩
  · exact .refl actor

-- A step that leaves the number of actors as it is.
def Continue (perf perf' : List perf_process) : Prop :=
  ∀ i : Nat, Option.Rel Continues perf[i]? perf'[i]?

theorem Continue.refl (perf : List perf_process) : Continue perf perf := by
  intro i
  cases perf[i]? with
  | none => exact .none
  | some actor => exact .some (.refl actor)

theorem Continue.set {perf : List perf_process} {i : Nat} {actor actor' : perf_process}
    (hactor : perf[i]? = some actor) (h : Continues actor actor') :
    Continue perf (perf.set i actor') := by
  intro j
  by_cases heq : i = j
  · subst heq
    rw [hactor, List.getElem?_set_self (List.getElem?_eq_some_iff.mp hactor).1]
    exact .some h
  · rw [List.getElem?_set_ne heq]
    exact Continue.refl perf j

theorem Continue.mapIdx {perf : List perf_process} {f : Nat → perf_process → perf_process}
    (h : ∀ i actor, Continues actor (f i actor)) : Continue perf (perf.mapIdx f) := by
  intro i
  rw [List.getElem?_mapIdx]
  cases perf[i]? with
  | none => exact .none
  | some actor => exact .some (h i actor)

theorem Continue.old {perf perf' : List perf_process} (h : Continue perf perf') {i : Nat}
    {actor : perf_process} (hactor : perf[i]? = some actor) :
    ∃ actor', perf'[i]? = some actor' ∧ Continues actor actor' := by
  have hrel := h i
  rw [hactor] at hrel
  cases hactor' : perf'[i]? with
  | none => simp [hactor'] at hrel
  | some actor' =>
      rw [hactor'] at hrel
      exact ⟨actor', rfl, by simpa using hrel⟩

theorem Continue.new {perf perf' : List perf_process} (h : Continue perf perf') {i : Nat}
    {actor' : perf_process} (hactor' : perf'[i]? = some actor') :
    ∃ actor, perf[i]? = some actor ∧ Continues actor actor' := by
  have hrel := h i
  rw [hactor'] at hrel
  cases hactor : perf[i]? with
  | none => simp [hactor] at hrel
  | some actor =>
      rw [hactor] at hrel
      exact ⟨actor, rfl, by simpa using hrel⟩

-- A step that does not take an actor out of a variable, and waits for no other.
theorem Accounted.continue {t t' : managed} (h : Accounted t)
    (hperf : Continue t.process.perf t'.process.perf)
    (hactors : t'.roster.actors = t.roster.actors)
    (hsystem : t'.roster.system_perf_monitor = t.roster.system_perf_monitor)
    (hplan : t'.process.main.in_sync = true → t'.roster.stops.Subperm t'.roster.actors)
    (hwaits : t'.process.main.waits_for = t.process.main.waits_for ∨
      t'.process.main.waits_for = none ∧ ∀ i, t.process.main.waits_for = some i →
        ∃ actor, t.process.perf[i]? = some actor ∧ actor.phase = .ended)
    (hreporting : t'.process.main = .destroying_reporting true →
      t'.process.reporting_term = true) : Accounted t' := by
  refine ⟨hactors ▸ h.nodup, ?_, ?_, hplan, ?_, ?_, hreporting⟩
  · intro i hi
    obtain ⟨actor, hactor, hkind⟩ := h.containers i (hactors ▸ hi)
    obtain ⟨actor', hactor', hcontinues⟩ := hperf.old hactor
    exact ⟨actor', hactor', hcontinues.kind.trans hkind⟩
  · intro i hi
    obtain ⟨actor, hactor, hkind⟩ := h.system i (hsystem ▸ hi)
    obtain ⟨actor', hactor', hcontinues⟩ := hperf.old hactor
    exact ⟨actor', hactor', hcontinues.kind.trans hkind⟩
  · intro i actor' hactor'
    obtain ⟨actor, hactor, hcontinues⟩ := hperf.new hactor'
    rw [hactors, hsystem]
    rcases h.running i actor hactor with hended | hmem | hmem | hwaited
    · exact Or.inl (hcontinues.ended hended)
    · exact Or.inr (Or.inl hmem)
    · exact Or.inr (Or.inr (Or.inl hmem))
    · rcases hwaits with heq | ⟨-, hended⟩
      · exact Or.inr (Or.inr (Or.inr (heq.trans hwaited)))
      · obtain ⟨ended, hactor₂, hphase⟩ := hended i hwaited
        obtain rfl := Option.some.inj (hactor.symm.trans hactor₂)
        exact Or.inl (hcontinues.ended hphase)
  · intro i hi
    rcases hwaits with heq | ⟨hnone, -⟩
    · obtain ⟨actor, hactor, hterm⟩ := h.awaited i (heq ▸ hi)
      obtain ⟨actor', hactor', hcontinues⟩ := hperf.old hactor
      exact ⟨actor', hactor', hcontinues.term hterm⟩
    · exact absurd (hnone.symm.trans hi) (by simp)

-- `zactor_destroy` of an actor that a variable of `main` holds.
theorem Accounted.terminate {t t' : managed} (h : Accounted t) {i : Nat} {actor : perf_process}
    (hactor : t.process.perf[i]? = some actor)
    (hperf : t'.process.perf = t.process.perf.set i { actor with term := true })
    (hidle : t.process.main.waits_for = none) (hwaits : t'.process.main.waits_for = some i)
    (hroster : i ∈ t.roster.actors ∧ t'.roster.actors = t.roster.actors.erase i ∧
        t'.roster.system_perf_monitor = t.roster.system_perf_monitor ∨
      t.roster.system_perf_monitor = some i ∧ t'.roster.actors = t.roster.actors ∧
        t'.roster.system_perf_monitor = none)
    (hplan : t'.process.main.in_sync = true → t'.roster.stops.Subperm t'.roster.actors) :
    Accounted t' := by
  have hcontinue : Continue t.process.perf t'.process.perf := by
    rw [hperf]
    exact Continue.set hactor ⟨rfl, fun _ => rfl, id⟩
  have hsub : t'.roster.actors.Sublist t.roster.actors := by
    rcases hroster with ⟨-, hactors, -⟩ | ⟨-, hactors, -⟩
    · exact hactors ▸ List.erase_sublist
    · exact hactors ▸ List.Sublist.refl _
  refine ⟨h.nodup.sublist hsub, ?_, ?_, hplan, ?_, ?_, ?_⟩
  · intro j hj
    obtain ⟨other, hother, hkind⟩ := h.containers j (hsub.subset hj)
    obtain ⟨other', hother', hcontinues⟩ := hcontinue.old hother
    exact ⟨other', hother', hcontinues.kind.trans hkind⟩
  · intro j hj
    have hj' : t.roster.system_perf_monitor = some j := by
      rcases hroster with ⟨-, -, hsystem⟩ | ⟨-, -, hsystem⟩
      · exact hsystem ▸ hj
      · exact absurd (hsystem.symm.trans hj) (by simp)
    obtain ⟨other, hother, hkind⟩ := h.system j hj'
    obtain ⟨other', hother', hcontinues⟩ := hcontinue.old hother
    exact ⟨other', hother', hcontinues.kind.trans hkind⟩
  · intro j other' hother'
    by_cases heq : j = i
    · exact Or.inr (Or.inr (Or.inr (heq ▸ hwaits)))
    · obtain ⟨other, hother, hcontinues⟩ := hcontinue.new hother'
      rcases h.running j other hother with hended | hmem | hmem | hwaited
      · exact Or.inl (hcontinues.ended hended)
      · refine Or.inr (Or.inl ?_)
        rcases hroster with ⟨-, hactors, -⟩ | ⟨-, hactors, -⟩
        · rw [hactors]
          exact (List.mem_erase_of_ne heq).mpr hmem
        · exact hactors ▸ hmem
      · refine Or.inr (Or.inr (Or.inl ?_))
        rcases hroster with ⟨-, -, hsystem⟩ | ⟨hsystem, -, -⟩
        · exact hsystem.trans hmem
        · exact absurd (Option.some.inj (hmem.symm.trans hsystem)) heq
      · exact absurd (hidle.symm.trans hwaited) (by simp)
  · intro j hj
    obtain rfl := Option.some.inj (hwaits.symm.trans hj)
    refine ⟨{ actor with term := true }, ?_, rfl⟩
    rw [hperf, List.getElem?_set_self (List.getElem?_eq_some_iff.mp hactor).1]
  · intro hmain
    rw [hmain] at hwaits
    cases hwaits

theorem Accounted.start_container {t t' : managed} (h : Accounted t)
    (hmain : t.process.main = .syncing) (hmain' : t'.process.main = .syncing)
    (hperf : t'.process.perf = t.process.perf ++ [⟨.container, .starting, [], false⟩])
    (hstops : t'.roster.stops = []) (hsystem : t'.roster.system_perf_monitor =
      t.roster.system_perf_monitor)
    (hactors : t'.roster.actors = t.roster.actors ++ [t.process.perf.length]) :
    Accounted t' := by
  have hlength : ∀ {i : Nat} {actor : perf_process}, t.process.perf[i]? = some actor →
      i < t.process.perf.length := fun hactor => (List.getElem?_eq_some_iff.mp hactor).1
  have hold : ∀ {i : Nat} {actor : perf_process}, t.process.perf[i]? = some actor →
      t'.process.perf[i]? = some actor := by
    intro i actor hactor
    rw [hperf, List.getElem?_append_left (hlength hactor)]
    exact hactor
  have hidle : t'.process.main.waits_for = none := by rw [hmain']; rfl
  refine ⟨?_, ?_, ?_, fun _ => ?_, ?_, ?_, ?_⟩
  · rw [hactors]
    refine List.nodup_append.mpr ⟨h.nodup, by simp, ?_⟩
    intro i hi j hj heq
    obtain ⟨actor, hactor, -⟩ := h.containers i hi
    have hlt := hlength hactor
    rw [heq, List.mem_singleton.mp hj] at hlt
    omega
  · intro i hi
    rw [hactors] at hi
    rcases List.mem_append.mp hi with hi | hi
    · obtain ⟨actor, hactor, hkind⟩ := h.containers i hi
      exact ⟨actor, hold hactor, hkind⟩
    · obtain rfl := List.mem_singleton.mp hi
      exact ⟨_, by rw [hperf, List.getElem?_concat_length], rfl⟩
  · intro i hi
    obtain ⟨actor, hactor, hkind⟩ := h.system i (hsystem ▸ hi)
    exact ⟨actor, hold hactor, hkind⟩
  · rw [hstops]
    exact List.nil_subperm
  · intro i actor hactor
    by_cases heq : i = t.process.perf.length
    · refine Or.inr (Or.inl ?_)
      rw [hactors, heq]
      exact List.mem_append_right _ (List.mem_singleton_self _)
    · have hlt : i < t.process.perf.length := by
        have hlt := (List.getElem?_eq_some_iff.mp hactor).1
        rw [hperf, List.length_append, List.length_singleton] at hlt
        omega
      rw [hperf, List.getElem?_append_left hlt] at hactor
      rw [hactors, hsystem]
      rcases h.running i actor hactor with hended | hmem | hmem | hwaited
      · exact Or.inl hended
      · exact Or.inr (Or.inl (List.mem_append_left _ hmem))
      · exact Or.inr (Or.inr (Or.inl hmem))
      · exact absurd hwaited (by simp [hmain, main_phase.waits_for])
  · intro i hi
    exact absurd (hidle.symm.trans hi) (by simp)
  · intro hreporting
    exact absurd (hmain'.symm.trans hreporting) (by simp)

-- Where `main` looks at no actor and goes to no other part of its code, it may
-- still look at the plan of a synchronisation.
theorem Accounted.stay {t t' : managed} (h : Accounted t) (hperf : t'.process.perf = t.process.perf)
    (hroster : t'.roster = t.roster) (hidle : t.process.main.waits_for = none)
    (hidle' : t'.process.main.waits_for = none) (hsync : t'.process.main.in_sync = false)
    (hreporting : t'.process.main = .destroying_reporting true →
      t'.process.reporting_term = true) : Accounted t' := by
  refine h.continue (hperf ▸ Continue.refl _) (hroster ▸ rfl) (hroster ▸ rfl) ?_
    (Or.inl (hidle'.trans hidle.symm)) hreporting
  intro hsync'
  exact absurd (hsync.symm.trans hsync') (by decide)

theorem accounted_step {t t' : managed} {label : action} (h : Accounted t)
    (hmanaged : ManagedStep t label t') : Accounted t' := by
  obtain ⟨s, r⟩ := t
  obtain ⟨s', r'⟩ := t'
  have hstep : ProcessStep s label s' := hmanaged.1
  have hfollows : r.Follows s label r' := hmanaged.2
  cases hstep with
  | check hmain =>
      obtain ⟨stops, starts, hstops, rfl⟩ := hfollows
      by_cases hinterrupted : s.interrupted = true
      · refine h.continue (Continue.refl _) rfl rfl (fun _ => hstops) (Or.inl ?_) ?_
        · simp [hmain, hinterrupted, main_phase.waits_for]
        · simp [hinterrupted]
      · refine h.continue (Continue.refl _) rfl rfl (fun _ => hstops) (Or.inl ?_) ?_
        · simp [hmain, hinterrupted, main_phase.waits_for]
        · simp [hinterrupted]
  | start_container hmain =>
      obtain ⟨starts, hstops, -, rfl⟩ := hfollows
      exact h.start_container hmain hmain rfl hstops rfl rfl
  | @stop_container i actor hmain hactor hkind =>
      obtain ⟨stops, hstops, rfl⟩ := hfollows
      have hplan := h.plan (by rw [hmain]; rfl)
      rw [hstops] at hplan
      refine h.terminate hactor rfl (by rw [hmain]; rfl) rfl
        (Or.inl ⟨hplan.subset List.mem_cons_self, rfl, rfl⟩) fun _ => ?_
      have herase := hplan.erase i
      rwa [List.erase_cons_head] at herase
  | @stopped i actor hmain hactor hended =>
      obtain rfl : r' = r := hfollows
      refine h.continue (Continue.refl _) rfl rfl (fun _ => h.plan (by rw [hmain]; rfl))
        (Or.inr ⟨rfl, fun j hj => ?_⟩) (by simp)
      obtain rfl : i = j := by simpa [hmain, main_phase.waits_for] using hj
      exact ⟨actor, hactor, hended⟩
  | synced hmain =>
      obtain ⟨-, -, rfl⟩ := hfollows
      exact h.stay rfl rfl (by rw [hmain]; rfl) rfl rfl (by simp)
  | tick hmain timestamp reached =>
      obtain rfl : r' = r := hfollows
      refine h.continue (Continue.mapIdx fun i => continues_publish timestamp (reached i)) rfl rfl
        ?_ (Or.inl ?_) (by simp)
      · simp [main_phase.in_sync]
      · rw [hmain]
        rfl
  | deinit hmain =>
      obtain rfl : r' = r := hfollows
      exact h.stay rfl rfl (by rw [hmain]; rfl) rfl rfl (by simp)
  | @destroy i actor kind hmain hactor hkind =>
      refine h.terminate hactor rfl (by rw [hmain]; rfl) rfl ?_ (by simp [main_phase.in_sync])
      obtain ⟨hmem, rfl⟩ | ⟨hsystem, rfl⟩ := hfollows
      · exact Or.inl ⟨hmem, rfl, rfl⟩
      · exact Or.inr ⟨hsystem, rfl, rfl⟩
  | @destroyed i actor kind hmain hactor hended =>
      obtain rfl : r' = r := hfollows
      refine h.continue (Continue.refl _) rfl rfl (by simp [main_phase.in_sync])
        (Or.inr ⟨rfl, fun j hj => ?_⟩) (by simp)
      obtain rfl : i = j := by simpa [hmain, main_phase.waits_for] using hj
      exact ⟨actor, hactor, hended⟩
  | @next_kind kind hmain hall =>
      obtain ⟨-, -, rfl⟩ := hfollows
      cases kind with
      | container => exact h.stay rfl rfl (by rw [hmain]; rfl) rfl rfl (by simp)
      | system => exact h.stay rfl rfl (by rw [hmain]; rfl) rfl rfl (by simp)
  | destroy_reporting hmain =>
      obtain rfl : r' = r := hfollows
      exact h.stay rfl rfl (by rw [hmain]; rfl) rfl rfl fun _ => rfl
  | finish hmain hended =>
      obtain rfl : r' = r := hfollows
      exact h.stay rfl rfl (by rw [hmain]; rfl) rfl rfl (by simp)
  | interrupt =>
      obtain rfl : r' = r := hfollows
      exact h.continue (Continue.refl _) rfl rfl h.plan (Or.inl rfl) h.reporting
  | perf hactor hstep =>
      obtain rfl : r' = r := hfollows
      exact h.continue (Continue.set hactor (continues_perf_step hstep)) rfl rfl h.plan (Or.inl rfl)
        h.reporting
  | reporting hstep =>
      obtain rfl : r' = r := hfollows
      cases hstep with
      | wait | terminated | handle_pipe | handle_reporting | stored =>
          exact h.continue (Continue.refl _) rfl rfl h.plan (Or.inl rfl) h.reporting

-- Who has been told to end can go on until it has.

theorem exists_perf_step {interrupted : Bool} {actor : perf_process} (i : Nat)
    (hterm : actor.term = true) (hrunning : actor.phase ≠ .ended) :
    ∃ pushed actor', PerfStep interrupted i actor pushed actor' := by
  cases hphase : actor.phase with
  | starting => exact ⟨_, _, .create hphase⟩
  | initializing => exact ⟨_, _, .initialized hphase⟩
  | top =>
      cases interrupted with
      | false => exact ⟨_, _, .wait hphase rfl⟩
      | true => exact ⟨_, _, .terminated (Or.inl hphase) rfl⟩
  | waiting => exact ⟨_, _, .handle_pipe hphase hterm⟩
  | populating timestamp => exact ⟨_, _, .populated hphase⟩
  | ended => exact absurd hphase hrunning

theorem exists_reporting_step {s : process} (hterm : s.reporting_term = true)
    (hrunning : s.reporting ≠ .ended) : ∃ s', ReportingStep s s' := by
  cases hphase : s.reporting with
  | top =>
      cases hinterrupted : s.interrupted with
      | false => exact ⟨_, .wait hphase hinterrupted⟩
      | true => exact ⟨_, .terminated (Or.inl hphase) hinterrupted⟩
  | waiting => exact ⟨_, .handle_pipe hphase hterm⟩
  | storing payload => exact ⟨_, .stored hphase⟩
  | ended => exact absurd hphase hrunning

def action.of_main_or_reporting : action → Bool
  | .perf _ | .interrupt => false
  | _ => true

-- `main` or the reporting actor goes on, or the actor that `main` waits for does.
def GoesOn (t : managed) : Prop :=
  (∃ label t', label.of_main_or_reporting = true ∧ ManagedStep t label t') ∨
    ∃ i actor pushed actor', t.process.main.waits_for = some i ∧
      t.process.perf[i]? = some actor ∧
      PerfStep t.process.interrupted i actor pushed actor'

theorem Accounted.goes_on_waiting {t : managed} (h : Accounted t) {i : Nat} {kind : perf_kind}
    (hmain : t.process.main = .stopping i ∨ t.process.main = .destroying kind (some i)) :
    GoesOn t := by
  obtain ⟨s, r⟩ := t
  have hwaits : s.main.waits_for = some i := by
    rcases hmain with hmain | hmain <;> rw [show s.main = _ from hmain] <;> rfl
  obtain ⟨actor, hactor, hterm⟩ := h.awaited i hwaits
  by_cases hended : actor.phase = .ended
  · rcases hmain with hmain | hmain
    · exact .inl ⟨.stopped, ⟨_, r⟩, rfl, .stopped hmain hactor hended, rfl⟩
    · exact .inl ⟨.destroyed, ⟨_, r⟩, rfl, .destroyed hmain hactor hended, rfl⟩
  · obtain ⟨pushed, actor', hstep⟩ := exists_perf_step i hterm hended
    exact .inr ⟨i, actor, pushed, actor', hwaits, hactor, hstep⟩

-- With its variable emptied, every actor of a kind has ended.
theorem Accounted.next_kind {t : managed} (h : Accounted t) {kind : perf_kind}
    (hmain : t.process.main = .destroying kind none)
    (hcontainers : kind = .container → t.roster.actors = [])
    (hsystem : kind = .system → t.roster.system_perf_monitor = none) :
    ∀ actor ∈ t.process.perf, actor.kind = kind → actor.phase = .ended := by
  intro actor hmem hkind
  obtain ⟨i, hactor⟩ := List.mem_iff_getElem?.mp hmem
  rcases h.running i actor hactor with hended | hheld | hheld | hwaited
  · exact hended
  · obtain ⟨other, hother, hcontainer⟩ := h.containers i hheld
    obtain rfl := Option.some.inj (hactor.symm.trans hother)
    have hnil := hcontainers (hkind.symm.trans hcontainer)
    exact absurd hheld (by simp [hnil])
  · obtain ⟨other, hother, hsystem_kind⟩ := h.system i hheld
    obtain rfl := Option.some.inj (hactor.symm.trans hother)
    have hnone := hsystem (hkind.symm.trans hsystem_kind)
    exact absurd (hnone.symm.trans hheld) (by simp)
  · exact absurd hwaited (by simp [hmain, main_phase.waits_for])

theorem Accounted.goes_on_destroying {t : managed} (h : Accounted t) {kind : perf_kind}
    (hmain : t.process.main = .destroying kind none) : GoesOn t := by
  obtain ⟨s, r⟩ := t
  cases kind with
  | container =>
      cases hactors : r.actors with
      | nil =>
          refine .inl ⟨.next_kind, ⟨_, r⟩, rfl, .next_kind hmain ?_, fun _ => hactors, ?_, rfl⟩
          · exact h.next_kind hmain (fun _ => hactors) (by simp)
          · simp [show s.main = _ from hmain]
      | cons i rest =>
          have hmem : i ∈ r.actors := by simp [hactors]
          obtain ⟨actor, hactor, hkind⟩ := h.containers i hmem
          exact .inl ⟨.destroy i, ⟨_, _⟩, rfl, .destroy hmain hactor hkind, Or.inl ⟨hmem, rfl⟩⟩
  | system =>
      cases hsystem : r.system_perf_monitor with
      | none =>
          refine .inl ⟨.next_kind, ⟨_, r⟩, rfl, .next_kind hmain ?_, ?_, fun _ => hsystem, rfl⟩
          · exact h.next_kind hmain (by simp) fun _ => hsystem
          · simp [show s.main = _ from hmain]
      | some i =>
          obtain ⟨actor, hactor, hkind⟩ := h.system i hsystem
          exact .inl ⟨.destroy i, ⟨_, _⟩, rfl, .destroy hmain hactor hkind, Or.inr ⟨hsystem, rfl⟩⟩

theorem Accounted.goes_on_syncing {t : managed} (h : Accounted t)
    (hmain : t.process.main = .syncing) : GoesOn t := by
  obtain ⟨s, r⟩ := t
  have hplan := h.plan (by rw [hmain]; rfl)
  cases hstops : r.stops with
  | cons i stops =>
      have hmem : i ∈ r.actors := hplan.subset (by simp [hstops])
      obtain ⟨actor, hactor, hkind⟩ := h.containers i hmem
      exact .inl ⟨.stop_container i, ⟨_, _⟩, rfl, .stop_container hmain hactor hkind,
        stops, hstops, rfl⟩
  | nil =>
      cases hstarts : r.starts with
      | zero => exact .inl ⟨.synced, ⟨_, r⟩, rfl, .synced hmain, hstops, hstarts, rfl⟩
      | succ starts =>
          exact .inl ⟨.start_container, ⟨_, _⟩, rfl, .start_container hmain, starts, hstops,
            hstarts, rfl⟩

theorem Accounted.goes_on {t : managed} (h : Accounted t) (hmain : t.process.main ≠ .done) :
    GoesOn t := by
  obtain ⟨s, r⟩ := t
  cases hphase : s.main with
  | checking =>
      exact .inl ⟨.check, ⟨_, _⟩, rfl, .check hphase, [], 0, List.nil_subperm, rfl⟩
  | syncing => exact h.goes_on_syncing hphase
  | stopping i =>
      have hwaiting : s.main = .stopping i ∨ s.main = .destroying .container (some i) :=
        Or.inl hphase
      exact h.goes_on_waiting hwaiting
  | ticking =>
      exact .inl ⟨.tick, ⟨_, r⟩, rfl, .tick hphase 0 fun _ => false, rfl⟩
  | deinitializing => exact .inl ⟨.deinit, ⟨_, r⟩, rfl, .deinit hphase, rfl⟩
  | destroying kind waiting_for =>
      cases waiting_for with
      | none => exact h.goes_on_destroying hphase
      | some i => exact h.goes_on_waiting (Or.inr hphase)
  | destroying_reporting waiting_for =>
      cases waiting_for with
      | false =>
          exact .inl ⟨.destroy_reporting, ⟨_, r⟩, rfl, .destroy_reporting hphase, rfl⟩
      | true =>
          by_cases hended : s.reporting = .ended
          · exact .inl ⟨.finish, ⟨_, r⟩, rfl, .finish hphase hended, rfl⟩
          · obtain ⟨s', hstep⟩ := exists_reporting_step (h.reporting hphase) hended
            exact .inl ⟨.reporting, ⟨s', r⟩, rfl, .reporting hstep, rfl⟩
  | done => exact absurd hphase hmain

-- What is left to do once the process is interrupted. Each phase weighs more than
-- all that can follow it, a tick more than the report it leads to and the storing
-- of this report together.

def perf_phase.work : perf_phase → Nat
  | starting => 4
  | initializing => 3
  | top => 2
  | waiting => 1
  | populating _ => 6
  | ended => 0

def perf_process.work (actor : perf_process) : Nat :=
  actor.phase.work + 6 * actor.ticks.length

def reporting_phase.work : reporting_phase → Nat
  | top => 2
  | waiting => 1
  | storing _ => 3
  | ended => 0

def process.actors_work (s : process) : Nat :=
  (s.perf.map perf_process.work).sum + 3 * s.channel.length + s.reporting.work

-- The actors that are still to be destroyed, two steps for each.
def roster.work (r : roster) : Nat :=
  2 * r.container_monitoring_actors.length + if r.system_perf_monitor.isSome then 2 else 0

-- A container that is still to be started brings an actor, and a tick for it.
def main_phase.work (actors : Nat) (r : roster) : main_phase → Nat
  | done => 0
  | destroying_reporting true => 1
  | destroying_reporting false => 2
  | destroying .system waiting_for => 3 + (if waiting_for.isSome then 1 else 0) + r.work
  | destroying .container waiting_for => 4 + (if waiting_for.isSome then 1 else 0) + r.work
  | deinitializing => 5 + r.work
  | checking => 6 + r.work
  | ticking => 7 + r.work + 6 * actors
  | syncing => 8 + r.work + 6 * actors + 13 * r.starts
  | stopping _ => 9 + r.work + 6 * actors + 13 * r.starts

def managed.work (t : managed) : Nat :=
  t.process.actors_work + t.process.main.work t.process.perf.length t.roster

theorem sum_map_set {α : Type} (f : α → Nat) {items : List α} {i : Nat} {item : α}
    (h : items[i]? = some item) (item' : α) :
    ((items.set i item').map f).sum + f item = (items.map f).sum + f item' := by
  induction items generalizing i with
  | nil => simp at h
  | cons first rest ih =>
      cases i with
      | zero =>
          obtain rfl : first = item := by simpa using h
          simp only [List.set_cons_zero, List.map_cons, List.sum_cons]
          omega
      | succ i =>
          have hrest := ih (i := i) (by simpa using h)
          simp only [List.set_cons_succ, List.map_cons, List.sum_cons]
          omega

theorem work_publish_le (timestamp : Nat) (reached : Bool) (actor : perf_process) :
    (actor.publish timestamp reached).work ≤ actor.work + 6 := by
  unfold perf_process.publish
  split_ifs
  · simp only [perf_process.work, List.length_append, List.length_singleton]
    omega
  · omega

theorem sum_work_mapIdx_le (f : Nat → perf_process → perf_process)
    (h : ∀ i actor, (f i actor).work ≤ actor.work + 6) (perf : List perf_process) :
    ((perf.mapIdx f).map perf_process.work).sum ≤
      (perf.map perf_process.work).sum + 6 * perf.length := by
  induction perf generalizing f with
  | nil => simp
  | cons actor rest ih =>
      have hfirst := h 0 actor
      have hrest := ih (fun i => f (i + 1)) fun i other => h (i + 1) other
      simp only [List.mapIdx_cons, List.map_cons, List.sum_cons, List.length_cons]
      omega

-- A step of an actor does some of its work, the report that it pushes included.
theorem perf_step_work {interrupted : Bool} {i : Nat} {actor actor' : perf_process}
    {pushed : Option report} (hstep : PerfStep interrupted i actor pushed actor') :
    actor'.work + 3 * pushed.toList.length < actor.work := by
  cases hstep with
  | terminated hphase hstop =>
      rcases hphase with hphase | hphase <;> simp [perf_process.work, perf_phase.work, hphase]
  | populated hphase =>
      simp only [perf_process.work, perf_phase.work, hphase, Option.toList_some,
        List.length_singleton]
      omega
  | create hphase | unresolved hphase | not_initialized hphase | initialized hphase
  | wait hphase | handle_pipe hphase | not_populated hphase =>
      simp [perf_process.work, perf_phase.work, hphase]
  | handle_ticker hphase hticks =>
      simp only [perf_process.work, perf_phase.work, hphase, hticks, List.length_cons,
        Option.toList_none, List.length_nil]
      omega

theorem reporting_step_work {s s' : process} (hstep : ReportingStep s s') :
    s'.reporting.work + 3 * s'.channel.length < s.reporting.work + 3 * s.channel.length ∧
      s'.perf = s.perf := by
  cases hstep with
  | terminated hphase hstop =>
      rcases hphase with hphase | hphase <;> simp [reporting_phase.work, hphase]
  | wait hphase | handle_pipe hphase | stored hphase => simp [reporting_phase.work, hphase]
  | handle_reporting hphase hchannel hfirst =>
      simp only [reporting_phase.work, hphase, hchannel, List.length_append, List.length_cons,
        and_true]
      omega

theorem actors_work_set_term {s : process} {i : Nat} {actor : perf_process}
    (hactor : s.perf[i]? = some actor) :
    ((s.perf.set i { actor with term := true }).map perf_process.work).sum =
      (s.perf.map perf_process.work).sum := by
  have hsum := sum_map_set perf_process.work hactor { actor with term := true }
  have hwork : perf_process.work { actor with term := true } = actor.work := rfl
  omega

theorem work_erase {r : roster} {i : Nat} (hmem : i ∈ r.actors) (stops : List Nat) :
    roster.work { r with container_monitoring_actors := r.actors.erase i, stops } + 2 =
      r.work := by
  have hlength : (r.actors.erase i).length = r.actors.length - 1 := List.length_erase_of_mem hmem
  have hpos : 0 < r.actors.length := List.length_pos_of_mem hmem
  simp only [roster.work, roster.actors] at hlength hpos ⊢
  omega

-- Once the process is interrupted every step but a further interruption does some
-- of the work left.
theorem work_lt {t t' : managed} {label : action} (h : Accounted t)
    (hinterrupted : t.process.interrupted = true) (hmanaged : ManagedStep t label t')
    (hlabel : label ≠ .interrupt) : t'.work < t.work := by
  obtain ⟨s, r⟩ := t
  obtain ⟨s', r'⟩ := t'
  have hstep : ProcessStep s label s' := hmanaged.1
  have hfollows : r.Follows s label r' := hmanaged.2
  have hstop : s.interrupted = true := hinterrupted
  cases hstep with
  | check hmain =>
      obtain ⟨stops, starts, -, rfl⟩ := hfollows
      simp only [managed.work, process.actors_work, hmain, hstop, if_true, main_phase.work,
        roster.work]
      omega
  | start_container hmain =>
      obtain ⟨starts, hstops, hstarts, rfl⟩ := hfollows
      simp only [managed.work, process.actors_work, hmain, main_phase.work, roster.work,
        roster.actors, hstarts, List.map_append, List.map_cons, List.map_nil, List.sum_append,
        List.sum_cons, List.sum_nil, List.length_append, List.length_singleton,
        perf_process.work, perf_phase.work, List.length_nil]
      omega
  | @stop_container i actor hmain hactor hkind =>
      obtain ⟨stops, hstops, rfl⟩ := hfollows
      have hplan := h.plan (by rw [hmain]; rfl)
      have hmem : i ∈ r.actors := hplan.subset (by simp [show r.stops = _ from hstops])
      have herase := work_erase hmem stops
      simp only [managed.work, process.actors_work, process.set_perf, hmain, main_phase.work,
        actors_work_set_term hactor, List.length_set]
      omega
  | stopped hmain hactor hended =>
      obtain rfl : r' = r := hfollows
      simp only [managed.work, process.actors_work, hmain, main_phase.work]
      omega
  | synced hmain =>
      obtain ⟨-, hstarts, rfl⟩ := hfollows
      simp only [managed.work, process.actors_work, hmain, main_phase.work]
      omega
  | tick hmain timestamp reached =>
      obtain rfl : r' = r := hfollows
      have hticks := sum_work_mapIdx_le (fun i => perf_process.publish timestamp (reached i))
        (fun i actor => work_publish_le timestamp (reached i) actor) s.perf
      simp only [managed.work, process.actors_work, hmain, main_phase.work]
      omega
  | deinit hmain =>
      obtain rfl : r' = r := hfollows
      simp only [managed.work, process.actors_work, hmain, main_phase.work, Option.isSome_none,
        Bool.false_eq_true, if_false]
      omega
  | @destroy i actor kind hmain hactor hkind =>
      obtain ⟨hmem, rfl⟩ | ⟨hsystem, rfl⟩ := hfollows
      · have herase := work_erase hmem r.stops
        cases kind <;>
          simp only [managed.work, process.actors_work, process.set_perf, hmain, main_phase.work,
            actors_work_set_term hactor, Option.isSome_none, Option.isSome_some,
            Bool.false_eq_true, if_false, if_true] <;>
          omega
      · cases kind <;>
          simp only [managed.work, process.actors_work, process.set_perf, hmain, main_phase.work,
            actors_work_set_term hactor, roster.work,
            show r.system_perf_monitor = _ from hsystem, Option.isSome_none, Option.isSome_some,
            Bool.false_eq_true, if_false, if_true] <;>
          omega
  | @destroyed i actor kind hmain hactor hended =>
      obtain rfl : r' = r := hfollows
      cases kind <;>
        simp only [managed.work, process.actors_work, hmain, main_phase.work, Option.isSome_none,
          Option.isSome_some, Bool.false_eq_true, if_false, if_true] <;>
        omega
  | @next_kind kind hmain hall =>
      obtain ⟨-, -, rfl⟩ := hfollows
      cases kind <;>
        simp only [managed.work, process.actors_work, hmain, main_phase.work, Option.isSome_none,
          Bool.false_eq_true, if_false] <;>
        omega
  | destroy_reporting hmain =>
      obtain rfl : r' = r := hfollows
      simp only [managed.work, process.actors_work, hmain, main_phase.work]
      omega
  | finish hmain hended =>
      obtain rfl : r' = r := hfollows
      simp only [managed.work, process.actors_work, hmain, main_phase.work]
      omega
  | interrupt => exact absurd rfl hlabel
  | @perf i actor actor' pushed hactor hstep =>
      obtain rfl : r' = r := hfollows
      have hwork := perf_step_work hstep
      have hsum := sum_map_set perf_process.work hactor actor'
      simp only [managed.work, process.actors_work, process.set_perf, List.length_set,
        List.length_append]
      omega
  | reporting hstep =>
      obtain rfl : r' = r := hfollows
      obtain ⟨hwork, hperf⟩ := reporting_step_work hstep
      obtain ⟨hmain, -, -⟩ := reporting_step_frame hstep
      simp only [managed.work, process.actors_work, hmain, hperf]
      omega

theorem managed_step_interrupted {t t' : managed} {label : action} (h : ManagedStep t label t')
    (hinterrupted : t.process.interrupted = true) : t'.process.interrupted = true := by
  have hstep := h.1
  generalize t'.process = s' at hstep
  cases hstep with
  | interrupt => rfl
  | reporting hstep => exact (reporting_step_frame hstep).2.1.trans hinterrupted
  | check | start_container | stop_container | stopped | synced | tick | deinit | destroy
  | destroyed | next_kind | destroy_reporting | finish | perf => exact hinterrupted

-- An interruption leaves the work as it is.
theorem work_le {t t' : managed} (hmanaged : ManagedStep t .interrupt t') : t'.work ≤ t.work := by
  obtain ⟨s, r⟩ := t
  obtain ⟨s', r'⟩ := t'
  have hstep : ProcessStep s .interrupt s' := hmanaged.1
  obtain rfl : r' = r := hmanaged.2
  cases hstep
  exact Nat.le_refl _

end HwpcSensor.Sensor.Shutdown
