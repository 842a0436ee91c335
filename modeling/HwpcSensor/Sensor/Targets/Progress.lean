import HwpcSensor.Sensor.Targets.Theorems
import Mathlib.Data.Prod.Lex

namespace HwpcSensor.Sensor.Targets

open ChainedTable Transition

-- Every actor that `main` waits for, now or later, has been started.
def Started (s : process) : Prop :=
  ∀ actor ∈ awaited s.main s.actors, actor < s.monitors.length

-- The stages that `main` still goes through once it is interrupted, and the steps
-- that it takes in the present one. Compared lexicographically.
def main_phase.stages : main_phase → Nat
  | .stopping _ | .waiting _ => 5
  | .starting _ => 4
  | .releasing _ => 3
  | .ticking => 2
  | .checking => 1
  | .destroying _ | .waiting_last _ _ | .done => 0

def main_phase.rounds (actors : Table String Nat) : main_phase → Nat
  | .stopping none => 0
  | .stopping (some _) => 2 * actors.left + 2
  | .waiting _ => 2 * actors.left + 1
  | .starting remaining | .releasing remaining => remaining.length
  | .destroying remaining => 2 * remaining.length + 1
  | .waiting_last _ remaining => 2 * remaining.length + 2
  | .ticking | .checking | .done => 0

def process.rank (s : process) : ℕ ×ₗ ℕ :=
  toLex (s.main.stages, s.main.rounds s.actors)

def monitor_phase.work : monitor_phase → Nat
  | .resolving | .initializing | .monitoring => 3
  | .cleanup => 2
  | .config_destroyed => 1
  | .ended => 0

-- The steps that an actor has left.
def process.work (actor : Nat) (s : process) : Nat :=
  (s.monitors[actor]?.map fun m => m.phase.work).getD 0

-- Steps of one actor, and where they lead.
def ActorStep (hash : String → Nat) (order : hash_order) (base_path : String) (actor : Nat)
    (s : process) (label : party) (s' : process) : Prop :=
  ProcessStep hash order base_path s label s' ∧ label = .monitor actor

structure Aside (actor : Nat) (before s : process) : Prop where
  interrupted : s.interrupted = true
  started : actor < s.monitors.length
  main_eq : s.main = before.main
  actors_eq : s.actors = before.actors

section

variable {hash : String → Nat} {order : hash_order} {base_path : String} {s s' : process}
  {actor : Nat}

theorem Started.frame (h : Started s) (hlength : s.monitors.length ≤ s'.monitors.length)
    (hawaited : ∀ actor ∈ awaited s'.main s'.actors, actor ∈ awaited s.main s.actors) :
    Started s' :=
  fun actor hactor => Nat.lt_of_lt_of_le (h actor (hawaited actor hactor)) hlength

theorem started_go_on (hactor : actor ∈ awaited s.go_on.main s.go_on.actors) :
    actor ∈ s.actors.entries.map Prod.snd := by
  rw [← entries_of_buckets (Table.next_buckets s.actors)]
  exact hactor

theorem started_main (h : Started s) (hsplit : Split hash s)
    (hstep : MainStep hash order base_path s s') : Started s' := by
  cases hstep with
  | discover hmain hgo file_system hvalid =>
      have hfirst := entries_of_buckets (Table.first_buckets s.actors)
      refine h.frame (Nat.le_refl _) fun actor hactor => ?_
      rw [hmain]
      have hmem : actor ∈ s.actors.first.2.entries.map Prod.snd := by
        unfold discovered at hactor
        split_ifs at hactor <;> exact hactor
      rwa [hfirst] at hmem
  | alive hmain htarget | dead_missing hmain htarget =>
      refine h.frame (Nat.le_refl _) fun actor hactor => ?_
      rw [hmain]
      exact started_go_on hactor
  | @dead path actor actor' hmain htarget hactor =>
      have hperm := (Table.entries_delete hsplit.valid hactor).map Prod.snd
      refine h.frame (Nat.le_of_eq (List.length_modify ..).symm) fun other hother => ?_
      rw [hmain]
      exact hperm.subset hother
  | deleted hmain hended =>
      refine h.frame (Nat.le_refl _) fun actor hactor => ?_
      rw [hmain]
      exact List.mem_cons_of_mem _ (started_go_on hactor)
  | @new path item remaining hmain hactor =>
      have hperm := (Table.entries_insert hsplit.valid
        ((Table.lookup_eq_none_iff hsplit.valid).mp hactor) s.monitors.length).map Prod.snd
      intro other hother
      rw [List.length_append, List.length_singleton]
      rcases List.mem_cons.mp (hperm.subset hother) with rfl | hmem
      · exact Nat.lt_succ_self _
      · exact Nat.lt_succ_of_lt (h other (by rw [hmain]; exact hmem))
  | destroy hmain =>
      refine h.frame (Nat.le_of_eq (List.length_modify ..).symm) fun actor hactor => ?_
      rwa [hmain]
  | destroyed hmain hended =>
      refine h.frame (Nat.le_refl _) fun actor hactor => ?_
      rw [hmain]
      exact List.mem_cons_of_mem _ hactor
  | finish hmain => exact fun actor hactor => absurd hactor List.not_mem_nil
  | no_groups hmain | stopped hmain | kept hmain | started hmain | release hmain
  | released hmain | tick hmain | leave hmain =>
      exact h.frame (Nat.le_refl _) fun actor hactor => by rwa [hmain]

theorem started_step {label : party} (h : Started s) (hsplit : Split hash s)
    (hstep : ProcessStep hash order base_path s label s') : Started s' := by
  cases hstep with
  | main hstep => exact started_main h hsplit hstep
  | monitor hmonitor hstep =>
      exact h.frame (Nat.le_of_eq (List.length_set ..).symm) fun _ hactor => hactor
  | grow actors hvalid hperm =>
      exact h.frame (Nat.le_refl _) fun _ => awaited_perm s.main hperm.symm
  | interrupt => exact h.frame (Nat.le_refl _) fun _ hactor => hactor

-- Interrupted, with an actor behind everything that `main` waits for.
structure Stopping (hash : String → Nat) (s : process) : Prop where
  split : Split hash s
  started : Started s
  interrupted : s.interrupted = true

theorem stopping_step {label : party} (h : Stopping hash s)
    (hstep : ProcessStep hash order base_path s label s') : Stopping hash s' := by
  refine ⟨split_step h.split hstep, started_step h.started h.split hstep, ?_⟩
  have hinterrupted := h.interrupted
  cases hstep with
  | main hstep => cases hstep <;> exact hinterrupted
  | monitor hmonitor hstep => exact hinterrupted
  | grow actors hvalid hperm => exact hinterrupted
  | interrupt => rfl

-- An interrupted actor gets nearer to its end.
theorem exists_monitor_step {m : monitor} (hrunning : m.phase ≠ .ended) :
    ∃ destroys m', MonitorStep true m destroys m' ∧ m'.phase.work < m.phase.work := by
  cases hphase : m.phase with
  | resolving => exact ⟨_, _, .unresolved hphase, Nat.lt_succ_self _⟩
  | initializing => exact ⟨_, _, .not_initialized hphase, Nat.lt_succ_self _⟩
  | monitoring => exact ⟨_, _, .terminated hphase rfl, Nat.lt_succ_self _⟩
  | cleanup => exact ⟨_, _, .perf_config_destroy hphase, Nat.lt_succ_self _⟩
  | config_destroyed => exact ⟨_, _, .perf_context_destroy hphase, Nat.lt_succ_self _⟩
  | ended => exact absurd hphase hrunning

theorem aside_step {t t' : process} {label : party} (h : Aside actor s t)
    (hstep : ActorStep hash order base_path actor t label t') : Aside actor s t' := by
  obtain ⟨hstep, rfl⟩ := hstep
  cases hstep with
  | monitor hmonitor hstep =>
      exact ⟨h.interrupted, h.started.trans_eq (List.length_set ..).symm, h.main_eq, h.actors_eq⟩

theorem Aside.advances {t : process} (h : Aside actor s t) (hrunning : ¬t.Ended actor) :
    ∃ labels t', Run (ActorStep hash order base_path actor) t labels t' ∧
      t'.work actor < t.work actor := by
  have hstarted := h.started
  have hmonitor := List.getElem?_eq_getElem hstarted
  obtain ⟨destroys, m', hstep, hless⟩ :=
    exists_monitor_step fun hphase => hrunning ⟨_, hmonitor, hphase⟩
  refine ⟨_, _, .single ⟨.monitor hmonitor (h.interrupted ▸ hstep), rfl⟩, ?_⟩
  simpa [process.work, hstarted] using hless

-- It can end while nothing else moves.
theorem exists_ended (hinterrupted : s.interrupted = true) (hstarted : actor < s.monitors.length) :
    ∃ labels s', Run (ProcessStep hash order base_path) s labels s' ∧ s'.Ended actor ∧
      s'.main = s.main ∧ s'.actors = s.actors := by
  obtain ⟨labels, s', hrun, haside, hended⟩ :=
    Run.reaches (Aside actor s) (fun t => t.Ended actor) (process.work actor)
      (fun _ _ _ h hstep => aside_step h hstep) (fun _ h hrunning => h.advances hrunning)
      ⟨hinterrupted, hstarted, rfl, rfl⟩
  exact ⟨labels, s', hrun.mono fun _ _ _ h => h.1, hended, haside.main_eq, haside.actors_eq⟩

theorem rank_lt_of_stages (h : s'.main.stages < s.main.stages) : s'.rank < s.rank :=
  Prod.Lex.toLex_lt_toLex.mpr (Or.inl h)

theorem rank_lt_of_rounds (hstages : s'.main.stages = s.main.stages)
    (h : s'.main.rounds s'.actors < s.main.rounds s.actors) : s'.rank < s.rank :=
  Prod.Lex.toLex_lt_toLex.mpr (Or.inr ⟨hstages, h⟩)

theorem rounds_go_on (s : process) : s.go_on.main.rounds s.go_on.actors ≤ 2 * s.actors.left := by
  change (main_phase.stopping s.actors.next.1).rounds s.actors.next.2 ≤ _
  cases hnext : s.actors.next.1 with
  | none => exact Nat.zero_le _
  | some entry =>
      have hleft := Table.next_left hnext
      simp only [main_phase.rounds]
      omega

-- The first loop goes on, whatever it makes of an actor.
theorem advances_stopping {entry : String × Nat} (hmain : s.main = .stopping (some entry)) :
    ∃ labels s', Run (ProcessStep hash order base_path) s labels s' ∧ s'.rank < s.rank := by
  have hgo_on : ∀ t : process, t.actors = s.actors → t.go_on.rank < s.rank := by
    intro t hactors
    have hrounds := rounds_go_on t
    rw [hactors] at hrounds
    refine rank_lt_of_rounds (by rw [hmain]; rfl) ?_
    rw [hmain]
    exact Nat.lt_of_le_of_lt hrounds (Nat.lt_add_of_pos_right Nat.two_pos)
  obtain ⟨path, actor⟩ := entry
  cases htarget : zhashx_lookup s.running_targets path with
  | some item => exact ⟨_, _, .single (.main (.alive hmain htarget)), hgo_on s rfl⟩
  | none =>
      cases hactor : s.actors.lookup hash path with
      | none => exact ⟨_, _, .single (.main (.dead_missing hmain htarget hactor)), hgo_on _ rfl⟩
      | some actor' =>
          refine ⟨_, _, .single (.main (.dead hmain htarget hactor)),
            rank_lt_of_rounds (by rw [hmain]; rfl) ?_⟩
          have hleft := Table.left_delete hash s.actors path
          rw [hmain]
          exact Nat.lt_succ_of_le (Nat.succ_le_succ (Nat.mul_le_mul_left 2 hleft))

-- `main` gets nearer to its end, after the actor that it waits for.
theorem Stopping.advances (h : Stopping hash s) (hrunning : s.main ≠ .done) :
    ∃ labels s', Run (ProcessStep hash order base_path) s labels s' ∧ s'.rank < s.rank := by
  have hwaits : ∀ actor, actor ∈ awaited s.main s.actors → ∃ labels s',
      Run (ProcessStep hash order base_path) s labels s' ∧ s'.Ended actor ∧
        s'.main = s.main ∧ s'.actors = s.actors :=
    fun actor hactor => exists_ended h.interrupted (h.started actor hactor)
  cases hmain : s.main with
  | checking =>
      refine ⟨_, _, .single (.main (.leave hmain h.interrupted)), rank_lt_of_stages ?_⟩
      rw [hmain]
      exact Nat.zero_lt_one
  | stopping entry =>
      cases entry with
      | some entry => exact advances_stopping hmain
      | none =>
          refine ⟨_, _, .single (.main (.stopped hmain)), rank_lt_of_stages ?_⟩
          rw [hmain]
          exact Nat.lt_succ_self _
  | waiting actor =>
      obtain ⟨labels, s', hrun, hended, hmain', hactors⟩ :=
        hwaits actor (by rw [hmain]; exact List.mem_cons_self)
      refine ⟨_, _, hrun.snoc (.main (.deleted (hmain'.trans hmain) hended)),
        rank_lt_of_rounds (by rw [hmain]; rfl) ?_⟩
      have hrounds := rounds_go_on s'
      rw [hactors] at hrounds
      rw [hmain]
      exact Nat.lt_succ_of_le hrounds
  | starting remaining =>
      cases remaining with
      | nil =>
          refine ⟨_, _, .single (.main (.started hmain)), rank_lt_of_stages ?_⟩
          rw [hmain]
          exact Nat.lt_succ_self _
      | cons item remaining =>
          cases hactor : s.actors.lookup hash item.1 with
          | none =>
              refine ⟨_, _, .single (.main (.new hmain hactor)),
                rank_lt_of_rounds (by rw [hmain]; rfl) ?_⟩
              rw [hmain]
              exact Nat.lt_succ_self _
          | some actor =>
              refine ⟨_, _, .single (.main (.kept hmain hactor)),
                rank_lt_of_rounds (by rw [hmain]; rfl) ?_⟩
              rw [hmain]
              exact Nat.lt_succ_self _
  | releasing remaining =>
      cases remaining with
      | nil =>
          refine ⟨_, _, .single (.main (.released hmain)), rank_lt_of_stages ?_⟩
          rw [hmain]
          exact Nat.lt_succ_self _
      | cons item remaining =>
          refine ⟨_, _, .single (.main (.release hmain)),
            rank_lt_of_rounds (by rw [hmain]; rfl) ?_⟩
          rw [hmain]
          exact Nat.lt_succ_self _
  | ticking =>
      refine ⟨_, _, .single (.main (.tick hmain)), rank_lt_of_stages ?_⟩
      rw [hmain]
      exact Nat.lt_succ_self _
  | destroying remaining =>
      cases remaining with
      | nil =>
          refine ⟨_, _, .single (.main (.finish hmain)), rank_lt_of_rounds (by rw [hmain]; rfl) ?_⟩
          rw [hmain]
          exact Nat.zero_lt_one
      | cons entry remaining =>
          refine ⟨_, _, .single (.main (.destroy hmain)),
            rank_lt_of_rounds (by rw [hmain]; rfl) ?_⟩
          rw [hmain]
          exact Nat.lt_succ_self _
  | waiting_last actor remaining =>
      obtain ⟨labels, s', hrun, hended, hmain', hactors⟩ :=
        hwaits actor (by rw [hmain]; exact List.mem_cons_self)
      refine ⟨_, _, hrun.snoc (.main (.destroyed (hmain'.trans hmain) hended)),
        rank_lt_of_rounds (by rw [hmain]; rfl) ?_⟩
      rw [hmain]
      exact Nat.lt_succ_self _
  | done => exact absurd hmain hrunning

theorem started_run {limit : Nat} (hlimit : 0 < limit) {labels : List party}
    (hrun : Run (ProcessStep hash order base_path) (process.start limit) labels s) :
    Started s := by
  have h := hrun.invariant (fun t => Split hash t ∧ Started t)
    ⟨split_start hlimit, by simp [Started, awaited, process.start, Table.entries]⟩
    fun _ _ _ h hstep => ⟨split_step h.1 hstep, started_step h.2 h.1 hstep⟩
  exact h.2

end

-- Every run can be brought to its end, where each target has been destroyed once.
theorem every_run_ends (hash : String → Nat) (order : hash_order) (base_path : String)
    {limit : Nat} (hlimit : 0 < limit) {labels : List party} {s : process}
    (hrun : Run (ProcessStep hash order base_path) (process.start limit) labels s) :
    ∃ more s', Run (ProcessStep hash order base_path) s more s' ∧ s'.main = .done ∧
      DestroyedOnce s' := by
  have hinterrupted := hrun.snoc .interrupt
  have hstopping : Stopping hash { s with interrupted := true } :=
    ⟨(run_inv hlimit hinterrupted).split, started_run hlimit hinterrupted, rfl⟩
  obtain ⟨more, s', hmore, -, hdone⟩ :=
    Run.reaches (Stopping hash) (fun t => t.main = .done) process.rank
      (fun _ _ _ h hstep => stopping_step h hstep) (fun _ h hrunning => h.advances hrunning)
      hstopping
  exact ⟨_, s', (Run.single .interrupt).append hmore, hdone,
    (run_inv hlimit (hinterrupted.append hmore)).destroyed_once hdone⟩

end HwpcSensor.Sensor.Targets
