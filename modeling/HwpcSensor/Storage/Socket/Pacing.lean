import HwpcSensor.Storage.Socket.Backoff

namespace HwpcSensor.Storage.Socket

open Interaction Transition

-- When each attempt began, and whether a connection was accepted. A connection that
-- belongs to no attempt under way is an attempt of its own.
def dialled (dials : List (Int × Bool)) : retry → List (Int × Bool)
  | .attempt time => dials ++ [(time, false)]
  | .answered time err =>
      if dials.getLast? = some (time, false) then dials.dropLast ++ [(time, decide (err = 0))]
      else dials ++ [(time, decide (err = 0))]
  | _ => dials

-- The attempts between two states, from the answers that the calls got.
def network.dials (s s' : network) : List (Int × Bool) :=
  (s'.retries.drop s.retries.length).foldl dialled []

-- An attempt, with the delay that it left if it failed.
structure attempt where
  time : Int
  left : Option Int
  deriving DecidableEq

def outcome (backoff : Int) (dial : Int × Bool) : attempt where
  time := dial.1
  left := if dial.2 then none else some backoff

def store_call.dials (call : store_call) : List (Int × Bool) :=
  call.before.2.dials call.after.2

-- A report ends with its first failure, so that this leaves the delay behind the report.
def store_call.attempts (call : store_call) : List attempt :=
  call.dials.map (outcome call.after.1.retry_backoff_time)

-- No attempt is made before the delay that a failed one left is over.
def Spaced (earlier later : attempt) : Prop :=
  ∀ backoff ∈ earlier.left, earlier.time + backoff ≤ later.time

def fail (delays : List Int) (attempt : attempt) : List Int :=
  match attempt.left with
  | none => []
  | some backoff => delays ++ [backoff]

-- The delays left by the failures since the start or the last success.
def failures (attempts : List attempt) : List Int :=
  attempts.foldl fail []

section Dials

variable {s s' s'' : network} {dials : List (Int × Bool)}

-- What a call adds to the attempts of a report.
def Adds (s s' : network) (dials : List (Int × Bool)) : Prop :=
  ∃ more, s'.retries = s.retries ++ more ∧ more.foldl dialled [] = dials

theorem Adds.dials_eq (h : Adds s s' dials) : s.dials s' = dials := by
  obtain ⟨more, hmore, rfl⟩ := h
  rw [network.dials, hmore, List.drop_left]

theorem Adds.refl (s : network) : Adds s s [] :=
  ⟨[], (List.append_nil _).symm, rfl⟩

theorem foldl_refusals (time : Int) (n : Nat) :
    (refusals time n).foldl dialled (dials ++ [(time, false)]) = dials ++ [(time, false)] := by
  induction n with
  | zero => rfl
  | succ n ih =>
      rw [refusals_succ, List.foldl_cons]
      have hstep : dialled (dials ++ [(time, false)]) (.answered time (-1)) =
          dials ++ [(time, false)] := by
        simp [dialled]
      rw [hstep, ih]

theorem foldl_tries (time : Int) (n : Nat) :
    (tries time n).foldl dialled dials = dials ++ [(time, false)] := by
  rw [tries, List.foldl_cons]
  exact foldl_refusals time n

theorem foldl_drawn {backoff left : Int} {drawn : List retry} (h : BacksOff backoff drawn left) :
    drawn.foldl dialled dials = dials := by
  cases h with
  | capped => rfl
  | doubled => rfl

variable {ctx : socket_context} {time : Int} {result : Int × socket_context}

-- An attempt that was due, with its outcome, or nothing.
inductive Dialled (ctx : socket_context) (time : Int) :
    Int × socket_context → List (Int × Bool) → Prop
  | waits {after : socket_context} : after.last_retry_time = ctx.last_retry_time →
      after.retry_backoff_time = ctx.retry_backoff_time → Dialled ctx time (-1, after) []
  | fails {after : socket_context} {drawn : List retry} : ctx.Due time →
      BacksOff ctx.retry_backoff_time drawn after.retry_backoff_time →
      after.last_retry_time = time → Dialled ctx time (-1, after) [(time, false)]
  | succeeds {after : socket_context} : ctx.Due time → after.retry_backoff_time = 1 →
      Dialled ctx time (0, after) [(time, true)]

theorem Reconnects.dialled (h : Reconnects ctx s' time result s'') (hadds : Adds s s' dials) :
    ∃ new, Adds s s'' (dials ++ new) ∧ s''.now = time ∧ Dialled ctx time result new := by
  obtain ⟨events, hevents, hnow, hretries⟩ := h.retries
  obtain ⟨more, hmore, rfl⟩ := hadds
  have hadded : ∀ new, events.foldl dialled (more.foldl dialled []) = more.foldl dialled [] ++ new →
      Adds s s'' (more.foldl dialled [] ++ new) := fun new hnew =>
    ⟨more ++ events, by rw [hevents, hmore, List.append_assoc], by rw [List.foldl_append, hnew]⟩
  cases hretries with
  | waits hearly hlast hbackoff =>
      exact ⟨[], hadded [] (List.append_nil _).symm, hnow, .waits hlast hbackoff⟩
  | fails n hdue hdrawn hlast =>
      refine ⟨_, hadded [(time, false)] ?_, hnow, .fails hdue hdrawn hlast⟩
      rw [List.foldl_append, List.foldl_append, foldl_tries, foldl_drawn hdrawn]
      rfl
  | succeeds n hdue hbackoff =>
      refine ⟨_, hadded [(time, true)] ?_, hnow, .succeeds hdue hbackoff⟩
      rw [List.foldl_append, List.foldl_append, foldl_tries]
      simp [dialled]

end Dials

-- The attempts so far, against the clock and the time and the delay that the last
-- of them left in the context.
structure Paced (attempts : List attempt) (now last_retry_time retry_backoff_time : Int) :
    Prop where
  left : (failures attempts).getLast?.getD 1 = retry_backoff_time
  positive : 1 ≤ retry_backoff_time
  spaced : attempts.Pairwise Spaced
  kept : ∀ attempt ∈ attempts, ∀ backoff ∈ attempt.left, attempt.time + backoff ≤ now ∨
    (attempt.time = last_retry_time ∧ backoff = retry_backoff_time)
  increasing : (failures attempts).Pairwise (· ≤ ·)
  at_most : ∀ backoff ∈ failures attempts, backoff ≤ retry_backoff_time
  at_least : min (2 ^ (failures attempts).length) MAX_DURATION_CONNECTION_RETRY ≤
    retry_backoff_time

namespace Paced

variable {attempts : List attempt} {now last backoff time : Int}

theorem nil (now last : Int) : Paced [] now last 1 :=
  ⟨rfl, le_rfl, .nil, by simp, .nil, by simp [failures], by decide⟩

theorem mono (h : Paced attempts now last backoff) (hclock : now ≤ time) :
    Paced attempts time last backoff :=
  { h with
    kept := fun attempt hmem delay hleft =>
      (h.kept attempt hmem delay hleft).imp_left hclock.trans' }

-- When an attempt is due, all the delays before it are over.
theorem elapsed (h : Paced attempts now last backoff) (hclock : now ≤ time)
    (hdue : backoff ≤ time - last) {attempt : attempt} (hmem : attempt ∈ attempts) {delay : Int}
    (hleft : delay ∈ attempt.left) : attempt.time + delay ≤ time := by
  rcases h.kept attempt hmem delay hleft with hover | ⟨hlast, hbackoff⟩
  · omega
  · omega

theorem spaced_append (h : Paced attempts now last backoff) (hclock : now ≤ time)
    (hdue : backoff ≤ time - last) (left : Option Int) :
    (attempts ++ [(⟨time, left⟩ : attempt)]).Pairwise Spaced := by
  refine List.pairwise_append.mpr ⟨h.spaced, List.pairwise_singleton _ _, ?_⟩
  intro attempt hmem later hlater delay hleft
  obtain rfl := List.mem_singleton.mp hlater
  exact h.elapsed hclock hdue hmem hleft

theorem fails (h : Paced attempts now last backoff) (hclock : now ≤ time)
    (hdue : backoff ≤ time - last) {drawn : List retry} {left : Int}
    (hdrawn : BacksOff backoff drawn left) :
    Paced (attempts ++ [⟨time, some left⟩]) time time left := by
  have hle := hdrawn.le h.positive
  have hfailures : failures (attempts ++ [⟨time, some left⟩]) = failures attempts ++ [left] := by
    rw [failures, List.foldl_append]
    rfl
  refine ⟨?_, h.positive.trans hle, h.spaced_append hclock hdue _, ?_, ?_, ?_, ?_⟩
  · rw [hfailures, List.getLast?_concat, Option.getD_some]
  · intro attempt hmem delay hleft
    rcases List.mem_append.mp hmem with hold | hnew
    · exact Or.inl (h.elapsed hclock hdue hold hleft)
    · rw [List.mem_singleton.mp hnew] at hleft ⊢
      exact Or.inr ⟨rfl, (Option.some.inj hleft).symm⟩
  · rw [hfailures]
    refine List.pairwise_append.mpr ⟨h.increasing, List.pairwise_singleton _ _, ?_⟩
    intro delay hdelay _ hleft
    rw [List.mem_singleton.mp hleft]
    exact (h.at_most delay hdelay).trans hle
  · rw [hfailures]
    exact List.forall_mem_append.mpr ⟨fun delay hdelay => (h.at_most delay hdelay).trans hle,
      List.forall_mem_singleton.mpr le_rfl⟩
  · rw [hfailures, List.length_append]
    exact hdrawn.at_least h.at_least

theorem succeeds (h : Paced attempts now last backoff) (hclock : now ≤ time)
    (hdue : backoff ≤ time - last) (last' : Int) :
    Paced (attempts ++ [⟨time, none⟩]) time last' 1 := by
  have hfailures : failures (attempts ++ [⟨time, none⟩]) = [] := by
    rw [failures, List.foldl_append]
    rfl
  refine ⟨?_, le_rfl, h.spaced_append hclock hdue _, ?_, ?_, ?_, ?_⟩
  · rw [hfailures]
    rfl
  · intro attempt hmem delay hleft
    rcases List.mem_append.mp hmem with hold | hnew
    · exact Or.inl (h.elapsed hclock hdue hold hleft)
    · rw [List.mem_singleton.mp hnew] at hleft
      cases hleft
  · rw [hfailures]
    exact .nil
  · rw [hfailures]
    exact fun _ hdelay => absurd hdelay List.not_mem_nil
  · rw [hfailures]
    decide

end Paced

section Reports

variable {attempts : List attempt} {before s s' : network} {ctx : socket_context} {time : Int}
  {result : Int × socket_context}

-- The attempts of a report that is under way, or over, behind earlier attempts.
structure Tried (attempts : List attempt) (before : network) (ctx : socket_context)
    (s : network) (dials : List (Int × Bool)) : Prop where
  adds : Adds before s dials
  paced : Paced (attempts ++ dials.map (outcome ctx.retry_backoff_time)) s.now
    ctx.last_retry_time ctx.retry_backoff_time

-- The delay does not matter where nothing has failed.
theorem map_outcome_congr {dials : List (Int × Bool)} (hmade : ∀ dial ∈ dials, dial.2 = true)
    (backoff backoff' : Int) : dials.map (outcome backoff) = dials.map (outcome backoff') := by
  refine List.map_congr_left fun dial hdial => ?_
  rw [outcome, outcome, if_pos (hmade dial hdial), if_pos (hmade dial hdial)]

theorem Tried.reconnects {dials : List (Int × Bool)} (h : Tried attempts before ctx s dials)
    (hmade : ∀ dial ∈ dials, dial.2 = true) (hclock : s.now ≤ time)
    (hcases : Reconnects ctx s time result s') :
    ∃ new, Tried attempts before result.2 s' (dials ++ new) ∧ Dialled ctx time result new := by
  obtain ⟨new, hadds, hnow, hdialled⟩ := hcases.dialled h.adds
  have hpaced := h.paced
  rw [map_outcome_congr hmade _ result.2.retry_backoff_time] at hpaced
  refine ⟨new, ⟨hadds, ?_⟩, hdialled⟩
  rw [List.map_append, ← List.append_assoc, hnow]
  cases hdialled with
  | waits hlast hbackoff =>
      rw [List.map_nil, List.append_nil, hlast]
      rw [hbackoff] at hpaced ⊢
      exact hpaced.mono hclock
  | fails hdue hdrawn hlast =>
      rw [hlast]
      exact hpaced.fails hclock hdue hdrawn
  | @succeeds after hdue hbackoff =>
      rw [hbackoff] at hpaced ⊢
      exact hpaced.succeeds hclock hdue _

-- A report ends with its first failure.
theorem tried_store_report {Double : Type} {writer : json_writer Double} {payload : payload}
    (h : Exec (network.step True) (socket_store_report writer ctx payload) s result s')
    (hstart : Tried attempts s ctx s []) :
    ∃ dials, Tried attempts s result.2 s' dials ∧ ∀ dial ∈ dials.dropLast, dial.2 = true := by
  have hrules : ReportRules True (fun _ => True)
      (fun ctx s' => ∃ dials, Tried attempts s ctx s' dials ∧ ∀ dial ∈ dials, dial.2 = true)
      fun result s' => ∃ dials, Tried attempts s result.2 s' dials ∧
        ∀ dial ∈ dials.dropLast, dial.2 = true := by
    refine ⟨?_, ?_, ?_, ?_⟩
    · rintro ctx s' ⟨dials, htried, hmade⟩
      exact ⟨dials, htried, fun dial hdial => hmade dial (List.dropLast_subset _ hdial)⟩
    · rintro ctx s' time result s'' ⟨dials, htried, hmade⟩ hclock hcases hzero
      obtain ⟨new, hnew, hdialled⟩ := htried.reconnects hmade (hclock trivial) hcases
      refine ⟨_, hnew, List.forall_mem_append.mpr ⟨hmade, ?_⟩⟩
      cases hdialled with
      | waits | fails => cases hzero
      | succeeds => exact List.forall_mem_singleton.mpr rfl
    · rintro ctx s' time result s'' ⟨dials, htried, hmade⟩ hclock hcases hfailed
      obtain ⟨new, hnew, hdialled⟩ := htried.reconnects hmade (hclock trivial) hcases
      refine ⟨_, hnew, ?_⟩
      cases hdialled with
      | waits =>
          rw [List.append_nil]
          exact fun dial hdial => hmade dial (List.dropLast_subset _ hdial)
      | fails =>
          rw [List.dropLast_concat]
          exact hmade
      | succeeds => exact absurd rfl hfailed
    · rintro ctx s' connection json_report accepted ⟨dials, htried, hmade⟩ - - - - -
      exact ⟨dials, ⟨htried.adds, htried.paced⟩,
        fun dial hdial => hmade dial (List.dropLast_subset _ hdial)⟩
  exact exec_store_report hrules (fun _ _ _ _ _ => trivial) h
    ⟨[], hstart, fun _ hdial => absurd hdial List.not_mem_nil⟩

end Reports

section Runs

variable {Double : Type} {writer : json_writer Double} {sensor_name address : String}
  {port now : Int} {start last : socket_context × network} {calls : List store_call}

-- No attempt is made before the delay that a failed one left is over, and a report
-- makes none behind its first failure. The delay does not decrease while attempts
-- fail, is at least a power of two with one more factor for each failure, up to the
-- maximum, and is 1 again behind a success.
theorem attempts_paced (hbegin : Begins True sensor_name address port now start)
    (hrun : Run (StoreStep writer True) start calls last) :
    (calls.flatMap store_call.attempts).Pairwise Spaced ∧
      (∀ call ∈ calls, ∀ dial ∈ call.dials.dropLast, dial.2 = true) ∧
      (failures (calls.flatMap store_call.attempts)).getLast?.getD 1 =
        last.1.retry_backoff_time ∧
      (failures (calls.flatMap store_call.attempts)).Pairwise (· ≤ ·) ∧
      min (2 ^ (failures (calls.flatMap store_call.attempts)).length)
          MAX_DURATION_CONNECTION_RETRY ≤ last.1.retry_backoff_time ∧
      ∀ ctx s result s', Exec (network.step True) (socket_try_reconnect ctx) s result s' →
        ∀ time, (time, true) ∈ s.dials s' → result.2.retry_backoff_time = 1 := by
  have hone : start.1.retry_backoff_time = 1 := hbegin.backoff.1
  have hlast := hrun.history
    (fun calls s => Paced (calls.flatMap store_call.attempts) s.2.now s.1.last_retry_time
        s.1.retry_backoff_time ∧
      ∀ call ∈ calls, ∀ dial ∈ call.dials.dropLast, dial.2 = true) ?_ ?_
  · obtain ⟨hpaced, hfirst⟩ := hlast
    refine ⟨hpaced.spaced, hfirst, hpaced.left, hpaced.increasing, hpaced.at_least, ?_⟩
    intro ctx s result s' hexec time hmade
    obtain ⟨_, -, hcases⟩ := exec_try_reconnect hexec
    obtain ⟨new, hadds, -, hdialled⟩ := hcases.dialled (.refl s)
    rw [hadds.dials_eq, List.nil_append] at hmade
    cases hdialled with
    | waits => exact absurd hmade List.not_mem_nil
    | fails => simp at hmade
    | succeeds hdue hbackoff => exact hbackoff
  · rw [hone]
    exact ⟨.nil _ _, fun _ hcall => absurd hcall List.not_mem_nil⟩
  · rintro calls s call s' ⟨hpaced, hfirst⟩ ⟨rfl, rfl, hexec⟩
    have hstart : Tried (calls.flatMap store_call.attempts) call.before.2 call.before.1
        call.before.2 [] := ⟨.refl _, by rwa [List.map_nil, List.append_nil]⟩
    obtain ⟨dials, htried, hmade⟩ := tried_store_report hexec hstart
    have hdials : call.dials = dials := htried.adds.dials_eq
    refine ⟨?_, List.forall_mem_append.mpr ⟨hfirst, List.forall_mem_singleton.mpr ?_⟩⟩
    · rw [List.flatMap_append, List.flatMap_singleton, store_call.attempts, hdials]
      exact htried.paced
    · rw [hdials]
      exact hmade

-- Three reports during an outage, each of them with an attempt.
theorem attempts_paced_outage :
    (outage none 3).1.flatMap store_call.attempts =
        [⟨1700004000, some 2⟩, ⟨1700008000, some 4⟩, ⟨1700012000, some 8⟩] ∧
      ((outage none 3).1.flatMap store_call.attempts).Pairwise Spaced ∧
      (∀ call ∈ (outage none 3).1, ∀ dial ∈ call.dials.dropLast, dial.2 = true) ∧
      (failures ((outage none 3).1.flatMap store_call.attempts)).getLast?.getD 1 =
        (outage none 3).2.1.retry_backoff_time ∧
      (failures ((outage none 3).1.flatMap store_call.attempts)).Pairwise (· ≤ ·) ∧
      min (2 ^ (failures ((outage none 3).1.flatMap store_call.attempts)).length)
          MAX_DURATION_CONNECTION_RETRY ≤ (outage none 3).2.1.retry_backoff_time ∧
      ∀ ctx s result s', Exec (network.step True) (socket_try_reconnect ctx) s result s' →
        ∀ time, (time, true) ∈ s.dials s' → result.2.retry_backoff_time = 1 :=
  ⟨by decide, attempts_paced (Begins.created : Begins True "sensor" "10.0.0.1" 9080 1700000000
    created) (outage_run none 3)⟩

end Runs

end HwpcSensor.Storage.Socket
