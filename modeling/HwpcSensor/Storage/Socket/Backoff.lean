import HwpcSensor.Storage.Socket.Network
import Mathlib.Data.List.Induction

namespace HwpcSensor.Storage.Socket

open Interaction Transition

-- The delays left by the failures since the start or the last success.
def note (delays : List Int) : retry → List Int
  | .failed _ backoff => delays ++ [backoff]
  | .recovered _ => []
  | _ => delays

def streak (retries : List retry) : List Int :=
  retries.foldl note []

-- The delay that the last outcome left.
def delay_left (retries : List retry) : Int :=
  (streak retries).getLast?.getD 1

-- Not the outcome of an attempt.
def Quiet : retry → Prop
  | .failed _ _ => False
  | .recovered _ => False
  | _ => True

section Streak

variable {retries : List retry}

theorem streak_append (retries more : List retry) :
    streak (retries ++ more) = more.foldl note (streak retries) :=
  List.foldl_append

-- Neither a connection nor a jitter changes the delay.
theorem streak_quiet {more : List retry} (hmore : ∀ event ∈ more, Quiet event) :
    streak (retries ++ more) = streak retries := by
  rw [streak_append]
  induction more with
  | nil => rfl
  | cons event more ih =>
      obtain ⟨hevent, hrest⟩ := List.forall_mem_cons.mp hmore
      cases event with
      | failed | recovered => exact hevent.elim
      | _ => exact ih hrest

theorem delay_left_quiet {more : List retry} (hmore : ∀ event ∈ more, Quiet event) :
    delay_left (retries ++ more) = delay_left retries := by
  rw [delay_left, streak_quiet hmore]
  rfl

theorem delay_left_failed (retries : List retry) (time left : Int) :
    delay_left (retries ++ [.failed time left]) = left := by
  rw [delay_left, streak_append]
  exact congrArg (Option.getD · 1) List.getLast?_concat

theorem delay_left_recovered (retries : List retry) (time : Int) :
    delay_left (retries ++ [.recovered time]) = 1 := by
  rw [delay_left, streak_append]
  rfl

end Streak

-- No jitter takes the delay over the maximum.
def DrawsCapped (retries : List retry) : Prop :=
  ∀ before nbrand after, retries = before ++ .jitter nbrand :: after →
    delay_left before * 2 + jitter nbrand ≤ MAX_DURATION_CONNECTION_RETRY

theorem draws_capped_append_one {retries : List retry} {event : retry} :
    DrawsCapped (retries ++ [event]) ↔ DrawsCapped retries ∧
      ∀ nbrand, event = .jitter nbrand →
        delay_left retries * 2 + jitter nbrand ≤ MAX_DURATION_CONNECTION_RETRY := by
  constructor
  · refine fun h => ⟨fun before nbrand after hsplit => ?_, fun nbrand hevent => ?_⟩
    · exact h before nbrand (after ++ [event]) (by rw [hsplit]; simp)
    · exact h retries nbrand [] (by rw [hevent])
  · rintro ⟨h, hevent⟩ before nbrand after hsplit
    rcases List.eq_nil_or_concat' after with rfl | ⟨rest, last, rfl⟩
    · obtain ⟨rfl, hlast⟩ := List.append_inj' hsplit rfl
      exact hevent nbrand (List.cons.inj hlast).1
    · rw [← List.cons_append, ← List.append_assoc] at hsplit
      exact h before nbrand rest (List.append_inj' hsplit rfl).1

-- Only a jitter matters.
theorem draws_capped_append_others {retries more : List retry}
    (hmore : ∀ event ∈ more, ∀ nbrand, event ≠ .jitter nbrand) :
    DrawsCapped (retries ++ more) ↔ DrawsCapped retries := by
  induction more using List.reverseRecOn with
  | nil => rw [List.append_nil]
  | append_singleton more event ih =>
      obtain ⟨hrest, hevent⟩ := List.forall_mem_append.mp hmore
      rw [← List.append_assoc, draws_capped_append_one, ih hrest]
      exact and_iff_left fun nbrand heq => absurd heq (List.forall_mem_singleton.mp hevent nbrand)

theorem Dials.quiet {event : retry} (h : Dials event) : Quiet event := by
  cases event with
  | failed | recovered => exact h
  | _ => trivial

theorem Dials.not_jitter {event : retry} (h : Dials event) (nbrand : Option UInt8) :
    event ≠ .jitter nbrand := by
  rintro rfl
  exact h

section Reconnect

variable {ctx : socket_context} {s s' : network} {time : Int} {result : Int × socket_context}

-- The address is resolved, and so many connections are refused.
def tries (time : Int) (n : Nat) : List retry :=
  .attempt time :: refusals time n

theorem dials_tries (time : Int) (n : Nat) : ∀ event ∈ tries time n, Dials event :=
  List.forall_mem_cons.mpr ⟨trivial, dials_refusals time n⟩

-- What a call of `socket_try_reconnect` adds to the attempts, with the delay and
-- the time it leaves.
inductive Retries (ctx : socket_context) (time : Int) : Int × socket_context → List retry → Prop
  | waits {after : socket_context} : ¬ctx.Due time →
      after.last_retry_time = ctx.last_retry_time →
      after.retry_backoff_time = ctx.retry_backoff_time → Retries ctx time (-1, after) []
  | fails {after : socket_context} {drawn : List retry} (n : Nat) : ctx.Due time →
      BacksOff ctx.retry_backoff_time drawn after.retry_backoff_time →
      after.last_retry_time = time →
      Retries ctx time (-1, after)
        (tries time n ++ drawn ++ [.failed time after.retry_backoff_time])
  | succeeds {after : socket_context} (n : Nat) : ctx.Due time → after.retry_backoff_time = 1 →
      Retries ctx time (0, after) (tries time n ++ [.answered time 0] ++ [.recovered time])

theorem network.dropped_retries (s : network) (fd : Int) : (s.dropped fd).retries = s.retries := by
  unfold network.dropped
  split_ifs <;> rfl

theorem Reconnects.retries (h : Reconnects ctx s time result s') :
    ∃ events, s'.retries = s.retries ++ events ∧ s'.now = time ∧
      Retries ctx time result events := by
  have hretries : ((s.at_time time).dropped ctx.socket_fd).retries = s.retries :=
    network.dropped_retries _ _
  have hnow : ((s.at_time time).dropped ctx.socket_fd).now = time := network.dropped_now _ _
  cases h with
  | waits hearly => exact ⟨[], by rw [hretries, List.append_nil], hnow, .waits hearly rfl rfl⟩
  | @fails drawn backoff s₁ hdue hnot hdrawn =>
      obtain ⟨n, hrefused⟩ := hnot.retries
      refine ⟨_, ?_, hnot.untouched.now.trans hnow, .fails n hdue hdrawn rfl⟩
      simp only [hrefused, network.retry, hretries, hnow, tries, List.append_assoc,
        List.cons_append, List.nil_append]
  | @succeeds sfd s₁ hdue hdone =>
      obtain ⟨n, hanswered⟩ := hdone.retries
      refine ⟨_, ?_, hdone.untouched.now.trans hnow, .succeeds n hdue rfl⟩
      simp only [hanswered, network.retry, hretries, hnow, tries, List.append_assoc,
        List.cons_append, List.nil_append]

theorem BacksOff.le {backoff left : Int} {drawn : List retry} (h : BacksOff backoff drawn left)
    (hpositive : 1 ≤ backoff) : backoff ≤ left := by
  cases h with
  | capped => exact le_rfl
  | doubled nbrand =>
      have hjitter : 0 ≤ jitter nbrand := by
        cases nbrand with
        | none => exact le_rfl
        | some rand_jitter => exact Int.emod_nonneg _ (by decide)
      omega

-- A delay that was at least a power of two up to the maximum is at least the next.
theorem BacksOff.at_least {backoff left : Int} {drawn : List retry} {k : Nat}
    (h : BacksOff backoff drawn left)
    (hleast : min (2 ^ k) MAX_DURATION_CONNECTION_RETRY ≤ backoff) :
    min (2 ^ (k + 1)) MAX_DURATION_CONNECTION_RETRY ≤ left := by
  cases h with
  | capped hmax => exact (min_le_right _ _).trans hmax
  | doubled nbrand =>
      have hjitter : 0 ≤ jitter nbrand := by
        cases nbrand with
        | none => exact le_rfl
        | some rand_jitter => exact Int.emod_nonneg _ (by decide)
      unfold MAX_DURATION_CONNECTION_RETRY at *
      rw [pow_succ]
      omega

end Reconnect

section Runs

variable {Double : Type} {writer : json_writer Double} {monotone : Prop}
  {sensor_name address : String} {port now : Int} {start last : socket_context × network}
  {calls : List store_call}

def Capped (ctx : socket_context) : Prop :=
  1 ≤ ctx.retry_backoff_time ∧ ctx.retry_backoff_time ≤ MAX_DURATION_CONNECTION_RETRY

theorem succeeded_not_jitter (time : Int) (n : Nat) :
    ∀ event ∈ tries time n ++ [.answered time 0] ++ [.recovered time],
      ∀ nbrand, event ≠ .jitter nbrand := by
  refine List.forall_mem_append.mpr ⟨List.forall_mem_append.mpr ⟨?_, by simp⟩, by simp⟩
  exact fun event hevent => (dials_tries time n event hevent).not_jitter

theorem draws_capped_fails {retries drawn : List retry} {time backoff left : Int} {n : Nat}
    (hleft : delay_left retries = backoff) (hdrawn : BacksOff backoff drawn left) :
    DrawsCapped (retries ++ (tries time n ++ drawn ++ [.failed time left])) ↔
      DrawsCapped retries ∧ (left = backoff ∨ left ≤ MAX_DURATION_CONNECTION_RETRY) := by
  have htries : DrawsCapped (retries ++ tries time n) ↔ DrawsCapped retries :=
    draws_capped_append_others fun event hevent => (dials_tries time n event hevent).not_jitter
  rw [← List.append_assoc, ← List.append_assoc, draws_capped_append_others (by simp)]
  cases hdrawn with
  | capped => simp [htries]
  | doubled nbrand hlow =>
      have hbefore : delay_left (retries ++ tries time n) = backoff :=
        (delay_left_quiet fun event hevent => (dials_tries time n event hevent).quiet).trans hleft
      have himp : backoff * 2 + jitter nbrand = backoff →
          backoff * 2 + jitter nbrand ≤ MAX_DURATION_CONNECTION_RETRY := by omega
      rw [draws_capped_append_one, htries, hbefore]
      simp [or_iff_right_of_imp himp]

-- The delay is the one last left, and `drawn` tells whether no jitter took it over
-- the maximum so far.
structure Follows (drawn : Prop) (ctx : socket_context) (s : network) : Prop where
  left : delay_left s.retries = ctx.retry_backoff_time
  positive : 1 ≤ ctx.retry_backoff_time
  drawn_iff : DrawsCapped s.retries ↔ drawn
  capped : drawn → ctx.retry_backoff_time ≤ MAX_DURATION_CONNECTION_RETRY

-- The delay can only get over the maximum in the last attempt of a report.
theorem follows_store_report {s s' : network} {ctx : socket_context} {payload : payload}
    {result : Int × socket_context}
    (h : Exec (network.step monotone) (socket_store_report writer ctx payload) s result s')
    (hstart : Follows (DrawsCapped s.retries) ctx s) :
    Follows (DrawsCapped s.retries ∧ Capped result.2) result.2 s' := by
  have hdone : ∀ {ctx' s'}, Follows (DrawsCapped s.retries) ctx' s' →
      Follows (DrawsCapped s.retries ∧ Capped ctx') ctx' s' := fun h =>
    ⟨h.left, h.positive,
      h.drawn_iff.trans (and_iff_left_of_imp fun hdrawn => ⟨h.positive, h.capped hdrawn⟩).symm,
      fun hdrawn => hdrawn.2.2⟩
  have hrules : ReportRules monotone (fun _ => True) (Follows (DrawsCapped s.retries))
      fun result s' => Follows (DrawsCapped s.retries ∧ Capped result.2) result.2 s' := by
    refine ⟨fun _ _ => hdone, ?_, ?_, fun _ _ _ _ _ h _ _ _ _ _ =>
      hdone ⟨h.left, h.positive, h.drawn_iff, h.capped⟩⟩
    · intro ctx' s' time result s'' hinv _ hcases hzero
      obtain ⟨events, hevents, -, hretries⟩ := hcases.retries
      cases hretries with
      | waits => cases hzero
      | fails => cases hzero
      | succeeds _ hdue hbackoff =>
          refine ⟨?_, hbackoff.ge, ?_, fun _ => by rw [hbackoff]; decide⟩
          · rw [hevents, hbackoff, ← List.append_assoc, delay_left_recovered]
          · rw [hevents, draws_capped_append_others (succeeded_not_jitter time _)]
            exact hinv.drawn_iff
    · intro ctx' s' time result s'' hinv _ hcases hfailed
      obtain ⟨events, hevents, -, hretries⟩ := hcases.retries
      cases hretries with
      | waits hearly hlast hbackoff =>
          rw [List.append_nil] at hevents
          refine hdone ⟨?_, ?_, ?_, ?_⟩
          · rw [hevents, hbackoff]
            exact hinv.left
          · rw [hbackoff]
            exact hinv.positive
          · rw [hevents]
            exact hinv.drawn_iff
          · rw [hbackoff]
            exact hinv.capped
      | @fails after drawn _ hdue hdrawn hlast =>
          have hle := hdrawn.le hinv.positive
          have hpositive : 1 ≤ after.retry_backoff_time := hinv.positive.trans hle
          refine ⟨?_, hpositive, ?_, fun h => h.2.2⟩
          · rw [hevents, ← List.append_assoc, delay_left_failed]
          · rw [hevents, draws_capped_fails hinv.left hdrawn, hinv.drawn_iff]
            refine and_congr_right fun hcapped => ⟨fun h => ⟨hpositive, ?_⟩, fun h => Or.inr h.2⟩
            rcases h with hsame | hle
            · rw [hsame]
              exact hinv.capped hcapped
            · exact hle
      | succeeds => exact absurd rfl hfailed
  exact exec_store_report hrules (fun _ _ _ _ _ => trivial) h hstart

theorem Begins.backoff (h : Begins monotone sensor_name address port now start) :
    start.1.retry_backoff_time = 1 ∧ delay_left start.2.retries = 1 ∧
      DrawsCapped start.2.retries := by
  obtain ⟨hdials, -, -, -, hctx⟩ := h.cases
  have hnone : DrawsCapped [] := fun before nbrand after hsplit => by simp at hsplit
  refine ⟨?_, ?_, ?_⟩
  · rcases hctx with ⟨hcreate, -⟩ | ⟨sfd, hcreate, -⟩
    · rw [hcreate]
      rfl
    · rw [hcreate]
      rfl
  · have hquiet : delay_left ([] ++ start.2.retries) = delay_left [] :=
      delay_left_quiet fun event hevent => (hdials event hevent).quiet
    exact hquiet
  · have hcapped : DrawsCapped ([] ++ start.2.retries) ↔ DrawsCapped [] :=
      draws_capped_append_others fun event hevent => (hdials event hevent).not_jitter
    exact hcapped.mpr hnone

-- The delay is within its bounds in every state of a run exactly when no jitter
-- took it over the maximum.
theorem backoff_capped_iff (hbegin : Begins monotone sensor_name address port now start)
    (hrun : Run (StoreStep writer monotone) start calls last) :
    (∀ s ∈ start :: calls.map store_call.after, Capped s.1) ↔ DrawsCapped last.2.retries := by
  obtain ⟨hone, hleft, hnone⟩ := hbegin.backoff
  have hfollows := hrun.history
    (fun calls s => Follows (∀ s ∈ start :: calls.map store_call.after, Capped s.1) s.1 s.2) ?_ ?_
  · exact hfollows.drawn_iff.symm
  · have hcapped : Capped start.1 := by
      rw [Capped, hone]
      decide
    refine ⟨by rw [hleft, hone], hone.ge, iff_of_true hnone ?_, fun _ => hcapped.2⟩
    exact List.forall_mem_singleton.mpr hcapped
  · rintro calls s call s' h ⟨-, rfl, hexec⟩
    have hnext := follows_store_report hexec
      ⟨h.left, h.positive, Iff.rfl, fun hdrawn => h.capped (h.drawn_iff.mp hdrawn)⟩
    have hall : (∀ s ∈ start :: (calls ++ [call]).map store_call.after, Capped s.1) ↔
        (∀ s ∈ start :: calls.map store_call.after, Capped s.1) ∧ Capped call.after.1 := by
      rw [List.map_append, ← List.cons_append, List.forall_mem_append, List.map_singleton,
        List.forall_mem_singleton]
    rw [hall, ← h.drawn_iff]
    exact hnext

-- An endpoint that no attempt reaches, when each reading of the clock is more than
-- an hour behind the one before.
def unreachable (nbrand : Option UInt8) (s : network) :
    (call : socket_call) → socket_answer call × network
  | .time => (s.now + 4000, s.at_time (s.now + 4000))
  | .getrandom => (nbrand, s.retry (.jitter nbrand))
  | .getaddrinfo _ _ _ => (none, s.retry (.attempt s.now))
  | .socket _ _ _ => ((-1 : Int), s)
  | .connect _ _ => ((-1 : Int), s.answer (-1))
  | .close fd => ((), s.closed fd)
  | .send _ _ => ((-1 : Int), s)
  | .next_try seconds => ((), s.retry (.failed s.now seconds))
  | .recovered => ((), s.retry (.recovered s.now))

theorem unreachable_step (nbrand : Option UInt8) (s : network) (call : socket_call) :
    network.step monotone s call (unreachable nbrand s call).1 (unreachable nbrand s call).2 := by
  cases call with
  | time => exact ⟨fun _ => show s.now ≤ s.now + 4000 by omega, rfl⟩
  | socket family socktype protocol => exact Or.inl ⟨rfl, rfl⟩
  | connect fd addr => exact Or.inl ⟨rfl, rfl⟩
  | send fd buffer => exact Or.inl ⟨rfl, rfl⟩
  | _ => rfl

-- As many reports during an outage.
def outage (nbrand : Option UInt8) (n : Nat) : List store_call × (socket_context × network) :=
  serve_reports (unreachable nbrand) plain_writer (List.replicate n (payload_create 0 "all"))
    created

theorem outage_run (nbrand : Option UInt8) (n : Nat) :
    Run (StoreStep plain_writer monotone) created (outage nbrand n).1 (outage nbrand n).2 :=
  serve_reports_run (unreachable_step nbrand) _ _ _

theorem backoff_capped_iff_outage :
    (∀ s ∈ created :: (outage (some 7) 7).1.map store_call.after, Capped s.1) ↔
      DrawsCapped (outage (some 7) 7).2.2.retries :=
  backoff_capped_iff (Begins.created : Begins True "sensor" "10.0.0.1" 9080 1700000000 created)
    (outage_run (some 7) 7)

-- Eight failures in a row with the largest jitter.
theorem backoff_over_maximum :
    ¬ ∀ (Double : Type) (writer : json_writer Double) (sensor_name address : String)
      (port now : Int) (start last : socket_context × network) (calls : List store_call),
      Begins True sensor_name address port now start →
      Run (StoreStep writer True) start calls last → Capped last.1 := by
  intro hclaim
  have hcapped := hclaim Nat plain_writer _ _ _ _ created _ _ .created
    (outage_run (some 9) 8)
  exact absurd hcapped.2 (by decide)

end Runs

end HwpcSensor.Storage.Socket
