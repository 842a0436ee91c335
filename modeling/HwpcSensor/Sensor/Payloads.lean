import HwpcSensor.Library.Transition
import HwpcSensor.Perf.Populate.Destroyed
import HwpcSensor.Report

namespace HwpcSensor.Sensor

open Interaction Perf Syscall Transition

-- What a tick makes of its payload.
inductive tick_outcome where
  | no_payload
  | failed (nodes : populate_nodes)
  | sent (payload : payload) (nodes : populate_nodes)

-- `handle_ticker` with the nodes of the payload beside its values.
def handle_ticker_nodes (order : hash_order) (ctx : perf_context) (timestamp : Nat) :
    program (perf_context × tick_outcome) := do
  let allocated ← malloc
  if allocated = false then pure (ctx, .no_payload)
  else
    let dwfl ← find_dwfl ctx
    let ctx := { ctx with dwfl := dwfl }
    let populated ← populate_payload_nodes order ctx (payload_create timestamp ctx.target_name)
    if populated.1 ≠ 0 then pure (ctx, .failed populated.2.2)
    else do
      send populated.2.1.payload
      pure (ctx, .sent populated.2.1.payload populated.2.2)

theorem handle_ticker_nodes_values (order : hash_order) (ctx : perf_context) (timestamp : Nat) :
    (handle_ticker_nodes order ctx timestamp >>= fun result => pure result.1) =
      handle_ticker order ctx timestamp := by
  unfold handle_ticker_nodes handle_ticker
  rw [Prog.bind_assoc]
  refine congrArg _ (funext fun allocated => ?_)
  cases allocated with
  | false => rfl
  | true =>
      simp only [Bool.true_eq_false, if_false]
      rw [Prog.bind_assoc]
      refine congrArg _ (funext fun dwfl => ?_)
      rw [← populate_payload_nodes_values, Prog.bind_assoc, Prog.bind_assoc]
      refine congrArg _ (funext fun populated => ?_)
      by_cases hfailed : populated.1 ≠ 0
      · rw [if_pos hfailed]
        exact (if_pos hfailed).symm
      · rw [if_neg hfailed]
        exact (if_neg hfailed).symm

-- A node of the sensor: the tick that it was created at, and its number there. The
-- payload itself has none.
abbrev node := Nat × Option Nat

def nodes_at (tick : Nat) (nodes : List Nat) : List node :=
  nodes.map (fun n => (tick, some n)) ++ [(tick, none)]

-- A payload in the reporting socket, by its pointer.
structure message where
  tick : Nat
  payload : payload
  groups : zhashx group_node

-- The nodes on which `payload_destroy` ends.
def message.owned (m : message) : List node :=
  nodes_at m.tick (payload_destroy m.groups)

def message.destroyed (m : message) : Report.report_call → List node
  | .payload_destroy _ => m.owned
  | _ => []

namespace tick_outcome

def created (tick : Nat) : tick_outcome → List node
  | no_payload => []
  | failed nodes | sent _ nodes => nodes_at tick (List.range nodes.allocated)

def destroyed (tick : Nat) : tick_outcome → List node
  | failed nodes => nodes_at tick nodes.destroyed
  | _ => []

def pushed (tick : Nat) : tick_outcome → List message
  | sent payload nodes => [⟨tick, payload, nodes.groups⟩]
  | _ => []

-- What a tick is done with: destroyed by it, or left to the reporting actor.
def settled (tick : Nat) (outcome : tick_outcome) : List node :=
  outcome.destroyed tick ++ (outcome.pushed tick).flatMap message.owned

theorem settled_failed (tick : Nat) (nodes : populate_nodes) :
    (failed nodes).settled tick = nodes_at tick nodes.destroyed :=
  List.append_nil _

theorem settled_sent (tick : Nat) (payload : payload) (nodes : populate_nodes) :
    (sent payload nodes).settled tick = nodes_at tick (payload_destroy nodes.groups) :=
  List.append_nil _

end tick_outcome

-- The contexts of the perf actors, and the nodes that they and the reporting actor
-- have created and destroyed.
structure node_state where
  ctx : Nat → perf_context
  ticks : Nat
  created : List node
  destroyed : List node
  channel : List message

namespace node_state

def start (ctx : Nat → perf_context) : node_state := ⟨ctx, 0, [], [], []⟩

def waiting (s : node_state) : List node :=
  s.channel.flatMap message.owned

def ticked (s : node_state) (i : Nat) (ctx : perf_context) (outcome : tick_outcome) :
    node_state where
  ctx := Function.update s.ctx i ctx
  ticks := s.ticks + 1
  created := s.created ++ outcome.created s.ticks
  destroyed := s.destroyed ++ outcome.destroyed s.ticks
  channel := s.channel ++ outcome.pushed s.ticks

end node_state

inductive node_event where
  | tick (actor : Nat) (outcome : tick_outcome)
  | report

-- Whatever the calls answer.
def any_answer {Op : Type} {Ans : Op → Type} : Semantics Op Ans Unit :=
  fun _ _ _ _ => True

def calls_made : Semantics Report.report_call Report.report_answer (List Report.report_call) :=
  fun calls call _ calls' => calls' = calls ++ [call]

-- The actors take their ticks, and the reporting actor its reports, in any order.
inductive NodeStep (order : hash_order) : node_state → node_event → node_state → Prop
  | tick {s : node_state} {i timestamp : Nat} {ctx : perf_context} {outcome : tick_outcome}
      (hexec : Exec any_answer (handle_ticker_nodes order (s.ctx i) timestamp) () (ctx, outcome)
        ()) :
      NodeStep order s (.tick i outcome) (s.ticked i ctx outcome)
  | report {s : node_state} {m : message} {earlier later : List message}
      {calls : List Report.report_call} (hchannel : s.channel = earlier ++ m :: later)
      (hexec : Exec calls_made (Report.handle_reporting (some m.payload)) [] () calls) :
      NodeStep order s .report { s with
        destroyed := s.destroyed ++ calls.flatMap m.destroyed
        channel := earlier ++ later }

-- No tick failed with a pointer that its error label destroys beside the payload.
def tick_outcome.Fine (ctx : perf_context) : tick_outcome → Prop
  | failed nodes => ∃ error, nodes.error = some error ∧ NothingStale ctx error
  | _ => True

def node_event.Fine (ctx : Nat → perf_context) : node_event → Prop
  | tick i outcome => outcome.Fine (ctx i)
  | report => True

-- Two enumerations that a predicate tells apart are compared part by part.
theorem perm_append_append_iff {α : Type} {p : α → Bool} {a b c d : List α}
    (ha : ∀ x ∈ a, p x = true) (hb : ∀ x ∈ b, p x = false) (hc : ∀ x ∈ c, p x = true)
    (hd : ∀ x ∈ d, p x = false) : (a ++ b).Perm (c ++ d) ↔ a.Perm c ∧ b.Perm d := by
  have hnone : ∀ {l : List α}, (∀ x ∈ l, p x = false) → l.filter p = [] := by
    intro l hl
    exact List.filter_eq_nil_iff.mpr fun x hx => by simp [hl x hx]
  constructor
  · intro h
    have hfirst := h.filter p
    rw [List.filter_append, List.filter_append, hnone hb, hnone hd, List.append_nil,
      List.append_nil, List.filter_eq_self.mpr ha, List.filter_eq_self.mpr hc] at hfirst
    exact ⟨hfirst, (List.perm_append_left_iff a).mp (h.trans (hfirst.symm.append_right d))⟩
  · rintro ⟨hfirst, hsecond⟩
    exact hfirst.append hsecond

section Nodes

variable {tick : Nat} {nodes nodes' : List Nat} {outcome : tick_outcome}

theorem nodes_at_tick {x : node} (h : x ∈ nodes_at tick nodes) : x.1 = tick := by
  rcases List.mem_append.mp h with hnode | hpayload
  · obtain ⟨n, -, rfl⟩ := List.mem_map.mp hnode
    rfl
  · rw [List.mem_singleton.mp hpayload]

theorem nodes_at_perm_iff :
    (nodes_at tick nodes).Perm (nodes_at tick nodes') ↔ nodes.Perm nodes' := by
  have hinjective : Function.Injective fun n => ((tick, some n) : node) := by
    intro n n' h
    exact Option.some.inj (Prod.mk.inj h).2
  unfold nodes_at
  rw [List.perm_append_right_iff]
  exact List.map_perm_map_iff hinjective

theorem nodup_nodes_at (h : nodes.Nodup) : (nodes_at tick nodes).Nodup := by
  have hinjective : Function.Injective fun n => ((tick, some n) : node) := by
    intro n n' h
    exact Option.some.inj (Prod.mk.inj h).2
  refine List.nodup_append.mpr ⟨h.map hinjective, List.nodup_singleton _, ?_⟩
  rintro x hx y hy rfl
  obtain ⟨n, -, rfl⟩ := List.mem_map.mp hx
  simp at hy

theorem created_tick {x : node} (h : x ∈ outcome.created tick) : x.1 = tick := by
  cases outcome with
  | no_payload => exact absurd h List.not_mem_nil
  | failed nodes => exact nodes_at_tick h
  | sent payload nodes => exact nodes_at_tick h

theorem settled_tick {x : node} (h : x ∈ outcome.settled tick) : x.1 = tick := by
  cases outcome with
  | no_payload => exact absurd h List.not_mem_nil
  | failed nodes =>
      rw [tick_outcome.settled_failed] at h
      exact nodes_at_tick h
  | sent payload nodes =>
      rw [tick_outcome.settled_sent] at h
      exact nodes_at_tick h

theorem nodup_created : (outcome.created tick).Nodup := by
  cases outcome with
  | no_payload => exact List.nodup_nil
  | failed nodes => exact nodup_nodes_at List.nodup_range
  | sent payload nodes => exact nodup_nodes_at List.nodup_range

end Nodes

section Tick

variable {order : hash_order} {ctx ctx' : perf_context} {outcome : tick_outcome}

theorem tables_setup (h : ctx.Tables) (hsetup : SameSetup ctx ctx') : ctx'.Tables := by
  obtain ⟨terminated, dwfl, rfl⟩ := hsetup
  exact ⟨h.groups, h.pkgs, h.cpus⟩

theorem nothing_stale_setup {error : populate_error} (hsetup : SameSetup ctx ctx') :
    NothingStale ctx' error ↔ NothingStale ctx error := by
  obtain ⟨terminated, dwfl, rfl⟩ := hsetup
  cases error <;> rfl

theorem fine_setup (hsetup : SameSetup ctx ctx') : outcome.Fine ctx' ↔ outcome.Fine ctx := by
  cases outcome with
  | failed nodes =>
      exact exists_congr fun error => and_congr_right fun _ => nothing_stale_setup hsetup
  | _ => exact Iff.rfl

-- What a tick creates is settled once, unless it fails with something stale.
theorem exec_tick_nodes {timestamp tick : Nat} (htables : ctx.Tables)
    (hexec : Exec any_answer (handle_ticker_nodes order ctx timestamp) () (ctx', outcome) ()) :
    SameSetup ctx ctx' ∧
      ((outcome.settled tick).Perm (outcome.created tick) ↔ outcome.Fine ctx) := by
  obtain ⟨allocated, _, -, hexec⟩ := exec_perform_bind.mp hexec
  cases allocated with
  | false =>
      obtain ⟨hresult, -⟩ := exec_pure.mp hexec
      obtain ⟨rfl, rfl⟩ := Prod.mk.inj hresult
      exact ⟨SameSetup.refl _, iff_of_true (List.Perm.refl _) trivial⟩
  | true =>
      obtain ⟨dwfl, _, -, hexec⟩ := exec_bind.mp hexec
      obtain ⟨populated, _, hpopulated, hexec⟩ := exec_bind.mp hexec
      have hsetup : SameSetup ctx { ctx with dwfl := dwfl } := ⟨ctx.terminated, dwfl, rfl⟩
      have htables' := tables_setup htables hsetup
      obtain ⟨hstored, hfailed⟩ := exec_populate_payload_nodes htables' hpopulated
      by_cases hzero : populated.1 ≠ 0
      · rw [if_pos hzero] at hexec
        obtain ⟨hresult, -⟩ := exec_pure.mp hexec
        obtain ⟨rfl, rfl⟩ := Prod.mk.inj hresult
        obtain ⟨error, herror, hperm⟩ := hfailed hzero
        refine ⟨hsetup, ?_⟩
        rw [tick_outcome.settled_failed]
        refine nodes_at_perm_iff.trans (hperm.trans ?_)
        rw [nothing_stale_setup hsetup]
        constructor
        · exact fun hstale => ⟨error, herror, hstale⟩
        · rintro ⟨error', herror', hstale⟩
          obtain rfl := Option.some.inj (herror.symm.trans herror')
          exact hstale
      · rw [if_neg hzero] at hexec
        obtain ⟨_, _, -, hexec⟩ := exec_perform_bind.mp hexec
        obtain ⟨hresult, -⟩ := exec_pure.mp hexec
        obtain ⟨rfl, rfl⟩ := Prod.mk.inj hresult
        refine ⟨hsetup, iff_of_true ?_ trivial⟩
        rw [tick_outcome.settled_sent]
        exact nodes_at_perm_iff.mpr (hstored (not_not.mp hzero))

-- A message that is received is destroyed, once.
theorem exec_handle_reporting_nodes {m : message} {calls : List Report.report_call}
    (hexec : Exec calls_made (Report.handle_reporting (some m.payload)) [] () calls) :
    calls.flatMap m.destroyed = m.owned := by
  obtain ⟨failed, _, rfl, hexec⟩ := exec_perform_bind.mp hexec
  split_ifs at hexec
  · obtain ⟨_, _, rfl, hexec⟩ := exec_perform_bind.mp hexec
    obtain rfl := exec_perform.mp hexec
    exact List.append_nil _
  · obtain rfl := exec_perform.mp hexec
    exact List.append_nil _

end Tick

section Run

variable {order : hash_order} {ctx : Nat → perf_context} {s s' : node_state}
  {events : List node_event} {event : node_event}

-- What has been destroyed, and what the reporting actor will destroy.
def node_state.settled (s : node_state) : List node :=
  s.destroyed ++ s.waiting

structure Owned (ctx : Nat → perf_context) (events : List node_event) (s : node_state) :
    Prop where
  setup : ∀ i, SameSetup (ctx i) (s.ctx i)
  created : ∀ x ∈ s.created, x.1 < s.ticks
  settled : ∀ x ∈ s.settled, x.1 < s.ticks
  nodup : s.created.Nodup
  balance : s.settled.Perm s.created ↔ ∀ event ∈ events, event.Fine ctx

theorem Owned.tick {i : Nat} {ctx' : perf_context} {outcome : tick_outcome}
    (h : Owned ctx events s) (hsetup : SameSetup (s.ctx i) ctx')
    (hbalance : (outcome.settled s.ticks).Perm (outcome.created s.ticks) ↔
      outcome.Fine (ctx i)) :
    Owned ctx (events ++ [.tick i outcome]) (s.ticked i ctx' outcome) := by
  have hsettled : (s.ticked i ctx' outcome).settled.Perm
      (s.settled ++ outcome.settled s.ticks) := by
    simp only [node_state.settled, node_state.waiting, node_state.ticked, tick_outcome.settled,
      List.flatMap_append, List.append_assoc]
    refine List.Perm.append_left _ ?_
    simp only [← List.append_assoc]
    exact List.perm_append_comm.append_right _
  have hold : ∀ x : node, x.1 < s.ticks → decide (x.1 < s.ticks) = true := fun x hx => by
    simp [hx]
  have hnew : ∀ x : node, x.1 = s.ticks → decide (x.1 < s.ticks) = false := fun x hx => by
    simp [hx]
  refine ⟨?_, ?_, ?_, ?_, ?_⟩
  · intro j
    by_cases hj : j = i
    · subst hj
      simpa [node_state.ticked] using (h.setup j).trans hsetup
    · simpa [node_state.ticked, Function.update_of_ne hj] using h.setup j
  · intro x hx
    rcases List.mem_append.mp hx with hx | hx
    · exact Nat.lt_succ_of_lt (h.created x hx)
    · exact Nat.lt_succ_of_le (Nat.le_of_eq (created_tick hx))
  · intro x hx
    rcases List.mem_append.mp (hsettled.subset hx) with hx | hx
    · exact Nat.lt_succ_of_lt (h.settled x hx)
    · exact Nat.lt_succ_of_le (Nat.le_of_eq (settled_tick hx))
  · refine List.nodup_append.mpr ⟨h.nodup, nodup_created, ?_⟩
    rintro x hx y hy rfl
    exact absurd (h.created x hx) (by rw [created_tick hy]; exact Nat.lt_irrefl _)
  · have hparts : (s.settled ++ outcome.settled s.ticks).Perm
        (s.created ++ outcome.created s.ticks) ↔ s.settled.Perm s.created ∧
          (outcome.settled s.ticks).Perm (outcome.created s.ticks) :=
      perm_append_append_iff (fun x hx => hold x (h.settled x hx))
        (fun x hx => hnew x (settled_tick hx)) (fun x hx => hold x (h.created x hx))
        (fun x hx => hnew x (created_tick hx))
    rw [List.forall_mem_append, List.forall_mem_singleton, ← h.balance]
    refine (hsettled.congr_left _).trans (hparts.trans (and_congr_right fun _ => ?_))
    exact hbalance

theorem Owned.report {m : message} {earlier later : List message} {destroyed : List node}
    (h : Owned ctx events s) (hchannel : s.channel = earlier ++ m :: later)
    (hdestroyed : destroyed = m.owned) :
    Owned ctx (events ++ [.report]) { s with
      destroyed := s.destroyed ++ destroyed
      channel := earlier ++ later } := by
  have hsettled : node_state.settled { s with
      destroyed := s.destroyed ++ destroyed
      channel := earlier ++ later } |>.Perm s.settled := by
    simp only [node_state.settled, node_state.waiting, hchannel, hdestroyed, List.flatMap_append,
      List.flatMap_cons, List.append_assoc]
    refine List.Perm.append_left _ ?_
    simp only [← List.append_assoc]
    exact List.perm_append_comm.append_right _
  refine ⟨h.setup, h.created, fun x hx => h.settled x (hsettled.subset hx), h.nodup, ?_⟩
  rw [List.forall_mem_append, List.forall_mem_singleton, ← h.balance]
  exact (hsettled.congr_left _).trans (and_iff_left trivial).symm

theorem node_step_owned (htables : ∀ i, (ctx i).Tables) (h : Owned ctx events s)
    (hstep : NodeStep order s event s') : Owned ctx (events ++ [event]) s' := by
  cases hstep with
  | tick hexec =>
      obtain ⟨hsetup, hbalance⟩ := exec_tick_nodes (tables_setup (htables _) (h.setup _)) hexec
      exact h.tick hsetup (hbalance.trans (fine_setup (h.setup _)))
  | report hchannel hexec =>
      exact h.report hchannel (exec_handle_reporting_nodes hexec)

-- Over all the actors, each node is destroyed once or waits in the reporting socket
-- to be destroyed once, exactly as long as no tick has failed with a stale pointer.
theorem nodes_settled_once (htables : ∀ i, (ctx i).Tables)
    (hrun : Run (NodeStep order) (.start ctx) events s) :
    s.created.Nodup ∧ (s.settled.Perm s.created ↔ ∀ event ∈ events, event.Fine ctx) := by
  have hstart : Owned ctx [] (.start ctx) :=
    ⟨fun i => SameSetup.refl (ctx i), by simp [node_state.start],
      by simp [node_state.start, node_state.settled, node_state.waiting],
      List.nodup_nil, iff_of_true (List.Perm.refl _) (by simp)⟩
  have howned := hrun.history (Owned ctx) hstart fun _ _ _ _ h hstep =>
    node_step_owned htables h hstep
  exact ⟨howned.nodup, howned.balance⟩

end Run

-- A tick whose memory ends at one of the allocations, or does not end.
def tick_until (refused : Nat) : (perf_context × tick_outcome) × Nat × kernel :=
  (handle_ticker_nodes in_order two_groups_setup.1.2 1).run (refusing refused)
    (0, two_groups_setup.2)

theorem tick_until_exec (refused : Nat) :
    Exec any_answer (handle_ticker_nodes in_order two_groups_setup.1.2 1) ()
      ((tick_until refused).1.1, (tick_until refused).1.2) () := by
  have hexec : Exec (refuses refused) (handle_ticker_nodes in_order two_groups_setup.1.2 1)
      (0, two_groups_setup.2) (tick_until refused).1 (tick_until refused).2 :=
    exec_run _ (fun _ _ => rfl) _ _
  exact hexec.project (fun _ => ()) fun _ _ _ _ _ => trivial

def stored_answer : (call : Report.report_call) → Report.report_answer call
  | .malloc => true
  | .storage_module_store_report _ => (0 : Int)
  | .zsys_error _ | .zsys_info _ | .payload_destroy _ | .free => ()

-- One actor sends its report, the memory of another one ends in the second group, and
-- then the report is stored and destroyed.
theorem nodes_settled_once_stored :
    (∃ payload nodes, (tick_until 100).1.2 = .sent payload nodes) ∧
    (∃ nodes, (tick_until 6).1.2 = .failed nodes) ∧
    ∃ s, Run (NodeStep in_order) (.start fun _ => two_groups_setup.1.2)
        [.tick 0 (tick_until 100).1.2, .tick 1 (tick_until 6).1.2, .report] s ∧
      s.channel = [] ∧ s.created.Nodup ∧
      (s.settled.Perm s.created ↔ ∀ event ∈
        [node_event.tick 0 (tick_until 100).1.2, .tick 1 (tick_until 6).1.2, .report],
          event.Fine fun _ => two_groups_setup.1.2) := by
  obtain ⟨payload, nodes, hsent⟩ : ∃ payload nodes,
      (tick_until 100).1.2 = .sent payload nodes := ⟨_, _, rfl⟩
  have hfirst : Run (NodeStep in_order) (.start fun _ => two_groups_setup.1.2)
      [.tick 0 (tick_until 100).1.2] _ := .single (.tick (tick_until_exec 100))
  have hsecond := hfirst.snoc (.tick (i := 1) (tick_until_exec 6))
  have hstored : Exec calls_made (Report.handle_reporting (some payload)) [] ()
      ((Report.handle_reporting (some payload)).run
        (fun calls call => (stored_answer call, calls ++ [call])) []).2 :=
    exec_run _ (fun _ _ => rfl) _ _
  have hchannel : (tick_until 100).1.2.pushed 0 =
      [] ++ (⟨0, payload, nodes.groups⟩ : message) :: [] := by rw [hsent]; rfl
  have hrun := hsecond.snoc (.report hchannel hstored)
  exact ⟨⟨payload, nodes, hsent⟩, ⟨_, rfl⟩, _, hrun, rfl,
    nodes_settled_once (fun _ => two_groups_tables) hrun⟩

end HwpcSensor.Sensor
