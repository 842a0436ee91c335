import HwpcSensor.Sensor.Shutdown.Simulation

namespace HwpcSensor.Sensor.Shutdown

open Interaction Perf Transition

-- The payload that the code of the reporting actor has received and still has to
-- hand over to the storage.
inductive Holds : reporting_code → Option (Nat × payload) → Prop
  | running {sender : Option Nat} {rest : Report.program reporting_point}
      (hnone : rest.Ends hands_over (fun _ stored => stored = []) []) :
      Holds (.running sender rest) none
  | handing_over {i : Nat} {p : payload} {rest : Report.program reporting_point}
      (hone : rest.Ends hands_over (fun _ stored => stored = [p]) []) :
      Holds (.running (some i) rest) (some (i, p))
  | top {ctx : Report.report_context} : Holds (.top ctx) none
  | waiting {ctx : Report.report_context} : Holds (.waiting ctx) none
  | ended : Holds .ended none

-- The reporting actor's code in its loop, where it has its socket, and behind it.

def reporting_code.Listens : reporting_code → Prop
  | running _ rest => rest.Yields (· ≠ .left)
  | top _ | waiting _ => True
  | ended => False

def reporting_code.Leaves : reporting_code → Prop
  | running _ rest => rest.Yields (· = .left)
  | top _ | waiting _ => False
  | ended => True

theorem report_cleanup_hands_over :
    report_cleanup.Ends hands_over (fun _ stored => stored = []) [] :=
  fun _ => rfl

theorem handle_pipe_hands_over (ctx : Report.report_context) (command : String) :
    (handle_report ctx (.pipe command)).Ends hands_over (fun _ stored => stored = []) [] := by
  have hhandles : (Report.handle_pipe ctx command).Ends hands_over
      (fun _ stored => stored = []) [] := by
    unfold Report.handle_pipe
    split_ifs
    · exact fun _ => rfl
    · exact fun _ => rfl
  exact hhandles.bind fun _ _ hstored => hstored

theorem Holds.call {sender : Option Nat} {call : Report.report_call}
    {next : Report.report_answer call → Report.program reporting_point}
    {in_hand : Option (Nat × payload)} (h : Holds (.running sender (.call call next)) in_hand)
    (answer : Report.report_answer call) :
    ∃ in_hand', Holds (.running sender (next answer)) in_hand' ∧
      (stored_by sender call).toList ++ in_hand'.toList = in_hand.toList := by
  cases h with
  | running hnone =>
      rcases hnone.after_call (fun _ _ _ => rfl) report_answered answer with
        ⟨hsilent, hnext⟩ | ⟨p, -, ⟨_, _, hpossible⟩, -⟩
      · refine ⟨none, .running hnext, ?_⟩
        rw [stored_by, hsilent]
        rfl
      · exact absurd hpossible (List.cons_ne_nil _ _)
  | @handing_over i p _ hone =>
      rcases hone.after_call (fun _ _ _ => rfl) report_answered answer with
        ⟨hsilent, hnext⟩ | ⟨q, hstored, ⟨_, _, hpossible⟩, hnext⟩
      · refine ⟨some (i, p), .handing_over hnext, ?_⟩
        rw [stored_by, hsilent]
        rfl
      · obtain ⟨rfl, -⟩ := List.cons.inj hpossible
        refine ⟨none, .running (hnext.mono fun _ _ h => (List.cons.inj h).2), ?_⟩
        rw [stored_by, hstored]
        rfl

-- What comes from one sender.
def from_sender (i : Nat) (payloads : List (Nat × payload)) : List (Nat × payload) :=
  payloads.filter fun sent => sent.1 = i

@[simp] theorem from_sender_append (i : Nat) (payloads more : List (Nat × payload)) :
    from_sender i (payloads ++ more) = from_sender i payloads ++ from_sender i more :=
  List.filter_append ..

theorem from_sender_eq_nil {i : Nat} {payloads : List (Nat × payload)}
    (h : ∀ sent ∈ payloads, sent.1 ≠ i) : from_sender i payloads = [] :=
  List.filter_eq_nil_iff.mpr fun sent hsent => by simpa using h sent hsent

theorem from_sender_reports (i : Nat) (payloads : List (Nat × payload)) :
    reports_of i (payloads.map report_by) = (from_sender i payloads).map report_by := by
  unfold reports_of from_sender
  rw [List.filter_map]
  rfl

-- Every payload sent has been handed over, is in hand, or waits in the socket.
def HandedOver (c : coded_process) (in_hand : Option (Nat × payload)) : Prop :=
  Holds c.reporting in_hand ∧ ∀ i,
    from_sender i (c.stored ++ in_hand.toList ++ c.channel) = from_sender i c.sent

theorem HandedOver.frame {c c' : coded_process} {in_hand : Option (Nat × payload)}
    (h : HandedOver c in_hand) (hholds : Holds c'.reporting in_hand)
    (hstored : c'.stored = c.stored) (hchannel : c'.channel = c.channel)
    (hsent : c'.sent = c.sent) : HandedOver c' in_hand := by
  refine ⟨hholds, fun i => ?_⟩
  rw [hstored, hchannel, hsent]
  exact h.2 i

theorem handle_report_listens (ctx : Report.report_context) (event : Report.poll_event) :
    (handle_report ctx event).Yields (· ≠ .left) :=
  Prog.Yields.ignore fun _ => Prog.Yields.pure nofun

theorem report_cleanup_leaves : report_cleanup.Yields (· = .left) :=
  fun _ => rfl

-- Nothing is in hand behind the loop.
def Serves (code : reporting_code) (in_hand : Option (Nat × payload)) : Prop :=
  code.Listens ∨ code.Leaves ∧ in_hand = none

theorem reporting_code_step_hands_over {c c' : coded_process} {in_hand : Option (Nat × payload)}
    (h : HandedOver c in_hand) (hserves : Serves c.reporting in_hand)
    (hstep : ReportingCodeStep c c') :
    ∃ in_hand', HandedOver c' in_hand' ∧ Serves c'.reporting in_hand' := by
  have hholds := h.1
  cases hstep with
  | @call sender call next answer hcode =>
      rw [hcode] at hholds hserves
      obtain ⟨in_hand', hnext, hstored⟩ := hholds.call answer
      refine ⟨in_hand', ⟨hnext, fun i => ?_⟩, ?_⟩
      · have hpassed : c.stored ++ (stored_by sender call).toList ++ in_hand'.toList =
            c.stored ++ in_hand.toList := by rw [List.append_assoc, hstored]
        rw [← h.2 i, ← hpassed]
      · rcases hserves with hlistens | ⟨hleaves, rfl⟩
        · exact .inl (hlistens answer)
        · exact .inr ⟨hleaves answer, Option.toList_eq_nil_iff.mp (List.append_eq_nil_iff.mp
            hstored).2⟩
  | handled hcode =>
      rw [hcode] at hholds
      cases hholds with
      | running _ => exact ⟨none, h.frame .top rfl rfl rfl, .inl trivial⟩
      | handing_over hone => exact absurd hone.symm (List.cons_ne_nil _ _)
  | left hcode =>
      rw [hcode] at hholds
      cases hholds with
      | running _ => exact ⟨none, h.frame .ended rfl rfl rfl, .inr ⟨trivial, rfl⟩⟩
      | handing_over hone => exact absurd hone.symm (List.cons_ne_nil _ _)
  | loop_ends hcode hterminated =>
      rw [hcode] at hholds
      obtain ⟨⟩ := hholds
      exact ⟨none, h.frame (.running report_cleanup_hands_over) rfl rfl rfl,
        .inr ⟨report_cleanup_leaves, rfl⟩⟩
  | wait hcode hrunning hgo =>
      rw [hcode] at hholds
      obtain ⟨⟩ := hholds
      exact ⟨none, h.frame .waiting rfl rfl rfl, .inl trivial⟩
  | terminated hcode hstop =>
      obtain rfl : in_hand = none := by
        rcases hcode with ⟨hcode, -⟩ | hcode
        · rw [hcode] at hholds
          cases hholds with
          | top => rfl
        · rw [hcode] at hholds
          cases hholds with
          | waiting => rfl
      exact ⟨none, h.frame (.running report_cleanup_hands_over) rfl rfl rfl,
        .inr ⟨report_cleanup_leaves, rfl⟩⟩
  | @handle_pipe ctx command pipe hcode hpipe =>
      rw [hcode] at hholds
      obtain ⟨⟩ := hholds
      exact ⟨none, h.frame (.running (handle_pipe_hands_over ctx command)) rfl rfl rfl,
        .inl (handle_report_listens _ _)⟩
  | @handle_reporting ctx sender received earlier later hcode hchannel hfirst =>
      rw [hcode] at hholds
      obtain ⟨⟩ := hholds
      have htaken := (handle_report_hands_over ctx received).mono fun _ _ h => h.2
      refine ⟨some (sender, received), ⟨.handing_over htaken, fun i => ?_⟩,
        .inl (handle_report_listens _ _)⟩
      rw [← h.2 i, hchannel, ← List.singleton_append]
      simp only [from_sender_append]
      by_cases hi : sender = i
      · have hearlier : from_sender i earlier = [] :=
          from_sender_eq_nil fun other hother => hi ▸ hfirst other hother
        rw [hearlier, List.nil_append, List.append_assoc, List.append_assoc]
        rfl
      · have hother : from_sender i [(sender, received)] = [] :=
          from_sender_eq_nil (by simpa using hi)
        rw [Option.toList_some, hother]
        rfl

-- Behind its loop the reporting actor stores nothing.
structure Left (stored : List (Nat × payload)) (c : coded_process) : Prop where
  leaves : c.reporting.Leaves
  holds : Holds c.reporting none
  stored : c.stored = stored

theorem Left.reporting_step {stored : List (Nat × payload)} {c c' : coded_process}
    (h : Left stored c) (hstep : ReportingCodeStep c c') : Left stored c' := by
  have hleaves := h.leaves
  have hholds := h.holds
  cases hstep with
  | call answer hcode =>
      rw [hcode] at hleaves hholds
      obtain ⟨in_hand', hnext, hnone⟩ := hholds.call answer
      obtain ⟨hstored, hin_hand⟩ := List.append_eq_nil_iff.mp hnone
      obtain rfl := Option.toList_eq_nil_iff.mp hin_hand
      refine ⟨hleaves answer, hnext, ?_⟩
      rw [hstored, List.append_nil]
      exact h.stored
  | left => exact ⟨trivial, .ended, h.stored⟩
  | handled hcode =>
      rw [hcode] at hleaves
      exact reporting_point.noConfusion (show reporting_point.handled _ = .left from hleaves)
  | terminated hcode hstop =>
      rcases hcode with ⟨hcode, -⟩ | hcode <;> rw [hcode] at hleaves <;> exact False.elim hleaves
  | loop_ends hcode | wait hcode | handle_pipe hcode | handle_reporting hcode =>
      rw [hcode] at hleaves
      exact False.elim hleaves

theorem Left.step {order : hash_order} {stored : List (Nat × payload)} {c c' : coded_process}
    {label : action} (h : Left stored c) (hstep : CodedStep order c label c') :
    Left stored c' := by
  cases hstep with
  | reporting hstep => exact h.reporting_step hstep
  | _ => exact ⟨h.leaves, h.holds, h.stored⟩

theorem coded_step_hands_over {order : hash_order} {c c' : coded_process} {label : action}
    {in_hand : Option (Nat × payload)} (h : HandedOver c in_hand)
    (hserves : Serves c.reporting in_hand) (hstep : CodedStep order c label c') :
    ∃ in_hand', HandedOver c' in_hand' ∧ Serves c'.reporting in_hand' := by
  cases hstep with
  | @perf i actor actor' sent hactor hstep =>
      refine ⟨in_hand, ⟨h.1, fun j => ?_⟩, hserves⟩
      dsimp only
      rw [← List.append_assoc, from_sender_append, from_sender_append j c.sent, ← h.2 j]
      rfl
  | reporting hstep => exact reporting_code_step_hands_over h hserves hstep
  | _ => exact ⟨in_hand, h.frame h.1 rfl rfl rfl, hserves⟩

theorem reporting_code_step_running {c c' : coded_process} (hstep : ReportingCodeStep c c') :
    c.reporting ≠ .ended ∧ c'.main = c.main := by
  cases hstep with
  | terminated hcode hstop =>
      rcases hcode with ⟨hcode, -⟩ | hcode <;> exact ⟨by rw [hcode]; nofun, rfl⟩
  | call answer hcode => exact ⟨by rw [hcode]; nofun, rfl⟩
  | handled hcode | left hcode | loop_ends hcode | wait hcode | handle_pipe hcode
  | handle_reporting hcode => exact ⟨by rw [hcode]; nofun, rfl⟩

-- `main` returns behind the end of the reporting actor's code.
theorem ended_when_done {order : hash_order} {c c' : coded_process} {label : action}
    (h : c.main = .done → c.reporting = .ended) (hstep : CodedStep order c label c') :
    c'.main = .done → c'.reporting = .ended := by
  cases hstep with
  | check hmain =>
      dsimp only
      split_ifs <;> nofun
  | start_container hmain config => exact fun hdone => h hdone
  | @next_kind kind hmain hall => cases kind <;> nofun
  | finish hmain hended => exact fun _ => hended
  | interrupt => exact h
  | perf hactor hstep => exact h
  | reporting hstep =>
      obtain ⟨hrunning, hmain⟩ := reporting_code_step_running hstep
      exact fun hdone => absurd (h (hmain.symm.trans hdone)) hrunning
  | _ => nofun

-- No payload is doubled or overtaken by another of its sender, and none is lost while
-- the reporting actor is in its loop: whatever the calls of the actors answer, and
-- however they interleave, the payloads that an actor has sent are those handed over to
-- the storage, the one in hand and those that wait in the socket, in the order of the
-- ticks. Behind the loop nothing is in hand and nothing is handed over any more: what
-- was still in the socket, or is sent later, is lost.
theorem payloads_handed_over {order : hash_order} {system : Option perf_config}
    {labels : List action} {c : coded_process}
    (hrun : Run (CodedStep order) (.start system) labels c) :
    ∃ in_hand, Holds c.reporting in_hand ∧
      (∀ i, from_sender i (c.stored ++ in_hand.toList) <+: from_sender i c.sent ∧
        (c.reporting.Listens →
          from_sender i (c.stored ++ in_hand.toList ++ c.channel) = from_sender i c.sent) ∧
        ((from_sender i c.sent).map fun sent => sent.2.timestamp).Sublist c.ticks) ∧
      (¬c.reporting.Listens → in_hand = none ∧
        ∀ more c', Run (CodedStep order) c more c' → c'.stored = c.stored) ∧
      (c.main = .done → ¬c.reporting.Listens) := by
  have hstart : HandedOver (.start system) none := ⟨.top, fun _ => rfl⟩
  obtain ⟨in_hand, hhanded, hserves⟩ := hrun.invariant
    (fun c => ∃ in_hand, HandedOver c in_hand ∧ Serves c.reporting in_hand)
    ⟨none, hstart, .inl trivial⟩ fun c label c' h hstep =>
      h.elim fun _ h => coded_step_hands_over h.1 h.2 hstep
  obtain ⟨labels', t, hrun', hrep, -⟩ := coded_process_refines hrun
  refine ⟨in_hand, hhanded.1, fun i => ⟨⟨from_sender i c.channel, ?_⟩, fun _ => hhanded.2 i, ?_⟩,
    fun hleft => ?_, fun hdone => ?_⟩
  · rw [← from_sender_append]
    exact hhanded.2 i
  · have hordered := (traced_run hrun').pushed i
    rw [hrep.pushed, hrep.ticks, from_sender_reports, List.map_map] at hordered
    exact hordered
  · rcases hserves with hlistens | ⟨hleaves, rfl⟩
    · exact absurd hlistens hleft
    · refine ⟨rfl, fun more c' hmore => ?_⟩
      exact (hmore.invariant (Left c.stored) ⟨hleaves, hhanded.1, rfl⟩
        fun _ _ _ h hstep => h.step hstep).stored
  · have hended := hrun.invariant (fun c => c.main = .done → c.reporting = .ended) nofun
      fun _ _ _ h hstep => ended_when_done h hstep
    rw [hended hdone]
    exact id

theorem stores_report {c : coded_process} {p : payload}
    {next : Int → Report.program reporting_point}
    (hcode : c.reporting = .running (some 0) (.call (.storage_module_store_report p) next)) :
    CodedStep in_order c .reporting
      { c with reporting := .running (some 0) (next 0), stored := c.stored ++ [(0, p)] } :=
  .reporting
    (@ReportingCodeStep.call c (some 0) (.storage_module_store_report p) next (0 : Int) hcode)

-- The same payload, handed over or left in the socket.
theorem payloads_handed_over_one :
    (∃ (c : coded_process) (in_hand : Option (Nat × payload)),
      c.stored = [(0, first_payload)] ∧ c.reporting.Listens ∧ Holds c.reporting in_hand ∧
      ∀ i, from_sender i (c.stored ++ in_hand.toList ++ c.channel) = from_sender i c.sent) ∧
    ∃ c : coded_process, c.sent = [(0, first_payload)] ∧ ¬c.reporting.Listens ∧
      ∀ more c', Run (CodedStep in_order) c more c' → c'.stored = [] := by
  obtain ⟨labels, actor, hsent⟩ := first_payload_sent
  have hchannel : [((0 : Nat), first_payload)] = [] ++ (0, first_payload) :: [] := rfl
  have htaken := (hsent.snoc (.reporting (.wait rfl rfl rfl))).snoc
    (.reporting (.handle_reporting rfl hchannel nofun))
  have hstored := htaken.snoc (stores_report rfl)
  have hended := (hsent.snoc .interrupt).snoc
    (.reporting (.terminated (.inl ⟨rfl, rfl⟩) rfl))
  obtain ⟨in_hand, hholds, hlistening, -, -⟩ := payloads_handed_over hstored
  obtain ⟨_, -, -, hleft, -⟩ := payloads_handed_over hended
  have hlistens : (handle_report ⟨false⟩ (.reporting (some first_payload))).Yields (· ≠ .left) :=
    handle_report_listens _ _
  have hleaves : ¬report_cleanup.Yields (· ≠ .left) := fun h => h () rfl
  have hlost := (hleft hleaves).2
  refine ⟨⟨_, in_hand, ?_, ?_, hholds, fun i => (hlistening i).2.1 ?_⟩, ⟨_, ?_, ?_, hlost⟩⟩
  · rfl
  · exact hlistens (0 : Int)
  · exact hlistens (0 : Int)
  · rfl
  · exact hleaves

end HwpcSensor.Sensor.Shutdown
