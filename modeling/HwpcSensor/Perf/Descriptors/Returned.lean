import HwpcSensor.Perf.Descriptors.Theorems

namespace HwpcSensor.Perf

open Interaction Ownership

-- The actor has no descriptor and no mapping left. No call of the module unmaps
-- anything, so that every mapping that it was given is still there.
structure ReturnedEverything (s : descriptor_state) : Prop where
  closed : ∀ fd, s.table.owner fd ≠ some .actor
  unmapped : ∀ buffer, some buffer ∉ s.answers.mapped

-- No ring buffer was asked for, which the leaders of a cgroup do once they are
-- opened, and no event was given the number 0, which the set up takes for an error.
def setup_answers.NothingToLose (answers : setup_answers) : Prop :=
  answers.mapped = [] ∧ 0 ∉ answers.perf_opened

theorem setup_answers.nothing_to_lose_iff {answers : setup_answers} :
    answers.NothingToLose ↔ answers.Recorded ∧ ∀ buffer, some buffer ∉ answers.mapped := by
  constructor
  · rintro ⟨hmapped, hzero⟩
    rw [setup_answers.Recorded, hmapped]
    exact ⟨⟨hzero, List.not_mem_nil⟩, fun _ => List.not_mem_nil⟩
  · rintro ⟨⟨hzero, hnone⟩, hsome⟩
    refine ⟨List.eq_nil_iff_forall_not_mem.mpr fun mapped hmem => ?_, hzero⟩
    cases mapped with
    | none => exact hnone hmem
    | some buffer => exact hsome buffer hmem

theorem closed_iff_ledger {leaked : List Int} {s : descriptor_state}
    (h : Ledger (fun _ => False) leaked s) :
    (∀ fd, s.table.owner fd ≠ some .actor) ↔ leaked = [] := by
  constructor
  · intro hclosed
    exact List.eq_nil_iff_forall_not_mem.mpr fun fd hfd => hclosed fd (h.holds.owned fd hfd)
  · rintro rfl fd howner
    exact (h.only fd howner).elim List.not_mem_nil id

theorem returned_everything_iff {order : hash_order} {regexec : regex_match}
    {config : perf_config} {events : List poll_event} {start final : descriptor_state}
    (hvalid : config.Valid) (hstart : start.Initial)
    (hnothing : ∀ fd, start.table.owner fd ≠ some .actor)
    (h : Exec descriptor_step (perf_monitoring_actor order regexec config events)
      start () final) :
    ReturnedEverything final ↔ final.answers.NothingToLose := by
  have hledger : Ledger (fun _ => False) [] start :=
    ⟨Table.Holds.nil, by simp, fun fd howner => absurd howner (hnothing fd)⟩
  obtain ⟨-, leaked, hfinal, hleaked⟩ := exec_perf_monitoring_actor hstart hledger h
  rw [setup_answers.nothing_to_lose_iff, ← hleaked hvalid, ← closed_iff_ledger hfinal]
  exact ⟨fun hreturned => ⟨hreturned.closed, hreturned.unmapped⟩, fun ⟨hclosed, hunmapped⟩ =>
    ⟨hclosed, hunmapped⟩⟩

theorem returned_everything_iff_system :
    (run_granted system_config).answers.perf_opened = [6] ∧
      ReturnedEverything (run_granted system_config) :=
  ⟨by decide, (returned_everything_iff ⟨⟨by decide, by decide⟩, by decide⟩ ⟨rfl, rfl⟩
    (by simp [nothing_open]) (run_granted_exec _)).mpr ⟨by decide, by decide⟩⟩

-- The ring buffer stays mapped when the monitor of a container has ended.
theorem ring_buffer_stays_mapped :
    ¬ ∀ (order : hash_order) (regexec : regex_match) (config : perf_config)
      (events : List poll_event) (start final : descriptor_state), config.Valid → start.Initial →
      (∀ fd, start.table.owner fd ≠ some .actor) →
      Exec descriptor_step (perf_monitoring_actor order regexec config events) start () final →
      ReturnedEverything final := by
  intro hclaim
  have hreturned := hclaim in_order (fun _ _ _ => none) web_config [] nothing_open
    (run_granted web_config)
    ⟨⟨by decide, by decide⟩, by decide⟩ ⟨rfl, rfl⟩ (by simp [nothing_open]) (run_granted_exec _)
  have hmapped : (run_granted web_config).answers.mapped = [some 0] := by decide
  exact hreturned.unmapped 0 (hmapped ▸ List.mem_cons_self)

end HwpcSensor.Perf
