import HwpcSensor.Perf.Kernel.Counting
import HwpcSensor.Perf.Ring.Theorems
import HwpcSensor.Storage.Document

namespace HwpcSensor.Storage

open Interaction Perf

-- Every cpu of a payload.
def EveryCpu (payload : payload) (P : payload_cpu_data → Prop) : Prop :=
  ∀ group ∈ payload.groups, ∀ pkg ∈ group.2.pkgs, ∀ cpu ∈ pkg.2.cpus, P cpu.2

section

variable {Field Double : Type} {to_double : Nat → Double}

-- Two modules build the same subtree when they append the same for each event.
theorem doc_groups_inj {f g : String → event_value → Field} {payload : payload} :
    doc_groups f payload = doc_groups g payload ↔
      EveryCpu payload fun cpu_data => ∀ event ∈ cpu_data.events,
        f event.1 event.2 = g event.1 event.2 := by
  simp only [doc_groups, EveryCpu, List.map_inj_left, Prod.mk.injEq, true_and]

theorem append_event_eq_iff {event_name : String} {value : event_value} :
    socket_append_event to_double event_name value =
      mongodb_append_event to_double event_name value ↔ event_name ≠ "callchain" := by
  unfold socket_append_event mongodb_append_event
  by_cases hname : event_name = "callchain"
  · simp [hname]
  · simp [hname]

theorem doc_groups_agree_iff (to_double : Nat → Double) (payload : payload) :
    socket_doc_groups to_double payload = mongodb_doc_groups to_double payload ↔
      EveryCpu payload fun cpu_data => "callchain" ∉ zhashx_keys cpu_data.events := by
  unfold socket_doc_groups mongodb_doc_groups
  rw [doc_groups_inj]
  have hcpu : ∀ cpu_data : payload_cpu_data,
      (∀ event ∈ cpu_data.events, socket_append_event to_double event.1 event.2 =
        mongodb_append_event to_double event.1 event.2) ↔
      "callchain" ∉ zhashx_keys cpu_data.events := by
    intro cpu_data
    simp only [append_event_eq_iff, zhashx_keys, List.mem_map, not_exists, not_and]
  simp only [hcpu]

end

-- What `populate_payload` leaves when it returns 0.
def Populated (payload : payload) : Prop :=
  ∃ (atomic : Prop) (order : hash_order) (ctx : perf_context) (timestamp : Nat)
    (start final : kernel) (populated : Int × populate_state),
    Exec (kernel.step atomic)
      (populate_payload order ctx (payload_create timestamp ctx.target_name))
      start populated final ∧
    populated.1 = 0 ∧ populated.2.payload = payload

-- A container with one counter, which samples into a ring buffer.
def sampled_group : events_group :=
  ⟨"core", .MONITOR_ALL_CPU_PER_SOCKET, [⟨"cycles",
    ⟨0, 0, true, 11, false, false, false, false, 0, 0, false, false, false⟩⟩]⟩

def sampled_context : perf_context where
  config := ⟨⟨[("0", ⟨["0"]⟩)]⟩, [("core", sampled_group)], ⟨.LXC, some "/", some "/lxc/c"⟩, 1000⟩
  target_name := "/lxc/c"
  terminated := false
  cgroup_fd := 4
  groups_ctx := [("core", ⟨sampled_group, [("0", ⟨[("0", ⟨[3], some 0⟩)]⟩)]⟩)]
  dwfl := none

def sampled_ring : ring where
  page := ⟨split_sample.record.bytes ++ List.replicate 40 0, 24, 0⟩
  records := [.sample split_sample]
  pending := ⟨by decide, by decide, by decide, by decide⟩

def sampled_kernel : kernel :=
  (idle.add 3 ⟨sampling_attr ⟨0, 0, true, 11, false, false, false, false, 0, 0, false, false,
    false⟩ 1000, 4, 0, -1, PERF_FLAG_PID_CGROUP⟩ (by decide) (by decide)).map 0 sampled_ring

def sampled_run : (Int × populate_state) × kernel :=
  (populate_payload in_order sampled_context (payload_create 1 "/lxc/c")).run
    (counting fun _ => true) sampled_kernel

theorem sampled_populated : Populated sampled_run.1.2.payload :=
  ⟨True, in_order, sampled_context, 1, sampled_kernel, sampled_run.2, sampled_run.1,
    exec_run _ (counting_step True fun _ => true) _ _, by decide, rfl⟩

-- The socket module takes the text of the callchain for a counter.
theorem callchain_is_no_double :
    ¬ ∀ (Double : Type) (to_double : Nat → Double) (payload : payload), Populated payload →
      socket_doc_groups to_double payload = mongodb_doc_groups to_double payload := by
  intro hclaim
  have hagree := hclaim Nat id _ sampled_populated
  have hfields := congrArg (fun doc => doc.flatMap fun group => group.2.flatMap fun pkg =>
    pkg.2.flatMap fun cpu => cpu.2) hagree
  exact absurd hfields (by decide)

end HwpcSensor.Storage
