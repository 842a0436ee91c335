import HwpcSensor.Perf.Kernel
import HwpcSensor.Perf.Setup.Lemmas
import HwpcSensor.Zhashx.Built

namespace HwpcSensor.Perf

open Interaction Syscall

section Requests

variable (cgroup_fd : Int) (frequency perf_flags : Nat) (cpu : Int)

-- What the leader of a group is opened with. The leader of a cgroup samples.
def leader_request (event : event_config) : perf_request where
  attr := if cgroup_fd > -1 then sampling_attr event.attr frequency else event.attr
  pid := cgroup_fd
  cpu := cpu
  group_fd := -1
  flags := perf_flags

def member_request (leader : Int) (event : event_config) : perf_request where
  attr := event.attr
  pid := cgroup_fd
  cpu := cpu
  group_fd := leader
  flags := perf_flags

def group_requests (leader : Int) : List event_config → List perf_request
  | [] => []
  | event :: rest =>
      leader_request cgroup_fd frequency perf_flags cpu event ::
        rest.map (member_request cgroup_fd perf_flags cpu leader)

-- The counters of a cpu are those opened for the events of the group, in the
-- order of the events, and the group of their leader has no others.
structure Wired (w : wiring) (group : events_group) (cpu_ctx : perf_group_cpu_context) :
    Prop where
  requests : cpu_ctx.perf_fds.map w.request =
    group_requests cgroup_fd frequency perf_flags cpu (cpu_ctx.perf_fds.headD 0) group.events
  opened : ∀ fd ∈ cpu_ctx.perf_fds, fd ∈ w.opened
  members : ∀ leader, cpu_ctx.perf_fds.head? = some leader →
    w.members leader = cpu_ctx.perf_fds

end Requests

-- Counters opened later, into groups of their own.
structure Extends (w w' : wiring) : Prop where
  intro ::
  exists_new : ∃ new, w'.opened = w.opened ++ new ∧
    (∀ fd ∈ w.opened, w'.request fd = w.request fd) ∧
    ∀ fd ∈ new, fd ∉ w.opened ∧ (w'.request fd).group_fd ∉ w.opened

namespace Extends

variable {w w' w'' : wiring}

theorem refl (w : wiring) : Extends w w :=
  ⟨[], by simp, fun _ _ => rfl, by simp⟩

theorem trans (h : Extends w w') (h' : Extends w' w'') : Extends w w'' := by
  obtain ⟨new, hopened, hrequest, hnew⟩ := h
  obtain ⟨new', hopened', hrequest', hnew'⟩ := h'
  have hsub : ∀ fd ∈ w.opened, fd ∈ w'.opened := by
    intro fd hfd
    rw [hopened]
    exact List.mem_append_left _ hfd
  refine ⟨new ++ new', by rw [hopened', hopened, List.append_assoc], ?_, ?_⟩
  · intro fd hfd
    rw [hrequest' fd (hsub fd hfd), hrequest fd hfd]
  · intro fd hfd
    rcases List.mem_append.mp hfd with hfd | hfd
    · rw [hrequest' fd (hopened ▸ List.mem_append_right _ hfd)]
      exact hnew fd hfd
    · obtain ⟨hfresh, happart⟩ := hnew' fd hfd
      exact ⟨fun hmem => hfresh (hsub _ hmem), fun hmem => happart (hsub _ hmem)⟩

theorem members (h : Extends w w') {leader : Int} (hleader : leader ∈ w.opened) :
    w'.members leader = w.members leader := by
  obtain ⟨new, hopened, hrequest, hnew⟩ := h
  have hold : w.opened.filter (fun fd => fd = leader ∨ (w'.request fd).group_fd = leader) =
      w.members leader := by
    refine List.filter_congr fun fd hfd => ?_
    rw [hrequest fd hfd]
  have hnone : new.filter (fun fd => fd = leader ∨ (w'.request fd).group_fd = leader) = [] := by
    rw [List.filter_eq_nil_iff]
    intro fd hfd
    obtain ⟨hfresh, happart⟩ := hnew fd hfd
    have hne : fd ≠ leader := fun heq => hfresh (heq ▸ hleader)
    have hgroup : (w'.request fd).group_fd ≠ leader := fun heq => happart (heq ▸ hleader)
    simp [hne, hgroup]
  unfold wiring.members
  rw [hopened, List.filter_append, hnone, List.append_nil]
  exact hold

end Extends

section Wired

variable {cgroup_fd : Int} {frequency perf_flags : Nat} {cpu : Int} {w w' : wiring}
  {group : events_group} {cpu_ctx : perf_group_cpu_context}

theorem Wired.extends (h : Wired cgroup_fd frequency perf_flags cpu w group cpu_ctx)
    (hext : Extends w w') : Wired cgroup_fd frequency perf_flags cpu w' group cpu_ctx := by
  obtain ⟨new, hopened, hrequest, -⟩ := id hext
  refine ⟨?_, ?_, ?_⟩
  · rw [← h.requests]
    exact List.map_congr_left fun fd hfd => hrequest fd (h.opened fd hfd)
  · intro fd hfd
    rw [hopened]
    exact List.mem_append_left _ (h.opened fd hfd)
  · intro leader hleader
    rw [hext.members (h.opened leader (List.mem_of_head? hleader))]
    exact h.members leader hleader

theorem Wired.length_eq (h : Wired cgroup_fd frequency perf_flags cpu w group cpu_ctx) :
    cpu_ctx.perf_fds.length = group.events.length := by
  have hlength := congrArg List.length h.requests
  rw [List.length_map] at hlength
  rw [hlength]
  cases group.events with
  | nil => rfl
  | cons event rest => simp [group_requests]

end Wired

end HwpcSensor.Perf
