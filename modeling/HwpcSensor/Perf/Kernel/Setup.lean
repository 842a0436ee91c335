import HwpcSensor.Perf.Kernel.Effects
import HwpcSensor.Perf.Kernel.Wiring

namespace HwpcSensor.Perf

open Interaction Syscall

variable {atomic : Prop} {s s' t t' : kernel}

section Steps

theorem exec_malloc {allocated : Bool} (h : Exec (kernel.step atomic) malloc s allocated s') :
    allocated = true ∧ s'.wiring = s.wiring := by
  have hstep := exec_perform.mp h
  refine ⟨?_, step_wiring (show KeepsCounters .malloc from trivial) hstep⟩
  obtain ⟨m, -, hallocated, -⟩ := hstep
  exact hallocated

theorem exec_counter {attr : perf_event_attr} {pid cpu group_fd fd : Int} {flags : Nat}
    (hfd : 1 ≤ fd)
    (h : Exec (kernel.step atomic) (perf_event_open attr pid cpu group_fd flags) s fd s') :
    ∃ hfresh hnonneg,
      s'.wiring = s.wiring.add fd ⟨attr, pid, cpu, group_fd, flags⟩ hfresh hnonneg := by
  obtain ⟨m, hbetween, hserve⟩ := exec_perform.mp h
  rw [← hbetween.wiring_eq]
  rcases hserve with ⟨hnegative, -⟩ | ⟨hfresh, hnonneg, rfl⟩
  · omega
  · exact ⟨hfresh, hnonneg, rfl⟩

end Steps

section OpenEvents

variable {ctx : perf_context} {perf_flags : Nat} {cpu : Int}

-- The counters of a list of events have been opened after what was open before.
structure Opens (w w' : wiring) (fds : List Int) (requests : List perf_request) : Prop where
  opened : w'.opened = w.opened ++ fds
  old : ∀ fd ∈ w.opened, w'.request fd = w.request fd
  new : fds.map w'.request = requests

theorem Opens.cons {w w' w'' : wiring} {fd : Int} {request : perf_request} {fds : List Int}
    {requests : List perf_request} {hfresh : fd ∉ w.opened} {hfd : 0 ≤ fd}
    (hadd : w' = w.add fd request hfresh hfd) (h : Opens w' w'' fds requests) :
    Opens w w'' (fd :: fds) (request :: requests) := by
  have hopened : w'.opened = w.opened ++ [fd] := by
    rw [hadd]
    rfl
  have hself : w'.request fd = request := by
    rw [hadd]
    exact Function.update_self _ _ _
  refine ⟨?_, ?_, ?_⟩
  · rw [h.opened, hopened, List.append_assoc]
    rfl
  · intro other hother
    have hne : other ≠ fd := fun heq => hfresh (heq ▸ hother)
    rw [h.old other (by rw [hopened]; exact List.mem_append_left _ hother), hadd]
    exact Function.update_of_ne hne _ _
  · rw [List.map_cons, h.new, h.old fd (by rw [hopened]; simp), hself]

theorem Opens.of_eq {w w' : wiring} (h : w' = w) : Opens w w' [] [] := by
  subst h
  exact ⟨by simp, fun _ _ => rfl, rfl⟩

-- Events after the first one join the group of the leader.
theorem exec_open_members {leader : Int} (hleader : leader ≠ -1) {events : List event_config}
    {cpu_ctx : perf_group_cpu_context} {result : Int × perf_group_cpu_context}
    (h : Exec (kernel.step atomic) (open_events ctx perf_flags cpu leader events cpu_ctx) s
      result s') (hok : result.1 = 0) :
    ∃ fds, result.2.perf_fds = cpu_ctx.perf_fds ++ fds ∧
      Opens s.wiring s'.wiring fds
        (events.map (member_request ctx.cgroup_fd perf_flags cpu leader)) := by
  induction events generalizing cpu_ctx s with
  | nil =>
      obtain ⟨rfl, rfl⟩ := exec_pure.mp h
      exact ⟨[], by simp, Opens.of_eq rfl⟩
  | cons event events ih =>
      unfold open_events at h
      rw [if_neg (fun hleads => hleader hleads.1)] at h
      obtain ⟨fd, s₁, hopen, h₁⟩ := exec_bind.mp h
      by_cases hfd : fd < 1
      · rw [if_pos hfd] at h₁
        obtain ⟨rfl, -⟩ := exec_pure.mp h₁
        exact absurd hok (by simp)
      · rw [if_neg hfd, if_neg hleader] at h₁
        obtain ⟨hfresh, hnonneg, hwiring⟩ := exec_counter (by omega) hopen
        obtain ⟨fds, hfds, hopens⟩ := ih h₁
        exact ⟨fd :: fds, by rw [hfds, List.append_assoc]; rfl, hopens.cons hwiring⟩

theorem exec_open_group {events : List event_config}
    {result : Int × perf_group_cpu_context}
    (h : Exec (kernel.step atomic)
      (open_events ctx perf_flags cpu (-1) events perf_group_cpu_context_create) s result s')
    (hok : result.1 = 0) :
    Opens s.wiring s'.wiring result.2.perf_fds
      (group_requests ctx.cgroup_fd ctx.config.callchain_frequency perf_flags cpu
        (result.2.perf_fds.headD 0) events) ∧
      ∀ leader, result.2.perf_fds.head? = some leader → 1 ≤ leader := by
  cases events with
  | nil =>
      obtain ⟨rfl, rfl⟩ := exec_pure.mp h
      exact ⟨Opens.of_eq rfl, by simp [perf_group_cpu_context_create]⟩
  | cons event events =>
      unfold open_events at h
      by_cases hsampled : ctx.cgroup_fd > -1
      · rw [if_pos ⟨rfl, hsampled⟩] at h
        obtain ⟨fd, s₁, hopen, h₁⟩ := exec_bind.mp h
        by_cases hfd : fd < 1
        · rw [if_pos hfd] at h₁
          obtain ⟨rfl, -⟩ := exec_pure.mp h₁
          exact absurd hok (by simp)
        · rw [if_neg hfd] at h₁
          obtain ⟨hfresh, hnonneg, hwiring⟩ := exec_counter (by omega) hopen
          obtain ⟨buffer, s₂, hmap, h₂⟩ := exec_bind.mp h₁
          have hsame := step_wiring (show KeepsCounters (.mmap fd) from trivial)
            (exec_perform.mp hmap)
          cases buffer with
          | none =>
              obtain ⟨rfl, -⟩ := exec_pure.mp h₂
              exact absurd hok (by simp)
          | some buffer =>
              obtain ⟨fds, hfds, hopens⟩ := exec_open_members (by omega) h₂ hok
              rw [hfds]
              refine ⟨?_, fun leader hleader => ?_⟩
              · simp only [group_requests, leader_request, if_pos hsampled]
                exact hopens.cons (hsame.trans hwiring)
              · obtain rfl := Option.some.inj hleader
                omega
      · rw [if_neg (fun hleads => hsampled hleads.2)] at h
        obtain ⟨fd, s₁, hopen, h₁⟩ := exec_bind.mp h
        by_cases hfd : fd < 1
        · rw [if_pos hfd] at h₁
          obtain ⟨rfl, -⟩ := exec_pure.mp h₁
          exact absurd hok (by simp)
        · rw [if_neg hfd, if_pos rfl] at h₁
          obtain ⟨hfresh, hnonneg, hwiring⟩ := exec_counter (by omega) hopen
          obtain ⟨fds, hfds, hopens⟩ := exec_open_members (by omega) h₁ hok
          rw [hfds]
          refine ⟨?_, fun leader hleader => ?_⟩
          · simp only [group_requests, leader_request, if_neg hsampled]
            exact hopens.cons hwiring
          · obtain rfl := Option.some.inj hleader
            omega

end OpenEvents

section Groups

-- Every group leader is open.
def Grouped (w : wiring) : Prop :=
  ∀ fd ∈ w.opened, (w.request fd).group_fd = -1 ∨ (w.request fd).group_fd ∈ w.opened

-- These counters have been opened, in groups of their own.
structure Grown (fds : List Int) (w w' : wiring) : Prop where
  extends_old : Extends w w'
  grouped : Grouped w'
  opened : (fds ++ w.opened).Subperm w'.opened

theorem Grown.of_eq {w w' : wiring} (hgrouped : Grouped w) (h : w' = w) : Grown [] w w' := by
  subst h
  exact ⟨Extends.refl _, hgrouped, List.Subperm.refl _⟩

theorem Grown.trans {w w' w'' : wiring} {fds fds' : List Int} (h : Grown fds w w')
    (h' : Grown fds' w' w'') : Grown (fds' ++ fds) w w'' := by
  refine ⟨h.extends_old.trans h'.extends_old, h'.grouped, ?_⟩
  rw [List.append_assoc]
  exact ((List.subperm_append_left fds').mpr h.opened).trans h'.opened

theorem Grown.subperm {w w' : wiring} {fds fds' : List Int} (h : Grown fds w w')
    (hsub : fds'.Subperm fds) : Grown fds' w w' :=
  ⟨h.extends_old, h.grouped, ((List.subperm_append_right w.opened).mpr hsub).trans h.opened⟩

theorem Grown.nodup {w w' : wiring} {fds : List Int} (h : Grown fds w w') : fds.Nodup := by
  obtain ⟨opened, hperm, hsub⟩ := h.opened
  exact (List.nodup_append.mp (hperm.nodup_iff.mp (w'.nodup.sublist hsub))).1

variable {cgroup_fd : Int} {frequency perf_flags : Nat} {cpu : Int} {w w' : wiring}
  {fds : List Int} {events : List event_config}

theorem group_request_cases {leader fd : Int} {rest : List Int}
    (h : (leader :: rest).map w.request =
      group_requests cgroup_fd frequency perf_flags cpu leader events)
    (hfd : fd ∈ leader :: rest) :
    fd = leader ∧ (w.request fd).group_fd = -1 ∨ fd ∈ rest ∧ (w.request fd).group_fd = leader := by
  cases events with
  | nil => exact absurd h (by simp [group_requests])
  | cons event events =>
      obtain ⟨hleader, hrest⟩ := List.cons_eq_cons.mp h
      rcases List.mem_cons.mp hfd with rfl | hfd
      · exact Or.inl ⟨rfl, by rw [hleader]; rfl⟩
      · have hmem : w.request fd ∈ rest.map w.request := List.mem_map_of_mem hfd
        rw [hrest] at hmem
        obtain ⟨member, -, hmember⟩ := List.mem_map.mp hmem
        exact Or.inr ⟨hfd, by rw [← hmember]; rfl⟩

-- The counters of one cpu are a group of their own.
theorem Opens.grown (h : Opens w w' fds
      (group_requests cgroup_fd frequency perf_flags cpu (fds.headD 0) events))
    (hleader : ∀ leader, fds.head? = some leader → 1 ≤ leader) (hgrouped : Grouped w) :
    Grown fds w w' ∧ ∀ leader, fds.head? = some leader → w'.members leader = fds := by
  have hnodup := w'.nodup
  rw [h.opened] at hnodup
  obtain ⟨-, -, hdisjoint⟩ := List.nodup_append.mp hnodup
  have hfresh : ∀ fd ∈ fds, fd ∉ w.opened := fun fd hfd hold => hdisjoint fd hold fd hfd rfl
  have hperm : (fds ++ w.opened).Subperm w'.opened := by
    rw [h.opened]
    exact List.perm_append_comm.subperm
  cases fds with
  | nil =>
      have hopened : w'.opened = w.opened := by simpa using h.opened
      refine ⟨⟨⟨[], by simpa using hopened, h.old, by simp⟩, ?_, hperm⟩, by simp⟩
      intro fd hfd
      rw [hopened] at hfd ⊢
      rw [h.old fd hfd]
      exact hgrouped fd hfd
  | cons leader rest =>
      have hpositive := hleader leader rfl
      have hcases := fun fd hfd => group_request_cases h.new (hfd : fd ∈ leader :: rest)
      refine ⟨⟨⟨leader :: rest, h.opened, h.old, ?_⟩, ?_, hperm⟩, ?_⟩
      · intro fd hfd
        refine ⟨hfresh fd hfd, ?_⟩
        rcases hcases fd hfd with ⟨-, hgroup⟩ | ⟨-, hgroup⟩
        · rw [hgroup]
          exact fun hmem => absurd (w.nonneg _ hmem) (by decide)
        · rw [hgroup]
          exact hfresh leader List.mem_cons_self
      · intro fd hfd
        rw [h.opened] at hfd ⊢
        rcases List.mem_append.mp hfd with hfd | hfd
        · rw [h.old fd hfd]
          exact (hgrouped fd hfd).imp_right (List.mem_append_left _)
        · rcases hcases fd hfd with ⟨-, hgroup⟩ | ⟨-, hgroup⟩
          · exact Or.inl hgroup
          · rw [hgroup]
            exact Or.inr (List.mem_append_right _ List.mem_cons_self)
      · intro _ hhead
        obtain rfl := Option.some.inj hhead
        unfold wiring.members
        rw [h.opened, List.filter_append]
        have hold : w.opened.filter
            (fun fd => fd = leader ∨ (w'.request fd).group_fd = leader) = [] := by
          rw [List.filter_eq_nil_iff]
          intro fd hfd
          have hne : fd ≠ leader := fun heq => hfresh leader List.mem_cons_self (heq ▸ hfd)
          have hgroup : (w'.request fd).group_fd ≠ leader := by
            rw [h.old fd hfd]
            rcases hgrouped fd hfd with hgroup | hgroup
            · omega
            · exact fun heq => hfresh leader List.mem_cons_self (heq ▸ hgroup)
          simp [hne, hgroup]
        rw [hold, List.nil_append, List.filter_eq_self]
        intro fd hfd
        rcases hcases fd hfd with ⟨heq, -⟩ | ⟨-, hgroup⟩
        · simp [heq]
        · simp [hgroup]

end Groups

end HwpcSensor.Perf
