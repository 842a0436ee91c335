import HwpcSensor.Perf.Kernel.Attribution
import Mathlib.Data.List.Flatten

namespace HwpcSensor.Perf

open Interaction Syscall

section Balance

variable {atomic : Prop} {s s' : kernel}

-- Whatever a counter has counted it still holds, or a reset took it, and a counter
-- that is not enabled has counted nothing.
structure Balanced (s : kernel) : Prop where
  counted : ∀ fd ∈ s.wiring.opened, s.counted fd = s.value fd + s.taken fd
  disabled : ∀ fd ∈ s.wiring.opened, s.enabled fd = false → s.counted fd = 0

theorem Balanced.between (h : Balanced s) (hbetween : kernel.Between atomic s s') :
    Balanced s' := by
  cases hbetween with
  | count counts times rings hcounts hrings =>
      refine ⟨fun fd hfd => ?_, fun fd hfd hdisabled => ?_⟩
      · have hcounted := h.counted fd hfd
        dsimp only
        omega
      · have hzero : ¬0 < counts fd := fun hpos => by
          rw [(hcounts fd hpos).1] at hdisabled
          exact absurd hdisabled (by simp)
        have hcounted := h.disabled fd hfd hdisabled
        dsimp only
        omega

theorem Balanced.effect (h : Balanced s) {call : syscall} (heffect : kernel.Effect s call s') :
    Balanced s' := by
  cases heffect with
  | add request fd hfresh hfd =>
      refine ⟨fun other hother => ?_, fun other hother hdisabled => ?_⟩
      · rcases List.mem_append.mp hother with hold | hnew
        · have hne : other ≠ fd := fun heq => hfresh (heq ▸ hold)
          simp only [kernel.add, Function.update_of_ne hne]
          exact h.counted other hold
        · simp [kernel.add, List.mem_singleton.mp hnew]
      · rcases List.mem_append.mp hother with hold | hnew
        · have hne : other ≠ fd := fun heq => hfresh (heq ▸ hold)
          simp only [kernel.add, Function.update_of_ne hne] at hdisabled ⊢
          exact h.disabled other hold hdisabled
        · simp [kernel.add, List.mem_singleton.mp hnew]
  | close fd =>
      exact ⟨fun other hother => h.counted other (List.mem_of_mem_filter hother),
        fun other hother => h.disabled other (List.mem_of_mem_filter hother)⟩
  | reset leader =>
      refine ⟨fun fd hfd => ?_, h.disabled⟩
      have hcounted := h.counted fd hfd
      simp only [kernel.reset]
      split_ifs <;> omega
  | enable leader =>
      refine ⟨h.counted, fun fd hfd hdisabled => h.disabled fd hfd ?_⟩
      simp only [kernel.enable] at hdisabled
      split_ifs at hdisabled
      exact hdisabled
  | _ => exact ⟨h.counted, h.disabled⟩

theorem exec_balanced {α : Type} {program : program α} {result : α} (h : Balanced s)
    (hexec : Exec (kernel.step atomic) program s result s') : Balanced s' := by
  refine hexec.preserves Balanced ?_ h
  intro t call answer t' hbalanced hstep
  obtain ⟨m, hbetween, heffect⟩ := kernel.step_effect hstep
  exact (hbalanced.between hbetween).effect heffect

end Balance

section Start

variable {atomic : Prop} {s s' : kernel}

-- Nothing counts yet and nothing has been taken.
def Off (s : kernel) : Prop :=
  ∀ fd ∈ s.wiring.opened, s.enabled fd = false ∧ s.taken fd = 0

theorem Off.between (h : Off s) (hbetween : kernel.Between atomic s s') : Off s' := by
  cases hbetween
  exact h

theorem Off.effect (h : Off s) {call : syscall} (heffect : kernel.Effect s call s')
    (hcall : SetsUp call) : Off s' := by
  cases heffect with
  | add request fd hfresh hfd =>
      intro other hother
      rcases List.mem_append.mp hother with hold | hnew
      · have hne : other ≠ fd := fun heq => hfresh (heq ▸ hold)
        simp only [kernel.add, Function.update_of_ne hne]
        exact h other hold
      · simp [kernel.add, List.mem_singleton.mp hnew]
  | close fd => exact fun other hother => h other (List.mem_of_mem_filter hother)
  | none | map => exact h
  | reset | enable | read | consume | send => exact False.elim hcall

theorem exec_initialize_off {order : hash_order} {ctx : perf_context} {result : Int × perf_context}
    (h : Exec (kernel.step atomic) ( perf_events_groups_initialize order ctx) s result s')
    (hopened : s.wiring.opened = []) : Off s' ∧ Balanced s' := by
  have hnone : ∀ fd, fd ∉ s.wiring.opened := by simp [hopened]
  exact ⟨kernel.exec_invariant h ( sets_up_initialize order ctx) Off
      (fun hbetween hoff => hoff.between hbetween)
      (fun hcall heffect hoff => hoff.effect heffect hcall) fun fd hfd => absurd hfd (hnone fd),
    exec_balanced ⟨fun fd hfd => absurd hfd (hnone fd), fun fd hfd => absurd hfd (hnone fd)⟩ h⟩

end Start

section Enable

variable {atomic : Prop} {w : wiring} {t t' : kernel}

def context_cpus (ctx : perf_context) : List (String × perf_group_cpu_context) :=
  ctx.groups_ctx.flatMap fun group_item => group_item.2.pkgs_ctx.flatMap fun pkg_item =>
    pkg_item.2.cpus_ctx

theorem perf_events_groups_enable_eq (ctx : perf_context) :
    perf_events_groups_enable ctx =
      for_all (fun cpu_item => enable_cpu cpu_item.2) (context_cpus ctx) := by
  unfold perf_events_groups_enable context_cpus
  simp only [for_all_flatMap]

theorem groups_fds_eq (ctx : perf_context) :
    groups_fds ctx = (context_cpus ctx).flatMap fun cpu_item => cpu_item.2.perf_fds := by
  simp only [groups_fds, group_fds, pkg_fds, context_cpus, List.flatMap_assoc]

theorem ContextSound.members {ctx : perf_context} (h : ContextSound w ctx)
    {cpu_item : String × perf_group_cpu_context} (hcpu : cpu_item ∈ context_cpus ctx) :
    ∀ leader, cpu_item.2.perf_fds.head? = some leader →
      w.members leader = cpu_item.2.perf_fds := by
  obtain ⟨group_item, hgroup, hcpu⟩ := List.mem_flatMap.mp hcpu
  obtain ⟨pkg_item, hpkg, hcpu⟩ := List.mem_flatMap.mp hcpu
  exact ((h.groups group_item hgroup).2 pkg_item hpkg).2 cpu_item hcpu

-- While the leaders are enabled, the counters of the cpus that remain are off and
-- nothing has been taken from any.
structure Enabling (w : wiring) (rest : List Int) (t : kernel) : Prop where
  wired : t.wiring = w
  balanced : Balanced t
  taken : ∀ fd ∈ w.opened, t.taken fd = 0
  disabled : ∀ fd ∈ rest, t.enabled fd = false

theorem Enabling.between {rest : List Int} (h : Enabling w rest t)
    (hbetween : kernel.Between atomic t t') : Enabling w rest t' := by
  refine ⟨hbetween.wiring_eq.trans h.wired, h.balanced.between hbetween, ?_, ?_⟩
  · cases hbetween
    exact h.taken
  · cases hbetween
    exact h.disabled

theorem Enabling.reset {leader : Int} {rest : List Int}
    (h : Enabling w rest t) (hmembers : ∀ fd ∈ w.members leader, fd ∈ rest) :
    Enabling w rest (t.reset leader) := by
  refine ⟨h.wired, h.balanced.effect (.reset leader), fun fd hfd => ?_, h.disabled⟩
  have htaken := h.taken fd hfd
  simp only [kernel.reset, kernel.members, h.wired]
  split_ifs with hmem
  · have hopened : fd ∈ t.wiring.opened := h.wired ▸ hfd
    have hcounted := h.balanced.counted fd hopened
    have hzero := h.balanced.disabled fd hopened (h.disabled fd (hmembers fd hmem))
    omega
  · exact htaken

theorem Enabling.enable {leader : Int} {fds rest : List Int}
    (h : Enabling w (fds ++ rest) t) (hmembers : w.members leader = fds)
    (hdisjoint : List.Disjoint fds rest) : Enabling w rest (t.enable leader) := by
  refine ⟨h.wired, h.balanced.effect (.enable leader), h.taken, fun fd hfd => ?_⟩
  simp only [kernel.enable, kernel.members, h.wired, hmembers]
  rw [if_neg fun hmem => hdisjoint hmem hfd]
  exact h.disabled fd (List.mem_append_right fds hfd)

theorem Enabling.rest {fds rest : List Int} (h : Enabling w (fds ++ rest) t) :
    Enabling w rest t :=
  ⟨h.wired, h.balanced, h.taken, fun fd hfd => h.disabled fd (List.mem_append_right fds hfd)⟩

theorem exec_enable_cpu {cpu_ctx : perf_group_cpu_context} {rest : List Int}
    (hmembers : ∀ leader, cpu_ctx.perf_fds.head? = some leader →
      w.members leader = cpu_ctx.perf_fds)
    (hdisjoint : List.Disjoint cpu_ctx.perf_fds rest)
    (hstart : Enabling w (cpu_ctx.perf_fds ++ rest) t)
    (h : Exec (kernel.step atomic) (enable_cpu cpu_ctx) t () t') : Enabling w rest t' := by
  unfold enable_cpu at h
  cases hfds : cpu_ctx.perf_fds with
  | nil =>
      rw [hfds] at h
      obtain ⟨-, rfl⟩ := exec_pure.mp h
      exact hstart.rest
  | cons leader fds =>
      rw [hfds] at h hstart hdisjoint
      have hgroup : w.members leader = leader :: fds := by
        rw [← hfds]
        exact hmembers leader (by rw [hfds]; rfl)
      obtain ⟨err, t₁, hreset, h₁⟩ := exec_bind.mp h
      obtain ⟨err', t₂, henable, h₂⟩ := exec_bind.mp h₁
      obtain ⟨-, rfl⟩ := exec_pure.mp h₂
      obtain ⟨m, hm, heffect⟩ := kernel.step_effect (exec_perform.mp hreset)
      have hmiddle : Enabling w (leader :: fds ++ rest) t₁ := by
        have hbefore := hstart.between hm
        cases heffect with
        | none => exact ⟨hbefore.wired, ⟨hbefore.balanced.counted, hbefore.balanced.disabled⟩,
            hbefore.taken, hbefore.disabled⟩
        | reset =>
            refine hbefore.reset fun fd hfd => List.mem_append_left rest ?_
            rwa [hgroup] at hfd
      obtain ⟨m', hm', heffect'⟩ := kernel.step_effect (exec_perform.mp henable)
      have hbefore := hmiddle.between hm'
      cases heffect' with
      | none => exact ⟨hbefore.wired, ⟨hbefore.balanced.counted, hbefore.balanced.disabled⟩,
          hbefore.taken, hbefore.rest.disabled⟩
      | enable => exact hbefore.enable hgroup hdisjoint

theorem exec_enable_taken {ctx : perf_context} (hsound : ContextSound t.wiring ctx)
    (hopened : ∀ fd ∈ groups_fds ctx, fd ∈ t.wiring.opened) (hoff : Off t) (hbalanced : Balanced t)
    (h : Exec (kernel.step atomic) (perf_events_groups_enable ctx) t () t') :
    t'.wiring = t.wiring ∧ Balanced t' ∧ ∀ fd ∈ t.wiring.opened, t'.taken fd = 0 := by
  rw [perf_events_groups_enable_eq] at h
  rw [groups_fds_eq] at hopened
  have hnodup := hsound.fds
  rw [groups_fds_eq] at hnodup
  have hfinal := exec_for_all h (fun rest t' =>
    Enabling t.wiring (rest.flatMap fun cpu_item => cpu_item.2.perf_fds) t' ∧
      rest <:+ context_cpus ctx)
    ⟨⟨rfl, hbalanced, fun fd hfd => (hoff fd hfd).2, fun fd hfd => (hoff fd (hopened fd hfd)).1⟩,
      List.suffix_refl _⟩ (by
      rintro cpu_item rest t₁ t₂ ⟨hstart, hsuffix⟩ hexec
      rw [List.flatMap_cons] at hstart
      have hsub := hnodup.sublist (hsuffix.sublist.flatMap fun cpu_item :
        String × perf_group_cpu_context => cpu_item.2.perf_fds)
      rw [List.flatMap_cons] at hsub
      have hmem : cpu_item ∈ context_cpus ctx := hsuffix.subset List.mem_cons_self
      have hdisjoint := List.disjoint_of_nodup_append hsub
      exact ⟨exec_enable_cpu (hsound.members hmem) hdisjoint hstart hexec,
        (List.suffix_cons cpu_item rest).trans hsuffix⟩)
  exact ⟨hfinal.1.wired, hfinal.1.balanced, hfinal.1.taken⟩

end Enable

end HwpcSensor.Perf
