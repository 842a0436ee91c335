import HwpcSensor.Perf.Populate
import HwpcSensor.Perf.Setup.Walk

namespace HwpcSensor.Perf

open Interaction Syscall

section

variable {τ : Type} {J : Judgement syscall syscall_answer τ} {order : hash_order}
  {dwfl : Option Dwfl} {cpus done : List (events_group × String × perf_group_cpu_context)}
  {R : List (events_group × String × perf_group_cpu_context) → populate_state → τ → Prop}
  {F : populate_state → τ → Prop} {s : populate_state} {t : τ}

-- What the loops that fill a payload keep, when each cpu that is read keeps it: it
-- holds after these cpus, or an error has left them.
structure PopulateInvariant (J : Judgement syscall syscall_answer τ) (order : hash_order)
    (dwfl : Option Dwfl) (cpus : List (events_group × String × perf_group_cpu_context))
    (R : List (events_group × String × perf_group_cpu_context) → populate_state → τ → Prop)
    (F : populate_state → τ → Prop) : Prop where
  malloc : ∀ {done s t}, R done s t → J.judges malloc (fun allocated t' =>
    (allocated = false → F s t') ∧ (allocated = true → R done s t')) t
  cpu : ∀ {done group item s t}, done ++ [(group, item)] <+: cpus → R done s t →
    J.judges (populate_cpu order dwfl group item s) (Ended (R (done ++ [(group, item)])) F) t
  group : ∀ {done s t}, R done s t →
    R done { s with group_data := some payload_group_data_create } t
  pkg : ∀ {done s t}, R done s t → R done { s with pkg_data := some payload_pkg_data_create } t
  store_group : ∀ {done s t} group_name, R done s t → R done (s.store_group order group_name) t
  store_pkg : ∀ {done s t} pkg_id, R done s t → R done (s.store_pkg order pkg_id) t
  no_group : ∀ {s t}, F s t → F { s with group_data := none } t
  no_pkg : ∀ {s t}, F s t → F { s with pkg_data := none } t

def read_cpus (group : events_group) (item : String × perf_group_pkg_context) :
    List (events_group × String × perf_group_cpu_context) :=
  item.2.cpus_ctx.map fun cpu => (group, cpu)

def read_pkgs (item : String × perf_group_context) :
    List (events_group × String × perf_group_cpu_context) :=
  item.2.pkgs_ctx.flatMap (read_cpus item.2.config)

-- All that is read for a payload, in order.
def read_groups (ctx : perf_context) : List (events_group × String × perf_group_cpu_context) :=
  ctx.groups_ctx.flatMap read_pkgs

theorem mem_read_groups {ctx : perf_context}
    {cpu : events_group × String × perf_group_cpu_context} :
    cpu ∈ read_groups ctx ↔ ∃ group_item ∈ ctx.groups_ctx, ∃ pkg_item ∈ group_item.2.pkgs_ctx,
      ∃ cpu_item ∈ pkg_item.2.cpus_ctx, (group_item.2.config, cpu_item) = cpu := by
  simp [read_groups, read_pkgs, read_cpus]

namespace PopulateInvariant

-- Where the values in between do not matter.
theorem of_state {R : List (events_group × String × perf_group_cpu_context) → τ → Prop}
    {F : τ → Prop}
    (hmalloc : ∀ {done t}, R done t → J.judges Syscall.malloc (fun allocated t' =>
      (allocated = false → F t') ∧ (allocated = true → R done t')) t)
    (hcpu : ∀ {done group item s t}, done ++ [(group, item)] <+: cpus → R done t →
      J.judges (populate_cpu order dwfl group item s)
        (Ended (fun _ => R (done ++ [(group, item)])) fun _ => F) t) :
    PopulateInvariant J order dwfl cpus (fun done _ => R done) fun _ => F :=
  ⟨hmalloc, hcpu, id, id, fun _ => id, fun _ => id, id, id⟩

theorem pkg_walk (h : PopulateInvariant J order dwfl cpus R F) {group : events_group}
    {item : String × perf_group_pkg_context} (hcpus : done ++ read_cpus group item <+: cpus)
    (hstart : R done s t) :
    J.judges (populate_pkg order dwfl group item s)
      (Ended (R (done ++ read_cpus group item)) F) t := by
  refine judges_malloc (Judgement.mono (h.malloc hstart) fun allocated t₁ hmalloc =>
    ⟨fun hnone => h.no_pkg (hmalloc.1 hnone), fun hsome => ?_⟩)
  refine Judgement.finish (Judgement.for_each
    (fun past => R (done ++ past.map fun cpu => (group, cpu))) ?_ ?_)
    fun s t hs => h.store_pkg item.1 hs
  · rw [List.map_nil, List.append_nil]
    exact h.pkg (hmalloc.2 hsome)
  · intro past cpu left s t hctx hs
    rw [List.map_append, List.map_singleton, ← List.append_assoc]
    refine h.cpu (List.IsPrefix.trans ?_ hcpus) hs
    rw [read_cpus, hctx]
    simp

theorem group_walk (h : PopulateInvariant J order dwfl cpus R F)
    {item : String × perf_group_context} (hcpus : done ++ read_pkgs item <+: cpus)
    (hstart : R done s t) :
    J.judges (populate_group order dwfl item s) (Ended (R (done ++ read_pkgs item)) F) t := by
  refine judges_malloc (Judgement.mono (h.malloc hstart) fun allocated t₁ hmalloc =>
    ⟨fun hnone => h.no_group (hmalloc.1 hnone), fun hsome => ?_⟩)
  refine judges_malloc (Judgement.mono (h.malloc (h.group (hmalloc.2 hsome)))
    fun allocated t₂ hbuffer => ⟨hbuffer.1, fun hsome => ?_⟩)
  refine Judgement.finish (Judgement.for_each
    (fun past => R (done ++ past.flatMap (read_cpus item.2.config))) ?_ ?_)
    fun s t hs => h.store_group item.1 hs
  · rw [List.flatMap_nil, List.append_nil]
    exact hbuffer.2 hsome
  · intro past pkg left s t hctx hs
    rw [List.flatMap_append, List.flatMap_singleton, ← List.append_assoc]
    refine h.pkg_walk (List.IsPrefix.trans ?_ hcpus) hs
    rw [read_pkgs, hctx]
    simp

theorem payload_walk {ctx : perf_context} {payload : payload}
    (h : PopulateInvariant J order ctx.dwfl (read_groups ctx) R F)
    (hstart : R [] ⟨payload, none, none, none⟩ t) :
    J.judges (populate_payload order ctx payload) (Ended (R (read_groups ctx)) F) t := by
  refine Judgement.for_each (fun past => R (past.flatMap read_pkgs)) hstart ?_
  intro past item left s t hctx hs
  rw [List.flatMap_append, List.flatMap_singleton]
  refine h.group_walk ?_ hs
  rw [read_groups, hctx]
  simp

end PopulateInvariant

end

end HwpcSensor.Perf
