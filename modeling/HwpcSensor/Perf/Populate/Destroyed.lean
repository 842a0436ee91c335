import HwpcSensor.Perf.Kernel.Attribution
import HwpcSensor.Perf.Populate.Nodes
import Mathlib.Data.List.Range

namespace HwpcSensor.Perf

open Interaction Syscall

theorem flatMap_zhashx_insert_perm {α β : Type} (order : hash_order) {table : zhashx α}
    {key : String} (hfresh : key ∉ zhashx_keys table) (value : α) (f : String × α → List β) :
    ((zhashx_insert order table key value).flatMap f).Perm
      (f (key, value) ++ table.flatMap f) :=
  (zhashx_insert_perm order hfresh value).flatMap_right f

-- What is destroyed beside an enumeration of all nodes is destroyed twice.
theorem perm_append_range_iff {stale owned : List Nat} {n : Nat}
    (h : owned.Perm (List.range n)) : (stale ++ owned).Perm (List.range n) ↔ stale = [] := by
  constructor
  · intro hperm
    have hlength := hperm.length_eq
    rw [List.length_append, h.length_eq] at hlength
    exact List.eq_nil_of_length_eq_zero (by omega)
  · rintro rfl
    exact h

theorem perm_range_succ {owned : List Nat} {n : Nat} (h : owned.Perm (List.range n)) :
    (n :: owned).Perm (List.range (n + 1)) := by
  rw [List.range_succ]
  exact (h.cons n).trans (List.perm_append_singleton n _).symm

theorem payload_cpu_data_destroy_eq_nil_iff {data : Option Nat} :
    payload_cpu_data_destroy data = [] ↔ data = none := by
  cases data <;> simp [payload_cpu_data_destroy]

theorem payload_pkg_data_destroy_eq_nil_iff {data : Option pkg_node} :
    payload_pkg_data_destroy data = [] ↔ data = none := by
  cases data <;> simp [payload_pkg_data_destroy]

-- The tables of a context are tables.
structure perf_context.Tables (ctx : perf_context) : Prop where
  groups : (zhashx_keys ctx.groups_ctx).Nodup
  pkgs : ∀ group ∈ ctx.groups_ctx, (zhashx_keys group.2.pkgs_ctx).Nodup
  cpus : ∀ group ∈ ctx.groups_ctx, ∀ pkg ∈ group.2.pkgs_ctx, (zhashx_keys pkg.2.cpus_ctx).Nodup

theorem ContextSound.tables {w : wiring} {ctx : perf_context} (h : ContextSound w ctx) :
    ctx.Tables :=
  ⟨h.keys, fun group hgroup => (h.groups group hgroup).1,
    fun group hgroup pkg hpkg => ((h.groups group hgroup).2 pkg hpkg).1⟩

theorem tables_of_initialize {atomic : Prop} {order : hash_order} {config : perf_config}
    {target_name : String} {ctx : perf_context} {t t' : kernel} (hvalid : config.Valid)
    (hstart : t.wiring.opened = [])
    (h : Exec (kernel.step atomic)
      ( perf_events_groups_initialize order (perf_context_create config target_name))
      t (0, ctx) t') : ctx.Tables := by
  obtain ⟨hconfig, hready⟩ := exec_initialize_ready h hvalid.toKeyed rfl hstart
  have hconfig : ctx.config = config := hconfig
  exact hready.sound.tables

-- The items that an iteration comes to before the one with this key.
def items_before {β : Type} (key : String) (table : zhashx β) : zhashx β :=
  table.takeWhile fun item => item.1 ≠ key

theorem items_before_append {β : Type} {done rest : zhashx β} {item : String × β}
    (h : (zhashx_keys (done ++ item :: rest)).Nodup) :
    items_before item.1 (done ++ item :: rest) = done := by
  have hdone : ∀ other ∈ done, other.1 ≠ item.1 := by
    intro other hother heq
    unfold zhashx_keys at h
    rw [List.map_append, List.map_cons] at h
    exact List.disjoint_of_nodup_append h (List.mem_map_of_mem hother)
      (heq ▸ List.mem_cons_self)
  unfold items_before
  rw [List.takeWhile_append_of_pos (by simpa using hdone)]
  simp

def NoCpus (pkgs_ctx : zhashx perf_group_pkg_context) : Prop :=
  ∀ pkg ∈ pkgs_ctx, pkg.2.cpus_ctx = []

-- No pointer that the error label destroys is left over from an earlier iteration.
def NothingStale (ctx : perf_context) : populate_error → Prop
  | .group_data group_name | .perf_read_buffer group_name =>
      ∀ group ∈ items_before group_name ctx.groups_ctx, group.2.pkgs_ctx = []
  | .pkg_data group_name pkg_id =>
      (∀ group ∈ items_before group_name ctx.groups_ctx, NoCpus group.2.pkgs_ctx) ∧
        ∀ group_ctx, zhashx_lookup ctx.groups_ctx group_name = some group_ctx →
          NoCpus (items_before pkg_id group_ctx.pkgs_ctx)
  | .cpu_data _ _ _ | .perf_values _ _ _ => True

-- An error of `populate_payload`, and whether each node is destroyed once.
def DestroyedAfterError (ctx : perf_context) (n : populate_nodes) : Prop :=
  ∃ error, n.error = some error ∧
    (n.destroyed.Perm (List.range n.allocated) ↔ NothingStale ctx error)

theorem populate_nodes.destroyed_eq (n : populate_nodes) :
    n.destroyed = payload_cpu_data_destroy n.cpu_data ++ (payload_pkg_data_destroy n.pkg_data ++
      (payload_group_data_destroy n.group_data ++ payload_destroy n.groups)) := by
  simp only [populate_nodes.destroyed, List.append_assoc]

-- Each loop, with what it has come through: what was allocated is in the payload or
-- in what is being filled, and a pointer is null until there is something to point to.

structure CpusStored (stored : zhashx group_node) (filled : group_node) (no_cpus : Prop)
    (done : zhashx perf_group_cpu_context) (n : populate_nodes) : Prop where
  groups : n.groups = stored
  group_data : n.group_data = some filled
  pkg_data : ∃ filling, n.pkg_data = some filling ∧
    (payload_pkg_data_destroy (some filling) ++ (payload_group_data_destroy (some filled) ++
      payload_destroy stored)).Perm (List.range n.allocated) ∧
    ∀ key ∈ zhashx_keys filling.cpus, key ∈ zhashx_keys done
  cpu_data : n.cpu_data = none ↔ no_cpus ∧ done = []

structure PkgsStored (stored : zhashx group_node) (no_pkgs no_cpus : Prop)
    (done : zhashx perf_group_pkg_context) (n : populate_nodes) : Prop where
  groups : n.groups = stored
  group_data : ∃ filling, n.group_data = some filling ∧
    (payload_group_data_destroy (some filling) ++
      payload_destroy stored).Perm (List.range n.allocated) ∧
    ∀ key ∈ zhashx_keys filling.pkgs, key ∈ zhashx_keys done
  pkg_data : n.pkg_data = none ↔ no_pkgs ∧ done = []
  cpu_data : n.cpu_data = none ↔ no_cpus ∧ NoCpus done

structure GroupsStored (done : zhashx perf_group_context) (n : populate_nodes) : Prop where
  owned : (payload_destroy n.groups).Perm (List.range n.allocated)
  keys : ∀ key ∈ zhashx_keys n.groups, key ∈ zhashx_keys done
  pkg_data : n.pkg_data = none ↔ ∀ group ∈ done, group.2.pkgs_ctx = []
  cpu_data : n.cpu_data = none ↔ ∀ group ∈ done, NoCpus group.2.pkgs_ctx

theorem not_mem_keys_of_nodup {β : Type} {done rest : zhashx β} {item : String × β}
    (h : (zhashx_keys (done ++ item :: rest)).Nodup) : item.1 ∉ zhashx_keys done := by
  unfold zhashx_keys at h ⊢
  rw [List.map_append, List.map_cons] at h
  exact fun hmem => List.disjoint_of_nodup_append h hmem List.mem_cons_self

theorem mem_keys_insert {α β : Type} {order : hash_order} {table : zhashx α} {key : String}
    {value : α} {done : zhashx β} {item : String × β} (hkey : key = item.1)
    (hfresh : key ∉ zhashx_keys table) (h : ∀ other ∈ zhashx_keys table, other ∈ zhashx_keys done) :
    ∀ other ∈ zhashx_keys (zhashx_insert order table key value),
      other ∈ zhashx_keys (done ++ [item]) := by
  intro other hother
  have hcons := (zhashx_keys_insert_perm order hfresh value).mem_iff.mp hother
  unfold zhashx_keys at h ⊢
  rw [List.map_append, List.mem_append]
  rcases List.mem_cons.mp hcons with rfl | hmem
  · exact Or.inr (by simp [hkey])
  · exact Or.inl (h other hmem)

section Loops

variable {σ : Type} {step : Semantics syscall syscall_answer σ} {before after : σ}
  {order : hash_order} {dwfl : Option Dwfl} {ctx : perf_context}
  {group : events_group} {group_name pkg_id : String} {stored : zhashx group_node}
  {s : populate_state × populate_nodes} {result : Int × populate_state × populate_nodes}

theorem CpusStored.populate_cpu {filled : group_node} {no_cpus : Prop}
    {done : zhashx perf_group_cpu_context} {item : String × perf_group_cpu_context}
    (h : CpusStored stored filled no_cpus done s.2) (hfresh : item.1 ∉ zhashx_keys done)
    (hexec : Exec step (populate_cpu_nodes order dwfl group_name pkg_id group item s)
      before result after) :
    (result.1 = 0 → CpusStored stored filled no_cpus (done ++ [item]) result.2.2) ∧
      (result.1 ≠ 0 → DestroyedAfterError ctx result.2.2) := by
  obtain ⟨hgroups, hgroup, ⟨filling, hpkg, howned, hkeys⟩, -⟩ := h
  obtain ⟨allocated, t, -, hexec⟩ := exec_perform_bind.mp hexec
  cases allocated with
  | false =>
      obtain ⟨rfl, -⟩ := exec_pure.mp hexec
      refine ⟨fun hzero => absurd hzero (by simp), fun _ => ⟨_, rfl, ?_⟩⟩
      rw [populate_nodes.destroyed_eq]
      simp only [populate_nodes.failed, hgroups, hgroup, hpkg, NothingStale, iff_true]
      exact howned
  | true =>
      obtain ⟨report, t₁, -, hexec⟩ := exec_bind.mp hexec
      have hcreated := perm_range_succ howned
      cases report with
      | none =>
          obtain ⟨rfl, -⟩ := exec_pure.mp hexec
          refine ⟨fun hzero => absurd hzero (by simp), fun _ => ⟨_, rfl, ?_⟩⟩
          rw [populate_nodes.destroyed_eq]
          simp only [populate_nodes.failed, populate_nodes.payload_cpu_data_create, hgroups, hgroup,
            hpkg, NothingStale, iff_true]
          exact hcreated
      | some report =>
          obtain ⟨-, t₂, -, hexec⟩ := exec_bind.mp hexec
          obtain ⟨events, t₃, -, hexec⟩ := exec_bind.mp hexec
          obtain ⟨rfl, -⟩ := exec_pure.mp hexec
          refine ⟨fun _ => ?_, fun hne => absurd rfl hne⟩
          have hnew : item.1 ∉ zhashx_keys filling.cpus := fun hmem => hfresh (hkeys _ hmem)
          simp only [populate_nodes.store_cpu, populate_nodes.payload_cpu_data_create]
          refine ⟨hgroups, hgroup, ⟨_, by rw [hpkg]; rfl, ?_, mem_keys_insert rfl hnew hkeys⟩,
            by simp⟩
          refine List.Perm.trans ?_ hcreated
          simp only [payload_pkg_data_destroy, List.append_assoc]
          exact (flatMap_zhashx_insert_perm order hnew _ _).append_right _

-- The package is handed over to its group.
theorem CpusStored.store_pkg {filling : group_node} {no_pkgs no_cpus : Prop}
    {done : zhashx perf_group_pkg_context} {item : String × perf_group_pkg_context}
    {n : populate_nodes}
    (h : CpusStored stored filling (no_cpus ∧ NoCpus done) item.2.cpus_ctx n)
    (hkeys : ∀ key ∈ zhashx_keys filling.pkgs, key ∈ zhashx_keys done)
    (hfresh : item.1 ∉ zhashx_keys done) :
    PkgsStored stored no_pkgs no_cpus (done ++ [item]) (n.store_pkg order item.1) := by
  obtain ⟨hgroups, hgroup, ⟨filled, hpkg, howned, -⟩, hcpu⟩ := h
  have hnew : item.1 ∉ zhashx_keys filling.pkgs := fun hmem => hfresh (hkeys _ hmem)
  simp only [populate_nodes.store_pkg, hpkg]
  refine ⟨hgroups, ⟨_, by rw [hgroup]; rfl, ?_, mem_keys_insert rfl hnew hkeys⟩, by simp, ?_⟩
  · refine List.Perm.trans ?_ howned
    simp only [payload_group_data_destroy]
    rw [← List.append_assoc, ← List.append_assoc]
    exact ((flatMap_zhashx_insert_perm order hnew _ _).append_right _).append_right _
  · rw [hcpu]
    simp only [NoCpus, List.forall_mem_append, List.forall_mem_singleton, and_assoc]

theorem PkgsStored.populate_pkg {no_pkgs no_cpus : Prop}
    {done : zhashx perf_group_pkg_context} {item : String × perf_group_pkg_context}
    (h : PkgsStored stored no_pkgs no_cpus done s.2) (hfresh : item.1 ∉ zhashx_keys done)
    (hcpus : (zhashx_keys item.2.cpus_ctx).Nodup)
    (hstale : NothingStale ctx (.pkg_data group_name item.1) ↔ no_cpus ∧ NoCpus done)
    (hexec : Exec step (populate_pkg_nodes order dwfl group_name group item s)
      before result after) :
    (result.1 = 0 → PkgsStored stored no_pkgs no_cpus (done ++ [item]) result.2.2) ∧
      (result.1 ≠ 0 → DestroyedAfterError ctx result.2.2) := by
  obtain ⟨hgroups, ⟨filling, hgroup, howned, hkeys⟩, -, hcpu⟩ := h
  obtain ⟨allocated, t, -, hexec⟩ := exec_perform_bind.mp hexec
  cases allocated with
  | false =>
      obtain ⟨rfl, -⟩ := exec_pure.mp hexec
      refine ⟨fun hzero => absurd hzero (by simp), fun _ => ⟨_, rfl, ?_⟩⟩
      rw [hstale, populate_nodes.destroyed_eq, ← hcpu, ← payload_cpu_data_destroy_eq_nil_iff]
      simp only [populate_nodes.failed, hgroups, hgroup]
      exact perm_append_range_iff howned
  | true =>
      obtain ⟨populated, t₁, hloop, hexec⟩ := exec_bind.mp hexec
      have hstart : CpusStored stored filling (no_cpus ∧ NoCpus done) []
          s.2.payload_pkg_data_create :=
        ⟨hgroups, hgroup, ⟨_, rfl, perm_range_succ howned, by simp [zhashx_keys]⟩,
          by simpa [populate_nodes.payload_pkg_data_create] using hcpu⟩
      obtain ⟨hstored, hfailed⟩ := exec_for_each hloop
        (fun done s _ => CpusStored stored filling _ done s.2)
        (fun s _ => DestroyedAfterError ctx s.2) hstart
        (fun cpus_done cpu_item rest s t result t' hitems hinv hbody =>
          hinv.populate_cpu (not_mem_keys_of_nodup (hitems ▸ hcpus)) hbody)
      by_cases hzero : populated.1 = 0
      · rw [if_neg (by simpa using hzero)] at hexec
        obtain ⟨rfl, -⟩ := exec_pure.mp hexec
        exact ⟨fun _ => (hstored hzero).store_pkg hkeys hfresh, fun hne => absurd rfl hne⟩
      · rw [if_pos hzero] at hexec
        obtain ⟨rfl, -⟩ := exec_pure.mp hexec
        exact ⟨fun heq => absurd heq (by simp), fun _ => hfailed hzero⟩

-- The group is handed over to the payload.
theorem PkgsStored.store_group {done : zhashx perf_group_context}
    {item : String × perf_group_context} {n : populate_nodes}
    (h : PkgsStored stored (∀ group ∈ done, group.2.pkgs_ctx = [])
      (∀ group ∈ done, NoCpus group.2.pkgs_ctx) item.2.pkgs_ctx n)
    (hkeys : ∀ key ∈ zhashx_keys stored, key ∈ zhashx_keys done)
    (hfresh : item.1 ∉ zhashx_keys done) :
    GroupsStored (done ++ [item]) (n.store_group order item.1) := by
  obtain ⟨rfl, ⟨filled, hgroup, howned, -⟩, hpkg, hcpu⟩ := h
  have hnew : item.1 ∉ zhashx_keys n.groups := fun hmem => hfresh (hkeys _ hmem)
  simp only [populate_nodes.store_group, hgroup]
  refine ⟨?_, mem_keys_insert rfl hnew hkeys, ?_, ?_⟩
  · exact (flatMap_zhashx_insert_perm order hnew _ _).trans howned
  · rw [hpkg]
    simp only [List.forall_mem_append, List.forall_mem_singleton]
  · rw [hcpu]
    simp only [List.forall_mem_append, List.forall_mem_singleton]

-- Without a package there is no cpu either.
theorem GroupsStored.stale_eq_nil_iff {done : zhashx perf_group_context} {n : populate_nodes}
    (h : GroupsStored done n) :
    payload_cpu_data_destroy n.cpu_data ++ payload_pkg_data_destroy n.pkg_data = [] ↔
      ∀ group ∈ done, group.2.pkgs_ctx = [] := by
  rw [List.append_eq_nil_iff, payload_cpu_data_destroy_eq_nil_iff,
    payload_pkg_data_destroy_eq_nil_iff, h.pkg_data, h.cpu_data]
  exact and_iff_right_of_imp fun hnone group hgroup => by simp [NoCpus, hnone group hgroup]

theorem PkgsStored.populate_pkgs {done rest : zhashx perf_group_context}
    {item : String × perf_group_context} {no_pkgs : Prop} (htables : ctx.Tables)
    (hitems : ctx.groups_ctx = done ++ item :: rest)
    (h : PkgsStored stored no_pkgs (∀ group ∈ done, NoCpus group.2.pkgs_ctx) [] s.2)
    (hloop : Exec step (for_each (populate_pkg_nodes order dwfl item.1 group) item.2.pkgs_ctx s)
      before result after) :
    (result.1 = 0 → PkgsStored stored no_pkgs (∀ group ∈ done, NoCpus group.2.pkgs_ctx)
      item.2.pkgs_ctx result.2.2) ∧ (result.1 ≠ 0 → DestroyedAfterError ctx result.2.2) := by
  have hmem : item ∈ ctx.groups_ctx := by simp [hitems]
  have hbefore : items_before item.1 ctx.groups_ctx = done := by
    rw [hitems, items_before_append (hitems ▸ htables.groups)]
  have hlookup : zhashx_lookup ctx.groups_ctx item.1 = some item.2 :=
    (zhashx_lookup_eq_some_iff htables.groups).mpr hmem
  refine exec_for_each hloop (fun done s _ => PkgsStored _ _ _ done s.2)
    (fun s _ => DestroyedAfterError ctx s.2) h ?_
  intro pkgs_done pkg_item rest s t result t' hpkg_items hinv hbody
  have hpkg_nodup : (zhashx_keys (pkgs_done ++ pkg_item :: rest)).Nodup :=
    hpkg_items ▸ htables.pkgs item hmem
  apply hinv.populate_pkg (not_mem_keys_of_nodup hpkg_nodup)
    (htables.cpus item hmem pkg_item (by simp [hpkg_items])) ?_ hbody
  simp only [NothingStale, hbefore, hlookup, Option.some.injEq, forall_eq']
  rw [hpkg_items, items_before_append hpkg_nodup]

theorem GroupsStored.populate_group {done rest : zhashx perf_group_context}
    {item : String × perf_group_context} (h : GroupsStored done s.2) (htables : ctx.Tables)
    (hitems : ctx.groups_ctx = done ++ item :: rest)
    (hexec : Exec step (populate_group_nodes order dwfl item s) before result after) :
    (result.1 = 0 → GroupsStored (done ++ [item]) result.2.2) ∧
      (result.1 ≠ 0 → DestroyedAfterError ctx result.2.2) := by
  have hnodup : (zhashx_keys (done ++ item :: rest)).Nodup := hitems ▸ htables.groups
  have hbefore : items_before item.1 ctx.groups_ctx = done := by
    rw [hitems, items_before_append hnodup]
  obtain ⟨allocated, t, -, hexec⟩ := exec_perform_bind.mp hexec
  cases allocated with
  | false =>
      obtain ⟨rfl, -⟩ := exec_pure.mp hexec
      refine ⟨fun hzero => absurd hzero (by simp), fun _ => ⟨_, rfl, ?_⟩⟩
      simp only [NothingStale, hbefore]
      rw [populate_nodes.destroyed_eq, ← h.stale_eq_nil_iff, ← List.append_assoc]
      exact perm_append_range_iff h.owned
  | true =>
      obtain ⟨buffer_allocated, t₁, -, hexec⟩ := exec_perform_bind.mp hexec
      cases buffer_allocated with
      | false =>
          obtain ⟨rfl, -⟩ := exec_pure.mp hexec
          refine ⟨fun hzero => absurd hzero (by simp), fun _ => ⟨_, rfl, ?_⟩⟩
          simp only [NothingStale, hbefore]
          rw [populate_nodes.destroyed_eq, ← h.stale_eq_nil_iff, ← List.append_assoc]
          exact perm_append_range_iff (perm_range_succ h.owned)
      | true =>
          obtain ⟨populated, t₂, hloop, hexec⟩ := exec_bind.mp hexec
          have hstart : PkgsStored s.2.groups (∀ group ∈ done, group.2.pkgs_ctx = [])
              (∀ group ∈ done, NoCpus group.2.pkgs_ctx) [] s.2.payload_group_data_create :=
            ⟨rfl, ⟨_, rfl, perm_range_succ h.owned, by simp [zhashx_keys]⟩,
              by simpa [populate_nodes.payload_group_data_create] using h.pkg_data,
              by simpa [populate_nodes.payload_group_data_create, NoCpus] using h.cpu_data⟩
          obtain ⟨hstored, hfailed⟩ := PkgsStored.populate_pkgs htables hitems hstart hloop
          by_cases hzero : populated.1 = 0
          · rw [if_neg (by simpa using hzero)] at hexec
            obtain ⟨rfl, -⟩ := exec_pure.mp hexec
            exact ⟨fun _ => (hstored hzero).store_group h.keys (not_mem_keys_of_nodup hnodup),
              fun hne => absurd rfl hne⟩
          · rw [if_pos hzero] at hexec
            obtain ⟨rfl, -⟩ := exec_pure.mp hexec
            exact ⟨fun heq => absurd heq (by simp), fun _ => hfailed hzero⟩

-- All that was allocated is in the payload, unless there was an error.
theorem exec_populate_payload_nodes {payload : payload} (htables : ctx.Tables)
    (hexec : Exec step (populate_payload_nodes order ctx payload) before result after) :
    (result.1 = 0 → (payload_destroy result.2.2.groups).Perm (List.range result.2.2.allocated)) ∧
      (result.1 ≠ 0 → DestroyedAfterError ctx result.2.2) := by
  have hstart : GroupsStored [] populate_nodes.empty :=
    ⟨List.Perm.refl [], by simp [zhashx_keys, populate_nodes.empty],
      by simp [populate_nodes.empty], by simp [populate_nodes.empty]⟩
  obtain ⟨hstored, hfailed⟩ := exec_for_each hexec (fun done s _ => GroupsStored done s.2)
    (fun s _ => DestroyedAfterError ctx s.2) hstart
    (fun _ _ _ _ _ _ _ hitems hinv hbody => hinv.populate_group htables hitems hbody)
  exact ⟨fun hzero => (hstored hzero).owned, hfailed⟩

-- Whatever the operations answer.
theorem nodes_destroyed_once_iff {payload : payload} (htables : ctx.Tables)
    (hexec : Exec step (populate_payload_nodes order ctx payload) before result after)
    (hfailed : result.1 ≠ 0) :
    ∃ error, result.2.2.error = some error ∧
      (result.2.2.destroyed.Perm (List.range result.2.2.allocated) ↔ NothingStale ctx error) :=
  (exec_populate_payload_nodes htables hexec).2 hfailed

end Loops

-- The steps that can fail.
inductive StepOf (ctx : perf_context) : populate_error → Prop
  | group_data {group : String × perf_group_context} (hgroup : group ∈ ctx.groups_ctx) :
      StepOf ctx (.group_data group.1)
  | perf_read_buffer {group : String × perf_group_context} (hgroup : group ∈ ctx.groups_ctx) :
      StepOf ctx (.perf_read_buffer group.1)
  | pkg_data {group : String × perf_group_context} {pkg : String × perf_group_pkg_context}
      (hgroup : group ∈ ctx.groups_ctx) (hpkg : pkg ∈ group.2.pkgs_ctx) :
      StepOf ctx (.pkg_data group.1 pkg.1)
  | cpu_data {group : String × perf_group_context} {pkg : String × perf_group_pkg_context}
      {cpu : String × perf_group_cpu_context} (hgroup : group ∈ ctx.groups_ctx)
      (hpkg : pkg ∈ group.2.pkgs_ctx) (hcpu : cpu ∈ pkg.2.cpus_ctx) :
      StepOf ctx (.cpu_data group.1 pkg.1 cpu.1)
  | perf_values {group : String × perf_group_context} {pkg : String × perf_group_pkg_context}
      {cpu : String × perf_group_cpu_context} (hgroup : group ∈ ctx.groups_ctx)
      (hpkg : pkg ∈ group.2.pkgs_ctx) (hcpu : cpu ∈ pkg.2.cpus_ctx) :
      StepOf ctx (.perf_values group.1 pkg.1 cpu.1)

section Failures

variable {order : hash_order} {dwfl : Option Dwfl} {group : events_group}
  {group_name pkg_id : String} {error : populate_error}

-- How a loop body ends at the step that fails.

def FailedAt (error : populate_error) (s : populate_state × populate_nodes) : Prop :=
  s.2.error = some error

def FailsWith (error : populate_error) (result : Int × populate_state × populate_nodes) : Prop :=
  result.1 ≠ 0 ∧ FailedAt error result.2

theorem can_read_cpu {cpu_ctx : perf_group_cpu_context} {size : Nat}
    (h : cpu_ctx.perf_fds ≠ []) :
    (perf_events_group_read_cpu cpu_ctx size).Can fun report => report ≠ none := by
  unfold perf_events_group_read_cpu
  cases hfds : cpu_ctx.perf_fds with
  | nil => exact absurd hfds h
  | cons leader fds => exact ⟨some ⟨0, 0, 0, []⟩, (0 : Int), Option.some_ne_none _⟩

theorem can_fail_read_cpu (cpu_ctx : perf_group_cpu_context) (size : Nat) :
    (perf_events_group_read_cpu cpu_ctx size).Can fun report => report = none := by
  unfold perf_events_group_read_cpu
  cases cpu_ctx.perf_fds with
  | nil => exact rfl
  | cons leader fds => exact ⟨none, rfl⟩

theorem can_populate_cpu {item : String × perf_group_cpu_context} (h : item.2.perf_fds ≠ [])
    (s : populate_state × populate_nodes) :
    (populate_cpu_nodes order dwfl group_name pkg_id group item s).Can
      fun result => result.1 = 0 := by
  refine .answer true (.bind (can_read_cpu h) fun report hreport => ?_)
  cases report with
  | none => exact absurd rfl hreport
  | some report =>
      have hwarn : (warn_multiplexing report).Can fun _ => True := by
        unfold warn_multiplexing
        split_ifs
        · exact ⟨(), trivial⟩
        · exact trivial
      have hstore : ∀ events, (store_callchain order dwfl item.2.buffer events).Can
          fun _ => True := by
        intro events
        cases item.2.buffer with
        | none => exact trivial
        | some buffer => exact ⟨none, trivial⟩
      exact hwarn.bind fun _ _ => (hstore _).bind fun _ _ => .pure rfl

theorem can_populate_pkg {item : String × perf_group_pkg_context}
    (h : ∀ cpu ∈ item.2.cpus_ctx, cpu.2.perf_fds ≠ []) (s : populate_state × populate_nodes) :
    (populate_pkg_nodes order dwfl group_name group item s).Can fun result => result.1 = 0 := by
  refine .answer true (.bind (.for_each (fun cpu hcpu => can_populate_cpu (h cpu hcpu)) _)
    fun populated hzero => ?_)
  rw [if_neg (by simpa using hzero)]
  exact .pure rfl

theorem can_populate_group {item : String × perf_group_context}
    (h : ∀ pkg ∈ item.2.pkgs_ctx, ∀ cpu ∈ pkg.2.cpus_ctx, cpu.2.perf_fds ≠ [])
    (s : populate_state × populate_nodes) :
    (populate_group_nodes order dwfl item s).Can fun result => result.1 = 0 := by
  refine .answer true (.answer true (.bind
    (.for_each (fun pkg hpkg => can_populate_pkg (h pkg hpkg)) _) fun populated hzero => ?_))
  rw [if_neg (by simpa using hzero)]
  exact .pure rfl

theorem can_fail_cpu_data {item : String × perf_group_cpu_context}
    (s : populate_state × populate_nodes) :
    (populate_cpu_nodes order dwfl group_name pkg_id group item s).Can
      (FailsWith (.cpu_data group_name pkg_id item.1)) :=
  .answer false (.pure ⟨by simp, rfl⟩)

theorem can_fail_perf_values {item : String × perf_group_cpu_context}
    (s : populate_state × populate_nodes) :
    (populate_cpu_nodes order dwfl group_name pkg_id group item s).Can
      (FailsWith (.perf_values group_name pkg_id item.1)) := by
  refine .answer true (.bind (can_fail_read_cpu _ _) ?_)
  rintro _ rfl
  exact .pure ⟨by simp, rfl⟩

theorem can_fail_in_pkg {item : String × perf_group_pkg_context}
    {cpu : String × perf_group_cpu_context} (hcpu : cpu ∈ item.2.cpus_ctx)
    (h : ∀ cpu ∈ item.2.cpus_ctx, cpu.2.perf_fds ≠ [])
    (hfail : ∀ s, (populate_cpu_nodes order dwfl group_name item.1 group cpu s).Can
      (FailsWith error)) (s : populate_state × populate_nodes) :
    (populate_pkg_nodes order dwfl group_name group item s).Can (FailsWith error) := by
  refine .answer true (.bind (.for_each_fails (R := FailedAt error) hcpu
    (fun cpu hcpu => can_populate_cpu (h cpu hcpu)) hfail _) fun populated hfailed => ?_)
  rw [if_pos hfailed.1]
  exact .pure ⟨by simp, hfailed.2⟩

theorem can_fail_in_group {item : String × perf_group_context}
    {pkg : String × perf_group_pkg_context} (hpkg : pkg ∈ item.2.pkgs_ctx)
    (h : ∀ pkg ∈ item.2.pkgs_ctx, ∀ cpu ∈ pkg.2.cpus_ctx, cpu.2.perf_fds ≠ [])
    (hfail : ∀ s, (populate_pkg_nodes order dwfl item.1 item.2.config pkg s).Can
      (FailsWith error)) (s : populate_state × populate_nodes) :
    (populate_group_nodes order dwfl item s).Can (FailsWith error) := by
  refine .answer true (.answer true (.bind (.for_each_fails (R := FailedAt error) hpkg
    (fun pkg hpkg => can_populate_pkg (h pkg hpkg)) hfail _) fun populated hfailed => ?_))
  rw [if_pos hfailed.1]
  exact .pure ⟨by simp, hfailed.2⟩

-- When each cpu has a leader to read, any step can be the one that fails.
theorem every_step_fails {ctx : perf_context} {payload : payload}
    (hleaders : ∀ group ∈ ctx.groups_ctx, ∀ pkg ∈ group.2.pkgs_ctx, ∀ cpu ∈ pkg.2.cpus_ctx,
      cpu.2.perf_fds ≠ []) (h : StepOf ctx error) :
    (populate_payload_nodes order ctx payload).Can (FailsWith error) := by
  have hgroups : ∀ {group}, group ∈ ctx.groups_ctx →
      (∀ s, (populate_group_nodes order ctx.dwfl group s).Can (FailsWith error)) →
      (populate_payload_nodes order ctx payload).Can (FailsWith error) :=
    fun hgroup hfail => .for_each_fails (R := FailedAt error) hgroup
      (fun group hgroup => can_populate_group (hleaders group hgroup)) hfail _
  cases h with
  | group_data hgroup => exact hgroups hgroup fun s => .answer false (.pure ⟨by simp, rfl⟩)
  | perf_read_buffer hgroup =>
      exact hgroups hgroup fun s => .answer true (.answer false (.pure ⟨by simp, rfl⟩))
  | pkg_data hgroup hpkg =>
      exact hgroups hgroup (can_fail_in_group hpkg (hleaders _ hgroup)
        fun s => .answer false (.pure ⟨by simp, rfl⟩))
  | cpu_data hgroup hpkg hcpu =>
      exact hgroups hgroup (can_fail_in_group hpkg (hleaders _ hgroup)
        (can_fail_in_pkg hcpu (hleaders _ hgroup _ hpkg) can_fail_cpu_data))
  | perf_values hgroup hpkg hcpu =>
      exact hgroups hgroup (can_fail_in_group hpkg (hleaders _ hgroup)
        (can_fail_in_pkg hcpu (hleaders _ hgroup _ hpkg) can_fail_perf_values))

-- So the nodes are safe from a failure of a step exactly when nothing is stale there.
theorem destroyed_once_at_iff {ctx : perf_context} {payload : payload} (htables : ctx.Tables)
    (hleaders : ∀ group ∈ ctx.groups_ctx, ∀ pkg ∈ group.2.pkgs_ctx, ∀ cpu ∈ pkg.2.cpus_ctx,
      cpu.2.perf_fds ≠ []) (h : StepOf ctx error) :
    (∀ (σ : Type) (step : Semantics syscall syscall_answer σ) (before after : σ) result,
      Exec step (populate_payload_nodes order ctx payload) before result after →
      FailsWith error result →
      result.2.2.destroyed.Perm (List.range result.2.2.allocated)) ↔ NothingStale ctx error := by
  have hrun : ∀ {σ : Type} {step : Semantics syscall syscall_answer σ} {before after : σ} {result},
      Exec step (populate_payload_nodes order ctx payload) before result after →
      FailsWith error result →
      (result.2.2.destroyed.Perm (List.range result.2.2.allocated) ↔ NothingStale ctx error) := by
    intro σ step before after result hexec hfails
    obtain ⟨error', herror', hiff⟩ := (exec_populate_payload_nodes htables hexec).2 hfails.1
    obtain rfl := Option.some.inj (hfails.2.symm.trans herror')
    exact hiff
  constructor
  · intro hall
    have hcan : (populate_payload_nodes order ctx payload).Can (FailsWith error) :=
      every_step_fails hleaders h
    obtain ⟨result, hexec, hfails⟩ := hcan.exec
    exact (hrun hexec hfails).mp (hall Unit _ () () result hexec hfails)
  · intro hnothing σ step before after result hexec hfails
    exact (hrun hexec hfails).mpr hnothing

end Failures

-- Two groups of two cpus each, and a kernel that refuses one of the allocations.

def two_groups_config : perf_config :=
  { core_config with events_groups := core_config.events_groups.flatMap fun item =>
      [item, ("more", item.2)] }

def two_groups_setup : (Int × perf_context) × kernel :=
  ( perf_events_groups_initialize in_order (perf_context_create two_groups_config "all")).run
    (counting fun _ => true) idle

def refusing (refused : Nat) (s : Nat × kernel) :
    (call : syscall) → syscall_answer call × Nat × kernel
  | .malloc => (decide (s.1 ≠ refused), s.1 + 1, s.2)
  | call =>
      ((counting (fun _ => true) s.2 call).1, s.1, (counting (fun _ => true) s.2 call).2)

def refuses (refused : Nat) : Semantics syscall syscall_answer (Nat × kernel) :=
  fun s call answer s' => (answer, s') = refusing refused s call

def second_group_refused : (Int × populate_state × populate_nodes) × Nat × kernel :=
  (populate_payload_nodes in_order two_groups_setup.1.2 (payload_create 1 "all")).run
    (refusing 5) (0, two_groups_setup.2)

theorem second_group_refused_exec : Exec (refuses 5)
    (populate_payload_nodes in_order two_groups_setup.1.2 (payload_create 1 "all"))
    (0, two_groups_setup.2) second_group_refused.1 second_group_refused.2 :=
  exec_run _ (fun _ _ => rfl) _ _

theorem two_groups_tables : two_groups_setup.1.2.Tables := by
  have hvalid : two_groups_config.Valid := ⟨⟨by decide, by decide⟩, by decide⟩
  have hstart : idle.wiring.opened = [] := rfl
  have hok : two_groups_setup.1.1 = 0 := by decide
  exact tables_of_initialize hvalid hstart
    (exec_run_ok _ (counting_step True fun _ => true) _ _ hok)

theorem nodes_destroyed_once_iff_two_groups :
    ∃ error, second_group_refused.1.2.2.error = some error ∧
      (second_group_refused.1.2.2.destroyed.Perm
        (List.range second_group_refused.1.2.2.allocated) ↔
          NothingStale two_groups_setup.1.2 error) :=
  nodes_destroyed_once_iff two_groups_tables second_group_refused_exec (by decide)

-- The last package and the last cpu of the first group are destroyed by the error
-- label, and again with the payload.
theorem first_group_destroyed_twice :
    ¬ ∀ (order : hash_order) (σ : Type) (step : Semantics syscall syscall_answer σ)
      (before after : σ) (ctx : perf_context) (payload : payload)
      (result : Int × populate_state × populate_nodes), ctx.Tables →
      Exec step (populate_payload_nodes order ctx payload) before result after → result.1 ≠ 0 →
      result.2.2.destroyed.Perm (List.range result.2.2.allocated) := by
  intro hclaim
  have hperm := hclaim _ _ _ _ _ _ _ _ two_groups_tables second_group_refused_exec (by decide)
  exact absurd hperm (by decide)

end HwpcSensor.Perf
