import HwpcSensor.Perf.Actor
import HwpcSensor.Perf.Populate.Walk
import HwpcSensor.Perf.Setup.Walk

namespace HwpcSensor

section Every

variable {β : Type} {P : β → Prop} {table : zhashx β}

def ZhashxEvery (P : β → Prop) (table : zhashx β) : Prop :=
  ∀ item ∈ table, P item.2

theorem zhashx_every_nil : ZhashxEvery P ([] : zhashx β) :=
  fun _ hitem => absurd hitem List.not_mem_nil

theorem zhashx_every_insert (order : hash_order) (h : ZhashxEvery P table) (key : String)
    {value : β} (hvalue : P value) : ZhashxEvery P (zhashx_insert order table key value) := by
  by_cases hmem : key ∈ zhashx_keys table
  · rwa [zhashx_insert_of_mem order hmem]
  · intro item hitem
    rcases List.mem_cons.mp ((zhashx_insert_perm order hmem value).subset hitem) with rfl | hitem
    · exact hvalue
    · exact h item hitem

end Every

-- Counters, and no callchains.
def payload_cpu_data.Counters (data : payload_cpu_data) : Prop :=
  ZhashxEvery (fun value => ∃ n, value = .counter n) data.events

def payload_pkg_data.Counters (data : payload_pkg_data) : Prop :=
  ZhashxEvery payload_cpu_data.Counters data.cpus

def payload_group_data.Counters (data : payload_group_data) : Prop :=
  ZhashxEvery payload_pkg_data.Counters data.pkgs

def payload.Counters (p : payload) : Prop :=
  ZhashxEvery payload_group_data.Counters p.groups

namespace Perf

open Interaction Syscall

-- No ring buffer is mapped for any cpu.
def perf_group_pkg_context.Ringless (pkg_ctx : perf_group_pkg_context) : Prop :=
  ZhashxEvery (fun cpu_ctx => cpu_ctx.buffer = none) pkg_ctx.cpus_ctx

def perf_group_context.Ringless (group_ctx : perf_group_context) : Prop :=
  ZhashxEvery perf_group_pkg_context.Ringless group_ctx.pkgs_ctx

def perf_context.Ringless (ctx : perf_context) : Prop :=
  ZhashxEvery perf_group_context.Ringless ctx.groups_ctx

section Setup

variable {order : hash_order} {perf_flags : Nat}

-- Without a cgroup the leader is opened like the other events.
theorem open_events_ringless {ctx : perf_context} (hsystem : ctx.cgroup_fd = -1)
    (cpu group_fd : Int) (events : List event_config) {cpu_ctx : perf_group_cpu_context}
    (h : cpu_ctx.buffer = none) :
    (open_events ctx perf_flags cpu group_fd events cpu_ctx).Yields fun result =>
      result.2.buffer = none := by
  induction events generalizing group_fd cpu_ctx with
  | nil => exact Prog.Yields.pure h
  | cons event rest ih =>
      unfold open_events
      rw [if_neg fun hleads => absurd hleads.2 (by rw [hsystem]; decide)]
      refine Prog.Yields.ignore fun perf_fd => ?_
      by_cases hfd : perf_fd < 1
      · rw [if_pos hfd]
        exact Prog.Yields.pure h
      · rw [if_neg hfd]
        exact ih _ h

-- The context under construction, and what is destroyed when that fails.
structure setup_state.Ringless (s : setup_state) : Prop where
  systemwide : s.ctx.cgroup_fd = -1
  ctx : s.ctx.Ringless
  group_ctx : ∀ group_ctx, s.group_ctx = some group_ctx → group_ctx.Ringless
  pkg_ctx : ∀ pkg_ctx, s.pkg_ctx = some pkg_ctx → pkg_ctx.Ringless

variable {s : setup_state}

theorem setup_state.Ringless.store_cpu (h : s.Ringless) (order : hash_order) (cpu_id : String)
    {cpu_ctx : perf_group_cpu_context} (hcpu : cpu_ctx.buffer = none) :
    (s.store_cpu order cpu_id cpu_ctx).Ringless := by
  refine ⟨h.systemwide, h.ctx, h.group_ctx, fun pkg_ctx hpkg => ?_⟩
  obtain ⟨old, hold, rfl⟩ := Option.map_eq_some_iff.mp hpkg
  exact zhashx_every_insert order (h.pkg_ctx old hold) cpu_id hcpu

theorem setup_state.Ringless.store_pkg (h : s.Ringless) (order : hash_order) (pkg_id : String) :
    (s.store_pkg order pkg_id).Ringless := by
  unfold setup_state.store_pkg
  cases hpkg : s.pkg_ctx with
  | none => exact h
  | some pkg_ctx =>
      refine ⟨h.systemwide, h.ctx, fun group_ctx hgroup => ?_, fun other hother => ?_⟩
      · obtain ⟨old, hold, rfl⟩ := Option.map_eq_some_iff.mp hgroup
        exact zhashx_every_insert order (h.group_ctx old hold) pkg_id (h.pkg_ctx pkg_ctx hpkg)
      · exact h.pkg_ctx other (hpkg.trans hother)

theorem setup_state.Ringless.store_group (h : s.Ringless) (order : hash_order)
    (group_name : String) : (s.store_group order group_name).Ringless := by
  unfold setup_state.store_group
  cases hgroup : s.group_ctx with
  | none => exact h
  | some group_ctx =>
      refine ⟨h.systemwide, ?_, fun other hother => ?_, h.pkg_ctx⟩
      · exact zhashx_every_insert order h.ctx group_name (h.group_ctx group_ctx hgroup)
      · exact h.group_ctx other (hgroup.trans hother)

theorem setup_cpu_ringless (h : s.Ringless) (group : events_group) (cpu_id : String) :
    (setup_cpu order perf_flags group cpu_id s).Yields fun result =>
      result.2.ctx = s.ctx ∧ result.2.Ringless := by
  refine Prog.Yields.ignore fun allocated => ?_
  by_cases hallocated : allocated = false
  · rw [if_pos hallocated]
    exact Prog.Yields.pure ⟨rfl, h.systemwide, h.ctx, h.group_ctx, h.pkg_ctx⟩
  · rw [if_neg hallocated]
    have hopened : ( perf_events_group_setup_cpu s.ctx perf_group_cpu_context_create group
        perf_flags cpu_id).Yields fun result => result.2.buffer = none := by
      unfold perf_events_group_setup_cpu
      cases parse_cpu_id cpu_id with
      | none => exact Prog.Yields.pure rfl
      | some cpu => exact open_events_ringless h.systemwide cpu (-1) group.events rfl
    refine Prog.Yields.bind hopened fun setup hsetup => ?_
    split_ifs
    · exact Prog.Yields.pure ⟨rfl, h.systemwide, h.ctx, h.group_ctx, h.pkg_ctx⟩
    · exact Prog.Yields.pure ⟨rfl, h.store_cpu order cpu_id hsetup⟩

theorem setup_ringless {cpus : List (events_group × String)} {hwinfo : HwpcSensor.hwinfo} :
    SetupInvariant .yields order perf_flags hwinfo cpus
      (fun _ s _ => s.ctx.config.hwinfo = hwinfo ∧ s.Ringless) fun s _ => s.Ringless where
  hwinfo_eq := fun h => h.1
  malloc := fun h _ => ⟨fun _ => h.2, fun _ => h⟩
  cpu := by
    intro done group cpu_id s t _ h
    refine (setup_cpu_ringless h.2 group cpu_id).mono fun result hresult => ?_
    have hkept : result.2.ctx.config.hwinfo = hwinfo := by
      rw [hresult.1]
      exact h.1
    exact ⟨fun _ => ⟨hkept, hresult.2⟩, fun _ => hresult.2⟩
  group := by
    intro done s t group h
    refine ⟨h.1, h.2.systemwide, h.2.ctx, ?_, h.2.pkg_ctx⟩
    rintro _ ⟨⟩
    exact zhashx_every_nil
  pkg := by
    intro done s t h
    refine ⟨h.1, h.2.systemwide, h.2.ctx, h.2.group_ctx, ?_⟩
    rintro _ ⟨⟩
    exact zhashx_every_nil
  store_group := fun group_name h =>
    ⟨hwinfo_store_group h.1 group_name, h.2.store_group order group_name⟩
  store_pkg := fun pkg_id h => ⟨hwinfo_store_pkg h.1 pkg_id, h.2.store_pkg order pkg_id⟩
  no_group := fun h => ⟨h.systemwide, h.ctx, by simp, h.pkg_ctx⟩
  no_pkg := fun h => ⟨h.systemwide, h.ctx, h.group_ctx, by simp⟩

-- A system-wide actor has no ring buffers.
theorem initialize_ringless {config : perf_config} (hsystem : config.target.cgroup_path = none)
    (target_name : String) :
    ( perf_events_groups_initialize order (perf_context_create config target_name)).Yields
      fun result => result.2.Ringless := by
  have hpath : (perf_context_create config target_name).config.target.cgroup_path = none := hsystem
  unfold perf_events_groups_initialize
  rw [hpath]
  refine setup_ringless.setup_groups (J := .yields) (t := ())
    (Q := fun result _ => result.2.Ringless) ⟨rfl, rfl, zhashx_every_nil, by simp, by simp⟩
    (fun s _ hs => hs.2.ctx) fun s _ hs => ?_
  exact Prog.Yields.ignore fun _ => Prog.Yields.ignore fun _ => Prog.Yields.ignore fun _ =>
    Prog.Yields.ignore fun _ => Prog.Yields.pure hs.ctx

end Setup

section Populate

variable {order : hash_order} {dwfl : Option Dwfl}

theorem store_values_counters (values : List Nat) (group_events : List event_config)
    (event_i : Nat) {events : zhashx event_value}
    (h : ZhashxEvery (fun value => ∃ n, value = .counter n) events) :
    ZhashxEvery (fun value => ∃ n, value = .counter n)
      (store_values order values group_events event_i events) := by
  induction group_events generalizing event_i events with
  | nil => exact h
  | cons event rest ih => exact ih (event_i + 1) (zhashx_every_insert order h _ ⟨_, rfl⟩)

theorem store_report_counters (group_events : List event_config) (report : perf_read_format) :
    ZhashxEvery (fun value => ∃ n, value = .counter n)
      (store_report order group_events report payload_cpu_data_create.events) := by
  have henabled : ZhashxEvery (fun value => ∃ n, value = .counter n)
      (zhashx_insert order payload_cpu_data_create.events "time_enabled"
        (.counter report.time_enabled)) :=
    zhashx_every_insert order zhashx_every_nil _ ⟨_, rfl⟩
  exact store_values_counters _ _ _ (zhashx_every_insert order henabled _ ⟨_, rfl⟩)

-- The payload under construction, and what is destroyed when that fails.
structure populate_state.Counters (s : populate_state) : Prop where
  payload : s.payload.Counters
  group_data : ∀ group_data, s.group_data = some group_data → group_data.Counters
  pkg_data : ∀ pkg_data, s.pkg_data = some pkg_data → pkg_data.Counters

variable {s : populate_state}

theorem populate_state.Counters.store_cpu (h : s.Counters) (order : hash_order) (cpu_id : String)
    {events : zhashx event_value}
    (hevents : ZhashxEvery (fun value => ∃ n, value = .counter n) events) :
    (s.store_cpu order cpu_id events).Counters := by
  refine ⟨h.payload, h.group_data, fun pkg_data hpkg => ?_⟩
  obtain ⟨old, hold, rfl⟩ := Option.map_eq_some_iff.mp hpkg
  exact zhashx_every_insert order (h.pkg_data old hold) cpu_id hevents

theorem populate_state.Counters.store_pkg (h : s.Counters) (order : hash_order) (pkg_id : String) :
    (s.store_pkg order pkg_id).Counters := by
  unfold populate_state.store_pkg
  cases hpkg : s.pkg_data with
  | none => exact h
  | some pkg_data =>
      refine ⟨h.payload, fun group_data hgroup => ?_, fun other hother => ?_⟩
      · obtain ⟨old, hold, rfl⟩ := Option.map_eq_some_iff.mp hgroup
        exact zhashx_every_insert order (h.group_data old hold) pkg_id (h.pkg_data pkg_data hpkg)
      · exact h.pkg_data other (hpkg.trans hother)

theorem populate_state.Counters.store_group (h : s.Counters) (order : hash_order)
    (group_name : String) : (s.store_group order group_name).Counters := by
  unfold populate_state.store_group
  cases hgroup : s.group_data with
  | none => exact h
  | some group_data =>
      refine ⟨?_, fun other hother => ?_, h.pkg_data⟩
      · exact zhashx_every_insert order h.payload group_name (h.group_data group_data hgroup)
      · exact h.group_data other (hgroup.trans hother)

theorem populate_cpu_counters (h : s.Counters) (group : events_group)
    {item : String × perf_group_cpu_context} (hring : item.2.buffer = none) :
    (populate_cpu order dwfl group item s).Yields fun result => result.2.Counters := by
  refine Prog.Yields.ignore fun allocated => ?_
  by_cases hallocated : allocated = false
  · rw [if_pos hallocated]
    exact Prog.Yields.pure ⟨h.payload, h.group_data, h.pkg_data⟩
  · rw [if_neg hallocated]
    refine Prog.Yields.ignore fun report => ?_
    cases report with
    | none => exact Prog.Yields.pure ⟨h.payload, h.group_data, h.pkg_data⟩
    | some report =>
        refine Prog.Yields.ignore fun _ => ?_
        rw [hring]
        exact Prog.Yields.pure (h.store_cpu order item.1 (store_report_counters _ _))

-- Without ring buffers only counters are stored.
theorem populate_payload_counters {ctx : perf_context} (hring : ctx.Ringless) (timestamp : Nat) :
    (populate_payload order ctx (payload_create timestamp ctx.target_name)).Yields
      fun result => result.2.payload.Counters := by
  have hbuffers : ∀ cpu ∈ read_groups ctx, cpu.2.2.buffer = none := by
    intro cpu hmem
    obtain ⟨group_item, hgroup, pkg_item, hpkg, cpu_item, hcpu, rfl⟩ := mem_read_groups.mp hmem
    exact hring group_item hgroup pkg_item hpkg cpu_item hcpu
  have hinv : PopulateInvariant .yields order ctx.dwfl (read_groups ctx)
      (fun _ s _ => s.Counters) fun s _ => s.Counters := by
    refine ⟨fun h _ => ⟨fun _ => h, fun _ => h⟩, ?_, ?_, ?_, fun group_name h =>
      h.store_group order group_name, fun pkg_id h => h.store_pkg order pkg_id,
      fun h => ⟨h.payload, by simp, h.pkg_data⟩, fun h => ⟨h.payload, h.group_data, by simp⟩⟩
    · intro done group item s t hpart h
      have hnone := hbuffers (group, item) (hpart.subset (by simp))
      exact (populate_cpu_counters h group hnone).mono fun _ hresult =>
        ⟨fun _ => hresult, fun _ => hresult⟩
    · intro done s t h
      refine ⟨h.payload, ?_, h.pkg_data⟩
      rintro _ ⟨⟩
      exact zhashx_every_nil
    · intro done s t h
      refine ⟨h.payload, h.group_data, ?_⟩
      rintro _ ⟨⟩
      exact zhashx_every_nil
  have hstart : populate_state.Counters
      ⟨payload_create timestamp ctx.target_name, none, none, none⟩ :=
    ⟨zhashx_every_nil, by simp, by simp⟩
  refine (hinv.payload_walk (t := ()) hstart).mono fun result hended => ?_
  by_cases hzero : result.1 = 0
  · exact (hended.1 hzero).payload
  · exact (hended.2 hzero).payload

end Populate

end Perf

end HwpcSensor
