import HwpcSensor.Perf.Kernel.Populate

namespace HwpcSensor.Perf

open Interaction Syscall

variable {atomic : Prop} {t t' t'' : kernel}

theorem disjoint_of_nodup_flatMap {α : Type} {f : α → List Int} {items done rest : List α}
    {item : α} (hnodup : (items.flatMap f).Nodup) (hitems : items = done ++ item :: rest) :
    List.Disjoint (done.flatMap f) (f item) := by
  rw [hitems, List.flatMap_append, List.flatMap_cons] at hnodup
  intro fd hdone hitem
  exact (List.nodup_append.mp hnodup).2.2 fd hdone fd (List.mem_append_left _ hitem) rfl

theorem disjoint_of_mem_done {α : Type} {f : α → List Int} {done : List α} {item other : α}
    (h : List.Disjoint (done.flatMap f) (f item)) (hother : other ∈ done) :
    List.Disjoint (f item) (f other) := by
  intro fd hitem hmem
  exact h (List.mem_flatMap.mpr ⟨other, hother, hmem⟩) hitem

section Loop

variable {α β : Type}

def TableReports (R : α → β → consumption → Prop) (items : List (String × α)) (table : zhashx β)
    (c : consumption) : Prop :=
  ∃ item value, item ∈ items ∧ zhashx_lookup table item.1 = some value ∧ R item.2 value c

theorem TableReports.later {R : α → β → consumption → Prop} {items : List (String × α)}
    {table : zhashx β} {c : consumption} (order : hash_order) (hnodup : (zhashx_keys table).Nodup)
    (h : TableReports R items table c) (item : String × α) (value : β) :
    TableReports R (items ++ [item]) (zhashx_insert order table item.1 value) c := by
  obtain ⟨other, old, hother, hold, hR⟩ := h
  exact ⟨other, old, List.mem_append_left _ hother,
    zhashx_lookup_insert_of_some order hnodup hold value, hR⟩

-- The loops over the cpus, the packages and the groups each fill a table while
-- the kernel is passed through.
theorem exec_collect {order : hash_order}
    {body : String × α → populate_state → program (Int × populate_state)}
    {items : List (String × α)} {s : populate_state} {result : Int × populate_state}
    (f : α → List Int) (P : kernel → kernel → α → β → Prop) (R : α → β → consumption → Prop)
    (At : populate_state → zhashx β → Prop)
    (h : Exec (kernel.step atomic) (for_each body items s) t result t')
    (hnodup : (items.map Prod.fst).Nodup) (hfds : (items.flatMap fun item => f item.2).Nodup)
    (hearlier : ∀ {t₁ t₂ t₃ fds item value}, P t₂ t₃ item value → Passes fds t₁ t₂ →
      List.Disjoint fds (f item) → P t₁ t₃ item value)
    (hlater : ∀ {t₁ t₂ t₃ fds item value}, P t₁ t₂ item value → Passes fds t₂ t₃ →
      List.Disjoint fds (f item) → P t₁ t₃ item value)
    (hstart : At s [])
    (hbody : ∀ item ∈ items, ∀ s t₁ result t₂ table, At s table → t₁.wiring = t.wiring →
      Exec (kernel.step atomic) (body item s) t₁ result t₂ → result.1 = 0 →
      ∃ value, At result.2 (zhashx_insert order table item.1 value) ∧ P t₁ t₂ item.2 value ∧
        Passes (f item.2) t₁ t₂ ∧ Reports (R item.2 value) t₁ t₂)
    (hok : result.1 = 0) :
    ∃ table, At result.2 table ∧ Built Prod.fst (fun item => P t t' item.2) items table ∧
      Passes (items.flatMap fun item => f item.2) t t' ∧
      Reports (TableReports R items table) t t' := by
  have hpass : Passes [] t t :=
    ⟨rfl, List.prefix_refl _, fun _ _ => rfl, rfl⟩
  refine (exec_for_each h (fun done s t' => ∃ table, At s table ∧
    Built Prod.fst (fun item => P t t' item.2) done table ∧
    Passes (done.flatMap fun item => f item.2) t t' ∧ Reports (TableReports R done table) t t')
    (fun _ _ => True) ⟨[], hstart, Built.nil, hpass, Reports.of_eq rfl⟩ ?_).1 hok
  rintro done item rest s t₁ result t₂ hitems ⟨table, hat, hbuilt, hpasses, hreports⟩ hexec
  refine ⟨fun hzero => ?_, fun _ => trivial⟩
  obtain ⟨value, hat', hP, hpasses', hreports'⟩ :=
    hbody item (by simp [hitems]) s t₁ result t₂ table hat hpasses.wiring hexec hzero
  have hdisjoint := disjoint_of_nodup_flatMap (f := fun item : String × α => f item.2) hfds hitems
  have hsub := hnodup.sublist ((sublist_append_cons hitems).map Prod.fst)
  have hkeys := hbuilt.distinct
  have hold := hbuilt.mono fun other hother value hvalue =>
    hlater hvalue hpasses' (disjoint_of_mem_done (f := fun item : String × α => f item.2)
      hdisjoint hother)
  refine ⟨_, hat', hold.insert order hsub (hearlier hP hpasses hdisjoint), ?_, ?_⟩
  · have htrans := hpasses.trans hpasses'
    rwa [List.flatMap_append, List.flatMap_singleton]
  · refine hreports.trans hreports' (fun c hc => hc.later order hkeys item value) fun c hc => ?_
    refine ⟨item, value, by simp, ?_, hc⟩
    rw [zhashx_lookup_insert order hkeys, if_pos rfl,
      zhashx_lookup_eq_none_iff.mpr (hbuilt.fresh hsub)]
    rfl

end Loop

section Levels

-- What the loops rely on: tables with different keys, and leaders with groups of
-- their own.

def PkgSound (w : wiring) (pkg_ctx : perf_group_pkg_context) : Prop :=
  (pkg_ctx.cpus_ctx.map Prod.fst).Nodup ∧ ∀ item ∈ pkg_ctx.cpus_ctx, ∀ leader,
    item.2.perf_fds.head? = some leader → w.members leader = item.2.perf_fds

def GroupSound (w : wiring) (group_ctx : perf_group_context) : Prop :=
  (group_ctx.pkgs_ctx.map Prod.fst).Nodup ∧ ∀ item ∈ group_ctx.pkgs_ctx, PkgSound w item.2

structure ContextSound (w : wiring) (ctx : perf_context) : Prop where
  keys : (ctx.groups_ctx.map Prod.fst).Nodup
  groups : ∀ item ∈ ctx.groups_ctx, GroupSound w item.2
  fds : (groups_fds ctx).Nodup

variable (atomic)

def PkgCollected (group : events_group) (t t' : kernel) (pkg_ctx : perf_group_pkg_context)
    (pkg_data : payload_pkg_data) : Prop :=
  Built Prod.fst (fun item => Collected atomic group t t' item.2) pkg_ctx.cpus_ctx pkg_data.cpus

def GroupCollected (t t' : kernel) (group_ctx : perf_group_context)
    (group_data : payload_group_data) : Prop :=
  Built Prod.fst (fun item => PkgCollected atomic group_ctx.config t t' item.2) group_ctx.pkgs_ctx
    group_data.pkgs

def PayloadCollected (t t' : kernel) (ctx : perf_context) (payload : payload) : Prop :=
  Built Prod.fst (fun item => GroupCollected atomic t t' item.2) ctx.groups_ctx payload.groups

variable {atomic}

def PkgReports (group : events_group) (pkg_ctx : perf_group_pkg_context)
    (pkg_data : payload_pkg_data) (c : consumption) : Prop :=
  TableReports (CpuReports group) pkg_ctx.cpus_ctx pkg_data.cpus c

def GroupReports (group_ctx : perf_group_context) (group_data : payload_group_data)
    (c : consumption) : Prop :=
  TableReports (PkgReports group_ctx.config) group_ctx.pkgs_ctx group_data.pkgs c

def PayloadReports (ctx : perf_context) (payload : payload) (c : consumption) : Prop :=
  TableReports GroupReports ctx.groups_ctx payload.groups c

theorem disjoint_of_mem_flatMap {α : Type} {f : α → List Int} {items : List α} {item : α}
    {fds : List Int} (h : List.Disjoint fds (items.flatMap f)) (hitem : item ∈ items) :
    List.Disjoint fds (f item) :=
  fun _ hfd hmem => h hfd (List.mem_flatMap.mpr ⟨item, hitem, hmem⟩)

variable {group : events_group} {fds : List Int}

theorem PkgCollected.earlier {pkg_ctx : perf_group_pkg_context} {pkg_data : payload_pkg_data}
    (h : PkgCollected atomic group t' t'' pkg_ctx pkg_data) (hpasses : Passes fds t t')
    (hdisjoint : List.Disjoint fds (pkg_fds pkg_ctx)) :
    PkgCollected atomic group t t'' pkg_ctx pkg_data :=
  h.mono fun _ hitem _ hvalue =>
    hvalue.earlier hpasses (disjoint_of_mem_flatMap
      (f := fun item : String × perf_group_cpu_context => item.2.perf_fds) hdisjoint hitem)

theorem PkgCollected.later {pkg_ctx : perf_group_pkg_context} {pkg_data : payload_pkg_data}
    (h : PkgCollected atomic group t t' pkg_ctx pkg_data) (hpasses : Passes fds t' t'')
    (hdisjoint : List.Disjoint fds (pkg_fds pkg_ctx)) :
    PkgCollected atomic group t t'' pkg_ctx pkg_data :=
  h.mono fun _ hitem _ hvalue =>
    hvalue.later hpasses (disjoint_of_mem_flatMap
      (f := fun item : String × perf_group_cpu_context => item.2.perf_fds) hdisjoint hitem)

theorem GroupCollected.earlier {group_ctx : perf_group_context} {group_data : payload_group_data}
    (h : GroupCollected atomic t' t'' group_ctx group_data) (hpasses : Passes fds t t')
    (hdisjoint : List.Disjoint fds (group_fds group_ctx)) :
    GroupCollected atomic t t'' group_ctx group_data :=
  h.mono fun _ hitem _ hvalue =>
    hvalue.earlier hpasses (disjoint_of_mem_flatMap
      (f := fun item : String × perf_group_pkg_context => pkg_fds item.2) hdisjoint hitem)

theorem GroupCollected.later {group_ctx : perf_group_context} {group_data : payload_group_data}
    (h : GroupCollected atomic t t' group_ctx group_data) (hpasses : Passes fds t' t'')
    (hdisjoint : List.Disjoint fds (group_fds group_ctx)) :
    GroupCollected atomic t t'' group_ctx group_data :=
  h.mono fun _ hitem _ hvalue =>
    hvalue.later hpasses (disjoint_of_mem_flatMap
      (f := fun item : String × perf_group_pkg_context => pkg_fds item.2) hdisjoint hitem)

variable {order : hash_order} {dwfl : Option Dwfl} {s : populate_state}
  {result : Int × populate_state}

theorem exec_populate_pkg {item : String × perf_group_pkg_context}
    (hsound : PkgSound t.wiring item.2) (hfds : (pkg_fds item.2).Nodup)
    (h : Exec (kernel.step atomic) (populate_pkg order dwfl group item s) t result t')
    (hok : result.1 = 0) :
    ∃ pkg_data, result.2.payload = s.payload ∧
      result.2.group_data = (s.group_data.map fun group_data =>
        { group_data with pkgs := zhashx_insert order group_data.pkgs item.1 pkg_data }) ∧
      PkgCollected atomic group t t' item.2 pkg_data ∧ Passes (pkg_fds item.2) t t' ∧
      Reports (PkgReports group item.2 pkg_data) t t' := by
  obtain ⟨allocated, t₁, hmalloc, h₁⟩ := exec_bind.mp h
  obtain ⟨rfl, hstill⟩ := exec_malloc_still hmalloc
  rw [if_neg (by simp)] at h₁
  obtain ⟨populated, t₂, hpopulated, h₂⟩ := exec_bind.mp h₁
  by_cases hzero : populated.1 = 0
  · rw [if_neg (by simpa using hzero)] at h₂
    obtain ⟨rfl, rfl⟩ := exec_pure.mp h₂
    obtain ⟨cpus, ⟨hpkg, hpayload, hgroup⟩, hbuilt, hpasses, hreports⟩ := exec_collect
      perf_group_cpu_context.perf_fds (Collected atomic group) (CpuReports group)
      (fun s' cpus => s'.pkg_data = some ⟨cpus⟩ ∧ s'.payload = s.payload ∧
        s'.group_data = s.group_data)
      hpopulated hsound.1 hfds Collected.earlier Collected.later ⟨rfl, rfl, rfl⟩ (by
        rintro item hitem s' t₃ result t₄ cpus ⟨hpkg, hpayload, hgroup⟩ hwiring hexec hzero
        obtain ⟨events, hstored, hcollected, hpasses, hreports⟩ := exec_populate_cpu
          (by rw [hwiring, hstill.wiring]; exact hsound.2 item hitem) hexec hzero
        refine ⟨⟨events⟩, ?_, hcollected, hpasses, hreports⟩
        rw [hstored]
        refine ⟨?_, hpayload, hgroup⟩
        rw [populate_state.store_cpu, hpkg]
        rfl) hzero
    refine ⟨⟨cpus⟩, ?_, ?_, ?_, ?_, ?_⟩
    · rw [populate_state.store_pkg, hpkg]
      exact hpayload
    · rw [populate_state.store_pkg, hpkg, ← hgroup]
    · exact PkgCollected.earlier hbuilt hstill.passes (by simp)
    · exact hstill.passes.trans hpasses
    · obtain ⟨new, hnew, hall⟩ := hreports
      exact ⟨new, by rw [hnew, hstill.consumed], hall⟩
  · rw [if_pos hzero] at h₂
    obtain ⟨rfl, -⟩ := exec_pure.mp h₂
    exact absurd hok (by simp)

theorem exec_populate_group {item : String × perf_group_context}
    (hsound : GroupSound t.wiring item.2) (hfds : (group_fds item.2).Nodup)
    (h : Exec (kernel.step atomic) (populate_group order dwfl item s) t result t')
    (hok : result.1 = 0) :
    ∃ group_data, result.2.payload = { s.payload with
        groups := zhashx_insert order s.payload.groups item.1 group_data } ∧
      GroupCollected atomic t t' item.2 group_data ∧ Passes (group_fds item.2) t t' ∧
      Reports (GroupReports item.2 group_data) t t' := by
  obtain ⟨allocated, t₁, hmalloc, h₁⟩ := exec_bind.mp h
  obtain ⟨rfl, hstill₁⟩ := exec_malloc_still hmalloc
  rw [if_neg (by simp)] at h₁
  obtain ⟨buffer_allocated, t₂, hbuffer, h₂⟩ := exec_bind.mp h₁
  obtain ⟨rfl, hstill₂⟩ := exec_malloc_still hbuffer
  have hstill := hstill₁.trans hstill₂
  rw [if_neg (by simp)] at h₂
  obtain ⟨populated, t₃, hpopulated, h₃⟩ := exec_bind.mp h₂
  by_cases hzero : populated.1 = 0
  · rw [if_neg (by simpa using hzero)] at h₃
    obtain ⟨rfl, rfl⟩ := exec_pure.mp h₃
    obtain ⟨pkgs, ⟨hgroup, hpayload⟩, hbuilt, hpasses, hreports⟩ := exec_collect
      pkg_fds (PkgCollected atomic item.2.config) (PkgReports item.2.config)
      (fun s' pkgs => s'.group_data = some ⟨pkgs⟩ ∧ s'.payload = s.payload)
      hpopulated hsound.1 hfds PkgCollected.earlier PkgCollected.later ⟨rfl, rfl⟩ (by
        rintro pkg_item hitem s' t₄ result t₅ pkgs ⟨hgroup, hpayload⟩ hwiring hexec hzero
        obtain ⟨pkg_data, hpayload', hgroup', hcollected, hpasses, hreports⟩ := exec_populate_pkg
          (by rw [hwiring, hstill.wiring]; exact hsound.2 pkg_item hitem)
          ((List.nodup_flatMap.mp hfds).1 pkg_item hitem) hexec hzero
        refine ⟨pkg_data, ⟨?_, hpayload'.trans hpayload⟩, hcollected, hpasses, hreports⟩
        rw [hgroup', hgroup]
        rfl) hzero
    refine ⟨⟨pkgs⟩, ?_, ?_, ?_, ?_⟩
    · rw [populate_state.store_group, hgroup, ← hpayload]
    · exact GroupCollected.earlier hbuilt hstill.passes (by simp)
    · exact hstill.passes.trans hpasses
    · obtain ⟨new, hnew, hall⟩ := hreports
      exact ⟨new, by rw [hnew, hstill.consumed], hall⟩
  · rw [if_pos hzero] at h₃
    obtain ⟨rfl, -⟩ := exec_pure.mp h₃
    exact absurd hok (by simp)

-- A payload that was populated without an error has one entry for each cpu of the
-- context, each from one reading.
theorem exec_populate_payload {ctx : perf_context} {payload : payload}
    (h : Exec (kernel.step atomic) (populate_payload order ctx payload) t result t')
    (hsound : ContextSound t.wiring ctx) (hempty : payload.groups = []) (hok : result.1 = 0) :
    PayloadCollected atomic t t' ctx result.2.payload ∧ Passes (groups_fds ctx) t t' ∧
      Reports (PayloadReports ctx result.2.payload) t t' := by
  obtain ⟨groups, hgroups, hbuilt, hpasses, hreports⟩ := exec_collect
    group_fds (GroupCollected atomic) GroupReports
    (fun s' groups => s'.payload.groups = groups)
    h hsound.keys hsound.fds GroupCollected.earlier GroupCollected.later hempty (by
      rintro item hitem s' t₁ result t₂ groups hgroups hwiring hexec hzero
      obtain ⟨group_data, hpayload, hcollected, hpasses, hreports⟩ := exec_populate_group
        (by rw [hwiring]; exact hsound.groups item hitem)
        ((List.nodup_flatMap.mp hsound.fds).1 item hitem) hexec hzero
      refine ⟨group_data, ?_, hcollected, hpasses, hreports⟩
      rw [hpayload, ← hgroups]) hok
  unfold PayloadCollected PayloadReports
  rw [hgroups]
  exact ⟨hbuilt, hpasses, hreports⟩

end Levels

end HwpcSensor.Perf
