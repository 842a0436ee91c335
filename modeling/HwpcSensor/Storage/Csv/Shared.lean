import HwpcSensor.Config.Accepted
import HwpcSensor.Storage.Csv.Theorems

namespace HwpcSensor.Storage

-- The module is created once the configuration has been validated.
def storage_csv_create (config : config) : Option csv_context :=
  match config.sensor.name, config.storage.U_flag with
  | some sensor_name, some output_dir => some (csv_context_create sensor_name output_dir)
  | _, _ => none

def column_names (group : events_group) : List String :=
  "time_enabled" :: "time_running" :: group.events.map event_config.name

-- The values of an entry without a callchain.
structure Counted (group : events_group) (events : zhashx event_value) : Prop where
  nodup : (zhashx_keys events).Nodup
  counters : ∃ values : String → Nat, ∀ key, zhashx_lookup events key =
    if key ∈ column_names group then some (.counter (values key)) else none

-- A payload of an actor that has got these groups: each of them, with entries.
structure Reported (groups : zhashx events_group) (payload : payload) : Prop where
  names : (zhashx_keys payload.groups).Perm (zhashx_keys groups)
  filled : ∀ group ∈ zhashx_keys groups, payload_entries group payload ≠ []
  counted : ∀ item ∈ groups, ∀ entry ∈ payload_entries item.1 payload,
    Counted item.2 entry.events

-- A report comes from the actor of the system or from one of a container.
structure report where
  kind : events_kind
  payload : payload

def named_groups (events : config_events) : List (String × List String) :=
  (events.system ++ events.containers).map fun item =>
    (item.1, item.2.events.map event_config.name)

-- Every report is stored, and every entry has a row with all its values.
structure Undisturbed (sensor_name : String) (output : csv_output) (payloads : List payload) :
    Prop where
  stored : ∀ err ∈ output.errors, err = 0
  rows : ∀ group, HoldsRows sensor_name output group (all_entries group payloads)
  complete : ∀ group columns, zhashx_lookup output.ctx.groups_events group = some columns →
    ∀ entry ∈ all_entries group payloads, ∀ key ∈ zhashx_keys entry.events, key ∈ columns

-- When there are reports of both kinds, groups with the same name have the same
-- events.
def Agree (events : config_events) (reports : List report) : Prop :=
  (∃ r ∈ reports, r.kind = .system) → (∃ r ∈ reports, r.kind = .containers) →
    ∀ item ∈ events.system, ∀ other ∈ events.containers, item.1 = other.1 →
      ∀ name, name ∈ column_names item.2 ↔ name ∈ column_names other.2

theorem eq_of_storage_csv_create {config : config} {ctx : csv_context}
    (h : storage_csv_create config = some ctx) :
    ∃ sensor_name output_dir, ctx = csv_context_create sensor_name output_dir := by
  unfold storage_csv_create at h
  split at h
  · exact ⟨_, _, (Option.some.inj h).symm⟩
  · exact absurd h (by simp)

section Counted

variable {group other : events_group} {events : zhashx event_value}

theorem Counted.mem_keys (h : Counted group events) {key : String} :
    key ∈ zhashx_keys events ↔ key ∈ column_names group := by
  obtain ⟨-, values, hlookup⟩ := h
  constructor
  · intro hkey
    obtain ⟨value, hvalue⟩ := zhashx_lookup_of_mem_keys hkey
    rw [hlookup] at hvalue
    split_ifs at hvalue with hnamed
    exact hnamed
  · intro hnamed
    exact mem_zhashx_keys_of_lookup ((hlookup key).trans (if_pos hnamed))

theorem Counted.measured (h : Counted group events)
    (hsame : ∀ name, name ∈ column_names group ↔ name ∈ column_names other) :
    Measured (other.events.map event_config.name) events := by
  obtain ⟨hnodup, values, hlookup⟩ := h
  refine ⟨hnodup, values, none, by simp, fun key => ?_⟩
  rw [hlookup]
  by_cases hkey : key ∈ column_names group
  · rw [if_pos hkey]
    exact (if_pos ((hsame key).mp hkey)).symm
  · have hother : key ∉ "time_enabled" :: "time_running" :: other.events.map event_config.name :=
      fun hmem => hkey ((hsame key).mpr hmem)
    rw [if_neg hkey, if_neg hother]
    split_ifs <;> rfl

theorem Counted.no_callchain (h : Counted group events) (text : List Char) :
    zhashx_lookup events "callchain" ≠ some (.callchain text) := by
  obtain ⟨-, values, hlookup⟩ := h
  rw [hlookup]
  split_ifs <;> simp

end Counted

section Actor

open Perf

-- What an actor populates a payload with when no callchain has been sampled.
theorem counted_of_entry {group : events_group} {fds : List Int} {r : reading}
    {text : Option (List Char)} {events : zhashx event_value}
    (hlength : fds.length = group.events.length) (h : Entry group fds r text events)
    (hnone : ∀ t, zhashx_lookup events "callchain" ≠ some (.callchain t)) :
    Counted group events := by
  have hvalue : ∀ key, ∃ value, entry_value group fds r key =
      if key ∈ column_names group then some (.counter value) else none := by
    intro key
    unfold entry_value
    by_cases henabled : key = "time_enabled"
    · exact ⟨r.time_enabled, by rw [if_pos henabled, if_pos (by simp [column_names, henabled])]⟩
    by_cases hrunning : key = "time_running"
    · refine ⟨r.time_running, ?_⟩
      rw [if_neg henabled, if_pos hrunning, if_pos (by simp [column_names, hrunning])]
    rw [if_neg henabled, if_neg hrunning]
    cases hcounter : counter_of group fds key with
    | some fd =>
        obtain ⟨event, hevent, rfl⟩ := counter_of_event hcounter
        have hmem : event.name ∈ column_names group :=
          List.mem_cons_of_mem _ (List.mem_cons_of_mem _ (List.mem_map_of_mem hevent))
        exact ⟨r.value fd, by rw [if_pos hmem]; rfl⟩
    | none =>
        refine ⟨0, (if_neg fun hmem => ?_).symm⟩
        have hnamed : key ∈ group.events.map event_config.name := by
          simpa [column_names, henabled, hrunning] using hmem
        obtain ⟨event, hevent, rfl⟩ := List.mem_map.mp hnamed
        obtain ⟨fd, -, hfd⟩ := counter_of_exists hlength hevent
        exact absurd (hcounter.symm.trans hfd) (by simp)
  choose values hvalues using hvalue
  refine ⟨h.nodup, values, fun key => ?_⟩
  have hlookup := h.lookup key
  rw [hvalues] at hlookup
  rw [hlookup]
  by_cases hkey : key ∈ column_names group
  · rw [if_pos hkey]
    rfl
  · rw [if_neg hkey, Option.none_or]
    split_ifs with hcallchain
    · subst hcallchain
      cases text with
      | none => rfl
      | some t => exact absurd (by rw [hlookup, if_neg hkey]; rfl) (hnone t)
    · rfl

theorem reported_of_collected {atomic : Prop} {t t' : kernel} {ctx : perf_context}
    {payload : payload} (hgroups : (zhashx_keys ctx.config.events_groups).Nodup)
    (hdetected : ctx.config.hwinfo.Detected)
    (hready : ContextReady t'.wiring ctx)
    (hcollected : PayloadCollected atomic t t' ctx payload)
    (hnone : ∀ group, ∀ entry ∈ payload_entries group payload, ∀ text,
      zhashx_lookup entry.events "callchain" ≠ some (.callchain text)) :
    Reported ctx.config.events_groups payload := by
  have hbuilt := hready.built.trans hcollected
  have hentries : ∀ item ∈ ctx.config.events_groups, ∃ group_ctx group_data,
      zhashx_lookup payload.groups item.1 = some group_data ∧ group_ctx.config = item.2 ∧
      Built Prod.fst (fun pkg_item pkg_ctx => Built id (fun _ cpu_ctx =>
        cpu_ctx.perf_fds.length = item.2.events.length) (selected_cpus item.2 pkg_item.2)
        pkg_ctx.cpus_ctx) ctx.config.hwinfo.pkgs group_ctx.pkgs_ctx ∧
      GroupCollected atomic t t' group_ctx group_data := by
    intro item hitem
    obtain ⟨group_data, hlookup, group_ctx, ⟨hconfig, hpkgs⟩, hgroup⟩ := hbuilt.entry item hitem
    refine ⟨group_ctx, group_data, hlookup, hconfig, ?_, hgroup⟩
    refine hpkgs.mono fun pkg_item _ pkg_ctx hcpus => hcpus.mono ?_
    rintro cpu_id - cpu_ctx ⟨cpu, -, hwired⟩
    exact hwired.length_eq
  refine ⟨hbuilt.keys_perm hgroups, fun group hgroup => ?_, fun item hitem entry hentry => ?_⟩
  · obtain ⟨item, hitem, rfl⟩ := List.mem_map.mp hgroup
    obtain ⟨group_ctx, group_data, hlookup, -, hpkgs, hgroup⟩ := hentries item hitem
    obtain ⟨pkg_item, hpkg⟩ := List.exists_mem_of_ne_nil _ hdetected.pkgs_nonempty
    obtain ⟨cpu_id, hcpu⟩ := List.exists_mem_of_ne_nil _
      (selected_cpus_ne_nil item.2 (hdetected.cpus_nonempty pkg_item hpkg))
    obtain ⟨pkg_data, hpkg_data, pkg_ctx, hcpus, hcollected⟩ :=
      (hpkgs.trans hgroup).entry pkg_item hpkg
    obtain ⟨cpu_data, hcpu_data, -⟩ := (hcpus.trans hcollected).entry cpu_id hcpu
    have hentry : (⟨payload.timestamp, payload.target_name, pkg_item.1, cpu_id,
        cpu_data.events⟩ : report_entry) ∈
          group_entries payload.timestamp payload.target_name group_data.pkgs :=
      List.mem_flatMap.mpr ⟨_, mem_of_zhashx_lookup hpkg_data,
        List.mem_map.mpr ⟨_, mem_of_zhashx_lookup hcpu_data, rfl⟩⟩
    rw [payload_entries, entries_in, hlookup]
    exact List.ne_nil_of_mem hentry
  · have hno_callchain := hnone item.1 entry hentry
    obtain ⟨group_ctx, group_data, hlookup, hconfig, hpkgs, hgroup⟩ := hentries item hitem
    rw [payload_entries, entries_in, hlookup] at hentry
    obtain ⟨pkg, hpkg, hentry⟩ := List.mem_flatMap.mp hentry
    obtain ⟨cpu, hcpu, rfl⟩ := List.mem_map.mp hentry
    obtain ⟨pkg_item, -, -, pkg_ctx, hcpus, hcollected⟩ := (hpkgs.trans hgroup).of_mem hpkg
    obtain ⟨cpu_id, -, -, cpu_ctx, hlength, r, text, -, -, hvalues, -⟩ :=
      (hcpus.trans hcollected).of_mem hcpu
    rw [hconfig] at hvalues
    exact counted_of_entry hlength hvalues hno_callchain

end Actor

-- The columns of a row are keys of its entry.
theorem mem_keys_of_cells {cell : event_value → List Char} {events : zhashx event_value}
    {columns : List String} {text : List Char} (h : cells cell events columns = some text) :
    ∀ column ∈ columns, column ∈ zhashx_keys events := by
  induction columns generalizing text with
  | nil => simp
  | cons first rest ih =>
      unfold cells at h
      cases hvalue : zhashx_lookup events first with
      | none => simp [hvalue] at h
      | some value =>
          cases hrest : cells cell events rest with
          | none => simp [hvalue, hrest] at h
          | some tail =>
              intro column hcolumn
              rcases List.mem_cons.mp hcolumn with rfl | hcolumn
              · exact mem_zhashx_keys_of_lookup hvalue
              · exact ih hrest column hcolumn

section

variable {sensor_name output_dir : String} {output : csv_output} {payloads : List payload}

-- All the entries of a group have the same keys.
theorem Undisturbed.keys_eq (h : Undisturbed sensor_name output payloads) {group : String}
    {entry other : report_entry} (hentry : entry ∈ all_entries group payloads)
    (hother : other ∈ all_entries group payloads) (key : String) :
    key ∈ zhashx_keys entry.events → key ∈ zhashx_keys other.events := by
  intro hkey
  have hrows := h.rows group
  have hcomplete := h.complete group
  cases hall : all_entries group payloads with
  | nil => simp [hall] at hentry
  | cons first rest =>
      rw [hall] at hrows
      obtain ⟨columns, rows, hcolumns, hmap, -⟩ := hrows
      have hcolumn := hcomplete columns hcolumns entry hentry key hkey
      have hmem : csv_row cell_text sensor_name columns other ∈ rows.map some := by
        rw [← hmap, ← hall]
        exact List.mem_map_of_mem hother
      obtain ⟨row, -, hrow⟩ := List.mem_map.mp hmem
      obtain ⟨text, htext, -⟩ := Option.map_eq_some_iff.mp hrow.symm
      exact mem_keys_of_cells htext key hcolumn

variable {events : config_events} {reports : List report}

-- An entry of a group of the reports was counted for the group of that kind.
theorem counted_of_mem (hreported : ∀ r ∈ reports, Reported (events.groups r.kind) r.payload)
    {group : String} {entry : report_entry}
    (hentry : entry ∈ all_entries group (reports.map report.payload)) :
    ∃ r ∈ reports, ∃ item ∈ events.groups r.kind, item.1 = group ∧
      Counted item.2 entry.events := by
  obtain ⟨payload, hpayload, hmem⟩ := List.mem_flatMap.mp hentry
  obtain ⟨r, hr, rfl⟩ := List.mem_map.mp hpayload
  have hgroup : group ∈ zhashx_keys r.payload.groups := by
    by_contra hnot
    rw [payload_entries, entries_in, zhashx_lookup_eq_none_iff.mpr hnot] at hmem
    simp at hmem
  obtain ⟨item, hitem, rfl⟩ := List.mem_map.mp ((hreported r hr).names.subset hgroup)
  exact ⟨r, hr, item, hitem, rfl, (hreported r hr).counted item hitem entry hmem⟩

theorem Undisturbed.agree
    (hreported : ∀ r ∈ reports, Reported (events.groups r.kind) r.payload)
    (h : Undisturbed sensor_name output (reports.map report.payload)) : Agree events reports := by
  rintro ⟨r, hr, hkind⟩ ⟨r', hr', hkind'⟩ item hitem other hother heq name
  have hitem' : item ∈ events.groups r.kind := by
    rw [hkind]
    exact hitem
  have hother' : other ∈ events.groups r'.kind := by
    rw [hkind']
    exact hother
  have hfilled := (hreported r hr).filled item.1 (List.mem_map_of_mem hitem')
  have hfilled' := (hreported r' hr').filled other.1 (List.mem_map_of_mem hother')
  obtain ⟨entry, hentry⟩ := List.exists_mem_of_ne_nil _ hfilled
  obtain ⟨entry', hentry'⟩ := List.exists_mem_of_ne_nil _ hfilled'
  have hcounted := (hreported r hr).counted item hitem' entry hentry
  have hcounted' := (hreported r' hr').counted other hother' entry' hentry'
  have hall : entry ∈ all_entries item.1 (reports.map report.payload) :=
    List.mem_flatMap.mpr ⟨r.payload, List.mem_map_of_mem hr, hentry⟩
  have hall' : entry' ∈ all_entries item.1 (reports.map report.payload) :=
    List.mem_flatMap.mpr ⟨r'.payload, List.mem_map_of_mem hr', heq ▸ hentry'⟩
  rw [← hcounted.mem_keys, ← hcounted'.mem_keys]
  exact ⟨h.keys_eq hall hall' name, h.keys_eq hall' hall name⟩

theorem Agree.same_columns (h : Agree events reports)
    (hnodup : ∀ kind, (zhashx_keys (events.groups kind)).Nodup) {r r' : report}
    (hr : r ∈ reports) (hr' : r' ∈ reports) {item other : String × events_group}
    (hitem : item ∈ events.groups r.kind) (hother : other ∈ events.groups r'.kind)
    (heq : item.1 = other.1) (name : String) :
    name ∈ column_names item.2 ↔ name ∈ column_names other.2 := by
  cases hkind : r.kind with
  | system =>
      rw [hkind] at hitem
      cases hkind' : r'.kind with
      | system =>
          rw [hkind'] at hother
          obtain rfl := List.inj_on_of_nodup_map (hnodup .system) hitem hother heq
          exact Iff.rfl
      | containers =>
          rw [hkind'] at hother
          exact h ⟨r, hr, hkind⟩ ⟨r', hr', hkind'⟩ item hitem other hother heq name
  | containers =>
      rw [hkind] at hitem
      cases hkind' : r'.kind with
      | system =>
          rw [hkind'] at hother
          exact (h ⟨r', hr', hkind'⟩ ⟨r, hr, hkind⟩ other hother item hitem heq.symm name).symm
      | containers =>
          rw [hkind'] at hother
          obtain rfl := List.inj_on_of_nodup_map (hnodup .containers) hitem hother heq
          exact Iff.rfl

-- The entries of a group are measured under the events of any one of them.
theorem Agree.measured (h : Agree events reports)
    (hnodup : ∀ kind, (zhashx_keys (events.groups kind)).Nodup)
    (hreported : ∀ r ∈ reports, Reported (events.groups r.kind) r.payload) (group : String) :
    ∃ names, ∀ entry ∈ all_entries group (reports.map report.payload),
      Measured names entry.events ∧
        ∀ text, zhashx_lookup entry.events "callchain" ≠ some (.callchain text) := by
  cases hall : all_entries group (reports.map report.payload) with
  | nil => exact ⟨[], by simp⟩
  | cons first rest =>
      have hfirst : first ∈ all_entries group (reports.map report.payload) := by
        rw [hall]
        exact List.mem_cons_self
      obtain ⟨r, hr, item, hitem, hname, -⟩ := counted_of_mem hreported hfirst
      refine ⟨item.2.events.map event_config.name, fun entry hentry => ?_⟩
      rw [← hall] at hentry
      obtain ⟨r', hr', other, hother, hname', hcounted⟩ := counted_of_mem hreported hentry
      refine ⟨hcounted.measured ?_, hcounted.no_callchain⟩
      exact h.same_columns hnodup hr' hr hother hitem (hname'.trans hname.symm)

theorem Reported.produced {groups : zhashx events_group} {payload : payload}
    (h : Reported groups payload) (hnodup : (zhashx_keys groups).Nodup) :
    Produced (groups.map fun item => (item.1, item.2.events.map event_config.name))
      [payload] := by
  have hkeys : (groups.map fun item => (item.1, item.2.events.map event_config.name)).map
      Prod.fst = zhashx_keys groups := by
    rw [List.map_map]
    rfl
  refine ⟨?_, hkeys ▸ hnodup, ?_, Or.inl ?_⟩
  · simp only [List.mem_singleton, forall_eq, hkeys]
    exact h.names
  · simp only [List.mem_singleton, forall_eq]
    intro group hgroup entry hentry
    obtain ⟨item, hitem, rfl⟩ := List.mem_map.mp hgroup
    exact (h.counted item hitem entry hentry).measured fun _ => Iff.rfl
  · simp only [List.mem_singleton, forall_eq]
    intro group hgroup
    obtain ⟨item, hitem, rfl⟩ := List.mem_map.mp hgroup
    exact h.filled item.1 (List.mem_map_of_mem hitem)

theorem Reported.full {r : report} (h : Reported (events.groups r.kind) r.payload)
    (hnodup : ∀ kind, (zhashx_keys (events.groups kind)).Nodup)
    (hpath : ∀ group ∈ named_groups events,
      (outfile_path (csv_context_create sensor_name output_dir) group.1).length < PATH_MAX) :
    Full (csv_context_create sensor_name output_dir) r.payload := by
  have hsome : ∀ payload ∈ [r.payload], ∀ group ∈ (events.groups r.kind).map
      (fun item => (item.1, item.2.events.map event_config.name)),
      payload_entries group.1 payload ≠ [] := by
    simp only [List.mem_singleton, forall_eq]
    intro group hgroup
    obtain ⟨item, hitem, rfl⟩ := List.mem_map.mp hgroup
    exact h.filled item.1 (List.mem_map_of_mem hitem)
  refine (h.produced (hnodup r.kind)).full (fun group hgroup => hpath group ?_) hsome
    (List.mem_singleton_self _)
  unfold named_groups
  rw [List.map_append]
  cases hkind : r.kind with
  | system => exact List.mem_append_left _ (by rwa [hkind] at hgroup)
  | containers => exact List.mem_append_right _ (by rwa [hkind] at hgroup)

theorem Agree.accepted (h : Agree events reports)
    (hnodup : ∀ kind, (zhashx_keys (events.groups kind)).Nodup)
    (hreported : ∀ r ∈ reports, Reported (events.groups r.kind) r.payload)
    (hfits : Fits sensor_name output_dir (named_groups events) (reports.map report.payload))
    (group : String) :
    Accepted sensor_name (all_entries group (reports.map report.payload)) := by
  intro entry hentry
  obtain ⟨names, hmeasured⟩ := h.measured hnodup hreported group
  obtain ⟨r, -, item, hitem, rfl, -⟩ := counted_of_mem hreported hentry
  have hgroup : (item.1, item.2.events.map event_config.name) ∈ named_groups events := by
    refine List.mem_map.mpr ⟨item, List.mem_append.mpr ?_, rfl⟩
    cases hkind : r.kind with
    | system => exact Or.inl (by rwa [hkind] at hitem)
    | containers => exact Or.inr (by rwa [hkind] at hitem)
  have hfirst : ∀ first, (all_entries item.1 (reports.map report.payload)).head? = some first →
      ∀ text, zhashx_lookup first.events "callchain" ≠ some (.callchain text) :=
    fun first hhead => (hmeasured first (List.mem_of_mem_head? hhead)).2
  have hline := hfits.header _ hgroup
  have hrows := hfits.row _ hgroup
  exact accepted_of_measured (fun entry hentry => (hmeasured entry hentry).1) hfirst hline hrows
    entry hentry

theorem Agree.undisturbed (order : hash_order) (h : Agree events reports)
    (hnodup : ∀ kind, (zhashx_keys (events.groups kind)).Nodup)
    (hreported : ∀ r ∈ reports, Reported (events.groups r.kind) r.payload)
    (hfits : Fits sensor_name output_dir (named_groups events) (reports.map report.payload)) :
    Undisturbed sensor_name (store_reports order (reports.map report.payload)
      (csv_context_create sensor_name output_dir) []) (reports.map report.payload) := by
  have hfull : ∀ payload ∈ reports.map report.payload,
      Full (csv_context_create sensor_name output_dir) payload := by
    intro payload hpayload
    obtain ⟨r, hr, rfl⟩ := List.mem_map.mp hpayload
    exact (hreported r hr).full hnodup hfits.path
  obtain ⟨hstored, haccepted⟩ := store_reports_spec order _
    (settled_create sensor_name output_dir) hfull rfl
  simp only [List.nil_append] at hstored haccepted
  have herrs := haccepted (h.accepted hnodup hreported hfits)
  obtain ⟨hsettled, hconfig⟩ := hstored herrs
  generalize store_reports order (reports.map report.payload)
    (csv_context_create sensor_name output_dir) [] = output at hsettled hconfig herrs ⊢
  have hname : output.ctx.config.sensor_name = sensor_name := by
    rw [hconfig]
    rfl
  refine ⟨herrs, fun group => ?_, fun group columns hcolumns entry hentry key hkey => ?_⟩
  · obtain ⟨names, hmeasured⟩ := h.measured hnodup hreported group
    have hrecorded := hsettled.consistent.recorded group
    cases hall : all_entries group (reports.map report.payload) with
    | nil => exact hsettled.consistent.no_rows hall sensor_name
    | cons first rest =>
        rw [hall] at hrecorded hmeasured
        rw [← hname]
        exact hrecorded.holds_rows (fun entry hentry => (hmeasured entry hentry).1)
          (hmeasured first List.mem_cons_self).2
  · have hrecorded := hsettled.consistent.recorded group
    obtain ⟨names, hmeasured⟩ := h.measured hnodup hreported group
    cases hall : all_entries group (reports.map report.payload) with
    | nil => simp [hall] at hentry
    | cons first rest =>
        rw [hall] at hrecorded hmeasured hentry
        obtain ⟨file, rows, -, hknown, -⟩ := hrecorded
        obtain rfl := Option.some.inj (hcolumns.symm.trans hknown)
        obtain ⟨hfirst, -⟩ := hmeasured first List.mem_cons_self
        obtain ⟨hentry, hnone⟩ := hmeasured entry hentry
        exact mem_sorted_names.mpr (hfirst.mem_keys (hentry.keys_named hnone hkey))

-- Groups of the system and of the containers share the file of their name, and the
-- columns of the first report that has it.
theorem shared_groups_stored_iff (order : hash_order) {m : platform} {source : config_source}
    {accepted : config} (haccepted : HwpcSensor.Accepted m source accepted) {ctx : csv_context}
    (hctx : storage_csv_create accepted = some ctx)
    (hreported : ∀ r ∈ reports, Reported (accepted.events.groups r.kind) r.payload)
    (hfits : Fits ctx.config.sensor_name ctx.config.output_dir (named_groups accepted.events)
      (reports.map report.payload)) :
    Undisturbed ctx.config.sensor_name (store_reports order (reports.map report.payload) ctx [])
      (reports.map report.payload) ↔ Agree accepted.events reports := by
  obtain ⟨sensor_name, output_dir, rfl⟩ := eq_of_storage_csv_create hctx
  exact ⟨fun h => h.agree hreported,
    fun h => h.undisturbed order haccepted.reflects.nodup hreported hfits⟩

end

def counter_config (name : String) : event_config :=
  ⟨name, ⟨0, 0, true, 11, false, false, false, false, 0, 0, false, false, false⟩⟩

def core_group (names : List String) : events_group :=
  ⟨"core", .MONITOR_ALL_CPU_PER_SOCKET, names.map counter_config⟩

-- One group under the same name on both sides.
def shared_group (names : List String) : config where
  sensor := ⟨0, 1000, 20, DEFAULT_CGROUP_BASEPATH, some "host"⟩
  storage := ⟨.STORAGE_CSV, some "out", none, none, 0⟩
  events := ⟨[("core", core_group ["CYCLES"])], [("core", core_group names)]⟩

def more_events : zhashx event_value :=
  ("LLC", .counter 3) :: plain_events

theorem plain_events_counted : Counted (core_group ["CYCLES"]) plain_events :=
  ⟨by decide, fun key => if key = "CYCLES" then 5 else 9, plain_events_lookup⟩

theorem more_events_counted : Counted (core_group ["CYCLES", "LLC"]) more_events := by
  refine ⟨by decide, fun key => if key = "LLC" then 3 else if key = "CYCLES" then 5 else 9,
    fun key => ?_⟩
  rw [more_events, zhashx_lookup_cons, plain_events_lookup]
  by_cases hkey : key = "LLC"
  · subst hkey
    rfl
  · simp [Ne.symm hkey, hkey, column_names, core_group, counter_config]

theorem one_entry_reported {group : events_group} {events : zhashx event_value}
    (h : Counted group events) : Reported [("core", group)] (one_entry events) := by
  refine ⟨List.Perm.refl _, fun name hname => ?_, fun item hitem entry hentry => ?_⟩
  · obtain rfl : name = "core" := List.mem_singleton.mp hname
    exact List.cons_ne_nil _ _
  · obtain rfl := List.mem_singleton.mp hitem
    rw [List.mem_singleton.mp hentry]
    exact h

def both_reports (events : zhashx event_value) : List report :=
  [⟨.system, one_entry plain_events⟩, ⟨.containers, one_entry events⟩]

theorem both_reports_reported {names : List String} {events : zhashx event_value}
    (h : Counted (core_group names) events) :
    ∀ r ∈ both_reports events, Reported ((shared_group names).events.groups r.kind) r.payload := by
  intro r hr
  simp only [both_reports, List.mem_cons, List.not_mem_nil, or_false] at hr
  rcases hr with rfl | rfl
  · exact one_entry_reported plain_events_counted
  · exact one_entry_reported h

theorem both_reports_fit {names : List String} {events : zhashx event_value}
    (hrow : ∀ row, csv_row cell_text "host" (sorted_names plain_events)
      ⟨1000, "app", "0", "3", events⟩ = some row → row.length < CSV_LINE_BUFFER_SIZE) :
    Fits "host" "out" (named_groups (shared_group names).events)
      ((both_reports events).map report.payload) := by
  have hgroup : ∀ group ∈ named_groups (shared_group names).events, group.1 = "core" := by
    intro group hgroup
    simp only [named_groups, shared_group, List.cons_append, List.nil_append, List.map_cons,
      List.map_nil, List.mem_cons, List.not_mem_nil, or_false] at hgroup
    rcases hgroup with rfl | rfl <;> rfl
  refine ⟨fun group hmem => ?_, fun group hmem => ?_, fun group hmem entry hentry row hsome => ?_⟩
  · rw [hgroup group hmem]
    decide
  · rw [hgroup group hmem]
    show (header_line (sorted_names plain_events)).length < CSV_LINE_BUFFER_SIZE
    decide
  · rw [hgroup group hmem] at hentry hsome
    have hentry' : entry ∈ [(⟨1000, "app", "0", "3", plain_events⟩ : report_entry),
        ⟨1000, "app", "0", "3", events⟩] := hentry
    simp only [List.mem_cons, List.not_mem_nil, or_false] at hentry'
    rcases hentry' with rfl | rfl
    · obtain rfl := Option.some.inj hsome
      decide
    · exact hrow row hsome

theorem shared_groups_stored_iff_cycles :
    Undisturbed "host" (store_reports in_order ((both_reports plain_events).map report.payload)
      (csv_context_create "host" "out") []) ((both_reports plain_events).map report.payload) := by
  have haccepted : HwpcSensor.Accepted all_events (.cli ["hwpc-sensor", "-n", "host", "-U", "out",
      "-s", "core", "-e", "CYCLES", "-c", "core", "-e", "CYCLES"]) (shared_group ["CYCLES"]) :=
    ⟨⟨0, rfl⟩, by decide⟩
  have hfits : Fits "host" "out" (named_groups (shared_group ["CYCLES"]).events)
      ((both_reports plain_events).map report.payload) := by
    refine both_reports_fit fun row hrow => ?_
    obtain rfl := Option.some.inj hrow
    decide
  refine (shared_groups_stored_iff in_order haccepted rfl
    (both_reports_reported plain_events_counted) hfits).mpr ?_
  intro _ _ item hitem other hother _ name
  rw [List.mem_singleton.mp hitem, List.mem_singleton.mp hother]

-- The containers have an event that the system has not: their values of it are not
-- in any row.
theorem shared_group_loses_event :
    ¬ ∀ (order : hash_order) (m : platform) (source : config_source) (accepted : config)
      (ctx : csv_context) (reports : List report), HwpcSensor.Accepted m source accepted →
      accepted.storage.type = .STORAGE_CSV → storage_csv_create accepted = some ctx →
      (∀ r ∈ reports, Reported (accepted.events.groups r.kind) r.payload) →
      Fits ctx.config.sensor_name ctx.config.output_dir (named_groups accepted.events)
        (reports.map report.payload) →
      Undisturbed ctx.config.sensor_name
        (store_reports order (reports.map report.payload) ctx []) (reports.map report.payload) := by
  intro hclaim
  have haccepted : HwpcSensor.Accepted all_events (.cli ["hwpc-sensor", "-n", "host", "-U", "out",
      "-s", "core", "-e", "CYCLES", "-c", "core", "-e", "CYCLES", "-e", "LLC"])
      (shared_group ["CYCLES", "LLC"]) := ⟨⟨0, rfl⟩, by decide⟩
  have hreported := both_reports_reported more_events_counted
  have hfits : Fits "host" "out" (named_groups (shared_group ["CYCLES", "LLC"]).events)
      ((both_reports more_events).map report.payload) := by
    refine both_reports_fit fun row hrow => ?_
    obtain rfl := Option.some.inj hrow
    decide
  have hundisturbed := hclaim in_order _ _ _ _ _ haccepted rfl rfl hreported hfits
  have hagree := hundisturbed.agree hreported
    ⟨_, List.mem_cons_self, rfl⟩ ⟨_, List.mem_cons_of_mem _ List.mem_cons_self, rfl⟩
    ("core", core_group ["CYCLES"]) List.mem_cons_self
    ("core", core_group ["CYCLES", "LLC"]) List.mem_cons_self rfl "LLC"
  exact absurd (hagree.mpr (by decide)) (by decide)

end HwpcSensor.Storage
