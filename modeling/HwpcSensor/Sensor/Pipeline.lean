import HwpcSensor.Perf.Kernel.Sent
import HwpcSensor.Storage.Csv.Reading

namespace HwpcSensor.Sensor

open Interaction Perf Storage Syscall Transition

def groups_names (config : perf_config) : List (String × List String) :=
  config.events_groups.map fun item => (item.1, item.2.events.map event_config.name)

-- No text of the rows or the headers has a comma or a newline.
structure CleanTexts (config : perf_config) (sensor_name target_name : String) : Prop where
  sensor : Clean sensor_name.toList
  target : Clean target_name.toList
  pkgs : ∀ pkg ∈ config.hwinfo.pkgs, Clean pkg.1.toList
  events : ∀ item ∈ config.events_groups, ∀ event ∈ item.2.events, Clean event.name.toList

theorem clean_repr (n : Nat) : Clean n.repr.toList := by
  have hrepr : n.repr.toList = decimal n := by simp [Nat.repr, decimal]
  rw [hrepr]
  exact clean_decimal n

theorem clean_column_names {group : events_group}
    (h : ∀ event ∈ group.events, Clean event.name.toList) :
    ∀ column ∈ column_names group, Clean column.toList := by
  unfold column_names
  rw [List.forall_mem_cons, List.forall_mem_cons]
  refine ⟨⟨by decide, by decide⟩, ⟨by decide, by decide⟩, fun column hcolumn => ?_⟩
  obtain ⟨event, hevent, rfl⟩ := List.mem_map.mp hcolumn
  exact h event hevent

section Payloads

variable {groups : zhashx events_group} {payloads : List payload}

theorem produced_of_reported (h : ∀ p ∈ payloads, Storage.Reported groups p)
    (hnodup : (zhashx_keys groups).Nodup) :
    Produced (groups.map fun item => (item.1, item.2.events.map event_config.name)) payloads := by
  have hone := fun p hp => (h p hp).produced hnodup
  have hfilled : ∀ p ∈ payloads, ∀ group ∈ groups.map fun item =>
      (item.1, item.2.events.map event_config.name), payload_entries group.1 p ≠ [] := by
    intro p hp group hgroup
    obtain ⟨item, hitem, rfl⟩ := List.mem_map.mp hgroup
    exact (h p hp).filled item.1 (List.mem_map_of_mem hitem)
  refine ⟨fun p hp => (hone p hp).names p (List.mem_singleton_self p), ?_, fun p hp =>
    (hone p hp).measured p (List.mem_singleton_self p), Or.inl hfilled⟩
  rw [List.map_map]
  exact hnodup

end Payloads

section Stored

variable {ctx : perf_context} {w : wiring} {payloads : List payload}
  {sensor_name output_dir : String}

-- The reports of such an actor are stored, and can be read back.
structure Readable (ctx : perf_context) (sensor_name output_dir : String)
    (payloads : List payload) : Prop where
  storable : StorableCounters sensor_name output_dir payloads
  separable : ∀ group, ∀ entry ∈ all_entries group payloads,
    Separable sensor_name (columns_of (all_entries group payloads)) entry
  nodup : ∀ group, ∀ entry ∈ all_entries group payloads, (zhashx_keys entry.events).Nodup
  clean : ∀ group, ∀ column ∈ columns_of (all_entries group payloads), Clean column.toList
  keyed : ∀ p ∈ payloads, p.Keyed
  columns : ∀ item ∈ ctx.config.events_groups, ∀ entry ∈ all_entries item.1 payloads,
    ∀ column ∈ column_names item.2, column ∈ columns_of (all_entries item.1 payloads)

theorem counted_entry {groups : zhashx events_group}
    (h : ∀ p ∈ payloads, Storage.Reported groups p) {group : String} {entry : report_entry}
    (hentry : entry ∈ all_entries group payloads) :
    ∃ item ∈ groups, item.1 = group ∧ Counted item.2 entry.events := by
  obtain ⟨p, hp, hmem⟩ := List.mem_flatMap.mp hentry
  have hgroup : group ∈ zhashx_keys p.groups := by
    by_contra hnot
    rw [payload_entries, entries_in, zhashx_lookup_eq_none_iff.mpr hnot] at hmem
    simp at hmem
  obtain ⟨item, hitem, rfl⟩ := List.mem_map.mp ((h p hp).names.subset hgroup)
  exact ⟨item, hitem, rfl, (h p hp).counted item hitem entry hmem⟩

-- A counter belongs to an event of its group.
theorem counter_named (hready : ContextReady w ctx) {group pkg cpu name : String} {fd : Int}
    (h : ctx.counter group pkg cpu name = some fd) :
    ∃ item ∈ ctx.config.events_groups, item.1 = group ∧ name ∈ column_names item.2 := by
  obtain ⟨cpu_ctx, hcpu, hcounter⟩ := Option.bind_eq_some_iff.mp h
  obtain ⟨group_ctx, pkg_ctx, hgroup, -, -, hconfig⟩ := cpu_eq_some hcpu
  obtain ⟨item, hitem, hname, hgroup_config, -⟩ := hready.built.of_mem hgroup
  obtain ⟨event, hevent, rfl⟩ := counter_of_event hcounter
  refine ⟨item, hitem, hname, List.mem_cons_of_mem _ (List.mem_cons_of_mem _ ?_)⟩
  rw [← hgroup_config, hconfig]
  exact List.mem_map_of_mem hevent

-- Every group has entries as soon as there is a report.
theorem entries_ne_nil (hvalid : ctx.config.Valid) (hdetected : ctx.config.hwinfo.Detected)
    (hready : ContextReady w ctx) (hsent : ∀ p ∈ payloads, SentReport ctx w p)
    (hsome : payloads ≠ []) {item : String × events_group}
    (hitem : item ∈ ctx.config.events_groups) : all_entries item.1 payloads ≠ [] := by
  obtain ⟨p, hp⟩ := List.exists_mem_of_ne_nil _ hsome
  obtain ⟨entry, hentry⟩ := List.exists_mem_of_ne_nil _
    (((hsent p hp).reported hvalid hdetected hready).filled item.1 (List.mem_map_of_mem hitem))
  exact List.ne_nil_of_mem (List.mem_flatMap.mpr ⟨p, hp, hentry⟩)

theorem readable_of_sent (hvalid : ctx.config.Valid) (hdetected : ctx.config.hwinfo.Detected)
    (hready : ContextReady w ctx) (hsent : ∀ p ∈ payloads, SentReport ctx w p)
    (hfits : Fits sensor_name output_dir (groups_names ctx.config) payloads)
    (hclean : CleanTexts ctx.config sensor_name ctx.target_name) :
    Readable ctx sensor_name output_dir payloads := by
  have hreported := fun p hp => (hsent p hp).reported hvalid hdetected hready
  have hproduced := produced_of_reported hreported hvalid.groups
  have hcounters : ∀ group, ∀ entry ∈ all_entries group payloads, ∀ column value,
      zhashx_lookup entry.events column = some value → ∃ n, value = .counter n := by
    intro group entry hentry column value hvalue
    obtain ⟨p, hp, hmem⟩ := List.mem_flatMap.mp hentry
    exact (hsent p hp).counters.value hmem hvalue
  have hheader : HeaderWithoutCallchain (groups_names ctx.config) payloads := by
    intro group _ first hfirst text hcallchain
    obtain ⟨n, hn⟩ := hcounters group.1 first (List.mem_of_mem_head? hfirst) _ _ hcallchain
    exact absurd hn (by simp)
  have hcolumns : ∀ group, ∀ column ∈ columns_of (all_entries group payloads),
      Clean column.toList := by
    intro group column hcolumn
    cases hall : all_entries group payloads with
    | nil =>
        rw [hall] at hcolumn
        exact absurd hcolumn List.not_mem_nil
    | cons first rest =>
        rw [hall] at hcolumn
        obtain ⟨item, hitem, -, hcounted⟩ :=
          counted_entry hreported (hall ▸ List.mem_cons_self : first ∈ all_entries group payloads)
        exact clean_column_names (hclean.events item hitem) column
          (hcounted.mem_keys.mp (mem_sorted_names.mp hcolumn))
  refine ⟨⟨fun p hp => ?_, hcounters, fun group => hproduced.accepted hfits hheader group⟩,
    fun group entry hentry => ?_, fun group entry hentry => ?_, hcolumns,
    fun p hp => (hsent p hp).keyed, fun item hitem entry hentry column hcolumn => ?_⟩
  · refine hproduced.full hfits.path (fun p hp group hgroup => ?_) hp
    obtain ⟨item, hitem, rfl⟩ := List.mem_map.mp hgroup
    exact (hreported p hp).filled item.1 (List.mem_map_of_mem hitem)
  · obtain ⟨p, hp, hmem⟩ := List.mem_flatMap.mp hentry
    obtain ⟨htarget, pkg, hpkg, hsocket, hcpu⟩ :=
      (hsent p hp).entry hready hmem
    obtain ⟨n, -, hn⟩ := hdetected.numbered pkg hpkg entry.cpu hcpu
    refine ⟨hclean.sensor, htarget ▸ hclean.target, hsocket ▸ hclean.pkgs pkg hpkg,
      hn ▸ clean_repr n, fun column hcolumn => (hcolumns group column hcolumn).2⟩
  · obtain ⟨item, -, -, hcounted⟩ := counted_entry hreported hentry
    exact hcounted.nodup
  · cases hall : all_entries item.1 payloads with
    | nil => simp [hall] at hentry
    | cons first rest =>
        obtain ⟨other, hother, hname, hcounted⟩ := counted_entry hreported
          (hall ▸ List.mem_cons_self : first ∈ all_entries item.1 payloads)
        obtain rfl := List.inj_on_of_nodup_map hvalid.groups hother hitem hname
        exact mem_sorted_names.mpr (hcounted.mem_keys.mpr hcolumn)

end Stored

section Run

variable {order order' : hash_order} {config : perf_config}
  {target_name sensor_name output_dir : String} {ctx ctx' : perf_context}
  {start t₀ t t' : kernel} {ticks : List tick} {output : csv_output}

-- What such an actor is set up with, and what it sends on its ticks.
theorem run_reports (hvalid : config.Valid) (hsystem : config.target.cgroup_path = none)
    (hstart : start.wiring.opened = [])
    (hinit : Exec (kernel.step True)
      ( perf_events_groups_initialize order (perf_context_create config target_name))
      start (0, ctx) t₀)
    (henable : Exec (kernel.step True) (perf_events_groups_enable ctx) t₀ () t)
    (hrun : Run (TickStep order) (ctx, t) ticks (ctx', t')) :
    ctx.config = config ∧ ctx.target_name = target_name ∧ t.wiring = t₀.wiring ∧
      ContextReady t.wiring ctx ∧ ∀ p ∈ ticks.flatMap tick.sent, SentReport ctx t.wiring p := by
  have hring := (initialize_ringless hsystem target_name).exec hinit
  have hname : ctx.target_name = target_name := ( initialize_name _).exec hinit
  obtain ⟨hconfig, hready⟩ := exec_initialize_ready hinit hvalid.toKeyed rfl hstart
  have hconfig : ctx.config = config := hconfig
  subst hconfig
  obtain ⟨hoff, hbalanced⟩ := exec_initialize_off hinit hstart
  obtain ⟨hwiring, -, -⟩ := exec_enable_taken hready.sound hready.opened hoff
    hbalanced henable
  rw [← hwiring] at hready
  have hsound := hready.sound
  have hreporting := hrun.history (Reporting ctx t.wiring)
    ⟨SameSetup.refl ctx, rfl, by simp⟩
    fun ls s k s' h hstep => tick_reporting hsound hring h hstep
  exact ⟨rfl, hname, hwiring, hready, hreporting.sent⟩

-- Whatever is counted for an event on a cpu since the counters were enabled is the
-- total that a reader of the file gets, is still held, or was taken by a tick that
-- failed.
theorem csv_accounts_for_counts (hvalid : config.Valid) (hdetected : config.hwinfo.Detected)
    (hsystem : config.target.cgroup_path = none) (hstart : start.wiring.opened = [])
    (hinit : Exec (kernel.step True)
      ( perf_events_groups_initialize order (perf_context_create config target_name))
      start (0, ctx) t₀)
    (henable : Exec (kernel.step True) (perf_events_groups_enable ctx) t₀ () t)
    (hrun : Run (TickStep order) (ctx, t) ticks (ctx', t'))
    (hfits : Fits sensor_name output_dir (groups_names config) (ticks.flatMap tick.sent))
    (hclean : CleanTexts config sensor_name target_name)
    (houtput : store_reports order' (ticks.flatMap tick.sent)
      (csv_context_create sensor_name output_dir) [] = output) :
    (∀ err ∈ output.errors, err = 0) ∧ (ticks.flatMap tick.sent ≠ [] →
      ∀ group pkg cpu name fd, ctx.counter group pkg cpu name = some fd → name ∉ reserved_names →
        ∃ lines table, (outfile_path output.ctx group, lines) ∈ output.files ∧
          read_table lines.flatten = some table ∧
          table.total pkg cpu name + t'.value fd + (ticks.map fun k => k.lost fd).sum =
            t'.counted fd) := by
  obtain ⟨hconfig, hname, hwiring, hready, hsent⟩ :=
    run_reports hvalid hsystem hstart hinit henable hrun
  subst hconfig
  have hopened := hready.opened
  have hsound := hready.sound
  obtain ⟨hoff, hbalanced⟩ := exec_initialize_off hinit hstart
  obtain ⟨-, hbalanced', hzero⟩ := exec_enable_taken (hwiring ▸ hsound) (hwiring ▸ hopened) hoff
    hbalanced henable
  have haccounted := hrun.history (Perf.Accounted ctx t)
    ⟨SameSetup.refl ctx, rfl, hbalanced', by simp [values_sent], by simp⟩
    fun ls s k s' h hstep => tick_accounted hsound h hstep
  have hreadable := readable_of_sent hvalid hdetected hready hsent hfits (hname ▸ hclean)
  refine ⟨(hreadable.storable.stored order' houtput).1, fun hsome group pkg cpu name fd hcounter
    hreserved => ?_⟩
  have hfd := hopened fd (counter_mem hcounter)
  have htaken := haccounted.taken group pkg cpu name fd hcounter hreserved
  have hcounted := haccounted.balanced.counted fd (by rw [haccounted.wiring]; exact hfd)
  rw [hzero fd (hwiring ▸ hfd)] at htaken
  obtain ⟨item, hitem, rfl, hevent⟩ := counter_named hready hcounter
  have hne := entries_ne_nil hvalid hdetected hready hsent hsome hitem
  obtain ⟨lines, table, hfile, hread, htotals⟩ := hreadable.storable.totals order'
    (hreadable.separable item.1) (hreadable.nodup item.1) (hreadable.clean item.1)
    hreadable.keyed hne houtput
  obtain ⟨entry, hentry⟩ := List.exists_mem_of_ne_nil _ hne
  have hcolumn := hreadable.columns item hitem entry hentry name hevent
  refine ⟨lines, table, hfile, hread, ?_⟩
  rw [htotals.total pkg cpu name hcolumn]
  dsimp only [values_sent] at htaken hcounted
  omega

end Run

def core_ticks : List tick :=
  [⟨core_enabled.2, core_failed.2⟩, ⟨core_failed.2, core_sent.2⟩]

def core_stored : csv_output :=
  store_reports in_order (core_ticks.flatMap tick.sent) (csv_context_create "host" "out") []

theorem core_fits : Fits "host" "out" (groups_names core_config)
    (core_ticks.flatMap tick.sent) := by
  have hrows : ∀ group ∈ groups_names core_config,
      ∀ entry ∈ all_entries group.1 (core_ticks.flatMap tick.sent),
        ((csv_row cell_text "host"
          (columns_of (all_entries group.1 (core_ticks.flatMap tick.sent))) entry).map
            List.length).getD 0 < CSV_LINE_BUFFER_SIZE := by
    decide +kernel
  refine ⟨by decide, by decide +kernel, fun group hgroup entry hentry row hrow => ?_⟩
  have hlength := hrows group hgroup entry hentry
  rw [hrow] at hlength
  exact hlength

theorem core_detected : core_config.hwinfo.Detected := by
  refine ⟨by decide, by decide, by decide, by decide, ?_⟩
  intro item hitem cpu_id hcpu
  rw [List.mem_singleton.mp hitem] at hcpu
  simp only [List.mem_cons, List.not_mem_nil, or_false] at hcpu
  rcases hcpu with rfl | rfl
  · exact ⟨0, by decide, rfl⟩
  · exact ⟨1, by decide, rfl⟩

theorem core_clean : CleanTexts core_config "host" "all" :=
  ⟨⟨by decide, by decide⟩, ⟨by decide, by decide⟩,
    fun pkg hpkg => by rw [List.mem_singleton.mp hpkg]; exact ⟨by decide, by decide⟩, by
      intro item hitem event hevent
      rw [List.mem_singleton.mp hitem] at hevent
      simp only [List.mem_cons, List.not_mem_nil, or_false] at hevent
      rcases hevent with rfl | rfl <;> exact ⟨by decide, by decide⟩⟩

theorem csv_accounts_for_counts_core :
    ∃ lines table, (outfile_path core_stored.ctx "core", lines) ∈ core_stored.files ∧
      read_table lines.flatten = some table ∧
      table.total "0" "1" "cycles" + core_sent.2.value 5 +
        (core_ticks.map fun k => k.lost 5).sum = core_sent.2.counted 5 :=
  (csv_accounts_for_counts core_valid core_detected rfl rfl (core_setup_exec True)
    core_enabled_exec core_sent_run core_fits core_clean rfl).2 (by decide) "core" "0" "1" "cycles"
    5 (by decide) (by decide)

end HwpcSensor.Sensor
