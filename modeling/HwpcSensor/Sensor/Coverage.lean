import HwpcSensor.Hwinfo.Machine
import HwpcSensor.Sensor.Pipeline

namespace HwpcSensor

namespace Perf

open Interaction Syscall

variable {ctx : perf_context} {w : wiring} {p : payload}

-- A report has data for the cpus that a group is set up on, and for no others.
theorem SentReport.cpu_data_isSome (h : SentReport ctx w p) (hready : ContextReady w ctx)
    {item : String × events_group} (hitem : item ∈ ctx.config.events_groups) (pkg cpu : String) :
    (p.cpu_data item.1 pkg cpu).isSome ↔ ∃ hwinfo_pkg,
      zhashx_lookup ctx.config.hwinfo.pkgs pkg = some hwinfo_pkg ∧
        cpu ∈ selected_cpus item.2 hwinfo_pkg := by
  obtain ⟨t, t', rfl, hcollected⟩ := h.collected
  obtain ⟨group_data, hgroup, group_ctx, ⟨-, hpkgs⟩, hgroup_collected⟩ :=
    (hready.built.trans hcollected).entry item hitem
  have hbuilt := hpkgs.trans hgroup_collected
  rw [payload.cpu_data, hgroup, Option.bind_some]
  cases hpkg : zhashx_lookup ctx.config.hwinfo.pkgs pkg with
  | none =>
      have hdata : zhashx_lookup group_data.pkgs pkg = none := by
        rw [zhashx_lookup_eq_none_iff, hbuilt.keys]
        exact zhashx_lookup_eq_none_iff.mp hpkg
      simp [hdata]
  | some hwinfo_pkg =>
      have hmem := mem_of_zhashx_lookup hpkg
      obtain ⟨pkg_data, hdata, pkg_ctx, hcpus, hpkg_collected⟩ := hbuilt.entry _ hmem
      have hkeys := (hcpus.trans hpkg_collected).keys
      simp only [List.map_id] at hkeys
      rw [show zhashx_lookup group_data.pkgs pkg = some pkg_data from hdata, Option.bind_some]
      simp only [Option.some.injEq, exists_eq_left', ← hkeys]
      rw [← not_iff_not, ← zhashx_lookup_eq_none_iff, Option.not_isSome_iff_eq_none]

end Perf

namespace Sensor

open Interaction Perf Storage Syscall Transition

-- What the rows of a cpu start with.
def row_key (sensor_name target_name pkg cpu : String) (p : payload) : List (List Char) :=
  [decimal p.timestamp, sensor_name.toList, target_name.toList, pkg.toList, cpu.toList]

theorem rows_of_cpu {sensor_name target_name : String} {columns : List String}
    {payloads : List payload} (hkeyed : ∀ p ∈ payloads, p.Keyed)
    (hname : ∀ p ∈ payloads, p.target_name = target_name) (group pkg cpu : String) {on : Prop}
    [Decidable on] (hon : ∀ p ∈ payloads, (p.cpu_data group pkg cpu).isSome ↔ on) :
    (((all_entries group payloads).filter fun entry => entry.socket = pkg ∧ entry.cpu = cpu).map
        fun entry => (entry_fields sensor_name columns entry).take header_fields.length) =
      if on then payloads.map (row_key sensor_name target_name pkg cpu) else [] := by
  induction payloads with
  | nil => simp [all_entries]
  | cons first rest ih =>
      obtain ⟨hfirst, hrest⟩ := List.forall_mem_cons.mp hkeyed
      have hfirst_on := hon first List.mem_cons_self
      rw [all_entries, List.flatMap_cons, List.filter_append, List.map_append,
        entries_of_cpu hfirst]
      rw [show rest.flatMap (payload_entries group) = all_entries group rest from rfl,
        ih hrest (fun p hp => hname p (List.mem_cons_of_mem _ hp))
          (fun p hp => hon p (List.mem_cons_of_mem _ hp))]
      by_cases h : on
      · obtain ⟨data, hdata⟩ := Option.isSome_iff_exists.mp (hfirst_on.mpr h)
        rw [if_pos h, if_pos h, hdata, List.map_cons, row_key, ← hname first List.mem_cons_self]
        rfl
      · have hnone : first.cpu_data group pkg cpu = none :=
          Option.not_isSome_iff_eq_none.mp fun hsome => h (hfirst_on.mp hsome)
        rw [if_neg h, if_neg h, hnone]
        rfl

section Run

variable {order order' order_detect order_config : hash_order} {sysfs : sysfs_cpus}
  {package : String → Option (List Char)} {entries : List dirent} {hwinfo : hwinfo}
  {groups : zhashx events_group} {target : target} {callchain_frequency : Nat}
  {target_name sensor_name output_dir : String} {ctx ctx' : perf_context}
  {start t₀ t t' : kernel} {ticks : List tick} {output : csv_output}

-- From the listing of the machine to the files: each group has in its file one row
-- for each report and each of the online cpus that it is monitored on, in the order
-- of the reports, and no other rows.
theorem csv_rows_cover_machine (hmachine : Machine sysfs package entries)
    (hdetect : do_packages_detection order_detect sysfs hwinfo_create = (0, hwinfo))
    (hgroups : (zhashx_keys groups).Nodup) (hsystem : target.cgroup_path = none)
    (hstart : start.wiring.opened = [])
    (hinit : Exec (kernel.step True)
      ( perf_events_groups_initialize order (perf_context_create
        (perf_config_create order_config hwinfo groups target callchain_frequency) target_name))
      start (0, ctx) t₀)
    (henable : Exec (kernel.step True) (perf_events_groups_enable ctx) t₀ () t)
    (hrun : Run (TickStep order) (ctx, t) ticks (ctx', t'))
    (hfits : Fits sensor_name output_dir (groups_names ctx.config) (ticks.flatMap tick.sent))
    (hclean : CleanTexts ctx.config sensor_name target_name)
    (houtput : store_reports order' (ticks.flatMap tick.sent)
      (csv_context_create sensor_name output_dir) [] = output)
    (hsome : ticks.flatMap tick.sent ≠ []) {item : String × events_group} (hitem : item ∈ groups) :
    ∃ lines table, (outfile_path output.ctx item.1, lines) ∈ output.files ∧
      read_table lines.flatten = some table ∧ ∀ pkg cpu,
        (table.of_cpu pkg cpu).map (·.take header_fields.length) =
          if cpu ∈ selected_cpus item.2 ⟨reporting_cpus sysfs package entries pkg⟩ then
            (ticks.flatMap tick.sent).map (row_key sensor_name target_name pkg cpu)
          else [] := by
  obtain ⟨found, hfound, hdetected, hlookup⟩ := hmachine.detected order_detect
  obtain rfl : found = hwinfo := (Prod.mk.inj (hfound.symm.trans hdetect)).2
  have hdup := hdetected.dup order_config
  have hpkgs := zhashx_dup_perm order_config hdetected.pkgs
  have hperm := zhashx_dup_perm order_config hgroups
  have hvalid : (perf_config_create order_config found groups target callchain_frequency).Valid :=
    ⟨⟨(hperm.map Prod.fst).nodup_iff.mpr hgroups, hdup.pkgs⟩, hdup.cpus⟩
  obtain ⟨hconfig, hname, -, hready, hsent⟩ :=
    run_reports hvalid hsystem hstart hinit henable hrun
  rw [← hconfig] at hvalid
  have hdetected' : ctx.config.hwinfo.Detected := hconfig ▸ hdup
  have hitem' : item ∈ ctx.config.events_groups := by
    rw [hconfig]
    exact hperm.mem_iff.mpr hitem
  have hreadable := readable_of_sent hvalid hdetected' hready hsent hfits (hname ▸ hclean)
  have hne := entries_ne_nil hvalid hdetected' hready hsent hsome hitem'
  obtain ⟨lines, ⟨names, rows⟩, hfile, hread, htotals⟩ := hreadable.storable.totals order'
    (hreadable.separable item.1) (hreadable.nodup item.1) (hreadable.clean item.1)
    hreadable.keyed hne houtput
  obtain rfl : rows = _ := htotals.rows
  refine ⟨lines, _, hfile, hread, fun pkg cpu => ?_⟩
  rw [of_cpu_entries, List.map_map]
  refine rows_of_cpu hreadable.keyed (fun p hp => (hsent p hp).target_name.trans hname) item.1 pkg
    cpu fun p hp => ?_
  have hlists : zhashx_lookup ctx.config.hwinfo.pkgs pkg =
      lists_cpus (reporting_cpus sysfs package entries pkg) := by
    rw [hconfig, ← hlookup]
    exact zhashx_lookup_perm hpkgs hdup.pkgs pkg
  rw [(hsent p hp).cpu_data_isSome hready hitem', hlists, lists_cpus]
  by_cases hempty : reporting_cpus sysfs package entries pkg = []
  · rw [if_pos hempty, hempty]
    refine iff_of_false (by simp) fun hcpu => ?_
    exact List.not_mem_nil (selected_subset hcpu)
  · simp [hempty]

end Run

def two_cores : sysfs_cpus where
  entries := some [⟨DT_LNK, "cpu0"⟩, ⟨DT_LNK, "cpu1"⟩]
  online := fun _ => none
  physical_package_id := fun _ => some ['0', '\n']

theorem two_cores_machine : Machine two_cores (fun _ => some ['0'])
    [⟨DT_LNK, "cpu0"⟩, ⟨DT_LNK, "cpu1"⟩] := by
  refine ⟨rfl, ⟨fun _ => rfl, ?_⟩, by decide, ?_, ?_, ⟨_, List.mem_cons_self, by decide⟩⟩
  · rintro cpu_dir _ ⟨⟩
    exact ⟨List.cons_ne_nil _ _, List.forall_mem_singleton.mpr rfl⟩
  · rintro entry hentry ⟨-, htype⟩
    rcases List.mem_pair.mp hentry with rfl | rfl <;> exact htype rfl
  · intro entry hentry _
    refine ⟨?_, ['0'], rfl, by decide⟩
    rcases List.mem_pair.mp hentry with rfl | rfl
    · exact ⟨0, by decide, by decide⟩
    · exact ⟨1, by decide, by decide⟩

def core_item : String × events_group :=
  core_config.events_groups.head (List.cons_ne_nil _ _)

theorem csv_rows_cover_machine_core : ∃ lines table,
    (outfile_path core_stored.ctx core_item.1, lines) ∈ core_stored.files ∧
      read_table lines.flatten = some table ∧ ∀ pkg cpu,
        (table.of_cpu pkg cpu).map (·.take header_fields.length) =
          if cpu ∈ selected_cpus core_item.2 ⟨reporting_cpus two_cores (fun _ => some ['0'])
              [⟨DT_LNK, "cpu0"⟩, ⟨DT_LNK, "cpu1"⟩] pkg⟩ then
            (core_ticks.flatMap tick.sent).map (row_key "host" "all" pkg cpu)
          else [] := by
  have hconfig : core_setup.1.2.config = core_config := rfl
  have hdetect : do_packages_detection in_order two_cores hwinfo_create =
    (0, core_config.hwinfo) := rfl
  have hinit : Exec (kernel.step True)
      ( perf_events_groups_initialize in_order (perf_context_create
        (perf_config_create in_order core_config.hwinfo core_config.events_groups
          core_config.target 0) "all"))
      idle (0, core_setup.1.2) core_setup.2 := core_setup_exec True
  exact csv_rows_cover_machine two_cores_machine hdetect (by decide) rfl rfl hinit
    core_enabled_exec core_sent_run (hconfig ▸ core_fits) (hconfig ▸ core_clean) rfl (by decide)
    (List.head_mem _)

end Sensor

end HwpcSensor
