import HwpcSensor.Storage.Csv.Invariant

namespace HwpcSensor.Storage

open Interaction

section

variable (order : hash_order) {files : csv_files} {history : String → List report_entry}
  {group : String}

-- A group without a file gets an empty one.
theorem Consistent.open {ctx : csv_context} (h : Consistent ctx files history)
    (hnone : zhashx_lookup ctx.groups_fd group = none) :
    Consistent
      { ctx with groups_fd := zhashx_insert order ctx.groups_fd group files.length }
      (files ++ [(outfile_path ctx group, [])]) history := by
  have hlookup : ∀ other, zhashx_lookup (zhashx_insert order ctx.groups_fd group files.length)
      other = if group = other then some files.length else zhashx_lookup ctx.groups_fd other := by
    intro other
    rw [zhashx_lookup_insert order h.fd_nodup, hnone]
    rfl
  refine ⟨nodup_zhashx_insert order h.fd_nodup _ _, h.events_nodup, ?_, fun other => ?_,
    fun other hother => ?_⟩
  · rw [List.map_append, List.map_cons, List.map_nil, List.nodup_append]
    refine ⟨h.paths_nodup, List.nodup_singleton _, fun path hpath other hother => ?_⟩
    rw [List.mem_singleton.mp hother]
    rintro rfl
    exact h.unopened group hnone hpath
  · by_cases heq : group = other
    · subst heq
      have hrecorded := h.recorded group
      cases hhistory : history group with
      | nil =>
          rw [hhistory] at hrecorded
          refine ⟨hrecorded.1, fun file hfile => ?_⟩
          rw [hlookup, if_pos rfl] at hfile
          obtain rfl := Option.some.inj hfile
          simp [outfile_path]
      | cons first rest =>
          rw [hhistory] at hrecorded
          obtain ⟨file, -, hfile, -⟩ := hrecorded
          exact absurd (hnone.symm.trans hfile) (by simp)
    · refine (h.recorded other).frame rfl ((hlookup other).trans (if_neg heq)) rfl ?_
      intro file hfile
      obtain ⟨lines, hlines⟩ := (h.recorded other).file_eq hfile
      exact List.getElem?_append_left (List.getElem?_eq_some_iff.mp hlines).1
  · rw [hlookup] at hother
    split_ifs at hother with heq
    rw [List.map_append, List.mem_append, not_or]
    refine ⟨h.unopened other hother, ?_⟩
    simp only [List.map_cons, List.map_nil, List.mem_singleton]
    exact fun hpath => heq (outfile_path_injective hpath).symm

theorem group_outfile_spec {s : store_state} (h : Consistent s.ctx files history)
    (hpath : (outfile_path s.ctx group).length < PATH_MAX) :
    ∃ file s' files', (group_outfile order group s).run csv_files.handler files =
        ((some file, s'), files') ∧
      Consistent s'.ctx files' history ∧ zhashx_lookup s'.ctx.groups_fd group = some file ∧
      s'.ctx.config = s.ctx.config ∧
      (∀ other, other ≠ group →
        zhashx_lookup s'.ctx.groups_fd other = zhashx_lookup s.ctx.groups_fd other) ∧
      s'.write_header = (s.write_header || (zhashx_lookup s.ctx.groups_fd group).isNone) := by
  cases hfile : zhashx_lookup s.ctx.groups_fd group with
  | some file =>
      refine ⟨file, s, files, ?_, h, hfile, rfl, fun _ _ => rfl, by simp⟩
      rw [group_outfile, hfile]
      rfl
  | none =>
      have hopened := h.open order hfile
      have hlookup : zhashx_lookup (zhashx_insert order s.ctx.groups_fd group files.length) group =
          some files.length := by
        rw [zhashx_lookup_insert order h.fd_nodup, if_pos rfl, hfile]
        rfl
      refine ⟨files.length, ⟨_, true⟩, _, ?_, hopened, hlookup, rfl, ?_, by simp⟩
      · simp only [group_outfile, hfile]
        rw [Prog.run_bind, run_open_group_outfile order hpath (h.unopened group hfile)]
        dsimp only
        rw [if_neg (by decide), Prog.run_pure, hlookup]
      · intro other hother
        exact (zhashx_lookup_insert order h.fd_nodup _ _ other).trans (if_neg hother.symm)

-- Between two groups of a report each file has got its header.
structure Settled (s : store_state) (files : csv_files)
    (history : String → List report_entry) : Prop where
  consistent : Consistent s.ctx files history
  flag : s.write_header = false
  complete : ∀ group file, zhashx_lookup s.ctx.groups_fd group = some file → history group ≠ []
  filled : ∀ group, ∀ entry ∈ history group, entry.events ≠ []

theorem settled_create (sensor_name output_dir : String) :
    Settled ⟨csv_context_create sensor_name output_dir, false⟩ [] fun _ => [] := by
  refine ⟨consistent_create sensor_name output_dir, rfl, fun group file hfile => ?_,
    fun group entry hentry => absurd hentry (by simp)⟩
  exact absurd hfile (by simp [csv_context_create, zhashx_lookup])

theorem store_group_spec {s : store_state} (h : Settled s files history)
    (hpath : (outfile_path s.ctx group).length < PATH_MAX) (timestamp : Nat)
    (target : String) (pkgs : zhashx payload_pkg_data)
    (hsome : group_entries timestamp target pkgs ≠ [])
    (hne : ∀ entry ∈ group_entries timestamp target pkgs, entry.events ≠ []) :
    ∃ file s' files', (group_outfile order group s).run csv_files.handler files =
        ((some file, s'), files') ∧
      ∀ result, (store_pkgs order group file timestamp target pkgs s').run csv_files.handler
          files' = result →
        (result.1.1 = 0 →
          Settled result.1.2 result.2 (Function.update history group
            (history group ++ group_entries timestamp target pkgs)) ∧
          result.1.2.ctx.config = s.ctx.config) ∧
        (Accepted s.ctx.config.sensor_name
          (history group ++ group_entries timestamp target pkgs) → result.1.1 = 0) := by
  obtain ⟨file, s', files', hrun, hconsistent, hfile, hconfig, hothers, hflag⟩ :=
    group_outfile_spec order h.consistent hpath
  refine ⟨file, s', files', hrun, fun result hresult => ?_⟩
  have hready : Ready s' files' history group file := by
    refine ⟨hconsistent, hfile, ?_, h.filled group⟩
    rw [hflag, h.flag, Bool.false_or]
    cases hold : zhashx_lookup s.ctx.groups_fd group with
    | none =>
        have hrecorded := h.consistent.recorded group
        cases hhistory : history group with
        | nil => rfl
        | cons first rest =>
            rw [hhistory] at hrecorded
            obtain ⟨file, -, hfile, -⟩ := hrecorded
            exact absurd (hold.symm.trans hfile) (by simp)
    | some old =>
        cases hhistory : history group with
        | nil => exact absurd hhistory (h.complete group old hold)
        | cons first rest => rfl
  obtain ⟨hextended, haccepted⟩ := stores_pkgs order timestamp target pkgs hne s' files' history
    hready result hresult
  rw [hconfig] at haccepted
  refine ⟨fun hzero => ?_, haccepted⟩
  have hafter := hextended hzero
  refine ⟨⟨hafter.consistent, ?_, ?_, ?_⟩, hafter.config_eq.trans hconfig⟩
  · rw [hafter.flag]
    simp [hsome]
  · intro other file' hfile'
    by_cases heq : other = group
    · subst heq
      rw [Function.update_self]
      simp [hsome]
    · rw [Function.update_of_ne heq]
      rw [hafter.fd_eq, hothers other heq] at hfile'
      exact h.complete other file' hfile'
  · intro other entry hentry
    by_cases heq : other = group
    · subst heq
      rw [Function.update_self] at hentry
      exact (List.mem_append.mp hentry).elim (h.filled other entry) (hne entry)
    · rw [Function.update_of_ne heq] at hentry
      exact h.filled other entry hentry

theorem outfile_path_congr {ctx ctx' : csv_context} (h : ctx'.config = ctx.config)
    (group : String) : outfile_path ctx' group = outfile_path ctx group := by
  rw [outfile_path, outfile_path, h]

theorem entries_in_cons (timestamp : Nat) (target : String)
    {item : String × payload_group_data} {rest : zhashx payload_group_data}
    (hnodup : (zhashx_keys (item :: rest)).Nodup) (history : String → List report_entry) :
    (fun group => Function.update history item.1
        (history item.1 ++ group_entries timestamp target item.2.pkgs) group ++
      entries_in timestamp target rest group) =
    fun group => history group ++ entries_in timestamp target (item :: rest) group := by
  have hnot : item.1 ∉ zhashx_keys rest := (List.nodup_cons.mp hnodup).1
  funext group
  by_cases heq : group = item.1
  · subst heq
    rw [Function.update_self, entries_in, entries_in, zhashx_lookup_eq_none_iff.mpr hnot,
      zhashx_lookup_cons, if_pos rfl]
    exact List.append_nil _
  · rw [Function.update_of_ne heq, entries_in, entries_in, zhashx_lookup_cons,
      if_neg (Ne.symm heq)]

-- A report in which every group has entries.
theorem store_groups_spec (timestamp : Nat) (target : String)
    (groups : zhashx payload_group_data) (hnodup : (zhashx_keys groups).Nodup)
    (hsome : ∀ item ∈ groups, group_entries timestamp target item.2.pkgs ≠ [])
    (hne : ∀ item ∈ groups, ∀ entry ∈ group_entries timestamp target item.2.pkgs,
      entry.events ≠ []) {s : store_state} (h : Settled s files history)
    (hpath : ∀ item ∈ groups, (outfile_path s.ctx item.1).length < PATH_MAX)
    {result : (Int × store_state) × csv_files}
    (hresult : (store_groups order timestamp target groups s).run csv_files.handler files =
      result) :
    (result.1.1 = 0 →
      Settled result.1.2 result.2
        (fun group => history group ++ entries_in timestamp target groups group) ∧
      result.1.2.ctx.config = s.ctx.config) ∧
    ((∀ item ∈ groups, Accepted s.ctx.config.sensor_name
      (history item.1 ++ entries_in timestamp target groups item.1)) → result.1.1 = 0) := by
  induction groups generalizing s files history with
  | nil =>
      subst hresult
      refine ⟨fun _ => ⟨?_, rfl⟩, fun _ => rfl⟩
      have hhistory : (fun group => history group ++ entries_in timestamp target [] group) =
          history := by
        funext group
        exact List.append_nil _
      rw [hhistory]
      exact h
  | cons item rest ih =>
      obtain ⟨file, s', files', hrun, hstored⟩ := store_group_spec order h
        (hpath item List.mem_cons_self) timestamp target item.2.pkgs
        (hsome item List.mem_cons_self) (hne item List.mem_cons_self)
      obtain ⟨hsettled, haccepted⟩ := hstored _ rfl
      have hentries := entries_in_cons timestamp target hnodup history
      rw [store_groups, Prog.run_bind, hrun] at hresult
      dsimp only at hresult
      rw [Prog.run_bind] at hresult
      generalize (store_pkgs order item.1 file timestamp target item.2.pkgs s').run
        csv_files.handler files' = stored at hsettled haccepted hresult
      by_cases herr : stored.1.1 = 0
      · rw [if_neg (by simpa using herr)] at hresult
        obtain ⟨hafter, hconfig⟩ := hsettled herr
        obtain ⟨hsettled', haccepted'⟩ := ih (List.nodup_cons.mp hnodup).2
          (fun other hother => hsome other (List.mem_cons_of_mem _ hother))
          (fun other hother => hne other (List.mem_cons_of_mem _ hother)) hafter
          (fun other hother => by
            rw [outfile_path_congr hconfig]
            exact hpath other (List.mem_cons_of_mem _ hother)) hresult
        rw [hentries, hconfig] at hsettled'
        refine ⟨hsettled', fun hall => haccepted' fun other hother => ?_⟩
        rw [hconfig, congrFun hentries other.1]
        exact hall other (List.mem_cons_of_mem _ hother)
      · rw [if_pos herr, Prog.run_pure] at hresult
        subst hresult
        refine ⟨of_failed, fun hall => absurd (haccepted ?_) herr⟩
        have hitem := hall item List.mem_cons_self
        rwa [entries_in, zhashx_lookup_cons, if_pos rfl] at hitem

-- Parts of a report without entries write nothing.
theorem run_store_pkgs_empty (timestamp : Nat) (target : String) (file : Nat)
    (pkgs : zhashx payload_pkg_data) (hempty : group_entries timestamp target pkgs = [])
    (s : store_state) (files : csv_files) :
    (store_pkgs order group file timestamp target pkgs s).run csv_files.handler files =
      ((0, s), files) := by
  induction pkgs with
  | nil => rfl
  | cons pkg rest ih =>
      rw [group_entries, List.flatMap_cons, List.append_eq_nil_iff] at hempty
      have hcpus : pkg.2.cpus = [] := List.map_eq_nil_iff.mp hempty.1
      rw [store_pkgs, hcpus, store_cpus, Prog.run_bind, Prog.run_pure]
      dsimp only
      rw [if_neg (by decide)]
      exact ih hempty.2

theorem store_groups_empty_spec (timestamp : Nat) (target : String)
    (groups : zhashx payload_group_data)
    (hempty : ∀ item ∈ groups, group_entries timestamp target item.2.pkgs = [])
    {s : store_state} (h : Consistent s.ctx files fun _ => [])
    (hpath : ∀ item ∈ groups, (outfile_path s.ctx item.1).length < PATH_MAX) :
    ∃ s' files', (store_groups order timestamp target groups s).run csv_files.handler files =
        ((0, s'), files') ∧
      Consistent s'.ctx files' (fun _ => []) ∧ s'.ctx.config = s.ctx.config := by
  induction groups generalizing s files with
  | nil => exact ⟨s, files, rfl, h, rfl⟩
  | cons item rest ih =>
      obtain ⟨file, s', files', hrun, hconsistent, -, hconfig, -, -⟩ :=
        group_outfile_spec order h (hpath item List.mem_cons_self)
      obtain ⟨s'', files'', hrest, hlast⟩ := ih
        (fun other hother => hempty other (List.mem_cons_of_mem _ hother)) hconsistent
        (fun other hother => by
          rw [outfile_path_congr hconfig]
          exact hpath other (List.mem_cons_of_mem _ hother))
      refine ⟨s'', files'', ?_, hlast.1, hlast.2.trans hconfig⟩
      rw [store_groups, Prog.run_bind, hrun]
      dsimp only
      rw [Prog.run_bind, run_store_pkgs_empty order timestamp target file item.2.pkgs
        (hempty item List.mem_cons_self)]
      dsimp only
      rw [if_neg (by decide)]
      exact hrest

-- What is asked of a report whose groups all have entries.
structure Full (ctx : csv_context) (payload : payload) : Prop where
  nodup : (zhashx_keys payload.groups).Nodup
  some_entry : ∀ item ∈ payload.groups,
    group_entries payload.timestamp payload.target_name item.2.pkgs ≠ []
  filled : ∀ item ∈ payload.groups,
    ∀ entry ∈ group_entries payload.timestamp payload.target_name item.2.pkgs, entry.events ≠ []
  path : ∀ item ∈ payload.groups, (outfile_path ctx item.1).length < PATH_MAX

theorem store_reports_spec (payloads : List payload) {ctx : csv_context}
    (h : Settled ⟨ctx, false⟩ files history) (hfull : ∀ payload ∈ payloads, Full ctx payload)
    {output : csv_output} (houtput : store_reports order payloads ctx files = output) :
    ((∀ err ∈ output.errors, err = 0) →
      Settled ⟨output.ctx, false⟩ output.files
        (fun group => history group ++ all_entries group payloads) ∧
      output.ctx.config = ctx.config) ∧
    ((∀ group, Accepted ctx.config.sensor_name (history group ++ all_entries group payloads)) →
      ∀ err ∈ output.errors, err = 0) := by
  induction payloads generalizing ctx files history output with
  | nil =>
      subst houtput
      refine ⟨fun _ => ⟨?_, rfl⟩, fun _ err herr => absurd herr (by simp [store_reports])⟩
      have hhistory : (fun group => history group ++ all_entries group []) = history := by
        funext group
        exact List.append_nil _
      rw [hhistory]
      exact h
  | cons payload rest ih =>
      have hpayload := hfull payload List.mem_cons_self
      obtain ⟨hsettled, haccepted⟩ := store_groups_spec order payload.timestamp
        payload.target_name payload.groups hpayload.nodup hpayload.some_entry hpayload.filled h
        hpayload.path rfl
      subst houtput
      rw [store_reports, csv_store_report, Prog.run_bind]
      dsimp only [Prog.run_pure]
      generalize (store_groups order payload.timestamp payload.target_name payload.groups
        ⟨ctx, false⟩).run csv_files.handler files = stored at hsettled haccepted ⊢
      have hall : ∀ group, history group ++ all_entries group (payload :: rest) =
          history group ++ payload_entries group payload ++ all_entries group rest := by
        intro group
        rw [all_entries, List.flatMap_cons, List.append_assoc]
        rfl
      have hnext := fun hzero : stored.1.1 = 0 => ih
        ⟨(hsettled hzero).1.consistent, rfl, (hsettled hzero).1.complete,
          (hsettled hzero).1.filled⟩
        (fun other hother => by
          have hother' := hfull other (List.mem_cons_of_mem _ hother)
          refine ⟨hother'.nodup, hother'.some_entry, hother'.filled, fun item hitem => ?_⟩
          rw [outfile_path_congr (hsettled hzero).2]
          exact hother'.path item hitem) rfl
      simp only [List.mem_cons, forall_eq_or_imp, hall]
      refine ⟨fun herrs => ?_, fun hacc => ?_⟩
      · obtain ⟨hlast, hconfig⟩ := (hnext herrs.1).1 herrs.2
        exact ⟨hlast, hconfig.trans (hsettled herrs.1).2⟩
      · have hzero := haccepted fun item _ => (hacc item.1).of_append
        refine ⟨hzero, (hnext hzero).2 fun group => ?_⟩
        rw [(hsettled hzero).2]
        exact hacc group

theorem store_reports_empty_spec (payloads : List payload) {ctx : csv_context}
    (h : Consistent ctx files fun _ => [])
    (hempty : ∀ payload ∈ payloads, ∀ item ∈ payload.groups,
      group_entries payload.timestamp payload.target_name item.2.pkgs = [])
    (hpath : ∀ payload ∈ payloads, ∀ item ∈ payload.groups,
      (outfile_path ctx item.1).length < PATH_MAX)
    {output : csv_output} (houtput : store_reports order payloads ctx files = output) :
    (∀ err ∈ output.errors, err = 0) ∧ Consistent output.ctx output.files (fun _ => []) := by
  induction payloads generalizing ctx files output with
  | nil =>
      subst houtput
      exact ⟨fun err herr => absurd herr (by simp [store_reports]), h⟩
  | cons payload rest ih =>
      obtain ⟨s', files', hrun, hconsistent, hconfig⟩ := store_groups_empty_spec order
        payload.timestamp payload.target_name payload.groups (hempty payload List.mem_cons_self)
        (s := ⟨ctx, false⟩) h (hpath payload List.mem_cons_self)
      obtain ⟨herrs, hlast⟩ := ih hconsistent
        (fun other hother => hempty other (List.mem_cons_of_mem _ hother))
        (fun other hother item hitem => by
          rw [outfile_path_congr hconfig]
          exact hpath other (List.mem_cons_of_mem _ hother) item hitem) rfl
      subst houtput
      rw [store_reports, csv_store_report, Prog.run_bind, hrun]
      refine ⟨fun err herr => ?_, hlast⟩
      rcases List.mem_cons.mp herr with rfl | herr
      · rfl
      · exact herrs err herr

end

end HwpcSensor.Storage
