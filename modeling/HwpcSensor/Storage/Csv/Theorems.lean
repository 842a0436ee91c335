import HwpcSensor.Storage.Csv.Run

namespace HwpcSensor.Storage

open Interaction

section Cells

variable {f g : event_value → List Char} {events : zhashx event_value}

theorem cells_congr {columns : List String}
    (h : ∀ column ∈ columns, ∀ value, zhashx_lookup events column = some value →
      f value = g value) : cells f events columns = cells g events columns := by
  induction columns with
  | nil => rfl
  | cons column rest ih =>
      have hrest := ih fun other hother => h other (List.mem_cons_of_mem _ hother)
      cases hvalue : zhashx_lookup events column with
      | none => simp [cells, hvalue]
      | some value =>
          have heq := h column List.mem_cons_self value hvalue
          simp only [cells, hvalue, hrest]
          cases cells g events rest with
          | none => rfl
          | some text => simp only [heq]

theorem cells_isSome {columns : List String}
    (h : ∀ column ∈ columns, column ∈ zhashx_keys events) :
    ∃ text, cells f events columns = some text := by
  induction columns with
  | nil => exact ⟨[], rfl⟩
  | cons column rest ih =>
      obtain ⟨text, htext⟩ := ih fun other hother => h other (List.mem_cons_of_mem _ hother)
      obtain ⟨value, hvalue⟩ := zhashx_lookup_of_mem_keys (h column List.mem_cons_self)
      exact ⟨',' :: f value ++ text, by simp only [cells, hvalue, htext]⟩

-- Two renderings that can only differ in one column agree on a row when they
-- agree in that column.
theorem cells_column_eq {columns : List String} (hnodup : columns.Nodup) {column : String}
    (hcolumn : column ∈ columns) {value : event_value}
    (hvalue : zhashx_lookup events column = some value)
    (hother : ∀ other ∈ columns, other ≠ column → ∀ v, zhashx_lookup events other = some v →
      f v = g v) {text : List Char} (hf : cells f events columns = some text)
    (hg : cells g events columns = some text) : f value = g value := by
  induction columns generalizing text with
  | nil => simp at hcolumn
  | cons first rest ih =>
      have hnot := (List.nodup_cons.mp hnodup).1
      by_cases heq : first = column
      · subst heq
        have hrest : cells f events rest = cells g events rest :=
          cells_congr fun other hmem v hv => hother other (List.mem_cons_of_mem _ hmem)
            (fun he => hnot (he ▸ hmem)) v hv
        simp only [cells, hvalue, hrest] at hf hg
        cases htail : cells g events rest with
        | none => simp [htail] at hg
        | some tail =>
            simp only [htail, Option.some.injEq] at hf hg
            rw [← hg] at hf
            exact List.append_cancel_right (List.cons.inj hf).2
      · have hmem : column ∈ rest := (List.mem_cons.mp hcolumn).resolve_left (Ne.symm heq)
        cases hfirst : zhashx_lookup events first with
        | none => simp [cells, hfirst] at hf
        | some v =>
            have hv := hother first List.mem_cons_self heq v hfirst
            simp only [cells, hfirst] at hf hg
            cases hftail : cells f events rest with
            | none => simp [hftail] at hf
            | some ftail =>
                cases hgtail : cells g events rest with
                | none => simp [hgtail] at hg
                | some gtail =>
                    simp only [hftail, hgtail, Option.some.injEq] at hf hg
                    rw [← hg, hv] at hf
                    have htails := List.append_cancel_left (List.cons.inj hf).2
                    subst htails
                    exact ih (List.nodup_cons.mp hnodup).2 hmem
                      (fun other ho => hother other (List.mem_cons_of_mem _ ho)) hftail hgtail

end Cells

-- A decimal number is no callchain.
theorem decimal_ne_callchain (value : Nat) {text : List Char} (h : CallchainText text) :
    text ≠ decimal value := by
  rintro rfl
  rcases h with hnil | hlast
  · exact absurd hnil (Nat.toDigits_ne_nil)
  · have hdigit := Nat.isDigit_of_mem_toDigits (by decide) (by decide)
      (List.mem_of_getLast? hlast)
    exact absurd hdigit (by decide)

section Measured

variable {names : List String} {events : zhashx event_value}

theorem Measured.lookup_counter (h : Measured names events) {key : String}
    (hkey : key ∈ "time_enabled" :: "time_running" :: names) :
    ∃ value, zhashx_lookup events key = some (.counter value) := by
  obtain ⟨-, values, text, -, hlookup⟩ := h
  exact ⟨values key, by rw [hlookup, if_pos hkey]⟩

theorem Measured.mem_keys (h : Measured names events) {key : String}
    (hkey : key ∈ "time_enabled" :: "time_running" :: names) : key ∈ zhashx_keys events := by
  obtain ⟨value, hvalue⟩ := h.lookup_counter hkey
  exact mem_zhashx_keys_of_lookup hvalue

theorem Measured.ne_nil (h : Measured names events) : events ≠ [] := by
  rintro rfl
  exact absurd (h.mem_keys List.mem_cons_self) (by simp [zhashx_keys])

-- A value that is no counter is the callchain of the entry.
theorem Measured.lookup_callchain (h : Measured names events) {key : String} {text : List Char}
    (hvalue : zhashx_lookup events key = some (.callchain text)) :
    key = "callchain" ∧ CallchainText text := by
  obtain ⟨-, values, chain, hchain, hlookup⟩ := h
  rw [hlookup] at hvalue
  split_ifs at hvalue with hnamed hkey
  · exact absurd (Option.some.inj hvalue) (by simp)
  · refine ⟨hkey, ?_⟩
    obtain ⟨t, ht, htext⟩ := Option.map_eq_some_iff.mp hvalue
    cases htext
    exact hchain text ht

-- Without a callchain there are no other keys than the named ones.
theorem Measured.keys_named (h : Measured names events)
    (hnone : ∀ text, zhashx_lookup events "callchain" ≠ some (.callchain text)) {key : String}
    (hkey : key ∈ zhashx_keys events) : key ∈ "time_enabled" :: "time_running" :: names := by
  refine Classical.byContradiction fun hnot => ?_
  obtain ⟨value, hvalue⟩ := zhashx_lookup_of_mem_keys hkey
  obtain ⟨-, values, chain, hchain, hlookup⟩ := h
  have hvalue' := hvalue
  rw [hlookup, if_neg hnot] at hvalue'
  split_ifs at hvalue' with hcallchain
  obtain ⟨text, -, rfl⟩ := Option.map_eq_some_iff.mp hvalue'
  exact hnone text (hcallchain ▸ hvalue)

end Measured

theorem cell_text_eq {value : event_value} (h : ∀ text, value ≠ .callchain text) :
    cell_text value = decimal (read_uint64 value) := by
  cases value with
  | counter value => rfl
  | callchain text => exact absurd rfl (h text)

-- Under columns that come from an entry without a callchain, every entry of the
-- group has a row, and it is the one the module writes.
theorem csv_row_eq {names : List String} {first entry : report_entry}
    (hfirst : Measured names first.events) (hentry : Measured names entry.events)
    (hnone : ∀ text, zhashx_lookup first.events "callchain" ≠ some (.callchain text))
    (sensor_name : String) :
    ∃ row, csv_row cell_text sensor_name (sorted_names first.events) entry = some row ∧
      csv_row (fun value => decimal (read_uint64 value)) sensor_name (sorted_names first.events)
        entry = some row := by
  have hnamed : ∀ column ∈ sorted_names first.events,
      column ∈ "time_enabled" :: "time_running" :: names :=
    fun column hcolumn => hfirst.keys_named hnone (mem_sorted_names.mp hcolumn)
  obtain ⟨text, htext⟩ := cells_isSome (f := cell_text)
    fun column hcolumn => hentry.mem_keys (hnamed column hcolumn)
  refine ⟨_, by rw [csv_row, htext]; rfl, ?_⟩
  rw [csv_row, ← cells_congr (f := cell_text), htext]
  · rfl
  · intro column hcolumn value hvalue
    obtain ⟨n, hn⟩ := hentry.lookup_counter (hnamed column hcolumn)
    obtain rfl := Option.some.inj (hn.symm.trans hvalue)
    rfl

-- Under columns that come from an entry with a callchain, the row of that very
-- entry is wrong.
theorem csv_row_ne {names : List String} {first : report_entry}
    (hfirst : Measured names first.events) {text : List Char}
    (hcallchain : zhashx_lookup first.events "callchain" = some (.callchain text))
    (sensor_name : String) {row : List Char}
    (hrow : csv_row cell_text sensor_name (sorted_names first.events) first = some row) :
    csv_row (fun value => decimal (read_uint64 value)) sensor_name (sorted_names first.events)
      first ≠ some row := by
  intro hstored
  obtain ⟨wanted, hwanted, hfront⟩ := Option.map_eq_some_iff.mp hrow
  obtain ⟨written, hwritten, hfront'⟩ := Option.map_eq_some_iff.mp hstored
  have heq : written = wanted := List.append_cancel_left (hfront'.trans hfront.symm)
  subst heq
  have hmem : "callchain" ∈ sorted_names first.events :=
    mem_sorted_names.mpr (mem_zhashx_keys_of_lookup hcallchain)
  have hcell := cells_column_eq (nodup_sorted_names hfirst.1) hmem hcallchain
    (fun other _ hne value hvalue => cell_text_eq fun t ht =>
      hne (hfirst.lookup_callchain (ht ▸ hvalue)).1) hwanted hwritten
  exact decimal_ne_callchain _ (hfirst.lookup_callchain hcallchain).2 hcell

theorem accepted_of_measured {names : List String} {entries : List report_entry}
    {sensor_name : String} (hmeasured : ∀ entry ∈ entries, Measured names entry.events)
    (hnone : ∀ first, entries.head? = some first → ∀ text,
      zhashx_lookup first.events "callchain" ≠ some (.callchain text))
    (hline : (header_line (columns_of entries)).length < CSV_LINE_BUFFER_SIZE)
    (hrows : ∀ entry ∈ entries, ∀ row,
      csv_row cell_text sensor_name (columns_of entries) entry = some row →
        row.length < CSV_LINE_BUFFER_SIZE) : Accepted sensor_name entries := by
  intro entry hentry
  cases entries with
  | nil => simp at hentry
  | cons first rest =>
      obtain ⟨row, hrow, hstored⟩ := csv_row_eq (hmeasured first List.mem_cons_self)
        (hmeasured entry hentry) (hnone first rfl) sensor_name
      refine ⟨by rw [fitting, if_pos hline]; rfl, ?_⟩
      rw [columns_of, stored_row, hstored]
      simp only [Option.bind_some, fitting, if_pos (hrows entry hentry row hrow)]
      rfl

section Lossless

variable {groups : List (String × List String)} {payloads : List payload}

-- A group of a report is one of the configured groups.
theorem Produced.item (h : Produced groups payloads) {payload : payload}
    (hpayload : payload ∈ payloads) {item : String × payload_group_data}
    (hitem : item ∈ payload.groups) :
    ∃ group ∈ groups, group.1 = item.1 ∧ payload_entries group.1 payload =
      group_entries payload.timestamp payload.target_name item.2.pkgs := by
  have hnames := h.names payload hpayload
  obtain ⟨group, hgroup, heq⟩ := List.mem_map.mp (hnames.subset (List.mem_map_of_mem hitem))
  refine ⟨group, hgroup, heq, ?_⟩
  have hlookup := (zhashx_lookup_eq_some_iff (hnames.nodup_iff.mpr h.distinct)).mpr hitem
  rw [heq, payload_entries, entries_in, hlookup]

theorem Produced.measured_all (h : Produced groups payloads) {group : String × List String}
    (hgroup : group ∈ groups) {entry : report_entry}
    (hentry : entry ∈ all_entries group.1 payloads) : Measured group.2 entry.events := by
  obtain ⟨payload, hpayload, hmem⟩ := List.mem_flatMap.mp hentry
  exact h.measured payload hpayload group hgroup entry hmem

theorem Produced.no_entries (h : Produced groups payloads) {group : String}
    (hgroup : group ∉ groups.map Prod.fst) : all_entries group payloads = [] := by
  apply List.flatMap_eq_nil_iff.mpr
  intro payload hpayload
  have hnot : group ∉ zhashx_keys payload.groups :=
    fun hmem => hgroup ((h.names payload hpayload).subset hmem)
  rw [payload_entries, entries_in, zhashx_lookup_eq_none_iff.mpr hnot]

theorem Produced.full (h : Produced groups payloads) {sensor_name output_dir : String}
    (hpath : ∀ group ∈ groups,
      (outfile_path (csv_context_create sensor_name output_dir) group.1).length < PATH_MAX)
    (hsome : ∀ payload ∈ payloads, ∀ group ∈ groups, payload_entries group.1 payload ≠ [])
    {payload : payload} (hpayload : payload ∈ payloads) :
    Full (csv_context_create sensor_name output_dir) payload := by
  refine ⟨(h.names payload hpayload).nodup_iff.mpr h.distinct, ?_, ?_, ?_⟩
  · intro item hitem
    obtain ⟨group, hgroup, -, hentries⟩ := h.item hpayload hitem
    exact hentries ▸ hsome payload hpayload group hgroup
  · intro item hitem entry hentry
    obtain ⟨group, hgroup, -, hentries⟩ := h.item hpayload hitem
    exact (h.measured payload hpayload group hgroup entry (hentries ▸ hentry)).ne_nil
  · intro item hitem
    obtain ⟨group, hgroup, heq, -⟩ := h.item hpayload hitem
    exact heq ▸ hpath group hgroup

theorem Produced.accepted (h : Produced groups payloads) {sensor_name output_dir : String}
    (hfits : Fits sensor_name output_dir groups payloads)
    (hheader : HeaderWithoutCallchain groups payloads) (group : String) :
    Accepted sensor_name (all_entries group payloads) := by
  by_cases hgroup : group ∈ groups.map Prod.fst
  · obtain ⟨⟨name, names⟩, hmem, rfl⟩ := List.mem_map.mp hgroup
    exact accepted_of_measured (fun entry hentry => h.measured_all hmem hentry)
      (hheader _ hmem) (hfits.header _ hmem) (hfits.row _ hmem)
  · rw [h.no_entries hgroup]
    exact fun entry hentry => absurd hentry (by simp)

-- What the module has stored is what is asked for when the columns come from an
-- entry without a callchain.
theorem Recorded.holds_rows {output : csv_output} {group : String} {names : List String}
    {first : report_entry} {rest : List report_entry}
    (h : Recorded output.ctx output.files group (first :: rest))
    (hmeasured : ∀ entry ∈ first :: rest, Measured names entry.events)
    (hnone : ∀ text, zhashx_lookup first.events "callchain" ≠ some (.callchain text)) :
    HoldsRows output.ctx.config.sensor_name output group (first :: rest) := by
  obtain ⟨file, rows, -, hcolumns, hrows, hlines⟩ := h
  refine ⟨_, rows, hcolumns, ?_, List.mem_of_getElem? hlines⟩
  rw [← hrows]
  apply List.map_congr_left
  intro entry hentry
  obtain ⟨row, hrow, hstored⟩ := csv_row_eq (hmeasured first List.mem_cons_self)
    (hmeasured entry hentry) hnone output.ctx.config.sensor_name
  have hmem : stored_row output.ctx.config.sensor_name (sorted_names first.events) entry ∈
      rows.map some := hrows ▸ List.mem_map_of_mem hentry
  obtain ⟨stored, -, heq⟩ := List.mem_map.mp hmem
  rw [stored_row, hstored, Option.bind_some] at heq
  rw [hrow, stored_row, hstored, Option.bind_some, ← heq, eq_of_fitting heq.symm]

theorem Consistent.file_unique {ctx : csv_context} {files : csv_files}
    {history : String → List report_entry} (h : Consistent ctx files history) {path : String}
    {lines lines' : List (List Char)} (hmem : (path, lines) ∈ files)
    (hmem' : (path, lines') ∈ files) : lines = lines' :=
  (Prod.mk.inj (List.inj_on_of_nodup_map h.paths_nodup hmem hmem' rfl)).2

-- A group without entries has an empty file at most.
theorem Consistent.no_rows {output : csv_output} {history : String → List report_entry}
    (h : Consistent output.ctx output.files history) {group : String}
    (hnone : history group = []) (sensor_name : String) :
    HoldsRows sensor_name output group [] := by
  intro lines hlines
  have hrecorded := h.recorded group
  rw [hnone] at hrecorded
  cases hfile : zhashx_lookup output.ctx.groups_fd group with
  | none => exact absurd (List.mem_map_of_mem hlines) (h.unopened group hfile)
  | some file =>
      exact h.file_unique hlines (List.mem_of_getElem? (hrecorded.2 file hfile))

-- The other way round, rows as asked for leave no callchain in the first entry.
theorem Consistent.header_without_callchain {output : csv_output}
    {history : String → List report_entry} (h : Consistent output.ctx output.files history)
    {group : String} {names : List String} {first : report_entry} {rest : List report_entry}
    (hhistory : history group = first :: rest) (hfirst : Measured names first.events)
    (hrows : HoldsRows output.ctx.config.sensor_name output group (first :: rest))
    (text : List Char) :
    zhashx_lookup first.events "callchain" ≠ some (.callchain text) := by
  intro hcallchain
  have hrecorded := h.recorded group
  rw [hhistory] at hrecorded
  obtain ⟨file, stored, -, hcolumns, hstored, hlines⟩ := hrecorded
  obtain ⟨columns, rows, hcolumns', hwanted, hmem⟩ := hrows
  obtain rfl : columns = sorted_names first.events :=
    Option.some.inj (hcolumns'.symm.trans hcolumns)
  have hfile := h.file_unique hmem (List.mem_of_getElem? hlines)
  have hinjective : Function.Injective fun line : List Char => line ++ ['\n'] :=
    fun _ _ heq => List.append_cancel_right heq
  obtain rfl : rows = stored := (List.cons.inj (List.map_injective_iff.mpr hinjective hfile)).2
  cases rows with
  | nil => exact absurd hwanted (by simp)
  | cons row rows =>
      have hrow := (List.cons.inj hwanted).1
      have hstored_row := (List.cons.inj hstored).1
      obtain ⟨written, hwritten, hfitting⟩ := Option.bind_eq_some_iff.mp hstored_row
      obtain rfl := eq_of_fitting hfitting
      exact csv_row_ne hfirst hcallchain _ hrow hwritten

section

variable (order : hash_order) (sensor_name output_dir : String) {output : csv_output}

-- The reports of a full run, once for the run and once for what it accepts.
theorem Produced.run_spec (h : Produced groups payloads)
    (hfits : Fits sensor_name output_dir groups payloads)
    (hsome : ∀ payload ∈ payloads, ∀ group ∈ groups, payload_entries group.1 payload ≠ [])
    (houtput : store_reports order payloads (csv_context_create sensor_name output_dir) [] =
      output) :
    ((∀ err ∈ output.errors, err = 0) →
      Consistent output.ctx output.files (fun group => all_entries group payloads) ∧
        output.ctx.config.sensor_name = sensor_name) ∧
    (HeaderWithoutCallchain groups payloads → ∀ err ∈ output.errors, err = 0) := by
  obtain ⟨hstored, haccepted⟩ := store_reports_spec order payloads
    (settled_create sensor_name output_dir)
    (fun payload hpayload => h.full hfits.path hsome hpayload) houtput
  simp only [List.nil_append] at hstored haccepted
  refine ⟨fun herrs => ⟨(hstored herrs).1.consistent, ?_⟩, fun hheader => ?_⟩
  · rw [(hstored herrs).2]
    rfl
  · exact haccepted fun group => h.accepted hfits hheader group

-- Groups that have no entries anywhere only get their empty files.
theorem Produced.empty_spec (h : Produced groups payloads)
    (hfits : Fits sensor_name output_dir groups payloads)
    (hempty : ∀ payload ∈ payloads, ∀ group ∈ groups, payload_entries group.1 payload = [])
    (houtput : store_reports order payloads (csv_context_create sensor_name output_dir) [] =
      output) :
    (∀ err ∈ output.errors, err = 0) ∧ Consistent output.ctx output.files (fun _ => []) := by
  refine store_reports_empty_spec order payloads (consistent_create sensor_name output_dir) ?_ ?_
    houtput
  · intro payload hpayload item hitem
    obtain ⟨group, hgroup, -, hentries⟩ := h.item hpayload hitem
    exact hentries ▸ hempty payload hpayload group hgroup
  · intro payload hpayload item hitem
    obtain ⟨group, hgroup, heq, -⟩ := h.item hpayload hitem
    exact heq ▸ hfits.path group hgroup

theorem all_entries_eq_nil {group : String}
    (hempty : ∀ payload ∈ payloads, payload_entries group payload = []) :
    all_entries group payloads = [] :=
  List.flatMap_eq_nil_iff.mpr hempty

theorem Produced.header_of_lossless (h : Produced groups payloads)
    (hfits : Fits sensor_name output_dir groups payloads)
    (hlossless : Lossless order sensor_name output_dir groups payloads) :
    HeaderWithoutCallchain groups payloads := by
  unfold Lossless at hlossless
  generalize houtput : store_reports order payloads (csv_context_create sensor_name output_dir) []
    = output at hlossless
  obtain ⟨herrs, hrows⟩ := hlossless
  intro group hgroup first hhead text
  obtain ⟨rest, hall⟩ := List.head?_eq_some_iff.mp hhead
  rcases h.shape with hsome | hempty
  · obtain ⟨hconsistent, hname⟩ :=
      (h.run_spec order sensor_name output_dir hfits hsome houtput).1 herrs
    have hgroup_rows := hrows group hgroup
    rw [hall, ← hname] at hgroup_rows
    have hmeasured := h.measured_all hgroup (hall ▸ List.mem_cons_self)
    exact hconsistent.header_without_callchain hall hmeasured hgroup_rows text
  · rw [all_entries_eq_nil fun payload hpayload => hempty payload hpayload group hgroup] at hall
    exact absurd hall (by simp)

theorem Produced.lossless_of_header (h : Produced groups payloads)
    (hfits : Fits sensor_name output_dir groups payloads)
    (hheader : HeaderWithoutCallchain groups payloads) :
    Lossless order sensor_name output_dir groups payloads := by
  unfold Lossless
  generalize houtput : store_reports order payloads (csv_context_create sensor_name output_dir) []
    = output
  dsimp only
  rcases h.shape with hsome | hempty
  · obtain ⟨hstored, hzero⟩ := h.run_spec order sensor_name output_dir hfits hsome houtput
    have herrs := hzero hheader
    obtain ⟨hconsistent, hname⟩ := hstored herrs
    refine ⟨herrs, fun group hgroup => ?_⟩
    cases hall : all_entries group.1 payloads with
    | nil => exact hconsistent.no_rows hall sensor_name
    | cons first rest =>
        have hrecorded := hconsistent.recorded group.1
        rw [hall] at hrecorded
        rw [← hname]
        have hmeasured : ∀ entry ∈ first :: rest, Measured group.2 entry.events :=
          fun entry hentry => h.measured_all hgroup (hall ▸ hentry)
        exact hrecorded.holds_rows hmeasured (hheader group hgroup first (by rw [hall]; rfl))
  · obtain ⟨herrs, hconsistent⟩ := h.empty_spec order sensor_name output_dir hfits hempty houtput
    refine ⟨herrs, fun group hgroup => ?_⟩
    rw [all_entries_eq_nil fun payload hpayload => hempty payload hpayload group hgroup]
    exact hconsistent.no_rows rfl sensor_name

-- The reports of a target are stored in full exactly when each file has got its
-- columns from an entry without a callchain.
theorem reports_stored_iff (h : Produced groups payloads)
    (hfits : Fits sensor_name output_dir groups payloads) :
    Lossless order sensor_name output_dir groups payloads ↔
      HeaderWithoutCallchain groups payloads :=
  ⟨h.header_of_lossless order sensor_name output_dir hfits,
    h.lossless_of_header order sensor_name output_dir hfits⟩

end

end Lossless

-- A report with one entry.
def one_entry (events : zhashx event_value) : payload :=
  ⟨1000, "app", [("core", ⟨[("0", ⟨[("3", ⟨events⟩)]⟩)]⟩)]⟩

theorem one_entry_produced {events : zhashx event_value} (h : Measured ["CYCLES"] events) :
    Produced [("core", ["CYCLES"])] [one_entry events] := by
  refine ⟨?_, by decide, ?_, Or.inl ?_⟩
  · simp [one_entry, zhashx_keys]
  · simp only [List.mem_singleton, forall_eq]
    intro entry hentry
    rw [List.mem_singleton.mp hentry]
    exact h
  · simp only [List.mem_singleton, forall_eq]
    exact List.cons_ne_nil _ _

def plain_events : zhashx event_value :=
  [("time_enabled", .counter 9), ("time_running", .counter 9), ("CYCLES", .counter 5)]

def sampled_events : zhashx event_value :=
  ("callchain", .callchain "0x10;|".toList) :: plain_events

theorem one_entry_fits {events : zhashx event_value}
    (hheader : (header_line (sorted_names events)).length < CSV_LINE_BUFFER_SIZE)
    (hrow : ∀ row, csv_row cell_text "host" (sorted_names events) ⟨1000, "app", "0", "3", events⟩ =
      some row → row.length < CSV_LINE_BUFFER_SIZE) :
    Fits "host" "out" [("core", ["CYCLES"])] [one_entry events] := by
  refine ⟨?_, ?_, ?_⟩
  · simp only [List.mem_singleton, forall_eq]
    decide
  · simp only [List.mem_singleton, forall_eq]
    exact hheader
  · simp only [List.mem_singleton, forall_eq]
    intro entry hentry
    rw [List.mem_singleton.mp hentry]
    exact hrow

theorem plain_events_lookup (key : String) :
    zhashx_lookup plain_events key =
      if key ∈ ["time_enabled", "time_running", "CYCLES"] then
        some (.counter (if key = "CYCLES" then 5 else 9))
      else none := by
  by_cases henabled : key = "time_enabled"
  · subst henabled
    rfl
  · by_cases hrunning : key = "time_running"
    · subst hrunning
      rfl
    · by_cases hcycles : key = "CYCLES"
      · subst hcycles
        rfl
      · simp [zhashx_lookup_eq_none_iff, zhashx_keys, plain_events, henabled, hrunning, hcycles]

theorem plain_events_measured : Measured ["CYCLES"] plain_events := by
  refine ⟨by decide, fun key => if key = "CYCLES" then 5 else 9, none, by simp, fun key => ?_⟩
  rw [plain_events_lookup]
  by_cases hcallchain : key = "callchain" <;> simp [hcallchain]

theorem sampled_events_measured : Measured ["CYCLES"] sampled_events := by
  refine ⟨by decide, fun key => if key = "CYCLES" then 5 else 9, some "0x10;|".toList, ?_,
    fun key => ?_⟩
  · rintro text ⟨⟩
    exact Or.inr (by decide)
  · rw [sampled_events, zhashx_lookup_cons, plain_events_lookup]
    by_cases hcallchain : key = "callchain"
    · subst hcallchain
      rfl
    · rw [if_neg (Ne.symm hcallchain), if_neg hcallchain]

-- A second tick, with a cpu that has been sampled.
def sampled_tick : payload :=
  ⟨2000, "app", [("core", ⟨[("0", ⟨[("3", ⟨plain_events⟩), ("4", ⟨sampled_events⟩)]⟩)]⟩)]⟩

theorem sampled_tick_entries :
    all_entries "core" [one_entry plain_events, sampled_tick] =
      [⟨1000, "app", "0", "3", plain_events⟩, ⟨2000, "app", "0", "3", plain_events⟩,
        ⟨2000, "app", "0", "4", sampled_events⟩] :=
  rfl

theorem sampled_tick_produced :
    Produced [("core", ["CYCLES"])] [one_entry plain_events, sampled_tick] := by
  refine ⟨?_, by decide, ?_, Or.inl ?_⟩
  · simp [one_entry, sampled_tick, zhashx_keys]
  · intro payload hpayload group hgroup entry hentry
    obtain rfl := List.mem_singleton.mp hgroup
    have hmem : entry ∈ all_entries "core" [one_entry plain_events, sampled_tick] :=
      List.mem_flatMap.mpr ⟨payload, hpayload, hentry⟩
    rw [sampled_tick_entries] at hmem
    simp only [List.mem_cons, List.not_mem_nil, or_false] at hmem
    rcases hmem with rfl | rfl | rfl
    · exact plain_events_measured
    · exact plain_events_measured
    · exact sampled_events_measured
  · simp only [List.mem_cons, List.not_mem_nil, or_false, forall_eq_or_imp, forall_eq]
    exact ⟨List.cons_ne_nil _ _, List.cons_ne_nil _ _⟩

theorem sampled_tick_fits :
    Fits "host" "out" [("core", ["CYCLES"])] [one_entry plain_events, sampled_tick] := by
  refine ⟨?_, ?_, ?_⟩
  · simp only [List.mem_singleton, forall_eq]
    decide
  · simp only [List.mem_singleton, forall_eq]
    decide
  · simp only [forall_eq, sampled_tick_entries, List.mem_cons, List.not_mem_nil, or_false,
      forall_eq_or_imp]
    refine ⟨?_, ?_, ?_⟩ <;> intro row hrow <;> obtain rfl := Option.some.inj hrow <;> decide

-- The samples come after the columns have been taken.
theorem reports_stored_iff_sampled :
    Lossless ⟨id, fun _ => List.Perm.refl _⟩ "host" "out" [("core", ["CYCLES"])]
      [one_entry plain_events, sampled_tick] := by
  refine (reports_stored_iff _ "host" "out" sampled_tick_produced sampled_tick_fits).mpr ?_
  intro group hgroup first hfirst text
  obtain rfl := List.mem_singleton.mp hgroup
  rw [sampled_tick_entries] at hfirst
  obtain rfl := Option.some.inj hfirst
  exact fun hvalue => absurd hvalue (by simp [plain_events_lookup])

-- A callchain in the first entry makes a column, and the cell of that column is
-- a number.
theorem callchain_stored_as_number :
    ¬ ∀ (order : hash_order) (sensor_name output_dir : String)
      (groups : List (String × List String)) (payloads : List payload),
      Produced groups payloads → Fits sensor_name output_dir groups payloads →
      Lossless order sensor_name output_dir groups payloads := by
  intro hclaim
  have hproduced := one_entry_produced sampled_events_measured
  have hfits : Fits "host" "out" [("core", ["CYCLES"])] [one_entry sampled_events] := by
    refine one_entry_fits (by decide) fun row hrow => ?_
    obtain rfl := Option.some.inj hrow
    decide
  have hlossless := hclaim ⟨id, fun _ => List.Perm.refl _⟩ "host" "out" _ _ hproduced hfits
  have hheader := hproduced.header_of_lossless _ "host" "out" hfits hlossless
  exact hheader _ List.mem_cons_self _ rfl "0x10;|".toList (by decide)

end HwpcSensor.Storage
