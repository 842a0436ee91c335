import HwpcSensor.Perf.Kernel.Ticks
import HwpcSensor.Storage.Csv.Decoding

namespace HwpcSensor

-- No package and no cpu stands twice in a group.
structure payload.Keyed (p : payload) : Prop where
  pkgs : ∀ group ∈ p.groups, (zhashx_keys group.2.pkgs).Nodup
  cpus : ∀ group ∈ p.groups, ∀ pkg ∈ group.2.pkgs, (zhashx_keys pkg.2.cpus).Nodup

namespace Storage

open Terminated

-- A reader of the files: lines end at newlines, fields at commas, and a column is
-- found by its name behind the five that every file has.
structure csv_table where
  columns : List (List Char)
  rows : List (List (List Char))

def read_table (content : List Char) : Option csv_table :=
  match cut '\n' content with
  | some (header :: rows) => some ⟨(fields header).drop header_fields.length, rows.map fields⟩
  | _ => none

namespace csv_table

variable (table : csv_table)

def of_cpu (socket cpu : String) : List (List (List Char)) :=
  table.rows.filter fun row => row[3]? = some socket.toList ∧ row[4]? = some cpu.toList

def value (column : String) (row : List (List Char)) : Nat :=
  Nat.ofDigitChars 10
    ((row.drop header_fields.length).getD (table.columns.idxOf column.toList) []) 0

def total (socket cpu column : String) : Nat :=
  ((table.of_cpu socket cpu).map (table.value column)).sum

end csv_table

section Rows

variable {sensor_name : String} {columns : List String} {entry : report_entry}

theorem idxOf_toList (column : String) :
    (columns.map String.toList).idxOf column.toList = columns.idxOf column := by
  induction columns with
  | nil => rfl
  | cons first rest ih =>
      rw [List.map_cons, List.idxOf_cons, List.idxOf_cons, ih]
      have hsame : (first.toList == column.toList) = (first == column) := by
        rw [Bool.eq_iff_iff, beq_iff_eq, beq_iff_eq, String.toList_inj]
      rw [hsame]

-- The reader finds the value of a column.
theorem value_entry_fields {rows : List (List (List Char))} {column : String}
    (hcolumn : column ∈ columns) :
    csv_table.value ⟨columns.map String.toList, rows⟩ column
      (entry_fields sensor_name columns entry) =
        column_value (zhashx_lookup entry.events column) := by
  have hlt := List.idxOf_lt_length_of_mem hcolumn
  have hdrop : (entry_fields sensor_name columns entry).drop header_fields.length =
      (entry_values columns entry).map decimal := rfl
  have hget : ((entry_values columns entry).map decimal).getD (columns.idxOf column) [] =
      decimal (column_value (zhashx_lookup entry.events column)) := by
    rw [entry_values, List.getD_eq_getElem?_getD, List.getElem?_map, List.getElem?_map,
      List.getElem?_idxOf hcolumn]
    rfl
  unfold csv_table.value
  rw [hdrop, idxOf_toList, hget]
  exact Nat.ofDigitChars_toDigits (by decide) (by decide)

variable {entries : List report_entry}

theorem of_cpu_entries {names : List (List Char)} (socket cpu : String) :
    csv_table.of_cpu ⟨names, entries.map (entry_fields sensor_name columns)⟩ socket cpu =
      (entries.filter fun entry => entry.socket = socket ∧ entry.cpu = cpu).map
        (entry_fields sensor_name columns) := by
  unfold csv_table.of_cpu
  rw [List.filter_map]
  have hselect : ((fun row : List (List Char) => decide (row[3]? = some socket.toList ∧
      row[4]? = some cpu.toList)) ∘ entry_fields sensor_name columns) =
        fun entry : report_entry => decide (entry.socket = socket ∧ entry.cpu = cpu) := by
    funext entry
    simp [entry_fields, String.toList_inj]
  rw [hselect]

theorem total_entries {socket cpu column : String} (hcolumn : column ∈ columns) :
    csv_table.total ⟨columns.map String.toList, entries.map (entry_fields sensor_name columns)⟩
      socket cpu column =
        ((entries.filter fun entry => entry.socket = socket ∧ entry.cpu = cpu).map
          fun entry => column_value (zhashx_lookup entry.events column)).sum := by
  rw [csv_table.total, of_cpu_entries, List.map_map]
  exact congrArg List.sum (List.map_congr_left fun entry _ => value_entry_fields hcolumn)

end Rows

section Payloads

variable {p : payload}

theorem filter_pkg_entries (timestamp : Nat) (target socket pkg cpu : String)
    {cpus : zhashx payload_cpu_data} (hkeys : (zhashx_keys cpus).Nodup) :
    (pkg_entries timestamp target socket cpus).filter
        (fun entry => entry.socket = pkg ∧ entry.cpu = cpu) =
      if socket = pkg then ((zhashx_lookup cpus cpu).map fun data =>
        (⟨timestamp, target, pkg, cpu, data.events⟩ : report_entry)).toList else [] := by
  have hcpu := zhashx_flatMap_at hkeys cpu fun data =>
    if socket = pkg then [(⟨timestamp, target, pkg, cpu, data.events⟩ : report_entry)] else []
  have heach : ∀ item ∈ cpus,
      [(⟨timestamp, target, socket, item.1, item.2.events⟩ : report_entry)].filter
        (fun entry => entry.socket = pkg ∧ entry.cpu = cpu) =
      if item.1 = cpu then
        (if socket = pkg then [(⟨timestamp, target, pkg, cpu, item.2.events⟩ : report_entry)]
          else [])
      else [] := by
    intro item _
    by_cases hsocket : socket = pkg
    · by_cases hitem : item.1 = cpu
      · simp [hsocket, hitem]
      · simp [hsocket, hitem]
    · simp [hsocket]
  rw [pkg_entries, List.map_eq_flatMap, List.filter_flatMap, List.flatMap_congr heach, hcpu]
  by_cases hsocket : socket = pkg
  · rw [if_pos hsocket]
    cases zhashx_lookup cpus cpu with
    | none => rfl
    | some data => simp [hsocket]
  · rw [if_neg hsocket]
    cases zhashx_lookup cpus cpu with
    | none => rfl
    | some data => simp [hsocket]

-- The entry of a cpu.
theorem entries_of_cpu (h : p.Keyed) (group pkg cpu : String) :
    (payload_entries group p).filter (fun entry => entry.socket = pkg ∧ entry.cpu = cpu) =
      ((p.cpu_data group pkg cpu).map fun data =>
        (⟨p.timestamp, p.target_name, pkg, cpu, data.events⟩ : report_entry)).toList := by
  unfold payload_entries entries_in payload.cpu_data
  cases hgroup : zhashx_lookup p.groups group with
  | none => rfl
  | some group_data =>
      have hmem := mem_of_zhashx_lookup hgroup
      have hpkg := zhashx_flatMap_at (h.pkgs _ hmem) pkg fun pkg_data =>
        ((zhashx_lookup pkg_data.cpus cpu).map fun data =>
          (⟨p.timestamp, p.target_name, pkg, cpu, data.events⟩ : report_entry)).toList
      have hcpus := fun item hitem =>
        filter_pkg_entries p.timestamp p.target_name item.1 pkg cpu (h.cpus _ hmem item hitem)
      dsimp only [Option.bind_some]
      rw [group_entries, List.filter_flatMap, List.flatMap_congr hcpus, hpkg]
      cases zhashx_lookup group_data.pkgs pkg <;> rfl

theorem sum_of_cpu (h : p.Keyed) (group pkg cpu column : String) :
    (((payload_entries group p).filter fun entry => entry.socket = pkg ∧ entry.cpu = cpu).map
      fun entry => column_value (zhashx_lookup entry.events column)).sum =
        p.value group pkg cpu column := by
  rw [entries_of_cpu h]
  unfold payload.value
  cases p.cpu_data group pkg cpu with
  | none => rfl
  | some data =>
      simp only [Option.map_some, Option.toList_some, List.map_cons, List.map_nil, List.sum_cons,
        List.sum_nil, Nat.add_zero, Option.bind_some]
      rcases zhashx_lookup data.events column with _ | value
      · rfl
      · cases value <;> rfl

theorem sum_all_entries {payloads : List payload} (h : ∀ p ∈ payloads, p.Keyed)
    (group pkg cpu column : String) :
    (((all_entries group payloads).filter fun entry =>
      entry.socket = pkg ∧ entry.cpu = cpu).map
        fun entry => column_value (zhashx_lookup entry.events column)).sum =
      (payloads.map fun p => p.value group pkg cpu column).sum := by
  induction payloads with
  | nil => rfl
  | cons first rest ih =>
      obtain ⟨hfirst, hrest⟩ := List.forall_mem_cons.mp h
      rw [all_entries, List.flatMap_cons, List.filter_append, List.map_append, List.sum_append,
        sum_of_cpu hfirst, List.map_cons, List.sum_cons]
      exact congrArg _ (ih hrest)

end Payloads

-- What is read back of a group: all the columns and rows, and the totals of the
-- payloads.
structure Totals (sensor_name : String) (columns : List String) (group : String)
    (payloads : List payload) (table : csv_table) : Prop where
  names : table.columns = columns.map String.toList
  rows : table.rows = (all_entries group payloads).map (entry_fields sensor_name columns)
  total : ∀ pkg cpu, ∀ column ∈ columns,
    table.total pkg cpu column = (payloads.map fun p => p.value group pkg cpu column).sum

theorem StorableCounters.totals {sensor_name output_dir : String} {payloads : List payload}
    (h : StorableCounters sensor_name output_dir payloads) (order : hash_order) {group : String}
    (hseparable : ∀ entry ∈ all_entries group payloads,
      Separable sensor_name (columns_of (all_entries group payloads)) entry)
    (hnodup : ∀ entry ∈ all_entries group payloads, (zhashx_keys entry.events).Nodup)
    (hclean : ∀ column ∈ columns_of (all_entries group payloads), Clean column.toList)
    (hkeyed : ∀ p ∈ payloads, p.Keyed) (hne : all_entries group payloads ≠ [])
    {output : csv_output}
    (houtput : store_reports order payloads (csv_context_create sensor_name output_dir) [] =
      output) :
    ∃ lines table, (outfile_path output.ctx group, lines) ∈ output.files ∧
      read_table lines.flatten = some table ∧
        Totals sensor_name (columns_of (all_entries group payloads)) group payloads table := by
  obtain ⟨-, hfiles⟩ := h.stored order houtput
  obtain ⟨rows, hstored, hlines⟩ := hfiles group hne
  obtain ⟨⟨found, hcut, hfields⟩, -⟩ := (recovers_iff hne (h.counters group) hstored).mpr hseparable
  have hincreasing : (columns_of (all_entries group payloads)).Pairwise (· < ·) := by
    cases hall : all_entries group payloads with
    | nil => exact absurd hall hne
    | cons first rest => exact pairwise_lt_sorted_names (hnodup first (hall ▸ List.mem_cons_self))
  have hheader := (is_header_line hincreasing hclean).fields_eq
  refine ⟨_, ⟨(columns_of (all_entries group payloads)).map String.toList,
    (all_entries group payloads).map
      (entry_fields sensor_name (columns_of (all_entries group payloads)))⟩,
    (hlines _).mpr rfl, ?_, rfl, rfl, ?_⟩
  · rw [← List.flatMap_def, ← hfields]
    unfold read_table
    rw [show (header_line (columns_of (all_entries group payloads)) :: rows).flatMap (· ++ ['\n']) =
      join '\n' (header_line (columns_of (all_entries group payloads)) :: rows) from rfl, hcut]
    dsimp only
    rw [hheader, List.drop_left]
  · intro pkg cpu column hcolumn
    rw [total_entries hcolumn, sum_all_entries hkeyed]

end Storage

end HwpcSensor
