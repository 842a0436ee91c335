import HwpcSensor.Storage.Csv.Files

namespace HwpcSensor.Storage

open Interaction

-- The buffer shows a text: the string in it is as much of the text as fits, and
-- the position is where the whole text would end.
structure line_buffer.Shows (buffer : line_buffer) (full : List Char) : Prop where
  text_eq : buffer.text = full.take (CSV_LINE_BUFFER_SIZE - 1)
  pos_eq : buffer.pos = full.length

theorem line_buffer.Shows.snprintf {buffer : line_buffer} {full : List Char}
    (h : buffer.Shows full) (s : List Char) : (buffer.snprintf s).Shows (full ++ s) := by
  refine ⟨?_, ?_⟩
  · simp only [line_buffer.snprintf, h.text_eq, h.pos_eq, List.take_append]
  · simp only [line_buffer.snprintf, h.pos_eq, List.length_append]

theorem shows_empty : line_buffer.Shows ⟨[], 0⟩ [] :=
  ⟨by simp, rfl⟩

theorem line_buffer.Shows.text {buffer : line_buffer} {full : List Char} (h : buffer.Shows full)
    (hfits : full.length < CSV_LINE_BUFFER_SIZE) : buffer.text = full := by
  rw [h.text_eq, List.take_of_length_le (by omega)]

-- `-1` is no success, so nothing is owed behind it.
theorem of_failed {p : Prop} (h : (-1 : Int) = 0) : p :=
  absurd h (by decide)

-- A text that the buffer can hold.
def fitting (text : List Char) : Option (List Char) :=
  if text.length < CSV_LINE_BUFFER_SIZE then some text else none

theorem eq_of_fitting {text line : List Char} (h : fitting text = some line) : line = text := by
  unfold fitting at h
  split_ifs at h
  exact (Option.some.inj h).symm

theorem fitting_append_of_le {full : List Char} (h : CSV_LINE_BUFFER_SIZE ≤ full.length)
    (s : List Char) : fitting (full ++ s) = none := by
  unfold fitting
  rw [if_neg (by rw [List.length_append]; omega)]

theorem append_names_text (names : List String) {buffer : line_buffer} {full : List Char}
    (h : buffer.Shows full) (hfits : names ≠ [] ∨ full.length < CSV_LINE_BUFFER_SIZE) :
    (append_names buffer names).map line_buffer.text =
      fitting (full ++ names.flatMap fun name => ',' :: name.toList) := by
  induction names generalizing buffer full with
  | nil =>
      have hfull := hfits.resolve_left (fun hne => hne rfl)
      simp [append_names, fitting, h.text hfull, hfull]
  | cons name rest ih =>
      have hnext := h.snprintf (',' :: name.toList)
      rw [List.flatMap_cons, ← List.append_assoc]
      simp only [append_names]
      by_cases hroom : (full ++ ',' :: name.toList).length < CSV_LINE_BUFFER_SIZE
      · rw [if_neg (by rw [hnext.pos_eq]; omega), ih hnext (Or.inr hroom)]
      · rw [if_pos (by rw [hnext.pos_eq]; omega), fitting_append_of_le (by omega)]
        rfl

theorem append_values_text (events : zhashx event_value) (names : List String)
    {buffer : line_buffer} {full : List Char} (h : buffer.Shows full)
    (hfits : names ≠ [] ∨ full.length < CSV_LINE_BUFFER_SIZE) :
    (append_values events buffer names).map line_buffer.text =
      (cells (fun value => decimal (read_uint64 value)) events names).bind
        fun text => fitting (full ++ text) := by
  induction names generalizing buffer full with
  | nil =>
      have hfull := hfits.resolve_left (fun hne => hne rfl)
      simp [append_values, cells, fitting, h.text hfull, hfull]
  | cons name rest ih =>
      cases hvalue : zhashx_lookup events name with
      | none => simp [append_values, cells, hvalue]
      | some value =>
          have hnext := h.snprintf (',' :: decimal (read_uint64 value))
          simp only [append_values, cells, hvalue]
          by_cases hroom :
              (full ++ ',' :: decimal (read_uint64 value)).length < CSV_LINE_BUFFER_SIZE
          · rw [if_neg (by rw [hnext.pos_eq]; omega), ih hnext (Or.inr hroom)]
            cases cells (fun value => decimal (read_uint64 value)) events rest with
            | none => rfl
            | some text => simp
          · rw [if_pos (by rw [hnext.pos_eq]; omega)]
            cases cells (fun value => decimal (read_uint64 value)) events rest with
            | none => rfl
            | some text =>
                have hnone := fitting_append_of_le (Nat.le_of_not_lt hroom) text
                simpa using hnone.symm

theorem mem_sorted_names {events : zhashx event_value} {key : String} :
    key ∈ sorted_names events ↔ key ∈ zhashx_keys events :=
  (List.perm_insertionSort (· ≤ ·) _).mem_iff

theorem nodup_sorted_names {events : zhashx event_value} (h : (zhashx_keys events).Nodup) :
    (sorted_names events).Nodup :=
  (List.perm_insertionSort (· ≤ ·) _).nodup_iff.mpr h

-- The row that the module writes, when the entry has all the columns and the
-- line fits.
def stored_row (sensor_name : String) (columns : List String) (entry : report_entry) :
    Option (List Char) :=
  (csv_row (fun value => decimal (read_uint64 value)) sensor_name columns entry).bind fitting

section

variable (order : hash_order) {ctx : csv_context} {files : csv_files} {group : String}

theorem run_fprintf (file : Nat) (line : List Char) :
    (fprintf file line).run csv_files.handler files =
      ((line.length : Int), files.emit file line) :=
  rfl

theorem run_write_group_header (file : Nat) {events : zhashx event_value}
    (hne : sorted_names events ≠ []) :
    (write_group_header order ctx group file events).run csv_files.handler files =
      match fitting (header_line (sorted_names events)) with
      | none => ((-1, ctx), files)
      | some line =>
          ((0, { ctx with
            groups_events := zhashx_insert order ctx.groups_events group (sorted_names events) }),
            files.emit file (line ++ ['\n'])) := by
  have htext := append_names_text (sorted_names events) (shows_empty.snprintf header_fixed)
    (Or.inl hne)
  rw [List.nil_append] at htext
  unfold header_line write_group_header
  rw [← htext]
  cases append_names (line_buffer.snprintf ⟨[], 0⟩ header_fixed) (sorted_names events) with
  | none => rfl
  | some buffer =>
      rw [Prog.run_bind, run_fprintf]
      dsimp only [Option.map_some]
      rw [if_neg (by omega)]
      rfl

theorem run_write_events_value (file : Nat) {columns : List String} (hne : columns ≠ [])
    (hcolumns : zhashx_lookup ctx.groups_events group = some columns) (entry : report_entry) :
    (write_events_value ctx group file entry.timestamp entry.target entry.socket entry.cpu
      entry.events).run csv_files.handler files =
      match stored_row ctx.config.sensor_name columns entry with
      | none => (-1, files)
      | some line => (0, files.emit file (line ++ ['\n'])) := by
  have htext := append_values_text entry.events columns
    (shows_empty.snprintf (row_fixed ctx.config.sensor_name entry.timestamp entry.target
      entry.socket entry.cpu)) (Or.inl hne)
  rw [List.nil_append] at htext
  have hrow : stored_row ctx.config.sensor_name columns entry =
      (cells (fun value => decimal (read_uint64 value)) entry.events columns).bind
        fun text => fitting (row_fixed ctx.config.sensor_name entry.timestamp entry.target
          entry.socket entry.cpu ++ text) := by
    rw [stored_row, csv_row, Option.bind_map]
    rfl
  simp only [write_events_value, hcolumns]
  rw [hrow, ← htext]
  cases append_values entry.events (line_buffer.snprintf ⟨[], 0⟩ (row_fixed
    ctx.config.sensor_name entry.timestamp entry.target entry.socket entry.cpu)) columns with
  | none => rfl
  | some buffer =>
      rw [Prog.run_bind, run_fprintf]
      dsimp only [Option.map_some]
      rw [if_neg (by omega)]
      rfl

theorem run_open_group_outfile (hpath : (outfile_path ctx group).length < PATH_MAX)
    (hnew : outfile_path ctx group ∉ files.map Prod.fst) :
    (open_group_outfile order ctx group).run csv_files.handler files =
      ((0, { ctx with groups_fd := zhashx_insert order ctx.groups_fd group files.length }),
        files ++ [(outfile_path ctx group, [])]) := by
  have hopen : (open_outfile (outfile_path ctx group)).run csv_files.handler files =
      ((files.length : Int), files ++ [(outfile_path ctx group, [])]) := by
    show csv_files.handler files (.open (outfile_path ctx group)) = _
    simp only [csv_files.handler, if_neg hnew]
    rfl
  have hfdopen : (fdopen files.length).run csv_files.handler
      (files ++ [(outfile_path ctx group, [])]) =
      (some files.length, files ++ [(outfile_path ctx group, [])]) := rfl
  rw [open_group_outfile, if_neg (by omega), Prog.run_bind, hopen]
  dsimp only
  rw [if_neg (by omega), Prog.run_bind, hfdopen]
  rfl

end

end HwpcSensor.Storage
