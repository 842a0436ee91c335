import HwpcSensor.Storage.Csv.Invariant
import Mathlib.Data.String.Basic

namespace HwpcSensor.Storage

open Interaction

-- The files with what has been written to them, and the files that descriptors
-- and streams lead to.
structure csv_disk where
  files : String → Option (List Char)
  fds : Int → Option String
  streams : Nat → Option String

-- A file is only opened by the call that creates it.
def csv_disk.Opens (disk : csv_disk) (path : String) (fd : Int) (disk' : csv_disk) : Prop :=
  (fd = -1 ∧ disk' = disk) ∨
    (0 ≤ fd ∧ disk.files path = none ∧ disk.fds fd = none ∧
      disk' = { disk with
        files := Function.update disk.files path (some [])
        fds := Function.update disk.fds fd (some path) })

-- A line is written whole or not at all.
def csv_disk.Writes (disk : csv_disk) (file : Nat) (line : List Char) (written : Int)
    (disk' : csv_disk) : Prop :=
  (written < 0 ∧ disk' = disk) ∨
    (written = line.length ∧ ∃ path content, disk.streams file = some path ∧
      disk.files path = some content ∧
      disk' = { disk with files := Function.update disk.files path (some (content ++ line)) })

def csv_step : Semantics csv_call csv_answer csv_disk
  | disk, .open path, fd, disk' => disk.Opens path fd disk'
  | disk, .fdopen _, none, disk' => disk' = disk
  | disk, .fdopen fd, some file, disk' =>
      ∃ path, disk.fds fd = some path ∧ disk.streams file = none ∧
        disk' = { disk with streams := Function.update disk.streams file (some path) }
  | disk, .close fd, _, disk' => disk' = { disk with fds := Function.update disk.fds fd none }
  | disk, .fprintf file line, written, disk' => disk.Writes file line written disk'

-- A report that could not be stored does not keep the next ones from it.
def store_payloads (order : hash_order) : List payload → csv_context → csv_program csv_context
  | [], ctx => pure ctx
  | payload :: rest, ctx => do
      let stored ← csv_store_report order ctx payload
      store_payloads order rest stored.2

def fields (line : List Char) : List (List Char) :=
  line.splitOn ','

def contents (lines : List (List Char)) : List Char :=
  lines.flatMap (· ++ ['\n'])

def header_fields : List (List Char) :=
  ["timestamp".toList, "sensor".toList, "target".toList, "socket".toList, "cpu".toList]

structure IsHeader (columns : List String) (line : List Char) : Prop where
  one_line : '\n' ∉ line
  fields_eq : fields line = header_fields ++ columns.map String.toList
  increasing : columns.Pairwise (· < ·)

-- The fields in front of the events.
def entry_start (sensor_name : String) (entry : report_entry) : List (List Char) :=
  [decimal entry.timestamp, sensor_name.toList, entry.target.toList, entry.socket.toList,
    entry.cpu.toList]

structure IsRow (sensor_name : String) (columns : List String) (entry : report_entry)
    (line : List Char) : Prop where
  one_line : '\n' ∉ line
  start : (fields line).take header_fields.length = entry_start sensor_name entry
  fields_length : (fields line).length = header_fields.length + columns.length
  value : ∀ k column, columns[k]? = some column → ∃ value,
    zhashx_lookup entry.events column = some (.counter value) ∧
      (fields line)[header_fields.length + k]? = some (decimal value)

-- A header and the rows of some of these entries, in their order.
def HasRows (sensor_name : String) (columns : List String) (entries : List report_entry)
    (content : List Char) : Prop :=
  ∃ header stored rows, IsHeader columns header ∧ stored.Sublist entries ∧
    List.Forall₂ (IsRow sensor_name columns) stored rows ∧ content = contents (header :: rows)

def WellFormedCsv (sensor_name : String) (entries : List report_entry) (content : List Char) :
    Prop :=
  content = [] ∨ ∃ columns, HasRows sensor_name columns entries content

def Clean (text : List Char) : Prop :=
  ',' ∉ text ∧ '\n' ∉ text

-- An entry of counters with clean names, whose lines fit the buffer.
structure Plain (sensor_name : String) (entry : report_entry) : Prop where
  nodup : (zhashx_keys entry.events).Nodup
  counters : ∀ column value, zhashx_lookup entry.events column = some value →
    ∃ n, value = .counter n
  target : Clean entry.target.toList
  socket : Clean entry.socket.toList
  cpu : Clean entry.cpu.toList
  events : ∀ column ∈ zhashx_keys entry.events, Clean column.toList
  fits : (row_fixed sensor_name entry.timestamp entry.target entry.socket entry.cpu).length <
    CSV_LINE_BUFFER_SIZE

structure Storable (sensor_name : String) (payload : payload) : Prop where
  nodup : (zhashx_keys payload.groups).Nodup
  filled : ∀ group ∈ zhashx_keys payload.groups, payload_entries group payload ≠ []
  plain : ∀ group, ∀ entry ∈ payload_entries group payload, Plain sensor_name entry

-- The files that were there before are left alone, and those of the module are
-- well formed.
def Sound (sensor_name output_dir : String) (before : csv_disk)
    (entries : String → List report_entry) (disk : csv_disk) : Prop :=
  ∀ group, let path := outfile_path (csv_context_create sensor_name output_dir) group
    (∀ content, before.files path = some content → disk.files path = some content) ∧
    (before.files path = none → ∀ content, disk.files path = some content →
      WellFormedCsv sensor_name (entries group) content)

-- The fields of a line that has been put together field by field.
theorem intercalate_eq_flatMap (first : List Char) (rest : List (List Char)) :
    [','].intercalate (first :: rest) = first ++ rest.flatMap (',' :: ·) := by
  induction rest generalizing first with
  | nil => simp
  | cons next rest ih =>
      rw [List.flatMap_cons]
      have hnext := ih next
      rw [List.intercalate_cons_cons, hnext]
      simp

theorem fields_flatMap {first : List Char} {rest : List (List Char)} (hfirst : Clean first)
    (hrest : ∀ field ∈ rest, Clean field) :
    fields (first ++ rest.flatMap (',' :: ·)) = first :: rest ∧
      '\n' ∉ first ++ rest.flatMap (',' :: ·) := by
  constructor
  · rw [← intercalate_eq_flatMap, fields]
    refine List.splitOn_intercalate ',' ?_ (List.cons_ne_nil _ _)
    intro field hfield
    rcases List.mem_cons.mp hfield with rfl | hfield
    · exact hfirst.1
    · exact (hrest field hfield).1
  · rw [List.mem_append, not_or]
    refine ⟨hfirst.2, fun hmem => ?_⟩
    obtain ⟨field, hfield, hmem⟩ := List.mem_flatMap.mp hmem
    rcases List.mem_cons.mp hmem with heq | hmem
    · exact absurd heq (by decide)
    · exact (hrest field hfield).2 hmem

theorem clean_decimal (value : Nat) : Clean (decimal value) := by
  constructor
  · intro hmem
    exact absurd (Nat.isDigit_of_mem_toDigits (by decide) (by decide) hmem) (by decide)
  · intro hmem
    exact absurd (Nat.isDigit_of_mem_toDigits (by decide) (by decide) hmem) (by decide)

theorem header_line_eq (columns : List String) :
    header_line columns = "timestamp".toList ++
      (["sensor".toList, "target".toList, "socket".toList, "cpu".toList] ++
        columns.map String.toList).flatMap (',' :: ·) := by
  rw [header_line, List.flatMap_append, List.flatMap_map, ← List.append_assoc]
  rfl

theorem is_header_line {columns : List String} (hincreasing : columns.Pairwise (· < ·))
    (hclean : ∀ column ∈ columns, Clean column.toList) :
    IsHeader columns (header_line columns) := by
  have hfixed : ∀ field ∈ header_fields, Clean field := by
    intro field hfield
    simp only [header_fields, List.mem_cons, List.not_mem_nil, or_false] at hfield
    rcases hfield with rfl | rfl | rfl | rfl | rfl <;> exact ⟨by decide, by decide⟩
  have hrest : ∀ field ∈ ["sensor".toList, "target".toList, "socket".toList, "cpu".toList] ++
      columns.map String.toList, Clean field := by
    intro field hfield
    rcases List.mem_append.mp hfield with hfield | hfield
    · exact hfixed field (List.mem_cons_of_mem _ hfield)
    · obtain ⟨column, hcolumn, rfl⟩ := List.mem_map.mp hfield
      exact hclean column hcolumn
  have hfields := fields_flatMap (hfixed "timestamp".toList List.mem_cons_self) hrest
  rw [← header_line_eq] at hfields
  exact ⟨hfields.2, hfields.1, hincreasing⟩

-- The values of an entry of counters, in the order of the columns.
theorem cells_counters {events : zhashx event_value}
    (hcounters : ∀ column value, zhashx_lookup events column = some value →
      ∃ n, value = .counter n) {columns : List String} {text : List Char}
    (h : cells (fun value => decimal (read_uint64 value)) events columns = some text) :
    ∃ values : List Nat, text = (values.map decimal).flatMap (',' :: ·) ∧
      columns.map (zhashx_lookup events) = values.map fun value => some (.counter value) := by
  induction columns generalizing text with
  | nil =>
      obtain rfl := Option.some.inj h
      exact ⟨[], rfl, rfl⟩
  | cons column rest ih =>
      unfold cells at h
      cases hvalue : zhashx_lookup events column with
      | none => simp [hvalue] at h
      | some value =>
          cases hrest : cells (fun value => decimal (read_uint64 value)) events rest with
          | none => simp [hvalue, hrest] at h
          | some more =>
              obtain ⟨n, rfl⟩ := hcounters column value hvalue
              obtain ⟨values, rfl, hvalues⟩ := ih hrest
              rw [hvalue, hrest] at h
              obtain rfl := Option.some.inj h
              refine ⟨n :: values, rfl, ?_⟩
              rw [List.map_cons, List.map_cons, hvalue, hvalues]

theorem HasRows.mono {sensor_name : String} {columns : List String}
    {entries later : List report_entry} {content : List Char}
    (h : HasRows sensor_name columns entries content) (hsub : entries.Sublist later) :
    HasRows sensor_name columns later content := by
  obtain ⟨header, stored, rows, hheader, hstored, hrows, rfl⟩ := h
  exact ⟨header, stored, rows, hheader, hstored.trans hsub, hrows, rfl⟩

-- The row of the next entry.
theorem HasRows.concat {sensor_name : String} {columns : List String}
    {entries : List report_entry} {entry : report_entry} {content line : List Char}
    (h : HasRows sensor_name columns entries content)
    (hrow : IsRow sensor_name columns entry line) :
    HasRows sensor_name columns (entries ++ [entry]) (content ++ (line ++ ['\n'])) := by
  obtain ⟨header, stored, rows, hheader, hstored, hrows, rfl⟩ := h
  refine ⟨header, stored ++ [entry], rows ++ [line], hheader, hstored.append (.refl _), ?_, ?_⟩
  · exact List.rel_append hrows (.cons hrow .nil)
  · simp [contents]

theorem is_row_of_stored {sensor_name : String} {columns : List String} {entry : report_entry}
    {line : List Char} (hsensor : Clean sensor_name.toList) (hplain : Plain sensor_name entry)
    (h : stored_row sensor_name columns entry = some line) :
    IsRow sensor_name columns entry line := by
  obtain ⟨full, hfull, hfits⟩ := Option.bind_eq_some_iff.mp h
  obtain ⟨text, htext, rfl⟩ := Option.map_eq_some_iff.mp hfull
  obtain rfl := eq_of_fitting hfits
  obtain ⟨values, rfl, hvalues⟩ := cells_counters hplain.counters htext
  have hlength : columns.length = values.length := by
    simpa using congrArg List.length hvalues
  have hrow : row_fixed sensor_name entry.timestamp entry.target entry.socket entry.cpu ++
      (values.map decimal).flatMap (',' :: ·) = decimal entry.timestamp ++
        ([sensor_name.toList, entry.target.toList, entry.socket.toList, entry.cpu.toList] ++
          values.map decimal).flatMap (',' :: ·) := by
    simp [row_fixed]
  have hrest : ∀ field ∈ [sensor_name.toList, entry.target.toList, entry.socket.toList,
      entry.cpu.toList] ++ values.map decimal, Clean field := by
    intro field hfield
    rcases List.mem_append.mp hfield with hfield | hfield
    · simp only [List.mem_cons, List.not_mem_nil, or_false] at hfield
      rcases hfield with rfl | rfl | rfl | rfl
      · exact hsensor
      · exact hplain.target
      · exact hplain.socket
      · exact hplain.cpu
    · obtain ⟨value, -, rfl⟩ := List.mem_map.mp hfield
      exact clean_decimal value
  have hfields := fields_flatMap (clean_decimal entry.timestamp) hrest
  rw [← hrow] at hfields
  refine ⟨hfields.2, ?_, ?_, ?_⟩
  · rw [hfields.1]
    rfl
  · rw [hfields.1, hlength]
    simp only [header_fields, List.length_cons, List.length_append, List.length_nil,
      List.length_map]
    omega
  · intro k column hcolumn
    have hk := congrArg (·[k]?) hvalues
    simp only [List.getElem?_map, hcolumn, Option.map_some] at hk
    cases hvalue : values[k]? with
    | none => simp [hvalue] at hk
    | some value =>
        rw [hvalue] at hk
        refine ⟨value, by simpa using hk, ?_⟩
        rw [hfields.1]
        simp [header_fields, hvalue, Nat.add_comm 5 k]

-- The columns of an entry are sorted and no two are the same.
theorem pairwise_lt_sorted_names {events : zhashx event_value}
    (hnodup : (zhashx_keys events).Nodup) : (sorted_names events).Pairwise (· < ·) := by
  have hsorted := List.pairwise_insertionSort (· ≤ ·) (zhashx_keys events)
  exact (hsorted.and (nodup_sorted_names hnodup)).imp fun h => lt_of_le_of_ne h.1 h.2

end HwpcSensor.Storage
