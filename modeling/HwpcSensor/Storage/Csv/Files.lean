import HwpcSensor.Storage.Csv

namespace HwpcSensor.Storage

-- The output files with their lines; a stream is the position of its file. All
-- operations succeed, except for the exclusive creation of an existing file.
abbrev csv_files := List (String × List (List Char))

def csv_files.emit (files : csv_files) (file : Nat) (line : List Char) : csv_files :=
  files.modify file fun entry => (entry.1, entry.2 ++ [line])

def csv_files.handler (files : csv_files) : (op : csv_call) → csv_answer op × csv_files
  | .open path =>
      if path ∈ files.map Prod.fst then ((-1 : Int), files)
      else ((files.length : Int), files ++ [(path, [])])
  | .fdopen fd => (some fd.toNat, files)
  | .close _ => ((), files)
  | .fprintf file line => ((line.length : Int), files.emit file line)

-- What the module has returned and written for the reports so far.
structure csv_output where
  errors : List Int
  ctx : csv_context
  files : csv_files

def store_reports (order : hash_order) : List payload → csv_context → csv_files → csv_output
  | [], ctx, files => ⟨[], ctx, files⟩
  | payload :: rest, ctx, files =>
      let stored := (csv_store_report order ctx payload).run csv_files.handler files
      let output := store_reports order rest stored.1.2 stored.2
      { output with errors := stored.1.1 :: output.errors }

-- One (package, cpu) entry of a report.
structure report_entry where
  timestamp : Nat
  target : String
  socket : String
  cpu : String
  events : zhashx event_value

def pkg_entries (timestamp : Nat) (target socket : String) (cpus : zhashx payload_cpu_data) :
    List report_entry :=
  cpus.map fun cpu => ⟨timestamp, target, socket, cpu.1, cpu.2.events⟩

def group_entries (timestamp : Nat) (target : String) (pkgs : zhashx payload_pkg_data) :
    List report_entry :=
  pkgs.flatMap fun pkg => pkg_entries timestamp target pkg.1 pkg.2.cpus

def entries_in (timestamp : Nat) (target : String) (groups : zhashx payload_group_data)
    (group : String) : List report_entry :=
  match zhashx_lookup groups group with
  | none => []
  | some group_data => group_entries timestamp target group_data.pkgs

def payload_entries (group : String) (payload : payload) : List report_entry :=
  entries_in payload.timestamp payload.target_name payload.groups group

def all_entries (group : String) (payloads : List payload) : List report_entry :=
  payloads.flatMap (payload_entries group)

-- The cells of a row, when the entry has a value for each column.
def cells (cell : event_value → List Char) (events : zhashx event_value) :
    List String → Option (List Char)
  | [] => some []
  | column :: rest =>
      match zhashx_lookup events column, cells cell events rest with
      | some value, some text => some (',' :: cell value ++ text)
      | _, _ => none

def header_line (columns : List String) : List Char :=
  header_fixed ++ columns.flatMap fun column => ',' :: column.toList

def csv_row (cell : event_value → List Char) (sensor_name : String) (columns : List String)
    (entry : report_entry) : Option (List Char) :=
  (cells cell entry.events columns).map fun text =>
    row_fixed sensor_name entry.timestamp entry.target entry.socket entry.cpu ++ text

-- A counter as its decimal value, a callchain as its text.
def cell_text : event_value → List Char
  | .counter value => decimal value
  | .callchain text => text

-- The columns are those of the first entry.
def columns_of : List report_entry → List String
  | [] => []
  | first :: _ => sorted_names first.events

-- The file of a group holds a header and one row for each entry, with the value
-- of the entry in each cell.
def HoldsRows (sensor_name : String) (output : csv_output) (group : String)
    (entries : List report_entry) : Prop :=
  match entries with
  | [] => ∀ lines, (outfile_path output.ctx group, lines) ∈ output.files → lines = []
  | _ :: _ => ∃ columns rows, zhashx_lookup output.ctx.groups_events group = some columns ∧
      entries.map (csv_row cell_text sensor_name columns) = rows.map some ∧
      (outfile_path output.ctx group, (header_line columns :: rows).map (· ++ ['\n'])) ∈
        output.files

def Lossless (order : hash_order) (sensor_name output_dir : String)
    (groups : List (String × List String)) (payloads : List payload) : Prop :=
  let output := store_reports order payloads (csv_context_create sensor_name output_dir) []
  (∀ err ∈ output.errors, err = 0) ∧
    ∀ group ∈ groups, HoldsRows sensor_name output group.1 (all_entries group.1 payloads)

-- The text of a callchain ends each of its samples with a bar.
def CallchainText (text : List Char) : Prop :=
  text = [] ∨ text.getLast? = some '|'

-- The values of an entry: the two times and the events of the group, and a
-- callchain or none.
def Measured (names : List String) (events : zhashx event_value) : Prop :=
  (zhashx_keys events).Nodup ∧ ∃ (values : String → Nat) (text : Option (List Char)),
    (∀ t, text = some t → CallchainText t) ∧
    ∀ key, zhashx_lookup events key =
      if key ∈ "time_enabled" :: "time_running" :: names then some (.counter (values key))
      else if key = "callchain" then text.map .callchain else none

-- The reports of one target: the same groups in each of them, and in each group
-- the same packages with their cpus, so that all groups have entries or none has.
structure Produced (groups : List (String × List String)) (payloads : List payload) : Prop where
  names : ∀ payload ∈ payloads, (zhashx_keys payload.groups).Perm (groups.map Prod.fst)
  distinct : (groups.map Prod.fst).Nodup
  measured : ∀ payload ∈ payloads, ∀ group ∈ groups, ∀ entry ∈ payload_entries group.1 payload,
    Measured group.2 entry.events
  shape : (∀ payload ∈ payloads, ∀ group ∈ groups, payload_entries group.1 payload ≠ []) ∨
    ∀ payload ∈ payloads, ∀ group ∈ groups, payload_entries group.1 payload = []

-- Lines fit the buffer, and paths are no longer than a path may be.
structure Fits (sensor_name output_dir : String) (groups : List (String × List String))
    (payloads : List payload) : Prop where
  path : ∀ group ∈ groups,
    (outfile_path (csv_context_create sensor_name output_dir) group.1).length < PATH_MAX
  header : ∀ group ∈ groups,
    (header_line (columns_of (all_entries group.1 payloads))).length < CSV_LINE_BUFFER_SIZE
  row : ∀ group ∈ groups, ∀ entry ∈ all_entries group.1 payloads, ∀ row,
    csv_row cell_text sensor_name (columns_of (all_entries group.1 payloads)) entry = some row →
      row.length < CSV_LINE_BUFFER_SIZE

-- No file has got its columns from an entry with a callchain.
def HeaderWithoutCallchain (groups : List (String × List String)) (payloads : List payload) :
    Prop :=
  ∀ group ∈ groups, ∀ first, (all_entries group.1 payloads).head? = some first →
    ∀ text, zhashx_lookup first.events "callchain" ≠ some (.callchain text)

end HwpcSensor.Storage
