import HwpcSensor.Config.Groups

namespace HwpcSensor

open Getopt

-- What can be asked for on the command line and in a configuration file alike.
inductive setting where
  | verbose (on : Bool)
  | frequency (n : Int)
  | callchains_per_report (n : Int)
  | cgroup_basepath (path : String)
  | sensor_name (name : String)
  | group (kind : events_kind) (group_name : String) (type : events_group_monitoring_type)
      (events : List String)
  | storage (type_name : String)
  | uri (value : String)
  | directory (value : String)
  | database (name : String)
  | collection (name : String)
  | port (n : Int)

def number (n : Int) : String :=
  String.ofList (signed_decimal n)

def group_option : events_kind → String
  | .system => "-s"
  | .containers => "-c"

def type_option : events_group_monitoring_type → List String
  | .MONITOR_ALL_CPU_PER_SOCKET => []
  | .MONITOR_ONE_CPU_PER_SOCKET => ["-o"]

def setting.args : setting → List String
  | .verbose on => if on then ["-v"] else []
  | .frequency n => ["-f", number n]
  | .callchains_per_report n => ["-F", number n]
  | .cgroup_basepath path => ["-p", path]
  | .sensor_name name => ["-n", name]
  | .group kind group_name type events =>
      group_option kind :: group_name :: type_option type ++
        events.flatMap fun event_name => ["-e", event_name]
  | .storage type_name => ["-r", type_name]
  | .uri value => ["-U", value]
  | .directory path => ["-U", path]
  | .database name => ["-D", name]
  | .collection name => ["-C", name]
  | .port n => ["-P", number n]

def settings_argv (settings : List setting) : List String :=
  "hwpc-sensor" :: settings.flatMap setting.args

def FitsInt32 (n : Int) : Prop :=
  INT_MIN ≤ n ∧ n ≤ INT_MAX

instance (n : Int) : Decidable (FitsInt32 n) := inferInstanceAs (Decidable (_ ∧ _))

def bson_integer (n : Int) : bson_value :=
  if FitsInt32 n then .int32 n else .other

def section_name : events_kind → String
  | .system => "system"
  | .containers => "container"

def monitoring_type : events_group_monitoring_type → String
  | .MONITOR_ALL_CPU_PER_SOCKET => "MONITOR_ALL_CPU_PER_SOCKET"
  | .MONITOR_ONE_CPU_PER_SOCKET => "MONITOR_ONE_CPU_PER_SOCKET"

def setting.field : setting → String × bson_value
  | .verbose on => ("verbose", .bool on)
  | .frequency n => ("frequency", bson_integer n)
  | .callchains_per_report n => ("callchains_per_report", bson_integer n)
  | .cgroup_basepath path => ("cgroup_basepath", .utf8 path)
  | .sensor_name name => ("name", .utf8 name)
  | .group kind group_name type events =>
      (section_name kind, .document [(group_name, .document
        [("monitoring_type", .utf8 (monitoring_type type)),
          ("events", .array (events.map bson_value.utf8))])])
  | .storage type_name => ("output", .document [("type", .utf8 type_name)])
  | .uri value => ("output", .document [("uri", .utf8 value)])
  | .directory path => ("output", .document [("directory", .utf8 path)])
  | .database name => ("output", .document [("database", .utf8 name)])
  | .collection name => ("output", .document [("collection", .utf8 name)])
  | .port n => ("output", .document [("port", bson_integer n)])

def settings_doc (settings : List setting) : List (String × bson_value) :=
  settings.map setting.field

-- Tables are the same when their lookups are.
structure SameSettings (c c' : config) : Prop where
  sensor : c.sensor = c'.sensor
  storage : c.storage = c'.storage
  events : ∀ kind group_name, zhashx_lookup (c.events.groups kind) group_name =
    zhashx_lookup (c'.events.groups kind) group_name

-- Both fail, or both leave the same settings.
def SameOutcome : Option config → Option config → Prop
  | none, none => True
  | some c, some c' => SameSettings c c'
  | _, _ => False

-- Where the two ways to configure the sensor differ: in what they make of the
-- verbosity turned off, of numbers, and of the type of a group.
structure front_end where
  counts_off : Bool
  unsigned : Int → Option Nat
  port : Int → Option Int
  sets_type : events_group_monitoring_type → Bool

def cli_front_end : front_end where
  counts_off := false
  unsigned n := parse_frequency (number n)
  port n := some ((strtol (number n).toList 10).value.bmod (2 ^ 32))
  sets_type type := type = .MONITOR_ONE_CPU_PER_SOCKET

def file_front_end : front_end where
  counts_off := true
  unsigned n := if FitsInt32 n then some (n % 2 ^ 32).toNat else none
  port n := if FitsInt32 n then some n else none
  sets_type _ := true

section Apply

variable (m : platform)

def append_events (kind : events_kind) (group_name : String) :
    List String → config_events → Option config_events
  | [], events => some events
  | event_name :: rest, events =>
      (events.append_event m kind group_name event_name).bind
        (append_events kind group_name rest)

def front_end.typed (f : front_end) (kind : events_kind) (group_name : String)
    (type : events_group_monitoring_type) (events : config_events) : config_events :=
  if f.sets_type type then events.set_type kind group_name type else events

def front_end.apply (f : front_end) (config : config) : setting → Option HwpcSensor.config
  | .verbose on =>
      some (if on || f.counts_off then
        { config with sensor.verbose := (config.sensor.verbose + 1) % 2 ^ 32 }
      else config)
  | .frequency n => (f.unsigned n).map fun value => { config with sensor.frequency := value }
  | .callchains_per_report n =>
      (f.unsigned n).map fun value => { config with sensor.callchains_per_report := value }
  | .cgroup_basepath path => some { config with sensor.cgroup_basepath := path }
  | .sensor_name name => some { config with sensor.name := some name }
  | .group kind group_name type events =>
      (append_events m kind group_name events
        (f.typed kind group_name type (config.events.create m kind group_name))).map
          config.with_events
  | .storage type_name =>
      if storage_module_get_type m type_name = .STORAGE_UNKNOWN then none
      else some { config with storage.type := storage_module_get_type m type_name }
  | .uri value => some { config with storage.U_flag := some value }
  | .directory path => some { config with storage.U_flag := some path }
  | .database name => some { config with storage.D_flag := some name }
  | .collection name => some { config with storage.C_flag := some name }
  | .port n => (f.port n).map fun value => { config with storage.P_flag := value }

def front_end.run (f : front_end) : List setting → config → Option config
  | [], config => some config
  | setting :: rest, config => (f.apply m config setting).bind (f.run rest)

end Apply

section Cli

variable {m : platform}

theorem handle_options_append (first second : List found) (s : cli_state) :
    handle_options m (first ++ second) s =
      (handle_options m first s).bind (handle_options m second) := by
  induction first generalizing s with
  | nil => rfl
  | cons option rest ih =>
      simp only [List.cons_append, handle_options, Option.bind_eq_bind, Option.bind_assoc, ih]

def group_found : events_kind → String → found
  | .system, group_name => .value 's' group_name
  | .containers, group_name => .value 'c' group_name

-- What `getopt` finds in the arguments of a setting.
def setting.options : setting → List found
  | .verbose on => if on then [.flag 'v'] else []
  | .frequency n => [.value 'f' (number n)]
  | .callchains_per_report n => [.value 'F' (number n)]
  | .cgroup_basepath path => [.value 'p' path]
  | .sensor_name name => [.value 'n' name]
  | .group kind group_name type events =>
      group_found kind group_name :: (type_option type).map (fun _ => .flag 'o') ++
        events.map (found.value 'e')
  | .storage type_name => [.value 'r' type_name]
  | .uri value => [.value 'U' value]
  | .directory path => [.value 'U' path]
  | .database name => [.value 'D' name]
  | .collection name => [.value 'C' name]
  | .port n => [.value 'P' (number n)]

def sensor_options : List Char := "vf:F:p:n:s:c:e:or:U:D:C:P:".toList

theorem scan_events (events rest : List String) :
    scan sensor_options none ((events.flatMap fun event_name => ["-e", event_name]) ++ rest) =
      events.map (found.value 'e') ++ scan sensor_options none rest := by
  induction events with
  | nil => rfl
  | cons event_name events ih => exact congrArg (found.value 'e' event_name :: ·) ih

theorem scan_args (setting : setting) (rest : List String) :
    scan sensor_options none (setting.args ++ rest) =
      setting.options ++ scan sensor_options none rest := by
  cases setting with
  | verbose on =>
      cases on
      · rfl
      · rfl
  | group kind group_name type events =>
      cases kind with
      | system =>
          cases type with
          | MONITOR_ALL_CPU_PER_SOCKET =>
              exact congrArg (found.value 's' group_name :: ·) (scan_events events rest)
          | MONITOR_ONE_CPU_PER_SOCKET =>
              exact congrArg (found.value 's' group_name :: .flag 'o' :: ·)
                (scan_events events rest)
      | containers =>
          cases type with
          | MONITOR_ALL_CPU_PER_SOCKET =>
              exact congrArg (found.value 'c' group_name :: ·) (scan_events events rest)
          | MONITOR_ONE_CPU_PER_SOCKET =>
              exact congrArg (found.value 'c' group_name :: .flag 'o' :: ·)
                (scan_events events rest)
  | _ => rfl

theorem cli_options_settings (settings : List setting) :
    cli_options (settings_argv settings) = settings.flatMap setting.options := by
  have hscan : ∀ settings : List setting,
      scan sensor_options none (settings.flatMap setting.args) =
        settings.flatMap setting.options := by
    intro settings
    induction settings with
    | nil => rfl
    | cons setting rest ih => rw [List.flatMap_cons, List.flatMap_cons, scan_args, ih]
  exact hscan settings

theorem handle_options_events (kind : events_kind) (group_name : String) (events : List String)
    (c : config) :
    handle_options m (events.map (found.value 'e')) ⟨c, some (kind, group_name)⟩ =
      (append_events m kind group_name events c.events).map fun events =>
        ⟨c.with_events events, some (kind, group_name)⟩ := by
  induction events generalizing c with
  | nil => rfl
  | cons event_name rest ih =>
      simp only [List.map_cons, handle_options, handle_option, append_events,
        Option.bind_eq_bind, Option.bind_some]
      cases happend : c.events.append_event m kind group_name event_name with
      | none => rfl
      | some events => exact ih (c.with_events events)

def setting.current (setting : setting) (current : Option (events_kind × String)) :
    Option (events_kind × String) :=
  match setting with
  | .group kind group_name _ _ => some (kind, group_name)
  | _ => current

-- The loop over the options takes the settings one after the other.
theorem handle_options_setting (c : config) (current : Option (events_kind × String))
    (setting : setting) :
    handle_options m setting.options ⟨c, current⟩ =
      (cli_front_end.apply m c setting).map fun c' => ⟨c', setting.current current⟩ := by
  cases setting with
  | verbose on => cases on <;> rfl
  | frequency n =>
      simp only [setting.options, handle_options, handle_option, front_end.apply, cli_front_end]
      cases parse_frequency (number n) <;> rfl
  | callchains_per_report n =>
      simp only [setting.options, handle_options, handle_option, front_end.apply, cli_front_end]
      cases parse_frequency (number n) <;> rfl
  | storage type_name =>
      simp only [setting.options, handle_options, handle_option, front_end.apply]
      split_ifs <;> rfl
  | group kind group_name type events =>
      have hcreate : handle_option m ⟨c, current⟩ (group_found kind group_name) =
          some ⟨c.with_events (c.events.create m kind group_name), some (kind, group_name)⟩ := by
        cases kind <;> rfl
      have hevents := handle_options_events (m := m) kind group_name events
        (c.with_events (cli_front_end.typed kind group_name type
          (c.events.create m kind group_name)))
      simp only [setting.options, List.cons_append, handle_options, hcreate, Option.bind_eq_bind,
        Option.bind_some]
      cases type with
      | MONITOR_ALL_CPU_PER_SOCKET =>
          refine hevents.trans ?_
          rw [front_end.apply, Option.map_map]
          rfl
      | MONITOR_ONE_CPU_PER_SOCKET =>
          refine hevents.trans ?_
          rw [front_end.apply, Option.map_map]
          rfl
  | _ => rfl

theorem handle_options_settings (settings : List setting) (c : config)
    (current : Option (events_kind × String)) :
    (handle_options m (settings.flatMap setting.options) ⟨c, current⟩).map cli_state.config =
      cli_front_end.run m settings c := by
  induction settings generalizing c current with
  | nil => rfl
  | cons setting rest ih =>
      rw [List.flatMap_cons, handle_options_append, handle_options_setting, front_end.run]
      cases cli_front_end.apply m c setting with
      | none => rfl
      | some c' => exact ih c' (setting.current current)

theorem config_setup_from_cli_settings (settings : List setting) (c : config) :
    config_setup_from_cli m (settings_argv settings) c = cli_front_end.run m settings c := by
  rw [config_setup_from_cli, cli_options_settings, handle_options_settings]

end Cli

section File

variable {m : platform}

theorem parse_event_array_events (kind : events_kind) (group_name : String)
    (names : List String) (events : config_events) :
    parse_event_array m kind group_name (names.map bson_value.utf8) events =
      append_events m kind group_name names events := by
  induction names generalizing events with
  | nil => rfl
  | cons event_name rest ih =>
      simp only [List.map_cons, parse_event_array, append_events, Option.bind_eq_bind]
      cases events.append_event m kind group_name event_name with
      | none => rfl
      | some events => exact ih events

theorem parse_group_fields_setting (kind : events_kind) (group_name : String)
    (type : events_group_monitoring_type) (names : List String) (events : config_events) :
    parse_group_fields m kind group_name
      [("monitoring_type", .utf8 (monitoring_type type)),
        ("events", .array (names.map bson_value.utf8))] events =
      append_events m kind group_name names (events.set_type kind group_name type) := by
  rw [← parse_event_array_events]
  cases type with
  | MONITOR_ALL_CPU_PER_SOCKET => exact Option.bind_fun_some _
  | MONITOR_ONE_CPU_PER_SOCKET => exact Option.bind_fun_some _

-- The loop over the fields of the document takes the settings one after the other.
theorem parse_root_field_setting (c : config) (setting : setting) :
    parse_root_field m c setting.field = file_front_end.apply m c setting := by
  cases setting with
  | frequency n =>
      simp only [setting.field, bson_integer, front_end.apply, file_front_end]
      split_ifs <;> rfl
  | callchains_per_report n =>
      simp only [setting.field, bson_integer, front_end.apply, file_front_end]
      split_ifs <;> rfl
  | port n =>
      simp only [setting.field, bson_integer, front_end.apply, file_front_end]
      split_ifs <;> rfl
  | storage type_name =>
      by_cases hunknown : storage_module_get_type m type_name = .STORAGE_UNKNOWN
      · simp [setting.field, parse_root_field, iter_on_storage_config, parse_storage_field,
          front_end.apply, hunknown]
      · simp [setting.field, parse_root_field, iter_on_storage_config, parse_storage_field,
          front_end.apply, hunknown]
  | group kind group_name type names =>
      have hfields := parse_group_fields_setting (m := m) kind group_name type names
        (c.events.create m kind group_name)
      have hgroup : iter_on_event_group_config m kind [(group_name, .document
          [("monitoring_type", .utf8 (monitoring_type type)),
            ("events", .array (names.map bson_value.utf8))])] c.events =
          append_events m kind group_name names
            ((c.events.create m kind group_name).set_type kind group_name type) := by
        rw [iter_on_event_group_config, hfields]
        exact Option.bind_fun_some _
      cases kind with
      | system => exact congrArg (Option.map c.with_events) hgroup
      | containers => exact congrArg (Option.map c.with_events) hgroup
  | verbose on => cases on <;> rfl
  | _ => rfl

theorem config_setup_from_file_settings (settings : List setting) (c : config) :
    config_setup_from_file m c (settings_doc settings) = file_front_end.run m settings c := by
  unfold config_setup_from_file settings_doc
  induction settings generalizing c with
  | nil => rfl
  | cons setting rest ih =>
      rw [List.map_cons, iter_on_root_config, parse_root_field_setting, front_end.run]
      cases file_front_end.apply m c setting with
      | none => rfl
      | some c' => exact ih c'

end File

end HwpcSensor
