import HwpcSensor.Events
import HwpcSensor.Library.Getopt
import HwpcSensor.Strtol

namespace HwpcSensor

open Getopt

structure config_sensor where
  verbose : Nat
  frequency : Nat
  callchains_per_report : Nat
  cgroup_basepath : String
  name : Option String

inductive storage_type where
  | STORAGE_UNKNOWN
  | STORAGE_NULL
  | STORAGE_CSV
  | STORAGE_SOCKET
  | STORAGE_MONGODB
  deriving DecidableEq

structure config_storage where
  type : storage_type
  U_flag : Option String
  D_flag : Option String
  C_flag : Option String
  P_flag : Int

structure config_events where
  system : zhashx events_group
  containers : zhashx events_group

structure config where
  sensor : config_sensor
  storage : config_storage
  events : config_events

def DEFAULT_CGROUP_BASEPATH : String := "/sys/fs/cgroup/perf_event"

-- `P_flag` is what the allocated memory holds. The set up functions then create
-- the two tables of events groups.
def config_create (P_flag : Int) : config where
  sensor := ⟨0, 1000, 20, DEFAULT_CGROUP_BASEPATH, none⟩
  storage := ⟨.STORAGE_CSV, none, none, none, P_flag⟩
  events := ⟨[], []⟩

-- What is different from one build or machine to another: the order of the
-- tables, the events that libpfm knows and whether MongoDB is supported.
structure platform where
  order : hash_order
  pfm_get_os_event_encoding : String → perf_event_attr → Option perf_event_attr
  HAVE_MONGODB : Bool

variable (m : platform)

-- `PERF_FORMAT_TOTAL_TIME_ENABLED | PERF_FORMAT_TOTAL_TIME_RUNNING | PERF_FORMAT_GROUP`
def setup_perf_event_attr (event_name : String) : Option perf_event_attr :=
  m.pfm_get_os_event_encoding event_name
    { type := 0, config := 0, disabled := true, read_format := 1 + 2 + 8, exclude_user := false,
      exclude_kernel := false, exclude_hv := false, exclude_callchain_kernel := false,
      sample_type := 0, sample_freq := 0, freq := false, mmap := false, cgroup := false }

def event_config_create (event_name : String) : Option event_config :=
  (setup_perf_event_attr m event_name).map fun attr => ⟨event_name, attr⟩

-- By default, all the cpus of the available sockets are monitored.
def events_group_create (name : String) : events_group :=
  ⟨name, .MONITOR_ALL_CPU_PER_SOCKET, []⟩

def events_group_append_event (group : events_group) (event_name : String) :
    Option events_group :=
  (event_config_create m event_name).map fun event =>
    { group with events := group.events ++ [event] }

def strcasecmp_eq (s t : String) : Bool :=
  s.toList.map Char.toLower = t.toList.map Char.toLower

def storage_module_get_type (type_name : String) : storage_type :=
  if strcasecmp_eq type_name "null" then .STORAGE_NULL
  else if strcasecmp_eq type_name "csv" then .STORAGE_CSV
  else if strcasecmp_eq type_name "socket" then .STORAGE_SOCKET
  else if m.HAVE_MONGODB ∧ strcasecmp_eq type_name "mongodb" then .STORAGE_MONGODB
  else .STORAGE_UNKNOWN

-- The groups for the whole system and those for each container are set up alike.
inductive events_kind where
  | system
  | containers
  deriving DecidableEq

namespace config_events

def groups (events : config_events) : events_kind → zhashx events_group
  | .system => events.system
  | .containers => events.containers

def with_groups (events : config_events) (groups : zhashx events_group) :
    events_kind → config_events
  | .system => { events with system := groups }
  | .containers => { events with containers := groups }

-- A new group under a name, unless there is one already.
def create (events : config_events) (kind : events_kind) (group_name : String) : config_events :=
  events.with_groups
    (zhashx_insert m.order (events.groups kind) group_name (events_group_create group_name)) kind

-- A change through the pointer that the lookup gave.
def update (events : config_events) (kind : events_kind) (group_name : String)
    (change : events_group → events_group) : config_events :=
  events.with_groups ((events.groups kind).map fun item =>
    if item.1 = group_name then (item.1, change item.2) else item) kind

def set_type (events : config_events) (kind : events_kind) (group_name : String)
    (type : events_group_monitoring_type) : config_events :=
  events.update kind group_name fun group => { group with type := type }

def append_event (events : config_events) (kind : events_kind) (group_name event_name : String) :
    Option config_events := do
  let group ← zhashx_lookup (events.groups kind) group_name
  let group ← events_group_append_event m group event_name
  pure (events.update kind group_name fun _ => group)

end config_events

-- The value of a frequency that is a number and fits in an `unsigned int`.
def parse_frequency (str : String) : Option Nat :=
  let parsed := strtoul str.toList 0
  if str.toList = parsed.rest ∨ parsed.rest ≠ [] ∨ parsed.range_error then none
  else if parsed.value > UINT_MAX then none
  else some parsed.value

-- The loop over the options remembers the group that the last `-s` or `-c` named.
structure cli_state where
  config : config
  current_events_group : Option (events_kind × String)

def config.with_events (config : config) (events : config_events) : HwpcSensor.config :=
  { config with events := events }

def cli_state.create (s : cli_state) (kind : events_kind) (group_name : String) : cli_state where
  config := s.config.with_events (s.config.events.create m kind group_name)
  current_events_group := some (kind, group_name)

def handle_option (s : cli_state) : found → Option cli_state
  | .flag 'v' =>
      some { s with config.sensor.verbose := (s.config.sensor.verbose + 1) % 2 ^ 32 }
  | .value 'f' optarg => do
      let frequency ← parse_frequency optarg
      pure { s with config.sensor.frequency := frequency }
  | .value 'F' optarg => do
      let callchains_per_report ← parse_frequency optarg
      pure { s with config.sensor.callchains_per_report := callchains_per_report }
  | .value 'p' optarg => some { s with config.sensor.cgroup_basepath := optarg }
  | .value 'n' optarg => some { s with config.sensor.name := some optarg }
  | .value 's' optarg => some (s.create m .system optarg)
  | .value 'c' optarg => some (s.create m .containers optarg)
  | .flag 'o' => do
      let group ← s.current_events_group
      let events := s.config.events.set_type group.1 group.2 .MONITOR_ONE_CPU_PER_SOCKET
      pure { s with config := s.config.with_events events }
  | .value 'e' optarg => do
      let group ← s.current_events_group
      let events ← s.config.events.append_event m group.1 group.2 optarg
      pure { s with config := s.config.with_events events }
  | .value 'r' optarg =>
      let type := storage_module_get_type m optarg
      if type = .STORAGE_UNKNOWN then none else some { s with config.storage.type := type }
  | .value 'U' optarg => some { s with config.storage.U_flag := some optarg }
  | .value 'D' optarg => some { s with config.storage.D_flag := some optarg }
  | .value 'C' optarg => some { s with config.storage.C_flag := some optarg }
  | .value 'P' optarg =>
      some { s with config.storage.P_flag := (strtol optarg.toList 10).value.bmod (2 ^ 32) }
  | _ => none

def handle_options : List found → cli_state → Option cli_state
  | [], s => some s
  | option :: rest, s => do
      let s ← handle_option m s option
      handle_options rest s

def cli_options (argv : List String) : List found :=
  getopt "vf:F:p:n:s:c:e:or:U:D:C:P:" argv

def config_setup_from_cli (argv : List String) (config : config) : Option HwpcSensor.config :=
  (handle_options m (cli_options argv) ⟨config, none⟩).map cli_state.config

-- A value of a document, as far as the set up tells the types apart.
inductive bson_value where
  | utf8 (value : String)
  | document (fields : List (String × bson_value))
  | array (elements : List bson_value)
  | bool (value : Bool)
  | int32 (value : Int)
  | other

def parse_event_array (kind : events_kind) (group_name : String) :
    List bson_value → config_events → Option config_events
  | [], events => some events
  | .utf8 event_name :: rest, events => do
      let events ← events.append_event m kind group_name event_name
      parse_event_array kind group_name rest events
  | _ :: _, _ => none

def parse_group_field (kind : events_kind) (group_name : String) (events : config_events) :
    String × bson_value → Option config_events
  | (key_name, .utf8 value) =>
      if key_name = "monitoring_type" ∧ value = "MONITOR_ONE_CPU_PER_SOCKET" then
        some (events.set_type kind group_name .MONITOR_ONE_CPU_PER_SOCKET)
      else if key_name = "monitoring_type" ∧ value = "MONITOR_ALL_CPU_PER_SOCKET" then
        some (events.set_type kind group_name .MONITOR_ALL_CPU_PER_SOCKET)
      else none
  | (_, .array elements) => parse_event_array m kind group_name elements events
  | _ => none

def parse_group_fields (kind : events_kind) (group_name : String) :
    List (String × bson_value) → config_events → Option config_events
  | [], events => some events
  | field :: rest, events => do
      let events ← parse_group_field m kind group_name events field
      parse_group_fields kind group_name rest events

def iter_on_event_group_config (kind : events_kind) :
    List (String × bson_value) → config_events → Option config_events
  | [], events => some events
  | (group_name, .document fields) :: rest, events => do
      let events ← parse_group_fields m kind group_name fields (events.create m kind group_name)
      iter_on_event_group_config kind rest events
  | _ :: _, _ => none

def parse_storage_field (storage : config_storage) : String × bson_value → Option config_storage
  | (key_name, .utf8 value) =>
      if key_name = "type" then
        let type := storage_module_get_type m value
        if type = .STORAGE_UNKNOWN then none else some { storage with type := type }
      else if key_name = "database" then some { storage with D_flag := some value }
      else if key_name = "uri" ∨ key_name = "directory" then
        some { storage with U_flag := some value }
      else if key_name = "collection" then some { storage with C_flag := some value }
      else none
  | (_, .int32 value) => some { storage with P_flag := value }
  | _ => none

def iter_on_storage_config : List (String × bson_value) → config_storage → Option config_storage
  | [], storage => some storage
  | field :: rest, storage => do
      let storage ← parse_storage_field m storage field
      iter_on_storage_config rest storage

def parse_root_field (config : config) : String × bson_value → Option HwpcSensor.config
  | (key_name, .bool _) =>
      if key_name = "verbose" then
        some { config with sensor.verbose := (config.sensor.verbose + 1) % 2 ^ 32 }
      else none
  | (key_name, .int32 value) =>
      if key_name = "frequency" then
        some { config with sensor.frequency := (value % 2 ^ 32).toNat }
      else if key_name = "callchains_per_report" then
        some { config with sensor.callchains_per_report := (value % 2 ^ 32).toNat }
      else none
  | (key_name, .utf8 value) =>
      if key_name = "cgroup_basepath" then
        some { config with sensor.cgroup_basepath := value }
      else if key_name = "name" then some { config with sensor.name := some value }
      else none
  | (key_name, .document fields) =>
      if key_name = "system" then
        (iter_on_event_group_config m .system fields config.events).map config.with_events
      else if key_name = "container" then
        (iter_on_event_group_config m .containers fields config.events).map config.with_events
      else if key_name = "output" then do
        let storage ← iter_on_storage_config m fields config.storage
        pure { config with storage := storage }
      else none
  | _ => none

def iter_on_root_config : List (String × bson_value) → config → Option config
  | [], config => some config
  | field :: rest, config => do
      let config ← parse_root_field m config field
      iter_on_root_config rest config

def config_setup_from_file (config : config) (doc : List (String × bson_value)) :
    Option HwpcSensor.config :=
  iter_on_root_config m doc config

def config_validate (config : config) : Int :=
  if config.sensor.name = none then -1
  else if config.events.system.length = 0 ∧ config.events.containers.length = 0 then -1
  else if config.storage.type = .STORAGE_CSV ∧ config.storage.U_flag = none then -1
  else if config.storage.type = .STORAGE_SOCKET ∧
      (config.storage.U_flag = none ∨ config.storage.P_flag = 0) then -1
  else if config.storage.type = .STORAGE_SOCKET ∧ config.storage.P_flag = 0 then -1
  else if m.HAVE_MONGODB ∧ config.storage.type = .STORAGE_MONGODB ∧
      (config.storage.U_flag = none ∨ config.storage.D_flag = none ∨
        config.storage.C_flag = none) then -1
  else 0

end HwpcSensor
