import HwpcSensor.Config.Accepted
import HwpcSensor.Library.Resources
import HwpcSensor.Sensor.Monitoring

namespace HwpcSensor.Sensor.Main

open ChainedTable Interaction Perf Resources

-- What the process holds, apart from what lives as long as it does.
inductive resource where
  | zsys
  | perf_fd
  | pmu
  | topology
  | hwinfo
  | config
  | reader
  -- the texts that have been read from the configuration file
  | doc
  | storage
  | storage_context
  -- an initialized storage module
  | session
  | reporting
  | ticker
  | system_perf_monitor
  | container_monitor (actor : Nat)
  deriving DecidableEq

-- Actors and sockets need the context of the library. The reporting actor goes
-- through the storage module to the texts of the configuration, as neither the
-- contexts of the modules nor the groups of events have copies of them, and so
-- do the others to the names of the events.
def refers : resource → resource → Bool
  | .session, .storage => true
  | .session, .storage_context => true
  | .reporting, .storage => true
  | .reporting, .storage_context => true
  | .reporting, .session => true
  | .reporting, .doc => true
  | .reporting, .zsys => true
  | .ticker, .zsys => true
  | .system_perf_monitor, .doc => true
  | .system_perf_monitor, .zsys => true
  | .container_monitor _, .doc => true
  | .container_monitor _, .zsys => true
  | _, _ => false

variable (hash : String → Nat)

-- What a discovery that succeeds leaves in the table of the running targets.
def discovery (base_path : String) : Type :=
  { running_targets : Table String target // Discovered hash running_targets ∧
    ∀ entry ∈ running_targets.entries, entry.2.cgroup_basedir = some base_path }

inductive main_call where
  | create (what : resource)
  -- a creation whose failure is not looked at
  | start (what : resource)
  | perf_monitoring_actor (what : resource) (config : perf_config)
  | destroy (what : resource)
  -- a function that does nothing when there is nothing to destroy
  | dismiss (what : resource)
  | uname
  | access
  | pmu_topology_detect
  | hwinfo_detect
  | config_create
  | bson_json_reader_new_from_file (path : String)
  | bson_json_reader_read
  | storage_module_initialize
  | storage_module_ping
  | target_discover_running (base_path : String)
  | zclock_time
  | clock_tick (timestamp : Nat)
  | zclock_sleep (msecs : Int)

-- The memory of the configuration comes with what is in it.
def main_answer : main_call → Type
  | .create _ => Bool
  | .start _ => Unit
  | .perf_monitoring_actor _ _ => Unit
  | .destroy _ => Unit
  | .dismiss _ => Unit
  | .uname => Int
  | .access => Int
  | .pmu_topology_detect => Int
  | .hwinfo_detect => Option hwinfo
  | .config_create => Option Int
  | .bson_json_reader_new_from_file _ => Bool
  | .bson_json_reader_read => Option (List (String × bson_value))
  | main_call.storage_module_initialize => Int
  | .storage_module_ping => Int
  | .target_discover_running base_path => Option (discovery hash base_path)
  | .zclock_time => Nat
  | .clock_tick _ => Unit
  | .zclock_sleep _ => Unit

abbrev main_program (α : Type) := Prog main_call (main_answer hash) α

def acquire_if (acquired : Bool) (what : resource) (l : Ledger resource) : Ledger resource :=
  if acquired = true then l.acquire what else l

def succeeded (err : Int) : Bool :=
  err = 0

-- What an answer means for the ledger of the process.
def effect : (op : main_call) → main_answer hash op → Ledger resource → Ledger resource
  | .create what, created, l => acquire_if created what l
  | .start .reporting, _, l => (l.use .storage).acquire .reporting
  | .start what, _, l => l.acquire what
  | .perf_monitoring_actor what _, _, l => ((l.use .hwinfo).use .config).acquire what
  | .destroy what, _, l => l.release refers what
  | .dismiss what, _, l => l.dismiss refers what
  | .pmu_topology_detect, _, l => (l.use .pmu).use .topology
  | .hwinfo_detect, _, l => l.use .hwinfo
  | .config_create, memory, l => acquire_if (Option.isSome memory) .config l
  | .bson_json_reader_new_from_file _, opened, l => acquire_if opened .reader l
  | .bson_json_reader_read, doc, l => acquire_if (Option.isSome doc) .doc (l.use .reader)
  | main_call.storage_module_initialize, err, l =>
      acquire_if (succeeded err) .session (l.use .storage)
  | .storage_module_ping, _, l => l.use .session
  | .target_discover_running _, _, l => l.use .config
  | .clock_tick _, _, l => l.use .ticker
  | _, _, l => l

section

variable {hash}

def create (what : resource) : main_program hash Bool := perform (main_call.create what)

def start (what : resource) : main_program hash Unit := perform (main_call.start what)

def perf_monitoring_actor (what : resource) (config : perf_config) : main_program hash Unit :=
  perform (main_call.perf_monitoring_actor what config)

def destroy (what : resource) : main_program hash Unit := perform (main_call.destroy what)

def dismiss (what : resource) : main_program hash Unit := perform (main_call.dismiss what)

def uname : main_program hash Int := perform main_call.uname

def access : main_program hash Int := perform main_call.access

def pmu_topology_detect : main_program hash Int := perform main_call.pmu_topology_detect

def hwinfo_detect : main_program hash (Option hwinfo) := perform main_call.hwinfo_detect

def config_create : main_program hash (Option Int) := perform main_call.config_create

def bson_json_reader_new_from_file (path : String) : main_program hash Bool :=
  perform (main_call.bson_json_reader_new_from_file path)

def bson_json_reader_read : main_program hash (Option (List (String × bson_value))) :=
  perform main_call.bson_json_reader_read

def storage_module_initialize : main_program hash Int :=
  perform main_call.storage_module_initialize

def storage_module_ping : main_program hash Int := perform main_call.storage_module_ping

def storage_module_deinitialize : main_program hash Unit := destroy .session

def target_discover_running (base_path : String) :
    main_program hash (Option (discovery hash base_path)) :=
  perform (main_call.target_discover_running base_path)

def zclock_time : main_program hash Nat := perform main_call.zclock_time

def clock_tick (timestamp : Nat) : main_program hash Unit :=
  perform (main_call.clock_tick timestamp)

def zclock_sleep (msecs : Int) : main_program hash Unit :=
  perform (main_call.zclock_sleep msecs)

end

-- The first `--config-file` counts, whatever it is an argument of. The path stays
-- absent without one, and it is an error when nothing follows.
def parse_config_file_path : List String → Option (Option String)
  | [] => some none
  | arg :: rest =>
      if arg = "--config-file" then
        match rest with
        | [] => none
        | path :: _ => some (some path)
      else parse_config_file_path rest

-- The variables of `main` that are looked at when it cleans up.
structure pointers where
  sys_pmu_topology : Bool := false
  hwinfo : Bool := false
  config : Bool := false
  reader : Bool := false
  -- the module, and whether it has a context
  storage : Option Bool := none
  reporting : Bool := false
  ticker : Bool := false
  system_perf_monitor : Bool := false
  container_monitoring_actors : Option monitors := none

section Functions

variable {hash}

def perf_try_global_counting_event_open : main_program hash Int := do
  let found ← access
  if found = -1 then pure (-1)
  else
    let opened ← create .perf_fd
    if opened = false then pure (-1)
    else do
      destroy .perf_fd
      pure 0

-- The module without a context.
def storage_null_create : main_program hash (Option Bool) := do
  let allocated ← create .storage
  if allocated = false then pure none else pure (some false)

-- The creation of the other modules, which differ in what the two blocks hold.
def storage_module_create : main_program hash (Option Bool) := do
  let allocated ← create .storage
  if allocated = false then pure none
  else
    let context_allocated ← create .storage_context
    if context_allocated = false then do
      destroy .storage
      pure none
    else pure (some true)

def setup_storage_module (m : platform) (config : config) : main_program hash (Option Bool) :=
  match config.storage.type with
  | .STORAGE_NULL => storage_null_create
  | .STORAGE_CSV => storage_module_create
  | .STORAGE_SOCKET => storage_module_create
  | .STORAGE_MONGODB => if m.HAVE_MONGODB then storage_module_create else pure none
  | .STORAGE_UNKNOWN => pure none

def destroy_if (pointer : Bool) (what : resource) : main_program hash Unit :=
  if pointer = true then destroy what else pure ()

def storage_module_destroy : Option Bool → main_program hash Unit
  | none => pure ()
  | some context => do
      destroy_if context .storage_context
      destroy .storage

def sync_cgroups_running_monitored (m : platform) (hwinfo : hwinfo) (config : config)
    (actors : monitors) : main_program hash monitors := do
  let found ← target_discover_running config.sensor.cgroup_basepath
  let synced := Sensor.sync_cgroups_running_monitored hash m.order hwinfo config.events.containers
    (callchain_frequency config) actors (found.map Subtype.val)
  for_all (fun actor => destroy (.container_monitor actor))
    (synced.destroyed.drop actors.destroyed.length)
  for_all (fun started => perf_monitoring_actor (.container_monitor started.2) started.1)
    ((synced.created.drop actors.created.length).zipIdx actors.created.length)
  pure synced

-- The loop, for the rounds until the interruption is seen.
def monitor (m : platform) (hwinfo : hwinfo) (config : config) :
    Nat → monitors → main_program hash monitors
  | 0, actors => pure actors
  | rounds + 1, actors => do
      let actors ← (if config.events.containers.length ≠ 0 then
        sync_cgroups_running_monitored m hwinfo config actors else pure actors)
      let timestamp ← zclock_time
      clock_tick timestamp
      zclock_sleep ((config.sensor.frequency : Int).bmod (2 ^ 32))
      monitor m hwinfo config rounds actors

def start_system_monitor (m : platform) (hwinfo : hwinfo) (config : config) :
    main_program hash Unit :=
  if config.events.system.length ≠ 0 then
    perf_monitoring_actor .system_perf_monitor (perf_config_create m.order hwinfo
      config.events.system ⟨.ALL, none, none⟩ (callchain_frequency config))
  else pure ()

-- From here on nothing leads to the label before the loop is over.
def run (m : platform) (hwinfo : hwinfo) (config : config) (actors : monitors) (rounds : Nat)
    (s : pointers) : main_program hash (Int × pointers) := do
  start .reporting
  start .ticker
  start_system_monitor m hwinfo config
  let actors ← monitor m hwinfo config rounds actors
  storage_module_deinitialize
  pure (0, { s with
    reporting := true
    ticker := true
    system_perf_monitor := config.events.system.length ≠ 0
    container_monitoring_actors := some actors })

def setup_storage (m : platform) (hwinfo : hwinfo) (config : config) (actors : monitors)
    (rounds : Nat) (s : pointers) : main_program hash (Int × pointers) := do
  let storage ← setup_storage_module m config
  if storage = none then pure (1, s)
  else
    let s := { s with storage := storage }
    let err ← storage_module_initialize
    if err ≠ 0 then pure (1, s)
    else
      let err ← storage_module_ping
      if err ≠ 0 then do
        storage_module_deinitialize
        pure (1, s)
      else run m hwinfo config actors rounds s

def validate (m : platform) (hwinfo : hwinfo) (actors : monitors) (rounds : Nat) (s : pointers) :
    Option config → main_program hash (Int × pointers)
  | none => pure (1, s)
  | some config =>
      if config_validate m config ≠ 0 then pure (1, s)
      else setup_storage m hwinfo config actors rounds s

def setup_config (m : platform) (argv : List String) (hwinfo : hwinfo) (actors : monitors)
    (rounds : Nat) (s : pointers) : main_program hash (Int × pointers) := do
  let memory ← config_create
  match memory with
  | none => pure (1, s)
  | some P_flag =>
      let s := { s with config := true }
      match parse_config_file_path argv with
      | none => pure (1, s)
      | some none =>
          validate m hwinfo actors rounds s
            (config_setup_from_cli m argv (HwpcSensor.config_create P_flag))
      | some (some config_file_path) => do
          let opened ← bson_json_reader_new_from_file config_file_path
          if opened = false then pure (1, s)
          else
            let s := { s with reader := true }
            let doc ← bson_json_reader_read
            match doc with
            | none => pure (1, s)
            | some doc =>
                validate m hwinfo actors rounds s
                  (config_setup_from_file m (HwpcSensor.config_create P_flag) doc)

def setup_hwinfo (m : platform) (argv : List String) (actors : monitors) (rounds : Nat)
    (s : pointers) : main_program hash (Int × pointers) := do
  let created ← create .hwinfo
  if created = false then pure (1, s)
  else
    let s := { s with hwinfo := true }
    let detected ← hwinfo_detect
    match detected with
    | none => pure (1, s)
    | some hwinfo => setup_config m argv hwinfo actors rounds s

-- Everything up to the label.
def setup (m : platform) (argv : List String) (actors : monitors) (rounds : Nat) :
    main_program hash (Int × pointers) := do
  let err ← uname
  if err ≠ 0 then pure (1, {})
  else
    let err ← perf_try_global_counting_event_open
    if err ≠ 0 then pure (1, {})
    else
      let initialized ← create .pmu
      if initialized = false then pure (1, {})
      else
        let created ← create .topology
        if created = false then pure (1, {})
        else
          let err ← pmu_topology_detect
          if err ≠ 0 then pure (1, { sys_pmu_topology := true })
          else setup_hwinfo m argv actors rounds { sys_pmu_topology := true }

def container_actors (s : pointers) : List Nat :=
  match s.container_monitoring_actors with
  | none => []
  | some actors => actors.container_monitoring_actors.entries.map Prod.snd

def cleanup (s : pointers) : main_program hash Unit := do
  destroy_if s.reader .reader
  dismiss .doc
  for_all (fun actor => destroy (.container_monitor actor)) (container_actors s)
  destroy_if s.system_perf_monitor .system_perf_monitor
  destroy_if s.reporting .reporting
  storage_module_destroy s.storage
  destroy_if s.ticker .ticker
  destroy_if s.config .config
  destroy_if s.sys_pmu_topology .topology
  dismiss .pmu
  destroy_if s.hwinfo .hwinfo
  destroy .zsys

-- `zhashx_new` gives an empty table with this number of buckets.
def main (m : platform) (argv : List String) (limit rounds : Nat) : main_program hash Int := do
  let initialized ← create .zsys
  if initialized = false then pure 1
  else
    let done ← setup m argv (sensor.start limit).monitors rounds
    cleanup done.2
    pure done.1

end Functions

end HwpcSensor.Sensor.Main
