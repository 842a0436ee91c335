import HwpcSensor.Config.Accepted
import HwpcSensor.Config.Agreement

namespace HwpcSensor

open Getopt

def storage_types_name : storage_type → String
  | .STORAGE_UNKNOWN => "unknown"
  | .STORAGE_NULL => "null"
  | .STORAGE_CSV => "csv"
  | .STORAGE_SOCKET => "socket"
  | .STORAGE_MONGODB => "mongodb"

-- What the operations on the groups leave in the tables.
structure Grown (m : platform) (events : config_events) : Prop where
  nodup : ∀ kind, (zhashx_keys (events.groups kind)).Nodup
  named : ∀ kind, ∀ item ∈ events.groups kind, item.2.name = item.1
  created : ∀ kind, ∀ item ∈ events.groups kind, ∀ event ∈ item.2.events,
    event_config_create m event.name = some event

-- What the set up leaves in the rest.
structure Ranged (m : platform) (c : config) : Prop where
  verbose : c.sensor.verbose < 2 ^ 32
  frequency : c.sensor.frequency < 2 ^ 32
  callchains_per_report : c.sensor.callchains_per_report < 2 ^ 32
  known : c.storage.type ≠ .STORAGE_UNKNOWN
  type : storage_module_get_type m (storage_types_name c.storage.type) = c.storage.type

section Invariants

variable {m : platform}

theorem Grown.nil : Grown m ⟨[], []⟩ := by
  refine ⟨fun kind => ?_, fun kind item hitem => ?_, fun kind item hitem => ?_⟩
  · cases kind <;> exact List.nodup_nil
  · cases kind <;> exact absurd hitem (by simp [config_events.groups])
  · cases kind <;> exact absurd hitem (by simp [config_events.groups])

theorem Grown.create {events : config_events} (h : Grown m events) (kind : events_kind)
    (group_name : String) : Grown m (events.create m kind group_name) := by
  have hmem : ∀ other, ∀ item ∈ (events.create m kind group_name).groups other,
      item ∈ events.groups other ∨ item = (group_name, events_group_create group_name) := by
    intro other item hitem
    by_cases hkind : other = kind
    · subst hkind
      simp only [config_events.create, groups_with_groups_self] at hitem
      by_cases hold : group_name ∈ zhashx_keys (events.groups other)
      · rw [zhashx_insert_of_mem m.order hold] at hitem
        exact Or.inl hitem
      · exact (List.mem_cons.mp ((zhashx_insert_perm m.order hold _).mem_iff.mp hitem)).symm
    · simp only [config_events.create, groups_with_groups_ne hkind] at hitem
      exact Or.inl hitem
  refine ⟨fun other => ?_, fun other item hitem => ?_, fun other item hitem => ?_⟩
  · by_cases hkind : other = kind
    · subst hkind
      simp only [config_events.create, groups_with_groups_self]
      exact nodup_zhashx_insert m.order (h.nodup other) _ _
    · simp only [config_events.create, groups_with_groups_ne hkind]
      exact h.nodup other
  · rcases hmem other item hitem with hold | rfl
    · exact h.named other item hold
    · rfl
  · rcases hmem other item hitem with hold | rfl
    · exact h.created other item hold
    · intro event hevent
      exact absurd hevent List.not_mem_nil

theorem Grown.update {events : config_events} (h : Grown m events) {kind : events_kind}
    {group_name : String} {change : events_group → events_group}
    (hname : ∀ item ∈ events.groups kind, item.1 = group_name →
      (change item.2).name = item.1)
    (hcreated : ∀ item ∈ events.groups kind, item.1 = group_name →
      ∀ event ∈ (change item.2).events, event_config_create m event.name = some event) :
    Grown m (events.update kind group_name change) := by
  refine ⟨fun other => ?_, fun other item hitem => ?_, fun other item hitem => ?_⟩
  · rw [keys_groups_update]
    exact h.nodup other
  · obtain ⟨old, hold, hkey, hchanged, hkept⟩ := mem_groups_update hitem
    by_cases hboth : other = kind ∧ old.1 = group_name
    · rw [hchanged hboth, hkey]
      exact hname old (hboth.1 ▸ hold) hboth.2
    · rw [hkept hboth, hkey]
      exact h.named other old hold
  · obtain ⟨old, hold, hkey, hchanged, hkept⟩ := mem_groups_update hitem
    by_cases hboth : other = kind ∧ old.1 = group_name
    · rw [hchanged hboth]
      exact hcreated old (hboth.1 ▸ hold) hboth.2
    · rw [hkept hboth]
      exact h.created other old hold

theorem Grown.apply_op {events after : config_events} {op : events_op} (h : Grown m events)
    (hop : apply_op m events op = some after) : Grown m after := by
  cases op with
  | create kind group_name =>
      obtain rfl := Option.some.inj hop
      exact h.create kind group_name
  | set_type kind group_name type =>
      obtain rfl := Option.some.inj hop
      exact h.update (fun item hitem _ => h.named kind item hitem)
        (fun item hitem _ => h.created kind item hitem)
  | append kind group_name event_name =>
      obtain ⟨group, hlookup, happend⟩ := Option.bind_eq_some_iff.mp hop
      obtain ⟨appended, hevent, hafter⟩ := Option.bind_eq_some_iff.mp happend
      obtain rfl := Option.some.inj hafter
      obtain ⟨event, hcreate, rfl⟩ := Option.map_eq_some_iff.mp hevent
      have hgroup := mem_of_zhashx_lookup hlookup
      refine h.update (fun item hitem hkey => ?_) (fun item hitem hkey => ?_)
      · exact hkey ▸ h.named kind _ hgroup
      · intro event' hevent'
        rcases List.mem_append.mp hevent' with hold | hnew
        · exact h.created kind _ hgroup event' hold
        · obtain rfl := List.mem_singleton.mp hnew
          obtain ⟨attr, hattr, rfl⟩ := Option.map_eq_some_iff.mp hcreate
          exact hcreate

theorem Grown.apply_ops {events after : config_events} {ops : List events_op}
    (h : Grown m events) (hops : apply_ops m ops events = some after) : Grown m after := by
  induction ops generalizing events with
  | nil =>
      obtain rfl := Option.some.inj hops
      exact h
  | cons op ops ih =>
      obtain ⟨next, hop, hops⟩ := Option.bind_eq_some_iff.mp hops
      exact ih (h.apply_op hop) hops

theorem get_type_storage_types_name {type : storage_type} (hknown : type ≠ .STORAGE_UNKNOWN)
    (hmongodb : type = .STORAGE_MONGODB → m.HAVE_MONGODB) :
    storage_module_get_type m (storage_types_name type) = type := by
  unfold storage_module_get_type
  cases type with
  | STORAGE_UNKNOWN => exact absurd rfl hknown
  | STORAGE_NULL => exact if_pos (by decide +kernel)
  | STORAGE_CSV =>
      rw [if_neg (by decide +kernel)]
      exact if_pos (by decide +kernel)
  | STORAGE_SOCKET =>
      rw [if_neg (by decide +kernel), if_neg (by decide +kernel)]
      exact if_pos (by decide +kernel)
  | STORAGE_MONGODB =>
      rw [if_neg (by decide +kernel), if_neg (by decide +kernel), if_neg (by decide +kernel)]
      exact if_pos ⟨hmongodb rfl, by decide +kernel⟩

theorem have_mongodb_of_get_type {type_name : String}
    (h : storage_module_get_type m type_name = .STORAGE_MONGODB) : m.HAVE_MONGODB := by
  unfold storage_module_get_type at h
  split_ifs at h with _ _ _ hmongodb
  exact hmongodb.1

theorem parse_frequency_lt {str : String} {value : Nat} (h : parse_frequency str = some value) :
    value < 2 ^ 32 := by
  unfold parse_frequency at h
  obtain ⟨-, h⟩ := Option.ite_none_left_eq_some.mp h
  obtain ⟨hmax, h⟩ := Option.ite_none_left_eq_some.mp h
  obtain rfl := Option.some.inj h
  unfold UINT_MAX at hmax
  omega

theorem Ranged.with_type {c : config} (h : Ranged m c) {type_name : String}
    (hknown : storage_module_get_type m type_name ≠ .STORAGE_UNKNOWN) :
    Ranged m { c with storage.type := storage_module_get_type m type_name } :=
  ⟨h.verbose, h.frequency, h.callchains_per_report, hknown,
    get_type_storage_types_name hknown have_mongodb_of_get_type⟩

theorem Ranged.create (P_flag : Int) : Ranged m (config_create P_flag) := by
  have hknown : storage_type.STORAGE_CSV ≠ .STORAGE_UNKNOWN := by decide
  refine ⟨show 0 < 2 ^ 32 by decide, show 1000 < 2 ^ 32 by decide, show 20 < 2 ^ 32 by decide,
    hknown, ?_⟩
  exact get_type_storage_types_name hknown fun h => storage_type.noConfusion h

theorem Ranged.handle_option {s s' : cli_state} {option : found} (h : Ranged m s.config)
    (hoption : handle_option m s option = some s') : Ranged m s'.config := by
  unfold HwpcSensor.handle_option at hoption
  split at hoption
  case h_1 =>
      obtain rfl := Option.some.inj hoption
      exact ⟨Nat.mod_lt _ (by decide), h.frequency, h.callchains_per_report, h.known, h.type⟩
  case h_2 =>
      obtain ⟨frequency, hparse, hoption⟩ := Option.bind_eq_some_iff.mp hoption
      obtain rfl := Option.some.inj hoption
      exact ⟨h.verbose, parse_frequency_lt hparse, h.callchains_per_report, h.known, h.type⟩
  case h_3 =>
      obtain ⟨callchains_per_report, hparse, hoption⟩ := Option.bind_eq_some_iff.mp hoption
      obtain rfl := Option.some.inj hoption
      exact ⟨h.verbose, h.frequency, parse_frequency_lt hparse, h.known, h.type⟩
  case h_8 =>
      obtain ⟨group, -, hoption⟩ := Option.bind_eq_some_iff.mp hoption
      obtain rfl := Option.some.inj hoption
      exact ⟨h.verbose, h.frequency, h.callchains_per_report, h.known, h.type⟩
  case h_9 =>
      obtain ⟨group, -, hoption⟩ := Option.bind_eq_some_iff.mp hoption
      obtain ⟨events, -, hoption⟩ := Option.bind_eq_some_iff.mp hoption
      obtain rfl := Option.some.inj hoption
      exact ⟨h.verbose, h.frequency, h.callchains_per_report, h.known, h.type⟩
  case h_10 =>
      obtain ⟨hknown, hoption⟩ := Option.ite_none_left_eq_some.mp hoption
      obtain rfl := Option.some.inj hoption
      exact h.with_type hknown
  case h_15 => exact absurd hoption (by simp)
  all_goals
    obtain rfl := Option.some.inj hoption
    exact ⟨h.verbose, h.frequency, h.callchains_per_report, h.known, h.type⟩

theorem Ranged.handle_options {s s' : cli_state} {options : List found} (h : Ranged m s.config)
    (hoptions : handle_options m options s = some s') : Ranged m s'.config := by
  induction options generalizing s with
  | nil =>
      obtain rfl := Option.some.inj hoptions
      exact h
  | cons option rest ih =>
      obtain ⟨next, hoption, hrest⟩ := Option.bind_eq_some_iff.mp hoptions
      exact ih (h.handle_option hoption) hrest

theorem Ranged.parse_storage_field {c : config} {storage : config_storage}
    {field : String × bson_value} (h : Ranged m c)
    (hfield : parse_storage_field m c.storage field = some storage) :
    Ranged m { c with storage := storage } := by
  unfold HwpcSensor.parse_storage_field at hfield
  split at hfield
  case h_1 =>
      split_ifs at hfield
      · obtain ⟨hknown, hfield⟩ := Option.ite_none_left_eq_some.mp hfield
        obtain rfl := Option.some.inj hfield
        exact h.with_type hknown
      all_goals
        obtain rfl := Option.some.inj hfield
        exact ⟨h.verbose, h.frequency, h.callchains_per_report, h.known, h.type⟩
  case h_2 =>
      obtain rfl := Option.some.inj hfield
      exact ⟨h.verbose, h.frequency, h.callchains_per_report, h.known, h.type⟩
  case h_3 => exact absurd hfield (by simp)

theorem Ranged.iter_on_storage_config {c : config} {storage : config_storage}
    {fields : List (String × bson_value)} (h : Ranged m c)
    (hfields : iter_on_storage_config m fields c.storage = some storage) :
    Ranged m { c with storage := storage } := by
  induction fields generalizing c with
  | nil =>
      obtain rfl := Option.some.inj hfields
      exact h
  | cons field rest ih =>
      obtain ⟨next, hfield, hrest⟩ := Option.bind_eq_some_iff.mp hfields
      exact ih (c := { c with storage := next }) (h.parse_storage_field hfield) hrest

theorem Ranged.parse_root_field {c c' : config} {field : String × bson_value} (h : Ranged m c)
    (hfield : parse_root_field m c field = some c') : Ranged m c' := by
  obtain ⟨key_name, value⟩ := field
  cases value with
  | document fields =>
      simp only [HwpcSensor.parse_root_field] at hfield
      split_ifs at hfield
      · obtain ⟨events, -, rfl⟩ := Option.map_eq_some_iff.mp hfield
        exact ⟨h.verbose, h.frequency, h.callchains_per_report, h.known, h.type⟩
      · obtain ⟨events, -, rfl⟩ := Option.map_eq_some_iff.mp hfield
        exact ⟨h.verbose, h.frequency, h.callchains_per_report, h.known, h.type⟩
      · obtain ⟨storage, hstorage, hfield⟩ := Option.bind_eq_some_iff.mp hfield
        obtain rfl := Option.some.inj hfield
        exact h.iter_on_storage_config hstorage
  | utf8 value =>
      simp only [HwpcSensor.parse_root_field] at hfield
      split_ifs at hfield
      all_goals
        obtain rfl := Option.some.inj hfield
        exact ⟨h.verbose, h.frequency, h.callchains_per_report, h.known, h.type⟩
  | int32 value =>
      have hvalue : (value % 2 ^ 32).toNat < 2 ^ 32 := by omega
      simp only [HwpcSensor.parse_root_field] at hfield
      split_ifs at hfield
      · obtain rfl := Option.some.inj hfield
        exact ⟨h.verbose, hvalue, h.callchains_per_report, h.known, h.type⟩
      · obtain rfl := Option.some.inj hfield
        exact ⟨h.verbose, h.frequency, hvalue, h.known, h.type⟩
  | bool value =>
      obtain ⟨-, hfield⟩ := Option.ite_none_right_eq_some.mp hfield
      obtain rfl := Option.some.inj hfield
      exact ⟨Nat.mod_lt _ (by decide), h.frequency, h.callchains_per_report, h.known, h.type⟩
  | array elements => cases hfield
  | other => cases hfield

theorem Ranged.iter_on_root_config {c c' : config} {doc : List (String × bson_value)}
    (h : Ranged m c) (hdoc : iter_on_root_config m doc c = some c') : Ranged m c' := by
  induction doc generalizing c with
  | nil =>
      obtain rfl := Option.some.inj hdoc
      exact h
  | cons field rest ih =>
      obtain ⟨next, hfield, hrest⟩ := Option.bind_eq_some_iff.mp hdoc
      exact ih (h.parse_root_field hfield) hrest

theorem setup_ranged {source : config_source} {P_flag : Int} {c : config}
    (h : source.setup m P_flag = some c) : Ranged m c := by
  cases source with
  | cli argv =>
      obtain ⟨s, hoptions, rfl⟩ := Option.map_eq_some_iff.mp h
      exact Ranged.handle_options (Ranged.create P_flag) hoptions
  | file doc => exact (Ranged.create P_flag).iter_on_root_config h

theorem setup_grown {source : config_source} {P_flag : Int} {c : config}
    (h : source.setup m P_flag = some c) : Grown m c.events := by
  have hops : apply_ops m source.ops (config_create P_flag).events = some c.events := by
    cases source with
    | cli argv =>
        obtain ⟨s, hoptions, rfl⟩ := Option.map_eq_some_iff.mp h
        exact handle_options_ops hoptions
    | file doc => exact iter_on_root_config_ops h
  exact Grown.nil.apply_ops hops

end Invariants

section Printing

variable {m : platform} {f : front_end}

def group_setting (kind : events_kind) (item : String × events_group) : setting :=
  .group kind item.1 item.2.type (item.2.events.map event_config.name)

def config_events.settings (events : config_events) : List setting :=
  events.system.map (group_setting .system) ++ events.containers.map (group_setting .containers)

-- The numbers are written in the way that is given.
def config.other_settings (integer : Nat → Int) (c : config) : List setting :=
  List.replicate c.sensor.verbose (.verbose true) ++
    ([.frequency (integer c.sensor.frequency),
      .callchains_per_report (integer c.sensor.callchains_per_report),
      .cgroup_basepath c.sensor.cgroup_basepath,
      .storage (storage_types_name c.storage.type), .port c.storage.P_flag] ++
    (c.sensor.name.toList.map .sensor_name ++ (c.storage.U_flag.toList.map .uri ++
      (c.storage.D_flag.toList.map .database ++ c.storage.C_flag.toList.map .collection))))

def config.settings (integer : Nat → Int) (c : config) : List setting :=
  c.other_settings integer ++ c.events.settings

def config.argv (c : config) : List String :=
  settings_argv (c.settings fun n => n)

-- A frequency over `INT_MAX` is written as the `int` of the same bits.
def config.doc (c : config) : List (String × bson_value) :=
  settings_doc (c.settings fun n => (n : Int).bmod (2 ^ 32))

theorem run_append (first second : List setting) (c : config) :
    f.run m (first ++ second) c = (f.run m first c).bind (f.run m second) := by
  induction first generalizing c with
  | nil => rfl
  | cons item rest ih =>
      simp only [List.cons_append, front_end.run, Option.bind_assoc, ih]

theorem run_verbose (n : Nat) {c : config} (h : c.sensor.verbose + n < 2 ^ 32) :
    f.run m (List.replicate n (.verbose true)) c =
      some { c with sensor.verbose := c.sensor.verbose + n } := by
  induction n generalizing c with
  | zero => rfl
  | succ n ih =>
      have hmod : (c.sensor.verbose + 1) % 2 ^ 32 = c.sensor.verbose + 1 := by omega
      rw [List.replicate_succ, front_end.run]
      simp only [front_end.apply, Bool.true_or, if_pos, hmod, Option.bind_some]
      rw [ih (show c.sensor.verbose + 1 + n < 2 ^ 32 by omega)]
      simp only [Nat.add_comm 1, Nat.add_assoc]

theorem types_of_map_group {table : zhashx events_group} (hnodup : (zhashx_keys table).Nodup)
    (kind other : events_kind) (group_name : String) :
    types_of (table.map (group_setting kind)) other group_name =
      if kind = other then ((zhashx_lookup table group_name).map fun group => [group.type]).getD []
      else [] := by
  unfold types_of
  rw [List.filterMap_map, List.filterMap_eq_flatMap_toList, ← zhashx_flatMap_at hnodup]
  by_cases hkind : kind = other
  · rw [if_pos hkind]
    refine List.flatMap_congr fun item _ => ?_
    by_cases hname : item.1 = group_name
    · simp [group_setting, setting.group_type, hkind, hname]
    · simp [group_setting, setting.group_type, hkind, hname]
  · rw [if_neg hkind]
    refine List.flatMap_eq_nil_iff.mpr fun item _ => ?_
    simp [group_setting, setting.group_type, hkind]

theorem names_of_map_group {table : zhashx events_group} (hnodup : (zhashx_keys table).Nodup)
    (kind other : events_kind) (group_name : String) :
    names_of (table.map (group_setting kind)) other group_name =
      if kind = other then ((zhashx_lookup table group_name).map fun group =>
        group.events.map event_config.name).getD []
      else [] := by
  unfold names_of
  rw [List.flatMap_map, ← zhashx_flatMap_at hnodup]
  by_cases hkind : kind = other
  · simp only [if_pos hkind]
    refine List.flatMap_congr fun item _ => ?_
    simp [group_setting, setting.group_events, hkind]
  · rw [if_neg hkind]
    refine List.flatMap_eq_nil_iff.mpr fun item _ => ?_
    simp [group_setting, setting.group_events, hkind]

theorem Grouped.run {done rest : List setting} {c c' : config} (h : Grouped f m done c.events)
    (hrun : f.run m rest c = some c') : Grouped f m (done ++ rest) c'.events := by
  induction rest generalizing done c with
  | nil =>
      obtain rfl := Option.some.inj hrun
      rwa [List.append_nil]
  | cons item rest ih =>
      obtain ⟨next, happly, hrest⟩ := Option.bind_eq_some_iff.mp hrun
      rw [List.append_cons]
      exact ih (h.apply happly) hrest

theorem run_groups_keep {settings : List setting} {c c' : config}
    (hgroups : ∀ item ∈ settings, ∃ kind entry, item = group_setting kind entry)
    (hrun : f.run m settings c = some c') : c'.sensor = c.sensor ∧ c'.storage = c.storage := by
  induction settings generalizing c with
  | nil =>
      obtain rfl := Option.some.inj hrun
      exact ⟨rfl, rfl⟩
  | cons item rest ih =>
      obtain ⟨next, happly, hrest⟩ := Option.bind_eq_some_iff.mp hrun
      obtain ⟨hsensor, hstorage⟩ := ih (fun item hitem =>
        hgroups item (List.mem_cons_of_mem _ hitem)) hrest
      obtain ⟨kind, entry, rfl⟩ := hgroups item List.mem_cons_self
      obtain ⟨events, -, rfl⟩ := Option.map_eq_some_iff.mp happly
      exact ⟨hsensor, hstorage⟩

-- A front end that reads back what is written for it.
structure ReadsBack (f : front_end) (integer : Nat → Int) : Prop where
  unsigned : ∀ n < 2 ^ 32, f.unsigned (integer n) = some n
  port : ∀ n, FitsInt32 n → f.port n = some n
  type : ∀ type, f.type_after [type] = type

theorem cli_reads : ReadsBack cli_front_end fun n => n := by
  refine ⟨fun n hn => ?_, fun n hn => ?_, fun type => ?_⟩
  · have hunsigned : CliUnsigned n := Or.inl ⟨by omega, by omega⟩
    show parse_frequency (number n) = some n
    rw [parse_frequency_number, if_pos hunsigned, Option.some.injEq]
    omega
  · obtain ⟨hmin, hmax⟩ := hn
    unfold INT_MIN at hmin
    unfold INT_MAX at hmax
    have hclamp : max LONG_MIN (min LONG_MAX n) = n := by
      unfold LONG_MIN LONG_MAX
      omega
    rw [cli_port, hclamp, Int.bmod_eq_of_le (by omega) (by omega)]
  · cases type <;> rfl

theorem file_reads : ReadsBack file_front_end fun n => (n : Int).bmod (2 ^ 32) := by
  refine ⟨fun n hn => ?_, fun n hn => if_pos hn, fun type => rfl⟩
  have hfits : FitsInt32 ((n : Int).bmod (2 ^ 32)) := by
    unfold FitsInt32 INT_MIN INT_MAX
    exact ⟨by have := Int.le_bmod (x := n) (m := 2 ^ 32) (by decide); omega,
      by have := Int.bmod_lt (x := n) (m := 2 ^ 32) (by decide); omega⟩
  have hmod : (n : Int).bmod (2 ^ 32) % 2 ^ 32 = n % 2 ^ 32 := Int.bmod_emod
  have hvalue : ((n : Int).bmod (2 ^ 32) % 2 ^ 32).toNat = n := by omega
  simp only [file_front_end, if_pos hfits, hvalue]

theorem run_optional {value : Option String} {option : String → setting}
    {change : String → config → config}
    (happly : ∀ value c, f.apply m c (option value) = some (change value c)) (c : config) :
    f.run m (value.toList.map option) c = some (value.elim c fun value => change value c) := by
  cases value with
  | none => rfl
  | some value => simp [front_end.run, happly]

theorem run_other_settings {integer : Nat → Int} {c : config} (hreads : ReadsBack f integer)
    (h : Ranged m c) (hport : FitsInt32 c.storage.P_flag) (P_flag : Int) :
    f.run m (c.other_settings integer) (config_create P_flag) =
      some { c with events := ⟨[], []⟩ } := by
  have hverbose := run_verbose (m := m) (f := f) c.sensor.verbose (c := config_create P_flag)
    (show 0 + c.sensor.verbose < 2 ^ 32 by have := h.verbose; omega)
  unfold config.other_settings
  rw [run_append, hverbose, Option.bind_some, run_append]
  simp only [front_end.run, front_end.apply, hreads.unsigned _ h.frequency,
    hreads.unsigned _ h.callchains_per_report, hreads.port _ hport, h.type, if_neg h.known,
    Option.map_some, Option.bind_some]
  rw [run_append, run_optional (fun _ _ => rfl), Option.bind_some, run_append,
    run_optional (fun _ _ => rfl), Option.bind_some, run_append,
    run_optional (fun _ _ => rfl), Option.bind_some, run_optional (fun _ _ => rfl)]
  obtain ⟨⟨verbose, frequency, callchains_per_report, cgroup_basepath, name⟩,
    ⟨type, U_flag, D_flag, C_flag, port⟩, events⟩ := c
  cases name <;> cases U_flag <;> cases D_flag <;> cases C_flag <;>
    simp [config_create]

theorem group_setting_taken {events : config_events} (h : Grown m events)
    {P : Int → Prop} {Q : Int → Prop} {item : setting} (hitem : item ∈ events.settings) :
    item.Taken m P Q := by
  have htable : ∀ kind, ∀ entry ∈ events.groups kind, (group_setting kind entry).Taken m P Q := by
    intro kind entry hentry event_name hname
    obtain ⟨event, hevent, rfl⟩ := List.mem_map.mp hname
    rw [h.created kind entry hentry event hevent]
    exact Option.some_ne_none event
  rcases List.mem_append.mp hitem with hsystem | hcontainers
  · obtain ⟨entry, hentry, rfl⟩ := List.mem_map.mp hsystem
    exact htable .system entry hentry
  · obtain ⟨entry, hentry, rfl⟩ := List.mem_map.mp hcontainers
    exact htable .containers entry hentry

-- What is said of the groups is what there is in the tables.
theorem Grown.group_after {integer : Nat → Int} {events : config_events} (h : Grown m events)
    (hreads : ReadsBack f integer) (kind : events_kind) (group_name : String) :
    f.group_after m events.settings kind group_name =
      zhashx_lookup (events.groups kind) group_name := by
  have hsystem : (zhashx_keys events.system).Nodup := h.nodup .system
  have hcontainers : (zhashx_keys events.containers).Nodup := h.nodup .containers
  have htypes : types_of events.settings kind group_name =
      ((zhashx_lookup (events.groups kind) group_name).map fun group => [group.type]).getD [] := by
    refine (List.filterMap_append).trans ?_
    change types_of _ _ _ ++ types_of _ _ _ = _
    rw [types_of_map_group hsystem, types_of_map_group hcontainers]
    cases kind <;> simp [config_events.groups]
  have hnames : names_of events.settings kind group_name =
      ((zhashx_lookup (events.groups kind) group_name).map fun group =>
        group.events.map event_config.name).getD [] := by
    refine (List.flatMap_append).trans ?_
    change names_of _ _ _ ++ names_of _ _ _ = _
    rw [names_of_map_group hsystem, names_of_map_group hcontainers]
    cases kind <;> simp [config_events.groups]
  rw [front_end.group_after, htypes, hnames]
  cases hlookup : zhashx_lookup (events.groups kind) group_name with
  | none => simp
  | some group =>
      have hmem := mem_of_zhashx_lookup hlookup
      have hname : group.name = group_name := h.named kind _ hmem
      have hevents : (group.events.map event_config.name).filterMap (event_config_create m) =
          group.events := by
        rw [List.filterMap_map]
        exact (List.filterMap_congr (h.created kind _ hmem)).trans List.filterMap_some
      simp [hreads.type, hevents, ← hname]

theorem run_settings {integer : Nat → Int} {c : config} (hreads : ReadsBack f integer)
    (hranged : Ranged m c) (hgrown : Grown m c.events) (hport : FitsInt32 c.storage.P_flag)
    (P_flag : Int) :
    ∃ c', f.run m (c.settings integer) (config_create P_flag) = some c' ∧ SameSettings c c' := by
  rw [config.settings, run_append, run_other_settings hreads hranged hport, Option.bind_some]
  have hempty : Grouped f m [] ⟨[], []⟩ := Grouped.nil
  cases hrun : f.run m c.events.settings { c with events := ⟨[], []⟩ } with
  | none =>
      obtain ⟨item, hitem, htaken⟩ := (Grouped.run_eq_none_iff hempty).mp hrun
      exact absurd (group_setting_taken hgrown hitem) htaken
  | some c' =>
      have hgroups : ∀ item ∈ c.events.settings, ∃ kind entry, item = group_setting kind entry := by
        intro item hitem
        rcases List.mem_append.mp hitem with hsystem | hcontainers
        · obtain ⟨entry, -, rfl⟩ := List.mem_map.mp hsystem
          exact ⟨.system, entry, rfl⟩
        · obtain ⟨entry, -, rfl⟩ := List.mem_map.mp hcontainers
          exact ⟨.containers, entry, rfl⟩
      obtain ⟨hsensor, hstorage⟩ := run_groups_keep hgroups hrun
      refine ⟨c', rfl, hsensor.symm, hstorage.symm, fun kind group_name => ?_⟩
      have hgrouped := Grouped.run hempty hrun
      rw [hgrouped.lookup, List.nil_append, hgrown.group_after hreads]

theorem SameSettings.validate {c c' : config} (h : SameSettings c c') :
    config_validate m c' = config_validate m c := by
  have hlength : ∀ kind, (c'.events.groups kind).length = 0 ↔
      (c.events.groups kind).length = 0 := by
    have hempty : ∀ table : zhashx events_group,
        table.length = 0 ↔ ∀ group_name, zhashx_lookup table group_name = none := by
      intro table
      simp only [zhashx_lookup_eq_none_iff, List.length_eq_zero_iff]
      constructor
      · rintro rfl group_name
        exact List.not_mem_nil
      · intro hnone
        exact List.map_eq_nil_iff.mp (List.eq_nil_iff_forall_not_mem.mpr hnone)
    intro kind
    simp only [hempty, h.events kind]
  have hsystem : c'.events.system.length = 0 ↔ c.events.system.length = 0 := hlength .system
  have hcontainers : c'.events.containers.length = 0 ↔ c.events.containers.length = 0 :=
    hlength .containers
  simp only [config_validate, h.sensor, h.storage, hsystem, hcontainers]

-- Whatever a configuration was set up from, it can be said on the command line
-- and in a document alike.
theorem set_up_read_back {source : config_source} {P_flag : Int} {c : config}
    (hsetup : source.setup m P_flag = some c) (hport : FitsInt32 c.storage.P_flag)
    (other_P_flag : Int) :
    (∃ c', config_setup_from_cli m c.argv (config_create other_P_flag) = some c' ∧
      SameSettings c c' ∧ config_validate m c' = config_validate m c) ∧
    ∃ c', config_setup_from_file m (config_create other_P_flag) c.doc = some c' ∧
      SameSettings c c' ∧ config_validate m c' = config_validate m c := by
  have hranged := setup_ranged hsetup
  have hgrown := setup_grown hsetup
  obtain ⟨cli, hcli, hsame_cli⟩ := run_settings cli_reads hranged hgrown hport other_P_flag
  obtain ⟨file, hfile, hsame_file⟩ := run_settings file_reads hranged hgrown hport other_P_flag
  refine ⟨⟨cli, ?_, hsame_cli, hsame_cli.validate⟩, ⟨file, ?_, hsame_file, hsame_file.validate⟩⟩
  · rw [config.argv, config_setup_from_cli_settings, hcli]
  · rw [config.doc, config_setup_from_file_settings, hfile]

theorem set_up_read_back_group :
    (∃ c', config_setup_from_cli all_events
        (with_group ⟨"g", .MONITOR_ALL_CPU_PER_SOCKET, []⟩).argv (config_create 7) = some c' ∧
      SameSettings (with_group ⟨"g", .MONITOR_ALL_CPU_PER_SOCKET, []⟩) c' ∧
      config_validate all_events c' =
        config_validate all_events (with_group ⟨"g", .MONITOR_ALL_CPU_PER_SOCKET, []⟩)) ∧
    ∃ c', config_setup_from_file all_events (config_create 7)
        (with_group ⟨"g", .MONITOR_ALL_CPU_PER_SOCKET, []⟩).doc = some c' ∧
      SameSettings (with_group ⟨"g", .MONITOR_ALL_CPU_PER_SOCKET, []⟩) c' ∧
      config_validate all_events c' =
        config_validate all_events (with_group ⟨"g", .MONITOR_ALL_CPU_PER_SOCKET, []⟩) := by
  have hsetup : (config_source.cli ["hwpc-sensor", "-n", "x", "-U", "out", "-s", "g"]).setup
    all_events 0 = some (with_group ⟨"g", .MONITOR_ALL_CPU_PER_SOCKET, []⟩) := rfl
  exact set_up_read_back hsetup (by decide) 7

end Printing

end HwpcSensor
