import HwpcSensor.Config.Accepted
import HwpcSensor.Config.File
import HwpcSensor.Config.Period
import HwpcSensor.Config.Port
import HwpcSensor.Library.Acceptance

namespace HwpcSensor

open LastWrite

-- The members of the levels below the root: of the output sections, of the system
-- and container sections, and of the groups.

def storage_members : String × bson_value → List (String × bson_value)
  | (key_name, .document fields) => if key_name = "output" then fields else []
  | _ => []

def section_members : String × bson_value → List (String × bson_value)
  | (key_name, .document groups) => if (section_kind key_name).isSome then groups else []
  | _ => []

def group_members : String × bson_value → List (String × bson_value)
  | (_, .document fields) => fields
  | _ => []

def groups_of (doc : List (String × bson_value)) : List (String × bson_value) :=
  doc.flatMap section_members

-- What the format defines at each level: the keys and the types of their values.

def KnownRootField : String × bson_value → Prop
  | (key_name, .bool _) => key_name = "verbose"
  | (key_name, .int32 _) => key_name = "frequency" ∨ key_name = "callchains_per_report"
  | (key_name, .utf8 _) => key_name = "cgroup_basepath" ∨ key_name = "name"
  | (key_name, .document _) =>
      key_name = "system" ∨ key_name = "container" ∨ key_name = "output"
  | _ => False

def KnownStorageField : String × bson_value → Prop
  | (key_name, .utf8 _) =>
      key_name = "type" ∨ key_name = "uri" ∨ key_name = "directory" ∨ key_name = "database" ∨
        key_name = "collection"
  | (key_name, .int32 _) => key_name = "port"
  | _ => False

def KnownGroup : String × bson_value → Prop
  | (_, .document _) => True
  | _ => False

def KnownGroupField : String × bson_value → Prop
  | (key_name, .utf8 _) => key_name = "monitoring_type"
  | (key_name, .array elements) =>
      key_name = "events" ∧ ∀ element ∈ elements, ∃ event_name, element = .utf8 event_name
  | _ => False

structure Known (doc : List (String × bson_value)) : Prop where
  root : ∀ field ∈ doc, KnownRootField field
  storage : ∀ field ∈ doc.flatMap storage_members, KnownStorageField field
  groups : ∀ group ∈ groups_of doc, KnownGroup group
  group : ∀ field ∈ (groups_of doc).flatMap group_members, KnownGroupField field

-- The two keys that the walkers do not look at.

def NamedStorageField : String × bson_value → Prop
  | (key_name, .int32 _) => key_name = "port"
  | _ => True

def NamedGroupField : String × bson_value → Prop
  | (key_name, .array _) => key_name = "events"
  | _ => True

structure Named (doc : List (String × bson_value)) : Prop where
  storage : ∀ field ∈ doc.flatMap storage_members, NamedStorageField field
  group : ∀ field ∈ (groups_of doc).flatMap group_members, NamedGroupField field

-- What a document needs besides: known members, whatever the name of an integer
-- of an output section and of an array of a group, with values that this build knows.

variable (m : platform)

def UsableEvent : bson_value → Prop
  | .utf8 event_name => (event_config_create m event_name).isSome
  | _ => False

def UsableStorageField : String × bson_value → Prop
  | (key_name, .utf8 value) =>
      key_name = "type" ∧ storage_module_get_type m value ≠ .STORAGE_UNKNOWN ∨
        key_name = "uri" ∨ key_name = "directory" ∨ key_name = "database" ∨
        key_name = "collection"
  | (_, .int32 _) => True
  | _ => False

def UsableGroupField : String × bson_value → Prop
  | (key_name, .utf8 value) =>
      key_name = "monitoring_type" ∧
        (value = "MONITOR_ONE_CPU_PER_SOCKET" ∨ value = "MONITOR_ALL_CPU_PER_SOCKET")
  | (_, .array elements) => ∀ element ∈ elements, UsableEvent m element
  | _ => False

structure Usable (doc : List (String × bson_value)) : Prop where
  root : ∀ field ∈ doc, KnownRootField field
  storage : ∀ field ∈ doc.flatMap storage_members, UsableStorageField m field
  groups : ∀ group ∈ groups_of doc, KnownGroup group
  group : ∀ field ∈ (groups_of doc).flatMap group_members, UsableGroupField m field

section Events

variable {m : platform} {kind : events_kind} {group_name : String}

def Tables (events : config_events) : Prop :=
  ∀ kind, (zhashx_keys (events.groups kind)).Nodup

-- The walkers hold a pointer to a group that is in its table.
structure Current (kind : events_kind) (group_name : String) (events : config_events) : Prop where
  tables : Tables events
  present : group_name ∈ zhashx_keys (events.groups kind)

theorem Tables.create {events : config_events} (h : Tables events) :
    Current kind group_name (events.create m kind group_name) := by
  refine ⟨fun other => ?_, ?_⟩
  · by_cases hkind : other = kind
    · subst hkind
      rw [config_events.create, groups_with_groups_self]
      exact nodup_zhashx_insert m.order (h other) _ _
    · rw [config_events.create, groups_with_groups_ne hkind]
      exact h other
  · have hlookup : zhashx_lookup ((events.create m kind group_name).groups kind) group_name =
        some _ := (lookup_groups_create (h kind) group_name group_name).trans (if_pos ⟨rfl, rfl⟩)
    exact mem_zhashx_keys_of_lookup hlookup

theorem Current.update {events : config_events} (h : Current kind group_name events)
    (change : events_group → events_group) :
    Current kind group_name (events.update kind group_name change) := by
  refine ⟨fun other => ?_, ?_⟩
  · rw [keys_groups_update]
    exact h.tables other
  · rw [keys_groups_update]
    exact h.present

theorem takes_append_event (event_name : String) :
    Takes (Current kind group_name) (event_config_create m event_name).isSome fun events =>
      events.append_event m kind group_name event_name := by
  intro events hcurrent
  obtain ⟨group, hlookup⟩ := zhashx_lookup_of_mem_keys hcurrent.present
  have happend : events.append_event m kind group_name event_name =
      (event_config_create m event_name).map fun event =>
        events.update kind group_name fun _ =>
          { group with events := group.events ++ [event] } := by
    unfold config_events.append_event events_group_append_event
    rw [hlookup]
    cases event_config_create m event_name <;> rfl
  dsimp only
  rw [happend]
  refine ⟨by rw [Option.isSome_map], fun after hafter => ?_⟩
  obtain ⟨event, -, rfl⟩ := Option.map_eq_some_iff.mp hafter
  exact hcurrent.update _

-- One turn of the loop of parse_event_array.
def parse_event (m : platform) (kind : events_kind) (group_name : String)
    (events : config_events) : bson_value → Option config_events
  | .utf8 event_name => events.append_event m kind group_name event_name
  | _ => none

theorem parse_event_array_runs :
    Runs (parse_event m kind group_name) (parse_event_array m kind group_name) := by
  refine ⟨fun events => rfl, fun element rest events => ?_⟩
  cases element <;> rfl

theorem takes_event (element : bson_value) :
    Takes (Current kind group_name) (UsableEvent m element) fun events =>
      parse_event m kind group_name events element := by
  cases element with
  | utf8 event_name => exact takes_append_event event_name
  | _ => exact Takes.none

theorem takes_set_type (type : events_group_monitoring_type) :
    Takes (Current kind group_name) True fun events =>
      some (events.set_type kind group_name type) :=
  Takes.some fun _ hcurrent => hcurrent.update _

theorem takes_group_field (field : String × bson_value) :
    Takes (Current kind group_name) (UsableGroupField m field) fun events =>
      parse_group_field m kind group_name events field := by
  obtain ⟨key_name, value⟩ := field
  cases value with
  | utf8 value =>
      refine ((takes_set_type _).ite ((takes_set_type _).ite Takes.none)).congr ?_
      simp only [UsableGroupField]
      split_ifs <;> tauto
  | array elements => exact Takes.run parse_event_array_runs takes_event elements
  | _ => exact Takes.none

theorem parse_group_fields_runs :
    Runs (parse_group_field m kind group_name) (parse_group_fields m kind group_name) :=
  ⟨fun _ => rfl, fun _ _ _ => rfl⟩

-- One turn of the loop over the groups of a section.
def parse_group (m : platform) (kind : events_kind) (events : config_events) :
    String × bson_value → Option config_events
  | (group_name, .document fields) =>
      parse_group_fields m kind group_name fields (events.create m kind group_name)
  | _ => none

theorem iter_on_event_group_config_runs :
    Runs (parse_group m kind) (iter_on_event_group_config m kind) := by
  refine ⟨fun events => rfl, fun group rest events => ?_⟩
  obtain ⟨group_name, value⟩ := group
  cases value <;> rfl

def UsableGroup (m : platform) (group : String × bson_value) : Prop :=
  KnownGroup group ∧ ∀ field ∈ group_members group, UsableGroupField m field

theorem takes_group (group : String × bson_value) :
    Takes Tables (UsableGroup m group) fun events => parse_group m kind events group := by
  obtain ⟨group_name, value⟩ := group
  cases value with
  | document fields =>
      have hfields : Takes (Current kind group_name) (∀ field ∈ fields, UsableGroupField m field)
          (parse_group_fields m kind group_name fields) :=
        Takes.run parse_group_fields_runs takes_group_field fields
      refine (hfields.within (fun _ htables => htables.create) fun _ h => h.tables).congr ?_
      simp [UsableGroup, KnownGroup, group_members]
  | _ => exact Takes.none.congr (by simp [UsableGroup, KnownGroup])

end Events

section Documents

variable {m : platform}

theorem takes_storage_field (field : String × bson_value) :
    Takes (fun _ => True) (UsableStorageField m field) fun storage =>
      parse_storage_field m storage field := by
  obtain ⟨key_name, value⟩ := field
  have hset : ∀ change : config_storage → config_storage,
      Takes (fun _ => True) True fun storage => some (change storage) :=
    fun change => Takes.some fun _ => id
  cases value with
  | utf8 value =>
      refine ((Takes.none.ite (hset _)).ite ((hset _).ite ((hset _).ite ((hset _).ite
        Takes.none)))).congr ?_
      by_cases htype : key_name = "type"
      · simp [UsableStorageField, htype]
      · simp only [UsableStorageField, htype]
        split_ifs <;> tauto
  | int32 value => exact hset _
  | _ => exact Takes.none

def UsableField (m : platform) (field : String × bson_value) : Prop :=
  KnownRootField field ∧ (∀ member ∈ storage_members field, UsableStorageField m member) ∧
    ∀ group ∈ section_members field, UsableGroup m group

theorem usable_iff {doc : List (String × bson_value)} :
    Usable m doc ↔ ∀ field ∈ doc, UsableField m field := by
  unfold UsableField UsableGroup
  constructor
  · intro h field hfield
    refine ⟨h.root field hfield, fun member hmember => ?_, fun group hgroup => ⟨?_, ?_⟩⟩
    · exact h.storage member (List.mem_flatMap_of_mem hfield hmember)
    · exact h.groups group (List.mem_flatMap_of_mem hfield hgroup)
    · intro member hmember
      exact h.group member
        (List.mem_flatMap_of_mem (List.mem_flatMap_of_mem hfield hgroup) hmember)
  · intro h
    refine ⟨fun field hfield => (h field hfield).1, ?_, ?_, ?_⟩
    · intro member hmember
      obtain ⟨field, hfield, hmember⟩ := List.mem_flatMap.mp hmember
      exact (h field hfield).2.1 member hmember
    · intro group hgroup
      obtain ⟨field, hfield, hgroup⟩ := List.mem_flatMap.mp hgroup
      exact ((h field hfield).2.2 group hgroup).1
    · intro member hmember
      obtain ⟨group, hgroup, hmember⟩ := List.mem_flatMap.mp hmember
      obtain ⟨field, hfield, hgroup⟩ := List.mem_flatMap.mp hgroup
      exact ((h field hfield).2.2 group hgroup).2 member hmember

theorem takes_section (kind : events_kind) (groups : List (String × bson_value)) :
    Takes (fun config : config => Tables config.events) (∀ group ∈ groups, UsableGroup m group)
      fun config => (iter_on_event_group_config m kind groups config.events).map
        config.with_events :=
  (Takes.run iter_on_event_group_config_runs takes_group groups).part (fun _ => id)
    fun _ _ _ => id

theorem takes_output (fields : List (String × bson_value)) :
    Takes (fun config : config => Tables config.events)
      (∀ field ∈ fields, UsableStorageField m field) fun config =>
        (iter_on_storage_config m fields config.storage).bind fun storage =>
          some { config with storage := storage } := by
  have houtput : Takes (fun config : config => Tables config.events)
      (∀ field ∈ fields, UsableStorageField m field) fun config =>
        (iter_on_storage_config m fields config.storage).map fun storage =>
          { config with storage := storage } :=
    (Takes.run iter_on_storage_config_runs takes_storage_field fields).part (fun _ _ => trivial)
      fun _ _ htables _ => htables
  simp only [Option.map_eq_bind] at houtput
  exact houtput

theorem takes_root_field (field : String × bson_value) :
    Takes (fun config : config => Tables config.events) (UsableField m field) fun config =>
      parse_root_field m config field := by
  obtain ⟨key_name, value⟩ := field
  have hset : ∀ change : config → config, (∀ config, (change config).events = config.events) →
      Takes (fun config => Tables config.events) True fun config => some (change config) := by
    intro change hevents
    refine Takes.some fun config htables => ?_
    rw [hevents]
    exact htables
  cases value with
  | bool value =>
      refine Takes.congr (Takes.ite (hset _ ?_) Takes.none) ?_
      · exact fun _ => rfl
      simp [UsableField, KnownRootField, storage_members, section_members]
  | int32 value =>
      refine Takes.congr (Takes.ite (hset _ ?_) (Takes.ite (hset _ ?_) Takes.none)) ?_
      · exact fun _ => rfl
      · exact fun _ => rfl
      simp only [UsableField, KnownRootField, storage_members, section_members]
      split_ifs <;> simp_all
  | utf8 value =>
      refine Takes.congr (Takes.ite (hset _ ?_) (Takes.ite (hset _ ?_) Takes.none)) ?_
      · exact fun _ => rfl
      · exact fun _ => rfl
      simp only [UsableField, KnownRootField, storage_members, section_members]
      split_ifs <;> simp_all
  | document fields =>
      refine Takes.congr (Takes.ite (takes_section .system fields)
        (Takes.ite (takes_section .containers fields)
          (Takes.ite (takes_output fields) Takes.none))) ?_
      simp only [UsableField, KnownRootField, storage_members, section_members, section_kind]
      split_ifs <;> simp_all
  | _ => exact Takes.none.congr (by simp [UsableField, KnownRootField])

theorem config_setup_from_file_isSome_iff (P_flag : Int) (doc : List (String × bson_value)) :
    (config_setup_from_file m (config_create P_flag) doc).isSome ↔ Usable m doc := by
  have htables : Tables (config_create P_flag).events := by
    intro kind
    cases kind <;> exact List.nodup_nil
  rw [usable_iff]
  exact (Takes.run iter_on_root_config_runs takes_root_field doc _ htables).1

theorem Known.named {doc : List (String × bson_value)} (h : Known doc) : Named doc := by
  refine ⟨fun field hfield => ?_, fun field hfield => ?_⟩
  · have hknown := h.storage field hfield
    obtain ⟨key_name, value⟩ := field
    cases value with
    | int32 value => exact hknown
    | _ => trivial
  · have hknown := h.group field hfield
    obtain ⟨key_name, value⟩ := field
    cases value with
    | array elements => exact hknown.1
    | _ => trivial

theorem Usable.known {doc : List (String × bson_value)} (h : Usable m doc) (hnamed : Named doc) :
    Known doc := by
  refine ⟨h.root, fun field hfield => ?_, h.groups, fun field hfield => ?_⟩
  · have husable := h.storage field hfield
    have hname := hnamed.storage field hfield
    obtain ⟨key_name, value⟩ := field
    cases value with
    | utf8 value => exact husable.imp_left And.left
    | int32 value => exact hname
    | _ => exact husable
  · have husable := h.group field hfield
    have hname := hnamed.group field hfield
    obtain ⟨key_name, value⟩ := field
    cases value with
    | utf8 value => exact husable.1
    | array elements =>
        refine ⟨hname, fun element helement => ?_⟩
        have hevent := husable element helement
        cases element with
        | utf8 event_name => exact ⟨event_name, rfl⟩
        | _ => exact hevent.elim
    | _ => exact husable

end Documents

theorem accepted_known_iff (m : platform) (P_flag : Int) (doc : List (String × bson_value)) :
    ((config_setup_from_file m (config_create P_flag) doc).isSome → Known doc) ↔
      Named doc ∨ ¬Usable m doc := by
  rw [config_setup_from_file_isSome_iff]
  constructor
  · intro h
    by_cases husable : Usable m doc
    · exact Or.inl (h husable).named
    · exact Or.inr husable
  · rintro (hnamed | hunusable) husable
    · exact husable.known hnamed
    · exact absurd husable hunusable

-- A misspelt port is taken for the port and a misspelt list of events for the events.
def misspelt : List (String × bson_value) :=
  [("name", .utf8 "sensor"),
    ("output", .document [("type", .utf8 "socket"), ("uri", .utf8 "host"), ("prot", .int32 80)]),
    ("system", .document [("g", .document [("evnts", .array [.utf8 "cycles"])])])]

theorem misspelt_accepted :
    (config_setup_from_file all_events (config_create 0) misspelt).isSome ∧ ¬Known misspelt := by
  refine ⟨rfl, fun hknown => ?_⟩
  have hport : NamedStorageField ("prot", .int32 80) :=
    hknown.named.storage _ (by simp [misspelt, storage_members])
  exact absurd hport (by simp [NamedStorageField])

end HwpcSensor
