import HwpcSensor.Config.Groups

namespace HwpcSensor

def section_kind (key_name : String) : Option events_kind :=
  if key_name = "system" then some .system
  else if key_name = "container" then some .containers
  else none

def element_op (kind : events_kind) (group_name : String) : bson_value → Option events_op
  | .utf8 event_name => some (.append kind group_name event_name)
  | _ => none

def field_ops (kind : events_kind) (group_name : String) : String × bson_value → List events_op
  | (_, .utf8 value) =>
      if value = "MONITOR_ONE_CPU_PER_SOCKET" then
        [.set_type kind group_name .MONITOR_ONE_CPU_PER_SOCKET]
      else [.set_type kind group_name .MONITOR_ALL_CPU_PER_SOCKET]
  | (_, .array elements) => elements.filterMap (element_op kind group_name)
  | _ => []

def group_ops (kind : events_kind) : String × bson_value → List events_op
  | (group_name, .document fields) =>
      .create kind group_name :: fields.flatMap (field_ops kind group_name)
  | _ => []

def root_ops : String × bson_value → List events_op
  | (key_name, .document fields) =>
      (section_kind key_name).toList.flatMap fun kind => fields.flatMap (group_ops kind)
  | _ => []

def file_ops (doc : List (String × bson_value)) : List events_op :=
  doc.flatMap root_ops

section Refinement

variable {m : platform} {kind : events_kind} {group_name : String}

theorem parse_event_array_ops {elements : List bson_value} {events events' : config_events}
    (h : parse_event_array m kind group_name elements events = some events') :
    apply_ops m (elements.filterMap (element_op kind group_name)) events = some events' := by
  induction elements generalizing events with
  | nil => exact h
  | cons element rest ih =>
      cases element with
      | utf8 event_name =>
          obtain ⟨next, happend, hrest⟩ := Option.bind_eq_some_iff.mp h
          exact Option.bind_eq_some_iff.mpr ⟨next, happend, ih hrest⟩
      | _ => cases h

theorem parse_group_field_ops {field : String × bson_value} {events events' : config_events}
    (h : parse_group_field m kind group_name events field = some events') :
    apply_ops m (field_ops kind group_name field) events = some events' := by
  obtain ⟨key_name, value⟩ := field
  cases value with
  | utf8 value =>
      simp only [parse_group_field] at h
      simp only [field_ops]
      by_cases hone : key_name = "monitoring_type" ∧ value = "MONITOR_ONE_CPU_PER_SOCKET"
      · rw [if_pos hone] at h
        rw [if_pos hone.2]
        exact h
      · rw [if_neg hone] at h
        obtain ⟨⟨hkey, hall⟩, h⟩ := Option.ite_none_right_eq_some.mp h
        rw [if_neg fun hvalue => hone ⟨hkey, hvalue⟩]
        exact h
  | array elements => exact parse_event_array_ops h
  | _ => cases h

theorem parse_group_fields_ops {fields : List (String × bson_value)}
    {events events' : config_events}
    (h : parse_group_fields m kind group_name fields events = some events') :
    apply_ops m (fields.flatMap (field_ops kind group_name)) events = some events' := by
  induction fields generalizing events with
  | nil => exact h
  | cons field rest ih =>
      obtain ⟨next, hfield, hrest⟩ := Option.bind_eq_some_iff.mp h
      rw [List.flatMap_cons]
      exact apply_ops_append (parse_group_field_ops hfield) (ih hrest)

theorem iter_on_event_group_config_ops {groups : List (String × bson_value)}
    {events events' : config_events}
    (h : iter_on_event_group_config m kind groups events = some events') :
    apply_ops m (groups.flatMap (group_ops kind)) events = some events' := by
  induction groups generalizing events with
  | nil => exact h
  | cons group rest ih =>
      obtain ⟨group_name, value⟩ := group
      cases value with
      | document fields =>
          obtain ⟨next, hfields, hrest⟩ := Option.bind_eq_some_iff.mp h
          rw [List.flatMap_cons]
          exact apply_ops_append (parse_group_fields_ops hfields) (ih hrest)
      | _ => cases h

theorem parse_root_field_ops {before after : config} {field : String × bson_value}
    (h : parse_root_field m before field = some after) :
    apply_ops m (root_ops field) before.events = some after.events := by
  obtain ⟨key_name, value⟩ := field
  cases value with
  | document fields =>
      simp only [parse_root_field] at h
      simp only [root_ops, section_kind]
      by_cases hsystem : key_name = "system"
      · rw [if_pos hsystem] at h
        obtain ⟨events, hevents, rfl⟩ := Option.map_eq_some_iff.mp h
        rw [if_pos hsystem, Option.toList_some, List.flatMap_singleton]
        exact iter_on_event_group_config_ops hevents
      · rw [if_neg hsystem] at h ⊢
        by_cases hcontainer : key_name = "container"
        · rw [if_pos hcontainer] at h
          obtain ⟨events, hevents, rfl⟩ := Option.map_eq_some_iff.mp h
          rw [if_pos hcontainer, Option.toList_some, List.flatMap_singleton]
          exact iter_on_event_group_config_ops hevents
        · rw [if_neg hcontainer] at h ⊢
          obtain ⟨-, h⟩ := Option.ite_none_right_eq_some.mp h
          obtain ⟨storage, -, h⟩ := Option.bind_eq_some_iff.mp h
          obtain rfl := Option.some.inj h
          rfl
  | utf8 value =>
      simp only [parse_root_field] at h
      split_ifs at h
      all_goals
        obtain rfl := Option.some.inj h
        rfl
  | int32 value =>
      simp only [parse_root_field] at h
      split_ifs at h
      all_goals
        obtain rfl := Option.some.inj h
        rfl
  | bool value =>
      obtain ⟨-, h⟩ := Option.ite_none_right_eq_some.mp h
      obtain rfl := Option.some.inj h
      rfl
  | array elements => cases h
  | other => cases h

theorem iter_on_root_config_ops {doc : List (String × bson_value)} {before after : config}
    (h : iter_on_root_config m doc before = some after) :
    apply_ops m (file_ops doc) before.events = some after.events := by
  induction doc generalizing before with
  | nil =>
      obtain rfl := Option.some.inj h
      rfl
  | cons field rest ih =>
      obtain ⟨next, hfield, hrest⟩ := Option.bind_eq_some_iff.mp h
      exact apply_ops_append (parse_root_field_ops hfield) (ih hrest)

end Refinement

section Documents

variable {doc : List (String × bson_value)} {kind : events_kind} {group_name : String}

-- One of the documents that a file gives for a group.
def Describes (doc : List (String × bson_value)) (kind : events_kind) (group_name : String)
    (fields : List (String × bson_value)) : Prop :=
  ∃ key_name groups, (key_name, .document groups) ∈ doc ∧ section_kind key_name = some kind ∧
    (group_name, .document fields) ∈ groups

def ListsEvent (fields : List (String × bson_value)) : Prop :=
  ∃ key_name elements event_name, (key_name, .array elements) ∈ fields ∧
    .utf8 event_name ∈ elements

theorem mem_file_ops {op : events_op} :
    op ∈ file_ops doc ↔ ∃ kind group_name fields, Describes doc kind group_name fields ∧
      op ∈ group_ops kind (group_name, .document fields) := by
  constructor
  · intro h
    obtain ⟨⟨key_name, value⟩, hfield, hop⟩ := List.mem_flatMap.mp h
    cases value with
    | document groups =>
        obtain ⟨kind, hkind, hop⟩ := List.mem_flatMap.mp hop
        obtain ⟨⟨group_name, value⟩, hgroup, hop⟩ := List.mem_flatMap.mp hop
        cases value with
        | document fields =>
            exact ⟨kind, group_name, fields,
              ⟨key_name, groups, hfield, Option.mem_toList.mp hkind, hgroup⟩, hop⟩
        | _ => exact absurd hop List.not_mem_nil
    | _ => exact absurd hop List.not_mem_nil
  · rintro ⟨kind, group_name, fields, ⟨key_name, groups, hfield, hkind, hgroup⟩, hop⟩
    refine List.mem_flatMap.mpr ⟨_, hfield, ?_⟩
    exact List.mem_flatMap.mpr ⟨kind, Option.mem_toList.mpr hkind,
      List.mem_flatMap.mpr ⟨_, hgroup, hop⟩⟩

theorem create_not_mem_field_ops {other : events_kind} {name : String}
    {field : String × bson_value} : .create kind group_name ∉ field_ops other name field := by
  obtain ⟨key_name, value⟩ := field
  cases value with
  | utf8 value =>
      simp only [field_ops]
      split_ifs <;> simp
  | array elements =>
      intro h
      obtain ⟨element, -, helement⟩ := List.mem_filterMap.mp h
      cases element <;> cases helement
  | _ => exact List.not_mem_nil

theorem append_mem_field_ops {other : events_kind} {name event_name : String}
    {field : String × bson_value} :
    .append kind group_name event_name ∈ field_ops other name field ↔
      (other = kind ∧ name = group_name) ∧
        ∃ key_name elements, field = (key_name, .array elements) ∧ .utf8 event_name ∈ elements := by
  obtain ⟨key_name, value⟩ := field
  cases value with
  | utf8 value =>
      simp only [field_ops]
      split_ifs <;> simp
  | array elements =>
      unfold field_ops
      rw [List.mem_filterMap]
      constructor
      · rintro ⟨element, helement, hop⟩
        cases element with
        | utf8 name =>
            obtain ⟨rfl, rfl, rfl⟩ := events_op.append.inj (Option.some.inj hop)
            exact ⟨⟨rfl, rfl⟩, key_name, elements, rfl, helement⟩
        | _ => cases hop
      · rintro ⟨⟨rfl, rfl⟩, key_name, elements, ⟨⟩, helement⟩
        exact ⟨_, helement, rfl⟩
  | _ => simp [field_ops]

theorem create_mem_file_ops :
    .create kind group_name ∈ file_ops doc ↔ ∃ fields, Describes doc kind group_name fields := by
  rw [mem_file_ops]
  constructor
  · rintro ⟨other, name, fields, hdescribes, hop⟩
    rcases List.mem_cons.mp hop with hcreate | hop
    · obtain ⟨rfl, rfl⟩ := events_op.create.inj hcreate
      exact ⟨fields, hdescribes⟩
    · obtain ⟨field, -, hfield⟩ := List.mem_flatMap.mp hop
      exact absurd hfield create_not_mem_field_ops
  · rintro ⟨fields, hdescribes⟩
    exact ⟨kind, group_name, fields, hdescribes, List.mem_cons_self⟩

theorem append_mem_file_ops :
    (∃ event_name, .append kind group_name event_name ∈ file_ops doc) ↔
      ∃ fields, Describes doc kind group_name fields ∧ ListsEvent fields := by
  simp only [mem_file_ops]
  constructor
  · rintro ⟨event_name, other, name, fields, hdescribes, hop⟩
    rcases List.mem_cons.mp hop with hcreate | hop
    · cases hcreate
    · obtain ⟨field, hfield, hop⟩ := List.mem_flatMap.mp hop
      obtain ⟨⟨rfl, rfl⟩, key_name, elements, rfl, hevent⟩ := append_mem_field_ops.mp hop
      exact ⟨fields, hdescribes, key_name, elements, event_name, hfield, hevent⟩
  · rintro ⟨fields, hdescribes, key_name, elements, event_name, hfield, hevent⟩
    refine ⟨event_name, kind, group_name, fields, hdescribes, List.mem_cons_of_mem _ ?_⟩
    exact List.mem_flatMap.mpr
      ⟨_, hfield, append_mem_field_ops.mpr ⟨⟨rfl, rfl⟩, key_name, elements, rfl, hevent⟩⟩

end Documents

end HwpcSensor
