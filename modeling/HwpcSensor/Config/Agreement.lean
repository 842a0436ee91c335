import HwpcSensor.Config.Settings
import Mathlib.Data.List.Induction

namespace HwpcSensor

-- The settings that are not refused, when these numbers are not.
def setting.Taken (m : platform) (unsigned port : Int → Prop) : setting → Prop
  | .frequency n => unsigned n
  | .callchains_per_report n => unsigned n
  | .port n => port n
  | .storage type_name => storage_module_get_type m type_name ≠ .STORAGE_UNKNOWN
  | .group _ _ _ events => ∀ event_name ∈ events, event_config_create m event_name ≠ none
  | _ => True

-- `strtoul` takes a number with a minus sign for one modulo 2^64.
def CliUnsigned (n : Int) : Prop :=
  (0 ≤ n ∧ n < 2 ^ 32) ∨ (-2 ^ 64 < n ∧ n < -2 ^ 64 + 2 ^ 32)

instance (n : Int) : Decidable (CliUnsigned n) := inferInstanceAs (Decidable (_ ∨ _))

def CliTakes (m : platform) : setting → Prop :=
  setting.Taken m CliUnsigned fun _ => True

def FileTakes (m : platform) : setting → Prop :=
  setting.Taken m FitsInt32 FitsInt32

def setting.is_off : setting → Bool
  | .verbose on => !on
  | _ => false

def setting.group_type (kind : events_kind) (group_name : String) :
    setting → Option events_group_monitoring_type
  | .group kind' group_name' type _ =>
      if kind' = kind ∧ group_name' = group_name then some type else none
  | _ => none

-- The types that a group is given, one after the other.
def types_of (settings : List setting) (kind : events_kind) (group_name : String) :
    List events_group_monitoring_type :=
  settings.filterMap (setting.group_type kind group_name)

section Numbers

theorem parse_frequency_number (n : Int) :
    parse_frequency (number n) = if CliUnsigned n then some (n % 2 ^ 64).toNat else none := by
  have hlist : (number n).toList = signed_decimal n := String.toList_ofList
  have hne : signed_decimal n ≠ [] := by
    unfold signed_decimal
    split_ifs
    · exact List.cons_ne_nil _ _
    · exact Nat.toDigits_ne_nil
  unfold parse_frequency
  rw [hlist, strtoul_signed_decimal n (Or.inl rfl)]
  by_cases hrange : n.natAbs > ULONG_MAX
  · have hnot : ¬CliUnsigned n := by
      unfold ULONG_MAX at hrange
      unfold CliUnsigned
      omega
    rw [if_pos hrange, if_neg hnot]
    simp
  · rw [if_neg hrange]
    have hiff : ¬(n % 2 ^ 64).toNat > UINT_MAX ↔ CliUnsigned n := by
      unfold ULONG_MAX at hrange
      unfold UINT_MAX CliUnsigned
      omega
    dsimp only
    rw [if_neg (by simp [hne])]
    by_cases hunsigned : CliUnsigned n
    · rw [if_neg (hiff.mpr hunsigned), if_pos hunsigned]
    · rw [if_pos (Classical.not_not.mp (mt hiff.mp hunsigned)), if_neg hunsigned]

theorem cli_port (n : Int) :
    cli_front_end.port n = some ((max LONG_MIN (min LONG_MAX n)).bmod (2 ^ 32)) := by
  have hlist : (number n).toList = signed_decimal n := String.toList_ofList
  show some ((strtol (number n).toList 10).value.bmod (2 ^ 32)) = _
  rw [hlist, strtol_signed_decimal n (Or.inr rfl)]
  have horder : LONG_MIN ≤ LONG_MAX := by decide
  split_ifs with hmax hmin
  · rw [show max LONG_MIN (min LONG_MAX n) = LONG_MAX by omega]
  · rw [show max LONG_MIN (min LONG_MAX n) = LONG_MIN by omega]
  · rw [show max LONG_MIN (min LONG_MAX n) = n by omega]

-- What both take for a number they take for the same number.
theorem unsigned_eq {n : Int} {value value' : Nat} (h : cli_front_end.unsigned n = some value)
    (h' : file_front_end.unsigned n = some value') : value = value' := by
  have hcli : parse_frequency (number n) = some value := h
  have hfile : (if FitsInt32 n then some (n % 2 ^ 32).toNat else none) = some value' := h'
  rw [parse_frequency_number] at hcli
  obtain ⟨hunsigned, hcli⟩ := Option.ite_none_right_eq_some.mp hcli
  obtain ⟨⟨hmin, hmax⟩, hfile⟩ := Option.ite_none_right_eq_some.mp hfile
  unfold INT_MIN at hmin
  unfold INT_MAX at hmax
  unfold CliUnsigned at hunsigned
  obtain rfl := Option.some.inj hcli
  obtain rfl := Option.some.inj hfile
  omega

theorem port_eq {n value value' : Int} (h : cli_front_end.port n = some value)
    (h' : file_front_end.port n = some value') : value = value' := by
  have hfile : (if FitsInt32 n then some n else none) = some value' := h'
  obtain ⟨⟨hmin, hmax⟩, hfile⟩ := Option.ite_none_right_eq_some.mp hfile
  unfold INT_MIN at hmin
  unfold INT_MAX at hmax
  obtain rfl := Option.some.inj hfile
  rw [cli_port, Option.some.injEq] at h
  have hclamp : max LONG_MIN (min LONG_MAX n) = n := by
    unfold LONG_MIN LONG_MAX
    omega
  rw [hclamp] at h
  rw [← h]
  exact Int.bmod_eq_of_le (by omega) (by omega)

end Numbers

section Takes

variable {m : platform} {f : front_end}

theorem cli_takes_iff (setting : setting) :
    CliTakes m setting ↔ setting.Taken m (fun n => cli_front_end.unsigned n ≠ none)
      fun n => cli_front_end.port n ≠ none := by
  have hunsigned : ∀ n, cli_front_end.unsigned n ≠ none ↔ CliUnsigned n := by
    intro n
    show parse_frequency (number n) ≠ none ↔ _
    rw [parse_frequency_number]
    split_ifs with h <;> simp [h]
  cases setting with
  | frequency n => exact (hunsigned n).symm
  | callchains_per_report n => exact (hunsigned n).symm
  | port n => simp [CliTakes, setting.Taken, cli_port]
  | _ => exact Iff.rfl

theorem file_takes_iff (setting : setting) :
    FileTakes m setting ↔ setting.Taken m (fun n => file_front_end.unsigned n ≠ none)
      fun n => file_front_end.port n ≠ none := by
  cases setting with
  | frequency n => simp [FileTakes, setting.Taken, file_front_end]
  | callchains_per_report n => simp [FileTakes, setting.Taken, file_front_end]
  | port n => simp [FileTakes, setting.Taken, file_front_end]
  | _ => exact Iff.rfl

-- Events can be appended to a group there is, when all of them can be set up.
theorem append_events_eq_none_iff {kind : events_kind} {group_name : String}
    {events : config_events} {group : events_group}
    (hlookup : zhashx_lookup (events.groups kind) group_name = some group)
    (names : List String) :
    append_events m kind group_name names events = none ↔
      ∃ event_name ∈ names, event_config_create m event_name = none := by
  induction names generalizing events group with
  | nil => simp [append_events]
  | cons event_name rest ih =>
      simp only [append_events, config_events.append_event, hlookup, events_group_append_event,
        Option.bind_eq_bind, Option.bind_some, List.mem_cons, exists_eq_or_imp]
      cases hcreate : event_config_create m event_name with
      | none => simp
      | some event =>
          simp only [Option.map_some, Option.bind_some, Option.pure_def, reduceCtorEq, false_or]
          exact ih (lookup_updated hlookup _)

theorem apply_eq_none_iff {c : config} (hnodup : ∀ kind, (zhashx_keys (c.events.groups kind)).Nodup)
    (setting : setting) :
    f.apply m c setting = none ↔
      ¬setting.Taken m (fun n => f.unsigned n ≠ none) fun n => f.port n ≠ none := by
  cases setting with
  | group kind group_name type names =>
      have hcreated : ∃ group, zhashx_lookup ((f.typed kind group_name type
          (c.events.create m kind group_name)).groups kind) group_name = some group := by
        have hlookup : zhashx_lookup ((c.events.create m kind group_name).groups kind) group_name =
            _ := lookup_groups_create (hnodup kind) group_name group_name
        rw [if_pos ⟨rfl, rfl⟩] at hlookup
        unfold front_end.typed
        split_ifs
        · exact ⟨_, lookup_updated hlookup _⟩
        · exact ⟨_, hlookup⟩
      obtain ⟨group, hgroup⟩ := hcreated
      rw [front_end.apply, Option.map_eq_none_iff, append_events_eq_none_iff hgroup]
      simp [setting.Taken]
  | frequency n => simp [front_end.apply, setting.Taken]
  | callchains_per_report n => simp [front_end.apply, setting.Taken]
  | port n => simp [front_end.apply, setting.Taken]
  | storage type_name => simp [front_end.apply, setting.Taken]
  | _ => simp [front_end.apply, setting.Taken]

end Takes

section Types

variable (f : front_end)

-- The type that a group ends up with.
def front_end.type_after (types : List events_group_monitoring_type) :
    events_group_monitoring_type :=
  types.foldl (fun old type => if f.sets_type type then type else old) .MONITOR_ALL_CPU_PER_SOCKET

theorem type_after_append (types : List events_group_monitoring_type)
    (type : events_group_monitoring_type) :
    f.type_after (types ++ [type]) = if f.sets_type type then type else f.type_after types := by
  simp [front_end.type_after]

-- The command line never takes a type back.
theorem cli_type_after (types : List events_group_monitoring_type) :
    cli_front_end.type_after types = .MONITOR_ONE_CPU_PER_SOCKET ↔
      .MONITOR_ONE_CPU_PER_SOCKET ∈ types := by
  induction types using List.reverseRecOn with
  | nil => simp [front_end.type_after]
  | append_singleton types type ih =>
      rw [type_after_append, List.mem_append, ← ih, List.mem_singleton]
      cases type with
      | MONITOR_ALL_CPU_PER_SOCKET => simp [cli_front_end]
      | MONITOR_ONE_CPU_PER_SOCKET => simp [cli_front_end]

theorem type_after_eq_iff (types : List events_group_monitoring_type) :
    cli_front_end.type_after types = file_front_end.type_after types ↔
      (.MONITOR_ONE_CPU_PER_SOCKET ∈ types →
        types.getLast? = some .MONITOR_ONE_CPU_PER_SOCKET) := by
  induction types using List.reverseRecOn with
  | nil => simp [front_end.type_after]
  | append_singleton types type _ =>
      have hfile : file_front_end.type_after (types ++ [type]) = type := by
        rw [type_after_append]
        rfl
      rw [hfile, ← cli_type_after, List.getLast?_concat, Option.some.injEq]
      cases type with
      | MONITOR_ONE_CPU_PER_SOCKET =>
          rw [type_after_append]
          simp [cli_front_end]
      | MONITOR_ALL_CPU_PER_SOCKET =>
          cases cli_front_end.type_after (types ++ [.MONITOR_ALL_CPU_PER_SOCKET]) with
          | MONITOR_ALL_CPU_PER_SOCKET => simp
          | MONITOR_ONE_CPU_PER_SOCKET => simp

end Types

section Groups

variable {m : platform} {f : front_end}

def setting.group_events (kind : events_kind) (group_name : String) : setting → List String
  | .group kind' group_name' _ events =>
      if kind' = kind ∧ group_name' = group_name then events else []
  | _ => []

def names_of (settings : List setting) (kind : events_kind) (group_name : String) :
    List String :=
  settings.flatMap (setting.group_events kind group_name)

def front_end.group_after (f : front_end) (m : platform) (settings : List setting)
    (kind : events_kind) (group_name : String) : Option events_group :=
  if types_of settings kind group_name = [] then none
  else some ⟨group_name, f.type_after (types_of settings kind group_name),
    (names_of settings kind group_name).filterMap (event_config_create m)⟩

-- The tables after these settings.
structure Grouped (f : front_end) (m : platform) (settings : List setting)
    (events : config_events) : Prop where
  nodup : ∀ kind, (zhashx_keys (events.groups kind)).Nodup
  lookup : ∀ kind group_name, zhashx_lookup (events.groups kind) group_name =
    f.group_after m settings kind group_name

theorem Grouped.nil : Grouped f m [] ⟨[], []⟩ := by
  refine ⟨fun kind => ?_, fun kind group_name => ?_⟩
  · cases kind <;> exact List.nodup_nil
  · cases kind <;> rfl

theorem append_events_lookup {kind : events_kind} {group_name : String}
    {events after : config_events} {group : events_group}
    (hlookup : zhashx_lookup (events.groups kind) group_name = some group) {names : List String}
    (h : append_events m kind group_name names events = some after) :
    (∀ other, zhashx_keys (after.groups other) = zhashx_keys (events.groups other)) ∧
      ∀ other name, zhashx_lookup (after.groups other) name =
        if other = kind ∧ name = group_name then
          some { group with events := group.events ++ names.filterMap (event_config_create m) }
        else zhashx_lookup (events.groups other) name := by
  induction names generalizing events group with
  | nil =>
      obtain rfl := Option.some.inj h
      refine ⟨fun _ => rfl, fun other name => ?_⟩
      split_ifs with hsame
      · obtain ⟨rfl, rfl⟩ := hsame
        rw [hlookup, List.filterMap_nil, List.append_nil]
      · rfl
  | cons event_name rest ih =>
      obtain ⟨next, happend, hrest⟩ := Option.bind_eq_some_iff.mp h
      obtain ⟨old, hold, happend⟩ := Option.bind_eq_some_iff.mp happend
      obtain rfl := Option.some.inj (hlookup.symm.trans hold)
      obtain ⟨appended, hevent, hnext⟩ := Option.bind_eq_some_iff.mp happend
      obtain rfl := Option.some.inj hnext
      obtain ⟨event, hcreate, rfl⟩ := Option.map_eq_some_iff.mp hevent
      obtain ⟨hkeys, hafter⟩ := ih (lookup_updated hlookup _) hrest
      refine ⟨fun other => (hkeys other).trans (keys_groups_update _ _), fun other name => ?_⟩
      rw [hafter, lookup_groups_update]
      split_ifs with hsame
      · rw [List.filterMap_cons_some hcreate, List.append_assoc]
        rfl
      · rfl

theorem types_of_append (settings : List setting) (setting : setting) (kind : events_kind)
    (group_name : String) : types_of (settings ++ [setting]) kind group_name =
      types_of settings kind group_name ++ (setting.group_type kind group_name).toList := by
  unfold types_of
  rw [List.filterMap_append]
  cases h : setting.group_type kind group_name <;> simp [h]

theorem names_of_append (settings : List setting) (setting : setting) (kind : events_kind)
    (group_name : String) : names_of (settings ++ [setting]) kind group_name =
      names_of settings kind group_name ++ setting.group_events kind group_name := by
  simp [names_of]

theorem names_of_eq_nil {settings : List setting} {kind : events_kind} {group_name : String}
    (h : types_of settings kind group_name = []) : names_of settings kind group_name = [] := by
  apply List.flatMap_eq_nil_iff.mpr
  intro item hitem
  have hnone := List.filterMap_eq_nil_iff.mp h item hitem
  cases item with
  | group kind' group_name' type names =>
      by_cases hsame : kind' = kind ∧ group_name' = group_name
      · exact absurd hnone (by simp [setting.group_type, hsame])
      · exact if_neg hsame
  | _ => rfl

theorem Grouped.keep {settings : List setting} {events : config_events} {setting : setting}
    (h : Grouped f m settings events)
    (htype : ∀ kind group_name, setting.group_type kind group_name = none)
    (hevents : ∀ kind group_name, setting.group_events kind group_name = []) :
    Grouped f m (settings ++ [setting]) events := by
  refine ⟨h.nodup, fun kind group_name => ?_⟩
  have htypes : types_of (settings ++ [setting]) kind group_name =
      types_of settings kind group_name := by
    rw [types_of_append, htype, Option.toList_none, List.append_nil]
  have hnames : names_of (settings ++ [setting]) kind group_name =
      names_of settings kind group_name := by
    rw [names_of_append, hevents, List.append_nil]
  rw [h.lookup, front_end.group_after, front_end.group_after, htypes, hnames]

-- The group that a setting creates or changes.
theorem typed_lookup {events : config_events}
    (hnodup : ∀ kind, (zhashx_keys (events.groups kind)).Nodup) (kind : events_kind)
    (group_name : String) (type : events_group_monitoring_type) :
    (∀ other, (zhashx_keys ((f.typed kind group_name type
      (events.create m kind group_name)).groups other)).Nodup) ∧
    ∀ other name, zhashx_lookup ((f.typed kind group_name type
        (events.create m kind group_name)).groups other) name =
      if other = kind ∧ name = group_name then
        some (let old := (zhashx_lookup (events.groups other) name).getD (events_group_create name)
          { old with type := if f.sets_type type then type else old.type })
      else zhashx_lookup (events.groups other) name := by
  have hcreated : ∀ other,
      (zhashx_keys ((events.create m kind group_name).groups other)).Nodup := by
    intro other
    unfold config_events.create
    by_cases hkind : other = kind
    · subst hkind
      rw [groups_with_groups_self]
      exact nodup_zhashx_insert m.order (hnodup other) _ _
    · rw [groups_with_groups_ne hkind]
      exact hnodup other
  unfold front_end.typed
  by_cases hsets : f.sets_type type
  · simp only [if_pos hsets, config_events.set_type, keys_groups_update]
    refine ⟨hcreated, fun other name => ?_⟩
    rw [lookup_groups_update, lookup_groups_create (hnodup kind)]
    split_ifs <;> rfl
  · simp only [if_neg hsets]
    exact ⟨hcreated, fun other name => lookup_groups_create (hnodup kind) group_name name⟩

theorem Grouped.group {settings : List setting} {events after : config_events}
    (h : Grouped f m settings events) {kind : events_kind} {group_name : String}
    {type : events_group_monitoring_type} {names : List String}
    (happend : append_events m kind group_name names
      (f.typed kind group_name type (events.create m kind group_name)) = some after) :
    Grouped f m (settings ++ [.group kind group_name type names]) after := by
  obtain ⟨hnodup, htyped⟩ := typed_lookup (f := f) (m := m) h.nodup kind group_name type
  obtain ⟨hkeys, hafter⟩ := append_events_lookup
    ((htyped kind group_name).trans (if_pos ⟨rfl, rfl⟩)) happend
  refine ⟨fun other => hkeys other ▸ hnodup other, fun other name => ?_⟩
  rw [hafter, htyped, front_end.group_after, types_of_append, names_of_append]
  by_cases hsame : other = kind ∧ name = group_name
  · obtain ⟨rfl, rfl⟩ := hsame
    have htype : setting.group_type other name (.group other name type names) = some type :=
      if_pos ⟨rfl, rfl⟩
    have hevents : setting.group_events other name (.group other name type names) = names :=
      if_pos ⟨rfl, rfl⟩
    rw [if_pos ⟨rfl, rfl⟩, htype, hevents, Option.toList_some, if_neg (by simp),
      type_after_append, List.filterMap_append, h.lookup]
    unfold front_end.group_after
    by_cases hnone : types_of settings other name = []
    · have hnames := names_of_eq_nil hnone
      rw [if_pos hnone, hnone, hnames]
      rfl
    · rw [if_neg hnone]
      rfl
  · have htype : setting.group_type other name (.group kind group_name type names) = none :=
      if_neg fun hboth => hsame ⟨hboth.1.symm, hboth.2.symm⟩
    have hevents : setting.group_events other name (.group kind group_name type names) = [] :=
      if_neg fun hboth => hsame ⟨hboth.1.symm, hboth.2.symm⟩
    rw [if_neg hsame, if_neg hsame, htype, hevents, Option.toList_none, List.append_nil,
      List.append_nil, h.lookup]
    rfl

theorem Grouped.apply {settings : List setting} {c c' : config} {setting : setting}
    (h : Grouped f m settings c.events) (happly : f.apply m c setting = some c') :
    Grouped f m (settings ++ [setting]) c'.events := by
  cases setting with
  | group kind group_name type names =>
      obtain ⟨after, happend, rfl⟩ := Option.map_eq_some_iff.mp happly
      exact h.group happend
  | verbose on =>
      have hevents : c'.events = c.events := by
        rw [← Option.some.inj happly]
        split_ifs <;> rfl
      exact hevents ▸ h.keep (fun _ _ => rfl) fun _ _ => rfl
  | frequency n =>
      obtain ⟨value, -, rfl⟩ := Option.map_eq_some_iff.mp happly
      exact h.keep (fun _ _ => rfl) fun _ _ => rfl
  | callchains_per_report n =>
      obtain ⟨value, -, rfl⟩ := Option.map_eq_some_iff.mp happly
      exact h.keep (fun _ _ => rfl) fun _ _ => rfl
  | port n =>
      obtain ⟨value, -, rfl⟩ := Option.map_eq_some_iff.mp happly
      exact h.keep (fun _ _ => rfl) fun _ _ => rfl
  | storage type_name =>
      obtain ⟨-, happly⟩ := Option.ite_none_left_eq_some.mp happly
      obtain rfl := Option.some.inj happly
      exact h.keep (fun _ _ => rfl) fun _ _ => rfl
  | _ =>
      obtain rfl := Option.some.inj happly
      exact h.keep (fun _ _ => rfl) fun _ _ => rfl

end Groups

section Agreement

variable {m : platform}

def offs (settings : List setting) : Nat :=
  settings.countP setting.is_off

theorem offs_append (settings : List setting) (item : setting) :
    offs (settings ++ [item]) = offs settings + if item.is_off then 1 else 0 := by
  rw [offs, List.countP_append, List.countP_singleton]
  rfl

def config_sensor.more_verbose (sensor : config_sensor) (n : Nat) : config_sensor :=
  { sensor with verbose := (sensor.verbose + n) % 2 ^ 32 }

-- Where the two stand after the same settings.
structure Parallel (m : platform) (settings : List setting) (c c' : config) : Prop where
  sensor : c'.sensor = c.sensor.more_verbose (offs settings)
  bound : c.sensor.verbose < 2 ^ 32
  storage : c'.storage = c.storage
  cli : Grouped cli_front_end m settings c.events
  file : Grouped file_front_end m settings c'.events

theorem Parallel.create (P_flag : Int) :
    Parallel m [] (config_create P_flag) (config_create P_flag) :=
  ⟨rfl, show 0 < 2 ^ 32 by decide, rfl, Grouped.nil, Grouped.nil⟩

theorem Parallel.apply {settings : List setting} {c c' d d' : config} {item : setting}
    (h : Parallel m settings c c') (hcli : cli_front_end.apply m c item = some d)
    (hfile : file_front_end.apply m c' item = some d') :
    Parallel m (settings ++ [item]) d d' := by
  have hd := h.cli.apply hcli
  have hd' := h.file.apply hfile
  have hoffs := offs_append settings item
  cases item with
  | verbose on =>
      obtain rfl := Option.some.inj hfile
      cases on with
      | true =>
          obtain rfl := Option.some.inj hcli
          refine ⟨?_, Nat.mod_lt _ (by decide), h.storage, hd, hd'⟩
          have hsame : offs (settings ++ [.verbose true]) = offs settings := hoffs
          have hverbose : ((c.sensor.verbose + offs settings) % 2 ^ 32 + 1) % 2 ^ 32 =
              ((c.sensor.verbose + 1) % 2 ^ 32 + offs settings) % 2 ^ 32 := by omega
          simp only [Bool.true_or, if_true, h.sensor, config_sensor.more_verbose, hsame, hverbose]
      | false =>
          obtain rfl := Option.some.inj hcli
          refine ⟨?_, h.bound, h.storage, hd, hd'⟩
          have hmore : offs (settings ++ [.verbose false]) = offs settings + 1 := hoffs
          have hverbose : ((c.sensor.verbose + offs settings) % 2 ^ 32 + 1) % 2 ^ 32 =
              (c.sensor.verbose + (offs settings + 1)) % 2 ^ 32 := by omega
          simp only [Bool.false_or, file_front_end, cli_front_end, if_true, if_false, h.sensor,
            config_sensor.more_verbose, hmore, hverbose, Bool.false_eq_true]
  | frequency n =>
      obtain ⟨value, hvalue, rfl⟩ := Option.map_eq_some_iff.mp hcli
      obtain ⟨value', hvalue', rfl⟩ := Option.map_eq_some_iff.mp hfile
      obtain rfl := unsigned_eq hvalue hvalue'
      refine ⟨?_, h.bound, h.storage, hd, hd'⟩
      rw [hoffs]
      simp only [h.sensor]
      rfl
  | callchains_per_report n =>
      obtain ⟨value, hvalue, rfl⟩ := Option.map_eq_some_iff.mp hcli
      obtain ⟨value', hvalue', rfl⟩ := Option.map_eq_some_iff.mp hfile
      obtain rfl := unsigned_eq hvalue hvalue'
      refine ⟨?_, h.bound, h.storage, hd, hd'⟩
      rw [hoffs]
      simp only [h.sensor]
      rfl
  | port n =>
      rw [front_end.apply] at hcli
      obtain ⟨value, hvalue, rfl⟩ := Option.map_eq_some_iff.mp hcli
      obtain ⟨value', hvalue', rfl⟩ := Option.map_eq_some_iff.mp hfile
      obtain rfl := port_eq hvalue hvalue'
      refine ⟨hoffs ▸ h.sensor, h.bound, ?_, hd, hd'⟩
      simp only [h.storage]
  | storage type_name =>
      obtain ⟨-, hcli⟩ := Option.ite_none_left_eq_some.mp hcli
      obtain ⟨-, hfile⟩ := Option.ite_none_left_eq_some.mp hfile
      obtain rfl := Option.some.inj hcli
      obtain rfl := Option.some.inj hfile
      refine ⟨hoffs ▸ h.sensor, h.bound, ?_, hd, hd'⟩
      simp only [h.storage]
  | group kind group_name type names =>
      obtain ⟨after, -, rfl⟩ := Option.map_eq_some_iff.mp hcli
      obtain ⟨after', -, rfl⟩ := Option.map_eq_some_iff.mp hfile
      exact ⟨hoffs ▸ h.sensor, h.bound, h.storage, hd, hd'⟩
  | cgroup_basepath path =>
      obtain rfl := Option.some.inj hcli
      obtain rfl := Option.some.inj hfile
      refine ⟨?_, h.bound, h.storage, hd, hd'⟩
      rw [hoffs]
      simp only [h.sensor]
      rfl
  | sensor_name name =>
      obtain rfl := Option.some.inj hcli
      obtain rfl := Option.some.inj hfile
      refine ⟨?_, h.bound, h.storage, hd, hd'⟩
      rw [hoffs]
      simp only [h.sensor]
      rfl
  | _ =>
      obtain rfl := Option.some.inj hcli
      obtain rfl := Option.some.inj hfile
      refine ⟨hoffs ▸ h.sensor, h.bound, ?_, hd, hd'⟩
      simp only [h.storage]

theorem Parallel.run {done rest : List setting} {c c' d d' : config} (h : Parallel m done c c')
    (hcli : cli_front_end.run m rest c = some d) (hfile : file_front_end.run m rest c' = some d') :
    Parallel m (done ++ rest) d d' := by
  induction rest generalizing done c c' with
  | nil =>
      obtain rfl := Option.some.inj hcli
      obtain rfl := Option.some.inj hfile
      rwa [List.append_nil]
  | cons item rest ih =>
      obtain ⟨next, happly, hrest⟩ := Option.bind_eq_some_iff.mp hcli
      obtain ⟨next', happly', hrest'⟩ := Option.bind_eq_some_iff.mp hfile
      rw [List.append_cons]
      exact ih (h.apply happly happly') hrest hrest'

theorem Grouped.run_eq_none_iff {f : front_end} {done rest : List setting} {c : config}
    (h : Grouped f m done c.events) :
    f.run m rest c = none ↔ ∃ item ∈ rest,
      ¬item.Taken m (fun n => f.unsigned n ≠ none) fun n => f.port n ≠ none := by
  induction rest generalizing done c with
  | nil => simp [front_end.run]
  | cons item rest ih =>
      have hnone := apply_eq_none_iff (f := f) (m := m) h.nodup item
      simp only [front_end.run, List.mem_cons, exists_eq_or_imp, ← hnone]
      cases happly : f.apply m c item with
      | none => simp
      | some next =>
          simp only [Option.bind_some, reduceCtorEq, false_or]
          exact ih (h.apply happly)

-- The verbosity that was turned off, and the types that were taken back, are all
-- that sets the two apart.
theorem Parallel.same_settings_iff {settings : List setting} {c c' : config}
    (h : Parallel m settings c c') :
    SameSettings c c' ↔ 2 ^ 32 ∣ offs settings ∧ ∀ kind group_name,
      .MONITOR_ONE_CPU_PER_SOCKET ∈ types_of settings kind group_name →
        (types_of settings kind group_name).getLast? = some .MONITOR_ONE_CPU_PER_SOCKET := by
  have hsensor : c.sensor = c'.sensor ↔ 2 ^ 32 ∣ offs settings := by
    have hbound := h.bound
    rw [h.sensor]
    constructor
    · intro heq
      have hverbose : c.sensor.verbose = (c.sensor.verbose + offs settings) % 2 ^ 32 :=
        congrArg config_sensor.verbose heq
      omega
    · intro hdvd
      have hverbose : (c.sensor.verbose + offs settings) % 2 ^ 32 = c.sensor.verbose := by omega
      rw [config_sensor.more_verbose, hverbose]
  have hgroup : ∀ kind group_name, zhashx_lookup (c.events.groups kind) group_name =
      zhashx_lookup (c'.events.groups kind) group_name ↔
      (.MONITOR_ONE_CPU_PER_SOCKET ∈ types_of settings kind group_name →
        (types_of settings kind group_name).getLast? = some .MONITOR_ONE_CPU_PER_SOCKET) := by
    intro kind group_name
    rw [h.cli.lookup, h.file.lookup, ← type_after_eq_iff]
    unfold front_end.group_after
    by_cases hnone : types_of settings kind group_name = []
    · rw [if_pos hnone, if_pos hnone, hnone]
      exact iff_of_true rfl rfl
    · rw [if_neg hnone, if_neg hnone, Option.some.injEq, events_group.mk.injEq]
      simp
  constructor
  · intro hsame
    exact ⟨hsensor.mp hsame.sensor, fun kind group_name =>
      (hgroup kind group_name).mp (hsame.events kind group_name)⟩
  · rintro ⟨hdvd, htypes⟩
    exact ⟨hsensor.mpr hdvd, h.storage.symm, fun kind group_name =>
      (hgroup kind group_name).mpr (htypes kind group_name)⟩

theorem front_ends_agree_iff (m : platform) (P_flag : Int) (settings : List setting) :
    SameOutcome (config_setup_from_cli m (settings_argv settings) (config_create P_flag))
        (config_setup_from_file m (config_create P_flag) (settings_doc settings)) ↔
      ((∃ item ∈ settings, ¬CliTakes m item) ∧ ∃ item ∈ settings, ¬FileTakes m item) ∨
      ((∀ item ∈ settings, CliTakes m item ∧ FileTakes m item) ∧
        2 ^ 32 ∣ offs settings ∧ ∀ kind group_name,
          .MONITOR_ONE_CPU_PER_SOCKET ∈ types_of settings kind group_name →
            (types_of settings kind group_name).getLast? =
              some .MONITOR_ONE_CPU_PER_SOCKET) := by
  have hcli : cli_front_end.run m settings (config_create P_flag) = none ↔
      ∃ item ∈ settings, ¬CliTakes m item := by
    simp only [cli_takes_iff]
    exact Grouped.nil.run_eq_none_iff
  have hfile : file_front_end.run m settings (config_create P_flag) = none ↔
      ∃ item ∈ settings, ¬FileTakes m item := by
    simp only [file_takes_iff]
    exact Grouped.nil.run_eq_none_iff
  have hall : (∀ item ∈ settings, CliTakes m item ∧ FileTakes m item) ↔
      ¬(∃ item ∈ settings, ¬CliTakes m item) ∧ ¬∃ item ∈ settings, ¬FileTakes m item := by
    simp only [not_exists, not_and, Classical.not_not, ← forall_and]
  rw [config_setup_from_cli_settings, config_setup_from_file_settings, hall, ← hcli, ← hfile]
  cases hrun : cli_front_end.run m settings (config_create P_flag) with
  | none =>
      cases file_front_end.run m settings (config_create P_flag) with
      | none => simp [SameOutcome]
      | some c' => simp [SameOutcome]
  | some c =>
      cases hrun' : file_front_end.run m settings (config_create P_flag) with
      | none => simp [SameOutcome]
      | some c' =>
          have hparallel := (Parallel.create (m := m) P_flag).run hrun hrun'
          simp only [SameOutcome, reduceCtorEq, false_and, not_false_eq_true, true_and, false_or]
          exact hparallel.same_settings_iff

-- A document cannot turn the verbosity off.
theorem verbose_off_counted :
    ¬ ∀ (m : platform) (P_flag : Int) (settings : List setting),
      SameOutcome (config_setup_from_cli m (settings_argv settings) (config_create P_flag))
        (config_setup_from_file m (config_create P_flag) (settings_doc settings)) := by
  intro hclaim
  have hsame : SameSettings (config_create 0)
      { config_create 0 with sensor.verbose := 1 } :=
    hclaim ⟨in_order, fun _ _ => none, false⟩ 0 [.verbose false]
  exact absurd (congrArg config_sensor.verbose hsame.sensor) (by decide)

end Agreement

end HwpcSensor
