import HwpcSensor.Config
import Mathlib.Data.List.Induction

namespace HwpcSensor

-- What a configuration asks for, whatever it is written in: groups are created,
-- their type is set and events are appended to them.
inductive events_op where
  | create (kind : events_kind) (group_name : String)
  | set_type (kind : events_kind) (group_name : String) (type : events_group_monitoring_type)
  | append (kind : events_kind) (group_name event_name : String)

variable {m : platform}

def apply_op (m : platform) (events : config_events) : events_op → Option config_events
  | .create kind group_name => some (events.create m kind group_name)
  | .set_type kind group_name type => some (events.set_type kind group_name type)
  | .append kind group_name event_name => events.append_event m kind group_name event_name

def apply_ops (m : platform) : List events_op → config_events → Option config_events
  | [], events => some events
  | op :: ops, events => (apply_op m events op).bind (apply_ops m ops)

theorem apply_ops_append {first second : List events_op} {events middle after : config_events}
    (h : apply_ops m first events = some middle) (h' : apply_ops m second middle = some after) :
    apply_ops m (first ++ second) events = some after := by
  induction first generalizing events with
  | nil =>
      obtain rfl := Option.some.inj h
      exact h'
  | cons op ops ih =>
      obtain ⟨next, hop, hops⟩ := Option.bind_eq_some_iff.mp h
      exact Option.bind_eq_some_iff.mpr ⟨next, hop, ih hops⟩

def events_group.without_events (group : events_group) : events_group :=
  { group with events := [] }

-- What an operation makes of a group, before its events.
def asked_after (kind : events_kind) (group_name : String) (asked : Option events_group) :
    events_op → Option events_group
  | .create other name =>
      if kind = other ∧ group_name = name then
        some (asked.getD (events_group_create group_name))
      else asked
  | .set_type other name type =>
      if kind = other ∧ group_name = name then asked.map fun group => { group with type := type }
      else asked
  | .append _ _ _ => asked

-- The group that has been asked for under a name.
def asked_group (kind : events_kind) (group_name : String) (ops : List events_op) :
    Option events_group :=
  ops.foldl (asked_after kind group_name) none

theorem asked_group_concat {kind : events_kind} {group_name : String} {ops : List events_op}
    {op : events_op} : asked_group kind group_name (ops ++ [op]) =
      asked_after kind group_name (asked_group kind group_name ops) op := by
  simp [asked_group]

-- A group is asked for when it is created.
theorem asked_group_isSome_iff {kind : events_kind} {group_name : String}
    {ops : List events_op} :
    (asked_group kind group_name ops).isSome ↔ .create kind group_name ∈ ops := by
  induction ops using List.reverseRecOn with
  | nil => simp [asked_group]
  | append_singleton ops op ih =>
      rw [asked_group_concat, List.mem_append, ← ih, List.mem_singleton]
      cases op with
      | create other name =>
          by_cases hsame : kind = other ∧ group_name = name
          · simp [asked_after, hsame]
          · simp [asked_after, hsame]
      | set_type other name type =>
          simp only [asked_after, reduceCtorEq, or_false]
          split_ifs
          · rw [Option.isSome_map]
          · rfl
      | append other name event_name => simp [asked_after]

section Tables

variable {events : config_events} {kind other : events_kind} {table : zhashx events_group}

@[simp] theorem groups_with_groups_self :
    (events.with_groups table kind).groups kind = table := by
  cases kind <;> rfl

theorem groups_with_groups_ne (h : other ≠ kind) :
    (events.with_groups table kind).groups other = events.groups other := by
  cases kind <;> cases other <;> first | rfl | exact absurd rfl h

theorem mem_groups_update {group_name : String} {change : events_group → events_group}
    {item : String × events_group}
    (h : item ∈ (events.update kind group_name change).groups other) :
    ∃ old ∈ events.groups other, item.1 = old.1 ∧
      (other = kind ∧ old.1 = group_name → item.2 = change old.2) ∧
      (¬(other = kind ∧ old.1 = group_name) → item.2 = old.2) := by
  unfold config_events.update at h
  by_cases hkind : other = kind
  · subst hkind
    rw [groups_with_groups_self] at h
    obtain ⟨old, hold, rfl⟩ := List.mem_map.mp h
    by_cases hname : old.1 = group_name
    · exact ⟨old, hold, by simp [hname]⟩
    · exact ⟨old, hold, by simp [hname]⟩
  · rw [groups_with_groups_ne hkind] at h
    exact ⟨item, h, rfl, fun hboth => absurd hboth.1 hkind, fun _ => rfl⟩

theorem keys_groups_update (group_name : String) (change : events_group → events_group) :
    zhashx_keys ((events.update kind group_name change).groups other) =
      zhashx_keys (events.groups other) := by
  unfold config_events.update
  by_cases hkind : other = kind
  · subst hkind
    rw [groups_with_groups_self]
    unfold zhashx_keys
    rw [List.map_map]
    refine List.map_congr_left fun item _ => ?_
    by_cases hname : item.1 = group_name
    · simp [hname]
    · simp [hname]
  · rw [groups_with_groups_ne hkind]

theorem zhashx_lookup_map_value (table : zhashx events_group) (key other : String)
    (change : events_group → events_group) :
    zhashx_lookup (table.map fun item =>
        if item.1 = key then (item.1, change item.2) else item) other =
      if other = key then (zhashx_lookup table other).map change
      else zhashx_lookup table other := by
  induction table with
  | nil => simp [zhashx_lookup]
  | cons item rest ih =>
      rw [List.map_cons, zhashx_lookup_cons, zhashx_lookup_cons, ih]
      by_cases hkey : item.1 = key
      · rw [if_pos hkey]
        by_cases hother : item.1 = other
        · rw [if_pos hother, if_pos hother, if_pos (hother.symm.trans hkey)]
          rfl
        · rw [if_neg hother, if_neg hother]
      · rw [if_neg hkey]
        by_cases hother : item.1 = other
        · rw [if_pos hother, if_neg fun heq => hkey (hother.trans heq), if_pos hother]
        · rw [if_neg hother, if_neg hother]

theorem lookup_groups_update (group_name : String) (change : events_group → events_group)
    (name : String) :
    zhashx_lookup ((events.update kind group_name change).groups other) name =
      if other = kind ∧ name = group_name then
        (zhashx_lookup (events.groups other) name).map change
      else zhashx_lookup (events.groups other) name := by
  unfold config_events.update
  by_cases hkind : other = kind
  · subst hkind
    rw [groups_with_groups_self, zhashx_lookup_map_value]
    simp
  · rw [groups_with_groups_ne hkind, if_neg fun h => hkind h.1]

theorem lookup_updated {group_name : String} {group : events_group}
    (hlookup : zhashx_lookup (events.groups kind) group_name = some group)
    (change : events_group → events_group) :
    zhashx_lookup ((events.update kind group_name change).groups kind) group_name =
      some (change group) := by
  rw [lookup_groups_update, if_pos ⟨rfl, rfl⟩, hlookup]
  rfl

theorem lookup_groups_create (hnodup : (zhashx_keys (events.groups kind)).Nodup)
    (group_name name : String) :
    zhashx_lookup ((events.create m kind group_name).groups other) name =
      if other = kind ∧ name = group_name then
        some ((zhashx_lookup (events.groups other) name).getD (events_group_create name))
      else zhashx_lookup (events.groups other) name := by
  unfold config_events.create
  by_cases hkind : other = kind
  · subst hkind
    rw [groups_with_groups_self, zhashx_lookup_insert m.order hnodup]
    by_cases hname : name = group_name
    · subst hname
      rw [if_pos rfl, if_pos ⟨rfl, rfl⟩]
    · rw [if_neg (Ne.symm hname), if_neg fun h => hname h.2]
  · rw [groups_with_groups_ne hkind, if_neg fun h => hkind h.1]

-- What has been done so far can be read off the tables.
structure Reflects (ops : List events_op) (events : config_events) : Prop where
  nodup : ∀ kind, (zhashx_keys (events.groups kind)).Nodup
  keys : ∀ kind group_name,
    group_name ∈ zhashx_keys (events.groups kind) ↔ .create kind group_name ∈ ops
  appended : ∀ kind group_name event_name, .append kind group_name event_name ∈ ops →
    .create kind group_name ∈ ops
  filled : ∀ kind, ∀ item ∈ events.groups kind,
    (item.2.events ≠ [] ↔ ∃ event_name, .append kind item.1 event_name ∈ ops)
  asked : ∀ kind group_name, asked_group kind group_name ops =
    (zhashx_lookup (events.groups kind) group_name).map events_group.without_events

theorem Reflects.nil : Reflects [] ⟨[], []⟩ := by
  refine ⟨fun kind => ?_, fun kind group_name => ?_, by simp, fun kind item hitem => ?_,
    fun kind group_name => ?_⟩
  · cases kind <;> exact List.nodup_nil
  · cases kind <;> simp [config_events.groups, zhashx_keys]
  · cases kind <;> exact absurd hitem (by simp [config_events.groups])
  · cases kind <;> rfl

theorem Reflects.create {ops : List events_op} (h : Reflects ops events) (kind : events_kind)
    (group_name : String) :
    Reflects (ops ++ [.create kind group_name]) (events.create m kind group_name) := by
  have happended : ∀ kind' name event_name, events_op.append kind' name event_name ∈
      ops ++ [.create kind group_name] ↔ .append kind' name event_name ∈ ops := by
    simp
  refine ⟨fun other => ?_, fun other name => ?_, fun other name event_name hmem => ?_,
    fun other item hitem => ?_, fun other name => ?_⟩
  · by_cases hkind : other = kind
    · subst hkind
      simp only [config_events.create, groups_with_groups_self]
      exact nodup_zhashx_insert m.order (h.nodup other) _ _
    · simp only [config_events.create, groups_with_groups_ne hkind]
      exact h.nodup other
  · rw [List.mem_append, ← h.keys other name]
    by_cases hkind : other = kind
    · subst hkind
      simp only [config_events.create, groups_with_groups_self, List.mem_singleton,
        events_op.create.injEq, true_and]
      by_cases hold : group_name ∈ zhashx_keys (events.groups other)
      · rw [zhashx_insert_of_mem m.order hold]
        exact ⟨Or.inl, fun hor => hor.elim id fun heq => heq ▸ hold⟩
      · rw [(zhashx_keys_insert_perm m.order hold _).mem_iff, List.mem_cons, or_comm]
    · simp only [config_events.create, groups_with_groups_ne hkind, List.mem_singleton,
        events_op.create.injEq, hkind, false_and, or_false]
  · exact List.mem_append_left _ (h.appended other name event_name ((happended _ _ _).mp hmem))
  · simp only [happended]
    by_cases hkind : other = kind
    · subst hkind
      simp only [config_events.create, groups_with_groups_self] at hitem
      by_cases hold : group_name ∈ zhashx_keys (events.groups other)
      · rw [zhashx_insert_of_mem m.order hold] at hitem
        exact h.filled other item hitem
      · rcases List.mem_cons.mp ((zhashx_insert_perm m.order hold _).mem_iff.mp hitem) with
          rfl | hitem
        · refine iff_of_false (fun hne => hne rfl) ?_
          rintro ⟨event_name, hmem⟩
          exact hold ((h.keys other group_name).mpr (h.appended _ _ _ hmem))
        · exact h.filled other item hitem
    · simp only [config_events.create, groups_with_groups_ne hkind] at hitem
      exact h.filled other item hitem
  · rw [asked_group_concat, lookup_groups_create (h.nodup kind), asked_after, h.asked]
    by_cases hboth : other = kind ∧ name = group_name
    · rw [if_pos hboth, if_pos hboth]
      cases zhashx_lookup (events.groups other) name <;> rfl
    · rw [if_neg hboth, if_neg hboth]

theorem Reflects.set_type {ops : List events_op} (h : Reflects ops events) (kind : events_kind)
    (group_name : String) (type : events_group_monitoring_type) :
    Reflects (ops ++ [.set_type kind group_name type]) (events.set_type kind group_name type) := by
  refine ⟨fun other => ?_, fun other name => ?_, fun other name event_name hmem => ?_,
    fun other item hitem => ?_, fun other name => ?_⟩
  · rw [config_events.set_type, keys_groups_update]
    exact h.nodup other
  · rw [config_events.set_type, keys_groups_update, h.keys other name]
    simp
  · have hold : events_op.append other name event_name ∈ ops := by simpa using hmem
    exact List.mem_append_left _ (h.appended other name event_name hold)
  · obtain ⟨old, hold, hname, hchanged, hkept⟩ := mem_groups_update hitem
    have hevents : item.2.events = old.2.events := by
      by_cases hboth : other = kind ∧ old.1 = group_name
      · rw [hchanged hboth]
      · rw [hkept hboth]
    rw [hevents, hname, h.filled other old hold]
    simp
  · rw [asked_group_concat, config_events.set_type, lookup_groups_update, asked_after, h.asked]
    by_cases hboth : other = kind ∧ name = group_name
    · rw [if_pos hboth, if_pos hboth, Option.map_map, Option.map_map]
      rfl
    · rw [if_neg hboth, if_neg hboth]

theorem Reflects.append_event {ops : List events_op} {after : config_events}
    (h : Reflects ops events) {group_name event_name : String}
    (happend : events.append_event m kind group_name event_name = some after) :
    Reflects (ops ++ [.append kind group_name event_name]) after := by
  obtain ⟨group, hlookup, happend⟩ := Option.bind_eq_some_iff.mp happend
  obtain ⟨appended, hevent, hafter⟩ := Option.bind_eq_some_iff.mp happend
  obtain rfl := Option.some.inj hafter
  obtain ⟨event, -, rfl⟩ := Option.map_eq_some_iff.mp hevent
  have hcreated := (h.keys kind group_name).mp (mem_zhashx_keys_of_lookup hlookup)
  refine ⟨fun other => ?_, fun other name => ?_, fun other name event_name' hmem => ?_,
    fun other item hitem => ?_, fun other name => ?_⟩
  · rw [keys_groups_update]
    exact h.nodup other
  · rw [keys_groups_update, h.keys other name]
    simp
  · refine List.mem_append_left _ ?_
    rcases List.mem_append.mp hmem with hold | hnew
    · exact h.appended other name event_name' hold
    · obtain ⟨rfl, rfl, -⟩ : other = kind ∧ name = group_name ∧ event_name' = event_name := by
        simpa using hnew
      exact hcreated
  · obtain ⟨old, hold, hname, hchanged, hkept⟩ := mem_groups_update hitem
    by_cases hboth : other = kind ∧ old.1 = group_name
    · rw [hchanged hboth, hname, hboth.1, hboth.2]
      exact iff_of_true (by simp) ⟨event_name, by simp⟩
    · rw [hkept hboth, hname, h.filled other old hold]
      have hother : ∀ event_name', events_op.append other old.1 event_name' ∈
          ops ++ [.append kind group_name event_name] ↔ .append other old.1 event_name' ∈ ops := by
        intro event_name'
        rw [List.mem_append, List.mem_singleton, events_op.append.injEq, ← and_assoc]
        exact or_iff_left fun hnew => hboth hnew.1
      simp only [hother]
  · rw [asked_group_concat, lookup_groups_update, asked_after, h.asked]
    by_cases hboth : other = kind ∧ name = group_name
    · rw [if_pos hboth, hboth.1, hboth.2, hlookup]
      rfl
    · rw [if_neg hboth]

theorem Reflects.apply_op {ops : List events_op} {op : events_op} {after : config_events}
    (h : Reflects ops events) (hop : apply_op m events op = some after) :
    Reflects (ops ++ [op]) after := by
  cases op with
  | create kind group_name =>
      obtain rfl := Option.some.inj hop
      exact h.create kind group_name
  | set_type kind group_name type =>
      obtain rfl := Option.some.inj hop
      exact h.set_type kind group_name type
  | append kind group_name event_name => exact h.append_event hop

-- The groups after all that was asked for, from any point of it.
theorem Reflects.apply_ops {done ops : List events_op} {after : config_events}
    (h : Reflects done events) (hops : apply_ops m ops events = some after) :
    Reflects (done ++ ops) after := by
  induction ops generalizing done events with
  | nil =>
      obtain rfl := Option.some.inj hops
      rwa [List.append_nil]
  | cons op ops ih =>
      obtain ⟨next, hop, hops⟩ := Option.bind_eq_some_iff.mp hops
      rw [List.append_cons]
      exact ih (h.apply_op hop) hops

end Tables

end HwpcSensor
