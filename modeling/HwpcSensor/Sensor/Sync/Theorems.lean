import HwpcSensor.Sensor.Sync

namespace HwpcSensor.Sensor

open ChainedTable Perf

section

variable {hash : String → Nat} (order : hash_order) (hwinfo : hwinfo)
  (container_events_groups : zhashx events_group)
  (callchain_frequency : Nat)

theorem stop_dead_eq (running_targets : Table String target) :
    stop_dead hash running_targets =
      Table.sweep hash (vanished hash running_targets) (fun destroyed entry =>
        if vanished hash running_targets entry.1 then destroyed ++ [entry.2] else destroyed) := by
  funext destroyed actors entry
  cases h : running_targets.lookup hash entry.1 <;> simp [stop_dead, Table.sweep, vanished, h]

-- Of each chain the first loop destroys the first vanished entry.
theorem foldl_visited (dead : String → Bool) (buckets : List (List (String × Nat)))
    (destroyed : List Nat) :
    (buckets.flatMap (Table.visited dead)).foldl
      (fun destroyed entry => if dead entry.1 then destroyed ++ [entry.2] else destroyed)
      destroyed =
    destroyed ++ (buckets.flatMap fun chain =>
      (chain.find? fun entry => dead entry.1).toList).map Prod.snd := by
  have hchain : ∀ (chain : List (String × Nat)) (destroyed : List Nat),
      (Table.visited dead chain).foldl
        (fun destroyed entry => if dead entry.1 then destroyed ++ [entry.2] else destroyed)
        destroyed =
      destroyed ++ (chain.find? fun entry => dead entry.1).toList.map Prod.snd := by
    intro chain
    induction chain with
    | nil => intro destroyed; simp [Table.visited]
    | cons entry rest ih =>
        intro destroyed
        cases hdead : dead entry.1 with
        | true => simp [Table.visited, hdead]
        | false => simp [Table.visited, hdead, ih]
  induction buckets generalizing destroyed with
  | nil => simp
  | cons chain rest ih =>
      rw [List.flatMap_cons, List.foldl_append, hchain, ih]
      simp [List.append_assoc]

theorem visited_none (chain : List (String × target)) :
    Table.visited (fun _ => false) chain = chain := by
  induction chain with
  | nil => rfl
  | cons entry rest ih => simp [Table.visited, ih]

-- The second loop leaves the table it walks over alone.
theorem for_each_start_new {running_targets : Table String target}
    (h : running_targets.Valid hash) (m : monitors) :
    (Table.for_each
      (fun m targets entry =>
        (start_new hash order hwinfo container_events_groups callchain_frequency m entry, targets))
      m running_targets).1 =
    running_targets.entries.foldl
      (start_new hash order hwinfo container_events_groups callchain_frequency) m := by
  have hsweep := (Table.for_each_sweep (fun _ => false)
    (f := start_new hash order hwinfo container_events_groups callchain_frequency) h m).1
  have hflat : running_targets.buckets.flatMap (Table.visited fun _ => false) =
      running_targets.entries := by
    rw [Table.entries, ← List.flatMap_id]
    exact List.flatMap_congr fun chain _ => visited_none chain
  rw [hflat] at hsweep
  rw [← hsweep]
  rfl

theorem start_new_of_mem {m : monitors} (h : m.container_monitoring_actors.Valid hash)
    {entry : String × target} (hmem : entry.1 ∈ m.container_monitoring_actors.keys) :
    start_new hash order hwinfo container_events_groups callchain_frequency m entry = m := by
  obtain ⟨actor, hactor⟩ := Option.isSome_iff_exists.mp ((Table.lookup_isSome_iff h).mpr hmem)
  simp [start_new, hactor]

theorem start_new_of_not_mem {m : monitors} (h : m.container_monitoring_actors.Valid hash)
    {entry : String × target} (hmem : entry.1 ∉ m.container_monitoring_actors.keys) :
    start_new hash order hwinfo container_events_groups callchain_frequency m entry =
      { m with
        container_monitoring_actors :=
          m.container_monitoring_actors.insert hash entry.1 m.created.length
        created := m.created ++ [perf_config_create order hwinfo container_events_groups entry.2
          callchain_frequency] }
      := by
  simp only [start_new, (Table.lookup_eq_none_iff h).mpr hmem]

-- Starting monitors gives each discovered path without an entry a new actor of
-- its own and touches no other entry.
structure Started (hash : String → Nat) (m after : monitors) (targets : List (String × target)) :
    Prop where
  valid : after.container_monitoring_actors.Valid hash
  destroyed_eq : after.destroyed = m.destroyed
  mem_keys : ∀ path, path ∈ after.container_monitoring_actors.keys ↔
    path ∈ m.container_monitoring_actors.keys ∨ path ∈ targets.map Prod.fst
  keeps : ∀ entry ∈ m.container_monitoring_actors.entries,
    entry ∈ after.container_monitoring_actors.entries
  adds : ∀ entry ∈ after.container_monitoring_actors.entries,
    entry ∈ m.container_monitoring_actors.entries ∨ m.created.length ≤ entry.2
  creates : ∃ started, after.created = m.created ++ started ∧
    ∀ config ∈ started, ∃ entry ∈ targets,
      config.target = entry.2 ∧ entry.1 ∉ m.container_monitoring_actors.keys

theorem Started.refl {m : monitors} (h : m.container_monitoring_actors.Valid hash)
    {targets : List (String × target)}
    (hmem : ∀ entry ∈ targets, entry.1 ∈ m.container_monitoring_actors.keys) :
    Started hash m m targets := by
  refine ⟨h, rfl, fun path => ⟨Or.inl, ?_⟩, fun _ => id, fun _ => Or.inl, [], by simp, by simp⟩
  rintro (hpath | hpath)
  · exact hpath
  · obtain ⟨entry, hentry, rfl⟩ := List.mem_map.mp hpath
    exact hmem entry hentry

theorem Started.trans {m middle after : monitors} {targets more : List (String × target)}
    (h : Started hash m middle targets) (h' : Started hash middle after more) :
    Started hash m after (targets ++ more) := by
  obtain ⟨started, hcreated, hstarted⟩ := h.creates
  obtain ⟨started', hcreated', hstarted'⟩ := h'.creates
  refine ⟨h'.valid, h'.destroyed_eq.trans h.destroyed_eq, ?_, ?_, ?_, started ++ started', ?_, ?_⟩
  · intro path
    rw [h'.mem_keys, h.mem_keys, List.map_append, List.mem_append, or_assoc]
  · exact fun entry hentry => h'.keeps entry (h.keeps entry hentry)
  · intro entry hentry
    rcases h'.adds entry hentry with hmiddle | hge
    · exact h.adds entry hmiddle
    · rw [hcreated, List.length_append] at hge
      exact Or.inr (by omega)
  · rw [hcreated', hcreated, List.append_assoc]
  · intro config hconfig
    rcases List.mem_append.mp hconfig with hconfig | hconfig
    · obtain ⟨entry, hentry, htarget, hkey⟩ := hstarted config hconfig
      exact ⟨entry, List.mem_append_left _ hentry, htarget, hkey⟩
    · obtain ⟨entry, hentry, htarget, hkey⟩ := hstarted' config hconfig
      refine ⟨entry, List.mem_append_right _ hentry, htarget, fun hmem => hkey ?_⟩
      exact (h.mem_keys entry.1).mpr (Or.inl hmem)

theorem start_new_spec {m : monitors} (h : m.container_monitoring_actors.Valid hash)
    (entry : String × target) :
    Started hash m (start_new hash order hwinfo container_events_groups callchain_frequency m entry)
      [entry] := by
  by_cases hmem : entry.1 ∈ m.container_monitoring_actors.keys
  · rw [start_new_of_mem order hwinfo container_events_groups callchain_frequency h hmem]
    exact Started.refl h (by simpa using hmem)
  · rw [start_new_of_not_mem order hwinfo container_events_groups callchain_frequency h hmem]
    have hperm := Table.entries_insert h hmem m.created.length
    refine ⟨Table.valid_insert h _ _, rfl, ?_, ?_, ?_, _, rfl, ?_⟩
    · intro path
      rw [(Table.keys_insert h hmem _).mem_iff]
      simp [or_comm]
    · exact fun other hother => hperm.symm.subset (List.mem_cons_of_mem _ hother)
    · intro other hother
      rcases List.mem_cons.mp (hperm.subset hother) with rfl | hother
      · exact Or.inr (Nat.le_refl _)
      · exact Or.inl hother
    · intro config hconfig
      obtain rfl := List.mem_singleton.mp hconfig
      exact ⟨entry, List.mem_singleton_self entry, rfl, hmem⟩

theorem foldl_start_new (targets : List (String × target)) {m : monitors}
    (h : m.container_monitoring_actors.Valid hash) :
    Started hash m
      (targets.foldl (start_new hash order hwinfo container_events_groups callchain_frequency) m)
      targets := by
  induction targets generalizing m with
  | nil => exact Started.refl h (by simp)
  | cons entry targets ih =>
      have hstep := start_new_spec order hwinfo container_events_groups callchain_frequency h entry
      exact hstep.trans (ih hstep.valid)

-- A synchronisation is the two loops in a row: the first takes the first
-- vanished entry out of each chain, the second goes over the running targets.
theorem sync_cgroups_running_monitored_eq {m : monitors}
    (h : m.container_monitoring_actors.Valid hash) {running_targets : Table String target}
    (hrunning : running_targets.Valid hash) :
    ∃ stopped : monitors,
      stopped.container_monitoring_actors.buckets =
        m.container_monitoring_actors.buckets.map
          (·.eraseP fun entry => vanished hash running_targets entry.1) ∧
      stopped.created = m.created ∧
      stopped.destroyed = m.destroyed ++
        (m.container_monitoring_actors.buckets.flatMap fun chain =>
          (chain.find? fun entry => vanished hash running_targets entry.1).toList).map Prod.snd ∧
      sync_cgroups_running_monitored hash order hwinfo container_events_groups callchain_frequency m
        (some running_targets) =
      running_targets.entries.foldl
        (start_new hash order hwinfo container_events_groups callchain_frequency) stopped := by
  have hsweep := Table.for_each_sweep (vanished hash running_targets)
    (f := fun (destroyed : List Nat) (entry : String × Nat) =>
      if vanished hash running_targets entry.1 then destroyed ++ [entry.2] else destroyed)
    h m.destroyed
  rw [← stop_dead_eq, foldl_visited] at hsweep
  refine ⟨{ m with
    destroyed := (Table.for_each (stop_dead hash running_targets) m.destroyed
      m.container_monitoring_actors).1
    container_monitoring_actors := (Table.for_each (stop_dead hash running_targets) m.destroyed
      m.container_monitoring_actors).2 }, hsweep.2, rfl, hsweep.1, ?_⟩
  exact for_each_start_new order hwinfo container_events_groups callchain_frequency hrunning _

-- Which entries a chain loses is settled by the number of its vanished keys.
theorem monitored_follows_running_iff {m : monitors}
    (h : m.container_monitoring_actors.Valid hash) {running_targets : Table String target}
    (hrunning : running_targets.Valid hash) :
    Follows hash m running_targets
      (sync_cgroups_running_monitored hash order hwinfo container_events_groups
        callchain_frequency m (some running_targets)) ↔
    ∀ chain ∈ m.container_monitoring_actors.buckets,
      (chain.filter fun entry => vanished hash running_targets entry.1).length ≤ 1 := by
  obtain ⟨stopped, hbuckets, -, hdestroyed, heq⟩ := sync_cgroups_running_monitored_eq order hwinfo
    container_events_groups callchain_frequency h hrunning
  have hvalid : stopped.container_monitoring_actors.Valid hash :=
    Table.valid_of_buckets_eraseP h hbuckets
  have hstarted := foldl_start_new order hwinfo container_events_groups callchain_frequency
    running_targets.entries hvalid
  have hvanished : ∀ path, vanished hash running_targets path = false ↔
      path ∈ running_targets.keys := by
    intro path
    rw [← Table.lookup_isSome_iff hrunning]
    simp [vanished, ← Option.not_isSome]
  have hclean : (∀ path ∈ stopped.container_monitoring_actors.keys,
      path ∈ running_targets.keys) ↔
      ∀ chain ∈ m.container_monitoring_actors.buckets,
        (chain.filter fun entry => vanished hash running_targets entry.1).length ≤ 1 := by
    simp only [← Table.eraseP_clean_iff, Table.keys, Table.entries, hbuckets, List.mem_map,
      List.mem_flatten, hvanished]
    constructor
    · intro hsubset chain hchain entry hentry
      exact hsubset entry.1 ⟨entry, ⟨_, ⟨chain, hchain, rfl⟩, hentry⟩, rfl⟩
    · rintro hchains path ⟨entry, ⟨_, ⟨chain, hchain, rfl⟩, hentry⟩, rfl⟩
      exact hchains chain hchain entry hentry
  rw [heq]
  constructor
  · intro hfollows
    apply hclean.mp
    intro path hpath
    exact hfollows.keys_eq.mem_iff.mp ((hstarted.mem_keys path).mpr (Or.inl hpath))
  · intro hchains
    refine ⟨?_, ?_⟩
    · rw [List.perm_ext_iff_of_nodup hstarted.valid.distinct hrunning.distinct]
      intro path
      rw [hstarted.mem_keys]
      exact ⟨fun hpath => hpath.elim (hclean.mpr hchains path) id, Or.inr⟩
    · rw [hstarted.destroyed_eq, hdestroyed, Table.entries, List.filter_flatten,
        ← List.flatMap_def]
      congr 2
      exact List.flatMap_congr fun chain hchain =>
        Table.find?_toList_eq_filter (hchains chain hchain)

end

-- Two containers in one bucket, of which one has vanished.
theorem monitored_follows_running_iff_one_vanished :
    Follows (fun _ => 0) ⟨⟨[[("/a", 0), ("/b", 1)]], 0, []⟩, [], []⟩
      ⟨[[("/b", ⟨.DOCKER, none, some "/b"⟩)]], 0, []⟩
      (sync_cgroups_running_monitored (fun _ => 0) in_order ⟨[]⟩ [] 0
        ⟨⟨[[("/a", 0), ("/b", 1)]], 0, []⟩, [], []⟩
        (some ⟨[[("/b", ⟨.DOCKER, none, some "/b"⟩)]], 0, []⟩)) :=
  (monitored_follows_running_iff in_order ⟨[]⟩ [] 0
    ⟨by decide, by simp, by decide⟩
    ⟨by decide, by simp, by decide⟩).mpr (by decide)

-- Both have vanished, and only the first is seen.
theorem vanished_keeps_its_entry :
    ¬ ∀ (hash : String → Nat) (order : hash_order) (hwinfo : hwinfo)
      (container_events_groups : zhashx events_group) (callchain_frequency : Nat) (m : monitors)
      (running_targets : Table String target),
      m.container_monitoring_actors.Valid hash → running_targets.Valid hash →
      Follows hash m running_targets
        (sync_cgroups_running_monitored hash order hwinfo container_events_groups
          callchain_frequency m (some running_targets)) := by
  intro hclaim
  have hfollows := hclaim (fun _ => 0) in_order ⟨[]⟩ [] 0
    ⟨⟨[[("/a", 0), ("/b", 1)]], 0, []⟩, [], []⟩ ⟨[[]], 0, []⟩ ⟨by decide, by simp, by decide⟩
    ⟨by decide, by simp, by decide⟩
  have hkeys := hfollows.keys_eq.length_eq
  exact absurd hkeys (by decide)

end HwpcSensor.Sensor
