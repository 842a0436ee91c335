import HwpcSensor.Sensor.Monitoring
import HwpcSensor.Sensor.Sync.Theorems

namespace HwpcSensor.Sensor

open ChainedTable Perf Transition

section

variable {hash : String → Nat} (order : hash_order) (hwinfo : hwinfo)
  (container_events_groups : zhashx events_group)
  (callchain_frequency : Nat)

-- Each entry has an actor of its own, made for the path of the entry and not
-- destroyed.
structure WellFormed (hash : String → Nat) (m : monitors) : Prop where
  valid : m.container_monitoring_actors.Valid hash
  distinct : (m.container_monitoring_actors.entries.map Prod.snd).Nodup
  made : ∀ entry ∈ m.container_monitoring_actors.entries, ∃ config,
    m.created[entry.2]? = some config ∧ config.target.cgroup_path = some entry.1
  alive : ∀ entry ∈ m.container_monitoring_actors.entries, entry.2 ∉ m.destroyed
  destroyed_lt : ∀ actor ∈ m.destroyed, actor < m.created.length

theorem WellFormed.actor_lt {m : monitors} (h : WellFormed hash m) {entry : String × Nat}
    (hentry : entry ∈ m.container_monitoring_actors.entries) : entry.2 < m.created.length := by
  obtain ⟨config, hconfig, -⟩ := h.made entry hentry
  exact (List.getElem?_eq_some_iff.mp hconfig).1

-- Taking vanished entries out of the table and destroying just their actors.
theorem WellFormed.stop {m stopped : monitors} (h : WellFormed hash m)
    {running_targets : Table String target}
    (hbuckets : stopped.container_monitoring_actors.buckets =
      m.container_monitoring_actors.buckets.map
        (·.eraseP fun entry => vanished hash running_targets entry.1))
    (hcreated : stopped.created = m.created)
    (hdestroyed : stopped.destroyed = m.destroyed ++
      (m.container_monitoring_actors.buckets.flatMap fun chain =>
        (chain.find? fun entry => vanished hash running_targets entry.1).toList).map Prod.snd) :
    WellFormed hash stopped := by
  have hperm := Table.flatMap_find?_append_eraseP_perm
    (fun entry => vanished hash running_targets entry.1)
    m.container_monitoring_actors.buckets
  rw [← hbuckets] at hperm
  have hsubset : ∀ entry ∈ stopped.container_monitoring_actors.entries,
      entry ∈ m.container_monitoring_actors.entries :=
    fun entry hentry => hperm.subset (List.mem_append_right _ hentry)
  have hdistinct := (hperm.map Prod.snd).nodup_iff.mpr h.distinct
  rw [List.map_append, List.nodup_append] at hdistinct
  refine ⟨Table.valid_of_buckets_eraseP h.valid hbuckets, hdistinct.2.1, ?_, ?_, ?_⟩
  · intro entry hentry
    rw [hcreated]
    exact h.made entry (hsubset entry hentry)
  · intro entry hentry hmem
    rw [hdestroyed] at hmem
    rcases List.mem_append.mp hmem with hold | hnew
    · exact h.alive entry (hsubset entry hentry) hold
    · exact hdistinct.2.2 entry.2 hnew entry.2 (List.mem_map_of_mem hentry) rfl
  · intro actor hmem
    rw [hdestroyed] at hmem
    rw [hcreated]
    rcases List.mem_append.mp hmem with hold | hnew
    · exact h.destroyed_lt actor hold
    · obtain ⟨entry, hentry, rfl⟩ := List.mem_map.mp hnew
      exact h.actor_lt (hperm.subset (List.mem_append_left _ hentry))

-- The new actor is the next one created.
theorem WellFormed.started {m : monitors} (h : WellFormed hash m) {entry : String × target}
    (hpath : entry.2.cgroup_path = some entry.1) :
    WellFormed hash
      (start_new hash order hwinfo container_events_groups callchain_frequency m entry) := by
  by_cases hmem : entry.1 ∈ m.container_monitoring_actors.keys
  · rwa [start_new_of_mem order hwinfo container_events_groups callchain_frequency h.valid hmem]
  · rw [start_new_of_not_mem order hwinfo container_events_groups callchain_frequency h.valid hmem]
    have hperm := Table.entries_insert h.valid hmem m.created.length
    refine ⟨Table.valid_insert h.valid _ _, ?_, ?_, ?_, ?_⟩
    · rw [(hperm.map Prod.snd).nodup_iff, List.map_cons, List.nodup_cons]
      refine ⟨?_, h.distinct⟩
      intro hactor
      obtain ⟨other, hother, heq⟩ := List.mem_map.mp hactor
      have hlt := h.actor_lt hother
      omega
    · intro other hother
      rcases List.mem_cons.mp (hperm.subset hother) with rfl | hother
      · exact ⟨_, List.getElem?_concat_length, hpath⟩
      · obtain ⟨config, hconfig, hcgroup⟩ := h.made other hother
        refine ⟨config, ?_, hcgroup⟩
        rw [List.getElem?_append_left (h.actor_lt hother)]
        exact hconfig
    · intro other hother
      rcases List.mem_cons.mp (hperm.subset hother) with rfl | hother
      · intro hdestroyed
        have hlt := h.destroyed_lt _ hdestroyed
        omega
      · exact h.alive other hother
    · intro actor hactor
      have hlt := h.destroyed_lt actor hactor
      simp only [List.length_append, List.length_singleton]
      omega

theorem WellFormed.foldl_started (targets : List (String × target)) {m : monitors}
    (h : WellFormed hash m) (hpaths : ∀ entry ∈ targets, entry.2.cgroup_path = some entry.1) :
    WellFormed hash (targets.foldl
      (start_new hash order hwinfo container_events_groups callchain_frequency) m) := by
  induction targets generalizing m with
  | nil => exact h
  | cons entry targets ih =>
      have hstep := h.started order hwinfo container_events_groups callchain_frequency
        (hpaths entry List.mem_cons_self)
      exact ih hstep fun other hother => hpaths other (List.mem_cons_of_mem _ hother)

-- What a synchronisation does to a well-formed table: it goes through a table
-- that has lost vanished entries only.
theorem WellFormed.sync {m : monitors} (h : WellFormed hash m)
    {running_targets : Table String target} (hfound : Discovered hash running_targets) :
    ∃ stopped, WellFormed hash stopped ∧ stopped.created = m.created ∧
      (∀ actor ∈ m.destroyed, actor ∈ stopped.destroyed) ∧
      (∀ entry ∈ stopped.container_monitoring_actors.entries,
        entry ∈ m.container_monitoring_actors.entries) ∧
      (∀ entry ∈ m.container_monitoring_actors.entries, entry.1 ∈ running_targets.keys →
        entry ∈ stopped.container_monitoring_actors.entries) ∧
      WellFormed hash (sync_cgroups_running_monitored hash order hwinfo container_events_groups
        callchain_frequency m (some running_targets)) ∧
      Started hash stopped (sync_cgroups_running_monitored hash order hwinfo
        container_events_groups callchain_frequency m (some running_targets))
        running_targets.entries := by
  obtain ⟨stopped, hbuckets, hcreated, hdestroyed, heq⟩ :=
    sync_cgroups_running_monitored_eq order hwinfo container_events_groups callchain_frequency
      h.valid hfound.valid
  have hstopped := h.stop hbuckets hcreated hdestroyed
  refine ⟨stopped, hstopped, hcreated, ?_, ?_, ?_, ?_, ?_⟩
  · intro actor hactor
    rw [hdestroyed]
    exact List.mem_append_left _ hactor
  · intro entry hentry
    rw [Table.entries, hbuckets] at hentry
    exact (Table.flatten_map_sublist _ _ fun _ => List.eraseP_sublist).subset hentry
  · intro entry hentry hkey
    obtain ⟨target, htarget⟩ :=
      Option.isSome_iff_exists.mp ((Table.lookup_isSome_iff hfound.valid).mpr hkey)
    obtain ⟨chain, hchain, hmem⟩ := List.mem_flatten.mp hentry
    rw [Table.entries, hbuckets]
    refine List.mem_flatten.mpr ⟨_, List.mem_map_of_mem hchain, ?_⟩
    rw [List.mem_eraseP_of_neg (by simp [vanished, htarget])]
    exact hmem
  · rw [heq]
    exact hstopped.foldl_started order hwinfo container_events_groups callchain_frequency _
      hfound.path_eq
  · rw [heq]
    exact foldl_start_new order hwinfo container_events_groups callchain_frequency _
      hstopped.valid

-- The statuses agree with what the table says.
structure Consistent (hash : String → Nat) (s : sensor) : Prop where
  monitors : WellFormed hash s.monitors
  destroyed_mem : ∀ actor, s.status actor = .destroyed → actor ∈ s.monitors.destroyed
  left_interrupted : ∀ actor, s.status actor = .interrupted → s.interrupted = true

-- No entry of the table has a destroyed actor.
theorem Consistent.status_of_entry {s : sensor} (h : Consistent hash s) {entry : String × Nat}
    (hentry : entry ∈ s.actors.entries) :
    s.status entry.2 = .starting ∨ s.status entry.2 = .monitoring ∨
      s.status entry.2 = .gave_up ∨ s.status entry.2 = .interrupted ∧ s.interrupted = true := by
  cases hstatus : s.status entry.2 with
  | starting => simp
  | monitoring => simp
  | gave_up => simp
  | interrupted => simpa using h.left_interrupted entry.2 hstatus
  | destroyed =>
      exact absurd (h.destroyed_mem entry.2 hstatus) (h.monitors.alive entry hentry)

theorem consistent_start {limit : Nat} (hlimit : 0 < limit) :
    Consistent hash (sensor.start limit) := by
  have hentries : (sensor.start limit).actors.entries = [] := by
    simp [sensor.start, Table.entries, sensor.actors]
  refine ⟨⟨⟨?_, ?_, ?_⟩, ?_, ?_, ?_, ?_⟩, ?_, ?_⟩
  · simpa [sensor.start] using hlimit
  · intro i hi entry hentry
    simp [sensor.start] at hentry
  · rw [Table.keys, hentries]
    exact List.nodup_nil
  · rw [hentries]
    exact List.nodup_nil
  · rw [hentries]
    simp
  · rw [hentries]
    simp
  · simp [sensor.start]
  · intro actor hactor
    simp [sensor.start] at hactor
  · intro actor hactor
    simp [sensor.start] at hactor

-- An actor's own step is no destruction.
theorem Consistent.set_status {s : sensor} (h : Consistent hash s) (actor : Nat)
    {status : actor_status} (hdestroyed : status ≠ .destroyed)
    (hinterrupted : status = .interrupted → s.interrupted = true) :
    Consistent hash (s.set_status actor status) := by
  refine ⟨h.monitors, fun other hother => ?_, fun other hother => ?_⟩
  · by_cases heq : other = actor
    · simp only [sensor.set_status, heq, if_true] at hother
      exact absurd hother hdestroyed
    · simp only [sensor.set_status, heq, if_false] at hother
      exact h.destroyed_mem other hother
  · by_cases heq : other = actor
    · simp only [sensor.set_status, heq, if_true] at hother
      exact hinterrupted hother
    · simp only [sensor.set_status, heq, if_false] at hother
      exact h.left_interrupted other hother

theorem Consistent.synced {s : sensor} (h : Consistent hash s)
    {discovery : Option (Table String target)}
    (hfound : ∀ running_targets, discovery = some running_targets →
      Discovered hash running_targets) :
    Consistent hash (s.synced (sync_cgroups_running_monitored hash order hwinfo
      container_events_groups callchain_frequency s.monitors discovery)) := by
  have hmonitors : WellFormed hash (sync_cgroups_running_monitored hash order hwinfo
      container_events_groups callchain_frequency s.monitors discovery) ∧
      ∀ actor ∈ s.monitors.destroyed, actor ∈ (sync_cgroups_running_monitored hash order hwinfo
        container_events_groups callchain_frequency s.monitors discovery).destroyed := by
    cases discovery with
    | none => exact ⟨h.monitors, fun _ => id⟩
    | some running_targets =>
        obtain ⟨stopped, -, -, hdestroyed, -, -, hafter, hstarted⟩ :=
          h.monitors.sync order hwinfo container_events_groups callchain_frequency
            (hfound running_targets rfl)
        refine ⟨hafter, fun actor hactor => ?_⟩
        rw [hstarted.destroyed_eq]
        exact hdestroyed actor hactor
  refine ⟨hmonitors.1, fun actor hactor => ?_, fun actor hactor => ?_⟩
  · simp only [sensor.synced] at hactor ⊢
    split_ifs at hactor with hmem
    · exact hmem
    · exact hmonitors.2 actor (h.destroyed_mem actor hactor)
  · simp only [sensor.synced] at hactor ⊢
    split_ifs at hactor with hmem
    exact h.left_interrupted actor hactor

theorem sensor_step_consistent {s s' : sensor} {action : sensor_action} (h : Consistent hash s)
    (hstep : SensorStep hash order hwinfo container_events_groups callchain_frequency s action
      s') :
    Consistent hash s' := by
  cases hstep with
  | check hmain hgo => exact ⟨h.monitors, h.destroyed_mem, h.left_interrupted⟩
  | quit hmain hstop => exact ⟨h.monitors, h.destroyed_mem, h.left_interrupted⟩
  | sync hmain discovery hfound =>
      exact h.synced order hwinfo container_events_groups callchain_frequency hfound
  | tick hmain => exact ⟨h.monitors, h.destroyed_mem, h.left_interrupted⟩
  | startup actor hcreated hstarting outcome =>
      refine h.set_status _ ?_ ?_
      · cases outcome <;> simp [startup.status]
      · cases outcome <;> simp [startup.status]
  | interrupt => exact ⟨h.monitors, h.destroyed_mem, fun _ _ => rfl⟩
  | leave hmonitoring hstop => exact h.set_status _ (by simp) fun _ => hstop
  | grow actors hvalid hperm =>
      refine ⟨⟨hvalid, ?_, ?_, ?_, h.monitors.destroyed_lt⟩, h.destroyed_mem,
        h.left_interrupted⟩
      · exact (hperm.map Prod.snd).nodup_iff.mpr h.monitors.distinct
      · exact fun entry hentry => h.monitors.made entry (hperm.subset hentry)
      · exact fun entry hentry => h.monitors.alive entry (hperm.subset hentry)

theorem run_consistent {limit : Nat} (hlimit : 0 < limit) {labels : List sensor_action}
    {s : sensor} (hrun : Run (SensorStep hash order hwinfo container_events_groups
      callchain_frequency) (sensor.start limit) labels s) :
    Consistent hash s :=
  hrun.invariant (Consistent hash) (consistent_start hlimit) fun _ _ _ h hstep =>
    sensor_step_consistent order hwinfo container_events_groups callchain_frequency h hstep

theorem covered_of_sync {s : sensor} (h : Consistent hash s) {running_targets : Table String target}
    (hfound : Discovered hash running_targets) :
    Covered s running_targets (s.synced (sync_cgroups_running_monitored hash order hwinfo
      container_events_groups callchain_frequency s.monitors (some running_targets))) := by
  obtain ⟨stopped, hstopped, hcreated, -, hsubset, hkept, hafter, hstarted⟩ :=
    h.monitors.sync order hwinfo container_events_groups callchain_frequency hfound
  have hcovered : Consistent hash (s.synced (sync_cgroups_running_monitored hash order hwinfo
      container_events_groups callchain_frequency s.monitors (some running_targets))) :=
    h.synced order hwinfo container_events_groups callchain_frequency (by rintro _ ⟨⟩; exact hfound)
  refine ⟨?_, ?_, ?_⟩
  · intro path hpath
    obtain ⟨entry, hentry, rfl⟩ := List.mem_map.mp
      ((hstarted.mem_keys path).mpr (Or.inr hpath))
    obtain ⟨config, hconfig, hcgroup⟩ := hafter.made entry hentry
    refine ⟨entry.2, config, hentry, hconfig, hcgroup, ?_⟩
    rcases hstarted.adds entry hentry with hold | hnew
    · exact Or.inr ⟨hsubset entry hold, hcovered.status_of_entry hentry⟩
    · rw [hcreated] at hnew
      refine Or.inl ⟨fun hmem => ?_, hnew⟩
      -- the old entry of the path is still there, and there is only one
      obtain ⟨other, hother, hsame⟩ := List.mem_map.mp hmem
      have hafter_other := hstarted.keeps other (hkept other hother (hsame ▸ hpath))
      have heq := List.inj_on_of_nodup_map hafter.valid.distinct hafter_other hentry hsame
      have hlt := h.monitors.actor_lt hother
      rw [heq] at hlt
      omega
  · intro entry hentry hkey
    have hmem := hstarted.keeps entry (hkept entry hentry hkey)
    refine ⟨hmem, ?_⟩
    simp only [sensor.synced, if_neg (hafter.alive entry hmem)]
  · obtain ⟨started, hcreated', hstarted'⟩ := hstarted.creates
    intro config hconfig path hpath
    have hdrop : (s.synced (sync_cgroups_running_monitored hash order hwinfo container_events_groups
        callchain_frequency s.monitors (some running_targets))).created.drop s.created.length =
        started := by
      simp only [sensor.synced, sensor.created, hcreated', hcreated]
      exact List.drop_left' rfl
    rw [hdrop] at hconfig
    obtain ⟨entry, hentry, htarget, hkey⟩ := hstarted' config hconfig
    have heq : entry.1 = path := by
      have hcgroup := hfound.path_eq entry hentry
      rw [← htarget, hpath] at hcgroup
      exact (Option.some.inj hcgroup).symm
    subst heq
    have hrunning : entry.1 ∈ running_targets.keys := List.mem_map_of_mem hentry
    refine ⟨hrunning, fun hold => hkey ?_⟩
    obtain ⟨other, hother, hsame⟩ := List.mem_map.mp hold
    rw [← hsame]
    exact List.mem_map_of_mem (hkept other hother (hsame ▸ hrunning))

-- After every synchronisation of every run.
theorem discovered_is_covered {limit : Nat} (hlimit : 0 < limit) {labels : List sensor_action}
    {s s' : sensor} {running_targets : Table String target}
    (hrun : Run (SensorStep hash order hwinfo container_events_groups callchain_frequency)
      (sensor.start limit) labels s)
    (hstep : SensorStep hash order hwinfo container_events_groups callchain_frequency s
      (.sync (some running_targets)) s') :
    Covered s running_targets s' := by
  have h := run_consistent order hwinfo container_events_groups callchain_frequency hlimit hrun
  cases hstep with
  | sync hmain discovery hfound =>
      exact covered_of_sync order hwinfo container_events_groups callchain_frequency h
        (hfound running_targets rfl)

end

def one_container : Table String target :=
  ⟨[[("/perf_event/lxc/c", ⟨.LXC, some "/perf_event", some "/perf_event/lxc/c"⟩)]], 0, []⟩

def two_containers : Table String target :=
  ⟨[[("/perf_event/lxc/c", ⟨.LXC, some "/perf_event", some "/perf_event/lxc/c"⟩),
    ("/perf_event/lxc/d", ⟨.LXC, some "/perf_event", some "/perf_event/lxc/d"⟩)]], 0, []⟩

theorem one_container_discovered : Discovered (fun _ => 0) one_container :=
  ⟨⟨by decide, by simp [one_container], by decide⟩, by simp [one_container, Table.entries]⟩

theorem two_containers_discovered : Discovered (fun _ => 0) two_containers :=
  ⟨⟨by decide, by simp [two_containers], by decide⟩, by simp [two_containers, Table.entries]⟩

def syncing (s : sensor) (running_targets : Table String target) : sensor :=
  s.synced (sync_cgroups_running_monitored (fun _ => 0) in_order ⟨[]⟩ [] 0 s.monitors
    (some running_targets))

-- The first synchronisation starts an actor, whose setup fails; then the loop goes
-- on to the second one.
def gave_up : sensor :=
  { (syncing { sensor.start 1 with main := .syncing } one_container).set_status 0 .gave_up with
    main := .syncing }

theorem gave_up_run : Run (SensorStep (fun _ => 0) in_order ⟨[]⟩ [] 0) (sensor.start 1)
    [.check, .sync (some one_container), .startup 0 .not_initialized, .tick, .check] gave_up := by
  have hfirst : Run (SensorStep (fun _ => 0) in_order ⟨[]⟩ [] 0) (sensor.start 1) [.check] _ :=
    Run.single (.check rfl rfl)
  have hsynced := hfirst.snoc (.sync rfl (some one_container)
    (by rintro _ ⟨⟩; exact one_container_discovered))
  have hgave_up := hsynced.snoc (.startup 0 (by decide) (by decide) .not_initialized)
  exact (hgave_up.snoc (.tick rfl)).snoc (.check rfl rfl)

theorem syncing_step {s : sensor} {running_targets : Table String target}
    (hmain : s.main = .syncing) (hfound : Discovered (fun _ => 0) running_targets) :
    SensorStep (fun _ => 0) in_order ⟨[]⟩ [] 0 s (.sync (some running_targets))
      (syncing s running_targets) :=
  .sync hmain (some running_targets) (by rintro _ ⟨⟩; exact hfound)

-- The old cgroup keeps the actor that gave up, the new one gets its own.
theorem discovered_is_covered_second :
    gave_up.actors.entries = [("/perf_event/lxc/c", 0)] ∧ gave_up.status 0 = .gave_up ∧
      Covered gave_up two_containers (syncing gave_up two_containers) :=
  ⟨by decide, by decide, discovered_is_covered in_order ⟨[]⟩ [] 0 (by decide) gave_up_run
    (syncing_step rfl two_containers_discovered)⟩

-- The second synchronisation finds the entry and starts nothing.
theorem gave_up_is_not_restarted :
    ¬ ∀ (hash : String → Nat) (order : hash_order) (hwinfo : hwinfo)
      (container_events_groups : zhashx events_group) (callchain_frequency limit : Nat)
      (labels : List sensor_action) (s s' : sensor)
      (running_targets : Table String target), 0 < limit →
      Run (SensorStep hash order hwinfo container_events_groups callchain_frequency)
        (sensor.start limit) labels s →
      SensorStep hash order hwinfo container_events_groups callchain_frequency s
        (.sync (some running_targets)) s' →
      Monitored s running_targets s' := by
  intro hclaim
  have hmonitored := hclaim (fun _ => 0) in_order ⟨[]⟩ [] 0 1 _ _ _ one_container (by decide)
    gave_up_run (syncing_step rfl one_container_discovered)
  obtain ⟨actor, hentry, halive⟩ := hmonitored "/perf_event/lxc/c" (by decide)
  have hactor : ("/perf_event/lxc/c", actor) ∈ [("/perf_event/lxc/c", 0)] := hentry
  obtain rfl : actor = 0 := by simpa using hactor
  rcases halive with hnew | hstarting | hmonitoring
  · exact absurd hnew (by decide)
  · exact absurd hstarting (by decide)
  · exact absurd hmonitoring (by decide)

end HwpcSensor.Sensor
