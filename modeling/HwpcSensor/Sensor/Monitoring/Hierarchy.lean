import HwpcSensor.Sensor.Monitoring.Convergence
import HwpcSensor.Sensor.Targets.Theorems

namespace HwpcSensor.Sensor

open ChainedTable Perf Transition

-- A cgroup without cgroups below it, and with a path that its type allows.
def LeafTarget (base_path : String) (tree : cgroups) (path : String) : Prop :=
  ∃ names, (names = [] ∧ tree = .none ∨ tree.Has names .none) ∧
    path = cgroup_path base_path names ∧
    target_validate_type (target_detect_type (some path)) (some path) = true

-- The table that `target_discover_running` leaves for a hierarchy.
def ListsTargets (order : hash_order) (base_path : String) (tree : cgroups)
    (running_targets : Table String target) : Prop :=
  ∃ created, ∀ path target, (path, target) ∈ running_targets.entries ↔
    ∃ i, (path, i) ∈ (target_discover_running order base_path TARGET_TYPE_EVERYTHING (some tree)
        ⟨created, []⟩).2.targets ∧
      (target_discover_running order base_path TARGET_TYPE_EVERYTHING (some tree)
        ⟨created, []⟩).2.created[i]? = some target

def leaf_paths (base_path : String) (tree : cgroups) : List String :=
  ((fts_read base_path tree).filter fun node => Wanted TARGET_TYPE_EVERYTHING node).map
    FTSENT.fts_path

section

variable {hash : String → Nat} {order : hash_order} {base_path : String} {tree : cgroups}

theorem mem_leaf_paths {path : String} :
    path ∈ leaf_paths base_path tree ↔ LeafTarget base_path tree path := by
  simp only [leaf_paths, List.mem_map, List.mem_filter, decide_eq_true_eq]
  constructor
  · rintro ⟨node, ⟨hnode, hwanted⟩, rfl⟩
    obtain ⟨⟨hinfo, hnlink⟩, hvalidated⟩ := Wanted.everything.mp hwanted
    obtain ⟨names, sub, hplace, rfl⟩ := mem_fts_read_iff.mp ⟨hnode, hinfo⟩
    obtain rfl := count_eq_zero_iff.mp (Nat.add_left_cancel hnlink)
    exact ⟨names, hplace.imp_left fun h => ⟨h.1, h.2.symm⟩, rfl, hvalidated⟩
  · rintro ⟨names, hplace, rfl, hvalidated⟩
    obtain ⟨hnode, -⟩ := mem_fts_read_iff.mpr
      ⟨names, .none, hplace.imp_left fun h => ⟨h.1, h.2.symm⟩, rfl⟩
    exact ⟨_, ⟨hnode, Wanted.everything.mpr ⟨⟨rfl, rfl⟩, hvalidated⟩⟩, rfl⟩

theorem nodup_leaf_paths (hvalid : tree.Valid) : (leaf_paths base_path tree).Nodup := by
  refine List.Nodup.sublist (List.Sublist.map _ ?_) (nodup_fts_paths base_path hvalid)
  exact List.monotone_filter_right _ fun node hwanted =>
    decide_eq_true (of_decide_eq_true hwanted).1.1

-- What is found in the hierarchy are its leaves.
theorem ListsTargets.keys_perm {running_targets : Table String target}
    (h : ListsTargets order base_path tree running_targets) (hvalid : tree.Valid)
    (hdistinct : running_targets.keys.Nodup) :
    running_targets.keys.Perm (leaf_paths base_path tree) := by
  obtain ⟨created, hentries⟩ := h
  have hfound := @target_discover_running_found order base_path TARGET_TYPE_EVERYTHING tree created
  refine (List.perm_ext_iff_of_nodup hdistinct (nodup_leaf_paths hvalid)).mpr fun path => ?_
  constructor
  · intro hkey
    obtain ⟨⟨_, target⟩, hentry, rfl⟩ := List.mem_map.mp hkey
    obtain ⟨i, htarget, -⟩ := (hentries _ _).mp hentry
    obtain ⟨node, hnode, hwanted, hpath, -⟩ := hfound.sound _ htarget
    exact List.mem_map.mpr ⟨node, List.mem_filter.mpr ⟨hnode, decide_eq_true hwanted⟩, hpath⟩
  · intro hleaf
    obtain ⟨node, hnode, rfl⟩ := List.mem_map.mp hleaf
    obtain ⟨hnode, hwanted⟩ := List.mem_filter.mp hnode
    obtain ⟨entry, hentry, hpath⟩ :=
      List.mem_map.mp (hfound.complete node hnode (of_decide_eq_true hwanted))
    obtain ⟨other, -, -, -, hcreated⟩ := hfound.sound entry hentry
    rw [← hpath]
    exact List.mem_map_of_mem ((hentries entry.1 _).mpr ⟨entry.2, hentry, hcreated⟩)

end

section Run

variable {hash : String → Nat} {order : hash_order} {hwinfo : hwinfo}
  {container_events_groups : zhashx events_group} {callchain_frequency : Nat}
  {base_path : String} {tree : cgroups} {before s : sensor}

theorem run_discovered {labels : List sensor_action}
    (hrun : Run (SensorStep hash order hwinfo container_events_groups callchain_frequency)
      before labels s) :
    ∀ running_targets, .sync (some running_targets) ∈ labels →
      Discovered hash running_targets := by
  refine hrun.history (fun labels _ => ∀ running_targets,
    .sync (some running_targets) ∈ labels → Discovered hash running_targets) (by simp) ?_
  intro labels s action s' h hstep running_targets hmem
  rcases List.mem_append.mp hmem with hold | hnew
  · exact h running_targets hold
  · obtain rfl := List.mem_singleton.mp hnew
    cases hstep with
    | sync hmain discovery hfound => exact hfound running_targets rfl

-- While the hierarchy stays as it is, and whatever was monitored before, as many
-- synchronisations as there were monitors, and one at least, leave one actor for each
-- of its leaves and none for anything else.
theorem hierarchy_is_monitored {limit : Nat} (hlimit : 0 < limit) (hvalid : tree.Valid)
    {earlier labels : List sensor_action}
    (hbefore : Run (SensorStep hash order hwinfo container_events_groups callchain_frequency)
      (sensor.start limit) earlier before)
    (hrun : Run (SensorStep hash order hwinfo container_events_groups callchain_frequency)
      before labels s)
    (hlists : ∀ running_targets, .sync (some running_targets) ∈ labels →
      ListsTargets order base_path tree running_targets)
    (hone : 1 ≤ (labels.filter sensor_action.syncs).length)
    (henough : before.actors.entries.length ≤ (labels.filter sensor_action.syncs).length) :
    s.actors.keys.Nodup ∧
      (∀ path, path ∈ s.actors.keys ↔ LeafTarget base_path tree path) ∧
      (∀ entry ∈ s.actors.entries, ∃ config, s.created[entry.2]? = some config ∧
        config.target.cgroup_path = some entry.1 ∧ entry.2 ∉ s.monitors.destroyed) ∧
      ∀ entry ∈ before.actors.entries, LeafTarget base_path tree entry.1 ∧
          entry ∈ s.actors.entries ∨
        ¬LeafTarget base_path tree entry.1 ∧ entry.2 ∈ s.monitors.destroyed := by
  have hfinds : ∀ action ∈ labels, action.Finds (leaf_paths base_path tree) := by
    intro action haction
    cases action with
    | sync discovery =>
        cases discovery with
        | none => exact trivial
        | some running_targets =>
            have hfound := run_discovered hrun running_targets haction
            exact (hlists running_targets haction).keys_perm hvalid hfound.valid.distinct
    | _ => exact trivial
  have hconsistent := run_consistent order hwinfo container_events_groups callchain_frequency
    hlimit hbefore
  have hafter := run_consistent order hwinfo container_events_groups callchain_frequency hlimit
    (hbefore.append hrun)
  have hcaught := (CatchingUp.run hconsistent hrun hfinds).caught_up hafter hone
    (Nat.le_trans (List.length_filter_le _ _) henough)
  have hformed := hafter.monitors
  refine ⟨hformed.valid.distinct, fun path => ?_, fun entry hentry => ?_, fun entry hentry => ?_⟩
  · rw [hcaught.keys_eq.mem_iff, mem_leaf_paths]
  · obtain ⟨config, hconfig, hpath⟩ := hformed.made entry hentry
    exact ⟨config, hconfig, hpath, hformed.alive entry hentry⟩
  · by_cases hleaf : LeafTarget base_path tree entry.1
    · exact Or.inl ⟨hleaf, hcaught.kept entry hentry (mem_leaf_paths.mpr hleaf)⟩
    · exact Or.inr ⟨hleaf, hcaught.stopped entry hentry fun h => hleaf (mem_leaf_paths.mp h)⟩

end Run

def found_cgroup : Table String target :=
  ⟨[[("/sys/c1", Targets.one_target)]], 0, []⟩

theorem found_cgroup_discovered : Discovered (fun _ => 0) found_cgroup :=
  ⟨⟨by decide, by simp [found_cgroup], by decide⟩,
    by simp [found_cgroup, Table.entries, Targets.one_target]⟩

theorem found_cgroup_lists : ListsTargets in_order "/sys" Targets.one_cgroup found_cgroup := by
  refine ⟨[], fun path target => ?_⟩
  rw [Targets.one_cgroup_found]
  simp [found_cgroup, Table.entries, and_comm, eq_comm]

-- Two monitored containers make way for the one cgroup that there is.
theorem hierarchy_is_monitored_one :
    ∃ before s : sensor, before.actors.entries.length = 2 ∧ s.actors.keys.Nodup ∧
      ∀ path, path ∈ s.actors.keys ↔ LeafTarget "/sys" Targets.one_cgroup path := by
  have hstart : Run (SensorStep (fun _ => 0) in_order ⟨[]⟩ [] 0) (sensor.start 1)
      ([.check] ++ [.sync none]) _ :=
    (Run.single (.check rfl rfl)).snoc (.sync rfl none (by simp))
  obtain ⟨before, hbefore, htwo, hmain, hgo⟩ : ∃ before, (∃ labels,
      Run (SensorStep (fun _ => 0) in_order ⟨[]⟩ [] 0) (sensor.start 1) labels before) ∧
      before.actors.entries.length = 2 ∧ before.main = .ticking ∧ before.interrupted = false :=
    ⟨_, ⟨_, hstart.append (run_round rfl rfl two_containers_discovered)⟩, by decide, rfl, rfl⟩
  obtain ⟨earlier, hbefore⟩ := hbefore
  have hround : ∀ s : sensor, s.main = .ticking → s.interrupted = false →
      Run (SensorStep (fun _ => 0) in_order ⟨[]⟩ [] 0) s _ _ :=
    fun s hmain hgo => run_round hmain hgo found_cgroup_discovered
  have hafter := (hround before hmain hgo).append (hround _ rfl hgo)
  have hvalid : Targets.one_cgroup.Valid := by
    simp only [Targets.one_cgroup, cgroups.Valid, cgroups.names]
    decide
  obtain ⟨hnodup, hkeys, -⟩ := hierarchy_is_monitored (by decide) hvalid hbefore hafter
    (by simpa using found_cgroup_lists) (by decide) (by rw [htwo]; decide)
  exact ⟨before, _, htwo, hnodup, hkeys⟩

end HwpcSensor.Sensor
