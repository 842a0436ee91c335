import HwpcSensor.Sensor.Monitoring.Theorems

namespace HwpcSensor.Sensor

open ChainedTable Perf Transition

-- The actors that the table has.
def actors_of (m : monitors) : List Nat :=
  m.container_monitoring_actors.entries.map Prod.snd

section Sync

variable {hash : String → Nat} (order : hash_order) (hwinfo : hwinfo) (groups : zhashx events_group)
  (frequency : Nat) {m synced : monitors}

-- New actors are numbered on, and each is for a target that was found.
theorem foldl_start_new_actors (targets : List (String × target))
    (hvalid : m.container_monitoring_actors.Valid hash) :
    ∃ started, (targets.foldl (start_new hash order hwinfo groups frequency) m).created =
        m.created ++ started ∧
      (actors_of (targets.foldl (start_new hash order hwinfo groups frequency) m)).Perm
        (actors_of m ++ List.range' m.created.length started.length) ∧
      ∀ new ∈ started, ∃ entry ∈ targets,
        new = perf_config_create order hwinfo groups entry.2 frequency := by
  induction targets generalizing m with
  | nil => exact ⟨[], by simp, by simp, by simp⟩
  | cons entry rest ih =>
      rw [List.foldl_cons]
      by_cases hmem : entry.1 ∈ m.container_monitoring_actors.keys
      · rw [start_new_of_mem order hwinfo groups frequency hvalid hmem]
        obtain ⟨started, hcreated, hactors, hfrom⟩ := ih hvalid
        refine ⟨started, hcreated, hactors, fun new hnew => ?_⟩
        obtain ⟨other, hother, heq⟩ := hfrom new hnew
        exact ⟨other, List.mem_cons_of_mem _ hother, heq⟩
      · rw [start_new_of_not_mem order hwinfo groups frequency hvalid hmem]
        have hvalid' : ({ m with
            container_monitoring_actors :=
              m.container_monitoring_actors.insert hash entry.1 m.created.length
            created := m.created ++ [perf_config_create order hwinfo groups entry.2
              frequency] } : monitors).container_monitoring_actors.Valid hash :=
          Table.valid_insert hvalid _ _
        obtain ⟨started, hcreated, hactors, hfrom⟩ := ih hvalid'
        refine ⟨perf_config_create order hwinfo groups entry.2 frequency :: started, ?_, ?_, ?_⟩
        · rw [hcreated]
          simp
        · have hinsert := (Table.entries_insert hvalid hmem m.created.length).map Prod.snd
          refine hactors.trans ?_
          rw [List.length_cons, List.range'_succ, List.length_append, List.length_singleton]
          refine (hinsert.append_right _).trans ?_
          rw [List.map_cons, List.cons_append]
          exact List.perm_middle.symm
        · intro new hnew
          rcases List.mem_cons.mp hnew with rfl | hnew
          · exact ⟨entry, List.mem_cons_self, rfl⟩
          · obtain ⟨other, hother, heq⟩ := hfrom new hnew
            exact ⟨other, List.mem_cons_of_mem _ hother, heq⟩

-- What a synchronisation does to the actors: those of some vanished targets go,
-- the others stay, and new ones are started.
theorem WellFormed.sync_actors (hwell : WellFormed hash m) {found : Option (Table String target)}
    (hfound : ∀ running_targets, found = some running_targets → Discovered hash running_targets)
    (hsynced : sync_cgroups_running_monitored hash order hwinfo groups frequency m found = synced) :
    WellFormed hash synced ∧ ∃ gone kept started, synced.destroyed = m.destroyed ++ gone ∧
      (gone ++ kept).Perm (actors_of m) ∧ synced.created = m.created ++ started ∧
      (actors_of synced).Perm (kept ++ List.range' m.created.length started.length) ∧
      ∀ new ∈ started, ∃ running_targets entry, found = some running_targets ∧
        entry ∈ running_targets.entries ∧
        new = perf_config_create order hwinfo groups entry.2 frequency := by
  subst hsynced
  cases found with
  | none =>
      exact ⟨hwell, [], actors_of m, [], (List.append_nil _).symm, List.Perm.refl _,
        (List.append_nil _).symm, by simp [sync_cgroups_running_monitored], by simp⟩
  | some running_targets =>
      have hfound := hfound running_targets rfl
      obtain ⟨-, -, -, -, -, -, hwell', -⟩ := hwell.sync order hwinfo groups frequency hfound
      obtain ⟨stopped, hbuckets, hcreated, hdestroyed, heq⟩ :=
        sync_cgroups_running_monitored_eq order hwinfo groups frequency hwell.valid hfound.valid
      have hstopped := hwell.stop hbuckets hcreated hdestroyed
      obtain ⟨started, hstarted, hactors, hfrom⟩ := foldl_start_new_actors order hwinfo groups
        frequency running_targets.entries hstopped.valid
      have hsame : (running_targets.entries.foldl
          (start_new hash order hwinfo groups frequency) stopped).destroyed = stopped.destroyed :=
        (foldl_start_new order hwinfo groups frequency _ hstopped.valid).destroyed_eq
      rw [← heq] at hstarted hactors hsame
      have hperm := (Table.flatMap_find?_append_eraseP_perm
        (fun entry => vanished hash running_targets entry.1)
        m.container_monitoring_actors.buckets).map Prod.snd
      rw [← hbuckets, List.map_append] at hperm
      refine ⟨hwell', _, actors_of stopped, started, hsame.trans hdestroyed, hperm,
        hcreated ▸ hstarted, hcreated ▸ hactors, fun new hnew => ?_⟩
      obtain ⟨entry, hentry, rfl⟩ := hfrom new hnew
      exact ⟨running_targets, entry, rfl, hentry, rfl⟩

-- The actors created so far are those that were destroyed and those of the table.
def EachOnce (m : monitors) : Prop :=
  (m.destroyed ++ actors_of m).Perm (List.range m.created.length)

theorem EachOnce.sync (h : EachOnce m) (hwell : WellFormed hash m)
    {found : Option (Table String target)}
    (hfound : ∀ running_targets, found = some running_targets → Discovered hash running_targets)
    (hsynced : sync_cgroups_running_monitored hash order hwinfo groups frequency m found = synced) :
    EachOnce synced := by
  obtain ⟨-, gone, kept, started, hdestroyed, hperm, hcreated, hactors, -⟩ :=
    hwell.sync_actors order hwinfo groups frequency hfound hsynced
  have hold : (m.destroyed ++ (gone ++ kept)).Perm (List.range m.created.length) :=
    (hperm.append_left m.destroyed).trans h
  have hrange : List.range (m.created.length + started.length) =
      List.range m.created.length ++ List.range' m.created.length started.length := by
    have happend := List.range'_append_1 (s := 0) (m := m.created.length) (n := started.length)
    rw [Nat.zero_add] at happend
    rw [List.range_eq_range', List.range_eq_range', happend]
  rw [EachOnce, hdestroyed, hcreated, List.length_append, hrange, List.append_assoc]
  refine ((hactors.append_left gone).append_left m.destroyed).trans ?_
  rw [← List.append_assoc gone, ← List.append_assoc]
  exact hold.append_right _

end Sync

section Runs

variable {hash : String → Nat} {order : hash_order} {hwinfo : hwinfo} {groups : zhashx events_group}
  {frequency limit : Nat} {labels : List sensor_action} {s s' : sensor} {action : sensor_action}

structure Accounted (hash : String → Nat) (s : sensor) : Prop where
  consistent : Consistent hash s
  each_once : EachOnce s.monitors
  destroyed : ∀ actor ∈ s.monitors.destroyed, s.status actor = .destroyed

theorem Accounted.set_status (h : Accounted hash s) {actor : Nat} {status : actor_status}
    (hstatus : s.status actor ≠ .destroyed)
    (hconsistent : Consistent hash (s.set_status actor status)) :
    Accounted hash (s.set_status actor status) := by
  refine ⟨hconsistent, h.each_once, fun other hother => ?_⟩
  have hold := h.destroyed other hother
  have hne : other ≠ actor := fun heq => hstatus (heq ▸ hold)
  exact (if_neg hne).trans hold

theorem Accounted.step (h : Accounted hash s)
    (hstep : SensorStep hash order hwinfo groups frequency s action s') : Accounted hash s' := by
  have hconsistent := sensor_step_consistent order hwinfo groups frequency h.consistent hstep
  cases hstep with
  | check hmain hgo => exact ⟨hconsistent, h.each_once, h.destroyed⟩
  | quit hmain hstop => exact ⟨hconsistent, h.each_once, h.destroyed⟩
  | sync hmain discovery hfound =>
      exact ⟨hconsistent, h.each_once.sync order hwinfo groups frequency h.consistent.monitors
        hfound rfl, fun actor hactor => if_pos hactor⟩
  | tick hmain => exact ⟨hconsistent, h.each_once, h.destroyed⟩
  | startup actor hcreated hstarting outcome =>
      exact h.set_status (by simp [hstarting]) hconsistent
  | interrupt => exact ⟨hconsistent, h.each_once, h.destroyed⟩
  | leave hmonitoring hstop => exact h.set_status (by simp [hmonitoring]) hconsistent
  | grow actors hvalid hperm =>
      exact ⟨hconsistent, ((hperm.map Prod.snd).append_left _).trans h.each_once, h.destroyed⟩

theorem accounted_start (hlimit : 0 < limit) : Accounted hash (sensor.start limit) := by
  refine ⟨consistent_start hlimit, ?_, by simp [sensor.start]⟩
  simp [EachOnce, actors_of, sensor.start, Table.entries]

-- The container that an actor was created for.
def path_of (s : sensor) (actor : Nat) : Option String :=
  s.created[actor]?.bind fun config => config.target.cgroup_path

-- In every state that can be reached, each actor has been destroyed once, or is in
-- the table once and has not been destroyed. No two of the latter are for the same
-- container.
theorem one_actor_per_container (hlimit : 0 < limit)
    (hrun : Run (SensorStep hash order hwinfo groups frequency) (sensor.start limit) labels s) :
    (s.monitors.destroyed ++ actors_of s.monitors).Perm (List.range s.created.length) ∧
      (∀ actor, s.status actor = .destroyed ↔ actor ∈ s.monitors.destroyed) ∧
      ∀ actor other, actor < s.created.length → other < s.created.length →
        s.status actor ≠ .destroyed → s.status other ≠ .destroyed →
        path_of s actor = path_of s other → actor = other := by
  have h : Accounted hash s := hrun.invariant (Accounted hash) (accounted_start hlimit)
    fun _ _ _ h hstep => h.step hstep
  refine ⟨h.each_once, fun actor => ⟨h.consistent.destroyed_mem actor, h.destroyed actor⟩, ?_⟩
  have hentry : ∀ actor, actor < s.created.length → s.status actor ≠ .destroyed →
      ∃ path, (path, actor) ∈ s.actors.entries ∧ path_of s actor = some path := by
    intro actor hlt halive
    have hmem := h.each_once.symm.subset (List.mem_range.mpr hlt)
    rcases List.mem_append.mp hmem with hdestroyed | hactor
    · exact absurd (h.destroyed actor hdestroyed) halive
    · obtain ⟨entry, hentry, rfl⟩ := List.mem_map.mp hactor
      obtain ⟨config, hconfig, hpath⟩ := h.consistent.monitors.made entry hentry
      exact ⟨entry.1, hentry, by rw [path_of, hconfig]; exact hpath⟩
  intro actor other hactor hother halive halive' hsame
  obtain ⟨path, hmem, hpath⟩ := hentry actor hactor halive
  obtain ⟨path', hmem', hpath'⟩ := hentry other hother halive'
  obtain rfl : path = path' := Option.some.inj (hpath.symm.trans (hsame.trans hpath'))
  exact congrArg Prod.snd (List.inj_on_of_nodup_map h.consistent.monitors.valid.distinct hmem hmem'
    rfl)

end Runs

theorem one_actor_per_container_first :
    ∃ s, (s.monitors.destroyed ++ actors_of s.monitors).Perm (List.range s.created.length) ∧
      path_of s 0 = some "/perf_event/lxc/c" ∧ s.status 0 = .starting := by
  have hrun : Run (SensorStep (fun _ => 0) in_order ⟨[]⟩ [] 0) (sensor.start 1)
      ([.check] ++ [.sync (some one_container)]) _ :=
    (Run.single (.check rfl rfl)).snoc (.sync rfl (some one_container)
      (by rintro _ ⟨⟩; exact one_container_discovered))
  exact ⟨_, (one_actor_per_container (by decide) hrun).1, by rfl, by rfl⟩

end HwpcSensor.Sensor
