import HwpcSensor.Sensor.Monitoring.Theorems

namespace HwpcSensor.Sensor

open ChainedTable Perf Transition

-- A synchronisation that has found the running targets.
def sensor_action.syncs : sensor_action → Bool
  | .sync (some _) => true
  | _ => false

-- The cgroups found, when any are, are those under these paths.
def sensor_action.Finds (paths : List String) : sensor_action → Prop
  | .sync (some running_targets) => running_targets.keys.Perm paths
  | _ => True

-- The entries of the cgroups that are gone.
def stale (paths : List String) (s : sensor) : List (String × Nat) :=
  s.actors.entries.filter fun entry => entry.1 ∉ paths

-- The table has caught up with the running cgroups. Who was monitored before and
-- still runs has kept its actor, and every other actor has been destroyed.
structure CaughtUp (paths : List String) (before after : sensor) : Prop where
  keys_eq : after.actors.keys.Perm paths
  kept : ∀ entry ∈ before.actors.entries, entry.1 ∈ paths → entry ∈ after.actors.entries
  stopped : ∀ entry ∈ before.actors.entries, entry.1 ∉ paths →
    entry.2 ∈ after.monitors.destroyed

-- On the way there, after a number of synchronisations.
structure CatchingUp (paths : List String) (before : sensor) (syncs : Nat) (s : sensor) :
    Prop where
  fewer : stale paths s = [] ∨ (stale paths s).length + syncs ≤ (stale paths before).length
  found : 0 < syncs → paths.Nodup ∧ ∀ path ∈ paths, path ∈ s.actors.keys
  kept : ∀ entry ∈ before.actors.entries, entry.1 ∈ paths → entry ∈ s.actors.entries
  stopped : ∀ entry ∈ before.actors.entries, entry.1 ∉ paths →
    entry ∈ s.actors.entries ∨ entry.2 ∈ s.monitors.destroyed

section

variable {hash : String → Nat} {order : hash_order} {hwinfo : hwinfo}
  {container_events_groups : zhashx events_group} {callchain_frequency : Nat}
  {paths : List String} {before s s' : sensor} {syncs : Nat}

theorem mem_stale {entry : String × Nat} :
    entry ∈ stale paths s ↔ entry ∈ s.actors.entries ∧ entry.1 ∉ paths := by
  simp [stale]

theorem CatchingUp.refl (s : sensor) : CatchingUp paths s 0 s :=
  ⟨Or.inr (Nat.le_refl _), fun h => absurd h (Nat.lt_irrefl 0), fun _ h _ => h,
    fun _ h _ => Or.inl h⟩

-- A step that leaves the entries of the table as they are.
theorem CatchingUp.same (h : CatchingUp paths before syncs s)
    (hentries : s'.actors.entries.Perm s.actors.entries)
    (hdestroyed : s'.monitors.destroyed = s.monitors.destroyed) :
    CatchingUp paths before syncs s' := by
  have hstale : (stale paths s').Perm (stale paths s) := hentries.filter _
  refine ⟨?_, fun hsyncs => ⟨(h.found hsyncs).1, fun path hpath => ?_⟩, ?_, ?_⟩
  · rcases h.fewer with hnil | hfewer
    · rw [hnil] at hstale
      exact Or.inl hstale.eq_nil
    · exact Or.inr (hstale.length_eq ▸ hfewer)
  · exact (hentries.map Prod.fst).mem_iff.mpr ((h.found hsyncs).2 path hpath)
  · exact fun entry hentry hpath => hentries.mem_iff.mpr (h.kept entry hentry hpath)
  · intro entry hentry hpath
    rw [hdestroyed, hentries.mem_iff]
    exact h.stopped entry hentry hpath

-- What is new in the table after the second loop is for a target.
theorem Started.old {m after : monitors} {targets : List (String × target)}
    (h : Started hash m after targets) {entry : String × Nat}
    (hentry : entry ∈ after.container_monitoring_actors.entries)
    (hpath : entry.1 ∉ targets.map Prod.fst) :
    entry ∈ m.container_monitoring_actors.entries := by
  have hkey : entry.1 ∈ m.container_monitoring_actors.keys :=
    ((h.mem_keys entry.1).mp (List.mem_map_of_mem hentry)).resolve_right hpath
  obtain ⟨other, hother, hsame⟩ := List.mem_map.mp hkey
  have heq := List.inj_on_of_nodup_map h.valid.distinct (h.keeps other hother) hentry hsame
  exact heq ▸ hother

-- When no chain loses an entry there is nothing dead in the table.
theorem eq_nil_of_lost_nil {dead : String × Nat → Bool} {buckets : List (List (String × Nat))}
    (h : (buckets.flatMap fun chain => (chain.find? dead).toList) = []) :
    ∀ entry ∈ buckets.flatten, dead entry = false := by
  intro entry hentry
  obtain ⟨chain, hchain, hmem⟩ := List.mem_flatten.mp hentry
  have hnone := List.flatMap_eq_nil_iff.mp h chain hchain
  rw [Option.toList_eq_nil_iff, List.find?_eq_none] at hnone
  simpa using hnone entry hmem

-- What remains of the items in question, when one was lost wherever there was one.
theorem eq_nil_or_length_lt {α : Type} {P : α → Prop} [DecidablePred P]
    {lost left old new : List α} (hperm : (lost ++ left).Perm old) (hlost : ∀ x ∈ lost, P x)
    (hnodup : new.Nodup) (hnew : new ⊆ left.filter P) (hall : lost = [] → ∀ x ∈ left, ¬P x) :
    new = [] ∨ new.length + 1 ≤ (old.filter P).length := by
  have hle := (List.subperm_of_subset hnodup hnew).length_le
  have hlength := (hperm.filter P).length_eq
  have hkept : lost.filter P = lost := List.filter_eq_self.mpr fun x hx => by simpa using hlost x hx
  rw [List.filter_append, List.length_append, hkept] at hlength
  by_cases hnil : lost = []
  · refine Or.inl (List.eq_nil_iff_forall_not_mem.mpr fun x hx => ?_)
    obtain ⟨hleft, hP⟩ := List.mem_filter.mp (hnew hx)
    exact hall hnil x hleft (by simpa using hP)
  · have hpos := List.length_pos_of_ne_nil hnil
    right
    omega

-- A synchronisation takes at least one of the entries of the gone cgroups out of
-- the table, and its new entries are for running ones.
theorem stale_synced (h : WellFormed hash s.monitors) {running_targets : Table String target}
    (hfound : Discovered hash running_targets) (hpaths : running_targets.keys.Perm paths)
    (hmonitors : s'.monitors = sync_cgroups_running_monitored hash order hwinfo
      container_events_groups callchain_frequency s.monitors (some running_targets)) :
    (stale paths s' = [] ∨ (stale paths s').length + 1 ≤ (stale paths s).length) ∧
      (∀ actor ∈ s.monitors.destroyed, actor ∈ s'.monitors.destroyed) ∧
      ∀ entry ∈ s.actors.entries, entry.1 ∉ paths →
        entry ∈ s'.actors.entries ∨ entry.2 ∈ s'.monitors.destroyed := by
  obtain ⟨stopped, hbuckets, hcreated, hdestroyed, heq⟩ :=
    sync_cgroups_running_monitored_eq order hwinfo container_events_groups callchain_frequency
      h.valid hfound.valid
  have hstarted := foldl_start_new order hwinfo container_events_groups callchain_frequency
    running_targets.entries (h.stop hbuckets hcreated hdestroyed).valid
  rw [← heq, ← hmonitors] at hstarted
  have hperm := Table.flatMap_find?_append_eraseP_perm
    (fun entry => vanished hash running_targets entry.1)
    s.monitors.container_monitoring_actors.buckets
  rw [← hbuckets] at hperm
  have hvanished : ∀ path, vanished hash running_targets path = true ↔ path ∉ paths := by
    intro path
    rw [← hpaths.mem_iff, ← Table.lookup_eq_none_iff hfound.valid]
    exact Option.isNone_iff_eq_none
  refine ⟨?_, fun actor hactor => ?_, fun entry hentry hpath => ?_⟩
  · have hnodup : (stale paths s').Nodup :=
      (List.Nodup.of_map _ hstarted.valid.distinct).filter _
    refine eq_nil_or_length_lt hperm ?_ hnodup ?_ fun hnil entry hentry => ?_
    · intro entry hentry
      obtain ⟨chain, -, hfind⟩ := List.mem_flatMap.mp hentry
      have hdead := List.find?_some (Option.mem_toList.mp hfind)
      exact (hvanished entry.1).mp hdead
    · intro entry hentry
      obtain ⟨hentry, hpath⟩ := mem_stale.mp hentry
      refine List.mem_filter.mpr ⟨hstarted.old hentry fun hmem => ?_, by simpa using hpath⟩
      exact hpath (hpaths.mem_iff.mp hmem)
    · have hrunning := eq_nil_of_lost_nil hnil entry
        (hperm.subset (List.mem_append_right _ hentry))
      intro hpath
      rw [(hvanished entry.1).mpr hpath] at hrunning
      exact absurd hrunning (by decide)
  · rw [hstarted.destroyed_eq, hdestroyed]
    exact List.mem_append_left _ hactor
  · rcases List.mem_append.mp (hperm.symm.subset hentry) with hlost | hleft
    · rw [hstarted.destroyed_eq, hdestroyed]
      exact Or.inr (List.mem_append_right _ (List.mem_map_of_mem hlost))
    · exact Or.inl (hstarted.keeps entry hleft)

theorem CatchingUp.synced (h : CatchingUp paths before syncs s)
    (hformed : WellFormed hash s.monitors) {running_targets : Table String target}
    (hfound : Discovered hash running_targets) (hpaths : running_targets.keys.Perm paths)
    (hmonitors : s'.monitors = sync_cgroups_running_monitored hash order hwinfo
      container_events_groups callchain_frequency s.monitors (some running_targets)) :
    CatchingUp paths before (syncs + 1) s' := by
  obtain ⟨hfewer, hdestroyed, hstopped⟩ := stale_synced hformed hfound hpaths hmonitors
  obtain ⟨stopped, -, -, -, -, hkept, -, hstarted⟩ := hformed.sync order hwinfo
    container_events_groups callchain_frequency hfound
  rw [← hmonitors] at hstarted
  refine ⟨?_, fun _ => ⟨hpaths.nodup_iff.mp hfound.valid.distinct, fun path hpath => ?_⟩,
    ?_, ?_⟩
  · rcases hfewer with hnil | hless
    · exact Or.inl hnil
    · rcases h.fewer with hnil | hfewer
      · rw [hnil, List.length_nil] at hless
        omega
      · right
        omega
  · exact (hstarted.mem_keys path).mpr (Or.inr (hpaths.mem_iff.mpr hpath))
  · intro entry hentry hpath
    exact hstarted.keeps entry
      (hkept entry (h.kept entry hentry hpath) (hpaths.mem_iff.mpr hpath))
  · intro entry hentry hpath
    rcases h.stopped entry hentry hpath with hstays | hgone
    · exact hstopped entry hstays hpath
    · exact Or.inr (hdestroyed entry.2 hgone)

theorem CatchingUp.step {action : sensor_action} (h : CatchingUp paths before syncs s)
    (hconsistent : Consistent hash s)
    (hstep : SensorStep hash order hwinfo container_events_groups callchain_frequency s action s')
    (hfinds : action.Finds paths) :
    CatchingUp paths before (syncs + if action.syncs then 1 else 0) s' := by
  cases hstep with
  | sync hmain discovery hfound =>
      cases discovery with
      | none => exact h.same (List.Perm.refl _) rfl
      | some running_targets =>
          exact h.synced hconsistent.monitors (hfound running_targets rfl) hfinds rfl
  | grow actors hvalid hperm => exact h.same hperm rfl
  | check | quit | tick | startup | interrupt | leave => exact h.same (List.Perm.refl _) rfl

theorem CatchingUp.run {labels : List sensor_action} (hconsistent : Consistent hash before)
    (hrun : Run (SensorStep hash order hwinfo container_events_groups callchain_frequency)
      before labels s) (hfinds : ∀ action ∈ labels, action.Finds paths) :
    CatchingUp paths before (labels.filter sensor_action.syncs).length s := by
  have hstart : (∀ action ∈ ([] : List sensor_action), action.Finds paths) →
      CatchingUp paths before ([].filter sensor_action.syncs).length before :=
    fun _ => CatchingUp.refl before
  refine (hrun.history (fun labels s => Consistent hash s ∧
    ((∀ action ∈ labels, action.Finds paths) →
      CatchingUp paths before (labels.filter sensor_action.syncs).length s))
    ⟨hconsistent, hstart⟩ ?_).2 hfinds
  rintro labels s action s' ⟨hbefore, ih⟩ hstep
  refine ⟨sensor_step_consistent order hwinfo container_events_groups callchain_frequency hbefore
    hstep, fun hfinds => ?_⟩
  have hnext := (ih fun other hother => hfinds other (List.mem_append_left _ hother)).step hbefore
    hstep (hfinds action (by simp))
  rw [List.filter_append, List.length_append]
  cases hsyncs : action.syncs with
  | true => simpa [hsyncs] using hnext
  | false => simpa [hsyncs] using hnext

-- Nothing is stale any more.
theorem CatchingUp.caught_up (h : CatchingUp paths before syncs s)
    (hconsistent : Consistent hash s) (hone : 1 ≤ syncs)
    (henough : (stale paths before).length ≤ syncs) : CaughtUp paths before s := by
  have hnil : stale paths s = [] := by
    rcases h.fewer with hnil | hfewer
    · exact hnil
    · exact List.length_eq_zero_iff.mp (by omega)
  obtain ⟨hnodup, hfound⟩ := h.found hone
  have hrunning : ∀ entry ∈ s.actors.entries, entry.1 ∈ paths := by
    intro entry hentry
    by_contra hpath
    have hstale : entry ∈ stale paths s := mem_stale.mpr ⟨hentry, hpath⟩
    rw [hnil] at hstale
    exact List.not_mem_nil hstale
  refine ⟨?_, h.kept, fun entry hentry hpath => ?_⟩
  · refine (List.perm_ext_iff_of_nodup hconsistent.monitors.valid.distinct hnodup).mpr
      fun path => ?_
    refine ⟨fun hkey => ?_, hfound path⟩
    obtain ⟨entry, hentry, rfl⟩ := List.mem_map.mp hkey
    exact hrunning entry hentry
  · exact (h.stopped entry hentry hpath).resolve_left fun hstays =>
      hpath (hrunning entry hstays)

-- One synchronisation can leave entries of vanished cgroups behind, but with the
-- same cgroups found again and again each of them takes at least one away: after
-- as many as there are, and one at least, the table has caught up. This is so
-- whatever actors, failed discoveries and a growing table do in between.
theorem synchronisation_catches_up {limit : Nat} (hlimit : 0 < limit)
    {earlier labels : List sensor_action}
    (hbefore : Run (SensorStep hash order hwinfo container_events_groups callchain_frequency)
      (sensor.start limit) earlier before)
    (hrun : Run (SensorStep hash order hwinfo container_events_groups callchain_frequency)
      before labels s)
    (hfinds : ∀ action ∈ labels, action.Finds paths)
    (hone : 1 ≤ (labels.filter sensor_action.syncs).length)
    (henough : (stale paths before).length ≤ (labels.filter sensor_action.syncs).length) :
    CaughtUp paths before s := by
  have hconsistent := run_consistent order hwinfo container_events_groups callchain_frequency
    hlimit hbefore
  have hafter := run_consistent order hwinfo container_events_groups callchain_frequency hlimit
    (hbefore.append hrun)
  exact (CatchingUp.run hconsistent hrun hfinds).caught_up hafter hone henough

-- Once around the loop.
theorem run_round (hmain : s.main = .ticking) (hgo : s.interrupted = false)
    {running_targets : Table String target} (hfound : Discovered hash running_targets) :
    Run (SensorStep hash order hwinfo container_events_groups callchain_frequency) s
      ([.tick] ++ [.check] ++ [.sync (some running_targets)])
      (s.synced (sync_cgroups_running_monitored hash order hwinfo container_events_groups
        callchain_frequency s.monitors (some running_targets))) := by
  have htick : Run (SensorStep hash order hwinfo container_events_groups callchain_frequency) s
      [.tick] { s with main := .checking } := Run.single (.tick hmain)
  have hcheck := htick.snoc (.check rfl hgo)
  refine hcheck.snoc (.sync rfl (some running_targets) ?_)
  rintro _ ⟨⟩
  exact hfound

end

def no_containers : Table String target := ⟨[[]], 0, []⟩

theorem no_containers_discovered : Discovered (fun _ => 0) no_containers :=
  ⟨⟨by decide, by simp [no_containers], by decide⟩, by simp [no_containers, Table.entries]⟩

-- Both vanish at once, from one bucket: the first synchronisation leaves one of
-- them, the second one none.
theorem synchronisation_catches_up_two :
    ∃ before after, (stale [] before).length = 2 ∧ CaughtUp [] before after := by
  have hstart : Run (SensorStep (fun _ => 0) in_order ⟨[]⟩ [] 0) (sensor.start 1)
      ([.check] ++ [.sync none]) _ :=
    (Run.single (.check rfl rfl)).snoc (.sync rfl none (by simp))
  obtain ⟨before, hbefore, htwo, hmain, hgo⟩ : ∃ before, (∃ labels,
      Run (SensorStep (fun _ => 0) in_order ⟨[]⟩ [] 0) (sensor.start 1) labels before) ∧
      (stale [] before).length = 2 ∧ before.main = .ticking ∧ before.interrupted = false :=
    ⟨_, ⟨_, hstart.append (run_round rfl rfl two_containers_discovered)⟩, by decide, rfl, rfl⟩
  obtain ⟨earlier, hbefore⟩ := hbefore
  have hround : ∀ s : sensor, s.main = .ticking → s.interrupted = false →
      Run (SensorStep (fun _ => 0) in_order ⟨[]⟩ [] 0) s _ _ :=
    fun s hmain hgo => run_round hmain hgo no_containers_discovered
  have hafter := (hround before hmain hgo).append (hround _ rfl hgo)
  refine ⟨before, _, htwo, synchronisation_catches_up (by decide) hbefore hafter ?_ ?_ ?_⟩
  · simp [sensor_action.Finds, no_containers, Table.keys, Table.entries]
  · decide
  · rw [htwo]
    decide

end HwpcSensor.Sensor
