import HwpcSensor.Sensor.Main
import HwpcSensor.Sensor.Monitoring.Actors

namespace HwpcSensor.Sensor.Main

open ChainedTable Interaction Perf Resources
open Resources.Ledger (Holding)

variable {hash : String → Nat}

-- What is held when the pointers are these; libpfm, the texts and the session of
-- the storage module have no pointer.
def Holds (s : pointers) (pmu doc session : Bool) : resource → Prop
  | .zsys => True
  | .perf_fd => False
  | .pmu => pmu = true
  | .topology => s.sys_pmu_topology = true
  | .hwinfo => s.hwinfo = true
  | .config => s.config = true
  | .reader => s.reader = true
  | .doc => doc = true
  | .storage => s.storage.isSome = true
  | .storage_context => s.storage = some true
  | .session => session = true
  | .reporting => s.reporting = true
  | .ticker => s.ticker = true
  | .system_perf_monitor => s.system_perf_monitor = true
  | .container_monitor actor => actor ∈ container_actors s

section Calls

variable {P : resource → Prop} {faults : List (Fault resource)} {l : Ledger resource}
  {what : resource} {α : Type} {Q : α → Ledger resource → Prop}

theorem create_ends {f : Bool → main_program hash α} (h : Holding P faults l) (hnot : ¬P what)
    (hfailed : (f false).Ends (effect hash) Q l)
    (hcreated : ∀ l', Holding (fun other => other = what ∨ P other) faults l' →
      (f true).Ends (effect hash) Q l') :
    (create what >>= f).Ends (effect hash) Q l := by
  intro created
  cases (created : Bool) with
  | false => exact hfailed
  | true => exact hcreated _ (h.acquire hnot)

theorem destroy_ends (h : Holding P faults l) (hheld : P what)
    (hfree : ∀ other, P other → other ≠ what → refers other what = false) :
    (destroy what : main_program hash Unit).Ends (effect hash)
      (fun _ l' => Holding (fun other => other ≠ what ∧ P other) faults l') l :=
  fun _ => h.release hheld hfree

theorem destroy_if_ends {pointer : Bool} (h : Holding P faults l) (hheld : P what ↔ pointer = true)
    (hfree : ∀ other, P other → other ≠ what → refers other what = false) :
    (destroy_if pointer what : main_program hash Unit).Ends (effect hash)
      (fun _ l' => Holding (fun other => other ≠ what ∧ P other) faults l') l := by
  unfold destroy_if
  by_cases hpointer : pointer = true
  · rw [if_pos hpointer]
    exact destroy_ends h (hheld.mpr hpointer) hfree
  · rw [if_neg hpointer]
    refine Prog.Ends.pure (h.congr fun other => ⟨fun hother => ⟨?_, hother⟩, And.right⟩)
    rintro rfl
    exact hpointer (hheld.mp hother)

end Calls

section Actors

variable (m : platform) (hwinfo : hwinfo) {actors : monitors}

-- All new actors are for targets under the base path.
theorem sync_actors (hwell : WellFormed hash actors) {base_path : String}
    (found : Option (discovery hash base_path)) (groups : zhashx events_group) (frequency : Nat)
    {synced : monitors}
    (hsynced : Sensor.sync_cgroups_running_monitored hash m.order hwinfo groups frequency actors
      (found.map Subtype.val) = synced) :
    WellFormed hash synced ∧ ∃ gone kept started, synced.destroyed = actors.destroyed ++ gone ∧
      (gone ++ kept).Perm (actors_of actors) ∧ synced.created = actors.created ++ started ∧
      (actors_of synced).Perm (kept ++ List.range' actors.created.length started.length) ∧
      ∀ new ∈ started, ∃ type path, new = perf_config_create m.order hwinfo groups
        ⟨type, some base_path, some path⟩ frequency := by
  have hdiscovered : ∀ running_targets, found.map Subtype.val = some running_targets →
      Discovered hash running_targets ∧
        ∀ entry ∈ running_targets.entries, entry.2.cgroup_basedir = some base_path := by
    intro running_targets hsome
    obtain ⟨targets, -, rfl⟩ := Option.map_eq_some_iff.mp hsome
    exact targets.2
  obtain ⟨hwell', gone, kept, started, hdestroyed, hperm, hcreated, hactors, hfrom⟩ :=
    hwell.sync_actors m.order hwinfo groups frequency
      (fun running_targets hsome => (hdiscovered running_targets hsome).1) hsynced
  refine ⟨hwell', gone, kept, started, hdestroyed, hperm, hcreated, hactors, fun new hnew => ?_⟩
  obtain ⟨running_targets, entry, hsome, hentry, rfl⟩ := hfrom new hnew
  obtain ⟨hvalid, hbase⟩ := hdiscovered running_targets hsome
  refine ⟨entry.2.type, entry.1, ?_⟩
  rw [← hvalid.path_eq entry hentry, ← hbase entry hentry]

end Actors

section Loop

variable {P : resource → Prop} {faults : List (Fault resource)} {l : Ledger resource}
  {m : platform} {hwinfo : hwinfo} {config : config} {actors : monitors}

-- These container actors, and what does not depend on them.
def WithActors (P : resource → Prop) (numbers : List Nat) : resource → Prop
  | .container_monitor actor => actor ∈ numbers
  | other => P other

theorem with_actors_congr {numbers numbers' : List Nat}
    (hiff : ∀ actor, actor ∈ numbers ↔ actor ∈ numbers') (other : resource) :
    WithActors P numbers other ↔ WithActors P numbers' other := by
  cases other with
  | container_monitor actor => exact hiff actor
  | _ => exact Iff.rfl

theorem refers_container_monitor (other : resource) (actor : Nat) :
    refers other (.container_monitor actor) = false := by
  cases other <;> rfl

theorem stop_actors_ends {gone kept : List Nat} (hnodup : (gone ++ kept).Nodup)
    (h : Holding (WithActors P (gone ++ kept)) faults l) :
    (for_all (fun actor => destroy (.container_monitor actor)) gone : main_program hash Unit).Ends
      (effect hash) (fun _ l' => Holding (WithActors P kept) faults l') l := by
  induction gone generalizing l with
  | nil => exact Prog.Ends.pure h
  | cons actor rest ih =>
      obtain ⟨hfresh, hrest⟩ := List.nodup_cons.mp hnodup
      refine (destroy_ends h List.mem_cons_self
        fun other _ _ => refers_container_monitor other actor).bind fun _ l' h' => ?_
      refine ih hrest (h'.congr fun other => ?_)
      cases other with
      | container_monitor other =>
          simp only [WithActors, List.cons_append, List.mem_cons, ne_eq,
            resource.container_monitor.injEq]
          constructor
          · rintro ⟨hne, heq | hmem⟩
            · exact absurd heq hne
            · exact hmem
          · intro hmem
            exact ⟨fun heq => hfresh (heq ▸ hmem), Or.inr hmem⟩
      | _ => simp [WithActors]

theorem start_actors_ends {started : List perf_config} {numbers : List Nat} {next : Nat}
    (hhwinfo : P .hwinfo) (hconfig : P .config) (hnew : ∀ actor ∈ numbers, actor < next)
    (h : Holding (WithActors P numbers) faults l) :
    (for_all (fun started => perf_monitoring_actor (.container_monitor started.2) started.1)
      (started.zipIdx next) : main_program hash Unit).Ends (effect hash)
        (fun _ l' => Holding (WithActors P (numbers ++ List.range' next started.length)) faults l')
        l := by
  induction started generalizing l numbers next with
  | nil => exact Prog.Ends.pure (h.congr (with_actors_congr (by simp)))
  | cons first rest ih =>
      rw [List.zipIdx_cons]
      intro _
      have hfresh : ¬WithActors P numbers (.container_monitor next) :=
        fun hmem => Nat.lt_irrefl _ (hnew next hmem)
      have hhwinfo' : WithActors P numbers .hwinfo := hhwinfo
      have hconfig' : WithActors P numbers .config := hconfig
      have hstarted := ((h.use hhwinfo').use hconfig').acquire hfresh
      have hwith : Holding (WithActors P (numbers ++ [next])) faults
          (((l.use .hwinfo).use .config).acquire (.container_monitor next)) := by
        refine hstarted.congr fun other => ?_
        cases other with
        | container_monitor other => simp [WithActors, or_comm]
        | _ => simp [WithActors]
      refine (ih (fun actor hactor => ?_) hwith).mono fun _ l' h' => h'.congr ?_
      · rcases List.mem_append.mp hactor with hactor | hactor
        · have hlt := hnew actor hactor
          omega
        · have heq := List.mem_singleton.mp hactor
          omega
      · rw [List.length_cons, List.range'_succ, List.append_assoc]
        exact fun other => Iff.rfl

theorem synced_ends {synced : monitors} {gone kept : List Nat} {started : List perf_config}
    (hhwinfo : P .hwinfo) (hconfig : P .config)
    (hdestroyed : synced.destroyed = actors.destroyed ++ gone)
    (hcreated : synced.created = actors.created ++ started) (hnodup : (gone ++ kept).Nodup)
    (hnew : ∀ actor ∈ kept, actor < actors.created.length)
    (h : Holding (WithActors P (gone ++ kept)) faults l) :
    ((do
      for_all (fun actor => destroy (.container_monitor actor))
        (synced.destroyed.drop actors.destroyed.length)
      for_all (fun started => perf_monitoring_actor (.container_monitor started.2) started.1)
        ((synced.created.drop actors.created.length).zipIdx actors.created.length)
      pure synced : main_program hash monitors)).Ends (effect hash)
      (fun actors' l' => actors' = synced ∧ Holding (WithActors P
        (kept ++ List.range' actors.created.length started.length)) faults l') l := by
  rw [hdestroyed, List.drop_left, hcreated, List.drop_left]
  refine (stop_actors_ends hnodup h).bind fun _ l₁ h₁ => ?_
  refine (start_actors_ends hhwinfo hconfig hnew h₁).bind fun _ l₂ h₂ => ?_
  exact Prog.Ends.pure ⟨rfl, h₂⟩

theorem sync_ends (hwell : WellFormed hash actors) (hhwinfo : P .hwinfo) (hconfig : P .config)
    (h : Holding (WithActors P (actors_of actors)) faults l) :
    (sync_cgroups_running_monitored m hwinfo config actors).Ends (effect hash)
      (fun synced l' => WellFormed hash synced ∧
        Holding (WithActors P (actors_of synced)) faults l') l := by
  refine Prog.Ends.perform fun (found : Option (discovery hash _)) => ?_
  obtain ⟨hwell', gone, kept, started, hdestroyed, hgone, hcreated, hactors, -⟩ :=
    sync_actors m hwinfo hwell found config.events.containers (callchain_frequency config) rfl
  have hconfig' : WithActors P (actors_of actors) .config := hconfig
  have huse := (h.use hconfig').congr
    (with_actors_congr fun actor => (hgone.mem_iff (a := actor)).symm)
  refine (synced_ends hhwinfo hconfig hdestroyed hcreated (hgone.nodup_iff.mpr hwell.distinct)
    (fun actor hactor => ?_) huse).mono ?_
  · obtain ⟨entry, hentry, rfl⟩ :=
      List.mem_map.mp (hgone.subset (List.mem_append_right gone hactor))
    exact hwell.actor_lt hentry
  · rintro _ l' ⟨rfl, h'⟩
    exact ⟨hwell', h'.congr (with_actors_congr fun actor => (hactors.mem_iff (a := actor)).symm)⟩

theorem monitor_ends (rounds : Nat) (hwell : WellFormed hash actors) (hhwinfo : P .hwinfo)
    (hconfig : P .config) (hticker : P .ticker)
    (h : Holding (WithActors P (actors_of actors)) faults l) :
    (monitor m hwinfo config rounds actors).Ends (effect hash)
      (fun actors' l' => WellFormed hash actors' ∧
        Holding (WithActors P (actors_of actors')) faults l') l := by
  induction rounds generalizing actors l with
  | zero => exact Prog.Ends.pure ⟨hwell, h⟩
  | succ rounds ih =>
      refine Prog.Ends.bind (Q := fun actors' l' => WellFormed hash actors' ∧
        Holding (WithActors P (actors_of actors')) faults l') ?_ fun synced l₁ h₁ => ?_
      · by_cases hgroups : config.events.containers.length ≠ 0
        · rw [if_pos hgroups]
          exact sync_ends hwell hhwinfo hconfig h
        · rw [if_neg hgroups]
          exact Prog.Ends.pure ⟨hwell, h⟩
      · have hticker' : WithActors P (actors_of synced) .ticker := hticker
        intro _ _ _
        exact ih h₁.1 (h₁.2.use hticker')

end Loop

section Cleanup

variable {P : resource → Prop} {s : pointers} {pmu doc : Bool} {faults : List (Fault resource)}
  {l : Ledger resource}

-- The texts go first, and too early for the actors.
theorem dismiss_doc_ends {reporting : Bool} (h : Holding P faults l) (hdoc : P .doc ↔ doc = true)
    (hreporting : P .reporting ↔ reporting = true)
    (hquiet : ¬P .reporting → ∀ other, P other → refers other .doc = false) :
    (dismiss .doc : main_program hash Unit).Ends (effect hash)
      (fun _ l' => Holding (fun other => other ≠ .doc ∧ P other)
        (faults ++ if doc = true ∧ reporting = true then [.outlived .doc] else []) l') l := by
  intro _
  show Holding _ _ (l.dismiss refers .doc)
  by_cases hheld : P .doc
  · rw [h.dismiss_of hheld]
    by_cases hactor : P .reporting
    · rw [if_pos ⟨hdoc.mp hheld, hreporting.mp hactor⟩]
      exact h.release_outlived hheld hactor (by simp) rfl
    · rw [if_neg fun hboth => hactor (hreporting.mpr hboth.2), List.append_nil]
      exact h.release hheld fun other hother _ => hquiet hactor other hother
  · rw [h.dismiss_of_not hheld, if_neg fun hboth => hheld (hdoc.mpr hboth.1), List.append_nil]
    refine h.congr fun other => ⟨fun hother => ⟨?_, hother⟩, And.right⟩
    rintro rfl
    exact hheld hother

theorem stop_containers_ends {numbers : List Nat} (h : Holding P faults l) (hnodup : numbers.Nodup)
    (hnumbers : ∀ actor, P (.container_monitor actor) ↔ actor ∈ numbers) :
    (for_all (fun actor => destroy (.container_monitor actor)) numbers :
      main_program hash Unit).Ends (effect hash)
        (fun _ l' => Holding (WithActors P []) faults l') l := by
  have hkept : Holding (WithActors P (numbers ++ [])) faults l := by
    refine h.congr fun other => ?_
    cases other with
    | container_monitor actor => simpa [WithActors] using hnumbers actor
    | _ => exact Iff.rfl
  exact stop_actors_ends (by simpa using hnodup) hkept

theorem storage_destroy_ends {storage : Option Bool} (h : Holding P faults l)
    (hstorage : P .storage ↔ storage.isSome = true)
    (hcontext : P .storage_context ↔ storage = some true)
    (hfree : ∀ other, P other → refers other .storage = false ∧
      refers other .storage_context = false) :
    (storage_module_destroy storage : main_program hash Unit).Ends (effect hash)
      (fun _ l' => Holding (fun other => other ≠ .storage ∧ other ≠ .storage_context ∧ P other)
        faults l') l := by
  cases storage with
  | none =>
      refine Prog.Ends.pure (h.congr fun other => ⟨fun hother => ⟨?_, ?_, hother⟩, fun h => h.2.2⟩)
      · rintro rfl
        exact absurd (hstorage.mp hother) (by simp)
      · rintro rfl
        exact absurd (hcontext.mp hother) (by simp)
  | some context =>
      refine (destroy_if_ends h (hcontext.trans (by simp)) fun other hother _ =>
        (hfree other hother).2).bind fun _ l' h' => ?_
      exact destroy_ends h' ⟨by simp, hstorage.mpr rfl⟩ fun other hother _ =>
        (hfree other hother.2).1

theorem dismiss_pmu_ends (h : Holding P faults l) :
    (dismiss .pmu : main_program hash Unit).Ends (effect hash)
      (fun _ l' => Holding (fun other => other ≠ .pmu ∧ P other) faults l') l := by
  intro _
  show Holding _ _ (l.dismiss refers .pmu)
  by_cases hheld : P .pmu
  · rw [h.dismiss_of hheld]
    exact h.release hheld fun other _ _ => by cases other <;> rfl
  · rw [h.dismiss_of_not hheld]
    refine h.congr fun other => ⟨fun hother => ⟨?_, hother⟩, And.right⟩
    rintro rfl
    exact hheld hother

-- The reporting actor runs when any actor does.
structure Quiet (s : pointers) : Prop where
  actors : s.reporting = false → s.system_perf_monitor = false ∧ container_actors s = []
  nodup : (container_actors s).Nodup

-- Everything is given back; only the texts can go too early.
theorem cleanup_ends (h : Holding (Holds s pmu doc false) faults l) (hquiet : Quiet s) :
    (cleanup s : main_program hash Unit).Ends (effect hash) (fun _ l' => l'.held = ∅ ∧ l'.faults =
      faults ++ if doc = true ∧ s.reporting = true then [.outlived .doc] else []) l := by
  refine (destroy_if_ends h Iff.rfl fun other _ _ => ?_).bind fun _ l₁ h₁ => ?_
  · cases other <;> rfl
  have hdoc : resource.doc ≠ .reader ∧ Holds s pmu doc false .doc ↔ doc = true := by simp [Holds]
  have hreporting : resource.reporting ≠ .reader ∧ Holds s pmu doc false .reporting ↔
    s.reporting = true := by simp [Holds]
  refine (dismiss_doc_ends h₁ hdoc hreporting fun hnone other hother => ?_).bind fun _ l₂ h₂ => ?_
  · have hreporting : s.reporting = false := by simpa [Holds] using hnone
    obtain ⟨hsystem, hactors⟩ := hquiet.actors hreporting
    cases other <;> simp_all [Holds, refers]
  refine (stop_containers_ends h₂ hquiet.nodup (by simp [Holds])).bind fun _ l₃ h₃ => ?_
  refine (destroy_if_ends h₃ (by simp [Holds, WithActors]) fun other _ _ => ?_).bind
    fun _ l₄ h₄ => ?_
  · cases other <;> rfl
  refine (destroy_if_ends h₄ (by simp [Holds, WithActors]) fun other _ _ => ?_).bind
    fun _ l₅ h₅ => ?_
  · cases other <;> rfl
  refine (storage_destroy_ends h₅ (by simp [Holds, WithActors]) (by simp [Holds, WithActors])
    fun other hother => ?_).bind fun _ l₆ h₆ => ?_
  · cases other <;> first | exact ⟨rfl, rfl⟩ | simp [Holds, WithActors] at hother
  refine (destroy_if_ends h₆ (by simp [Holds, WithActors]) fun other _ _ => ?_).bind
    fun _ l₇ h₇ => ?_
  · cases other <;> rfl
  refine (destroy_if_ends h₇ (by simp [Holds, WithActors]) fun other _ _ => ?_).bind
    fun _ l₈ h₈ => ?_
  · cases other <;> rfl
  refine (destroy_if_ends h₈ (by simp [Holds, WithActors]) fun other _ _ => ?_).bind
    fun _ l₉ h₉ => ?_
  · cases other <;> rfl
  refine (dismiss_pmu_ends h₉).bind fun _ l₁₀ h₁₀ => ?_
  refine (destroy_if_ends h₁₀ (by simp [Holds, WithActors]) fun other _ _ => ?_).bind
    fun _ l₁₁ h₁₁ => ?_
  · cases other <;> rfl
  refine (destroy_ends h₁₁ (by simp [Holds, WithActors]) fun other hother _ => ?_).mono
    fun _ l₁₂ h₁₂ => ⟨?_, h₁₂.faults⟩
  · cases other <;> first | rfl | simp [WithActors] at hother
  · refine Finset.eq_empty_of_forall_notMem fun other hmem => ?_
    have hother := (h₁₂.held other).mp hmem
    cases other <;> simp [Holds, WithActors] at hother

end Cleanup

section Setup

variable {s : pointers} {pmu doc : Bool} {l : Ledger resource} {m : platform} {hwinfo : hwinfo}
  {config : config} {actors : monitors} {argv : List String} {rounds : Nat}

def reads_file (argv : List String) : Bool :=
  match parse_config_file_path argv with
  | some (some _) => true
  | _ => false

-- How the label is reached. Only the loop ends with zero, and it leaves the storage
-- module deinitialized under the actors.
def Left (argv : List String) (r : Int × pointers) (l : Ledger resource) : Prop :=
  ∃ pmu doc, Holding (Holds r.2 pmu doc false) (if r.1 = 0 then [.outlived .session] else []) l ∧
    Quiet r.2 ∧ (r.1 = 0 → r.2.reporting = true ∧ (doc = reads_file argv)) ∧
    (r.1 ≠ 0 → r.2.reporting = false)

-- Nothing of the monitoring has been started.
structure Fresh (s : pointers) : Prop where
  reporting : s.reporting = false
  ticker : s.ticker = false
  system : s.system_perf_monitor = false
  containers : s.container_monitoring_actors = none

theorem Fresh.no_actors (h : Fresh s) : container_actors s = [] := by
  unfold container_actors
  rw [h.containers]

theorem left_early (hfresh : Fresh s) (h : Holding (Holds s pmu doc false) [] l) :
    Left argv (1, s) l := by
  refine ⟨pmu, doc, h, ⟨fun _ => ⟨hfresh.system, hfresh.no_actors⟩, ?_⟩, by simp,
    fun _ => hfresh.reporting⟩
  rw [hfresh.no_actors]
  exact List.nodup_nil

theorem start_system_monitor_ends {P : resource → Prop} {faults : List (Fault resource)}
    (hhwinfo : P .hwinfo) (hconfig : P .config) (hnot : ¬P .system_perf_monitor)
    (h : Holding P faults l) :
    (start_system_monitor m hwinfo config : main_program hash Unit).Ends (effect hash)
      (fun _ l' => Holding (fun other => P other ∨
        (other = .system_perf_monitor ∧ config.events.system.length ≠ 0)) faults l') l := by
  unfold start_system_monitor
  by_cases hgroups : config.events.system.length ≠ 0
  · rw [if_pos hgroups]
    intro _
    exact (((h.use hhwinfo).use hconfig).acquire hnot).congr fun other => by
      rw [and_iff_left hgroups, or_comm]
  · rw [if_neg hgroups]
    exact Prog.Ends.pure (h.congr fun other => by simp [hgroups])

-- The pointers once everything has been started.
def running (s : pointers) (config : HwpcSensor.config) : pointers :=
  { s with
    reporting := true
    ticker := true
    system_perf_monitor := config.events.system.length ≠ 0 }

theorem run_ends (hfresh : Fresh s) (hhwinfo : s.hwinfo = true) (hconfig : s.config = true)
    (hstorage : s.storage.isSome = true) (hwell : WellFormed hash actors)
    (hempty : actors_of actors = []) (hdoc : doc = reads_file argv)
    (h : Holding (Holds s pmu doc true) [] l) :
    (run m hwinfo config actors rounds s).Ends (effect hash) (Left argv) l := by
  have hreporting : ¬Holds s pmu doc true .reporting := by simp [Holds, hfresh.reporting]
  have hstorage' : Holds s pmu doc true .storage := hstorage
  have hticker : ¬(resource.ticker = .reporting ∨ Holds s pmu doc true .ticker) := by
    simp [Holds, hfresh.ticker]
  refine Prog.Ends.perform fun _ => Prog.Ends.perform fun _ => ?_
  have h₁ := ((h.use hstorage').acquire hreporting).acquire hticker
  refine (start_system_monitor_ends (by simp [Holds, hhwinfo]) (by simp [Holds, hconfig])
    (by simp [Holds, hfresh.system]) h₁).bind fun _ l₂ h₂ => ?_
  have h₃ : Holding (WithActors (Holds (running s config) pmu doc true) (actors_of actors))
      [] l₂ := by
    refine h₂.congr fun other => ?_
    cases other <;>
      simp [WithActors, Holds, running, hempty, hfresh.no_actors, hfresh.reporting, hfresh.ticker,
        hfresh.system]
  have hhwinfo' : Holds (running s config) pmu doc true .hwinfo := hhwinfo
  have hconfig' : Holds (running s config) pmu doc true .config := hconfig
  have hticker' : Holds (running s config) pmu doc true .ticker := rfl
  refine (monitor_ends rounds hwell hhwinfo' hconfig' hticker' h₃).bind fun actors' l₄ h₄ => ?_
  obtain ⟨hwell', h₄⟩ := h₄
  have hsession : WithActors (Holds (running s config) pmu doc true) (actors_of actors')
    .session := rfl
  have hactor : WithActors (Holds (running s config) pmu doc true) (actors_of actors')
    .reporting := rfl
  refine Prog.Ends.perform fun _ => Prog.Ends.pure ⟨pmu, doc, ?_, ⟨by simp, hwell'.distinct⟩,
    fun _ => ⟨rfl, hdoc⟩, by simp⟩
  refine (h₄.release_outlived hsession hactor (by simp) rfl).congr fun other => ?_
  cases other <;> simp [WithActors, Holds, running, container_actors, actors_of]

-- A module comes with its context or not at all.
theorem setup_storage_module_ends (hfresh : Fresh s) (hnone : s.storage = none)
    (h : Holding (Holds s pmu doc false) [] l) :
    (setup_storage_module m config : main_program hash (Option Bool)).Ends (effect hash)
      (fun storage l' => Holding (Holds { s with storage := storage } pmu doc false) [] l') l := by
  have hsame : Holding (Holds { s with storage := none } pmu doc false) [] l := by
    refine h.congr fun other => ?_
    cases other <;> simp [Holds, hnone, container_actors]
  have hnull : (storage_null_create : main_program hash (Option Bool)).Ends (effect hash)
      (fun storage l' => Holding (Holds { s with storage := storage } pmu doc false) [] l') l := by
    refine create_ends h (by simp [Holds, hnone]) (Prog.Ends.pure hsame) fun l₁ h₁ =>
      Prog.Ends.pure (h₁.congr fun other => ?_)
    cases other <;> simp [Holds, hnone, container_actors]
  have hcreate : (storage_module_create : main_program hash (Option Bool)).Ends (effect hash)
      (fun storage l' => Holding (Holds { s with storage := storage } pmu doc false) [] l') l := by
    refine create_ends h (by simp [Holds, hnone]) (Prog.Ends.pure hsame) fun l₁ h₁ => ?_
    refine create_ends h₁ (by simp [Holds, hnone]) ?_ fun l₂ h₂ => ?_
    · refine (destroy_ends h₁ (Or.inl rfl) fun other hother _ => ?_).bind fun _ l₂ h₂ =>
        Prog.Ends.pure (h₂.congr fun other => ?_)
      · cases other <;> first | rfl | simp [Holds, hfresh.reporting] at hother
      · cases other <;> simp [Holds, hnone, container_actors]
    · refine Prog.Ends.pure (h₂.congr fun other => ?_)
      cases other <;> simp [Holds, hnone, container_actors]
  unfold setup_storage_module
  cases config.storage.type with
  | STORAGE_UNKNOWN => exact Prog.Ends.pure hsame
  | STORAGE_NULL => exact hnull
  | STORAGE_CSV | STORAGE_SOCKET => exact hcreate
  | STORAGE_MONGODB =>
      dsimp only
      split_ifs
      · exact hcreate
      · exact Prog.Ends.pure hsame

-- What the stages before the storage module leave.
structure Configured (s : pointers) : Prop extends Fresh s where
  hwinfo : s.hwinfo = true
  config : s.config = true
  storage : s.storage = none

theorem setup_storage_ends (hready : Configured s) (hwell : WellFormed hash actors)
    (hempty : actors_of actors = []) (hdoc : doc = reads_file argv)
    (h : Holding (Holds s pmu doc false) [] l) :
    (setup_storage m hwinfo config actors rounds s).Ends (effect hash) (Left argv) l := by
  refine (setup_storage_module_ends hready.toFresh hready.storage h).bind fun storage l₁ h₁ => ?_
  have hfresh : Fresh { s with storage := storage } :=
    ⟨hready.reporting, hready.ticker, hready.system, hready.containers⟩
  by_cases hnone : storage = none
  · rw [if_pos hnone]
    have hsame : Holding (Holds s pmu doc false) [] l₁ := by
      refine h₁.congr fun other => ?_
      cases other <;> simp [Holds, hnone, hready.storage, container_actors]
    exact Prog.Ends.pure (left_early hready.toFresh hsame)
  · rw [if_neg hnone]
    have hsome : storage.isSome = true := Option.isSome_iff_ne_none.mpr hnone
    have hstorage : Holds { s with storage := storage } pmu doc false .storage := hsome
    refine Prog.Ends.perform fun (err : Int) => ?_
    by_cases herr : err ≠ 0
    · rw [if_pos herr]
      have hfailed : Holding (Holds { s with storage := storage } pmu doc false) []
          (acquire_if (succeeded err) .session (l₁.use .storage)) := by
        rw [show succeeded err = false from decide_eq_false herr]
        exact h₁.use hstorage
      exact Prog.Ends.pure (left_early hfresh hfailed)
    · rw [if_neg herr]
      have h₂ : Holding (Holds { s with storage := storage } pmu doc true) []
          (acquire_if (succeeded err) .session (l₁.use .storage)) := by
        rw [show succeeded err = true from decide_eq_true (not_not.mp herr)]
        have hnot : ¬Holds { s with storage := storage } pmu doc false .session :=
          Bool.false_ne_true
        refine ((h₁.use hstorage).acquire hnot).congr fun other => ?_
        cases other <;> simp [Holds, container_actors]
      have hsession : Holds { s with storage := storage } pmu doc true .session := rfl
      refine Prog.Ends.perform fun (err' : Int) => ?_
      by_cases herr' : err' ≠ 0
      · rw [if_pos herr']
        have hended : Holding (Holds { s with storage := storage } pmu doc false) []
            (((acquire_if (succeeded err) .session (l₁.use .storage)).use .session).release refers
              .session) := by
          refine ((h₂.use hsession).release hsession fun other hother _ => ?_).congr fun other => ?_
          · cases other <;> first | rfl | simp [Holds, hready.reporting] at hother
          · cases other <;> simp [Holds, container_actors]
        exact Prog.Ends.perform fun _ => Prog.Ends.pure (left_early hfresh hended)
      · rw [if_neg herr']
        exact run_ends hfresh hready.hwinfo hready.config hsome hwell hempty hdoc (h₂.use hsession)

theorem validate_ends (hready : Configured s) (hwell : WellFormed hash actors)
    (hempty : actors_of actors = []) (hdoc : doc = reads_file argv)
    (h : Holding (Holds s pmu doc false) [] l) (setup : Option HwpcSensor.config) :
    (validate m hwinfo actors rounds s setup).Ends (effect hash) (Left argv) l := by
  cases setup with
  | none => exact Prog.Ends.pure (left_early hready.toFresh h)
  | some config =>
      unfold validate
      dsimp only
      split_ifs
      · exact Prog.Ends.pure (left_early hready.toFresh h)
      · exact setup_storage_ends hready hwell hempty hdoc h

theorem setup_config_ends (hfresh : Fresh s) (hhwinfo : s.hwinfo = true)
    (hconfig : s.config = false) (hreader : s.reader = false) (hstorage : s.storage = none)
    (hwell : WellFormed hash actors) (hempty : actors_of actors = [])
    (h : Holding (Holds s pmu false false) [] l) :
    (setup_config m argv hwinfo actors rounds s).Ends (effect hash) (Left argv) l := by
  refine Prog.Ends.perform fun (memory : Option Int) => ?_
  cases memory with
  | none => exact Prog.Ends.pure (left_early hfresh h)
  | some P_flag =>
      have hready : Configured { s with config := true } :=
        ⟨⟨hfresh.reporting, hfresh.ticker, hfresh.system, hfresh.containers⟩, hhwinfo, rfl,
          hstorage⟩
      have h₁ : Holding (Holds { s with config := true } pmu false false) []
          (l.acquire .config) := by
        refine (h.acquire (by simp [Holds, hconfig])).congr fun other => ?_
        cases other <;> simp [Holds, container_actors]
      cases hpath : parse_config_file_path argv with
      | none => exact Prog.Ends.pure (left_early hready.toFresh h₁)
      | some path =>
          cases path with
          | none =>
              refine validate_ends hready hwell hempty ?_ h₁ _
              simp [reads_file, hpath]
          | some config_file_path =>
              refine Prog.Ends.perform fun (opened : Bool) => ?_
              cases opened with
              | false => exact Prog.Ends.pure (left_early hready.toFresh h₁)
              | true =>
                  have hready' : Configured { s with config := true, reader := true } :=
                    ⟨⟨hfresh.reporting, hfresh.ticker, hfresh.system, hfresh.containers⟩, hhwinfo,
                      rfl, hstorage⟩
                  have h₂ : Holding (Holds { s with config := true, reader := true } pmu false
                      false) [] ((l.acquire .config).acquire .reader) := by
                    refine (h₁.acquire (by simp [Holds, hreader])).congr fun other => ?_
                    cases other <;> simp [Holds, container_actors]
                  have hheld : Holds { s with config := true, reader := true } pmu false false
                    .reader := rfl
                  refine Prog.Ends.perform fun (doc : Option (List (String × bson_value))) => ?_
                  cases doc with
                  | none => exact Prog.Ends.pure (left_early hready'.toFresh (h₂.use hheld))
                  | some doc =>
                      have h₃ : Holding (Holds { s with config := true, reader := true } pmu true
                          false) [] ((((l.acquire .config).acquire .reader).use .reader).acquire
                            .doc) := by
                        have hnot : ¬Holds { s with config := true, reader := true } pmu false
                            false .doc := Bool.false_ne_true
                        refine ((h₂.use hheld).acquire hnot).congr fun other => ?_
                        cases other <;> simp [Holds, container_actors]
                      exact validate_ends hready' hwell hempty (by simp [reads_file, hpath]) h₃ _

theorem setup_hwinfo_ends (hfresh : Fresh s) (hhwinfo : s.hwinfo = false)
    (hconfig : s.config = false) (hreader : s.reader = false) (hstorage : s.storage = none)
    (hwell : WellFormed hash actors) (hempty : actors_of actors = [])
    (h : Holding (Holds s pmu false false) [] l) :
    (setup_hwinfo m argv actors rounds s).Ends (effect hash) (Left argv) l := by
  refine create_ends h (by simp [Holds, hhwinfo]) (Prog.Ends.pure (left_early hfresh h))
    fun l₁ h₁ => ?_
  have hfresh' : Fresh { s with hwinfo := true } :=
    ⟨hfresh.reporting, hfresh.ticker, hfresh.system, hfresh.containers⟩
  have h₂ : Holding (Holds { s with hwinfo := true } pmu false false) [] l₁ := by
    refine h₁.congr fun other => ?_
    cases other <;> simp [Holds, container_actors]
  have hheld : Holds { s with hwinfo := true } pmu false false .hwinfo := rfl
  refine Prog.Ends.perform fun (detected : Option HwpcSensor.hwinfo) => ?_
  cases detected with
  | none => exact Prog.Ends.pure (left_early hfresh' (h₂.use hheld))
  | some hwinfo =>
      exact setup_config_ends hfresh' rfl hconfig hreader hstorage hwell hempty (h₂.use hheld)

-- The event that is opened as a test is closed again.
theorem counting_event_ends (h : Holding (Holds {} false false false) [] l) :
    (perf_try_global_counting_event_open : main_program hash Int).Ends (effect hash)
      (fun _ l' => Holding (Holds {} false false false) [] l') l := by
  refine Prog.Ends.perform fun (found : Int) => ?_
  by_cases hfound : found = -1
  · rw [if_pos hfound]
    exact Prog.Ends.pure h
  · rw [if_neg hfound]
    refine create_ends h id (Prog.Ends.pure h) fun l₁ h₁ => ?_
    refine (destroy_ends h₁ (Or.inl rfl) fun other _ _ => ?_).bind fun _ l₂ h₂ =>
      Prog.Ends.pure (h₂.congr fun other => ?_)
    · cases other <;> rfl
    · cases other <;> simp [Holds, container_actors]

theorem setup_ends (hwell : WellFormed hash actors) (hempty : actors_of actors = [])
    (h : Holding (Holds {} false false false) [] l) :
    (setup m argv actors rounds).Ends (effect hash) (Left argv) l := by
  have hfresh : Fresh {} := ⟨rfl, rfl, rfl, rfl⟩
  refine Prog.Ends.perform fun (err : Int) => ?_
  by_cases herr : err ≠ 0
  · rw [if_pos herr]
    exact Prog.Ends.pure (left_early hfresh h)
  rw [if_neg herr]
  refine (counting_event_ends h).bind fun err' l₁ h₁ => ?_
  by_cases herr' : err' ≠ 0
  · rw [if_pos herr']
    exact Prog.Ends.pure (left_early hfresh h₁)
  rw [if_neg herr']
  refine create_ends h₁ Bool.false_ne_true (Prog.Ends.pure (left_early hfresh h₁)) fun l₂ h₂ => ?_
  have h₂' : Holding (Holds {} true false false) [] l₂ := by
    refine h₂.congr fun other => ?_
    cases other <;> simp [Holds, container_actors]
  refine create_ends h₂' Bool.false_ne_true (Prog.Ends.pure (left_early hfresh h₂')) fun l₃ h₃ => ?_
  have h₃' : Holding (Holds { sys_pmu_topology := true } true false false) [] l₃ := by
    refine h₃.congr fun other => ?_
    cases other <;> simp [Holds, container_actors]
  have hpmu : Holds { sys_pmu_topology := true } true false false .pmu := rfl
  have htopology : Holds { sys_pmu_topology := true } true false false .topology := rfl
  have h₄ := (h₃'.use hpmu).use htopology
  refine Prog.Ends.perform fun (err'' : Int) => ?_
  by_cases herr'' : err'' ≠ 0
  · rw [if_pos herr'']
    exact Prog.Ends.pure (left_early ⟨rfl, rfl, rfl, rfl⟩ h₄)
  rw [if_neg herr'']
  exact setup_hwinfo_ends ⟨rfl, rfl, rfl, rfl⟩ rfl rfl rfl rfl hwell hempty h₄

end Setup

-- Whatever fails and however long the loop runs, everything that was acquired is
-- released once, and nothing is used before or after. What goes too early does so
-- at the end of the loop only: the session of the storage module, and the texts
-- when they come from a file.
theorem main_returns_everything {m : platform} {argv : List String} {limit rounds : Nat}
    (hlimit : 0 < limit) {ret : Int} {l : Ledger resource}
    (h : Exec (fun l op answer l' => l' = effect hash op answer l) (main m argv limit rounds)
      Ledger.empty ret l) :
    l.held = ∅ ∧ l.faults =
      if ret = 0 then
        .outlived .session :: if reads_file argv = true then [.outlived .doc] else []
      else [] := by
  have hstart : WellFormed hash (sensor.start limit).monitors :=
    (consistent_start hlimit).monitors
  have hempty : actors_of (sensor.start limit).monitors = [] := by
    simp [actors_of, sensor.start, Table.entries]
  have hends : (main m argv limit rounds).Ends (effect hash) (fun ret l => l.held = ∅ ∧ l.faults =
      if ret = 0 then
        .outlived .session :: if reads_file argv = true then [.outlived .doc] else []
      else []) (Ledger.empty : Ledger resource) := by
    refine create_ends Ledger.holding_empty id (Prog.Ends.pure ⟨rfl, rfl⟩) fun l₁ h₁ => ?_
    have h₂ : Holding (Holds {} false false false) [] l₁ := by
      refine h₁.congr fun other => ?_
      cases other <;> simp [Holds, container_actors]
    refine (setup_ends hstart hempty h₂).bind fun r l₃ h₃ => ?_
    obtain ⟨pmu, doc, hheld, hquiet, hzero, hne⟩ := h₃
    refine (cleanup_ends hheld hquiet).bind fun _ l₄ h₄ => Prog.Ends.pure ⟨h₄.1, ?_⟩
    rw [h₄.2]
    by_cases hret : r.1 = 0
    · obtain ⟨hreporting, hdoc⟩ := hzero hret
      rw [if_pos hret, if_pos hret, hreporting, hdoc]
      simp
    · rw [if_neg hret, if_neg hret, hne hret]
      simp
  exact hends.exec h

-- One container that the discovery finds.
def found (base_path : String) : discovery (fun _ => 0) base_path :=
  ⟨⟨[[("c", ⟨.DOCKER, some base_path, some "c"⟩)]], 1, []⟩,
    ⟨⟨by simp, by simp, by simp [Table.keys, Table.entries]⟩, by simp [Table.entries]⟩,
    by simp [Table.entries]⟩

-- The answers of a machine on which nothing fails.
def answering : (op : main_call) → main_answer (fun _ => 0) op
  | .create _ => true
  | .start _ => ()
  | .perf_monitoring_actor _ _ => ()
  | .destroy _ => ()
  | .dismiss _ => ()
  | .uname => (0 : Int)
  | .access => (0 : Int)
  | .pmu_topology_detect => (0 : Int)
  | .hwinfo_detect => some one_cpu
  | .config_create => some (0 : Int)
  | .bson_json_reader_new_from_file _ => true
  | .bson_json_reader_read => some
      [("name", .utf8 "sensor"), ("output", .document [("type", .utf8 "null")]),
        ("system", .document [("g", .document [("events", .array [.utf8 "cycles"])])]),
        ("container", .document [("g", .document [("events", .array [.utf8 "cycles"])])])]
  | main_call.storage_module_initialize => (0 : Int)
  | .storage_module_ping => (0 : Int)
  | .target_discover_running base_path => some (found base_path)
  | .zclock_time => (0 : Nat)
  | .clock_tick _ => ()
  | .zclock_sleep _ => ()

def answered (argv : List String) : Int × Ledger resource :=
  (main all_events argv 1 2).run
    (fun l op => (answering op, effect (fun _ => 0) op (answering op) l)) Ledger.empty

theorem main_returns_everything_read :
    (answered ["hwpc-sensor", "--config-file", "conf"]).1 = 0 ∧
    (answered ["hwpc-sensor", "--config-file", "conf"]).2.held = ∅ ∧
    (answered ["hwpc-sensor", "--config-file", "conf"]).2.faults =
      [.outlived .session, .outlived .doc] := by
  have hret : (answered ["hwpc-sensor", "--config-file", "conf"]).1 = 0 := by decide +kernel
  obtain ⟨hheld, hfaults⟩ := main_returns_everything (by decide)
    (exec_run (fun l op => (answering op, effect (fun _ => 0) op (answering op) l))
      (fun _ _ => rfl) (main all_events ["hwpc-sensor", "--config-file", "conf"] 1 2) Ledger.empty)
  exact ⟨hret, hheld, hfaults.trans ((if_pos hret).trans rfl)⟩

end HwpcSensor.Sensor.Main
