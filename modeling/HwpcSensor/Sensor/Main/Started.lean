import HwpcSensor.Sensor.Main.Ledger

namespace HwpcSensor.Sensor.Main

open ChainedTable Interaction Perf Resources

variable {hash : String → Nat}

-- The calls in order, with what they answered.
abbrev main_calls (hash : String → Nat) := List (Σ op, main_answer hash op)

-- What some of the calls say.
def view {β : Type} (f : (op : main_call) → main_answer hash op → Option β)
    (calls : main_calls hash) : List β :=
  calls.filterMap fun call => f call.1 call.2

theorem view_append {β : Type} (f : (op : main_call) → main_answer hash op → Option β)
    (calls more : main_calls hash) : view f (calls ++ more) = view f calls ++ view f more :=
  List.filterMap_append

theorem view_cons {β : Type} (f : (op : main_call) → main_answer hash op → Option β)
    (call : Σ op, main_answer hash op) (calls : main_calls hash) :
    view f (call :: calls) = (f call.1 call.2).toList ++ view f calls := by
  unfold view
  cases hcall : f call.1 call.2 <;> simp [hcall]

def part_started : (op : main_call) → main_answer hash op → Option resource
  | .start what, _ => some what
  | _, _ => none

def actor_started : (op : main_call) → main_answer hash op → Option (resource × perf_config)
  | .perf_monitoring_actor what config, _ => some (what, config)
  | _, _ => none

def container_stopped : (op : main_call) → main_answer hash op → Option Nat
  | .destroy (.container_monitor actor), _ => some actor
  | _, _ => none

def discovered : (op : main_call) → main_answer hash op → Option (Option (Table String target))
  | .target_discover_running _, found => some (Option.map Subtype.val found)
  | _, _ => none

-- What a round of the loop is made of.
inductive beat where
  | discovery (base_path : String)
  | time (timestamp : Nat)
  | tick (timestamp : Nat)
  | sleep (msecs : Int)

def beat_of : (op : main_call) → main_answer hash op → Option beat
  | .target_discover_running base_path, _ => some (.discovery base_path)
  | .zclock_time, timestamp => some (.time timestamp)
  | .clock_tick timestamp, _ => some (.tick timestamp)
  | .zclock_sleep msecs, _ => some (.sleep msecs)
  | _, _ => none

-- The configuration is read from the file that is named, or else from the arguments.
def ReadFrom (argv : List String) (calls : main_calls hash) : config_source → Prop
  | .cli arguments => parse_config_file_path argv = some none ∧ arguments = argv
  | .file doc => ∃ path, parse_config_file_path argv = some (some path) ∧
      [⟨.bson_json_reader_new_from_file path, true⟩, ⟨.bson_json_reader_read, some doc⟩] <:+: calls

section Accepted

variable (m : platform) (hwinfo : hwinfo) (accepted : config)

def round_of (timestamp : Nat) : List beat :=
  (if accepted.events.containers.length ≠ 0 then
    [.discovery accepted.sensor.cgroup_basepath] else []) ++
  [.time timestamp, .tick timestamp, .sleep ((accepted.sensor.frequency : Int).bmod (2 ^ 32))]

def system_monitors : List (resource × perf_config) :=
  if accepted.events.system.length ≠ 0 then
    [(.system_perf_monitor, perf_config_create m.order hwinfo accepted.events.system
      ⟨.ALL, none, none⟩ (callchain_frequency accepted))]
  else []

-- The actors of these configurations, numbered on.
def container_monitors (next : Nat) (created : List perf_config) : List (resource × perf_config) :=
  (created.zipIdx next).map fun started => (.container_monitor started.2, started.1)

-- The table of monitors behind synchronisations with what these discoveries found.
def synced_with (hash : String → Nat) (actors : monitors)
    (found : List (Option (Table String target))) : monitors :=
  found.foldl (Sensor.sync_cgroups_running_monitored hash m.order hwinfo
    accepted.events.containers (callchain_frequency accepted)) actors

-- The calls monitor as a configuration says: they start the two other parts of the
-- process, an actor for the whole system if there are groups for it, and in each
-- round, if there are groups for containers, an actor for each new cgroup that the
-- discovery found.
structure RunsAs (limit rounds : Nat) (monitored : monitors) (calls : main_calls hash) :
    Prop where
  parts : view part_started calls = [.reporting, .ticker]
  beats : ∃ timestamps : List Nat, timestamps.length = rounds ∧
    view beat_of calls = timestamps.flatMap (round_of accepted)
  synced : synced_with m hwinfo accepted hash (sensor.start limit).monitors
    (view discovered calls) = monitored
  actors : view actor_started calls =
    system_monitors m hwinfo accepted ++ container_monitors 0 monitored.created
  configured : ∀ actor ∈ view actor_started calls, StartedConfig m hwinfo accepted actor.2
  covered : ∀ running_targets, some running_targets ∈ view discovered calls →
    ∀ path ∈ running_targets.keys, ∃ config ∈ monitored.created,
      config.target.cgroup_path = some path

end Accepted

-- Any call that is no part of the monitoring.
def Prepares : main_call → Prop
  | .start _ => False
  | .perf_monitoring_actor _ _ => False
  | .destroy (.container_monitor _) => False
  | .target_discover_running _ => False
  | .zclock_time => False
  | .clock_tick _ => False
  | .zclock_sleep _ => False
  | _ => True

def Prepared (calls : main_calls hash) : Prop :=
  ∀ call ∈ calls, Prepares call.1

-- Each actor that was started has also been stopped: by a synchronisation, or in the
-- end.
def MonitorsAccepted (m : platform) (argv : List String) (limit rounds : Nat)
    (calls : main_calls hash) : Prop :=
  ∃ source accepted hwinfo monitored, ReadFrom argv calls source ∧
    ⟨.hwinfo_detect, some hwinfo⟩ ∈ calls ∧ Accepted m source accepted ∧
    RunsAs m hwinfo accepted limit rounds monitored calls ∧
    view container_stopped calls = monitored.destroyed ++ actors_of monitored

section Calls

theorem view_eq_nil {β : Type} {f : (op : main_call) → main_answer hash op → Option β}
    {calls : main_calls hash} (hcalls : Prepared calls)
    (hf : ∀ op answer, Prepares op → f op answer = none) : view f calls = [] :=
  List.filterMap_eq_nil_iff.mpr fun call hcall => hf call.1 call.2 (hcalls call hcall)

theorem Prepared.views {calls : main_calls hash} (h : Prepared calls) :
    view part_started calls = [] ∧ view actor_started calls = [] ∧ view discovered calls = [] ∧
      view beat_of calls = [] ∧ view container_stopped calls = [] := by
  refine ⟨view_eq_nil h ?_, view_eq_nil h ?_, view_eq_nil h ?_, view_eq_nil h ?_,
    view_eq_nil h ?_⟩
  all_goals intro op answer hop
  all_goals cases op with
    | destroy what => cases what <;> first | exact False.elim hop | rfl
    | _ => first | exact False.elim hop | rfl

theorem Prepared.append {calls more : main_calls hash} (h : Prepared calls)
    (hmore : Prepared more) : Prepared (calls ++ more) :=
  List.forall_mem_append.mpr ⟨h, hmore⟩

theorem prepared_records {α : Type} {program : main_program hash α}
    (huses : program.Uses Prepares) : program.Records fun _ calls => Prepared calls :=
  (Prog.Records.of_uses huses (Prog.Yields.anything program)).mono fun _ _ h => h.2

theorem prepares_destroy_if (pointer : Bool) {what : resource}
    (hwhat : Prepares (.destroy what)) :
    (destroy_if pointer what : main_program hash Unit).Uses Prepares := by
  unfold destroy_if
  split_ifs
  · exact Prog.Uses.perform hwhat
  · exact Prog.Uses.pure _

def stops (actors : List Nat) : main_calls hash :=
  actors.map fun actor => ⟨.destroy (.container_monitor actor), ()⟩

def starts (started : List (perf_config × Nat)) : main_calls hash :=
  started.map fun started =>
    ⟨.perf_monitoring_actor (.container_monitor started.2) started.1, ()⟩

theorem stops_views (actors : List Nat) :
    view part_started (stops actors : main_calls hash) = [] ∧
      view actor_started (stops actors : main_calls hash) = [] ∧
      view discovered (stops actors : main_calls hash) = [] ∧
      view beat_of (stops actors : main_calls hash) = [] ∧
      view container_stopped (stops actors : main_calls hash) = actors := by
  unfold view stops
  simp only [List.filterMap_map]
  exact ⟨List.filterMap_none .., List.filterMap_none .., List.filterMap_none ..,
    List.filterMap_none .., List.filterMap_some ..⟩

theorem starts_views (started : List (perf_config × Nat)) :
    view part_started (starts started : main_calls hash) = [] ∧
      view actor_started (starts started : main_calls hash) =
        started.map (fun started => (.container_monitor started.2, started.1)) ∧
      view discovered (starts started : main_calls hash) = [] ∧
      view beat_of (starts started : main_calls hash) = [] ∧
      view container_stopped (starts started : main_calls hash) = [] := by
  unfold view starts
  simp only [List.filterMap_map]
  exact ⟨List.filterMap_none .., congrFun List.filterMap_eq_map _, List.filterMap_none ..,
    List.filterMap_none .., List.filterMap_none ..⟩

theorem stops_records (actors : List Nat) :
    (for_all (fun actor => destroy (.container_monitor actor)) actors :
      main_program hash Unit).Records fun _ calls => calls = stops actors := by
  have hstop : ∀ actor, (destroy (.container_monitor actor) : main_program hash Unit).Records
      fun _ calls => calls = [⟨.destroy (.container_monitor actor), ()⟩] := fun _ _ => rfl
  exact Prog.Records.for_all hstop actors

theorem starts_records (started : List (perf_config × Nat)) :
    (for_all (fun started => perf_monitoring_actor (.container_monitor started.2) started.1)
      started : main_program hash Unit).Records fun _ calls => calls = starts started := by
  have hstart : ∀ started : perf_config × Nat,
      (perf_monitoring_actor (.container_monitor started.2) started.1 :
        main_program hash Unit).Records fun _ calls =>
          calls = [⟨.perf_monitoring_actor (.container_monitor started.2) started.1, ()⟩] :=
    fun _ _ => rfl
  exact Prog.Records.for_all hstart started

-- The actors of the containers are stopped, and nothing else of the monitoring is left.
theorem cleanup_records (s : pointers) : (cleanup s : main_program hash Unit).Records
    fun _ calls => ∃ before after, Prepared before ∧ Prepared after ∧
      calls = before ++ stops (container_actors s) ++ after := by
  refine Prog.Records.bind (prepared_records (prepares_destroy_if _ trivial))
    fun _ first hfirst => ?_
  refine Prog.Records.perform fun answer => ?_
  have hbefore : Prepared (first ++ [(⟨.dismiss .doc, answer⟩ : Σ op, main_answer hash op)]) :=
    hfirst.append (List.forall_mem_singleton.mpr trivial)
  refine (stops_records (container_actors s)).bind fun _ calls hcalls => ?_
  refine (prepared_records ?_).mono fun _ after hafter =>
    ⟨_, after, hbefore, hafter, by rw [hcalls]; simp⟩
  refine Prog.Uses.bind (prepares_destroy_if _ trivial) fun _ => ?_
  refine Prog.Uses.bind (prepares_destroy_if _ trivial) fun _ => ?_
  refine Prog.Uses.bind ?_ fun _ => ?_
  · cases s.storage with
    | none => exact Prog.Uses.pure _
    | some context =>
        exact Prog.Uses.bind (prepares_destroy_if _ trivial) fun _ => Prog.Uses.perform trivial
  refine Prog.Uses.bind (prepares_destroy_if _ trivial) fun _ => ?_
  refine Prog.Uses.bind (prepares_destroy_if _ trivial) fun _ => ?_
  refine Prog.Uses.bind (prepares_destroy_if _ trivial) fun _ => ?_
  refine Prog.Uses.bind (Prog.Uses.perform trivial) fun _ => ?_
  exact Prog.Uses.bind (prepares_destroy_if _ trivial) fun _ => Prog.Uses.perform trivial

theorem prepares_setup_storage_module (m : platform) (config : config) :
    (setup_storage_module m config : main_program hash (Option Bool)).Uses Prepares := by
  have hnull : (storage_null_create : main_program hash (Option Bool)).Uses Prepares := by
    refine Prog.Uses.bind (Prog.Uses.perform trivial) fun allocated => ?_
    split_ifs <;> exact Prog.Uses.pure _
  have hcreate : (storage_module_create : main_program hash (Option Bool)).Uses Prepares := by
    refine Prog.Uses.bind (Prog.Uses.perform trivial) fun allocated => ?_
    split_ifs
    · exact Prog.Uses.pure _
    · refine Prog.Uses.bind (Prog.Uses.perform trivial) fun context_allocated => ?_
      split_ifs
      · exact Prog.Uses.bind (Prog.Uses.perform trivial) fun _ => Prog.Uses.pure _
      · exact Prog.Uses.pure _
  unfold setup_storage_module
  cases config.storage.type with
  | STORAGE_UNKNOWN => exact Prog.Uses.pure _
  | STORAGE_NULL => exact hnull
  | STORAGE_CSV | STORAGE_SOCKET => exact hcreate
  | STORAGE_MONGODB =>
      dsimp only
      split_ifs
      · exact hcreate
      · exact Prog.Uses.pure _

end Calls

section Loop

variable {m : platform} {hwinfo : hwinfo} {accepted : config} {actors synced monitored : monitors}
  {calls more : main_calls hash} {rounds after : Nat}

-- What a synchronisation has called, and where it leads.
structure SyncsAs (m : platform) (hwinfo : HwpcSensor.hwinfo) (accepted : config)
    (actors synced : monitors)
    (found : Option (discovery hash accepted.sensor.cgroup_basepath)) (gone : List Nat)
    (new : List perf_config) : Prop where
  eq : Sensor.sync_cgroups_running_monitored hash m.order hwinfo accepted.events.containers
    (callchain_frequency accepted) actors (found.map Subtype.val) = synced
  well : WellFormed hash synced
  destroyed : synced.destroyed = actors.destroyed ++ gone
  created : synced.created = actors.created ++ new
  started : ∀ config ∈ new, HwpcSensor.StartedConfig m hwinfo accepted config
  covered : ∀ running_targets, found.map Subtype.val = some running_targets →
    ∀ path ∈ running_targets.keys, ∃ config ∈ synced.created,
      config.target.cgroup_path = some path

theorem syncs_as (hgroups : accepted.events.containers.length ≠ 0) (hwell : WellFormed hash actors)
    (found : Option (discovery hash accepted.sensor.cgroup_basepath))
    (hsynced : Sensor.sync_cgroups_running_monitored hash m.order hwinfo
      accepted.events.containers (callchain_frequency accepted) actors
      (found.map Subtype.val) = synced) :
    ∃ gone new, SyncsAs m hwinfo accepted actors synced found gone new := by
  obtain ⟨hwell', gone, -, new, hdestroyed, -, hcreated, -, hnew⟩ :=
    sync_actors m hwinfo hwell found accepted.events.containers (callchain_frequency accepted)
      hsynced
  refine ⟨gone, new, hsynced, hwell', hdestroyed, hcreated, fun config hconfig => ?_,
    fun running_targets hfound path hpath => ?_⟩
  · obtain ⟨type, path, rfl⟩ := hnew config hconfig
    exact .container hgroups type path
  · obtain ⟨targets, -, rfl⟩ := Option.map_eq_some_iff.mp hfound
    obtain ⟨_, -, -, -, -, -, -, hstarted⟩ := hwell.sync m.order hwinfo
      accepted.events.containers (callchain_frequency accepted) targets.2.1
    rw [← hfound, hsynced] at hstarted
    obtain ⟨entry, hentry, rfl⟩ := List.mem_map.mp ((hstarted.mem_keys path).mpr (.inr hpath))
    obtain ⟨config, hconfig, hcgroup⟩ := hwell'.made entry hentry
    exact ⟨config, List.mem_of_getElem? hconfig, hcgroup⟩

theorem sync_records (hgroups : accepted.events.containers.length ≠ 0)
    (hwell : WellFormed hash actors) :
    (sync_cgroups_running_monitored m hwinfo accepted actors :
      main_program hash monitors).Records fun synced calls => ∃ found gone new,
        SyncsAs m hwinfo accepted actors synced found gone new ∧
          calls = ⟨.target_discover_running accepted.sensor.cgroup_basepath, found⟩ ::
            (stops gone ++ starts (new.zipIdx actors.created.length)) := by
  refine Prog.Records.perform fun (found : Option (discovery hash _)) => ?_
  obtain ⟨gone, new, hsyncs⟩ := syncs_as hgroups hwell found rfl
  refine Prog.Records.bind (stops_records _) fun _ stopped hstopped => ?_
  refine Prog.Records.bind (starts_records _) fun _ started hstarted => ?_
  refine Prog.Records.pure ⟨found, gone, new, hsyncs, ?_⟩
  rw [hstopped, hstarted, hsyncs.destroyed, hsyncs.created, List.drop_left, List.drop_left,
    List.append_nil]

-- What rounds of the loop have called, and where they lead.
structure LoopsAs (m : platform) (hwinfo : HwpcSensor.hwinfo) (accepted : config)
    (rounds : Nat) (actors monitored : monitors) (calls : main_calls hash) : Prop where
  parts : view part_started calls = []
  beats : ∃ timestamps : List Nat, timestamps.length = rounds ∧
    view beat_of calls = timestamps.flatMap (round_of accepted)
  synced : synced_with m hwinfo accepted hash actors (view discovered calls) = monitored
  started : ∃ new, monitored.created = actors.created ++ new ∧
    view actor_started calls = container_monitors actors.created.length new ∧
    ∀ config ∈ new, HwpcSensor.StartedConfig m hwinfo accepted config
  stopped : monitored.destroyed = actors.destroyed ++ view container_stopped calls
  covered : ∀ running_targets, some running_targets ∈ view discovered calls →
    ∀ path ∈ running_targets.keys, ∃ config ∈ monitored.created,
      config.target.cgroup_path = some path

theorem container_monitors_append (next : Nat) (created new : List perf_config) :
    container_monitors next (created ++ new) =
      container_monitors next created ++ container_monitors (next + created.length) new := by
  unfold container_monitors
  rw [List.zipIdx_append, List.map_append]

theorem LoopsAs.refl : LoopsAs m hwinfo accepted 0 actors actors ([] : main_calls hash) :=
  ⟨rfl, ⟨[], rfl, rfl⟩, rfl, ⟨[], by simp, rfl, by simp⟩, by simp [view], by simp [view]⟩

theorem LoopsAs.append (h : LoopsAs m hwinfo accepted rounds actors synced calls)
    (hmore : LoopsAs m hwinfo accepted after synced monitored more) :
    LoopsAs m hwinfo accepted (rounds + after) actors monitored (calls ++ more) := by
  obtain ⟨timestamps, hlength, hbeats⟩ := h.beats
  obtain ⟨later, hlater, hmore_beats⟩ := hmore.beats
  obtain ⟨new, hcreated, hactors, hstarted⟩ := h.started
  obtain ⟨newer, hmore_created, hmore_actors, hmore_started⟩ := hmore.started
  refine ⟨?_, ⟨timestamps ++ later, ?_, ?_⟩, ?_, ⟨new ++ newer, ?_, ?_, ?_⟩, ?_, ?_⟩
  · rw [view_append, h.parts, hmore.parts, List.append_nil]
  · rw [List.length_append, hlength, hlater]
  · rw [view_append, hbeats, hmore_beats, List.flatMap_append]
  · rw [view_append, synced_with, List.foldl_append, ← hmore.synced, ← h.synced]
    rfl
  · rw [hmore_created, hcreated, List.append_assoc]
  · rw [view_append, hactors, hmore_actors, hcreated, List.length_append,
      container_monitors_append]
  · exact List.forall_mem_append.mpr ⟨hstarted, hmore_started⟩
  · rw [hmore.stopped, h.stopped, view_append, List.append_assoc]
  · intro running_targets hfound path hpath
    rw [view_append] at hfound
    rcases List.mem_append.mp hfound with hearlier | hlater
    · obtain ⟨config, hconfig, hcgroup⟩ := h.covered running_targets hearlier path hpath
      exact ⟨config, hmore_created ▸ List.mem_append_left _ hconfig, hcgroup⟩
    · exact hmore.covered running_targets hlater path hpath

-- What follows a synchronisation in its round.
def round_end (accepted : config) (timestamp : Nat) : main_calls hash :=
  [⟨.zclock_time, timestamp⟩, ⟨.clock_tick timestamp, ()⟩,
    ⟨.zclock_sleep ((accepted.sensor.frequency : Int).bmod (2 ^ 32)), ()⟩]

theorem round_end_views (accepted : config) (timestamp : Nat) :
    view part_started (round_end accepted timestamp : main_calls hash) = [] ∧
      view actor_started (round_end accepted timestamp : main_calls hash) = [] ∧
      view discovered (round_end accepted timestamp : main_calls hash) = [] ∧
      view container_stopped (round_end accepted timestamp : main_calls hash) = [] :=
  ⟨rfl, rfl, rfl, rfl⟩

theorem loops_as_without (hgroups : ¬accepted.events.containers.length ≠ 0) (timestamp : Nat) :
    LoopsAs m hwinfo accepted 1 actors actors
      (round_end accepted timestamp : main_calls hash) := by
  refine ⟨rfl, ⟨[timestamp], rfl, ?_⟩, rfl, ⟨[], by simp, rfl, by simp⟩, by simp [view, round_end,
    container_stopped], by simp [view, round_end, discovered]⟩
  rw [List.flatMap_singleton, round_of, if_neg hgroups]
  rfl

theorem loops_as_round (hgroups : accepted.events.containers.length ≠ 0)
    {found : Option (discovery hash accepted.sensor.cgroup_basepath)} {gone : List Nat}
    {new : List perf_config} (h : SyncsAs m hwinfo accepted actors synced found gone new)
    (timestamp : Nat) :
    LoopsAs m hwinfo accepted 1 actors synced
      (⟨.target_discover_running accepted.sensor.cgroup_basepath, found⟩ ::
        (stops gone ++ starts (new.zipIdx actors.created.length)) ++
        round_end accepted timestamp) := by
  obtain ⟨hparts, hactors, hdiscovered, hbeats, hstopped⟩ := @stops_views hash gone
  obtain ⟨hparts', hactors', hdiscovered', hbeats', hstopped'⟩ :=
    @starts_views hash (new.zipIdx actors.created.length)
  obtain ⟨hparts'', hactors'', hdiscovered'', hstopped''⟩ :=
    @round_end_views hash accepted timestamp
  have hview : ∀ {β : Type} (f : (op : main_call) → main_answer hash op → Option β),
      view f (⟨.target_discover_running accepted.sensor.cgroup_basepath, found⟩ ::
        (stops gone ++ starts (new.zipIdx actors.created.length)) ++
        round_end accepted timestamp) =
      (f (.target_discover_running accepted.sensor.cgroup_basepath) found).toList ++
        view f (stops gone) ++ view f (starts (new.zipIdx actors.created.length)) ++
        view f (round_end accepted timestamp) := by
    intro β f
    rw [view_append, view_cons, view_append]
    simp only [List.append_assoc]
  have hfound : view discovered (⟨.target_discover_running accepted.sensor.cgroup_basepath,
      found⟩ :: (stops gone ++ starts (new.zipIdx actors.created.length)) ++
        round_end accepted timestamp) = [found.map Subtype.val] := by
    rw [hview, hdiscovered, hdiscovered', hdiscovered'']
    rfl
  refine ⟨?_, ⟨[timestamp], rfl, ?_⟩, ?_, ⟨new, h.created, ?_, h.started⟩, ?_, ?_⟩
  · rw [hview, hparts, hparts', hparts'']
    rfl
  · rw [hview, hbeats, hbeats', List.flatMap_singleton, round_of, if_pos hgroups]
    rfl
  · rw [hfound, ← h.eq]
    rfl
  · rw [hview, hactors, hactors', hactors'']
    simp [actor_started, container_monitors]
  · rw [hview, hstopped, hstopped', hstopped'', h.destroyed]
    simp [container_stopped]
  · rw [hfound]
    exact fun running_targets hmem =>
      h.covered running_targets (List.mem_singleton.mp hmem).symm

theorem monitor_records (rounds : Nat) (hwell : WellFormed hash actors) :
    (monitor m hwinfo accepted rounds actors : main_program hash monitors).Records
      fun monitored calls => LoopsAs m hwinfo accepted rounds actors monitored calls := by
  induction rounds generalizing actors with
  | zero => exact Prog.Records.pure .refl
  | succ rounds ih =>
      have hrest : ∀ actors' first, WellFormed hash actors' →
          (∀ timestamp, LoopsAs m hwinfo accepted 1 actors actors'
            (first ++ round_end accepted timestamp)) →
          ((do
            let timestamp ← zclock_time
            clock_tick timestamp
            zclock_sleep ((accepted.sensor.frequency : Int).bmod (2 ^ 32))
            monitor m hwinfo accepted rounds actors' : main_program hash monitors)).Records
              fun monitored calls =>
                LoopsAs m hwinfo accepted (rounds + 1) actors monitored (first ++ calls) := by
        intro actors' first hwell' hround
        refine fun (timestamp : Nat) _ _ => (ih hwell').mono fun monitored calls h => ?_
        have hrun := (hround timestamp).append h
        rw [Nat.add_comm, List.append_assoc] at hrun
        exact hrun
      unfold monitor
      by_cases hgroups : accepted.events.containers.length ≠ 0
      · rw [if_pos hgroups]
        refine (sync_records hgroups hwell).bind fun synced calls h => ?_
        obtain ⟨found, gone, new, hsyncs, rfl⟩ := h
        exact hrest synced _ hsyncs.well (loops_as_round hgroups hsyncs)
      · rw [if_neg hgroups]
        exact hrest actors [] hwell (loops_as_without hgroups)

end Loop

section Setup

variable {m : platform} {argv : List String} {hwinfo : hwinfo} {accepted : config}
  {limit rounds : Nat} {s : pointers} {r : Int × pointers} {calls more : main_calls hash}

-- An error comes before the monitoring.
def Early (r : Int × pointers) (calls : main_calls hash) : Prop :=
  r.1 ≠ 0 ∧ Prepared calls ∧ r.2.container_monitoring_actors = none

def RanAs (m : platform) (hwinfo : HwpcSensor.hwinfo) (accepted : config) (limit rounds : Nat)
    (r : Int × pointers) (calls : main_calls hash) : Prop :=
  r.1 = 0 ∧ ∃ monitored, RunsAs m hwinfo accepted limit rounds monitored calls ∧
    r.2.container_monitoring_actors = some monitored ∧
    view container_stopped calls = monitored.destroyed

def Told (m : platform) (argv : List String) (limit rounds : Nat) (r : Int × pointers)
    (calls : main_calls hash) : Prop :=
  Early r calls ∨ ∃ source accepted hwinfo, ReadFrom argv calls source ∧
    ⟨.hwinfo_detect, some hwinfo⟩ ∈ calls ∧ Accepted m source accepted ∧
    RanAs m hwinfo accepted limit rounds r calls

theorem Early.after (h : Early r calls) (hmore : Prepared more) : Early r (more ++ calls) :=
  ⟨h.1, hmore.append h.2.1, h.2.2⟩

theorem early (hcalls : Prepared calls) (hnone : s.container_monitoring_actors = none) :
    Early (1, s) calls :=
  ⟨one_ne_zero, hcalls, hnone⟩

theorem Prepared.view_append {β : Type} {f : (op : main_call) → main_answer hash op → Option β}
    (hf : view f more = []) (calls : main_calls hash) : view f (more ++ calls) = view f calls := by
  rw [Main.view_append, hf, List.nil_append]

theorem RunsAs.congr {monitored : monitors}
    (h : RunsAs m hwinfo accepted limit rounds monitored calls)
    (hparts : view part_started more = view part_started calls)
    (hactors : view actor_started more = view actor_started calls)
    (hdiscovered : view discovered more = view discovered calls)
    (hbeats : view beat_of more = view beat_of calls) :
    RunsAs m hwinfo accepted limit rounds monitored more := by
  refine ⟨hparts.trans h.parts, ?_, ?_, hactors.trans h.actors, ?_, ?_⟩
  · rw [hbeats]
    exact h.beats
  · rw [hdiscovered]
    exact h.synced
  · rw [hactors]
    exact h.configured
  · rw [hdiscovered]
    exact h.covered

theorem RanAs.after (h : RanAs m hwinfo accepted limit rounds r calls) (hmore : Prepared more) :
    RanAs m hwinfo accepted limit rounds r (more ++ calls) := by
  obtain ⟨hzero, monitored, hruns, hactors, hstopped⟩ := h
  obtain ⟨hparts, hstarted, hdiscovered, hbeats, hstops⟩ := hmore.views
  refine ⟨hzero, monitored, hruns.congr ?_ ?_ ?_ ?_, hactors, ?_⟩
  · exact Prepared.view_append hparts calls
  · exact Prepared.view_append hstarted calls
  · exact Prepared.view_append hdiscovered calls
  · exact Prepared.view_append hbeats calls
  · rw [Prepared.view_append hstops calls, hstopped]

theorem read_from_after {source : config_source} (h : ReadFrom argv calls source) :
    ReadFrom argv (more ++ calls) source := by
  cases source with
  | cli arguments => exact h
  | file doc =>
      obtain ⟨path, hpath, hread⟩ := h
      exact ⟨path, hpath, hread.trans (List.suffix_append more calls).isInfix⟩

theorem read_from_append {source : config_source} (h : ReadFrom argv calls source)
    (more : main_calls hash) : ReadFrom argv (calls ++ more) source := by
  cases source with
  | cli arguments => exact h
  | file doc =>
      obtain ⟨path, hpath, hread⟩ := h
      exact ⟨path, hpath, hread.trans (List.prefix_append calls more).isInfix⟩

theorem Told.after (h : Told m argv limit rounds r calls) (hmore : Prepared more) :
    Told m argv limit rounds r (more ++ calls) := by
  rcases h with hearly | ⟨source, accepted, hwinfo, hread, hdetected, haccepted, hran⟩
  · exact .inl (hearly.after hmore)
  · exact .inr ⟨source, accepted, hwinfo, read_from_after hread,
      List.mem_append_right more hdetected, haccepted, hran.after hmore⟩

theorem system_records : (start_system_monitor m hwinfo accepted : main_program hash Unit).Records
    fun _ calls => calls = (system_monitors m hwinfo accepted).map fun started =>
      ⟨.perf_monitoring_actor started.1 started.2, ()⟩ := by
  unfold start_system_monitor system_monitors
  split_ifs
  · exact fun _ => rfl
  · exact rfl

theorem system_views : ∀ calls : main_calls hash,
    calls = (system_monitors m hwinfo accepted).map (fun started =>
      ⟨.perf_monitoring_actor started.1 started.2, ()⟩) →
    view part_started calls = [] ∧ view actor_started calls = system_monitors m hwinfo accepted ∧
      view discovered calls = [] ∧ view beat_of calls = [] ∧ view container_stopped calls = [] := by
  rintro _ rfl
  unfold view
  simp only [List.filterMap_map]
  exact ⟨List.filterMap_none .., List.filterMap_some .., List.filterMap_none ..,
    List.filterMap_none .., List.filterMap_none ..⟩

theorem system_configured : ∀ actor ∈ system_monitors m hwinfo accepted,
    StartedConfig m hwinfo accepted actor.2 := by
  unfold system_monitors
  split_ifs with hgroups
  · exact List.forall_mem_singleton.mpr (.system hgroups)
  · exact List.forall_mem_nil _

theorem container_configured {next : Nat} {created : List perf_config}
    (h : ∀ config ∈ created, StartedConfig m hwinfo accepted config) :
    ∀ actor ∈ container_monitors next created, StartedConfig m hwinfo accepted actor.2 := by
  intro actor hactor
  obtain ⟨item, hitem, rfl⟩ := List.mem_map.mp hactor
  exact h item.1 (List.fst_mem_of_mem_zipIdx hitem)

theorem run_records (hlimit : 0 < limit) (rounds : Nat) (s : pointers) :
    (run m hwinfo accepted (sensor.start limit).monitors rounds s :
      main_program hash (Int × pointers)).Records
        fun r calls => RanAs m hwinfo accepted limit rounds r calls := by
  have hwell : WellFormed hash (sensor.start limit).monitors := (consistent_start hlimit).monitors
  refine Prog.Records.perform fun reporting => Prog.Records.perform fun ticker => ?_
  refine Prog.Records.bind system_records fun _ first hfirst => ?_
  refine Prog.Records.bind (monitor_records rounds hwell) fun monitored calls hloops => ?_
  refine Prog.Records.perform fun session => Prog.Records.pure ?_
  obtain ⟨hparts, hactors, hdiscovered, hbeats, hstopped⟩ := system_views first hfirst
  obtain ⟨new, hcreated, hstarted, hconfigured⟩ := hloops.started
  have hall : view actor_started (first ++ (calls ++ [(⟨.destroy .session, session⟩ :
      Σ op, main_answer hash op)])) =
      system_monitors m hwinfo accepted ++ container_monitors 0 monitored.created := by
    rw [view_append, view_append, hactors, hstarted, hcreated]
    exact congrArg _ (List.append_nil _)
  have hfound : view discovered (first ++ (calls ++ [(⟨.destroy .session, session⟩ :
      Σ op, main_answer hash op)])) = view discovered calls := by
    rw [view_append, view_append, hdiscovered]
    exact List.append_nil _
  refine ⟨rfl, monitored, ⟨?_, ?_, ?_, ?_, ?_, ?_⟩, rfl, ?_⟩
  · rw [view_cons, view_cons, view_append, view_append, hparts, hloops.parts]
    rfl
  · obtain ⟨timestamps, hlength, htimes⟩ := hloops.beats
    refine ⟨timestamps, hlength, ?_⟩
    rw [view_cons, view_cons, view_append, view_append, hbeats, htimes]
    exact List.append_nil _
  · rw [view_cons, view_cons, hfound]
    exact hloops.synced
  · rw [view_cons, view_cons, hall]
    rfl
  · rw [view_cons, view_cons, hall]
    have hcontainers : ∀ config ∈ monitored.created, StartedConfig m hwinfo accepted config :=
      hcreated ▸ hconfigured
    change ∀ actor ∈ system_monitors m hwinfo accepted ++ container_monitors 0 monitored.created,
      StartedConfig m hwinfo accepted actor.2
    exact List.forall_mem_append.mpr ⟨system_configured, container_configured hcontainers⟩
  · rw [view_cons, view_cons, hfound]
    exact hloops.covered
  · rw [view_cons, view_cons, view_append, view_append, hstopped, hloops.stopped]
    exact List.append_nil _

theorem setup_storage_records (hlimit : 0 < limit) (rounds : Nat)
    (hnone : s.container_monitoring_actors = none) :
    (setup_storage m hwinfo accepted (sensor.start limit).monitors rounds s :
      main_program hash (Int × pointers)).Records
        fun r calls => Early r calls ∨ RanAs m hwinfo accepted limit rounds r calls := by
  refine Prog.Records.bind (prepared_records (prepares_setup_storage_module m accepted))
    fun storage first hfirst => ?_
  by_cases hstorage : storage = none
  · rw [if_pos hstorage]
    exact .inl (early (hfirst.append (List.forall_mem_nil _)) hnone)
  rw [if_neg hstorage]
  refine Prog.Records.perform fun (err : Int) => ?_
  have hinitialized : Prepared [(⟨main_call.storage_module_initialize, err⟩ :
      Σ op, main_answer hash op)] := List.forall_mem_singleton.mpr trivial
  by_cases herr : err ≠ 0
  · rw [if_pos herr]
    exact .inl (early (hfirst.append hinitialized) hnone)
  rw [if_neg herr]
  refine Prog.Records.perform fun (err' : Int) => ?_
  have hpinged : Prepared [(⟨.storage_module_ping, err'⟩ : Σ op, main_answer hash op)] :=
    List.forall_mem_singleton.mpr trivial
  by_cases herr' : err' ≠ 0
  · rw [if_pos herr']
    refine Prog.Records.perform fun _ => .inl (early (hfirst.append ?_) hnone)
    exact hinitialized.append (hpinged.append (List.forall_mem_singleton.mpr trivial))
  rw [if_neg herr']
  refine (run_records hlimit rounds _).mono fun r calls hran => .inr ?_
  exact ((hran.after hpinged).after hinitialized).after hfirst

-- The source of the configuration has been read with these calls.
theorem validate_records (hlimit : 0 < limit) (rounds : Nat) {source : config_source}
    {P_flag : Int} (hnone : s.container_monitoring_actors = none) (hcalls : Prepared calls)
    (hread : ReadFrom argv calls source) :
    (validate m hwinfo (sensor.start limit).monitors rounds s (source.setup m P_flag) :
      main_program hash (Int × pointers)).Records fun r more => Early r (calls ++ more) ∨
        ∃ source accepted, ReadFrom argv (calls ++ more) source ∧ Accepted m source accepted ∧
          RanAs m hwinfo accepted limit rounds r (calls ++ more) := by
  cases hsetup : source.setup m P_flag with
  | none => exact .inl (early (hcalls.append (List.forall_mem_nil _)) hnone)
  | some accepted =>
      unfold validate
      dsimp only
      by_cases hvalid : config_validate m accepted ≠ 0
      · rw [if_pos hvalid]
        exact .inl (early (hcalls.append (List.forall_mem_nil _)) hnone)
      rw [if_neg hvalid]
      refine (setup_storage_records hlimit rounds hnone).mono fun r more h => ?_
      rcases h with hearly | hran
      · exact .inl (hearly.after hcalls)
      · exact .inr ⟨source, accepted, read_from_append hread more,
          ⟨⟨P_flag, hsetup⟩, not_not.mp hvalid⟩, hran.after hcalls⟩

theorem setup_config_records (hlimit : 0 < limit) (rounds : Nat)
    (hnone : s.container_monitoring_actors = none) :
    (setup_config m argv hwinfo (sensor.start limit).monitors rounds s :
      main_program hash (Int × pointers)).Records fun r calls => Early r calls ∨
        ∃ source accepted, ReadFrom argv calls source ∧ Accepted m source accepted ∧
          RanAs m hwinfo accepted limit rounds r calls := by
  refine Prog.Records.perform fun (memory : Option Int) => ?_
  have hcreated : Prepared [(⟨.config_create, memory⟩ : Σ op, main_answer hash op)] :=
    List.forall_mem_singleton.mpr trivial
  cases memory with
  | none => exact .inl (early hcreated hnone)
  | some P_flag =>
      cases hpath : parse_config_file_path argv with
      | none => exact .inl (early hcreated hnone)
      | some path =>
          cases path with
          | none =>
              have hread : ReadFrom argv [(⟨.config_create, some P_flag⟩ :
                  Σ op, main_answer hash op)] (.cli argv) := ⟨hpath, rfl⟩
              have hconfig : { s with config := true }.container_monitoring_actors = none := hnone
              exact validate_records hlimit rounds hconfig hcreated hread
          | some path =>
              refine Prog.Records.perform fun (opened : Bool) => ?_
              have hopened : Prepared [(⟨.bson_json_reader_new_from_file path, opened⟩ :
                  Σ op, main_answer hash op)] := List.forall_mem_singleton.mpr trivial
              cases opened with
              | false => exact .inl (early (hcreated.append hopened) hnone)
              | true =>
                  refine Prog.Records.perform fun (doc : Option (List (String × bson_value))) => ?_
                  have hdoc : Prepared [(⟨.bson_json_reader_read, doc⟩ :
                      Σ op, main_answer hash op)] := List.forall_mem_singleton.mpr trivial
                  have hall := hcreated.append (hopened.append hdoc)
                  cases doc with
                  | none => exact .inl (early hall hnone)
                  | some doc =>
                      have hread : ReadFrom argv [(⟨.config_create, some P_flag⟩ :
                          Σ op, main_answer hash op),
                          ⟨.bson_json_reader_new_from_file path, true⟩,
                          ⟨.bson_json_reader_read, some doc⟩] (.file doc) :=
                        ⟨path, hpath, [_], [], rfl⟩
                      have hreader : { s with
                          config := true, reader := true }.container_monitoring_actors = none :=
                        hnone
                      exact validate_records hlimit rounds hreader hall hread

theorem setup_hwinfo_records (hlimit : 0 < limit) (rounds : Nat)
    (hnone : s.container_monitoring_actors = none) :
    (setup_hwinfo m argv (sensor.start limit).monitors rounds s :
      main_program hash (Int × pointers)).Records (Told m argv limit rounds) := by
  refine Prog.Records.perform fun (created : Bool) => ?_
  have hcreated : Prepared [(⟨.create .hwinfo, created⟩ : Σ op, main_answer hash op)] :=
    List.forall_mem_singleton.mpr trivial
  by_cases hfailed : created = false
  · rw [if_pos hfailed]
    exact .inl (early hcreated hnone)
  rw [if_neg hfailed]
  refine Prog.Records.perform fun (detected : Option HwpcSensor.hwinfo) => ?_
  have hdetected : Prepared [(⟨.hwinfo_detect, detected⟩ : Σ op, main_answer hash op)] :=
    List.forall_mem_singleton.mpr trivial
  cases detected with
  | none => exact .inl (early (hcreated.append hdetected) hnone)
  | some hwinfo =>
      have hcreated' : { s with hwinfo := true }.container_monitoring_actors = none := hnone
      refine (setup_config_records hlimit rounds hcreated').mono fun r calls h => ?_
      have htold : Told m argv limit rounds r
          ([⟨.hwinfo_detect, some hwinfo⟩] ++ calls) := by
        rcases h with hearly | ⟨source, accepted, hread, haccepted, hran⟩
        · exact .inl (hearly.after hdetected)
        · exact .inr ⟨source, accepted, hwinfo, read_from_after hread,
            List.mem_cons_self, haccepted, hran.after hdetected⟩
      exact htold.after hcreated

theorem prepares_counting_event :
    (perf_try_global_counting_event_open : main_program hash Int).Uses Prepares := by
  refine ⟨trivial, fun (found : Int) => ?_⟩
  by_cases hfound : found = -1
  · exact (congrArg (Prog.Uses Prepares) (if_pos hfound)).mpr (Prog.Uses.pure _)
  · refine (congrArg (Prog.Uses Prepares) (if_neg hfound)).mpr ⟨trivial, fun (opened : Bool) => ?_⟩
    cases opened with
    | false => exact Prog.Uses.pure _
    | true => exact ⟨trivial, fun _ => Prog.Uses.pure _⟩

theorem setup_records (hlimit : 0 < limit) (rounds : Nat) :
    (setup m argv (sensor.start limit).monitors rounds :
      main_program hash (Int × pointers)).Records (Told m argv limit rounds) := by
  refine Prog.Records.perform fun (err : Int) => ?_
  have huname : Prepared [(⟨.uname, err⟩ : Σ op, main_answer hash op)] :=
    List.forall_mem_singleton.mpr trivial
  by_cases herr : err ≠ 0
  · rw [if_pos herr]
    exact .inl (early huname rfl)
  rw [if_neg herr]
  refine Prog.Records.bind (prepared_records prepares_counting_event) fun err' first hfirst => ?_
  by_cases herr' : err' ≠ 0
  · rw [if_pos herr']
    exact .inl (early (huname.append (hfirst.append (List.forall_mem_nil _))) rfl)
  rw [if_neg herr']
  refine Prog.Records.perform fun (initialized : Bool) => ?_
  have hpmu : Prepared [(⟨.create .pmu, initialized⟩ : Σ op, main_answer hash op)] :=
    List.forall_mem_singleton.mpr trivial
  by_cases hinitialized : initialized = false
  · rw [if_pos hinitialized]
    exact .inl (early (huname.append (hfirst.append hpmu)) rfl)
  rw [if_neg hinitialized]
  refine Prog.Records.perform fun (created : Bool) => ?_
  have htopology : Prepared [(⟨.create .topology, created⟩ : Σ op, main_answer hash op)] :=
    List.forall_mem_singleton.mpr trivial
  by_cases hcreated : created = false
  · rw [if_pos hcreated]
    exact .inl (early (huname.append (hfirst.append (hpmu.append htopology))) rfl)
  rw [if_neg hcreated]
  refine Prog.Records.perform fun (err'' : Int) => ?_
  have hdetected : Prepared [(⟨.pmu_topology_detect, err''⟩ : Σ op, main_answer hash op)] :=
    List.forall_mem_singleton.mpr trivial
  have hall := hpmu.append (htopology.append hdetected)
  by_cases herr'' : err'' ≠ 0
  · rw [if_pos herr'']
    exact .inl (early (huname.append (hfirst.append hall)) rfl)
  rw [if_neg herr'']
  refine (setup_hwinfo_records hlimit rounds rfl).mono fun r calls htold => ?_
  exact ((htold.after hall).after hfirst).after huname

theorem Early.cleaned (h : Early r calls) {before after : main_calls hash}
    (hbefore : Prepared before) (hafter : Prepared after) :
    Prepared (calls ++ (before ++ stops (container_actors r.2) ++ after)) := by
  have hactors : container_actors r.2 = [] := by
    unfold container_actors
    rw [h.2.2]
  rw [hactors]
  exact h.2.1.append ((hbefore.append (List.forall_mem_nil _)).append hafter)

theorem RanAs.cleaned (h : RanAs m hwinfo accepted limit rounds r calls)
    {before after : main_calls hash} (hbefore : Prepared before) (hafter : Prepared after) :
    ∃ monitored, RunsAs m hwinfo accepted limit rounds monitored
        (calls ++ (before ++ stops (container_actors r.2) ++ after)) ∧
      view container_stopped (calls ++ (before ++ stops (container_actors r.2) ++ after)) =
        monitored.destroyed ++ actors_of monitored := by
  obtain ⟨-, monitored, hruns, hsome, hstopped⟩ := h
  have hactors : container_actors r.2 = actors_of monitored := by
    unfold container_actors
    rw [hsome]
    rfl
  obtain ⟨hparts, hstarted, hdiscovered, hbeats, hstops⟩ := hbefore.views
  obtain ⟨hparts', hstarted', hdiscovered', hbeats', hstops'⟩ := hafter.views
  obtain ⟨hparts'', hstarted'', hdiscovered'', hbeats'', hstops''⟩ :=
    @stops_views hash (container_actors r.2)
  refine ⟨monitored, hruns.congr ?_ ?_ ?_ ?_, ?_⟩
  · simp only [view_append, hparts, hparts', hparts'', List.append_nil]
  · simp only [view_append, hstarted, hstarted', hstarted'', List.append_nil]
  · simp only [view_append, hdiscovered, hdiscovered', hdiscovered'', List.append_nil]
  · simp only [view_append, hbeats, hbeats', hbeats'', List.append_nil]
  · simp only [view_append, hstops, hstops', hstops'', List.nil_append, List.append_nil]
    rw [hstopped, hactors]

theorem main_records (hlimit : 0 < limit) (rounds : Nat) :
    (main m argv limit rounds : main_program hash Int).Records fun ret calls =>
      ret ≠ 0 ∧ Prepared calls ∨ ret = 0 ∧ MonitorsAccepted m argv limit rounds calls := by
  refine Prog.Records.perform fun (initialized : Bool) => ?_
  have hzsys : Prepared [(⟨.create .zsys, initialized⟩ : Σ op, main_answer hash op)] :=
    List.forall_mem_singleton.mpr trivial
  by_cases hfailed : initialized = false
  · rw [if_pos hfailed]
    exact .inl ⟨one_ne_zero, hzsys⟩
  rw [if_neg hfailed]
  refine Prog.Records.bind (setup_records hlimit rounds) fun r calls htold => ?_
  refine Prog.Records.bind (cleanup_records r.2) fun _ more hmore => Prog.Records.pure ?_
  obtain ⟨before, after, hbefore, hafter, rfl⟩ := hmore
  rw [List.append_nil, ← List.singleton_append, ← List.append_assoc]
  rcases htold.after hzsys with hearly | ⟨source, accepted, hwinfo, hread, hdetected, haccepted,
    hran⟩
  · exact .inl ⟨hearly.1, hearly.cleaned hbefore hafter⟩
  · obtain ⟨monitored, hruns, hstopped⟩ := hran.cleaned hbefore hafter
    exact .inr ⟨hran.1, source, accepted, hwinfo, monitored, read_from_append hread _,
      List.mem_append_left _ hdetected, haccepted, hruns, hstopped⟩

end Setup

-- The program monitors and returns zero, or it returns an error and has not started.
-- What it monitors is the configuration that the arguments lead to, and it has been
-- validated.
theorem main_monitors_accepted {m : platform} {argv : List String} {limit rounds : Nat}
    (hlimit : 0 < limit) {ret : Int} {calls : main_calls hash}
    (h : Exec (fun calls op answer calls' => calls' = calls ++ [⟨op, answer⟩])
      (main m argv limit rounds) [] ret calls) :
    ret ≠ 0 ∧ Prepared calls ∨ ret = 0 ∧ MonitorsAccepted m argv limit rounds calls := by
  obtain ⟨_, rfl, htold⟩ := (main_records hlimit rounds).exec h
  exact htold

def recorded (argv : List String) : Int × main_calls (fun _ => 0) :=
  (main all_events argv 1 2).run
    (fun calls op => (answering op, calls ++ [⟨op, answering op⟩])) []

theorem main_monitors_accepted_read :
    (recorded ["hwpc-sensor", "--config-file", "conf"]).1 = 0 ∧
    MonitorsAccepted all_events ["hwpc-sensor", "--config-file", "conf"] 1 2
      (recorded ["hwpc-sensor", "--config-file", "conf"]).2 := by
  have hret : (recorded ["hwpc-sensor", "--config-file", "conf"]).1 = 0 := by decide +kernel
  rcases main_monitors_accepted (by decide)
    (exec_run (fun calls op => (answering op, calls ++ [⟨op, answering op⟩]))
      (fun _ _ => rfl) (main all_events ["hwpc-sensor", "--config-file", "conf"] 1 2) [])
    with hearly | hmonitors
  · exact absurd hret hearly.1
  · exact hmonitors

end HwpcSensor.Sensor.Main
