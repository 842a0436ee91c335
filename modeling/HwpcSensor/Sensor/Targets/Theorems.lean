import HwpcSensor.Sensor.Targets

namespace HwpcSensor.Sensor.Targets

open ChainedTable Transition

-- What matters about the actors: their targets and phases.
def states (monitors : List monitor) : List (Nat × monitor_phase) :=
  monitors.map fun m => (m.target, m.phase)

def targets_of (monitors : List monitor) : List Nat :=
  (states monitors).map Prod.fst

def flagged (items : zhashx running_item) : List Nat :=
  (items.filter fun item => item.2.freefn).map fun item => item.2.target

def unflagged (items : zhashx running_item) : List Nat :=
  items.map fun item => item.2.target

-- The items that the second loop has yet to come to.
def undecided (main : main_phase) (running_targets : zhashx running_item) :
    zhashx running_item :=
  match main with
  | .stopping _ | .waiting _ => running_targets
  | .starting remaining => remaining
  | .checking | .releasing _ | .ticking | .destroying _ | .waiting_last _ _ | .done => []

-- The targets that `running_targets` is to destroy.
def decided (main : main_phase) (running_targets : zhashx running_item) : List Nat :=
  match main with
  | .starting _ => flagged running_targets
  | .releasing remaining => flagged remaining
  | .checking | .stopping _ | .waiting _ | .ticking | .destroying _ | .waiting_last _ _
  | .done => []

def kept (main : main_phase) (running_targets : zhashx running_item) : List Nat :=
  decided main running_targets ++ unflagged (undecided main running_targets)

-- The targets that `running_targets` has seen to.
def released (destroyed : List (Nat × owner)) : List Nat :=
  (destroyed.filter fun entry => entry.2 = .running_targets).map Prod.fst

def owners (s : process) (i : Nat) : Nat :=
  (targets_of s.monitors).count i + (kept s.main s.running_targets).count i +
    (released s.destroyed).count i

-- Every target has one owner.
structure Split (hash : String → Nat) (s : process) : Prop where
  valid : s.actors.Valid hash
  keys : (zhashx_keys s.running_targets).Nodup
  undecided_keys : (zhashx_keys (undecided s.main s.running_targets)).Nodup
  unmarked : ∀ item ∈ undecided s.main s.running_targets,
    item ∈ s.running_targets ∧ item.2.freefn = false
  owned : ∀ i, owners s i = if i < s.created.length then 1 else 0

theorem flagged_of_unflagged {items : zhashx running_item}
    (h : ∀ item ∈ items, item.2.freefn = false) : flagged items = [] := by
  rw [flagged, List.map_eq_nil_iff, List.filter_eq_nil_iff]
  intro item hitem
  simp [h item hitem]

theorem freefn_of_not_mem {items : zhashx running_item} {key : String}
    (h : key ∉ zhashx_keys items) : zhashx_freefn items key = items := by
  rw [zhashx_freefn]
  conv => rhs; rw [← List.map_id items]
  refine List.map_congr_left fun item hitem => ?_
  have hne : item.1 ≠ key := fun heq => h (heq ▸ List.mem_map_of_mem hitem)
  simp [hne]

theorem keys_freefn (items : zhashx running_item) (key : String) :
    zhashx_keys (zhashx_freefn items key) = zhashx_keys items := by
  simp [zhashx_keys, zhashx_freefn]

-- Attaching the free function adds the target of the key.
theorem count_flagged_freefn {items : zhashx running_item} {path : String}
    {item : running_item} (hkeys : (zhashx_keys items).Nodup) (hmem : (path, item) ∈ items)
    (hflag : item.freefn = false) (i : Nat) :
    (flagged (zhashx_freefn items path)).count i =
      (flagged items).count i + if item.target = i then 1 else 0 := by
  induction items with
  | nil => simp at hmem
  | cons first items ih =>
      have hcons : first.1 ∉ zhashx_keys items ∧ (zhashx_keys items).Nodup :=
        List.nodup_cons.mp hkeys
      rcases List.mem_cons.mp hmem with rfl | hmem
      · have hrest := freefn_of_not_mem hcons.1
        have hfreefn : zhashx_freefn ((path, item) :: items) path =
            (path, { item with freefn := true }) :: items := by
          rw [zhashx_freefn, List.map_cons, if_pos rfl]
          exact congrArg _ hrest
        rw [hfreefn]
        simp [flagged, hflag, List.count_cons]
      · have hne : first.1 ≠ path := by
          rintro rfl
          exact hcons.1 (List.mem_map.mpr ⟨_, hmem, rfl⟩)
        have hfreefn : zhashx_freefn (first :: items) path = first :: zhashx_freefn items path := by
          rw [zhashx_freefn, List.map_cons, if_neg hne]
          rfl
        have hih := ih hcons.2 hmem
        simp only [flagged] at hih
        rw [hfreefn]
        cases hfirst : first.2.freefn with
        | false => simpa [flagged, hfirst] using hih
        | true =>
            simp only [flagged, List.filter_cons, hfirst, if_true, List.map_cons, List.count_cons,
              hih]
            omega

theorem mem_freefn_of_ne {items : zhashx running_item} {path : String}
    {item : String × running_item} (hmem : item ∈ items) (hne : item.1 ≠ path) :
    item ∈ zhashx_freefn items path := by
  refine List.mem_map.mpr ⟨item, hmem, ?_⟩
  simp [hne]

theorem states_modify (monitors : List monitor) (actor : Nat) :
    states (monitors.modify actor fun m => { m with term := true }) = states monitors := by
  refine List.ext_getElem? fun i => ?_
  simp only [states, List.getElem?_map, List.getElem?_modify, Option.map_eq_map, Option.map_map]
  split <;> rfl

theorem split_start {hash : String → Nat} {limit : Nat} (hlimit : 0 < limit) :
    Split hash (process.start limit) := by
  refine ⟨⟨by simpa [process.start] using hlimit, ?_, ?_⟩, List.nodup_nil, List.nodup_nil, ?_, ?_⟩
  · intro i hi entry hentry
    simp [process.start] at hentry
  · simp [process.start, Table.keys, Table.entries]
  · simp [process.start, undecided]
  · intro i
    rfl

-- `main` goes on, and leaves the actors alone.
theorem Split.frame {hash : String → Nat} {s s' : process} (h : Split hash s)
    (hactors : s'.actors.buckets = s.actors.buckets) (hcreated : s'.created = s.created)
    (hkeys : (zhashx_keys s'.running_targets).Nodup)
    (hundecided : (zhashx_keys (undecided s'.main s'.running_targets)).Nodup)
    (hunmarked : ∀ item ∈ undecided s'.main s'.running_targets,
      item ∈ s'.running_targets ∧ item.2.freefn = false)
    (hstates : states s'.monitors = states s.monitors)
    (howned : ∀ i, (kept s'.main s'.running_targets).count i + (released s'.destroyed).count i =
      (kept s.main s.running_targets).count i + (released s.destroyed).count i) :
    Split hash s' := by
  refine ⟨h.valid.of_buckets hactors, hkeys, hundecided, hunmarked, fun i => ?_⟩
  have hbefore := h.owned i
  have hsame := howned i
  simp only [owners, targets_of, hstates, hcreated] at hbefore ⊢
  omega

-- Outside of the two loops nothing is undecided.
theorem Split.settled {hash : String → Nat} {s s' : process} (h : Split hash s)
    (hactors : s'.actors.buckets = s.actors.buckets) (hcreated : s'.created = s.created)
    (hkeys : (zhashx_keys s'.running_targets).Nodup)
    (hundecided : undecided s'.main s'.running_targets = [])
    (hstates : states s'.monitors = states s.monitors)
    (howned : ∀ i, (kept s'.main s'.running_targets).count i + (released s'.destroyed).count i =
      (kept s.main s.running_targets).count i + (released s.destroyed).count i) :
    Split hash s' :=
  h.frame hactors hcreated hkeys (hundecided ▸ List.nodup_nil) (by simp [hundecided]) hstates
    howned

theorem Split.go_on {hash : String → Nat} {s : process} (h : Split hash s)
    (hkept : kept s.main s.running_targets = unflagged s.running_targets)
    (hundecided : undecided s.main s.running_targets = s.running_targets) :
    Split hash s.go_on := by
  refine h.frame (Table.next_buckets _) rfl h.keys h.keys ?_ rfl fun i => ?_
  · have hunmarked := h.unmarked
    rw [hundecided] at hunmarked
    exact hunmarked
  · rw [hkept]
    rfl

theorem keys_running_items (targets : zhashx Nat) :
    zhashx_keys (running_items targets) = zhashx_keys targets := by
  simp only [zhashx_keys, running_items, List.map_map]
  rfl

theorem unflagged_running_items (targets : zhashx Nat) :
    unflagged (running_items targets) = targets.map Prod.snd := by
  simp only [unflagged, running_items, List.map_map]
  rfl

-- Discovery makes targets that are all in the new table.
theorem split_found {hash : String → Nat} {s : process} (h : Split hash s)
    (hmain : s.main = .checking) {d : discovery} {found : List target}
    (hkeys : (zhashx_keys d.targets).Nodup) (hcreated : d.created = s.created ++ found)
    (hids : (d.targets.map Prod.snd).Perm (List.range' s.created.length found.length)) :
    Split hash (discovered hash s (0, d)) := by
  rw [← keys_running_items] at hkeys
  refine ⟨h.valid.of_buckets (Table.first_buckets s.actors), hkeys, hkeys, ?_, fun i => ?_⟩
  · intro item hitem
    have hmem : item ∈ running_items d.targets := hitem
    obtain ⟨_, -, rfl⟩ := List.mem_map.mp hmem
    exact ⟨hmem, rfl⟩
  · have howned := h.owned i
    rw [owners, hmain] at howned
    have hnodup : (List.range' s.created.length found.length).Nodup := List.nodup_range'
    have hcount : (unflagged (running_items d.targets)).count i =
        if s.created.length ≤ i ∧ i < s.created.length + found.length then 1 else 0 := by
      rw [unflagged_running_items, hids.count_eq, hnodup.count]
      simp only [List.mem_range'_1]
    have howners : owners (discovered hash s (0, d)) i = (targets_of s.monitors).count i +
        (unflagged (running_items d.targets)).count i + (released s.destroyed).count i := rfl
    have hlength : (discovered hash s (0, d)).created.length =
        s.created.length + found.length := by
      rw [← List.length_append, ← hcreated]
      rfl
    have hnone : (kept .checking s.running_targets).count i = 0 := rfl
    rw [howners, hcount, hlength]
    split_ifs at howned ⊢ <;> omega

theorem split_discovered {hash : String → Nat} {order : hash_order} {base_path : String}
    {s : process} (h : Split hash s) (hmain : s.main = .checking) {file_system : Option cgroups}
    (hvalid : ∀ tree, file_system = some tree → tree.Valid) :
    Split hash (discovered hash s (target_discover_running order base_path
      TARGET_TYPE_EVERYTHING file_system ⟨s.created, []⟩)) := by
  cases file_system with
  | none =>
      exact h.settled (Table.first_buckets s.actors) rfl List.nodup_nil rfl rfl fun i => by
        rw [hmain]
        rfl
  | some tree =>
      obtain ⟨found, hkeys, hcreated, hids⟩ := @target_discover_running_perm order
        base_path TARGET_TYPE_EVERYTHING tree (hvalid tree rfl) s.created
      exact split_found h hmain hkeys hcreated hids

theorem split_main {hash : String → Nat} {order : hash_order} {base_path : String}
    {s s' : process} (h : Split hash s) (hstep : MainStep hash order base_path s s') :
    Split hash s' := by
  have hunmarked := h.unmarked
  cases hstep with
  | no_groups hmain hgo => exact h.settled rfl rfl h.keys rfl rfl fun i => by rw [hmain]; rfl
  | discover hmain hgo file_system hvalid => exact split_discovered h hmain hvalid
  | alive hmain htarget => exact h.go_on (by rw [hmain]; rfl) (by rw [hmain]; rfl)
  | @dead path actor actor' hmain htarget hactor =>
      rw [hmain] at hunmarked
      have hsame := freefn_of_not_mem (zhashx_lookup_eq_none_iff.mp htarget)
      rw [hsame]
      refine ⟨Table.valid_delete h.valid path, h.keys, h.keys, hunmarked, fun i => ?_⟩
      have howned := h.owned i
      rw [owners, hmain] at howned
      simp only [owners, targets_of, process.terminate, states_modify]
      exact howned
  | dead_missing hmain htarget hactor =>
      rw [freefn_of_not_mem (zhashx_lookup_eq_none_iff.mp htarget)]
      exact h.go_on (by rw [hmain]; rfl) (by rw [hmain]; rfl)
  | deleted hmain hended => exact h.go_on (by rw [hmain]; rfl) (by rw [hmain]; rfl)
  | stopped hmain =>
      rw [hmain] at hunmarked
      refine h.frame rfl rfl h.keys h.keys hunmarked rfl fun i => ?_
      have hnone := flagged_of_unflagged fun item hitem => (hunmarked item hitem).2
      simp only [undecided] at hnone
      simp only [kept, decided, undecided, hmain, hnone]
  | @new path item remaining hmain hactor =>
      have hkeys := h.undecided_keys
      rw [hmain] at hunmarked hkeys
      refine ⟨Table.valid_insert h.valid path _, h.keys, (List.nodup_cons.mp hkeys).2,
        fun other hother => hunmarked other (List.mem_cons_of_mem _ hother), fun i => ?_⟩
      have howned := h.owned i
      simp only [owners, kept, decided, undecided, hmain, unflagged, targets_of, states,
        List.map_cons, List.map_append, List.map_nil, List.count_append, List.count_cons,
        List.count_nil] at howned ⊢
      omega
  | @kept path item remaining actor hmain hactor =>
      have hkeys := h.undecided_keys
      rw [hmain] at hunmarked hkeys
      obtain ⟨hmem, hflag⟩ := hunmarked _ List.mem_cons_self
      refine h.frame rfl rfl (by simpa only [keys_freefn] using h.keys)
        (List.nodup_cons.mp hkeys).2 (fun other hother => ?_) rfl fun i => ?_
      · obtain ⟨hother_mem, hother_flag⟩ := hunmarked other (List.mem_cons_of_mem _ hother)
        refine ⟨mem_freefn_of_ne hother_mem ?_, hother_flag⟩
        rintro rfl
        exact (List.nodup_cons.mp hkeys).1 (List.mem_map.mpr ⟨_, hother, rfl⟩)
      · have hcount := count_flagged_freefn h.keys hmem hflag i
        simp only [Targets.kept, decided, undecided, hmain, unflagged, List.map_cons,
          List.count_append, List.count_cons, beq_iff_eq, hcount]
        omega
  | started hmain => exact h.settled rfl rfl h.keys rfl rfl fun i => by rw [hmain]; rfl
  | @release path item remaining hmain =>
      refine h.settled rfl rfl h.keys rfl rfl fun i => ?_
      cases hflag : item.freefn with
      | false => simp [kept, decided, undecided, hmain, flagged, hflag]
      | true =>
          simp only [kept, decided, undecided, hmain, flagged, hflag, released, unflagged,
            List.filter_cons, List.filter_append, List.map_cons, List.map_append, List.map_nil,
            List.count_append, List.count_cons, List.count_nil, if_true, decide_true,
            List.filter_nil]
          omega
  | released hmain =>
      exact h.settled rfl rfl List.nodup_nil rfl rfl fun i => by rw [hmain]; rfl
  | tick hmain => exact h.settled rfl rfl h.keys rfl rfl fun i => by rw [hmain]; rfl
  | leave hmain hstop => exact h.settled rfl rfl h.keys rfl rfl fun i => by rw [hmain]; rfl
  | destroy hmain =>
      exact h.settled rfl rfl h.keys rfl (states_modify _ _) fun i => by rw [hmain]; rfl
  | destroyed hmain hended =>
      exact h.settled rfl rfl h.keys rfl rfl fun i => by rw [hmain]; rfl
  | finish hmain => exact h.settled rfl rfl h.keys rfl rfl fun i => by rw [hmain]; rfl

def Gone (phase : monitor_phase) : Prop :=
  phase = .config_destroyed ∨ phase = .ended

-- An actor keeps its target, and is rid of it in one step.
theorem monitor_step_gone {interrupted destroys : Bool} {m m' : monitor}
    (hstep : MonitorStep interrupted m destroys m') :
    m'.target = m.target ∧ m.phase ≠ .ended ∧ (Gone m'.phase ↔ Gone m.phase ∨ destroys = true) ∧
      (destroys = true → ¬Gone m.phase) := by
  cases hstep with
  | resolved hphase => simp [Gone, hphase]
  | unresolved hphase => simp [Gone, hphase]
  | initialized hphase => simp [Gone, hphase]
  | not_initialized hphase => simp [Gone, hphase]
  | handle_ticker hphase => simp [Gone, hphase]
  | handle_pipe hphase hterm => simp [Gone, hphase]
  | terminated hphase hstop => simp [Gone, hphase]
  | perf_config_destroy hphase => simp [Gone, hphase]
  | perf_context_destroy hphase => simp [Gone, hphase]

theorem states_set (monitors : List monitor) (actor : Nat) (m : monitor) :
    states (monitors.set actor m) = (states monitors).set actor (m.target, m.phase) :=
  List.map_set

theorem states_getElem? {monitors : List monitor} {actor : Nat} {m : monitor}
    (hmonitor : monitors[actor]? = some m) :
    (states monitors)[actor]? = some (m.target, m.phase) := by
  rw [states, List.getElem?_map, hmonitor]
  rfl

-- An actor that goes on keeps the targets where they are.
theorem targets_of_set {monitors : List monitor} {actor : Nat} {m m' : monitor}
    (hmonitor : monitors[actor]? = some m) (htarget : m'.target = m.target) :
    targets_of (monitors.set actor m') = targets_of monitors := by
  have hstate : (targets_of monitors)[actor]? = some m.target := by
    rw [targets_of, List.getElem?_map, states_getElem? hmonitor]
    rfl
  rw [targets_of, states_set, List.map_set, htarget]
  obtain ⟨hlt, hget⟩ := List.getElem?_eq_some_iff.mp hstate
  rw [← hget]
  exact List.set_getElem_self hlt

theorem released_append_monitor (destroyed : List (Nat × owner)) (i actor : Nat)
    (destroys : Bool) :
    released (destroyed ++ if destroys then [(i, owner.monitor actor)] else []) =
      released destroyed := by
  cases destroys <;> simp [released]

theorem split_step {hash : String → Nat} {order : hash_order} {base_path : String}
    {s s' : process} {label : party} (h : Split hash s)
    (hstep : ProcessStep hash order base_path s label s') : Split hash s' := by
  cases hstep with
  | main hstep => exact split_main h hstep
  | @monitor actor m m' destroys hmonitor hstep =>
      refine ⟨h.valid, h.keys, h.undecided_keys, h.unmarked, fun i => ?_⟩
      simp only [owners, targets_of_set hmonitor (monitor_step_gone hstep).1,
        released_append_monitor]
      exact h.owned i
  | grow actors hvalid hperm =>
      exact ⟨hvalid, h.keys, h.undecided_keys, h.unmarked, h.owned⟩
  | interrupt => exact ⟨h.valid, h.keys, h.undecided_keys, h.unmarked, h.owned⟩

-- No two actors have the same target.
theorem Split.actor_eq {hash : String → Nat} {s : process} (h : Split hash s)
    {actor actor' i : Nat} {phase phase' : monitor_phase}
    (hstate : (states s.monitors)[actor]? = some (i, phase))
    (hstate' : (states s.monitors)[actor']? = some (i, phase')) : actor = actor' := by
  have hnodup : (targets_of s.monitors).Nodup := by
    refine List.nodup_iff_count_le_one.mpr fun i => ?_
    have howned := h.owned i
    rw [owners] at howned
    split_ifs at howned <;> omega
  have htarget : ∀ {actor : Nat} {phase : monitor_phase},
      (states s.monitors)[actor]? = some (i, phase) → (targets_of s.monitors)[actor]? = some i := by
    intro actor phase hstate
    rw [targets_of, List.getElem?_map, hstate]
    rfl
  have hbound := (List.getElem?_eq_some_iff.mp (htarget hstate)).1
  exact (List.getElem?_inj hbound hnodup).mp ((htarget hstate).trans (htarget hstate').symm)

-- Owned by an actor, by the table or by nobody any more: never two of these.
theorem Split.disjoint {hash : String → Nat} {s : process} (h : Split hash s) (i : Nat) :
    (i ∈ targets_of s.monitors → i ∉ kept s.main s.running_targets ∧ i ∉ released s.destroyed) ∧
      (i ∈ kept s.main s.running_targets → i ∉ released s.destroyed) := by
  have howned := h.owned i
  rw [owners] at howned
  simp only [← List.count_pos_iff]
  split_ifs at howned <;> omega

-- What the history tells about owners.
structure Logged (hash : String → Nat) (s : process) : Prop where
  length_eq : s.monitored.length = s.created.length
  undecided_monitored : ∀ item ∈ undecided s.main s.running_targets,
    s.monitored[item.2.target]? = some (s.actors.lookup hash item.1).isSome
  decided_monitored : ∀ i ∈ decided s.main s.running_targets, s.monitored[i]? = some true
  actor_monitored : ∀ i ∈ targets_of s.monitors, s.monitored[i]? = some false
  released_monitored : ∀ i ∈ released s.destroyed, s.monitored[i]? = some true
  nodup : (s.destroyed.map Prod.fst).Nodup
  by_monitor : ∀ (i actor : Nat), (i, owner.monitor actor) ∈ s.destroyed →
    ∃ phase, (states s.monitors)[actor]? = some (i, phase) ∧ Gone phase
  gone : ∀ (i actor : Nat) (phase : monitor_phase),
    (states s.monitors)[actor]? = some (i, phase) → Gone phase →
    (i, owner.monitor actor) ∈ s.destroyed

theorem mem_targets_of {monitors : List monitor} {actor i : Nat} {phase : monitor_phase}
    (hstate : (states monitors)[actor]? = some (i, phase)) : i ∈ targets_of monitors :=
  List.mem_map.mpr ⟨_, List.mem_of_getElem? hstate, rfl⟩

theorem mem_released {destroyed : List (Nat × owner)} {i : Nat} :
    i ∈ released destroyed ↔ (i, owner.running_targets) ∈ destroyed := by
  simp [released]

-- What the table or a running actor owns has not been destroyed.
theorem Logged.kept_not_destroyed {hash : String → Nat} {s : process} (hlogged : Logged hash s)
    (h : Split hash s) {i : Nat} (hkept : i ∈ kept s.main s.running_targets) :
    i ∉ s.destroyed.map Prod.fst := by
  intro hmem
  obtain ⟨⟨_, by_whom⟩, hentry, rfl⟩ := List.mem_map.mp hmem
  cases by_whom with
  | running_targets => exact (h.disjoint _).2 hkept (mem_released.mpr hentry)
  | monitor actor =>
      obtain ⟨phase, hstate, -⟩ := hlogged.by_monitor _ _ hentry
      exact ((h.disjoint _).1 (mem_targets_of hstate)).1 hkept

theorem Logged.running_not_destroyed {hash : String → Nat} {s : process}
    (hlogged : Logged hash s) (h : Split hash s) {i actor : Nat} {phase : monitor_phase}
    (hstate : (states s.monitors)[actor]? = some (i, phase)) (hrunning : ¬Gone phase) :
    i ∉ s.destroyed.map Prod.fst := by
  intro hmem
  obtain ⟨⟨_, by_whom⟩, hentry, rfl⟩ := List.mem_map.mp hmem
  cases by_whom with
  | running_targets =>
      exact ((h.disjoint _).1 (mem_targets_of hstate)).2 (mem_released.mpr hentry)
  | monitor other =>
      obtain ⟨phase', hstate', hgone⟩ := hlogged.by_monitor _ _ hentry
      obtain rfl := h.actor_eq hstate hstate'
      obtain rfl := (Prod.mk.inj (Option.some.inj (hstate.symm.trans hstate'))).2
      exact hrunning hgone

theorem logged_start {hash : String → Nat} (limit : Nat) : Logged hash (process.start limit) := by
  refine ⟨rfl, ?_, ?_, ?_, ?_, List.nodup_nil, ?_, ?_⟩ <;>
    simp [process.start, undecided, decided, targets_of, states, released]

-- `main` goes on, and destroys nothing.
theorem Logged.frame {hash : String → Nat} {s s' : process} (h : Logged hash s)
    (hcreated : s'.created = s.created) (hmonitored : s'.monitored = s.monitored)
    (hstates : states s'.monitors = states s.monitors) (hdestroyed : s'.destroyed = s.destroyed)
    (hundecided : ∀ item ∈ undecided s'.main s'.running_targets,
      s.monitored[item.2.target]? = some (s'.actors.lookup hash item.1).isSome)
    (hdecided : ∀ i ∈ decided s'.main s'.running_targets, s.monitored[i]? = some true) :
    Logged hash s' := by
  refine ⟨?_, ?_, ?_, ?_, ?_, ?_, ?_, ?_⟩
  · rw [hmonitored, hcreated]
    exact h.length_eq
  · rw [hmonitored]
    exact hundecided
  · rw [hmonitored]
    exact hdecided
  · rw [hmonitored, targets_of, hstates]
    exact h.actor_monitored
  · rw [hmonitored, hdestroyed]
    exact h.released_monitored
  · rw [hdestroyed]
    exact h.nodup
  · rw [hdestroyed, hstates]
    exact h.by_monitor
  · rw [hdestroyed, hstates]
    exact h.gone

theorem Logged.go_on {hash : String → Nat} {s : process} (h : Logged hash s)
    (hundecided : undecided s.main s.running_targets = s.running_targets) :
    Logged hash s.go_on := by
  refine h.frame rfl rfl rfl rfl (fun item hitem => ?_) nofun
  have hlookup : s.go_on.actors.lookup hash item.1 = s.actors.lookup hash item.1 :=
    Table.lookup_of_buckets (Table.next_buckets s.actors) _
  have hmem : item ∈ s.running_targets := hitem
  rw [← hundecided] at hmem
  rw [hlookup]
  exact h.undecided_monitored item hmem

-- Other keys are looked up as before.
theorem lookup_delete_isSome {hash : String → Nat} {t : Table String Nat} (h : t.Valid hash)
    {key other : String} (hne : other ≠ key) :
    ((t.delete hash key).lookup hash other).isSome = (t.lookup hash other).isSome := by
  cases hlookup : t.lookup hash key with
  | none => simp only [Table.delete, hlookup]
  | some value =>
      have hkeys := ((Table.entries_delete h hlookup).map Prod.fst).mem_iff (a := other)
      rw [Bool.eq_iff_iff, Table.lookup_isSome_iff (Table.valid_delete h key),
        Table.lookup_isSome_iff h]
      simpa [Table.keys, hne] using hkeys

theorem lookup_insert_isSome {hash : String → Nat} {t : Table String Nat} (h : t.Valid hash)
    {key other : String} (hlookup : t.lookup hash key = none) (value : Nat) (hne : other ≠ key) :
    ((t.insert hash key value).lookup hash other).isSome = (t.lookup hash other).isSome := by
  have hkeys := (Table.keys_insert h ((Table.lookup_eq_none_iff h).mp hlookup) value).mem_iff
    (a := other)
  rw [Bool.eq_iff_iff, Table.lookup_isSome_iff (Table.valid_insert h key value),
    Table.lookup_isSome_iff h, hkeys]
  simp [hne]

theorem logged_found {hash : String → Nat} {s : process} (h : Logged hash s)
    {d : discovery} {found : List target} (hcreated : d.created = s.created ++ found)
    (hids : (d.targets.map Prod.snd).Perm (List.range' s.created.length found.length))
    (hpaths : ∀ entry ∈ d.targets, ∃ t, d.created[entry.2]? = some t ∧
      t.cgroup_path = some entry.1) :
    Logged hash (discovered hash s (0, d)) := by
  have hfound : (discovered hash s (0, d)).monitored =
      s.monitored ++ found.map (is_monitored hash s.actors) := by
    simp [discovered, hcreated]
  have hold : ∀ {i : Nat} {b : Bool}, s.monitored[i]? = some b →
      (discovered hash s (0, d)).monitored[i]? = some b := by
    intro i b hi
    rw [hfound, List.getElem?_append_left (List.getElem?_eq_some_iff.mp hi).1]
    exact hi
  refine ⟨?_, ?_, nofun, fun i hi => hold (h.actor_monitored i hi),
    fun i hi => hold (h.released_monitored i hi), h.nodup, h.by_monitor, h.gone⟩
  · rw [hfound, List.length_append, List.length_map, h.length_eq, ← List.length_append, ← hcreated]
    rfl
  · intro item hitem
    have hmem : item ∈ running_items d.targets := hitem
    obtain ⟨entry, hentry, rfl⟩ := List.mem_map.mp hmem
    obtain ⟨t, ht, hpath⟩ := hpaths entry hentry
    obtain ⟨hge, -⟩ := List.mem_range'_1.mp (hids.subset (List.mem_map_of_mem hentry))
    rw [hcreated, List.getElem?_append_right hge] at ht
    rw [hfound, List.getElem?_append_right (h.length_eq ▸ hge), h.length_eq, List.getElem?_map, ht]
    have hlookup : (discovered hash s (0, d)).actors.lookup hash entry.1 =
        s.actors.lookup hash entry.1 := Table.lookup_of_buckets (Table.first_buckets s.actors) _
    rw [hlookup]
    simp [is_monitored, hpath]

theorem logged_discovered {hash : String → Nat} {order : hash_order} {base_path : String}
    {s : process} (h : Logged hash s) {file_system : Option cgroups}
    (hvalid : ∀ tree, file_system = some tree → tree.Valid) :
    Logged hash (discovered hash s (target_discover_running order base_path
      TARGET_TYPE_EVERYTHING file_system ⟨s.created, []⟩)) := by
  cases file_system with
  | none =>
      refine h.frame rfl ?_ rfl rfl nofun nofun
      simp [discovered, target_discover_running]
  | some tree =>
      obtain ⟨found, -, hcreated, hids⟩ := @target_discover_running_perm order
        base_path TARGET_TYPE_EVERYTHING tree (hvalid tree rfl) s.created
      refine logged_found h hcreated hids fun entry hentry => ?_
      obtain ⟨node, -, -, hpath, hnode⟩ :=
        (target_discover_running_found tree s.created).sound entry hentry
      exact ⟨_, hnode, congrArg some hpath⟩

-- A new actor has been given a target of an unmonitored cgroup.
theorem logged_new {hash : String → Nat} {s : process} (h : Logged hash s) (hsplit : Split hash s)
    {path : String} {item : running_item} {remaining : zhashx running_item}
    (hmain : s.main = .starting ((path, item) :: remaining))
    (hactor : s.actors.lookup hash path = none) :
    Logged hash { s with
      main := .starting remaining
      container_monitoring_actors := s.actors.insert hash path s.monitors.length
      monitors := s.monitors ++ [⟨item.target, .resolving, false⟩] } := by
  have hundecided := h.undecided_monitored
  have hdecided := h.decided_monitored
  have hkeys := hsplit.undecided_keys
  rw [hmain] at hundecided hdecided hkeys
  have hstates : states (s.monitors ++ [⟨item.target, .resolving, false⟩]) =
      states s.monitors ++ [(item.target, .resolving)] := List.map_append
  refine ⟨h.length_eq, fun other hother => ?_, hdecided, fun i hi => ?_, h.released_monitored,
    h.nodup, fun i actor hentry => ?_, fun i actor phase hstate hgone => ?_⟩
  · have hne : other.1 ≠ path := by
      rintro rfl
      exact (List.nodup_cons.mp hkeys).1 (List.mem_map.mpr ⟨_, hother, rfl⟩)
    rw [hundecided other (List.mem_cons_of_mem _ hother)]
    exact congrArg some (lookup_insert_isSome hsplit.valid hactor _ hne).symm
  · rw [targets_of, hstates, List.map_append] at hi
    rcases List.mem_append.mp hi with hold | hnew
    · exact h.actor_monitored i hold
    · obtain rfl := List.mem_singleton.mp hnew
      exact (hundecided _ List.mem_cons_self).trans (by rw [hactor, Option.isSome_none])
  · obtain ⟨phase, hstate, hgone⟩ := h.by_monitor i actor hentry
    refine ⟨phase, ?_, hgone⟩
    rw [hstates, List.getElem?_append_left (List.getElem?_eq_some_iff.mp hstate).1]
    exact hstate
  · rw [hstates] at hstate
    by_cases hlt : actor < (states s.monitors).length
    · rw [List.getElem?_append_left hlt] at hstate
      exact h.gone i actor phase hstate hgone
    · rw [List.getElem?_append_right (Nat.le_of_not_lt hlt)] at hstate
      obtain ⟨-, hlast⟩ := Prod.mk.inj (List.mem_singleton.mp (List.mem_of_getElem? hstate))
      exact absurd hgone (by simp [Gone, hlast])

theorem nodup_append_entry {destroyed : List (Nat × owner)} {i : Nat} {by_whom : owner}
    (hnodup : (destroyed.map Prod.fst).Nodup) (hnot : i ∉ destroyed.map Prod.fst) :
    ((destroyed ++ [(i, by_whom)]).map Prod.fst).Nodup := by
  rw [List.map_append]
  exact List.nodup_append_comm.mp (List.nodup_cons.mpr ⟨hnot, hnodup⟩)

theorem logged_release {hash : String → Nat} {s : process} (h : Logged hash s)
    (hsplit : Split hash s) {path : String} {item : running_item}
    {remaining : zhashx running_item} (hmain : s.main = .releasing ((path, item) :: remaining)) :
    Logged hash { s with
      main := .releasing remaining
      destroyed := s.destroyed ++
        if item.freefn then [(item.target, owner.running_targets)] else [] } := by
  have hdecided := h.decided_monitored
  rw [hmain] at hdecided
  cases hflag : item.freefn with
  | false =>
      have hsame : flagged ((path, item) :: remaining) = flagged remaining := by
        simp [flagged, hflag]
      refine h.frame rfl rfl rfl (List.append_nil _) nofun fun i hi => hdecided i ?_
      rw [decided, hsame]
      exact hi
  | true =>
      have hcons : flagged ((path, item) :: remaining) = item.target :: flagged remaining := by
        simp [flagged, hflag]
      rw [decided, hcons] at hdecided
      have hkept : item.target ∈ kept s.main s.running_targets := by
        rw [hmain, kept, decided, hcons]
        exact List.mem_append_left _ List.mem_cons_self
      refine ⟨h.length_eq, nofun, fun i hi => hdecided i (List.mem_cons_of_mem _ hi),
        h.actor_monitored, fun i hi => ?_,
        nodup_append_entry h.nodup (h.kept_not_destroyed hsplit hkept), fun i actor hentry => ?_,
        fun i actor phase hstate hgone =>
          List.mem_append_left _ (h.gone i actor phase hstate hgone)⟩
      · rcases List.mem_append.mp (mem_released.mp hi) with hold | hnew
        · exact h.released_monitored i (mem_released.mpr hold)
        · obtain ⟨rfl, -⟩ := Prod.mk.inj (List.mem_singleton.mp hnew)
          exact hdecided _ List.mem_cons_self
      · rcases List.mem_append.mp hentry with hold | hnew
        · exact h.by_monitor i actor hold
        · exact absurd (List.mem_singleton.mp hnew) (by simp)

theorem logged_main {hash : String → Nat} {order : hash_order} {base_path : String}
    {s s' : process} (h : Logged hash s) (hsplit : Split hash s)
    (hstep : MainStep hash order base_path s s') : Logged hash s' := by
  have hundecided := h.undecided_monitored
  have hdecided := h.decided_monitored
  cases hstep with
  | no_groups hmain hgo => exact h.frame rfl rfl rfl rfl nofun nofun
  | discover hmain hgo file_system hvalid => exact logged_discovered h hvalid
  | alive hmain htarget => exact h.go_on (by rw [hmain]; rfl)
  | @dead path actor actor' hmain htarget hactor =>
      rw [hmain] at hundecided
      have hmissing := zhashx_lookup_eq_none_iff.mp htarget
      rw [freefn_of_not_mem hmissing]
      refine h.frame rfl rfl (states_modify _ _) rfl (fun item hitem => ?_) nofun
      have hne : item.1 ≠ path := fun heq => hmissing (heq ▸ List.mem_map_of_mem hitem)
      rw [hundecided item hitem]
      exact congrArg some (lookup_delete_isSome hsplit.valid hne).symm
  | dead_missing hmain htarget hactor =>
      rw [freefn_of_not_mem (zhashx_lookup_eq_none_iff.mp htarget)]
      exact h.go_on (by rw [hmain]; rfl)
  | deleted hmain hended => exact h.go_on (by rw [hmain]; rfl)
  | stopped hmain =>
      have hunmarked := hsplit.unmarked
      rw [hmain] at hundecided hunmarked
      refine h.frame rfl rfl rfl rfl hundecided ?_
      have hnone : flagged s.running_targets = [] :=
        flagged_of_unflagged fun item hitem => (hunmarked item hitem).2
      intro i hi
      have hmem : i ∈ flagged s.running_targets := hi
      rw [hnone] at hmem
      exact absurd hmem List.not_mem_nil
  | @new path item remaining hmain hactor =>
      exact logged_new h hsplit hmain hactor
  | @kept path item remaining actor hmain hactor =>
      have hunmarked := hsplit.unmarked
      rw [hmain] at hundecided hdecided hunmarked
      obtain ⟨hmem, hflag⟩ := hunmarked _ List.mem_cons_self
      refine h.frame rfl rfl rfl rfl (fun other hother =>
        hundecided other (List.mem_cons_of_mem _ hother)) fun i hi => ?_
      have hcount := count_flagged_freefn hsplit.keys hmem hflag i
      have hpos : 0 < (flagged (zhashx_freefn s.running_targets path)).count i :=
        List.count_pos_iff.mpr hi
      by_cases heq : item.target = i
      · rw [← heq, hundecided _ List.mem_cons_self, hactor, Option.isSome_some]
      · rw [if_neg heq, Nat.add_zero] at hcount
        exact hdecided i (List.count_pos_iff.mp (hcount ▸ hpos))
  | started hmain =>
      rw [hmain] at hdecided
      exact h.frame rfl rfl rfl rfl nofun hdecided
  | @release path item remaining hmain => exact logged_release h hsplit hmain
  | released hmain => exact h.frame rfl rfl rfl rfl nofun nofun
  | tick hmain => exact h.frame rfl rfl rfl rfl nofun nofun
  | leave hmain hstop => exact h.frame rfl rfl rfl rfl nofun nofun
  | destroy hmain => exact h.frame rfl rfl (states_modify _ _) rfl nofun nofun
  | destroyed hmain hended => exact h.frame rfl rfl rfl rfl nofun nofun
  | finish hmain => exact h.frame rfl rfl rfl rfl nofun nofun

theorem logged_monitor {hash : String → Nat} {s : process} (h : Logged hash s)
    (hsplit : Split hash s) {actor : Nat} {m m' : monitor} {destroys : Bool}
    (hmonitor : s.monitors[actor]? = some m)
    (hstep : MonitorStep s.interrupted m destroys m') :
    Logged hash { s with
      monitors := s.monitors.set actor m'
      destroyed := s.destroyed ++
        if destroys then [(m.target, owner.monitor actor)] else [] } := by
  obtain ⟨htarget, -, hgone_iff, hfresh⟩ := monitor_step_gone hstep
  have hstate := states_getElem? hmonitor
  have hlt := (List.getElem?_eq_some_iff.mp hstate).1
  have hself : (states (s.monitors.set actor m'))[actor]? = some (m.target, m'.phase) := by
    rw [states_set, List.getElem?_set_self hlt, htarget]
  have hother : ∀ other, actor ≠ other →
      (states (s.monitors.set actor m'))[other]? = (states s.monitors)[other]? := by
    intro other hne
    rw [states_set, List.getElem?_set_ne hne]
  refine ⟨h.length_eq, h.undecided_monitored, h.decided_monitored, ?_, ?_, ?_, ?_, ?_⟩
  · rw [targets_of_set hmonitor htarget]
    exact h.actor_monitored
  · rw [released_append_monitor]
    exact h.released_monitored
  · cases destroys with
    | false => simpa using h.nodup
    | true => exact nodup_append_entry h.nodup (h.running_not_destroyed hsplit hstate (hfresh rfl))
  · intro i other hentry
    rcases List.mem_append.mp hentry with hold | hnew
    · obtain ⟨phase, hbefore, hgone⟩ := h.by_monitor i other hold
      by_cases hne : actor = other
      · subst hne
        obtain ⟨rfl, rfl⟩ := Prod.mk.inj (Option.some.inj (hstate.symm.trans hbefore))
        exact ⟨m'.phase, hself, hgone_iff.mpr (Or.inl hgone)⟩
      · exact ⟨phase, (hother other hne).trans hbefore, hgone⟩
    · cases destroys with
      | false => exact absurd hnew List.not_mem_nil
      | true =>
          obtain ⟨rfl, hactor⟩ := Prod.mk.inj (List.mem_singleton.mp hnew)
          obtain rfl := owner.monitor.inj hactor
          exact ⟨m'.phase, hself, hgone_iff.mpr (Or.inr rfl)⟩
  · intro i other phase hstate' hgone
    by_cases hne : actor = other
    · subst hne
      obtain ⟨rfl, rfl⟩ := Prod.mk.inj (Option.some.inj (hself.symm.trans hstate'))
      rcases hgone_iff.mp hgone with hbefore | rfl
      · exact List.mem_append_left _ (h.gone _ actor _ hstate hbefore)
      · exact List.mem_append_right _ List.mem_cons_self
    · rw [hother other hne] at hstate'
      exact List.mem_append_left _ (h.gone i other phase hstate' hgone)

theorem logged_step {hash : String → Nat} {order : hash_order} {base_path : String}
    {s s' : process} {label : party} (h : Logged hash s) (hsplit : Split hash s)
    (hstep : ProcessStep hash order base_path s label s') : Logged hash s' := by
  cases hstep with
  | main hstep => exact logged_main h hsplit hstep
  | @monitor actor m m' destroys hmonitor hstep =>
      exact logged_monitor h hsplit hmonitor hstep
  | grow actors hvalid hperm =>
      refine h.frame rfl rfl rfl rfl (fun item hitem => ?_) h.decided_monitored
      have hkeys := (hperm.map Prod.fst).mem_iff (a := item.1)
      rw [h.undecided_monitored item hitem]
      congr 1
      rw [Bool.eq_iff_iff, Table.lookup_isSome_iff hsplit.valid, Table.lookup_isSome_iff hvalid]
      exact hkeys.symm
  | interrupt => exact h.frame rfl rfl rfl rfl h.undecided_monitored h.decided_monitored

-- The actors that `main` has yet to wait for.
def awaited (main : main_phase) (actors : Table String Nat) : List Nat :=
  match main with
  | .waiting actor => actor :: actors.entries.map Prod.snd
  | .destroying remaining => remaining.map Prod.snd
  | .waiting_last actor remaining => actor :: remaining.map Prod.snd
  | .checking | .stopping _ | .starting _ | .releasing _ | .ticking =>
      actors.entries.map Prod.snd
  | .done => []

-- Every other actor has ended.
def Awaited (s : process) : Prop :=
  ∀ (i actor : Nat) (phase : monitor_phase), (states s.monitors)[actor]? = some (i, phase) →
    phase = .ended ∨ actor ∈ awaited s.main s.actors

theorem Awaited.frame {s s' : process} (h : Awaited s)
    (hstates : states s'.monitors = states s.monitors)
    (hawaited : ∀ actor ∈ awaited s.main s.actors, actor ∈ awaited s'.main s'.actors) :
    Awaited s' := by
  intro i actor phase hstate
  rw [hstates] at hstate
  exact (h i actor phase hstate).imp_right (hawaited actor)

-- `main` has seen the end of the actor that it waits for.
theorem Awaited.ended {s s' : process} (h : Awaited s) {ended : Nat} (hended : s.Ended ended)
    (hstates : states s'.monitors = states s.monitors)
    (hawaited : ∀ actor ∈ awaited s.main s.actors, actor ≠ ended →
      actor ∈ awaited s'.main s'.actors) : Awaited s' := by
  intro i actor phase hstate
  rw [hstates] at hstate
  obtain ⟨m, hmonitor, hphase⟩ := hended
  by_cases heq : actor = ended
  · subst heq
    obtain ⟨-, rfl⟩ := Prod.mk.inj (Option.some.inj
      ((states_getElem? hmonitor).symm.trans hstate))
    exact Or.inl hphase
  · exact (h i actor phase hstate).imp_right fun hmem => hawaited actor hmem heq

theorem entries_of_buckets {t t' : Table String Nat} (hbuckets : t'.buckets = t.buckets) :
    t'.entries = t.entries := by
  rw [Table.entries, Table.entries, hbuckets]

theorem awaited_go_on {s : process} {actor : Nat} (h : actor ∈ s.actors.entries.map Prod.snd) :
    actor ∈ awaited s.go_on.main s.go_on.actors := by
  rw [← entries_of_buckets (Table.next_buckets s.actors)] at h
  exact h

theorem awaited_main {hash : String → Nat} {order : hash_order} {base_path : String}
    {s s' : process} (h : Awaited s) (hsplit : Split hash s)
    (hstep : MainStep hash order base_path s s') : Awaited s' := by
  cases hstep with
  | no_groups hmain hgo => exact h.frame rfl fun actor hactor => by rwa [hmain] at hactor
  | discover hmain hgo file_system hvalid =>
      have hfirst := entries_of_buckets (Table.first_buckets s.actors)
      refine h.frame rfl fun actor hactor => ?_
      rw [hmain] at hactor
      have hmem : actor ∈ s.actors.first.2.entries.map Prod.snd := by
        rw [hfirst]
        exact hactor
      unfold discovered
      split_ifs <;> exact hmem
  | alive hmain htarget =>
      refine h.frame rfl fun actor hactor => ?_
      rw [hmain] at hactor
      exact awaited_go_on hactor
  | @dead path actor actor' hmain htarget hactor =>
      have hperm := (Table.entries_delete hsplit.valid hactor).map Prod.snd
      refine h.frame (states_modify _ _) fun other hother => ?_
      rw [hmain] at hother
      exact hperm.symm.subset hother
  | dead_missing hmain htarget hactor =>
      refine h.frame rfl fun actor hactor => ?_
      rw [hmain] at hactor
      exact awaited_go_on hactor
  | deleted hmain hended =>
      refine h.ended hended rfl fun actor hactor hne => ?_
      rw [hmain] at hactor
      exact awaited_go_on (List.mem_of_ne_of_mem hne hactor)
  | stopped hmain => exact h.frame rfl fun actor hactor => by rwa [hmain] at hactor
  | @new path item remaining hmain hactor =>
      intro i actor phase hstate
      have hstates : states (s.monitors ++ [⟨item.target, .resolving, false⟩]) =
          states s.monitors ++ [(item.target, .resolving)] := List.map_append
      have hperm := (Table.entries_insert hsplit.valid
        ((Table.lookup_eq_none_iff hsplit.valid).mp hactor) s.monitors.length).map Prod.snd
      rw [hstates] at hstate
      by_cases hlt : actor < (states s.monitors).length
      · rw [List.getElem?_append_left hlt] at hstate
        refine (h i actor phase hstate).imp_right fun hmem => ?_
        rw [hmain] at hmem
        exact hperm.symm.subset (List.mem_cons_of_mem _ hmem)
      · have hbound := (List.getElem?_eq_some_iff.mp hstate).1
        rw [List.length_append, List.length_singleton] at hbound
        have hlength : (states s.monitors).length = s.monitors.length := List.length_map _
        obtain rfl : actor = s.monitors.length := by omega
        exact Or.inr (hperm.symm.subset List.mem_cons_self)
  | kept hmain hactor => exact h.frame rfl fun actor hactor => by rwa [hmain] at hactor
  | started hmain => exact h.frame rfl fun actor hactor => by rwa [hmain] at hactor
  | release hmain => exact h.frame rfl fun actor hactor => by rwa [hmain] at hactor
  | released hmain => exact h.frame rfl fun actor hactor => by rwa [hmain] at hactor
  | tick hmain => exact h.frame rfl fun actor hactor => by rwa [hmain] at hactor
  | leave hmain hstop => exact h.frame rfl fun actor hactor => by rwa [hmain] at hactor
  | destroy hmain =>
      exact h.frame (states_modify _ _) fun actor hactor => by rwa [hmain] at hactor
  | destroyed hmain hended =>
      refine h.ended hended rfl fun actor hactor hne => ?_
      rw [hmain] at hactor
      exact List.mem_of_ne_of_mem hne hactor
  | finish hmain => exact h.frame rfl fun actor hactor => by rwa [hmain] at hactor

theorem awaited_perm (main : main_phase) {t t' : Table String Nat}
    (hperm : t'.entries.Perm t.entries) {actor : Nat} (hactor : actor ∈ awaited main t) :
    actor ∈ awaited main t' := by
  have hactors := (hperm.map Prod.snd).symm
  cases main with
  | waiting waited => exact (hactors.cons waited).subset hactor
  | destroying remaining | waiting_last waited remaining | done => exact hactor
  | checking | stopping entry | starting remaining | releasing remaining | ticking =>
      exact hactors.subset hactor

theorem awaited_step {hash : String → Nat} {order : hash_order} {base_path : String}
    {s s' : process} {label : party} (h : Awaited s) (hsplit : Split hash s)
    (hstep : ProcessStep hash order base_path s label s') : Awaited s' := by
  cases hstep with
  | main hstep => exact awaited_main h hsplit hstep
  | @monitor actor m m' destroys hmonitor hstep =>
      obtain ⟨htarget, hrunning, -, -⟩ := monitor_step_gone hstep
      have hstate := states_getElem? hmonitor
      intro i other phase hstate'
      by_cases hne : actor = other
      · subst hne
        exact Or.inr ((h m.target actor m.phase hstate).resolve_left hrunning)
      · have hbefore : (states (s.monitors.set actor m'))[other]? = some (i, phase) := hstate'
        rw [states_set, List.getElem?_set_ne hne] at hbefore
        exact h i other phase hbefore
  | grow actors hvalid hperm => exact h.frame rfl fun _ => awaited_perm s.main hperm
  | interrupt => exact h.frame rfl fun _ hactor => hactor

structure Inv (hash : String → Nat) (s : process) : Prop where
  split : Split hash s
  logged : Logged hash s
  awaited : Awaited s

theorem run_inv {hash : String → Nat} {order : hash_order} {base_path : String} {limit : Nat}
    (hlimit : 0 < limit) {labels : List party} {s : process}
    (hrun : Run (ProcessStep hash order base_path) (process.start limit) labels s) :
    Inv hash s := by
  refine hrun.invariant (Inv hash) ⟨split_start hlimit, logged_start limit, ?_⟩ ?_
  · intro i actor phase hstate
    simp [process.start, states] at hstate
  · intro s label s' h hstep
    exact ⟨split_step h.split hstep, logged_step h.logged h.split hstep,
      awaited_step h.awaited h.split hstep⟩

theorem Inv.never_early {hash : String → Nat} {s : process} (h : Inv hash s) : NeverEarly s := by
  refine ⟨h.logged.nodup, fun m hmem huses => ?_⟩
  obtain ⟨actor, hmonitor⟩ := List.mem_iff_getElem?.mp hmem
  refine h.logged.running_not_destroyed h.split (states_getElem? hmonitor) ?_
  rintro (hphase | hphase) <;> rcases huses with huse | huse | huse <;>
    exact absurd (huse.symm.trans hphase) (by simp)

theorem Inv.destroyed_once {hash : String → Nat} {s : process} (h : Inv hash s)
    (hdone : s.main = .done) : DestroyedOnce s := by
  intro i hi
  have howned := h.split.owned i
  rw [owners, hdone, if_pos hi] at howned
  have hnone : (kept .done s.running_targets).count i = 0 := rfl
  by_cases hreleased : i ∈ released s.destroyed
  · have hentry := mem_released.mp hreleased
    refine ⟨List.count_eq_one_of_mem h.logged.nodup (List.mem_map_of_mem hentry), Or.inl
      ⟨h.logged.released_monitored i hreleased, hentry, fun m hm htarget => ?_⟩⟩
    obtain ⟨actor, hmonitor⟩ := List.mem_iff_getElem?.mp hm
    have hmem : i ∈ targets_of s.monitors := htarget ▸ mem_targets_of (states_getElem? hmonitor)
    exact ((h.split.disjoint i).1 hmem).2 hreleased
  · have hcount : (released s.destroyed).count i = 0 := List.count_eq_zero.mpr hreleased
    have hmem : i ∈ targets_of s.monitors := List.count_pos_iff.mp (by omega)
    obtain ⟨⟨_, phase⟩, hpair, rfl⟩ := List.mem_map.mp hmem
    obtain ⟨actor, hstate⟩ := List.mem_iff_getElem?.mp hpair
    obtain ⟨m, hmonitor, hm⟩ := Option.map_eq_some_iff.mp ((List.getElem?_map ..).symm.trans hstate)
    obtain ⟨rfl, rfl⟩ := Prod.mk.inj hm
    have hended : m.phase = .ended := by
      refine (h.awaited m.target actor m.phase hstate).resolve_right ?_
      rw [hdone]
      exact List.not_mem_nil
    have hentry := h.logged.gone m.target actor m.phase hstate (Or.inr hended)
    refine ⟨List.count_eq_one_of_mem h.logged.nodup (List.mem_map_of_mem hentry), Or.inr
      ⟨h.logged.actor_monitored _ hmem, actor, m, hentry, hmonitor, rfl, ?_⟩⟩
    intro other m' hmonitor' htarget
    have hother := states_getElem? hmonitor'
    rw [htarget] at hother
    exact h.split.actor_eq hother hstate

-- In every run each target has one owner, who destroys it once.
theorem targets_destroyed_once (hash : String → Nat) (order : hash_order) (base_path : String)
    {limit : Nat} (hlimit : 0 < limit) {labels : List party} {s : process}
    (hrun : Run (ProcessStep hash order base_path) (process.start limit) labels s) :
    NeverEarly s ∧ (s.main = .done → DestroyedOnce s) := by
  have h := run_inv hlimit hrun
  exact ⟨h.never_early, h.destroyed_once⟩

-- A cgroup that is discovered twice, and monitored the second time.
def one_cgroup : cgroups :=
  .cgroup "c1" .none .none

def one_target : target :=
  ⟨.UNKNOWN, some "/sys", some "/sys/c1"⟩

theorem one_cgroup_found (created : List target) :
    target_discover_running in_order "/sys" TARGET_TYPE_EVERYTHING (some one_cgroup)
      ⟨created, []⟩ = (0, ⟨created ++ [one_target], [("/sys/c1", created.length)]⟩) := by
  have hread : fts_read "/sys" one_cgroup = [⟨.FTS_D, "/sys", 3⟩, ⟨.FTS_D, "/sys/c1", 2⟩,
      ⟨.FTS_DP, "/sys/c1", 2⟩, ⟨.FTS_DP, "/sys", 3⟩] := by decide +kernel
  have hleaf : Wanted TARGET_TYPE_EVERYTHING ⟨.FTS_D, "/sys/c1", 2⟩ := by decide +kernel
  have hothers : ∀ node ∈ [⟨.FTS_D, "/sys", 3⟩, ⟨.FTS_DP, "/sys/c1", 2⟩, ⟨.FTS_DP, "/sys", 3⟩],
      ¬Wanted TARGET_TYPE_EVERYTHING node := by decide +kernel
  have htarget : discovered_target "/sys" ⟨.FTS_D, "/sys/c1", 2⟩ = one_target := by
    decide +kernel
  simp only [List.forall_mem_cons] at hothers
  obtain ⟨hbase, hbehind, hlast, -⟩ := hothers
  rw [target_discover_running, hread]
  simp only [List.foldl_cons, List.foldl_nil, discover, if_pos hleaf, if_neg hbase,
    if_neg hbehind, if_neg hlast, htarget]
  rfl

theorem one_cgroup_discovered {s : process} (hmain : s.main = .checking)
    (hgo : s.interrupted = false) :
    ProcessStep (fun _ => 0) in_order "/sys" s .main
      { s with
        main := .stopping s.actors.first.1
        created := s.created ++ [one_target]
        running_targets := [("/sys/c1", ⟨s.created.length, false⟩)]
        container_monitoring_actors := s.actors.first.2
        monitored := s.monitored ++ [is_monitored (fun _ => 0) s.actors one_target] } := by
  have hvalid : ∀ tree, some one_cgroup = some tree → tree.Valid := by
    rintro tree ⟨⟩
    simp only [one_cgroup, cgroups.Valid, cgroups.names]
    decide
  have hstep : ProcessStep (fun _ => 0) in_order "/sys" s .main _ :=
    .main (.discover hmain hgo (some one_cgroup) hvalid)
  rw [one_cgroup_found] at hstep
  simpa [discovered, running_items] using hstep

theorem one_cgroup_run :
    ∃ labels s, Run (ProcessStep (fun _ => 0) in_order "/sys") (process.start 1) labels s ∧
      s.main = .done ∧ s.destroyed = [(1, .running_targets), (0, .monitor 0)] := by
  have hdiscovered := Run.single (one_cgroup_discovered (s := process.start 1) rfl rfl)
  have hfirst := hdiscovered.snoc (.main (.stopped rfl))
      |>.snoc (.main (.new rfl (by decide +kernel)))
      |>.snoc (.main (.started rfl))
      |>.snoc (.main (.release rfl))
      |>.snoc (.main (.released rfl))
      |>.snoc (.main (.tick rfl))
  have hsecond := hfirst.snoc (one_cgroup_discovered rfl rfl)
      |>.snoc (.main (.alive rfl rfl))
      |>.snoc (.main (.stopped rfl))
      |>.snoc (.main (.kept rfl (show _ = some 0 by decide +kernel)))
      |>.snoc (.main (.started rfl))
      |>.snoc (.main (.release rfl))
      |>.snoc (.main (.released rfl))
      |>.snoc (.main (.tick rfl))
  have hmonitor := @ProcessStep.monitor (fun _ => 0) in_order "/sys"
  have hshutdown := hsecond.snoc .interrupt
      |>.snoc (.main (.leave rfl rfl))
      |>.snoc (.main (.destroy rfl))
      |>.snoc (@hmonitor _ 0 _ _ _ rfl (.unresolved rfl))
      |>.snoc (@hmonitor _ 0 _ _ _ rfl (.perf_config_destroy rfl))
      |>.snoc (@hmonitor _ 0 _ _ _ rfl (.perf_context_destroy rfl))
      |>.snoc (.main (.destroyed rfl ⟨⟨0, .ended, true⟩, rfl, rfl⟩))
      |>.snoc (.main (.finish rfl))
  exact ⟨_, _, hshutdown, rfl, by decide +kernel⟩

theorem one_cgroup_destroyed_once :
    ∃ labels s, Run (ProcessStep (fun _ => 0) in_order "/sys") (process.start 1) labels s ∧
      s.main = .done ∧ s.destroyed = [(1, .running_targets), (0, .monitor 0)] ∧
      NeverEarly s ∧ DestroyedOnce s := by
  obtain ⟨labels, s, hrun, hdone, hdestroyed⟩ := one_cgroup_run
  have h := targets_destroyed_once (fun _ => 0) in_order "/sys" Nat.one_pos hrun
  exact ⟨labels, s, hrun, hdone, hdestroyed, h.1, h.2 hdone⟩

end HwpcSensor.Sensor.Targets
