import HwpcSensor.Perf.Kernel.Watched

namespace HwpcSensor.Perf

open Interaction Syscall Transition

def cpu_leader (cpu_item : String × perf_group_cpu_context) : List Int :=
  cpu_item.2.perf_fds.take 1

def leaders (ctx : perf_context) : List Int :=
  (context_cpus ctx).flatMap cpu_leader

theorem nodup_leaders {w : wiring} {ctx : perf_context} (h : ContextSound w ctx) :
    (leaders ctx).Nodup := by
  refine h.fds.sublist ?_
  rw [groups_fds_eq]
  exact List.Sublist.flatMap_right _ fun cpu_item _ => List.take_sublist 1 _

section Leads

variable {atomic : Prop} {t t' t'' : kernel}

-- The leaders that were read in between, in order.
def Leads (fds : List Int) (t t' : kernel) : Prop :=
  t'.readings.map reading.leader = t.readings.map reading.leader ++ fds

theorem Still.leads (h : Still t t') : Leads [] t t' := by
  unfold Leads
  rw [h.readings, List.append_nil]

theorem Leads.trans {fds fds' : List Int} (h : Leads fds t t') (h' : Leads fds' t' t'') :
    Leads (fds ++ fds') t t'' := by
  unfold Leads at *
  rw [h', h, List.append_assoc]

variable {order : hash_order} {dwfl : Option Dwfl} {group : events_group} {state : populate_state}
  {result : Int × populate_state}

theorem leads_store_callchain {buffer : Option Nat} {events events' : zhashx event_value}
    (h : Exec (kernel.step atomic) (store_callchain order dwfl buffer events) t events' t') :
    Leads [] t t' := by
  have huses : (store_callchain order dwfl buffer events).Uses fun call =>
      ∀ fd size, call ≠ .read fd size := by
    unfold store_callchain
    cases buffer with
    | none => exact Prog.Uses.pure _
    | some buffer =>
        refine Prog.Uses.bind (Prog.Uses.perform fun _ _ => nofun) fun callchain => ?_
        cases callchain <;> exact Prog.Uses.pure _
  have hreadings := h.preserves_uses huses (fun s => s.readings = t.readings)
    (fun s call answer s' hcall hs hstep => (step_readings hstep hcall).trans hs) rfl
  unfold Leads
  rw [hreadings, List.append_nil]

theorem leads_populate_cpu {item : String × perf_group_cpu_context}
    (h : Exec (kernel.step atomic) (populate_cpu order dwfl group item state) t result t')
    (hok : result.1 = 0) : Leads (cpu_leader item) t t' := by
  obtain ⟨allocated, t₁, hmalloc, h₁⟩ := exec_bind.mp h
  obtain ⟨rfl, hstill⟩ := exec_malloc_still hmalloc
  rw [if_neg (by simp)] at h₁
  obtain ⟨report, t₂, hread, h₂⟩ := exec_bind.mp h₁
  cases report with
  | none =>
      obtain ⟨rfl, -⟩ := exec_pure.mp h₂
      exact absurd hok (by simp)
  | some report =>
      obtain ⟨leader, fds, r, hfds, -, -, hreads⟩ := exec_read_cpu hread
      obtain ⟨_, t₃, hwarn, h₃⟩ := exec_bind.mp h₂
      obtain ⟨events, t₄, hcallchain, h₄⟩ := exec_bind.mp h₃
      obtain ⟨rfl, rfl⟩ := exec_pure.mp h₄
      have hone : Leads [leader] t₁ t₂ := by
        unfold Leads
        rw [hreads.readings, List.map_append, List.map_singleton, hreads.leader_eq]
      have hleads := ((hstill.leads.trans hone).trans
        (exec_still (passive_warn_multiplexing _) hwarn).leads).trans
        (leads_store_callchain hcallchain)
      simpa [cpu_leader, hfds] using hleads

theorem leads_populate_payload {ctx : perf_context} {payload : payload}
    (h : Exec (kernel.step atomic) (populate_payload order ctx payload) t result t')
    (hok : result.1 = 0) : Leads (leaders ctx) t t' := by
  have hinv : PopulateInvariant (.executions (kernel.step atomic)) order ctx.dwfl (read_groups ctx)
      (fun done _ t' => Leads (done.flatMap fun cpu => cpu_leader cpu.2) t t')
      fun _ _ => True := by
    refine PopulateInvariant.of_state (fun h allocated t' hmalloc => ⟨fun _ => trivial, ?_⟩) ?_
    · intro _
      simpa using h.trans (exec_malloc_still hmalloc).2.leads
    · intro done group item s t₁ _ hleads result t₂ hexec
      refine ⟨fun hzero => ?_, fun _ => trivial⟩
      rw [List.flatMap_append, List.flatMap_singleton]
      exact hleads.trans (leads_populate_cpu hexec hzero)
  have hstart : Leads [] t t := (List.append_nil _).symm
  have hleads := (hinv.payload_walk hstart _ _ h).1 hok
  simpa [leaders, context_cpus, read_groups, read_pkgs, read_cpus, List.flatMap_assoc,
    List.flatMap_map] using hleads

end Leads

theorem PayloadCollected.times {atomic : Prop} {t t' : kernel} {ctx : perf_context}
    {p : payload} (h : PayloadCollected atomic t t' ctx p) {group pkg cpu : String}
    {cpu_ctx : events_group × perf_group_cpu_context}
    (hcpu : ctx.cpu group pkg cpu = some cpu_ctx) :
    ∃ r new, t'.readings = t.readings ++ new ∧ r ∈ new ∧
      cpu_ctx.2.perf_fds.head? = some r.leader ∧
      p.value group pkg cpu "time_enabled" = r.time_enabled ∧
      p.value group pkg cpu "time_running" = r.time_running := by
  obtain ⟨data, hdata, r, text, ⟨new, hnew, hr⟩, hleader, hentry, -⟩ := h.cpu hcpu
  refine ⟨r, new, hnew, hr, hleader, ?_, ?_⟩
  · have hlookup : zhashx_lookup data.events "time_enabled" = some (.counter r.time_enabled) := by
      rw [hentry.lookup]
      rfl
    simp only [payload.value, hdata, Option.bind_some, hlookup]
  · have hlookup : zhashx_lookup data.events "time_running" = some (.counter r.time_running) := by
      rw [hentry.lookup]
      rfl
    simp only [payload.value, hdata, Option.bind_some, hlookup]

structure watched_tick where
  before : watched
  after : watched

namespace watched_tick

def reads (k : watched_tick) : List timed_read :=
  k.after.reads.drop k.before.reads.length

def sent (k : watched_tick) : List payload :=
  k.after.kernel.sent.drop k.before.kernel.sent.length

end watched_tick

def WatchedTickStep (atomic : Prop) (order : hash_order) (s : perf_context × watched)
    (k : watched_tick) (s' : perf_context × watched) : Prop :=
  k = ⟨s.2, s'.2⟩ ∧ ∃ timestamp, Exec (watched.step atomic)
    (handle_ticker order s.1 timestamp) s.2 s'.1 s'.2

-- What is known of the reads of a tick.
structure TickReads (ctx : perf_context) (k : watched_tick) : Prop where
  reads : ∀ x ∈ k.reads, x.Warned ∧ x.Clocked
  sent : k.sent = [] ∨ ∃ p, k.sent = [p] ∧ (∀ x ∈ k.reads, x.complete = true) ∧
    (k.reads.map timed_read.reading).map reading.leader = leaders ctx ∧
    ∀ group pkg cpu cpu_ctx, ctx.cpu group pkg cpu = some cpu_ctx →
      ∃ x ∈ k.reads, cpu_ctx.2.perf_fds.head? = some x.reading.leader ∧
        p.value group pkg cpu "time_enabled" = x.reading.time_enabled ∧
        p.value group pkg cpu "time_running" = x.reading.time_running

-- The reads of a populate, and what a payload has from them.
theorem exec_watched_populate {atomic : Prop} {order : hash_order} {ctx : perf_context}
    {payload : payload} {populated : Int × populate_state} {old : List reading} {s s' : watched}
    (hsound : ContextSound s.kernel.wiring ctx) (hempty : payload.groups = [])
    (hclocked : watched.Clocked old s)
    (h : Exec (watched.step atomic) (populate_payload order ctx payload) s populated s') :
    ∃ new, s'.reads = s.reads ++ new ∧ (∀ x ∈ new, x.Warned ∧ x.Clocked) ∧
      (populated.1 = 0 → (∀ x ∈ new, x.complete = true) ∧
        (new.map timed_read.reading).map reading.leader = leaders ctx ∧
        ∀ group pkg cpu cpu_ctx, ctx.cpu group pkg cpu = some cpu_ctx →
          ∃ x ∈ new, cpu_ctx.2.perf_fds.head? = some x.reading.leader ∧
            populated.2.payload.value group pkg cpu "time_enabled" = x.reading.time_enabled ∧
            populated.2.payload.value group pkg cpu "time_running" =
              x.reading.time_running) := by
  obtain ⟨new, hnew, hall⟩ := noted_populate_payload h
  have hclocked' := watched.exec_clocked h hclocked
  have hreadings : s'.kernel.readings = s.kernel.readings ++ new.map timed_read.reading := by
    rw [hclocked'.readings, hclocked.readings, hnew, List.map_append, List.append_assoc]
  refine ⟨new, hnew, fun x hx => ⟨(hall x hx).1, hclocked'.reads x ?_⟩, fun hzero =>
    ⟨fun x hx => (hall x hx).2 hzero, ?_, ?_⟩⟩
  · rw [hnew]
    exact List.mem_append_right _ hx
  · have hleads := leads_populate_payload (watched.exec_kernel h) hzero
    unfold Leads at hleads
    rw [hreadings, List.map_append] at hleads
    exact List.append_cancel_left hleads
  · intro group pkg cpu cpu_ctx hcpu
    obtain ⟨hcollected, -, -⟩ := exec_populate_payload (watched.exec_kernel h) hsound hempty hzero
    obtain ⟨r, taken, htaken, hr, hleader, henabled, hrunning⟩ := hcollected.times hcpu
    obtain rfl := List.append_cancel_left (hreadings.symm.trans htaken)
    obtain ⟨x, hx, rfl⟩ := List.mem_map.mp hr
    exact ⟨x, hx, hleader, henabled, hrunning⟩

theorem exec_watched_ticker {atomic : Prop} {order : hash_order} {ctx ctx' : perf_context}
    {timestamp : Nat} {old : List reading} {s s' : watched}
    (hsound : ContextSound s.kernel.wiring ctx) (hclocked : watched.Clocked old s)
    (h : Exec (watched.step atomic) (handle_ticker order ctx timestamp) s ctx' s') :
    TickReads ctx ⟨s, s'⟩ := by
  obtain ⟨allocated, s₁, hmalloc, h₁⟩ := exec_bind.mp h
  obtain ⟨rfl, hreads₁⟩ := exec_watched_malloc hmalloc
  have hstill₁ := (exec_malloc_still (watched.exec_kernel hmalloc)).2
  rw [if_neg (by simp)] at h₁
  obtain ⟨dwfl, s₂, hdwfl, h₂⟩ := exec_bind.mp h₁
  have hreads₂ := (exec_unwatched ((looks_up_find_dwfl ctx).mono fun call hcall => by
    cases call <;> first | exact False.elim hcall | trivial) hdwfl).trans hreads₁
  have hstill₂ := hstill₁.trans (exec_still (passive_find_dwfl ctx) (watched.exec_kernel hdwfl))
  have hclocked₂ := watched.exec_clocked hdwfl (watched.exec_clocked hmalloc hclocked)
  have hsound₂ : ContextSound s₂.kernel.wiring { ctx with dwfl := dwfl } := by
    rw [hstill₂.wiring]
    exact ⟨hsound.keys, hsound.groups, hsound.fds⟩
  obtain ⟨populated, s₃, hpopulated, h₃⟩ := exec_bind.mp h₂
  have hsent₃ : s₃.kernel.sent = s.kernel.sent :=
    (exec_sent (populates_payload _ _) (watched.exec_kernel hpopulated)).trans hstill₂.sent
  obtain ⟨new, hnew, hall, hstored⟩ := exec_watched_populate hsound₂ rfl hclocked₂ hpopulated
  by_cases hzero : populated.1 = 0
  · rw [if_neg (by simpa using hzero)] at h₃
    obtain ⟨_, s₄, hsend, h₄⟩ := exec_bind.mp h₃
    obtain ⟨-, rfl⟩ := exec_pure.mp h₄
    have hreads₄ := exec_unwatched (Prog.Uses.perform
      (show Unwatched (.send populated.2.payload) from trivial)) hsend
    have hsub : watched_tick.reads ⟨s, s'⟩ = new := by
      simp [watched_tick.reads, hreads₄, hnew, hreads₂]
    have hsent : s'.kernel.sent = s.kernel.sent ++ [populated.2.payload] := by
      obtain ⟨m, hbetween, hserve⟩ := exec_perform.mp (watched.exec_kernel hsend)
      rw [show s'.kernel = m.send _ from hserve]
      exact congrArg (· ++ _) (hbetween.still.sent.trans hsent₃)
    refine ⟨by rwa [hsub], Or.inr ⟨populated.2.payload, by simp [watched_tick.sent, hsent], ?_⟩⟩
    rw [hsub]
    exact hstored hzero
  · rw [if_pos hzero] at h₃
    obtain ⟨-, rfl⟩ := exec_pure.mp h₃
    have hsub : watched_tick.reads ⟨s, s'⟩ = new := by
      simp [watched_tick.reads, hnew, hreads₂]
    exact ⟨by rwa [hsub], Or.inl (by simp [watched_tick.sent, hsent₃])⟩

theorem timed_read.Clocked.amounts {x : timed_read} (h : x.Clocked) :
    ∃ enabled running, running ≤ enabled ∧ x.interval = (enabled, running) ∧
      x.reading.time_enabled = x.before.1 + enabled ∧
      x.reading.time_running = x.before.2 + running := by
  obtain ⟨enabled, running, hle, henabled, hrunning⟩ := h.grown
  refine ⟨enabled, running, hle, ?_, henabled, hrunning⟩
  rw [timed_read.interval, henabled, hrunning, Nat.add_sub_cancel_left, Nat.add_sub_cancel_left]

-- A warning comes for the time since the last reset, and the times that are sent
-- are those for which the counters that stand beside them have counted.
structure PerTick (ctx : perf_context) (k : watched_tick) : Prop where
  warned : ∀ x ∈ k.reads, x.complete = true → (x.warned = true ↔ x.interval.2 < x.interval.1)
  stored : ∀ p ∈ k.sent, ∀ group pkg cpu cpu_ctx, ctx.cpu group pkg cpu = some cpu_ctx →
    ∀ x ∈ k.reads, cpu_ctx.2.perf_fds.head? = some x.reading.leader →
      p.value group pkg cpu "time_enabled" = x.interval.1 ∧
      p.value group pkg cpu "time_running" = x.interval.2

-- Before the last reset there was no multiplexing to hide that there is none since;
-- and for what is sent, the group had not been enabled.
def NothingBefore (k : watched_tick) : Prop :=
  ∀ x ∈ k.reads, x.complete = true →
    (x.before.1 = x.before.2 ∨ x.interval.2 < x.interval.1) ∧ (k.sent ≠ [] → x.before = (0, 0))

section Tick

variable {ctx : perf_context} {w : wiring} {k : watched_tick}

theorem exists_cpu_of_leader (hsound : ContextSound w ctx) {fd : Int} (h : fd ∈ leaders ctx) :
    ∃ group pkg cpu cpu_ctx, ctx.cpu group pkg cpu = some cpu_ctx ∧
      cpu_ctx.2.perf_fds.head? = some fd := by
  obtain ⟨cpu_item, hcpu, hfd⟩ := List.mem_flatMap.mp h
  obtain ⟨group_item, hgroup, hcpu⟩ := List.mem_flatMap.mp hcpu
  obtain ⟨pkg_item, hpkg, hcpu⟩ := List.mem_flatMap.mp hcpu
  have hgroup_sound := hsound.groups group_item hgroup
  have hpkg_sound := hgroup_sound.2 pkg_item hpkg
  refine ⟨group_item.1, pkg_item.1, cpu_item.1, (group_item.2.config, cpu_item.2), ?_, ?_⟩
  · have hgroup_lookup := (zhashx_lookup_eq_some_iff hsound.keys).mpr hgroup
    have hpkg_lookup := (zhashx_lookup_eq_some_iff hgroup_sound.1).mpr hpkg
    have hcpu_lookup := (zhashx_lookup_eq_some_iff hpkg_sound.1).mpr hcpu
    simp only [perf_context.cpu, hgroup_lookup, Option.bind_some, hpkg_lookup, hcpu_lookup,
      Option.map_some]
  · unfold cpu_leader at hfd
    cases hfds : cpu_item.2.perf_fds with
    | nil => simp [hfds] at hfd
    | cons leader fds =>
        rw [hfds] at hfd
        obtain rfl := List.mem_singleton.mp hfd
        rfl

-- A warning is right unless earlier multiplexing is all there is to warn of.
theorem warned_iff {x : timed_read} (hwarned : x.Warned) (hclocked : x.Clocked)
    (hcomplete : x.complete = true) :
    (x.warned = true ↔ x.interval.2 < x.interval.1) ↔
      x.before.1 = x.before.2 ∨ x.interval.2 < x.interval.1 := by
  obtain ⟨enabled, running, hle, hinterval, henabled, hrunning⟩ := hclocked.amounts
  have hbefore := hclocked.before
  unfold timed_read.Warned at hwarned
  rw [hwarned, hinterval, henabled, hrunning]
  simp only [hcomplete, true_and]
  omega

theorem one_read_of_leader (hsound : ContextSound w ctx)
    (hleaders : (k.reads.map timed_read.reading).map reading.leader = leaders ctx)
    {x y : timed_read} (hx : x ∈ k.reads) (hy : y ∈ k.reads)
    (hsame : x.reading.leader = y.reading.leader) : x = y := by
  rw [List.map_map] at hleaders
  exact List.inj_on_of_nodup_map (hleaders ▸ nodup_leaders hsound) hx hy hsame

theorem per_tick_iff (hsound : ContextSound w ctx) (h : TickReads ctx k) :
    PerTick ctx k ↔ NothingBefore k := by
  constructor
  · intro hper x hx hcomplete
    obtain ⟨hwarned, hclocked⟩ := h.reads x hx
    refine ⟨(warned_iff hwarned hclocked hcomplete).mp (hper.warned x hx hcomplete),
      fun hsome => ?_⟩
    obtain hnone | ⟨p, hsent, -, hleaders, hstored⟩ := h.sent
    · exact absurd hnone hsome
    · have hleader : x.reading.leader ∈ leaders ctx := by
        rw [← hleaders]
        exact List.mem_map_of_mem (List.mem_map_of_mem hx)
      obtain ⟨group, pkg, cpu, cpu_ctx, hcpu, hhead⟩ := exists_cpu_of_leader hsound hleader
      obtain ⟨y, hy, hyhead, hyenabled, hyrunning⟩ := hstored group pkg cpu cpu_ctx hcpu
      obtain rfl := one_read_of_leader hsound hleaders hx hy
        (Option.some.inj (hhead.symm.trans hyhead))
      obtain ⟨henabled, hrunning⟩ :=
        hper.stored p (by simp [hsent]) group pkg cpu cpu_ctx hcpu x hx hhead
      obtain ⟨enabled, running, -, hinterval, htotal, htotal'⟩ := hclocked.amounts
      rw [hyenabled, hinterval, htotal] at henabled
      rw [hyrunning, hinterval, htotal'] at hrunning
      exact Prod.ext (by dsimp only at henabled ⊢; omega) (by dsimp only at hrunning ⊢; omega)
  · intro hnothing
    refine ⟨fun x hx hcomplete => ?_, ?_⟩
    · obtain ⟨hwarned, hclocked⟩ := h.reads x hx
      exact (warned_iff hwarned hclocked hcomplete).mpr (hnothing x hx hcomplete).1
    · intro p hp group pkg cpu cpu_ctx hcpu x hx hhead
      obtain hnone | ⟨p', hsent, hcomplete, hleaders, hstored⟩ := h.sent
      · rw [hnone] at hp
        exact absurd hp List.not_mem_nil
      · rw [hsent] at hp
        obtain rfl := List.mem_singleton.mp hp
        obtain ⟨y, hy, hyhead, hyenabled, hyrunning⟩ := hstored group pkg cpu cpu_ctx hcpu
        obtain rfl := one_read_of_leader hsound hleaders hx hy
          (Option.some.inj (hhead.symm.trans hyhead))
        have hbefore := (hnothing x hx (hcomplete x hx)).2 (by simp [hsent])
        obtain ⟨enabled, running, -, hinterval, htotal, htotal'⟩ := (h.reads x hx).2.amounts
        rw [hyenabled, hyrunning, htotal, htotal', hinterval, hbefore]
        exact ⟨Nat.zero_add enabled, Nat.zero_add running⟩

end Tick

-- The counters are reset when they are enabled, with nothing on their clocks.
def watched.start (t : Perf.kernel) : watched :=
  ⟨t, fun _ => (0, 0), []⟩

-- In each tick of each run.
theorem multiplexing_per_tick_iff {atomic : Prop} {order : hash_order} {config : perf_config}
    {target_name : String} {ctx : perf_context} {start t₀ t : kernel}
    {ticks : List watched_tick} {last : perf_context × watched}
    (hvalid : config.Valid) (hstart : start.wiring.opened = [])
    (hinit : Exec (kernel.step atomic)
      ( perf_events_groups_initialize order (perf_context_create config target_name))
      start (0, ctx) t₀)
    (henable : Exec (kernel.step atomic) (perf_events_groups_enable ctx) t₀ () t)
    (hclock : ∀ fd, (t.times fd).2 ≤ (t.times fd).1)
    (hrun : Run (WatchedTickStep atomic order) (ctx, watched.start t) ticks last) :
    (∀ k ∈ ticks, PerTick ctx k) ↔ ∀ k ∈ ticks, NothingBefore k := by
  obtain ⟨hconfig, hready⟩ := exec_initialize_ready hinit hvalid.toKeyed rfl hstart
  have hconfig : ctx.config = config := hconfig
  subst hconfig
  have hsound : ContextSound t.wiring ctx := by
    rw [exec_wiring ((quiet_enable ctx).mono fun _ => keeps_of_quiet) henable]
    exact hready.sound
  have hclocked : watched.Clocked t.readings (watched.start t) := by
    refine ⟨(List.append_nil _).symm, fun _ => Nat.le_refl 0, fun fd => ?_, by simp [watched.start]⟩
    exact ⟨(t.times fd).1, (t.times fd).2, hclock fd, by simp [watched.start]⟩
  obtain ⟨-, -, -, hticks⟩ := hrun.history
    (fun ls s => SameSetup ctx s.1 ∧ s.2.kernel.wiring = t.wiring ∧
      watched.Clocked t.readings s.2 ∧ ∀ k ∈ ls, (PerTick ctx k ↔ NothingBefore k))
    ⟨SameSetup.refl ctx, rfl, hclocked, by simp⟩ (by
      rintro ls s k s' ⟨hsame, hwiring, hclocked, hls⟩ ⟨rfl, timestamp, hexec⟩
      have hkernel := watched.exec_kernel hexec
      refine ⟨hsame.trans (handle_ticker_same hkernel),
        (exec_wiring (keeps_handle_ticker s.1 timestamp) hkernel).trans hwiring,
        watched.exec_clocked hexec hclocked, List.forall_mem_append.mpr
          ⟨hls, List.forall_mem_singleton.mpr ?_⟩⟩
      obtain ⟨terminated, dwfl, hctx⟩ := hsame
      have hsound' : ContextSound s.2.kernel.wiring s.1 := by
        rw [hwiring, hctx]
        exact ⟨hsound.keys, hsound.groups, hsound.fds⟩
      have hreads := exec_watched_ticker hsound' hclocked hexec
      rw [hctx] at hreads
      exact per_tick_iff hsound ⟨hreads.reads, hreads.sent⟩)
  exact forall₂_congr hticks

-- A kernel whose clocks go on by amounts that are given for each call.

def kernel.advance (s : kernel) (amount : Nat × Nat) : kernel :=
  { s with times := fun fd => ((s.times fd).1 + amount.1, (s.times fd).2 + amount.2) }

theorem kernel.between_advance {atomic : Prop} {s m : kernel} {amount : Nat × Nat}
    (h : Between atomic (s.advance amount) m) : Between atomic s m := by
  cases h with
  | count counts times rings hcounts hrings => exact .count counts times rings hcounts hrings

def advancing (amounts : syscall → Nat × Nat) (s : kernel) (call : syscall) :
    syscall_answer call × kernel :=
  counting (fun _ => true) (s.advance (amounts call)) call

theorem advancing_step (atomic : Prop) (amounts : syscall → Nat × Nat) (s : kernel)
    (call : syscall) :
    kernel.step atomic s call (advancing amounts s call).1 (advancing amounts s call).2 := by
  obtain ⟨m, hbetween, hserve⟩ :=
    counting_step atomic (fun _ => true) (s.advance (amounts call)) call
  exact ⟨m, kernel.between_advance hbetween, hserve⟩

theorem counting_times (answers : Int → Bool) (s : kernel) (call : syscall) :
    (counting answers s call).2.times = s.times := by
  cases call with
  | get_callchains buffer dwfl =>
      simp only [counting]
      cases s.rings buffer <;> rfl
  | perf_event_open | ioctl_reset | ioctl_enable | read =>
      simp only [counting]
      split_ifs <;> rfl
  | _ => rfl

def watching (amounts : syscall → Nat × Nat) (s : watched) (call : syscall) :
    syscall_answer call × watched :=
  ((advancing amounts s.kernel call).1,
    s.watch (advancing amounts s.kernel call).2 call (advancing amounts s.kernel call).1)

theorem watching_step (atomic : Prop) {amounts : syscall → Nat × Nat}
    (hamounts : ∀ call, (amounts call).2 ≤ (amounts call).1) (s : watched) (call : syscall) :
    watched.step atomic s call (watching amounts s call).1 (watching amounts s call).2 := by
  refine ⟨_, advancing_step atomic amounts s.kernel call, fun fd => ?_, rfl⟩
  exact ⟨(amounts call).1, (amounts call).2, hamounts call,
    congrFun (counting_times _ (s.kernel.advance (amounts call)) call) fd⟩

-- Half of the time until the first read is multiplexed, and none after it.
def multiplexed_once : syscall → Nat × Nat
  | .ioctl_enable _ => (10, 5)
  | .send _ => (10, 10)
  | _ => (0, 0)

theorem multiplexed_once_le (call : syscall) :
    (multiplexed_once call).2 ≤ (multiplexed_once call).1 := by
  unfold multiplexed_once
  split <;> decide

def core_clocked : Unit × kernel :=
  (perf_events_groups_enable core_setup.1.2).run (advancing multiplexed_once) core_setup.2

def core_first : perf_context × watched :=
  (handle_ticker in_order core_setup.1.2 1).run (watching multiplexed_once)
    (watched.start core_clocked.2)

def core_second : perf_context × watched :=
  (handle_ticker in_order core_first.1 2).run (watching multiplexed_once) core_first.2

theorem core_clocked_exec : Exec (kernel.step True)
    (perf_events_groups_enable core_setup.1.2) core_setup.2 () core_clocked.2 :=
  exec_run _ (advancing_step True multiplexed_once) _ _

theorem core_first_run : Run (WatchedTickStep True in_order)
    (core_setup.1.2, watched.start core_clocked.2)
    [⟨watched.start core_clocked.2, core_first.2⟩] core_first :=
  .single ⟨rfl, 1, exec_run _ (watching_step True multiplexed_once_le) _ _⟩

theorem core_second_run : Run (WatchedTickStep True in_order)
    (core_setup.1.2, watched.start core_clocked.2)
    [⟨watched.start core_clocked.2, core_first.2⟩, ⟨core_first.2, core_second.2⟩] core_second :=
  core_first_run.snoc ⟨rfl, 2, exec_run _ (watching_step True multiplexed_once_le) _ _⟩

theorem core_clocked_times (fd : Int) : core_clocked.2.times fd = (20, 10) :=
  rfl

theorem multiplexing_per_tick_iff_core :
    (∀ k ∈ [watched_tick.mk (watched.start core_clocked.2) core_first.2,
        ⟨core_first.2, core_second.2⟩], PerTick core_setup.1.2 k) ↔
      ∀ k ∈ [watched_tick.mk (watched.start core_clocked.2) core_first.2,
        ⟨core_first.2, core_second.2⟩], NothingBefore k :=
  multiplexing_per_tick_iff core_valid rfl (core_setup_exec True) core_clocked_exec
    (fun fd => by rw [core_clocked_times]; decide) core_second_run

-- The second tick warns of the multiplexing of the first, and sends the times of both.
theorem earlier_multiplexing_reported :
    ¬ ∀ (atomic : Prop) (order : hash_order) (config : perf_config) (target_name : String)
      (ctx : perf_context) (start t₀ t : kernel) (ticks : List watched_tick)
      (last : perf_context × watched), config.Valid → start.wiring.opened = [] →
      Exec (kernel.step atomic)
        ( perf_events_groups_initialize order (perf_context_create config target_name))
        start (0, ctx) t₀ →
      Exec (kernel.step atomic) (perf_events_groups_enable ctx) t₀ () t →
      (∀ fd, (t.times fd).2 ≤ (t.times fd).1) →
      Run (WatchedTickStep atomic order) (ctx, watched.start t) ticks last →
      ∀ k ∈ ticks, PerTick ctx k := by
  intro hclaim
  have hper := hclaim True in_order core_config "all" _ _ _ _ _ _ core_valid rfl
    (core_setup_exec True) core_clocked_exec (fun fd => by rw [core_clocked_times]; decide)
    core_second_run ⟨core_first.2, core_second.2⟩ (by simp)
  have hread : ∃ x ∈ watched_tick.reads ⟨core_first.2, core_second.2⟩,
      x.complete = true ∧ x.warned = true ∧ x.interval = (10, 10) := by decide +kernel
  obtain ⟨x, hx, hcomplete, hwarned, hinterval⟩ := hread
  have hmore := (hper.warned x hx hcomplete).mp hwarned
  rw [hinterval] at hmore
  exact absurd hmore (by decide)

end HwpcSensor.Perf
