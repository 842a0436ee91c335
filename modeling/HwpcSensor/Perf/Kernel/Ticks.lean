import HwpcSensor.Library.Transition
import HwpcSensor.Perf.Kernel.Balance

namespace HwpcSensor

-- What stands in a payload for a cpu.

def payload.cpu_data (p : payload) (group pkg cpu : String) : Option payload_cpu_data :=
  (zhashx_lookup p.groups group).bind fun group_data =>
    (zhashx_lookup group_data.pkgs pkg).bind fun pkg_data => zhashx_lookup pkg_data.cpus cpu

def payload.value (p : payload) (group pkg cpu name : String) : Nat :=
  match (p.cpu_data group pkg cpu).bind fun data => zhashx_lookup data.events name with
  | some (.counter value) => value
  | _ => 0

def payload.text (p : payload) (group pkg cpu : String) : Option (List Char) :=
  match (p.cpu_data group pkg cpu).bind fun data => zhashx_lookup data.events "callchain" with
  | some (.callchain text) => some text
  | _ => none

namespace Perf

open Interaction Syscall Transition

def perf_context.cpu (ctx : perf_context) (group pkg cpu : String) :
    Option (events_group × perf_group_cpu_context) :=
  (zhashx_lookup ctx.groups_ctx group).bind fun group_ctx =>
    (zhashx_lookup group_ctx.pkgs_ctx pkg).bind fun pkg_ctx =>
      (zhashx_lookup pkg_ctx.cpus_ctx cpu).map fun cpu_ctx => (group_ctx.config, cpu_ctx)

-- The counter whose value is stored under a name.
def perf_context.counter (ctx : perf_context) (group pkg cpu name : String) : Option Int :=
  (ctx.cpu group pkg cpu).bind fun cpu_ctx => counter_of cpu_ctx.1 cpu_ctx.2.perf_fds name

theorem cpu_eq_some {ctx : perf_context} {group pkg cpu : String}
    {cpu_ctx : events_group × perf_group_cpu_context} (h : ctx.cpu group pkg cpu = some cpu_ctx) :
    ∃ group_ctx pkg_ctx, (group, group_ctx) ∈ ctx.groups_ctx ∧ (pkg, pkg_ctx) ∈ group_ctx.pkgs_ctx ∧
      (cpu, cpu_ctx.2) ∈ pkg_ctx.cpus_ctx ∧ group_ctx.config = cpu_ctx.1 := by
  obtain ⟨group_ctx, hgroup, h⟩ := Option.bind_eq_some_iff.mp h
  obtain ⟨pkg_ctx, hpkg, h⟩ := Option.bind_eq_some_iff.mp h
  obtain ⟨found, hcpu, rfl⟩ := Option.map_eq_some_iff.mp h
  exact ⟨group_ctx, pkg_ctx, mem_of_zhashx_lookup hgroup, mem_of_zhashx_lookup hpkg,
    mem_of_zhashx_lookup hcpu, rfl⟩

section Collected

variable {atomic : Prop} {t t' : kernel} {ctx : perf_context} {p : payload}

theorem PayloadCollected.cpu (h : PayloadCollected atomic t t' ctx p)
    {group pkg cpu : String} {cpu_ctx : events_group × perf_group_cpu_context}
    (hcpu : ctx.cpu group pkg cpu = some cpu_ctx) :
    ∃ data, p.cpu_data group pkg cpu = some data ∧
      Collected atomic cpu_ctx.1 t t' cpu_ctx.2 data := by
  obtain ⟨group_ctx, pkg_ctx, hgroup, hpkg, hcpu, hconfig⟩ := cpu_eq_some hcpu
  obtain ⟨group_data, hgroup_data, hgroup_collected⟩ := h.entry _ hgroup
  obtain ⟨pkg_data, hpkg_data, hpkg_collected⟩ := hgroup_collected.entry _ hpkg
  obtain ⟨data, hdata, hcollected⟩ := hpkg_collected.entry _ hcpu
  refine ⟨data, ?_, ?_⟩
  · simp only [payload.cpu_data, hgroup_data, Option.bind_some, hpkg_data]
    exact hdata
  · rw [← hconfig]
    exact hcollected

-- What a payload says of a counter is what was taken from it.
theorem PayloadCollected.value (h : PayloadCollected True t t' ctx p)
    {group pkg cpu name : String} {fd : Int} (hcounter : ctx.counter group pkg cpu name = some fd)
    (hname : name ∉ reserved_names) :
    t'.taken fd = t.taken fd + p.value group pkg cpu name := by
  obtain ⟨cpu_ctx, hcpu, hcounter⟩ := Option.bind_eq_some_iff.mp hcounter
  obtain ⟨data, hdata, r, text, -, -, hentry, htaken⟩ := h.cpu hcpu
  obtain ⟨pair, hpair, rfl⟩ := Option.map_eq_some_iff.mp hcounter
  have hmem := (List.of_mem_zip (List.mem_of_find?_eq_some hpair)).2
  simp only [reserved_names, List.mem_cons, List.not_mem_nil, or_false, not_or] at hname
  have hlookup : zhashx_lookup data.events name = some (.counter (r.value pair.2)) := by
    rw [hentry.lookup, entry_value, if_neg hname.1, if_neg hname.2.1, hcounter]
    rfl
  have hvalue : p.value group pkg cpu name = r.value pair.2 := by
    simp only [payload.value, hdata, Option.bind_some, hlookup]
  rw [htaken trivial pair.2 hmem, hvalue]

-- The text of a consumption, when it has one, stands in the payload.
def Shown (p : payload) (c : consumption) : Prop :=
  ∀ text, c.text = some text → ∃ group pkg cpu, p.text group pkg cpu = some text

theorem PayloadReports.shown {c : consumption} (h : PayloadReports ctx p c)
    (hreserved : ∀ group_item ∈ ctx.groups_ctx, ∀ event ∈ group_item.2.config.events,
      event.name ∉ reserved_names) : Shown p c := by
  obtain ⟨group_item, group_data, hgroup, hgroup_data, h⟩ := h
  obtain ⟨pkg_item, pkg_data, -, hpkg_data, h⟩ := h
  obtain ⟨cpu_item, data, -, hdata, fds, r, hentry⟩ := h
  intro text htext
  refine ⟨group_item.1, pkg_item.1, cpu_item.1, ?_⟩
  have hnone : counter_of group_item.2.config fds "callchain" = none := by
    cases hcounter : counter_of group_item.2.config fds "callchain" with
    | none => rfl
    | some fd =>
        obtain ⟨event, hevent, hname⟩ := counter_of_event hcounter
        exact absurd (by simp [reserved_names, hname]) (hreserved group_item hgroup event hevent)
  have hlookup : zhashx_lookup data.events "callchain" = some (.callchain text) := by
    rw [hentry.lookup, entry_value, if_neg (by decide), if_neg (by decide), hnone, htext]
    rfl
  simp only [payload.text, payload.cpu_data, hgroup_data, Option.bind_some, hpkg_data, hdata,
    hlookup]

end Collected

section Consumed

variable {atomic : Prop} {s s' t t' : kernel}

-- The text of a consumption renders what was in the ring.
def Faithful (c : consumption) : Prop :=
  c.records ≠ [] → ∃ text, c.text = some text ∧ Rendered c.dwfl c.records text

theorem ring.faithful {r : ring} {mem : memory} {dwfl : Option Dwfl} {text : Option (List Char)}
    {page : perf_event_mmap_page} (buffer : Nat)
    (hcall : Perf.get_callchains mem true dwfl r.page = some (page, text)) :
    Faithful ⟨buffer, dwfl, r.records, text⟩ := by
  intro hne
  obtain ⟨views, hviews, hspec⟩ := get_callchains_spec mem dwfl r.pending (by simpa using hne)
  rw [hspec] at hcall
  obtain ⟨-, rfl⟩ := Prod.mk.inj (Option.some.inj hcall)
  exact ⟨_, rfl, rendered_of_shows mem dwfl hviews⟩

theorem exec_faithful {α : Type} {program : program α} {result : α}
    (h : Exec (kernel.step atomic) program t result t') : Reports Faithful t t' := by
  refine h.preserves (Reports Faithful t) ?_ (Reports.of_eq rfl)
  rintro s call answer s' hreports hstep
  obtain ⟨m, hbetween, heffect⟩ := kernel.step_effect hstep
  refine hreports.trans (Q := Faithful) ?_ (fun _ => id) fun _ => id
  have hconsumed := hbetween.still.consumed
  cases heffect with
  | consume buffer dwfl r mem text hring hcall =>
      refine ⟨[⟨buffer, dwfl, r.records, text⟩], congrArg (· ++ _) hconsumed, ?_⟩
      exact List.forall_mem_singleton.mpr (ring.faithful buffer hcall)
  | _ => exact Reports.of_eq hconsumed

theorem exec_taken_le {α : Type} {program : program α} {result : α}
    (huses : program.Uses KeepsCounters)
    (h : Exec (kernel.step atomic) program t result t') (fd : Int) :
    t.taken fd ≤ t'.taken fd := by
  refine kernel.exec_invariant h huses (fun s => t.taken fd ≤ s.taken fd) ?_ ?_ (Nat.le_refl _)
  · intro s m hbetween hle
    rw [congrFun hbetween.still.taken fd]
    exact hle
  · intro m call s' hkeep heffect hle
    cases heffect with
    | add | close => exact False.elim hkeep
    | reset leader =>
        simp only [kernel.reset]
        split_ifs <;> omega
    | _ => exact hle

end Consumed

theorem exec_sent {atomic : Prop} {t t' : kernel} {α : Type} {program : program α} {result : α}
    (huses : program.Uses Populates) (h : Exec (kernel.step atomic) program t result t') :
    t'.sent = t.sent := by
  refine kernel.exec_invariant h huses (fun s => s.sent = t.sent) ?_ ?_ rfl
  · intro s m hbetween hsent
    exact hbetween.still.sent.trans hsent
  · intro m call s' hcall heffect hsent
    cases heffect with
    | send => exact False.elim hcall
    | _ => exact hsent

section Tick

variable {order : hash_order} {ctx ctx' : perf_context} {t t' : kernel}

-- A tick either sends nothing, or sends what it took and consumed.
inductive Ticked (ctx : perf_context) (t t' : kernel) : Prop
  | failed (hsent : t'.sent = t.sent)
  | sent (p : payload) (hsent : t'.sent = t.sent ++ [p])
      (hvalues : ∀ group pkg cpu name fd, ctx.counter group pkg cpu name = some fd →
        name ∉ reserved_names → t'.taken fd = t.taken fd + p.value group pkg cpu name)
      (hreports : Reports (PayloadReports ctx p) t t')

theorem exec_handle_ticker {timestamp : Nat} (hsound : ContextSound t.wiring ctx)
    (h : Exec (kernel.step True) (handle_ticker order ctx timestamp) t ctx' t') :
    Ticked ctx t t' := by
  obtain ⟨allocated, t₁, hmalloc, h₁⟩ := exec_bind.mp h
  obtain ⟨rfl, hstill⟩ := exec_malloc_still hmalloc
  rw [if_neg (by simp)] at h₁
  obtain ⟨dwfl, t₂, hdwfl, h₂⟩ := exec_bind.mp h₁
  have hbefore := hstill.trans (exec_still (passive_find_dwfl ctx) hdwfl)
  obtain ⟨populated, t₃, hpopulated, h₃⟩ := exec_bind.mp h₂
  by_cases hzero : populated.1 = 0
  · rw [if_neg (by simpa using hzero)] at h₃
    obtain ⟨_, t₄, hsend, h₄⟩ := exec_bind.mp h₃
    obtain ⟨-, rfl⟩ := exec_pure.mp h₄
    obtain ⟨m, hbetween, rfl⟩ := exec_perform.mp hsend
    have hafter := hbetween.still
    obtain ⟨hcollected, hpasses, new, hnew, hreports⟩ :=
      exec_populate_payload hpopulated
        (by rw [hbefore.wiring]; exact ⟨hsound.keys, hsound.groups, hsound.fds⟩) rfl hzero
    refine .sent populated.2.payload ?_ ?_ ⟨new, ?_, hreports⟩
    · exact congrArg (· ++ _) (hafter.sent.trans (hpasses.sent.trans hbefore.sent))
    · intro group pkg cpu name fd hcounter hname
      have hvalue := PayloadCollected.value hcollected hcounter hname
      rw [hbefore.taken] at hvalue
      exact (congrFun hafter.taken fd).trans hvalue
    · exact hafter.consumed.trans (hnew.trans (congrArg (· ++ _) hbefore.consumed))
  · rw [if_pos hzero] at h₃
    obtain ⟨-, rfl⟩ := exec_pure.mp h₃
    exact .failed ((exec_sent (populates_payload _ _) hpopulated).trans hbefore.sent)

end Tick

-- A tick, by the kernel before and after it.
structure tick where
  before : kernel
  after : kernel

namespace tick

def sent (k : tick) : List payload :=
  k.after.sent.drop k.before.sent.length

def consumed (k : tick) : List consumption :=
  k.after.consumed.drop k.before.consumed.length

-- What a tick that sent nothing took from a counter.
def lost (k : tick) (fd : Int) : Nat :=
  if k.sent.isEmpty then k.after.taken fd - k.before.taken fd else 0

end tick

def TickStep (order : hash_order) (s : perf_context × kernel) (k : tick)
    (s' : perf_context × kernel) : Prop :=
  k = ⟨s.2, s'.2⟩ ∧ ∃ timestamp, Exec (kernel.step True) (handle_ticker order s.1 timestamp)
    s.2 s'.1 s'.2

-- The values of a counter in the payloads that some ticks sent.
def values_sent (ticks : List tick) (group pkg cpu name : String) : Nat :=
  ((ticks.flatMap tick.sent).map fun p => p.value group pkg cpu name).sum

-- A payload shows the records of a consumption.
def Carries (p : payload) (c : consumption) : Prop :=
  c.records ≠ [] → ∃ group pkg cpu text, p.text group pkg cpu = some text ∧
    Rendered c.dwfl c.records text

section Run

variable {order : hash_order} {ctx : perf_context} {t t' : kernel}

theorem Ticked.taken {group pkg cpu name : String} {fd : Int} (h : Ticked ctx t t')
    (hcounter : ctx.counter group pkg cpu name = some fd) (hname : name ∉ reserved_names)
    (hle : t.taken fd ≤ t'.taken fd) :
    t'.taken fd = t.taken fd + values_sent [⟨t, t'⟩] group pkg cpu name + tick.lost ⟨t, t'⟩ fd := by
  unfold values_sent tick.lost
  cases h with
  | failed hsent =>
      have hnone : tick.sent ⟨t, t'⟩ = [] := by simp [tick.sent, hsent]
      simp only [List.flatMap_singleton, hnone, List.isEmpty_nil, if_true, List.map_nil,
        List.sum_nil]
      omega
  | sent p hsent hvalues hreports =>
      have hone : tick.sent ⟨t, t'⟩ = [p] := by simp [tick.sent, hsent]
      have hvalue := hvalues group pkg cpu name fd hcounter hname
      simp [hone, hvalue]

theorem Ticked.carries (h : Ticked ctx t t') (hfaithful : Reports Faithful t t')
    (hreserved : ∀ group_item ∈ ctx.groups_ctx, ∀ event ∈ group_item.2.config.events,
      event.name ∉ reserved_names) (hsome : tick.sent ⟨t, t'⟩ ≠ []) :
    ∀ c ∈ tick.consumed ⟨t, t'⟩, ∃ p ∈ tick.sent ⟨t, t'⟩, Carries p c := by
  cases h with
  | failed hsent => exact absurd (by simp [tick.sent, hsent]) hsome
  | sent p hsent hvalues hreports =>
      intro c hc
      obtain ⟨new, hnew, hshown⟩ := hreports
      obtain ⟨new', hnew', hall⟩ := hfaithful
      obtain rfl := List.append_cancel_left (hnew'.symm.trans hnew)
      have hmem : c ∈ new' := by simpa [tick.consumed, hnew] using hc
      refine ⟨p, by simp [tick.sent, hsent], fun hne => ?_⟩
      obtain ⟨text, htext, hrendered⟩ := hall c hmem hne
      obtain ⟨group, pkg, cpu, hstands⟩ := (hshown c hmem).shown hreserved text htext
      exact ⟨group, pkg, cpu, text, hstands, hrendered⟩

-- What holds after some ticks, from the state in which the counters were enabled.
structure Accounted (ctx : perf_context) (start : kernel) (ticks : List tick)
    (s : perf_context × kernel) : Prop where
  setup : SameSetup ctx s.1
  wiring : s.2.wiring = start.wiring
  balanced : Balanced s.2
  taken : ∀ group pkg cpu name fd, ctx.counter group pkg cpu name = some fd →
    name ∉ reserved_names → s.2.taken fd = start.taken fd +
      values_sent ticks group pkg cpu name + (ticks.map fun k => k.lost fd).sum
  carries : (∀ group_item ∈ ctx.groups_ctx, ∀ event ∈ group_item.2.config.events,
      event.name ∉ reserved_names) → ∀ k ∈ ticks, k.sent ≠ [] →
    ∀ c ∈ k.consumed, ∃ p ∈ k.sent, Carries p c

theorem tick_accounted {ticks : List tick} {s s' : perf_context × kernel} {k : tick}
    (hsound : ContextSound t.wiring ctx) (h : Accounted ctx t ticks s)
    (hstep : TickStep order s k s') : Accounted ctx t (ticks ++ [k]) s' := by
  obtain ⟨rfl, timestamp, hexec⟩ := hstep
  obtain ⟨terminated, dwfl, hctx⟩ := h.setup
  have hsound' : ContextSound s.2.wiring s.1 := by
    rw [h.wiring, hctx]
    exact ⟨hsound.keys, hsound.groups, hsound.fds⟩
  have hticked := exec_handle_ticker hsound' hexec
  have hwiring := exec_wiring (keeps_handle_ticker s.1 timestamp) hexec
  refine ⟨h.setup.trans (handle_ticker_same hexec), hwiring.trans h.wiring,
    exec_balanced h.balanced hexec, ?_, ?_⟩
  · intro group pkg cpu name fd hcounter hname
    have hcounter' : s.1.counter group pkg cpu name = some fd := by
      rw [hctx]
      exact hcounter
    have hbefore := h.taken group pkg cpu name fd hcounter hname
    have hafter := hticked.taken hcounter' hname
      (exec_taken_le (keeps_handle_ticker s.1 timestamp) hexec fd)
    simp only [values_sent, List.flatMap_append, List.map_append, List.sum_append, List.map_cons,
      List.map_nil, List.sum_cons, List.sum_nil] at hafter hbefore ⊢
    omega
  · intro hreserved k hk
    rcases List.mem_append.mp hk with hold | hnew
    · exact h.carries hreserved k hold
    · obtain rfl := List.mem_singleton.mp hnew
      exact hticked.carries (exec_faithful hexec) (by rw [hctx]; exact hreserved)

theorem ContextReady.opened {w : wiring} (h : ContextReady w ctx) :
    ∀ fd ∈ groups_fds ctx, fd ∈ w.opened := by
  intro fd hfd
  obtain ⟨group_item, hgroup, hfd⟩ := List.mem_flatMap.mp hfd
  obtain ⟨pkg_item, hpkg, hfd⟩ := List.mem_flatMap.mp hfd
  obtain ⟨cpu_item, hcpu, hfd⟩ := List.mem_flatMap.mp hfd
  obtain ⟨-, cpu, hwired⟩ := h.wired hgroup hpkg hcpu
  exact hwired.opened fd hfd

theorem counter_mem {group pkg cpu name : String} {fd : Int}
    (h : ctx.counter group pkg cpu name = some fd) : fd ∈ groups_fds ctx := by
  obtain ⟨cpu_ctx, hcpu, hcounter⟩ := Option.bind_eq_some_iff.mp h
  obtain ⟨group_ctx, pkg_ctx, hgroup, hpkg, hcpu, -⟩ := cpu_eq_some hcpu
  obtain ⟨pair, hpair, rfl⟩ := Option.map_eq_some_iff.mp hcounter
  have hmem := (List.of_mem_zip (List.mem_of_find?_eq_some hpair)).2
  exact List.mem_flatMap.mpr ⟨_, hgroup, List.mem_flatMap.mpr ⟨_, hpkg,
    List.mem_flatMap.mpr ⟨_, hcpu, hmem⟩⟩⟩

end Run

-- Whatever is counted since the counters were enabled is sent, is still held, or
-- was taken by a tick that failed; and what a tick that did not fail consumed is
-- in the payload that it sent.
theorem ticks_account {order : hash_order} {config : perf_config} {target_name : String}
    {ctx ctx' : perf_context} {start t₀ t t' : kernel} {ticks : List tick}
    (hvalid : config.Valid) (hstart : start.wiring.opened = [])
    (hinit : Exec (kernel.step True)
      ( perf_events_groups_initialize order (perf_context_create config target_name))
      start (0, ctx) t₀)
    (henable : Exec (kernel.step True) (perf_events_groups_enable ctx) t₀ () t)
    (hrun : Run (TickStep order) (ctx, t) ticks (ctx', t')) :
    (∀ group pkg cpu name fd, ctx.counter group pkg cpu name = some fd →
      name ∉ reserved_names → values_sent ticks group pkg cpu name + t'.value fd +
        (ticks.map fun k => k.lost fd).sum = t'.counted fd) ∧
    ((∀ item ∈ config.events_groups, ∀ event ∈ item.2.events, event.name ∉ reserved_names) →
      ∀ k ∈ ticks, k.sent ≠ [] → ∀ c ∈ k.consumed, ∃ p ∈ k.sent, Carries p c) := by
  obtain ⟨hconfig, hready⟩ := exec_initialize_ready hinit hvalid.toKeyed rfl hstart
  have hconfig : ctx.config = config := hconfig
  subst hconfig
  obtain ⟨hoff, hbalanced⟩ := exec_initialize_off hinit hstart
  have hopened := hready.opened
  have hsound := hready.sound
  obtain ⟨hwiring, hbalanced', hzero⟩ := exec_enable_taken hsound hopened hoff hbalanced henable
  have hsound' : ContextSound t.wiring ctx := by
    rw [hwiring]
    exact hsound
  have haccounted := hrun.history (Accounted ctx t)
    ⟨SameSetup.refl ctx, rfl, hbalanced', by simp [values_sent], by simp⟩
    fun ls s k s' h hstep => tick_accounted hsound' h hstep
  refine ⟨?_, fun hreserved => haccounted.carries ?_⟩
  · intro group pkg cpu name fd hcounter hname
    have hfd := hopened fd (counter_mem hcounter)
    have htaken := haccounted.taken group pkg cpu name fd hcounter hname
    have hcounted := haccounted.balanced.counted fd (by rw [haccounted.wiring, hwiring]; exact hfd)
    rw [hzero fd hfd] at htaken
    dsimp only at htaken hcounted
    omega
  · intro group_item hgroup
    obtain ⟨item, hitem, -, hgroup_config, -⟩ := hready.built.of_mem hgroup
    rw [hgroup_config]
    exact hreserved item hitem

-- A first tick in which the second read fails, and a tick without failures.
def core_enabled : Unit × kernel :=
  (perf_events_groups_enable core_setup.1.2).run (counting fun _ => true) core_setup.2

def core_failed : perf_context × kernel :=
  (handle_ticker in_order core_setup.1.2 1).run (counting fun fd => fd ≠ 3) core_enabled.2

def core_sent : perf_context × kernel :=
  (handle_ticker in_order core_failed.1 2).run (counting fun _ => true) core_failed.2

theorem core_enabled_exec : Exec (kernel.step True)
    (perf_events_groups_enable core_setup.1.2) core_setup.2 () core_enabled.2 :=
  exec_run _ (counting_step True fun _ => true) _ _

theorem core_failed_run : Run (TickStep in_order) (core_setup.1.2, core_enabled.2)
    [⟨core_enabled.2, core_failed.2⟩] (core_failed.1, core_failed.2) :=
  .single ⟨rfl, 1, exec_run _ (counting_step True _) _ _⟩

theorem core_sent_run : Run (TickStep in_order) (core_setup.1.2, core_enabled.2)
    [⟨core_enabled.2, core_failed.2⟩, ⟨core_failed.2, core_sent.2⟩]
    (core_sent.1, core_sent.2) :=
  core_failed_run.snoc ⟨rfl, 2, exec_run _ (counting_step True _) _ _⟩

theorem core_valid : core_config.Valid :=
  ⟨⟨by decide, by decide⟩, by decide⟩

theorem ticks_account_core : values_sent [⟨core_enabled.2, core_failed.2⟩,
    ⟨core_failed.2, core_sent.2⟩] "core" "0" "1" "cycles" + core_sent.2.value 5 +
      (tick.lost ⟨core_enabled.2, core_failed.2⟩ 5 + tick.lost ⟨core_failed.2, core_sent.2⟩ 5) =
    core_sent.2.counted 5 := by
  have haccount := (ticks_account core_valid rfl (core_setup_exec True) core_enabled_exec
    core_sent_run).1 "core" "0" "1" "cycles" 5 (by decide) (by decide)
  simpa only [List.map_cons, List.map_nil, List.sum_cons, List.sum_nil, Nat.add_zero] using haccount

-- What the ticks would have to satisfy for nothing to be lost.
def Conserved (ctx : perf_context) (ticks : List tick) (t : kernel) : Prop :=
  (∀ group pkg cpu name fd, ctx.counter group pkg cpu name = some fd → name ∉ reserved_names →
    values_sent ticks group pkg cpu name + t.value fd = t.counted fd) ∧
  ∀ k ∈ ticks, ∀ c ∈ k.consumed, ∃ p ∈ ticks.flatMap tick.sent, Carries p c

-- What the first tick read before the failure was reset, and is not sent.
theorem failed_tick_loses :
    ¬ ∀ (order : hash_order) (config : perf_config) (target_name : String)
      (ctx ctx' : perf_context) (start t₀ t t' : kernel) (ticks : List tick),
      config.Valid → start.wiring.opened = [] →
      (∀ item ∈ config.events_groups, ∀ event ∈ item.2.events, event.name ∉ reserved_names) →
      Exec (kernel.step True)
        ( perf_events_groups_initialize order (perf_context_create config target_name))
        start (0, ctx) t₀ →
      Exec (kernel.step True) (perf_events_groups_enable ctx) t₀ () t →
      Run (TickStep order) (ctx, t) ticks (ctx', t') →
      Conserved ctx ticks t' := by
  intro hclaim
  have hconserved := hclaim _ _ _ _ core_failed.1 idle _ _ core_failed.2 _ core_valid rfl
    (by decide) (core_setup_exec True) core_enabled_exec core_failed_run
  have hcounter := hconserved.1 "core" "0" "1" "cycles" 5 (by decide) (by decide)
  exact absurd hcounter (by decide)

end Perf

end HwpcSensor
