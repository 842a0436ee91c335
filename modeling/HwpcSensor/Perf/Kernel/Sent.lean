import HwpcSensor.Perf.Actor.Names
import HwpcSensor.Perf.Actor.Systemwide
import HwpcSensor.Perf.Kernel.Ticks
import HwpcSensor.Storage.Csv.Reading
import HwpcSensor.Storage.Csv.Shared

namespace HwpcSensor

section Counters

open Storage

variable {p : payload}

theorem payload.Counters.entries (h : p.Counters) {group : String} {entry : report_entry}
    (hentry : entry ∈ payload_entries group p) :
    ZhashxEvery (fun value => ∃ n, value = .counter n) entry.events := by
  unfold payload_entries entries_in at hentry
  cases hlookup : zhashx_lookup p.groups group with
  | none => simp [hlookup] at hentry
  | some group_data =>
      rw [hlookup] at hentry
      obtain ⟨pkg, hpkg, hentry⟩ := List.mem_flatMap.mp hentry
      obtain ⟨cpu, hcpu, rfl⟩ := List.mem_map.mp hentry
      exact h _ (mem_of_zhashx_lookup hlookup) pkg hpkg cpu hcpu

theorem payload.Counters.value (h : p.Counters) {group : String} {entry : report_entry}
    (hentry : entry ∈ payload_entries group p) {column : String} {value : event_value}
    (hvalue : zhashx_lookup entry.events column = some value) : ∃ n, value = .counter n :=
  h.entries hentry _ (mem_of_zhashx_lookup hvalue)

end Counters

namespace Perf

open Interaction Storage Syscall Transition

-- A report of an actor without ring buffers.
structure SentReport (ctx : perf_context) (w : wiring) (p : payload) : Prop where
  collected : ∃ t t' : kernel, t'.wiring = w ∧ PayloadCollected True t t' ctx p
  counters : p.Counters
  target_name : p.target_name = ctx.target_name

section Tick

variable {order : hash_order} {ctx ctx' : perf_context} {t t' : kernel}

theorem perf_context.Ringless.setup (h : ctx.Ringless) (hsetup : SameSetup ctx ctx') :
    ctx'.Ringless := by
  obtain ⟨terminated, dwfl, rfl⟩ := hsetup
  exact h

-- A tick sends nothing, or one report.
theorem exec_handle_ticker_reports {timestamp : Nat} (hsound : ContextSound t.wiring ctx)
    (hring : ctx.Ringless)
    (h : Exec (kernel.step True) (handle_ticker order ctx timestamp) t ctx' t') :
    t'.sent = t.sent ∨ ∃ p, t'.sent = t.sent ++ [p] ∧ SentReport ctx t.wiring p := by
  obtain ⟨allocated, t₁, hmalloc, h₁⟩ := exec_bind.mp h
  obtain ⟨rfl, hstill⟩ := exec_malloc_still hmalloc
  rw [if_neg (by simp)] at h₁
  obtain ⟨dwfl, t₂, hdwfl, h₂⟩ := exec_bind.mp h₁
  have hbefore := hstill.trans (exec_still (passive_find_dwfl ctx) hdwfl)
  obtain ⟨populated, t₃, hpopulated, h₃⟩ := exec_bind.mp h₂
  have hsent := (exec_sent (populates_payload _ _) hpopulated).trans hbefore.sent
  by_cases hzero : populated.1 = 0
  · rw [if_neg (by simpa using hzero)] at h₃
    obtain ⟨_, t₄, hsend, h₄⟩ := exec_bind.mp h₃
    obtain ⟨-, rfl⟩ := exec_pure.mp h₄
    obtain ⟨m, hbetween, rfl⟩ := exec_perform.mp hsend
    have hsound' : ContextSound t₂.wiring { ctx with dwfl := dwfl } := by
      rw [hbefore.wiring]
      exact ⟨hsound.keys, hsound.groups, hsound.fds⟩
    obtain ⟨hcollected, hpasses, -⟩ := exec_populate_payload hpopulated hsound' rfl hzero
    have hring' : ({ ctx with dwfl := dwfl } : perf_context).Ringless := hring
    have hcounters := (populate_payload_counters hring' timestamp).exec hpopulated
    have hname := (populate_payload_name { ctx with dwfl := dwfl } _).exec hpopulated
    refine Or.inr ⟨populated.2.payload, ?_, ⟨t₂, t₃, ?_, hcollected⟩, hcounters, hname⟩
    · exact congrArg (· ++ _) (hbetween.still.sent.trans hsent)
    · exact hpasses.wiring.trans hbefore.wiring
  · rw [if_pos hzero] at h₃
    obtain ⟨-, rfl⟩ := exec_pure.mp h₃
    exact Or.inl hsent

end Tick

section Run

variable {order : hash_order} {ctx : perf_context} {t : kernel}

-- What the ticks of an actor without ring buffers have sent.
structure Reporting (ctx : perf_context) (w : wiring) (ticks : List tick)
    (s : perf_context × kernel) : Prop where
  setup : SameSetup ctx s.1
  wiring : s.2.wiring = w
  sent : ∀ p ∈ ticks.flatMap tick.sent, SentReport ctx w p

theorem SentReport.setup {ctx' : perf_context} {w : wiring} {p : payload}
    (h : SentReport ctx' w p) (hsetup : SameSetup ctx ctx') : SentReport ctx w p := by
  obtain ⟨terminated, dwfl, rfl⟩ := hsetup
  exact ⟨h.collected, h.counters, h.target_name⟩

theorem tick_reporting {w : wiring} {ticks : List tick} {s s' : perf_context × kernel} {k : tick}
    (hsound : ContextSound w ctx) (hring : ctx.Ringless) (h : Reporting ctx w ticks s)
    (hstep : TickStep order s k s') : Reporting ctx w (ticks ++ [k]) s' := by
  obtain ⟨rfl, timestamp, hexec⟩ := hstep
  have hsound' : ContextSound s.2.wiring s.1 := by
    obtain ⟨terminated, dwfl, hctx⟩ := h.setup
    rw [h.wiring, hctx]
    exact ⟨hsound.keys, hsound.groups, hsound.fds⟩
  have hwiring := exec_wiring (keeps_handle_ticker s.1 timestamp) hexec
  refine ⟨h.setup.trans (handle_ticker_same hexec), hwiring.trans h.wiring, ?_⟩
  rw [List.flatMap_append, List.flatMap_singleton]
  intro p hp
  rcases List.mem_append.mp hp with hold | hnew
  · exact h.sent p hold
  · rcases exec_handle_ticker_reports hsound' (hring.setup h.setup) hexec with
      hsame | ⟨q, hq, hreport⟩
    · simp [tick.sent, hsame] at hnew
    · obtain rfl : p = q := by simpa [tick.sent, hq] using hnew
      rw [h.wiring] at hreport
      exact hreport.setup h.setup

end Run

-- Such a report has all the groups of the actor, with counters for each of them.
theorem SentReport.reported {ctx : perf_context} {w : wiring} {p : payload}
    (h : SentReport ctx w p) (hvalid : ctx.config.Valid) (hdetected : ctx.config.hwinfo.Detected)
    (hready : ContextReady w ctx) : Storage.Reported ctx.config.events_groups p := by
  obtain ⟨t, t', rfl, hcollected⟩ := h.collected
  refine reported_of_collected hvalid.groups hdetected hready hcollected ?_
  intro group entry hentry text hcallchain
  obtain ⟨n, hn⟩ := h.counters.value hentry hcallchain
  exact absurd hn (by simp)

section Entries

variable {ctx : perf_context} {w : wiring} {p : payload}

theorem SentReport.keyed (h : SentReport ctx w p) : p.Keyed := by
  obtain ⟨t, t', -, hcollected⟩ := h.collected
  constructor
  · intro group hgroup
    obtain ⟨item, -, -, hpkgs⟩ := hcollected.of_mem hgroup
    exact hpkgs.distinct
  · intro group hgroup pkg hpkg
    obtain ⟨item, -, -, hpkgs⟩ := hcollected.of_mem hgroup
    obtain ⟨pkg_item, -, -, hcpus⟩ := hpkgs.of_mem hpkg
    exact hcpus.distinct

-- An entry is for a cpu of the machine.
theorem SentReport.entry (h : SentReport ctx w p) (hready : ContextReady w ctx)
    {group : String} {entry : report_entry} (hentry : entry ∈ payload_entries group p) :
    entry.target = ctx.target_name ∧ ∃ pkg ∈ ctx.config.hwinfo.pkgs, entry.socket = pkg.1 ∧
      entry.cpu ∈ pkg.2.cpus_id := by
  obtain ⟨t, t', rfl, hcollected⟩ := h.collected
  unfold payload_entries entries_in at hentry
  cases hlookup : zhashx_lookup p.groups group with
  | none => simp [hlookup] at hentry
  | some group_data =>
      rw [hlookup] at hentry
      obtain ⟨pkg, hpkg, hentry⟩ := List.mem_flatMap.mp hentry
      obtain ⟨cpu, hcpu, rfl⟩ := List.mem_map.mp hentry
      obtain ⟨item, hitem, -, group_ctx, ⟨-, hpkgs⟩, hgroup⟩ :=
        (hready.built.trans hcollected).of_mem (mem_of_zhashx_lookup hlookup)
      obtain ⟨pkg_item, hpkg_item, hname, pkg_ctx, hcpus, hpkg_collected⟩ :=
        (hpkgs.trans hgroup).of_mem hpkg
      obtain ⟨cpu_id, hcpu_id, hcpu_name, -⟩ := (hcpus.trans hpkg_collected).of_mem hcpu
      exact ⟨h.target_name, pkg_item, hpkg_item, hname.symm, hcpu_name ▸ selected_subset hcpu_id⟩

end Entries

end Perf

end HwpcSensor
