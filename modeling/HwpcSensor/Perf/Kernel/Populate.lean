import HwpcSensor.Perf.Kernel.Ready
import Mathlib.Tactic.ByContra

namespace HwpcSensor.Perf

open Interaction Syscall

section Values

variable (order : hash_order)

theorem nodup_store_values {values : List Nat} (group_events : List event_config) (event_i : Nat)
    {events : zhashx event_value} (h : (zhashx_keys events).Nodup) :
    (zhashx_keys (store_values order values group_events event_i events)).Nodup := by
  induction group_events generalizing event_i events with
  | nil => exact h
  | cons event rest ih => exact ih (event_i + 1) (nodup_zhashx_insert order h _ _)

-- A key that is present keeps its value, and the first event of a name gives it
-- the value at its position.
theorem lookup_store_values {values : List Nat} {group_events : List event_config} {event_i : Nat}
    {events : zhashx event_value} (hnodup : (zhashx_keys events).Nodup)
    (hlength : event_i + group_events.length ≤ values.length) (key : String) :
    zhashx_lookup (store_values order values group_events event_i events) key =
      (zhashx_lookup events key).or
        (((group_events.zip (values.drop event_i)).find? fun pair => pair.1.name = key).map
          fun pair => .counter pair.2) := by
  induction group_events generalizing event_i events with
  | nil => simp [store_values]
  | cons event rest ih =>
      have hlt : event_i < values.length := by
        simp only [List.length_cons] at hlength
        omega
      have hrest : event_i + 1 + rest.length ≤ values.length := by
        simp only [List.length_cons] at hlength
        omega
      unfold store_values
      rw [ih (nodup_zhashx_insert order hnodup _ _) hrest, zhashx_lookup_insert order hnodup,
        List.drop_eq_getElem_cons hlt, List.zip_cons_cons, List.getD_eq_getElem?_getD,
        List.getElem?_eq_getElem hlt, Option.getD_some]
      by_cases hname : event.name = key
      · subst hname
        rw [if_pos rfl, List.find?_cons_of_pos (by simp)]
        cases zhashx_lookup events event.name <;> rfl
      · rw [if_neg hname, List.find?_cons_of_neg (by simpa using hname)]

end Values

-- The first of the counters of a cpu that was opened for an event of that name.
def counter_of (group : events_group) (fds : List Int) (name : String) : Option Int :=
  ((group.events.zip fds).find? fun pair => pair.1.name = name).map Prod.snd

-- What the key of an entry is worth, for a reading of the counters of a cpu.
def entry_value (group : events_group) (fds : List Int) (r : reading) (key : String) :
    Option event_value :=
  if key = "time_enabled" then some (.counter r.time_enabled)
  else if key = "time_running" then some (.counter r.time_running)
  else (counter_of group fds key).map fun fd => .counter (r.value fd)

structure Entry (group : events_group) (fds : List Int) (r : reading) (text : Option (List Char))
    (events : zhashx event_value) : Prop where
  nodup : (zhashx_keys events).Nodup
  lookup : ∀ key, zhashx_lookup events key = (entry_value group fds r key).or
    (if key = "callchain" then text.map .callchain else none)

theorem entry_of_report (order : hash_order) {group : events_group} {fds : List Int} {r : reading}
    (hlength : fds.length = group.events.length) :
    Entry group fds r none (store_report order group.events
      ⟨fds.length, r.time_enabled, r.time_running, fds.map r.value⟩
        payload_cpu_data_create.events) := by
  have hnil : (zhashx_keys payload_cpu_data_create.events).Nodup := List.nodup_nil
  have henabled := nodup_zhashx_insert order hnil "time_enabled" (.counter r.time_enabled)
  have hrunning := nodup_zhashx_insert order henabled "time_running" (.counter r.time_running)
  have hnone : ∀ key, zhashx_lookup payload_cpu_data_create.events key = none := fun _ => rfl
  refine ⟨nodup_store_values order _ _ hrunning, fun key => ?_⟩
  have hvalues : ((group.events.zip ((fds.map r.value).drop 0)).find? fun pair =>
        pair.1.name = key).map (fun pair => event_value.counter pair.2) =
      (counter_of group fds key).map fun fd => event_value.counter (r.value fd) := by
    rw [List.drop_zero, List.zip_map_right, List.find?_map, Option.map_map, counter_of,
      Option.map_map]
    rfl
  unfold store_report entry_value
  dsimp only
  rw [lookup_store_values order hrunning (by simp [hlength]), hvalues,
    zhashx_lookup_insert order henabled, zhashx_lookup_insert order hnil,
    zhashx_lookup_insert order hnil, hnone]
  by_cases hkey : key = "time_enabled"
  · subst hkey
    simp
  · by_cases hkey' : key = "time_running"
    · subst hkey'
      simp [hnone]
    · simp [hkey, hkey', Ne.symm hkey, Ne.symm hkey', hnone]

variable {atomic : Prop} {t t' t'' : kernel}

theorem exec_malloc_still {allocated : Bool}
    (h : Exec (kernel.step atomic) malloc t allocated t') : allocated = true ∧ Still t t' := by
  refine ⟨?_, exec_still (Prog.Uses.perform (show Passive .malloc from trivial)) h⟩
  obtain ⟨m, -, hallocated, -⟩ := exec_perform.mp h
  exact hallocated

-- A successful read and reset of a leader.
structure Reads (atomic : Prop) (leader : Int) (r : reading) (t t' : kernel) : Prop where
  leader_eq : r.leader = leader
  wiring : t'.wiring = t.wiring
  readings : t'.readings = t.readings ++ [r]
  consumed : t'.consumed = t.consumed
  sent : t'.sent = t.sent
  others : ∀ fd, fd ∉ t.members leader → t'.taken fd = t.taken fd
  taken : atomic → ∀ fd ∈ t.members leader, t'.taken fd = t.taken fd + r.value fd

theorem exec_read_cpu {cpu_ctx : perf_group_cpu_context} {size : Nat} {report : perf_read_format}
    (h : Exec (kernel.step atomic) (perf_events_group_read_cpu cpu_ctx size) t (some report) t') :
    ∃ leader fds r, cpu_ctx.perf_fds = leader :: fds ∧
      size = perf_read_size (t.members leader).length ∧
      report = ⟨(t.members leader).length, r.time_enabled, r.time_running,
        (t.members leader).map r.value⟩ ∧ Reads atomic leader r t t' := by
  unfold perf_events_group_read_cpu at h
  cases hfds : cpu_ctx.perf_fds with
  | nil =>
      rw [hfds] at h
      obtain ⟨hresult, -⟩ := exec_pure.mp h
      exact absurd hresult (by simp)
  | cons leader fds =>
      rw [hfds] at h
      obtain ⟨answer, t₁, hread, h₁⟩ := exec_bind.mp h
      cases answer with
      | none =>
          obtain ⟨hresult, -⟩ := exec_pure.mp h₁
          exact absurd hresult (by simp)
      | some answer =>
          obtain ⟨err, t₂, hreset, h₂⟩ := exec_bind.mp h₁
          by_cases herr : err = 0
          · rw [if_neg (by simpa using herr)] at h₂
            obtain ⟨hresult, rfl⟩ := exec_pure.mp h₂
            obtain rfl := Option.some.inj hresult
            obtain ⟨m, hbetween, -, hsize, hreport, rfl⟩ := exec_perform.mp hread
            obtain ⟨m', hbetween', hserve⟩ := exec_perform.mp hreset
            rcases hserve with ⟨-, -, rfl⟩ | ⟨hne, -⟩
            · have hstill := hbetween.still
              have hstill' := hbetween'.still
              have hmembers : m.members leader = t.members leader := by
                unfold kernel.members
                rw [hstill.wiring]
              have hmembers' : m'.members leader = t.members leader := by
                unfold kernel.members
                rw [hstill'.wiring, ← hstill.wiring]
                rfl
              refine ⟨leader, fds, m.reading leader, rfl, hmembers ▸ hsize, ?_, rfl, ?_, ?_, ?_, ?_,
                ?_, ?_⟩
              · rw [hreport]
                unfold kernel.report
                rw [hmembers]
                rfl
              · exact hstill'.wiring.trans hstill.wiring
              · exact hstill'.readings.trans (congrArg (· ++ _) hstill.readings)
              · exact hstill'.consumed.trans hstill.consumed
              · exact hstill'.sent.trans hstill.sent
              · intro fd hfd
                simp only [kernel.reset]
                rw [hmembers', if_neg hfd, hstill'.taken]
                exact congrFun hstill.taken fd
              · intro hatomic fd hfd
                simp only [kernel.reset]
                rw [hmembers', if_pos hfd, hstill'.taken, show (m.read leader).taken = t.taken from
                  hstill.taken]
                cases hbetween' with
                | count counts times rings hcounts hrings =>
                    have hnone : counts fd = 0 := by
                      by_contra hne
                      refine (hcounts fd (Nat.pos_of_ne_zero hne)).2 hatomic leader rfl ?_
                      rw [← hmembers] at hfd
                      exact hfd
                    simp [hnone, kernel.read, kernel.reading]
            · exact absurd herr hne
          · rw [if_pos herr] at h₂
            obtain ⟨hresult, -⟩ := exec_pure.mp h₂
            exact absurd hresult (by simp)

theorem Entry.callchain (order : hash_order) {group : events_group} {fds : List Int} {r : reading}
    {events : zhashx event_value} (h : Entry group fds r none events) (text : List Char) :
    Entry group fds r (some text)
      (zhashx_insert order events "callchain" (.callchain text)) := by
  refine ⟨nodup_zhashx_insert order h.nodup _ _, fun key => ?_⟩
  rw [zhashx_lookup_insert order h.nodup, h.lookup, h.lookup]
  by_cases hkey : key = "callchain"
  · subst hkey
    cases entry_value group fds r "callchain" <;> rfl
  · simp [hkey, Ne.symm hkey]

-- The texts taken from the rings in between satisfy a property.
def Reports (P : consumption → Prop) (t t' : kernel) : Prop :=
  ∃ new, t'.consumed = t.consumed ++ new ∧ ∀ c ∈ new, P c

theorem Reports.of_eq {P : consumption → Prop} (h : t'.consumed = t.consumed) : Reports P t t' :=
  ⟨[], by simpa using h, by simp⟩

theorem Reports.trans {P Q R : consumption → Prop} (h : Reports P t t') (h' : Reports Q t' t'')
    (hP : ∀ c, P c → R c) (hQ : ∀ c, Q c → R c) : Reports R t t'' := by
  obtain ⟨new, hnew, hall⟩ := h
  obtain ⟨new', hnew', hall'⟩ := h'
  refine ⟨new ++ new', by rw [hnew', hnew, List.append_assoc], ?_⟩
  exact List.forall_mem_append.mpr ⟨fun c hc => hP c (hall c hc), fun c hc => hQ c (hall' c hc)⟩

theorem exec_store_callchain {order : hash_order} {dwfl : Option Dwfl} {buffer : Option Nat}
    {group : events_group} {fds : List Int} {r : reading} {events events' : zhashx event_value}
    (hentry : Entry group fds r none events)
    (h : Exec (kernel.step atomic) (store_callchain order dwfl buffer events) t events' t') :
    ∃ text, Entry group fds r text events' ∧ Reports (fun c => c.text = text) t t' ∧
      t'.wiring = t.wiring ∧ t'.readings = t.readings ∧ t'.taken = t.taken ∧ t'.sent = t.sent := by
  unfold store_callchain at h
  cases buffer with
  | none =>
      obtain ⟨rfl, rfl⟩ := exec_pure.mp h
      exact ⟨none, hentry, Reports.of_eq rfl, rfl, rfl, rfl, rfl⟩
  | some buffer =>
      obtain ⟨text, t₁, hcall, h₁⟩ := exec_bind.mp h
      obtain ⟨m, hbetween, hserve⟩ := exec_perform.mp hcall
      have hstill := hbetween.still
      have hcallchain : Entry group fds r text events' ∧ t' = t₁ := by
        cases text with
        | none =>
            obtain ⟨rfl, rfl⟩ := exec_pure.mp h₁
            exact ⟨hentry, rfl⟩
        | some text =>
            obtain ⟨rfl, rfl⟩ := exec_pure.mp h₁
            exact ⟨hentry.callchain order text, rfl⟩
      obtain ⟨hentry', rfl⟩ := hcallchain
      refine ⟨text, hentry', ?_⟩
      simp only [kernel.Serve] at hserve
      cases hring : m.rings buffer with
      | none =>
          rw [hring] at hserve
          obtain rfl : t' = m.forget := hserve
          exact ⟨Reports.of_eq hstill.consumed, hstill.wiring, hstill.readings, hstill.taken,
            hstill.sent⟩
      | some ring =>
          rw [hring] at hserve
          obtain ⟨mem, -, rfl⟩ := hserve
          exact ⟨⟨_, congrArg (· ++ _) hstill.consumed, by simp⟩, hstill.wiring, hstill.readings,
            hstill.taken, hstill.sent⟩

-- What happens to the kernel while some of the cpus are read.
structure Passes (fds : List Int) (t t' : kernel) : Prop where
  wiring : t'.wiring = t.wiring
  readings : t.readings <+: t'.readings
  others : ∀ fd, fd ∉ fds → t'.taken fd = t.taken fd
  sent : t'.sent = t.sent

theorem Still.passes (h : Still t t') : Passes [] t t' :=
  ⟨h.wiring, h.readings ▸ List.prefix_refl _, fun fd _ => congrFun h.taken fd, h.sent⟩

theorem Passes.trans {fds fds' : List Int} (h : Passes fds t t') (h' : Passes fds' t' t'') :
    Passes (fds ++ fds') t t'' := by
  refine ⟨h'.wiring.trans h.wiring, h.readings.trans h'.readings, ?_, h'.sent.trans h.sent⟩
  intro fd hfd
  rw [List.mem_append, not_or] at hfd
  rw [h'.others fd hfd.2, h.others fd hfd.1]

-- The data of a cpu come from one reading of its leader, and with `atomic` the
-- reset that followed took from every counter what was read.
structure Collected (atomic : Prop) (group : events_group) (t t' : kernel)
    (cpu_ctx : perf_group_cpu_context) (data : payload_cpu_data) : Prop where
  intro ::
  exists_reading : ∃ r text, (∃ new, t'.readings = t.readings ++ new ∧ r ∈ new) ∧
    cpu_ctx.perf_fds.head? = some r.leader ∧ Entry group cpu_ctx.perf_fds r text data.events ∧
    (atomic → ∀ fd ∈ cpu_ctx.perf_fds, t'.taken fd = t.taken fd + r.value fd)

theorem Collected.earlier {group : events_group} {cpu_ctx : perf_group_cpu_context}
    {data : payload_cpu_data} {fds : List Int} (h : Collected atomic group t' t'' cpu_ctx data)
    (hpasses : Passes fds t t') (hdisjoint : List.Disjoint fds cpu_ctx.perf_fds) :
    Collected atomic group t t'' cpu_ctx data := by
  obtain ⟨r, text, ⟨new, hnew, hr⟩, hleader, hentry, htaken⟩ := h
  obtain ⟨before, hbefore⟩ := hpasses.readings
  refine ⟨r, text, ⟨before ++ new, ?_, List.mem_append_right _ hr⟩, hleader, hentry, ?_⟩
  · rw [hnew, ← hbefore, List.append_assoc]
  · intro hatomic fd hfd
    rw [htaken hatomic fd hfd, hpasses.others fd fun hmem => hdisjoint hmem hfd]

theorem Collected.later {group : events_group} {cpu_ctx : perf_group_cpu_context}
    {data : payload_cpu_data} {fds : List Int} (h : Collected atomic group t t' cpu_ctx data)
    (hpasses : Passes fds t' t'') (hdisjoint : List.Disjoint fds cpu_ctx.perf_fds) :
    Collected atomic group t t'' cpu_ctx data := by
  obtain ⟨r, text, ⟨new, hnew, hr⟩, hleader, hentry, htaken⟩ := h
  obtain ⟨after, hafter⟩ := hpasses.readings
  refine ⟨r, text, ⟨new ++ after, ?_, List.mem_append_left _ hr⟩, hleader, hentry, ?_⟩
  · rw [← hafter, hnew, List.append_assoc]
  · intro hatomic fd hfd
    rw [hpasses.others fd fun hmem => hdisjoint hmem hfd, htaken hatomic fd hfd]

-- The text of a consumption stands in the entry of a cpu.
def CpuReports (group : events_group) (_ : perf_group_cpu_context) (data : payload_cpu_data)
    (c : consumption) : Prop :=
  ∃ fds r, Entry group fds r c.text data.events

theorem exec_populate_cpu {order : hash_order} {dwfl : Option Dwfl} {group : events_group}
    {item : String × perf_group_cpu_context} {s : populate_state} {result : Int × populate_state}
    (hmembers : ∀ leader, item.2.perf_fds.head? = some leader →
      t.wiring.members leader = item.2.perf_fds)
    (h : Exec (kernel.step atomic) (populate_cpu order dwfl group item s) t result t')
    (hok : result.1 = 0) :
    ∃ events, result.2 = s.store_cpu order item.1 events ∧
      Collected atomic group t t' item.2 ⟨events⟩ ∧ Passes item.2.perf_fds t t' ∧
      Reports (CpuReports group item.2 ⟨events⟩) t t' := by
  obtain ⟨allocated, t₁, hmalloc, h₁⟩ := exec_bind.mp h
  obtain ⟨rfl, hstill⟩ := exec_malloc_still hmalloc
  rw [if_neg (by simp)] at h₁
  obtain ⟨report, t₂, hread, h₂⟩ := exec_bind.mp h₁
  cases report with
  | none =>
      obtain ⟨rfl, -⟩ := exec_pure.mp h₂
      exact absurd hok (by simp)
  | some report =>
      obtain ⟨leader, fds, r, hfds, hsize, hreport, hreads⟩ := exec_read_cpu hread
      have hgroup : t₁.members leader = item.2.perf_fds := by
        unfold kernel.members
        rw [hstill.wiring]
        exact hmembers leader (by rw [hfds]; rfl)
      rw [hgroup] at hsize hreport
      have hlength : item.2.perf_fds.length = group.events.length := by
        unfold perf_read_size at hsize
        omega
      subst hreport
      obtain ⟨_, t₃, hwarn, h₃⟩ := exec_bind.mp h₂
      obtain ⟨events, t₄, hcallchain, h₄⟩ := exec_bind.mp h₃
      obtain ⟨rfl, rfl⟩ := exec_pure.mp h₄
      have hstill' := exec_still (passive_warn_multiplexing _) hwarn
      obtain ⟨text, hentry, hreports, hwiring, hreadings, htaken, hsent⟩ :=
        exec_store_callchain (entry_of_report order hlength) hcallchain
      have hreadings' : t'.readings = t.readings ++ [r] := by
        rw [hreadings, hstill'.readings, hreads.readings, hstill.readings]
      refine ⟨events, rfl, ⟨r, text, ⟨[r], hreadings', by simp⟩, ?_, hentry, ?_⟩, ⟨?_, ?_, ?_, ?_⟩,
        ?_⟩
      · rw [hfds, hreads.leader_eq]
        rfl
      · intro hatomic fd hfd
        rw [htaken, hstill'.taken, hreads.taken hatomic fd (hgroup ▸ hfd), hstill.taken]
      · rw [hwiring, hstill'.wiring, hreads.wiring, hstill.wiring]
      · rw [hreadings']
        exact List.prefix_append _ _
      · intro fd hfd
        rw [htaken, hstill'.taken, hreads.others fd (hgroup ▸ hfd), hstill.taken]
      · rw [hsent, hstill'.sent, hreads.sent, hstill.sent]
      · have hbefore : t₃.consumed = t.consumed := by
          rw [hstill'.consumed, hreads.consumed, hstill.consumed]
        obtain ⟨new, hnew, hall⟩ := hreports
        refine ⟨new, by rw [hnew, hbefore], fun c hc => ?_⟩
        obtain rfl := hall c hc
        exact ⟨_, r, hentry⟩

end HwpcSensor.Perf
