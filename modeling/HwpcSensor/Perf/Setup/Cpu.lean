import HwpcSensor.Hwinfo.Lemmas
import HwpcSensor.Perf.Kernel.Wiring

namespace HwpcSensor.Perf

open Interaction Syscall

-- A log of what counters are asked for. Any answer is possible.
def request_step : Semantics syscall syscall_answer (List perf_request) :=
  fun requests call _ requests' =>
    match call with
    | .perf_event_open attr pid cpu group_fd flags =>
        requests' = requests ++ [⟨attr, pid, cpu, group_fd, flags⟩]
    | _ => requests' = requests

-- Nothing is asked for before the error.
def FailsUnopened (setup : program (Int × perf_group_cpu_context)) : Prop :=
  ∀ result requests, Exec request_step setup [] result requests →
    result.1 = -1 ∧ requests = []

-- The events have been asked for on this cpu one after the other: all of them when
-- the call returned 0, and else up to one that could not be opened.
def AskedFor (ctx : perf_context) (perf_flags : Nat) (cpu : Int) (events : List event_config)
    (result : Int) (requests : List perf_request) : Prop :=
  ∃ leader,
    requests <+: group_requests ctx.cgroup_fd ctx.config.callchain_frequency perf_flags cpu leader
      events ∧
    (result = 0 → requests = group_requests ctx.cgroup_fd ctx.config.callchain_frequency
      perf_flags cpu leader events)

def OpensEvents (ctx : perf_context) (perf_flags : Nat) (group : events_group) (cpu : Int)
    (setup : program (Int × perf_group_cpu_context)) : Prop :=
  ∀ result requests, Exec request_step setup [] result requests →
    AskedFor ctx perf_flags cpu group.events result.1 requests

-- The id stands for its decimal value, which has to be an `int`.
structure OpensDetected (ctx : perf_context) (perf_flags : Nat) (group : events_group)
    (cpu_id : String) (setup : program (Int × perf_group_cpu_context)) : Prop where
  opens : FailsUnopened setup ∨
    OpensEvents ctx perf_flags group (strtol_number 10 cpu_id.toList) setup
  range : (strtol_number 10 cpu_id.toList : Int) > INT_MAX → FailsUnopened setup

-- The id is read as an octal number, which is another one, and which is an `int`.
def Misread (cpu_id : String) : Prop :=
  cpu_id.toList.head? = some '0' ∧ Octal cpu_id.toList ∧
    1 < (cpu_id.toList.dropWhile (· = '0')).length ∧
    (strtol_number 8 cpu_id.toList : Int) ≤ INT_MAX

section Parse

variable {cpu_id : String}

theorem parse_cpu_id_of_denoted {n : Nat} (h : denoted cpu_id.toList 0 = some (n : Int)) :
    parse_cpu_id cpu_id = if (n : Int) > INT_MAX then none else some (n : Int) := by
  have hne : cpu_id ≠ "" := by
    rintro rfl
    cases h
  have hmin : ¬(n : Int) < LONG_MIN := by
    unfold LONG_MIN
    omega
  have hmin' : ¬(n : Int) < INT_MIN := by
    unfold INT_MIN
    omega
  unfold parse_cpu_id
  rw [strtol_of_denoted h, if_neg hmin]
  by_cases hlong : (n : Int) > LONG_MAX
  · have hint : (n : Int) > INT_MAX := by
      unfold LONG_MAX at hlong
      unfold INT_MAX
      omega
    simp [hlong, hint]
  · simp [hlong, hne, hmin']

theorem parse_cpu_id_of_not_denoted (hne : cpu_id.toList ≠ [])
    (h : denoted cpu_id.toList 0 = none) : parse_cpu_id cpu_id = none := by
  have hrest : (strtol cpu_id.toList 0).rest ≠ [] := by
    rcases strtol_of_not_denoted h with heq | hne'
    · rw [heq]
      exact hne
    · exact hne'
  unfold parse_cpu_id
  exact if_pos (Or.inr (Or.inl hrest))

-- What is made of a string of digits.
theorem parse_cpu_id_digits (hne : cpu_id.toList ≠ [])
    (hdigits : ∀ c ∈ cpu_id.toList, c.isDigit) :
    parse_cpu_id cpu_id =
      if cpu_id.toList.head? = some '0' then
        if Octal cpu_id.toList ∧ (strtol_number 8 cpu_id.toList : Int) ≤ INT_MAX then
          some (strtol_number 8 cpu_id.toList : Int)
        else none
      else if (strtol_number 10 cpu_id.toList : Int) > INT_MAX then none
      else some (strtol_number 10 cpu_id.toList : Int) := by
  have hdenoted := denoted_digits hne hdigits
  by_cases hzero : cpu_id.toList.head? = some '0'
  · rw [if_pos hzero] at hdenoted ⊢
    by_cases hoctal : Octal cpu_id.toList
    · rw [if_pos hoctal] at hdenoted
      rw [parse_cpu_id_of_denoted hdenoted]
      by_cases hint : (strtol_number 8 cpu_id.toList : Int) ≤ INT_MAX
      · rw [if_neg (not_lt.mpr hint), if_pos ⟨hoctal, hint⟩]
      · rw [if_pos (not_le.mp hint), if_neg fun h => hint h.2]
    · rw [if_neg hoctal] at hdenoted
      rw [parse_cpu_id_of_not_denoted hne hdenoted, if_neg fun h => hoctal h.1]
  · rw [if_neg hzero] at hdenoted ⊢
    exact parse_cpu_id_of_denoted hdenoted

end Parse

section Open

variable {ctx : perf_context} {perf_flags : Nat} {cpu : Int}
  {result : Int × perf_group_cpu_context} {requests requests' : List perf_request}

theorem exec_open_bind {attr : perf_event_attr} {pid group_fd : Int} {flags : Nat}
    {f : Int → program (Int × perf_group_cpu_context)} :
    Exec request_step (perf_event_open attr pid cpu group_fd flags >>= f) requests result
        requests' ↔
      ∃ fd, Exec request_step (f fd) (requests ++ [⟨attr, pid, cpu, group_fd, flags⟩]) result
        requests' := by
  constructor
  · intro h
    obtain ⟨fd, _, rfl, hrest⟩ := exec_perform_bind.mp h
    exact ⟨fd, hrest⟩
  · rintro ⟨fd, hrest⟩
    exact exec_perform_bind.mpr ⟨fd, _, rfl, hrest⟩

-- Behind the leader, up to an event that cannot be opened.
theorem exec_request_members {leader : Int} (hleader : leader ≠ -1)
    {events : List event_config} {cpu_ctx : perf_group_cpu_context}
    (h : Exec request_step (open_events ctx perf_flags cpu leader events cpu_ctx) requests result
      requests') :
    ∃ more, requests' = requests ++ more ∧
      more <+: events.map (member_request ctx.cgroup_fd perf_flags cpu leader) ∧
      (result.1 = 0 → more = events.map (member_request ctx.cgroup_fd perf_flags cpu leader)) := by
  induction events generalizing cpu_ctx requests with
  | nil =>
      obtain ⟨rfl, rfl⟩ := exec_pure.mp h
      exact ⟨[], (List.append_nil _).symm, List.nil_prefix, fun _ => rfl⟩
  | cons event events ih =>
      unfold open_events at h
      rw [if_neg fun hleads => hleader hleads.1] at h
      obtain ⟨fd, h⟩ := exec_open_bind.mp h
      rw [List.map_cons]
      by_cases hfd : fd < 1
      · rw [if_pos hfd] at h
        obtain ⟨rfl, rfl⟩ := exec_pure.mp h
        refine ⟨[member_request ctx.cgroup_fd perf_flags cpu leader event], rfl, ?_, ?_⟩
        · exact List.prefix_append _ _
        · exact fun hok => absurd hok (by simp)
      · rw [if_neg hfd, if_neg hleader] at h
        obtain ⟨more, rfl, hmore, hall⟩ := ih h
        refine ⟨member_request ctx.cgroup_fd perf_flags cpu leader event :: more, ?_, ?_, ?_⟩
        · rw [List.append_assoc]
          rfl
        · exact List.cons_prefix_cons.mpr ⟨rfl, hmore⟩
        · exact fun hok => by rw [hall hok]

section Leader

variable {event : event_config} {events : List event_config} {cpu_ctx : perf_group_cpu_context}

theorem asked_for_leader : AskedFor ctx perf_flags cpu (event :: events) (-1)
    [leader_request ctx.cgroup_fd ctx.config.callchain_frequency perf_flags cpu event] :=
  ⟨0, List.prefix_append [_] _, fun hok => absurd hok (by decide)⟩

theorem asked_for_members {leader : Int} (hleader : 1 ≤ leader)
    (h : Exec request_step (open_events ctx perf_flags cpu leader events cpu_ctx)
      [leader_request ctx.cgroup_fd ctx.config.callchain_frequency perf_flags cpu event] result
      requests) :
    AskedFor ctx perf_flags cpu (event :: events) result.1 requests := by
  obtain ⟨more, rfl, hmore, hall⟩ := exec_request_members (by omega) h
  refine ⟨leader, List.cons_prefix_cons.mpr ⟨rfl, hmore⟩, fun hok => ?_⟩
  rw [hall hok]
  rfl

end Leader

theorem opens_events_open (ctx : perf_context) (perf_flags : Nat) (cpu : Int)
    (group : events_group) (cpu_ctx : perf_group_cpu_context) :
    OpensEvents ctx perf_flags group cpu
      (open_events ctx perf_flags cpu (-1) group.events cpu_ctx) := by
  intro result requests h
  cases hevents : group.events with
  | nil =>
      rw [hevents] at h
      obtain ⟨rfl, rfl⟩ := exec_pure.mp h
      exact ⟨0, List.nil_prefix, fun _ => rfl⟩
  | cons event events =>
      rw [hevents] at h
      unfold open_events at h
      have hlead :
          leader_request ctx.cgroup_fd ctx.config.callchain_frequency perf_flags cpu event =
          ⟨if ctx.cgroup_fd > -1 then sampling_attr event.attr ctx.config.callchain_frequency
            else event.attr, ctx.cgroup_fd, cpu, -1, perf_flags⟩ := rfl
      by_cases hsampled : ctx.cgroup_fd > -1
      · rw [if_pos ⟨rfl, hsampled⟩] at h
        rw [if_pos hsampled] at hlead
        obtain ⟨fd, h⟩ := exec_open_bind.mp h
        rw [List.nil_append, ← hlead] at h
        by_cases hfd : fd < 1
        · rw [if_pos hfd] at h
          obtain ⟨rfl, rfl⟩ := exec_pure.mp h
          exact asked_for_leader
        · rw [if_neg hfd] at h
          obtain ⟨buffer, _, rfl, h⟩ := exec_perform_bind.mp h
          cases buffer with
          | none =>
              obtain ⟨rfl, rfl⟩ := exec_pure.mp h
              exact asked_for_leader
          | some buffer => exact asked_for_members (by omega) h
      · rw [if_neg fun hleads => hsampled hleads.2] at h
        rw [if_neg hsampled] at hlead
        obtain ⟨fd, h⟩ := exec_open_bind.mp h
        rw [List.nil_append, ← hlead] at h
        by_cases hfd : fd < 1
        · rw [if_pos hfd] at h
          obtain ⟨rfl, rfl⟩ := exec_pure.mp h
          exact asked_for_leader
        · rw [if_neg hfd, if_pos rfl] at h
          exact asked_for_members (by omega) h

-- The first event is asked for, whatever becomes of it.
theorem exec_first_request (event : event_config) (events : List event_config)
    (cpu_ctx : perf_group_cpu_context) :
    Exec request_step (open_events ctx perf_flags cpu (-1) (event :: events) cpu_ctx) []
      (-1, cpu_ctx)
      [leader_request ctx.cgroup_fd ctx.config.callchain_frequency perf_flags cpu event] := by
  unfold open_events
  by_cases hsampled : ctx.cgroup_fd > -1
  · rw [if_pos ⟨rfl, hsampled⟩, leader_request, if_pos hsampled]
    exact exec_open_bind.mpr ⟨0, exec_pure.mpr ⟨rfl, rfl⟩⟩
  · rw [if_neg fun hleads => hsampled hleads.2, leader_request, if_neg hsampled]
    exact exec_open_bind.mpr ⟨0, exec_pure.mpr ⟨rfl, rfl⟩⟩

theorem fails_unopened_pure (cpu_ctx : perf_group_cpu_context) :
    FailsUnopened (pure (-1, cpu_ctx)) := by
  intro result requests h
  obtain ⟨rfl, rfl⟩ := exec_pure.mp h
  exact ⟨rfl, rfl⟩

theorem not_fails_unopened_open (events : List event_config) (cpu_ctx : perf_group_cpu_context) :
    ¬FailsUnopened (open_events ctx perf_flags cpu (-1) events cpu_ctx) := by
  intro hfails
  cases events with
  | nil => exact absurd (hfails (0, cpu_ctx) [] (exec_pure.mpr ⟨rfl, rfl⟩)).1 (by simp)
  | cons event events =>
      exact absurd (hfails _ _ (exec_first_request event events cpu_ctx)).2 (by simp)

-- Another cpu than the one that the first event is asked for on.
theorem not_opens_events_open {group : events_group} (hevents : group.events ≠ []) {other : Int}
    (hother : cpu ≠ other) (cpu_ctx : perf_group_cpu_context) :
    ¬OpensEvents ctx perf_flags group other
      (open_events ctx perf_flags cpu (-1) group.events cpu_ctx) := by
  intro hopens
  obtain ⟨event, events, hcons⟩ := List.exists_cons_of_ne_nil hevents
  have hexec : Exec request_step (open_events ctx perf_flags cpu (-1) group.events cpu_ctx) []
      (-1, cpu_ctx)
      [leader_request ctx.cgroup_fd ctx.config.callchain_frequency perf_flags cpu event] := by
    rw [hcons]
    exact exec_first_request event events cpu_ctx
  obtain ⟨leader, hprefix, -⟩ := hopens _ _ hexec
  rw [hcons, group_requests, List.cons_prefix_cons] at hprefix
  exact hother (congrArg perf_request.cpu hprefix.1)

-- The events are opened on a cpu that is not the one detected.
theorem opens_detected_other_iff {group : events_group} {cpu_id : String}
    (hother : cpu ≠ strtol_number 10 cpu_id.toList) (cpu_ctx : perf_group_cpu_context) :
    OpensDetected ctx perf_flags group cpu_id
        (open_events ctx perf_flags cpu (-1) group.events cpu_ctx) ↔
      group.events = [] ∧ (strtol_number 10 cpu_id.toList : Int) ≤ INT_MAX := by
  constructor
  · rintro ⟨hopens, hrange⟩
    refine ⟨?_, not_lt.mp fun h => not_fails_unopened_open _ _ (hrange h)⟩
    by_contra hevents
    rcases hopens with hfails | hopens
    · exact not_fails_unopened_open _ _ hfails
    · exact not_opens_events_open hevents hother cpu_ctx hopens
  · rintro ⟨hevents, hint⟩
    refine ⟨Or.inr ?_, fun h => absurd hint (not_le.mpr h)⟩
    have hopens := opens_events_open ctx perf_flags (strtol_number 10 cpu_id.toList) group cpu_ctx
    simpa only [hevents, open_events] using hopens

end Open

-- A detected cpu is the one that is opened, unless its id is misread. A group
-- without events opens nothing on any cpu.
theorem detected_cpu_opened_iff (ctx : perf_context) (cpu_ctx : perf_group_cpu_context)
    (group : events_group) (perf_flags : Nat) {name cpu_id : String}
    (hname : parse_cpu_id_from_name name = some cpu_id) :
    OpensDetected ctx perf_flags group cpu_id
        (perf_events_group_setup_cpu ctx cpu_ctx group perf_flags cpu_id) ↔
      ¬Misread cpu_id ∨
        (group.events = [] ∧ (strtol_number 10 cpu_id.toList : Int) ≤ INT_MAX) := by
  obtain ⟨-, hne, hdigits⟩ := parse_cpu_id_from_name_eq_some.mp hname
  have hparse := parse_cpu_id_digits hne hdigits
  have hvalues := octal_eq_decimal_iff cpu_id.toList hdigits
  unfold perf_events_group_setup_cpu
  by_cases hzero : cpu_id.toList.head? = some '0'
  · rw [if_pos hzero] at hparse
    by_cases hread : Octal cpu_id.toList ∧ (strtol_number 8 cpu_id.toList : Int) ≤ INT_MAX
    · rw [if_pos hread] at hparse
      rw [hparse]
      by_cases hshort : (cpu_id.toList.dropWhile (· = '0')).length ≤ 1
      · refine iff_of_true ?_ (Or.inl fun h => absurd h.2.2.1 (not_lt.mpr hshort))
        rw [hvalues.mpr hshort] at hread ⊢
        exact ⟨Or.inr (opens_events_open _ _ _ group cpu_ctx),
          fun h => absurd hread.2 (not_le.mpr h)⟩
      · have hmisread : Misread cpu_id := ⟨hzero, hread.1, not_le.mp hshort, hread.2⟩
        have hother : (strtol_number 8 cpu_id.toList : Int) ≠ strtol_number 10 cpu_id.toList := by
          exact_mod_cast hvalues.not.mpr hshort
        rw [or_iff_right (not_not_intro hmisread)]
        exact opens_detected_other_iff hother cpu_ctx
    · rw [if_neg hread] at hparse
      rw [hparse]
      have hfails := fails_unopened_pure cpu_ctx
      exact iff_of_true ⟨Or.inl hfails, fun _ => hfails⟩
        (Or.inl fun h => hread ⟨h.2.1, h.2.2.2⟩)
  · rw [if_neg hzero] at hparse
    refine iff_of_true ?_ (Or.inl fun h => hzero h.1)
    by_cases hint : (strtol_number 10 cpu_id.toList : Int) > INT_MAX
    · rw [if_pos hint] at hparse
      rw [hparse]
      have hfails := fails_unopened_pure cpu_ctx
      exact ⟨Or.inl hfails, fun _ => hfails⟩
    · rw [if_neg hint] at hparse
      rw [hparse]
      exact ⟨Or.inr (opens_events_open _ _ _ group cpu_ctx), fun h => absurd h hint⟩

-- The whole system, with one event to count.
def system_context : perf_context :=
  perf_context_create ⟨⟨[]⟩, [], ⟨.ALL, none, none⟩, 20⟩ "all"

def cycles_group : events_group :=
  ⟨"core", .MONITOR_ALL_CPU_PER_SOCKET, [⟨"cycles", ⟨0, 0, true, 11, false, false, false, false,
    0, 0, false, false, false⟩⟩]⟩

theorem detected_cpu_opened_iff_ten :
    OpensDetected system_context 0 cycles_group "10"
        (perf_events_group_setup_cpu system_context perf_group_cpu_context_create cycles_group 0
          "10") ↔
      ¬Misread "10" ∨ (cycles_group.events = [] ∧ (strtol_number 10 "10".toList : Int) ≤ INT_MAX) :=
  detected_cpu_opened_iff system_context perf_group_cpu_context_create cycles_group 0
    (show parse_cpu_id_from_name "cpu10" = some "10" by decide)

-- The cpu with the id 010 is opened as the cpu 8.
theorem zero_ten_opened_as_eight :
    parse_cpu_id_from_name "cpu010" = some "010" ∧
      strtol_number 10 "010".toList = 10 ∧ parse_cpu_id "010" = some 8 ∧
      ¬OpensDetected system_context 0 cycles_group "010"
        (perf_events_group_setup_cpu system_context perf_group_cpu_context_create cycles_group 0
          "010") := by
  have hvalue : strtol_number 10 "010".toList = 10 := by decide
  have hparse : parse_cpu_id "010" = some 8 := by decide
  refine ⟨by decide, hvalue, hparse, fun h => ?_⟩
  have hopens := h.opens
  rw [hvalue, perf_events_group_setup_cpu, hparse] at hopens
  rcases hopens with hfails | hopens
  · exact not_fails_unopened_open _ _ hfails
  · exact not_opens_events_open (by decide) (by decide) _ hopens

end HwpcSensor.Perf
