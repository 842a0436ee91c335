import HwpcSensor.Config.Accepted
import HwpcSensor.Perf.Setup.Lemmas

namespace HwpcSensor

open Interaction Perf

-- A condition on the attributes with which the leader of a group is opened.
def LeaderOpens (P : perf_event_attr → Prop) : syscall → Prop
  | .perf_event_open attr _ _ group_fd _ => group_fd = -1 → P attr
  | _ => True

section Leader

variable {order : hash_order} {perf_flags : Nat} {ctx : perf_context}

def SampledAt (callchain_frequency : Nat) : syscall → Prop :=
  LeaderOpens fun attr => attr.sample_freq = callchain_frequency

theorem open_events_sampled (hcgroup : ctx.cgroup_fd > -1) (cpu group_fd : Int)
    (events : List event_config) (cpu_ctx : perf_group_cpu_context) :
    (open_events ctx perf_flags cpu group_fd events cpu_ctx).Uses
      (SampledAt ctx.config.callchain_frequency) := by
  induction events generalizing group_fd cpu_ctx with
  | nil => exact Prog.Uses.pure _
  | cons event rest ih =>
      unfold open_events
      by_cases hleads : group_fd = -1 ∧ ctx.cgroup_fd > -1
      · rw [if_pos hleads]
        refine Prog.Uses.bind (Prog.Uses.perform fun _ => rfl) fun perf_fd => ?_
        by_cases hfd : perf_fd < 1
        · rw [if_pos hfd]
          exact Prog.Uses.pure _
        · rw [if_neg hfd]
          refine Prog.Uses.bind (Prog.Uses.perform trivial) fun buffer => ?_
          cases buffer with
          | none => exact Prog.Uses.pure _
          | some buffer => exact ih perf_fd _
      · rw [if_neg hleads]
        have hmember : group_fd ≠ -1 := fun heq => hleads ⟨heq, hcgroup⟩
        refine Prog.Uses.bind (Prog.Uses.perform fun heq => absurd heq hmember) fun perf_fd => ?_
        by_cases hfd : perf_fd < 1
        · rw [if_pos hfd]
          exact Prog.Uses.pure _
        · rw [if_neg hfd]
          exact ih _ _

-- For a cgroup, every leader is opened with the frequency of the configuration.
theorem initialize_sampled (order : hash_order) {ctx : perf_context}
    (hcgroup : ctx.config.target.cgroup_path ≠ none) :
    ( perf_events_groups_initialize order ctx).Uses
      (SampledAt ctx.config.callchain_frequency) := by
  unfold perf_events_groups_initialize
  cases hpath : ctx.config.target.cgroup_path with
  | none => exact absurd hpath hcgroup
  | some cgroup_path =>
      refine Prog.Uses.bind (Prog.Uses.perform trivial) fun cgroup_fd => ?_
      by_cases hfd : cgroup_fd < 1
      · rw [if_pos hfd]
        exact uses_initialize_error (fun _ => trivial) _
      · rw [if_neg hfd]
        have hopened : cgroup_fd > -1 := by omega
        refine (setup_groups_uses order trivial (fun _ => trivial)
          (fun {ctx'} hkept cpu events => ?_) rfl).1
        have hfrequency : ctx'.config.callchain_frequency = ctx.config.callchain_frequency :=
          congrArg (fun ctx => ctx.config.callchain_frequency) hkept
        rw [← hfrequency]
        refine open_events_sampled ?_ cpu (-1) events _
        exact (congrArg perf_context.cgroup_fd hkept).symm ▸ hopened

end Leader

-- The samples that a leader takes each second make up the callchains of a report,
-- up to the rounding of the frequency. The period is in milliseconds.
def Corresponds (sensor : config_sensor) (sample_freq : Nat) : Prop :=
  |(sample_freq * sensor.frequency : Int) - 1000 * sensor.callchains_per_report| <
    sensor.frequency

-- The product of the two settings fits in an `unsigned int`.
def NoWrap (sensor : config_sensor) : Prop :=
  sensor.callchains_per_report * sensor.frequency ≤ UINT_MAX

-- The rate is off by a factor that is about one for a period of 32 only.
theorem rounds_iff (c f : Nat) :
    |((c * f : Nat) * f : Int) - 1000 * c| < f ↔ (c = 0 ∧ 0 < f) ∨ (c = 1 ∧ f = 32) := by
  have hfactor : ((c * f : Nat) * f : Int) - 1000 * c = c * (f * f - 1000) := by
    push_cast
    ring
  rw [hfactor, abs_lt]
  constructor
  · rintro ⟨hlow, hhigh⟩
    rcases Nat.eq_zero_or_pos c with rfl | hpos
    · exact Or.inl ⟨rfl, by omega⟩
    · have hone : (1 : Int) ≤ c := by exact_mod_cast hpos
      rcases Nat.lt_trichotomy f 32 with hf | rfl | hf
      · -- too few samples
        have hsquare : (f : Int) * f ≤ 31 * 31 := by
          exact_mod_cast Nat.mul_le_mul (show f ≤ 31 by omega) (show f ≤ 31 by omega)
        have hgap : (c : Int) * (f * f - 1000) ≤ 1 * (f * f - 1000) :=
          Int.mul_le_mul_of_nonpos_right hone (by omega)
        omega
      · refine Or.inr ⟨?_, rfl⟩
        norm_num at hhigh
        omega
      · -- too many samples
        have hsquare : (33 : Int) * f ≤ f * f := by
          exact_mod_cast Nat.mul_le_mul_right f (show 33 ≤ f by omega)
        have hgap : 1 * ((f : Int) * f - 1000) ≤ c * (f * f - 1000) :=
          Int.mul_le_mul_of_nonneg_right hone (by omega)
        omega
  · rintro (⟨rfl, hf⟩ | ⟨rfl, rfl⟩)
    · constructor <;> simp [hf]
    · decide

theorem rate_corresponds_iff (accepted : config) :
    NoWrap accepted.sensor ∧ Corresponds accepted.sensor (callchain_frequency accepted) ↔
      (accepted.sensor.callchains_per_report = 0 ∧ 0 < accepted.sensor.frequency) ∨
        (accepted.sensor.callchains_per_report = 1 ∧ accepted.sensor.frequency = 32) := by
  rw [← rounds_iff]
  unfold NoWrap Corresponds callchain_frequency UINT_MAX
  constructor
  · rintro ⟨hwrap, hrate⟩
    rwa [Nat.mod_eq_of_lt (by omega)] at hrate
  · intro hrate
    have hwrap : accepted.sensor.callchains_per_report * accepted.sensor.frequency ≤
        2 ^ 32 - 1 := by
      rcases (rounds_iff _ _).mp hrate with ⟨hzero, -⟩ | ⟨hone, hperiod⟩
      · rw [hzero, Nat.zero_mul]
        decide
      · rw [hone, hperiod]
        decide
    refine ⟨hwrap, ?_⟩
    rwa [Nat.mod_eq_of_lt (by omega)]

section

variable {m : platform} {hwinfo : hwinfo} {accepted : config} {config : perf_config}

theorem started_frequency (h : StartedConfig m hwinfo accepted config) :
    config.callchain_frequency = callchain_frequency accepted := by
  cases h <;> rfl

-- Whatever the calls of the set up answer, each leader that it opens for a
-- container has the rate of the settings in these two cases only.
theorem leaders_correspond_iff (hstarted : StartedConfig m hwinfo accepted config)
    (hcgroup : config.target.cgroup_path ≠ none) (target_name : String) :
    ( perf_events_groups_initialize m.order (perf_context_create config target_name)).Uses
      (LeaderOpens fun attr =>
        (NoWrap accepted.sensor ∧ Corresponds accepted.sensor attr.sample_freq ↔
          (accepted.sensor.callchains_per_report = 0 ∧ 0 < accepted.sensor.frequency) ∨
            (accepted.sensor.callchains_per_report = 1 ∧ accepted.sensor.frequency = 32))) := by
  have hsampled := @initialize_sampled m.order (perf_context_create config target_name) hcgroup
  refine hsampled.mono fun call hcall => ?_
  cases call with
  | perf_event_open attr pid cpu group_fd flags =>
      intro hleads
      have hfreq : attr.sample_freq = callchain_frequency accepted :=
        (hcall hleads).trans (started_frequency hstarted)
      rw [hfreq]
      exact rate_corresponds_iff accepted
  | _ => trivial

end

def containers_only : config where
  sensor := ⟨0, 1000, 20, DEFAULT_CGROUP_BASEPATH, some "x"⟩
  storage := ⟨.STORAGE_CSV, some "out", none, none, 0⟩
  events := ⟨[], [("g", ⟨"g", .MONITOR_ALL_CPU_PER_SOCKET, [⟨"cycles", ⟨0, 0, true, 11, false,
    false, false, false, 0, 0, false, false, false⟩⟩]⟩)]⟩

def containers_only_actor : perf_config :=
  perf_config_create in_order one_cpu containers_only.events.containers
    ⟨.DOCKER, some DEFAULT_CGROUP_BASEPATH, some "/docker/c"⟩ (callchain_frequency containers_only)

theorem leaders_correspond_iff_default :
    ( perf_events_groups_initialize in_order (perf_context_create containers_only_actor "c")).Uses
      (LeaderOpens fun attr =>
        (NoWrap containers_only.sensor ∧ Corresponds containers_only.sensor attr.sample_freq ↔
          (containers_only.sensor.callchains_per_report = 0 ∧
              0 < containers_only.sensor.frequency) ∨
            (containers_only.sensor.callchains_per_report = 1 ∧
              containers_only.sensor.frequency = 32))) :=
  @leaders_correspond_iff all_events one_cpu containers_only containers_only_actor
    (.container (by decide) .DOCKER "/docker/c") (by decide) "c"

-- The default settings ask for 20000 samples a second, that is for as many in
-- each report, where 20 are wanted.
theorem default_rate_too_high :
    ¬ ∀ (m : platform) (hwinfo : hwinfo) (source : config_source) (accepted : config)
      (config : perf_config) (target_name : String), Accepted m source accepted →
      StartedConfig m hwinfo accepted config → config.target.cgroup_path ≠ none →
      ( perf_events_groups_initialize m.order (perf_context_create config target_name)).Uses
        (LeaderOpens fun attr =>
          NoWrap accepted.sensor ∧ Corresponds accepted.sensor attr.sample_freq) := by
  intro hclaim
  have haccepted : Accepted all_events
      (.cli ["hwpc-sensor", "-n", "x", "-U", "out", "-c", "g", "-e", "cycles"])
      containers_only := ⟨⟨0, rfl⟩, by decide⟩
  have hleaders := hclaim _ one_cpu _ _ containers_only_actor "c" haccepted
    (.container (by decide) .DOCKER "/docker/c") (by decide)
  -- the cgroup is opened and the three contexts are allocated
  have hopened := (((hleaders.2 (5 : Int)).2 true).2 true).2 true
  have hrate := (hopened.1 rfl).2
  exact absurd hrate (by unfold Corresponds; decide)

end HwpcSensor
