import HwpcSensor.Config
import HwpcSensor.Perf.Kernel.Attribution
import HwpcSensor.Perf.Kernel.Ticks

namespace HwpcSensor

def payload.stored (p : payload) (group pkg cpu name : String) : Option event_value :=
  (p.cpu_data group pkg cpu).bind fun data => zhashx_lookup data.events name

namespace Perf

open Interaction Syscall

-- What the value of a counter is a function of: the event, what is excluded from
-- counting, the cpu and the cgroup.
structure counted where
  type : Nat
  config : Nat
  exclude_user : Bool
  exclude_kernel : Bool
  exclude_hv : Bool
  cpu : Int
  cgroup : Option String
  deriving DecidableEq

def counted_of (attr : perf_event_attr) (cpu : Int) (cgroup : Option String) : counted :=
  ⟨attr.type, attr.config, attr.exclude_user, attr.exclude_kernel, attr.exclude_hv, cpu, cgroup⟩

-- `directory` says what each descriptor of a directory is open on.
def perf_request.counted (directory : Int → String) (request : perf_request) : counted :=
  counted_of request.attr request.cpu
    (if request.flags &&& PERF_FLAG_PID_CGROUP ≠ 0 then some (directory request.pid) else none)

def Valued (count : counted → Nat) (directory : Int → String) (s : kernel) (leader : Int) : Prop :=
  ∀ fd ∈ s.members leader, s.value fd = count ((s.wiring.request fd).counted directory)

-- What holds after a call in such a kernel.
def ValuedAnswer (count : counted → Nat) (directory : Int → String) (after : kernel) :
    (call : syscall) → syscall_answer call → Prop
  | .open path, fd => (0 : Int) ≤ fd → directory fd = path
  | .read leader _, some _ => Valued count directory after leader
  | _, _ => True

def valued_step (atomic : Prop) (count : counted → Nat) (directory : Int → String) :
    Semantics syscall syscall_answer kernel :=
  fun s call answer s' => kernel.step atomic s call answer s' ∧
    ValuedAnswer count directory s' call answer

section Readings

variable {atomic : Prop} {count : counted → Nat} {directory : Int → String} {t t' : kernel}

theorem exec_of_valued {α : Type} {program : program α} {result : α}
    (h : Exec (valued_step atomic count directory) program t result t') :
    Exec (kernel.step atomic) program t result t' :=
  h.mono fun _ _ _ _ hstep => hstep.1

-- The readings that were taken since.
def ValuedSince (count : counted → Nat) (directory : Int → String) (t t' : kernel) : Prop :=
  t'.wiring = t.wiring ∧ ∃ new, t'.readings = t.readings ++ new ∧ ∀ r ∈ new,
    ∀ fd ∈ t.members r.leader, r.value fd = count ((t.wiring.request fd).counted directory)

theorem valued_since_step {s s' : kernel} {call : syscall} {answer : syscall_answer call}
    (hkeep : KeepsCounters call) (h : ValuedSince count directory t s)
    (hstep : valued_step atomic count directory s call answer s') :
    ValuedSince count directory t s' := by
  obtain ⟨hkernel, hanswer⟩ := hstep
  obtain ⟨hwiring, new, hnew, hall⟩ := h
  have hwiring' : s'.wiring = t.wiring := (step_wiring hkeep hkernel).trans hwiring
  refine ⟨hwiring', ?_⟩
  by_cases hread : ∃ leader size, call = .read leader size
  · obtain ⟨leader, size, rfl⟩ := hread
    obtain ⟨m, hbetween, hserve⟩ := hkernel
    cases answer with
    | none =>
        obtain rfl : s' = m.forget := hserve
        exact ⟨new, hbetween.still.readings.trans hnew, hall⟩
    | some report =>
        obtain ⟨-, -, -, rfl⟩ := hserve
        refine ⟨new ++ [m.reading leader], ?_, List.forall_mem_append.mpr
          ⟨hall, List.forall_mem_singleton.mpr fun fd hfd => ?_⟩⟩
        · rw [← List.append_assoc, ← hnew, ← hbetween.still.readings]
          rfl
        · have hvalue := hanswer fd (by rw [kernel.members, hwiring']; exact hfd)
          rw [hwiring'] at hvalue
          exact hvalue
  · have hreadings := step_readings hkernel fun leader size heq => hread ⟨leader, size, heq⟩
    exact ⟨new, hreadings.trans hnew, hall⟩

theorem exec_valued_since {α : Type} {program : program α} {result : α}
    (huses : program.Uses KeepsCounters)
    (h : Exec (valued_step atomic count directory) program t result t') :
    ValuedSince count directory t t' :=
  h.preserves_uses huses (ValuedSince count directory t)
    (fun _ _ _ _ hkeep hinv hstep => valued_since_step hkeep hinv hstep)
    ⟨rfl, [], (List.append_nil _).symm, by simp⟩

theorem exec_initialize_cgroup {order : hash_order} {config : perf_config} {target_name : String}
    {ctx : perf_context}
    (h : Exec (valued_step atomic count directory)
      ( perf_events_groups_initialize order (perf_context_create config target_name))
      t (0, ctx) t') :
    (config.target.cgroup_path = none → ctx.cgroup_fd = -1) ∧
      ∀ path, config.target.cgroup_path = some path →
        0 < ctx.cgroup_fd ∧ directory ctx.cgroup_fd = path := by
  unfold perf_events_groups_initialize at h
  cases hpath : config.target.cgroup_path with
  | none =>
      rw [show (perf_context_create config target_name).config.target.cgroup_path = none from hpath]
        at h
      have hkeeps := (setup_groups_keeps rfl).exec h
      exact ⟨fun _ => congrArg perf_context.cgroup_fd hkeeps, by simp⟩
  | some path =>
      rw [show (perf_context_create config target_name).config.target.cgroup_path = some path from
        hpath] at h
      obtain ⟨fd, t₁, hopen, h₁⟩ := exec_bind.mp h
      by_cases hfd : fd < 1
      · rw [if_pos hfd] at h₁
        exact absurd (congrArg Prod.fst (initialize_error_result h₁)) (by simp)
      · rw [if_neg hfd] at h₁
        have hkeeps := congrArg perf_context.cgroup_fd ((setup_groups_keeps rfl).exec h₁)
        have hcgroup : ctx.cgroup_fd = fd := hkeeps
        refine ⟨by simp, fun other hother => ?_⟩
        obtain rfl := Option.some.inj hother
        rw [hcgroup]
        exact ⟨by omega, (exec_perform.mp hopen).2 (by omega)⟩

end Readings

-- The first event of a group leads it.
def LeadsGroup (events : List event_config) (name : String) : Prop :=
  events.head?.map event_config.name = some name

instance (events : List event_config) (name : String) : Decidable (LeadsGroup events name) :=
  inferInstanceAs (Decidable (_ = _))

-- What an event is opened with.
def opened_attr (config : perf_config) (events : List event_config) (event : event_config) :
    perf_event_attr :=
  if config.target.cgroup_path ≠ none ∧ LeadsGroup events event.name then
    sampling_attr event.attr config.callchain_frequency
  else event.attr

section Requests

variable {cgroup_fd : Int} {frequency perf_flags : Nat} {cpu leader : Int} {w : wiring}

theorem request_of_member {events : List event_config} {fds : List Int}
    (h : fds.map w.request = events.map (member_request cgroup_fd perf_flags cpu leader))
    {pair : event_config × Int} (hpair : pair ∈ events.zip fds) :
    w.request pair.2 = member_request cgroup_fd perf_flags cpu leader pair.1 := by
  induction events generalizing fds with
  | nil => simp at hpair
  | cons event rest ih =>
      cases fds with
      | nil => simp at hpair
      | cons fd fds =>
          rw [List.map_cons, List.map_cons, List.cons.injEq] at h
          rw [List.zip_cons_cons] at hpair
          rcases List.mem_cons.mp hpair with rfl | hpair
          · exact h.1
          · exact ih h.2 hpair

-- The counter of an event, when the name of an event says which one it is.
theorem request_of_counter {group : events_group} {fds : List Int} {fd : Int}
    {event : event_config} (hevent : event ∈ group.events)
    (hnames : ∀ other ∈ group.events, other.name = event.name → other = event)
    (h : fds.map w.request = group_requests cgroup_fd frequency perf_flags cpu leader group.events)
    (hcounter : counter_of group fds event.name = some fd) :
    (w.request fd).cpu = cpu ∧ (w.request fd).pid = cgroup_fd ∧
      (w.request fd).flags = perf_flags ∧
      (w.request fd).attr = if cgroup_fd > -1 ∧ LeadsGroup group.events event.name then
        sampling_attr event.attr frequency else event.attr := by
  obtain ⟨pair, hfind, rfl⟩ := Option.map_eq_some_iff.mp hcounter
  have hname : pair.1.name = event.name := by simpa using List.find?_some hfind
  have hmem := List.mem_of_find?_eq_some hfind
  have hpair := hnames pair.1 (List.of_mem_zip hmem).1 hname
  cases hevents : group.events with
  | nil => simp [hevents] at hevent
  | cons head rest =>
      cases fds with
      | nil => simp at hmem
      | cons first fds =>
          rw [hevents, List.map_cons, group_requests, List.cons.injEq] at h
          rw [hevents, List.zip_cons_cons] at hfind hmem
          by_cases hhead : head.name = event.name
          · rw [List.find?_cons_of_pos (by simpa using hhead)] at hfind
            obtain rfl := Option.some.inj hfind
            have hleads : LeadsGroup (head :: rest) event.name := congrArg some hhead
            simp only [hleads, and_true]
            rw [h.1, ← hpair]
            exact ⟨rfl, rfl, rfl, rfl⟩
          · rw [List.find?_cons_of_neg (by simpa using hhead)] at hfind
            have hleads : ¬LeadsGroup (head :: rest) event.name := by simpa [LeadsGroup] using hhead
            simp only [hleads, and_false, if_false]
            rw [request_of_member h.2 (List.mem_of_find?_eq_some hfind), hpair]
            exact ⟨rfl, rfl, rfl, rfl⟩

end Requests

end Perf

end HwpcSensor
