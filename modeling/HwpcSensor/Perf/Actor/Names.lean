import HwpcSensor.Perf.Actor.Lemmas
import HwpcSensor.Perf.Setup.Lemmas
import HwpcSensor.Target.Discovery
import Mathlib.Logic.Function.Basic

namespace HwpcSensor.Perf

open Interaction Syscall

-- The text of a group of the first match.
def regexec : regex_match := fun pattern group text =>
  (regex_search pattern text).bind fun captures => (captures.lookup group).map String.ofList

theorem regexec_eq_some_iff {pattern : String} {group : Nat} {r : PosixRegex.Regex}
    {reads : List Char → List Char → Prop} (hcomp : PosixRegex.Regex.comp pattern = some r)
    (h : r.Captured group reads) {text x : String} :
    regexec pattern group text = some x ↔ PosixRegex.Regex.First reads text.toList x.toList := by
  rw [← PosixRegex.Regex.exec_lookup_eq_some_iff h, regexec, regex_search, hcomp,
    Option.bind_some]
  constructor
  · intro hx
    obtain ⟨c, hc, hcaptured⟩ := Option.bind_eq_some_iff.mp hx
    obtain ⟨found, hfound, rfl⟩ := Option.map_eq_some_iff.mp hcaptured
    rw [hc, Option.bind_some, hfound, String.toList_ofList]
  · intro hx
    obtain ⟨c, hc, hcaptured⟩ := Option.bind_eq_some_iff.mp hx
    rw [hc, Option.bind_some, hcaptured, Option.map_some, String.ofList_toList]

-- The open streams with the paths of their files, and what has been reported.
structure host_state where
  streams : Int → Option String
  sent : List payload

def nothing_sent : host_state := ⟨fun _ => none, []⟩

-- A host with these files, each known by its lines. Memory can run out, and opening
-- a file can fail.
def host_step (files : String → Option (List String)) :
    Semantics syscall syscall_answer host_state := fun s call answer s' =>
  match call, answer with
  | .fopen _, none => s' = s
  | .fopen path, some stream => (files path).isSome ∧ s.streams stream = none ∧
      s' = { s with streams := Function.update s.streams stream (some path) }
  | .getline stream, json => s' = s ∧ json = ((s.streams stream).bind files).bind List.head?
  | .fclose stream, _ => s' = { s with streams := Function.update s.streams stream none }
  | .send payload, _ => s' = { s with sent := s.sent ++ [payload] }
  | _, _ => s' = s

def static_name : target_type → Option String
  | .ALL => some "all"
  | .KERNEL => some "kernel"
  | .SYSTEM => some "system"
  | _ => none

def target_container_id (t : target) : Option String :=
  match t.type with
  | .DOCKER => t.cgroup_path.bind (regexec DOCKER_CONTAINER_ID_REGEX 1)
  | .KUBERNETES => t.cgroup_path.bind (regexec KUBERNETES_CONTAINER_ID_REGEX 3)
  | _ => none

-- The name that the files have for a container.
def configured_name (files : String → Option (List String)) (id : String) : Option String :=
  ((files (container_config_path id)).bind List.head?).bind (regexec CONTAINER_NAME_REGEX 1)

def own_name (files : String → Option (List String)) (t : target) : Option String :=
  (static_name t.type).or ((target_container_id t).bind (configured_name files))

-- The name that a target can get.
def Resolves (files : String → Option (List String)) (t : target) (name : String) : Prop :=
  ∃ s s', Exec (host_step files) (target_resolve_real_name regexec t) s (some name) s'

-- A report that the actor of a target can send.
def Emits (files : String → Option (List String)) (t : target) (payload : payload) : Prop :=
  ∃ order config events s s', config.target = t ∧ s.sent = [] ∧ payload ∈ s'.sent ∧
    Exec (host_step files) (perf_monitoring_actor order regexec config events) s () s'

section Resolve

variable {files : String → Option (List String)} {t : target} {s s' : host_state}
  {result : Option String}

theorem exec_strdup {name : String} :
    Exec (host_step files) (strdup name) s result s' ↔
      (result = some name ∨ result = none) ∧ s' = s := by
  constructor
  · intro h
    obtain ⟨allocated, middle, rfl, hrest⟩ := exec_perform_bind.mp h
    obtain ⟨rfl, rfl⟩ := exec_pure.mp hrest
    cases allocated
    · exact ⟨Or.inr rfl, rfl⟩
    · exact ⟨Or.inl rfl, rfl⟩
  · rintro ⟨rfl | rfl, rfl⟩
    · exact exec_perform_bind.mpr ⟨true, s', rfl, exec_pure.mpr ⟨rfl, rfl⟩⟩
    · exact exec_perform_bind.mpr ⟨false, s', rfl, exec_pure.mpr ⟨rfl, rfl⟩⟩

-- The file is opened and read, or the name stays unknown.
theorem resolve_container_name_sound {pattern : String} {group : Nat}
    (h : Exec (host_step files) (resolve_container_name regexec pattern group t) s result s') :
    result = none ∨
      result = (t.cgroup_path.bind (regexec pattern group)).bind (configured_name files) := by
  unfold resolve_container_name at h
  cases hid : t.cgroup_path.bind (regexec pattern group) with
  | none =>
      rw [hid] at h
      exact Or.inl (exec_pure.mp h).1
  | some id =>
      rw [hid] at h
      obtain ⟨json_file, s₁, hopen, h⟩ := exec_perform_bind.mp h
      cases json_file with
      | none => exact Or.inl (exec_pure.mp h).1
      | some json_file =>
          obtain ⟨-, -, rfl⟩ := hopen
          obtain ⟨json, s₂, ⟨rfl, rfl⟩, h⟩ := exec_perform_bind.mp h
          obtain ⟨_, s₃, -, h⟩ := exec_perform_bind.mp h
          obtain ⟨rfl, -⟩ := exec_pure.mp h
          refine Or.inr ?_
          simp only [Function.update_self, Option.bind_some, configured_name]

theorem resolve_container_name_complete {pattern : String} {group : Nat}
    (hresult : result = none ∨
      result = (t.cgroup_path.bind (regexec pattern group)).bind (configured_name files)) :
    ∃ s', Exec (host_step files) (resolve_container_name regexec pattern group t) nothing_sent
      result s' := by
  unfold resolve_container_name
  cases hid : t.cgroup_path.bind (regexec pattern group) with
  | none =>
      rw [hid] at hresult
      exact ⟨nothing_sent, exec_pure.mpr ⟨by simpa using hresult, rfl⟩⟩
  | some id =>
      rw [hid] at hresult
      by_cases hnone : result = none
      · exact ⟨nothing_sent, exec_perform_bind.mpr
          ⟨none, nothing_sent, rfl, exec_pure.mpr ⟨hnone, rfl⟩⟩⟩
      · obtain rfl := hresult.resolve_left hnone
        have hfile : (files (container_config_path id)).isSome := by
          cases hfile : files (container_config_path id) with
          | none => exact absurd (by simp [configured_name, hfile]) hnone
          | some lines => rfl
        have hread : Exec (host_step files) (do
            let json ← getline 0
            fclose 0
            pure (json.bind (regexec CONTAINER_NAME_REGEX 1)))
            { nothing_sent with
              streams := Function.update nothing_sent.streams 0
                (some (container_config_path id)) }
            (configured_name files id)
            { nothing_sent with
              streams := Function.update (Function.update nothing_sent.streams 0
                (some (container_config_path id))) 0 none } :=
          exec_perform_bind.mpr ⟨_, _, ⟨rfl, rfl⟩,
            exec_perform_bind.mpr ⟨(), _, rfl, exec_pure.mpr ⟨by simp [configured_name], rfl⟩⟩⟩
        exact ⟨_, exec_perform_bind.mpr ⟨some 0, _, ⟨hfile, rfl, rfl⟩, hread⟩⟩

theorem target_real_name_sound
    (h : Exec (host_step files) (target_real_name regexec t) s result s') :
    result = none ∨ result = own_name files t := by
  unfold target_real_name at h
  unfold own_name target_container_id
  cases htype : t.type with
  | DOCKER | KUBERNETES =>
      rw [htype] at h
      exact resolve_container_name_sound h
  | ALL | KERNEL | SYSTEM =>
      rw [htype] at h
      exact (exec_strdup.mp h).1.symm
  | UNKNOWN | LIBVIRT | LXC =>
      rw [htype] at h
      exact Or.inl (exec_pure.mp h).1

theorem target_real_name_complete (hresult : result = none ∨ result = own_name files t) :
    ∃ s', Exec (host_step files) (target_real_name regexec t) nothing_sent result s' := by
  unfold own_name target_container_id at hresult
  unfold target_real_name
  cases htype : t.type with
  | DOCKER | KUBERNETES =>
      rw [htype] at hresult
      exact resolve_container_name_complete hresult
  | ALL | KERNEL | SYSTEM =>
      rw [htype] at hresult
      exact ⟨nothing_sent, exec_strdup.mpr ⟨hresult.symm, rfl⟩⟩
  | UNKNOWN | LIBVIRT | LXC =>
      rw [htype] at hresult
      exact ⟨nothing_sent, exec_pure.mpr ⟨by simpa [static_name] using hresult, rfl⟩⟩

-- A target has its own name, or one for its place.
theorem resolves_iff {path base_path name : String} (hpath : t.cgroup_path = some path)
    (hbase : t.cgroup_basedir = some base_path) :
    Resolves files t name ↔
      own_name files t = some name ∨ (path.drop base_path.length).copy = name := by
  unfold Resolves target_resolve_real_name
  constructor
  · rintro ⟨s, s', h⟩
    obtain ⟨resolved, s₁, hresolved, h⟩ := exec_bind.mp h
    rw [hpath, hbase] at h
    cases resolved with
    | none =>
        rcases (exec_strdup.mp h).1 with hname | hname
        · exact Or.inr (Option.some.inj hname).symm
        · exact absurd hname (by simp)
    | some resolved =>
        obtain ⟨hname, -⟩ := exec_pure.mp h
        refine Or.inl ?_
        rw [hname]
        exact ((target_real_name_sound hresolved).resolve_left (by simp)).symm
  · rintro (hname | rfl)
    · obtain ⟨s', h⟩ := @target_real_name_complete files t _ (Or.inr hname.symm)
      exact ⟨nothing_sent, s', exec_bind.mpr ⟨some name, s', h, exec_pure.mpr ⟨rfl, rfl⟩⟩⟩
    · obtain ⟨s', h⟩ := @target_real_name_complete files t none (Or.inl rfl)
      refine ⟨nothing_sent, s', exec_bind.mpr ⟨none, s', h, ?_⟩⟩
      rw [hpath, hbase]
      exact exec_strdup.mpr ⟨Or.inl rfl, rfl⟩

end Resolve

section Report

variable {order : hash_order} {name : String}

theorem initialize_name (ctx : perf_context) :
    ( perf_events_groups_initialize order ctx).Yields fun result =>
      result.2.target_name = ctx.target_name := by
  have hname : ∀ {start result : perf_context},
      result.without_groups = start.without_groups → result.target_name = start.target_name := by
    intro start result hkeeps
    have hname := congrArg perf_context.target_name hkeeps
    exact hname
  unfold perf_events_groups_initialize
  cases ctx.config.target.cgroup_path with
  | none => exact (setup_groups_keeps rfl).mono fun result hresult => hname hresult
  | some cgroup_path =>
      refine Prog.Yields.ignore fun cgroup_fd => ?_
      have hopened : { ctx with cgroup_fd := cgroup_fd }.target_name = ctx.target_name := rfl
      dsimp only
      split_ifs
      · exact (initialize_error_keeps rfl).mono fun result hresult => (hname hresult).trans hopened
      · exact (setup_groups_keeps rfl).mono fun result hresult => (hname hresult).trans hopened

theorem populate_payload_name (ctx : perf_context) (payload : payload) :
    (populate_payload order ctx payload).Yields fun result =>
      result.2.payload.target_name = payload.target_name :=
  (populate_payload_uses ctx payload).2.mono fun _ h => h.2

-- Reports are sent under this name only.
def ReportsAs (name : String) : syscall → Prop
  | .send payload => payload.target_name = name
  | _ => True

theorem reports_of_passive {call : syscall} (h : Passive call) : ReportsAs name call := by
  cases call <;> first | exact False.elim h | trivial

theorem reports_of_populates {call : syscall} (h : Populates call) : ReportsAs name call := by
  cases call <;> first | exact False.elim h | trivial

theorem reports_of_sets_up {call : syscall} (h : SetsUp call) : ReportsAs name call := by
  cases call <;> first | exact False.elim h | trivial

theorem handle_ticker_reports (ctx : perf_context) (timestamp : Nat) :
    (handle_ticker order ctx timestamp).Uses (ReportsAs ctx.target_name) ∧
      (handle_ticker order ctx timestamp).Yields fun ctx' =>
        ctx'.target_name = ctx.target_name := by
  constructor
  · refine Prog.Uses.bind (Prog.Uses.perform trivial) fun allocated => ?_
    by_cases hallocated : allocated = false
    · rw [if_pos hallocated]
      exact Prog.Uses.pure _
    · rw [if_neg hallocated]
      refine Prog.Uses.bind ((passive_find_dwfl ctx).mono fun _ => reports_of_passive)
        fun dwfl => ?_
      refine Prog.Yields.uses (populate_payload_name _ _)
        ((populates_payload _ _).mono fun _ => reports_of_populates) fun populated hname => ?_
      split_ifs
      · exact Prog.Uses.pure _
      · exact Prog.Uses.bind (Prog.Uses.perform hname) fun _ => Prog.Uses.pure _
  · refine Prog.Yields.ignore fun allocated => ?_
    by_cases hallocated : allocated = false
    · rw [if_pos hallocated]
      exact Prog.Yields.pure rfl
    · rw [if_neg hallocated]
      refine Prog.Yields.ignore fun dwfl => Prog.Yields.ignore fun populated => ?_
      split_ifs
      · exact Prog.Yields.pure rfl
      · exact Prog.Yields.ignore fun _ => Prog.Yields.pure rfl

theorem monitor_reports (events : List poll_event) {ctx : perf_context}
    (h : ctx.target_name = name) : (monitor order events ctx).Uses (ReportsAs name) := by
  induction events generalizing ctx with
  | nil => exact Prog.Uses.pure ctx
  | cons event rest ih =>
      obtain ⟨huses, hyields⟩ : (handle_event order ctx event).Uses (ReportsAs name) ∧
          (handle_event order ctx event).Yields fun ctx' => ctx'.target_name = name := by
        cases event with
        | pipe command =>
            refine ⟨Prog.Uses.pure _, Prog.Yields.pure ?_⟩
            unfold handle_pipe
            split_ifs <;> exact h
        | ticker timestamp => exact h ▸ handle_ticker_reports ctx timestamp
      refine Prog.Yields.uses hyields huses fun ctx' hname => ?_
      split_ifs
      · exact Prog.Uses.pure ctx'
      · exact ih hname

theorem reports_destroy (ctx : perf_context) :
    (perf_context_destroy ctx).Uses (ReportsAs name) :=
  Prog.Uses.bind (Prog.Uses.perform trivial) fun _ =>
    Prog.Uses.bind (Prog.Uses.for_all fun item _ => uses_group_destroy (fun _ => trivial) item.2)
      fun _ => Prog.Uses.perform trivial

-- What the actor does once it has the name.
theorem monitoring_reports (config : perf_config) (events : List poll_event) (name : String) :
    Prog.Uses (ReportsAs name) (do
      let allocated ← malloc
      if allocated = false then pure ()
      else
        let initialized ← perf_events_groups_initialize order (perf_context_create config name)
        if initialized.1 ≠ 0 then perf_context_destroy initialized.2
        else do
          perf_events_groups_enable initialized.2
          let ctx ← monitor order events initialized.2
          perf_context_destroy ctx) := by
  refine Prog.Uses.bind (Prog.Uses.perform trivial) fun allocated => ?_
  split_ifs
  · exact Prog.Uses.pure _
  · have hsets_up : ( perf_events_groups_initialize order
        (perf_context_create config name)).Uses (ReportsAs name) :=
      ( sets_up_initialize order _).mono fun _ => reports_of_sets_up
    refine Prog.Yields.uses (initialize_name _) hsets_up fun initialized hname => ?_
    split_ifs
    · exact reports_destroy _
    · exact Prog.Uses.bind (uses_enable (fun _ => trivial) (fun _ => trivial) _) fun _ =>
        Prog.Uses.bind (monitor_reports events hname) fun ctx => reports_destroy ctx

theorem passive_resolve_container_name (pattern : String) (group : Nat) (t : target) :
    (resolve_container_name regexec pattern group t).Uses Passive := by
  unfold resolve_container_name
  cases t.cgroup_path.bind (regexec pattern group) with
  | none => exact Prog.Uses.pure _
  | some id =>
      refine Prog.Uses.bind (Prog.Uses.perform trivial) fun json_file => ?_
      cases json_file with
      | none => exact Prog.Uses.pure _
      | some json_file =>
          exact Prog.Uses.bind (Prog.Uses.perform trivial) fun json =>
            Prog.Uses.bind (Prog.Uses.perform trivial) fun _ => Prog.Uses.pure _

theorem passive_target_resolve_real_name (t : target) :
    (target_resolve_real_name regexec t).Uses Passive := by
  have hstrdup : ∀ s, (strdup s).Uses Passive := fun s =>
    Prog.Uses.bind (Prog.Uses.perform trivial) fun _ => Prog.Uses.pure _
  refine Prog.Uses.bind ?_ fun name => ?_
  · unfold target_real_name
    cases t.type with
    | DOCKER | KUBERNETES => exact passive_resolve_container_name _ _ t
    | ALL | KERNEL | SYSTEM => exact hstrdup _
    | UNKNOWN | LIBVIRT | LXC => exact Prog.Uses.pure _
  · split
    · exact hstrdup _
    · exact Prog.Uses.pure _

-- Only a send adds a report.
theorem host_step_sent {files : String → Option (List String)} {s s' : host_state}
    {call : syscall} {answer : syscall_answer call} (h : host_step files s call answer s')
    {payload : payload} (hpayload : payload ∈ s'.sent) :
    payload ∈ s.sent ∨ call = .send payload := by
  cases call with
  | send other =>
      obtain rfl : s' = _ := h
      rcases List.mem_append.mp hpayload with hold | hnew
      · exact Or.inl hold
      · exact Or.inr (by rw [List.mem_singleton.mp hnew])
  | fopen path =>
      cases answer with
      | none =>
          obtain rfl : s' = s := h
          exact Or.inl hpayload
      | some stream =>
          obtain ⟨-, -, rfl⟩ := h
          exact Or.inl hpayload
  | getline stream =>
      obtain ⟨rfl, -⟩ := h
      exact Or.inl hpayload
  | fclose stream =>
      obtain rfl : s' = _ := h
      exact Or.inl hpayload
  | _ =>
      obtain rfl : s' = s := h
      exact Or.inl hpayload

-- Every report has the name that was resolved.
theorem Emits.resolves {files : String → Option (List String)} {t : target} {payload : payload}
    (h : Emits files t payload) : Resolves files t payload.target_name := by
  obtain ⟨order, config, events, s, s', rfl, hsent, hpayload, h⟩ := h
  obtain ⟨resolved, s₁, hresolved, h⟩ := exec_bind.mp h
  have hsilent : ∀ p, p ∉ s₁.sent := by
    refine hresolved.preserves_uses (passive_target_resolve_real_name _)
      (fun s => ∀ p, p ∉ s.sent) (fun s call answer s' hpassive hs hstep p hp => ?_)
      (by simp [hsent])
    rcases host_step_sent hstep hp with hold | rfl
    · exact hs p hold
    · exact hpassive
  cases resolved with
  | none =>
      obtain ⟨-, rfl⟩ := exec_pure.mp h
      exact absurd hpayload (hsilent payload)
  | some name =>
      have hname : ∀ p ∈ s'.sent, p.target_name = name := by
        refine h.preserves_uses (monitoring_reports config events name)
          (fun s => ∀ p ∈ s.sent, p.target_name = name)
          (fun s call answer s' hreports hs hstep p hp => ?_)
          (fun p hp => absurd hp (hsilent p))
        rcases host_step_sent hstep hp with hold | rfl
        · exact hs p hold
        · exact hreports
      rw [hname payload hpayload]
      exact ⟨s, s₁, hresolved⟩

end Report

end HwpcSensor.Perf
