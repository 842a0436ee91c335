import HwpcSensor.Perf.Descriptors.Setup

namespace HwpcSensor.Perf

open Interaction Ownership Syscall

variable {old : Int → Prop}

section Streams

theorem spends_get_pid_from_cgroup (cgroup_path : String) :
    Spends old [] (get_pid_from_cgroup cgroup_path) := by
  refine Spends.fopen_bind (Spends.pure _) fun stream => ?_
  refine Spends.keep_bind (Spends.perform trivial) fun line => ?_
  cases line with
  | none => exact Spends.bind (Spends.fclose stream) fun _ => Spends.pure _
  | some line =>
      dsimp only
      split_ifs
      · exact Spends.bind (Spends.fclose stream) fun _ => Spends.pure _
      · exact Spends.bind (Spends.fclose stream) fun _ => Spends.pure _
      · exact Spends.keep_bind (Spends.perform trivial) fun _ =>
          Spends.bind (Spends.fclose stream) fun _ => Spends.pure _

theorem spends_find_dwfl (ctx : perf_context) : Spends old [] (find_dwfl ctx) := by
  unfold find_dwfl
  cases ctx.dwfl with
  | some dwfl => exact Spends.pure _
  | none =>
      cases ctx.config.target.cgroup_path with
      | none => exact Spends.pure _
      | some cgroup_path =>
          refine Spends.keep_bind (spends_get_pid_from_cgroup cgroup_path) fun pid => ?_
          split_ifs
          · exact Spends.perform trivial
          · exact Spends.pure _

theorem spends_strdup (s : String) : Spends old [] (strdup s) :=
  Spends.keep_bind (Spends.perform trivial) fun _ => Spends.pure _

theorem spends_resolve_container_name (regexec : regex_match) (pattern : String) (group : Nat)
    (target : target) : Spends old [] (resolve_container_name regexec pattern group target) := by
  unfold resolve_container_name
  cases target.cgroup_path.bind (regexec pattern group) with
  | none => exact Spends.pure _
  | some id =>
      refine Spends.fopen_bind (Spends.pure _) fun stream => ?_
      refine Spends.keep_bind (Spends.perform trivial) fun json => ?_
      exact Spends.bind (Spends.fclose stream) fun _ => Spends.pure _

theorem spends_target_resolve_real_name (regexec : regex_match) (target : target) :
    Spends old [] (target_resolve_real_name regexec target) := by
  refine Spends.keep_bind ?_ fun name => ?_
  · unfold target_real_name
    cases target.type with
    | DOCKER | KUBERNETES => exact spends_resolve_container_name _ _ _ _
    | ALL | KERNEL | SYSTEM => exact spends_strdup _
    | _ => exact Spends.pure _
  · split
    · exact spends_strdup _
    · exact Spends.pure _

end Streams

section Monitor

variable {order : hash_order} {ctx ctx' : perf_context} {s s' : descriptor_state}

theorem spends_handle_ticker (ctx : perf_context) (timestamp : Nat) :
    Spends old [] (handle_ticker order ctx timestamp) := by
  refine Spends.keep_bind (Spends.perform trivial) fun allocated => ?_
  by_cases hallocated : allocated = false
  · rw [if_pos hallocated]
    exact Spends.pure _
  · rw [if_neg hallocated]
    refine Spends.keep_bind (spends_find_dwfl ctx) fun dwfl => ?_
    refine Spends.keep_bind (Spends.of_uses ((populates_payload _ _).mono fun _ =>
      quiet_of_populates)) fun populated => ?_
    split_ifs
    · exact Spends.pure _
    · exact Spends.keep_bind (Spends.perform trivial) fun _ => Spends.pure _

theorem spends_monitor (events : List poll_event) (ctx : perf_context) :
    Spends old [] (monitor order events ctx) := by
  induction events generalizing ctx with
  | nil => exact Spends.pure ctx
  | cons event rest ih =>
      refine Spends.keep_bind ?_ fun ctx => ?_
      · unfold handle_event
        cases event with
        | pipe command => exact Spends.pure _
        | ticker timestamp => exact spends_handle_ticker ctx timestamp
      · split_ifs
        · exact Spends.pure ctx
        · exact ih ctx

theorem spends_perf_context_destroy (ctx : perf_context) :
    Spends old (cgroup_fds ctx.cgroup_fd ++ (groups_fds ctx ++ [])) (perf_context_destroy ctx) :=
  Spends.bind (spends_cgroup_close ctx.cgroup_fd) fun _ =>
    Spends.bind (spends_groups_destroy ctx) fun _ => Spends.perform trivial

end Monitor

section Abandon

variable {s s' : descriptor_state}

-- The calls of the error label and of the destructors.
def Parting (call : syscall) : Prop :=
  QuietCall call ∨ ∃ fd, call = .close fd

theorem parting_step {call : syscall} {answer : syscall_answer call} (hcall : Parting call)
    (h : descriptor_step s call answer s') :
    (∀ fd, s.table.owner fd ≠ some .actor → s'.table.owner fd ≠ some .actor) ∧
      (ClosesOwned s' → ClosesOwned s) ∧ s'.answers = s.answers := by
  obtain ⟨table, hmoves, hserve⟩ := h
  have hlost : ∀ fd, s.table.owner fd ≠ some .actor → table.owner fd ≠ some .actor :=
    fun fd => mt (hmoves.owner_self fd).mp
  have hclean : table.Clean IsDescriptor .actor → ClosesOwned s := by
    unfold ClosesOwned Table.Clean
    rw [hmoves.releases_eq]
    exact id
  rcases hcall with hquiet | ⟨closed, rfl⟩
  · rw [serve_quiet hquiet hserve]
    exact ⟨hlost, hclean, rfl⟩
  · have hserve : s' = { s with table := table.release closed } := hserve
    subst hserve
    exact ⟨fun fd hfd => Table.owner_release_ne (hlost fd hfd),
      fun h => hclean (Table.clean_release_iff.mp h).1, rfl⟩

theorem parting_exec {α : Type} {program : program α} {result : α} (huses : program.Uses Parting)
    (h : Exec descriptor_step program s result s') :
    (∀ fd, s.table.owner fd ≠ some .actor → s'.table.owner fd ≠ some .actor) ∧
      (ClosesOwned s' → ClosesOwned s) ∧ s'.answers = s.answers := by
  refine h.preserves_uses huses (fun t =>
    (∀ fd, s.table.owner fd ≠ some .actor → t.table.owner fd ≠ some .actor) ∧
      (ClosesOwned t → ClosesOwned s) ∧ t.answers = s.answers) ?_ ⟨fun _ => id, id, rfl⟩
  rintro t call answer t' hcall ⟨hlost, hclean, hanswers⟩ hstep
  obtain ⟨hlost', hclean', hanswers'⟩ := parting_step hcall hstep
  exact ⟨fun fd hfd => hlost' fd (hlost fd hfd), fun h => hclean (hclean' h),
    hanswers'.trans hanswers⟩

theorem parting_fd (fd : Int) : Parting (.close fd) :=
  Or.inr ⟨fd, rfl⟩

-- A descriptor closed before is not the actor's any more, whoever has it now.
theorem close_again {fd : Int} (hfd : IsDescriptor fd) (hlost : s.table.owner fd ≠ some .actor)
    (h : Exec descriptor_step (close fd) s () s') : ¬ClosesOwned s' := by
  obtain ⟨table, hmoves, rfl⟩ := exec_perform.mp h
  intro hclean
  have howner := (Table.clean_release_iff.mp hclean).2 hfd
  exact hlost ((hmoves.owner_self fd).mp howner)

theorem close_lost {fd : Int} (h : Exec descriptor_step (close fd) s () s') :
    s'.table.owner fd ≠ some .actor := by
  obtain ⟨table, hmoves, rfl⟩ := exec_perform.mp h
  rw [Table.owner_release, if_pos rfl]
  simp

-- What the actor does once its set up has failed.
def give_up (s : setup_state) : program Unit := do
  let initialized ← initialize_error s
  perf_context_destroy initialized.2

theorem spends_initialize_error (setup : setup_state) :
    Spends old (cgroup_fds setup.ctx.cgroup_fd ++ (pointer_fds group_fds setup.group_ctx ++
      (pointer_fds pkg_fds setup.pkg_ctx ++
        (pointer_fds perf_group_cpu_context.perf_fds setup.cpu_ctx ++ []))))
      (initialize_error setup) :=
  Spends.bind (spends_cgroup_close setup.ctx.cgroup_fd) fun _ =>
    Spends.bind (spends_destroy_pointer spends_group_destroy _) fun _ =>
      Spends.bind (spends_destroy_pointer spends_pkg_destroy _) fun _ =>
        Spends.bind (spends_destroy_pointer spends_cpu_destroy _) fun _ => Spends.pure _

-- The error label closes what the pointers lead to and the directory of the
-- cgroup; the second close of the directory is of a number that others may have.
theorem give_up_ledger {setup : setup_state} {leaked : List Int}
    (hledger : Ledger old (setup.all_fds ++ leaked ++
      (groups_fds setup.ctx ++ cgroup_fds setup.ctx.cgroup_fd)) s)
    (h : Exec descriptor_step (give_up setup) s () s') : Ledger old leaked s' := by
  obtain ⟨initialized, s₁, herror, hdestroy⟩ := exec_bind.mp h
  rw [initialize_error_result herror] at hdestroy
  have hforeign : setup.ctx.cgroup_fd ∉ groups_fds setup.ctx ++ leaked := by
    intro hmem
    have hvalid := hledger.valid setup.ctx.cgroup_fd (by
      simp only [List.mem_append] at hmem ⊢
      tauto)
    have hnodup := hledger.holds.nodup
    rw [cgroup_fds, if_pos hvalid, ← List.append_assoc, List.nodup_append] at hnodup
    refine hnodup.2.2 setup.ctx.cgroup_fd ?_ setup.ctx.cgroup_fd List.mem_cons_self rfl
    simp only [List.mem_append] at hmem ⊢
    tauto
  obtain ⟨hledger₁, -⟩ := spends_initialize_error setup (groups_fds setup.ctx ++ leaked) _ _ _
    (hledger.perm (by
      rw [List.perm_iff_count]
      intro fd
      simp only [setup_state.all_fds, List.count_append, List.append_nil]
      omega)) herror
  obtain ⟨_, s₂, hclose, hgroups⟩ := exec_bind.mp hdestroy
  obtain ⟨table, hmoves, rfl⟩ := exec_perform.mp hclose
  have hledger₂ := (hledger₁.moves hmoves).release_of_not_mem hforeign
  have hspends : Spends old (groups_fds setup.ctx ++ []) (do
      for_all (fun item => perf_group_context_destroy item.2) setup.ctx.groups_ctx
      dwfl_end) :=
    Spends.bind (spends_groups_destroy setup.ctx) fun _ => Spends.perform trivial
  exact (hspends leaked _ _ _ (by rwa [List.append_nil]) hgroups).1

theorem give_up_cgroup {setup : setup_state} (hfd : IsDescriptor setup.ctx.cgroup_fd)
    (h : Exec descriptor_step (give_up setup) s () s') :
    ¬ClosesOwned s' ∧ s'.answers = s.answers := by
  obtain ⟨initialized, s₁, herror, hdestroy⟩ := exec_bind.mp h
  rw [initialize_error_result herror] at hdestroy
  obtain ⟨_, s₂, hclose, hrest⟩ := exec_bind.mp herror
  obtain ⟨_, s₃, hagain, hgroups⟩ := exec_bind.mp hdestroy
  have hpointers := parting_exec (Prog.Uses.bind
    (uses_destroy_pointer (uses_group_destroy parting_fd) _) fun _ =>
      Prog.Uses.bind (uses_destroy_pointer (uses_pkg_destroy parting_fd) _) fun _ =>
        Prog.Uses.bind (uses_destroy_pointer (uses_cpu_destroy parting_fd) _) fun _ =>
          Prog.Uses.pure _) hrest
  have hrest := parting_exec (Prog.Uses.bind (Prog.Uses.for_all fun item _ =>
    uses_group_destroy parting_fd item.2) fun _ =>
      Prog.Uses.perform (Or.inl (show QuietCall .dwfl_end from trivial))) hgroups
  have hlost := hpointers.1 _ (close_lost hclose)
  refine ⟨fun hclean => close_again hfd hlost hagain (hrest.2.1 hclean), ?_⟩
  rw [hrest.2.2, (parting_exec (Prog.Uses.perform (parting_fd _)) hagain).2.2, hpointers.2.2,
    (parting_exec (Prog.Uses.perform (parting_fd _)) hclose).2.2]

theorem give_up_system {setup : setup_state} {leaked : List Int}
    (hfd : ¬IsDescriptor setup.ctx.cgroup_fd)
    (hledger : Ledger old (setup.all_fds ++ leaked ++
      (groups_fds setup.ctx ++ cgroup_fds setup.ctx.cgroup_fd)) s)
    (h : Exec descriptor_step (give_up setup) s () s') : Orderly s s' := by
  have hcgroup : cgroup_fds setup.ctx.cgroup_fd = [] := if_neg hfd
  obtain ⟨initialized, s₁, herror, hdestroy⟩ := exec_bind.mp h
  rw [initialize_error_result herror] at hdestroy
  have hcontext : Spends old (cgroup_fds setup.ctx.cgroup_fd ++ (groups_fds setup.ctx ++ []))
      (perf_context_destroy setup.ctx) :=
    spends_perf_context_destroy setup.ctx
  rw [hcgroup, List.nil_append, List.append_nil] at hcontext
  obtain ⟨hledger₁, horderly₁⟩ := spends_initialize_error setup (groups_fds setup.ctx ++ leaked)
    _ _ _ (hledger.perm (by
      rw [List.perm_iff_count]
      intro fd
      simp only [setup_state.all_fds, List.count_append, List.append_nil]
      omega)) herror
  obtain ⟨-, horderly⟩ := hcontext leaked _ _ _ hledger₁ hdestroy
  exact horderly₁.trans horderly

end Abandon

section Main

variable {order : hash_order} {s final : descriptor_state}

-- The actor from the context on.
def monitor_context (order : hash_order) (events : List poll_event)
    (initialized : Int × perf_context) : program Unit :=
  if initialized.1 ≠ 0 then perf_context_destroy initialized.2
  else do
    perf_events_groups_enable initialized.2
    let ctx ← monitor order events initialized.2
    perf_context_destroy ctx

theorem monitor_context_error {events : List poll_event} {setup : setup_state}
    {s₁ : descriptor_state} {initialized : Int × perf_context}
    (herror : Exec descriptor_step (initialize_error setup) s initialized s₁)
    (h : Exec descriptor_step (monitor_context order events initialized) s₁ () final) :
    Exec descriptor_step (give_up setup) s () final := by
  refine exec_bind.mpr ⟨initialized, s₁, herror, ?_⟩
  rw [initialize_error_result herror] at h ⊢
  unfold monitor_context at h
  rwa [if_pos (by simp)] at h

theorem exec_setup_groups {events : List poll_event} {perf_flags : Nat} {ctx : perf_context}
    (h : Exec descriptor_step (setup_groups order perf_flags ctx >>= monitor_context order events)
      s () final)
    (hledger : Ledger old (cgroup_fds ctx.cgroup_fd) s) (hclean : ClosesOwned s)
    (hgranted : s.answers.Granted) (hempty : ctx.groups_ctx = []) :
    final.answers.opened = s.answers.opened ∧
      (ClosesOwned final ↔ ¬(IsDescriptor ctx.cgroup_fd ∧
        (¬final.answers.Granted ∨ ¬CpuIdsParse ctx.config))) ∧
      ∃ leaked, Ledger old leaked final ∧
        (ctx.config.Valid → (leaked = [] ↔ final.answers.Recorded)) := by
  obtain ⟨initialized, s₂, hsetup, hcontext⟩ := exec_bind.mp h
  obtain ⟨setup, s₁, hloop, hresult⟩ := exec_bind.mp hsetup
  obtain ⟨hok, hfail⟩ := exec_setup_loop hledger hclean hgranted hempty hloop
  by_cases hzero : setup.1 = 0
  · rw [if_neg (by simpa using hzero)] at hresult
    obtain ⟨rfl, rfl⟩ := exec_pure.mp hresult
    obtain ⟨⟨hgranted, dropped, hholding, hdropped⟩, hparse⟩ := hok hzero
    unfold monitor_context at hcontext
    rw [if_neg (by simp)] at hcontext
    obtain ⟨_, s₃, henable, hrest⟩ := exec_bind.mp hcontext
    obtain ⟨ctx', s₄, hmonitor, hdestroy⟩ := exec_bind.mp hrest
    obtain ⟨hledger₃, horderly₃⟩ := Spends.of_uses (quiet_enable _) _ _ _ _ hholding.ledger henable
    obtain ⟨hledger₄, horderly₄⟩ := spends_monitor events _ _ _ _ _ hledger₃ hmonitor
    have hledger₄ : Ledger old
        ((cgroup_fds ctx'.cgroup_fd ++ (groups_fds ctx' ++ [])) ++ dropped) s₄ := by
      have hsame := monitor_same hmonitor
      rw [hsame.cgroup_fd, hholding.cgroup, groups_fds, hsame.groups_ctx]
      refine hledger₄.perm ?_
      rw [List.perm_iff_count]
      intro fd
      simp only [groups_fds, List.append_eq, List.count_append, List.append_nil, List.nil_append]
      omega
    obtain ⟨hledger', horderly'⟩ :=
      spends_perf_context_destroy ctx' dropped _ _ _ hledger₄ hdestroy
    have horderly := horderly₃.trans (horderly₄.trans horderly')
    rw [horderly.answers]
    refine ⟨hholding.opened, ⟨?_, fun _ => horderly.clean hholding.clean⟩, dropped, hledger',
      fun hvalid => iff_of_true (hdropped hvalid) hgranted.recorded⟩
    rintro - ⟨-, hnot | hnot⟩
    · exact hnot hgranted
    · exact hnot hparse
  · rw [if_pos hzero] at hresult
    obtain ⟨hreason, leaked, hholding, hleaked⟩ := hfail hzero
    have hgive := monitor_context_error hresult hcontext
    have hledger' := hholding.ledger
    rw [← hholding.cgroup] at hledger'
    have hfinal := give_up_ledger hledger' hgive
    by_cases hfd : IsDescriptor ctx.cgroup_fd
    · obtain ⟨hstained, hanswers⟩ := give_up_cgroup (by rwa [hholding.cgroup]) hgive
      rw [hanswers]
      exact ⟨hholding.opened, ⟨fun h => absurd h hstained, fun h => absurd ⟨hfd, hreason⟩ h⟩,
        leaked, hfinal, hleaked⟩
    · have horderly := give_up_system (by rwa [hholding.cgroup]) hledger' hgive
      rw [horderly.answers]
      exact ⟨hholding.opened, ⟨fun _ h => hfd h.1, fun _ => horderly.clean hholding.clean⟩,
        leaked, hfinal, hleaked⟩

theorem exec_open_path {fds : List Int} {path : String} {fd : Int} {s s' : descriptor_state}
    (hledger : Ledger old fds s) (h : Exec descriptor_step (open_path path) s fd s') :
    Ledger old (cgroup_fds fd ++ fds) s' ∧ (ClosesOwned s → ClosesOwned s') ∧
      s'.answers = { s.answers with opened := s.answers.opened ++ [fd] } := by
  obtain ⟨table, hmoves, hfree, rfl⟩ := exec_perform.mp h
  unfold descriptor_state.log_open
  rw [give_answers]
  have hmoved := hledger.moves hmoves
  refine ⟨?_, fun hclean => ?_, rfl⟩
  · unfold cgroup_fds
    by_cases hfd : IsDescriptor fd
    · rw [if_pos hfd]
      exact (hmoved.give hfd hfree).of_table rfl
    · rw [if_neg hfd]
      exact (hmoved.give_negative hfd).of_table rfl
  · have hmoved : ClosesOwned { s with table := table } := hclean.moves hmoves
    exact closes_owned_give.mpr hmoved

theorem abandoned_of_opened {config : perf_config} {answers : setup_answers} {fd : Int}
    (h : answers.opened = [fd]) :
    Abandoned config answers ↔
      IsDescriptor fd ∧ (fd = 0 ∨ ¬answers.Granted ∨ ¬CpuIdsParse config) := by
  simp [Abandoned, h]

theorem not_abandoned {config : perf_config} {answers : setup_answers} (h : answers.opened = []) :
    ¬Abandoned config answers := by
  simp [Abandoned, h]

theorem exec_initialize {events : List poll_event} {ctx : perf_context} (hledger : Ledger old [] s)
    (hclean : ClosesOwned s) (hanswers : s.answers = ⟨[], [], []⟩) (hempty : ctx.groups_ctx = [])
    (hsystem : ctx.cgroup_fd = -1)
    (h : Exec descriptor_step
      ( perf_events_groups_initialize order ctx >>= monitor_context order events) s () final) :
    (ClosesOwned final ↔ ¬Abandoned ctx.config final.answers) ∧
      ∃ leaked, Ledger old leaked final ∧
        (ctx.config.Valid → (leaked = [] ↔ final.answers.Recorded)) := by
  unfold perf_events_groups_initialize at h
  cases hpath : ctx.config.target.cgroup_path with
  | none =>
      rw [hpath] at h
      have hfd : ¬IsDescriptor ctx.cgroup_fd := by
        rw [hsystem]
        decide
      obtain ⟨hopened, hiff, hleaked⟩ := exec_setup_groups h (by rwa [cgroup_fds, if_neg hfd])
        hclean (by simp [hanswers, setup_answers.Granted]) hempty
      rw [hanswers] at hopened
      exact ⟨⟨fun _ => not_abandoned hopened, fun _ => hiff.mpr fun h => hfd h.1⟩, hleaked⟩
  | some cgroup_path =>
      rw [hpath] at h
      obtain ⟨initialized, s₂, hinit, hcontext⟩ := exec_bind.mp h
      obtain ⟨fd, s₁, hopen, hsetup⟩ := exec_bind.mp hinit
      obtain ⟨hledger₁, hclean₁, hanswers₁⟩ := exec_open_path hledger hopen
      rw [hanswers] at hanswers₁
      rw [List.append_nil] at hledger₁
      by_cases hfailed : fd < 1
      · rw [if_pos hfailed] at hsetup
        have hgive := monitor_context_error hsetup hcontext
        have hnone : groups_fds { ctx with cgroup_fd := fd } = [] := by
          rw [groups_fds, hempty]
          rfl
        have hpointers : Ledger old
            (setup_state.all_fds ⟨{ ctx with cgroup_fd := fd }, none, none, none⟩ ++ [] ++
              (groups_fds { ctx with cgroup_fd := fd } ++ cgroup_fds fd)) s₁ := by
          rwa [hnone]
        have hfinal := give_up_ledger hpointers hgive
        by_cases hfd : IsDescriptor fd
        · obtain ⟨hstained, hsame⟩ := give_up_cgroup hfd hgive
          have hzero : fd = 0 := by
            unfold IsDescriptor at hfd
            omega
          refine ⟨?_, [], hfinal, fun _ => iff_of_true rfl ?_⟩
          · rw [abandoned_of_opened (by rw [hsame, hanswers₁]; rfl)]
            exact ⟨fun h => absurd h hstained, fun h => absurd ⟨hfd, Or.inl hzero⟩ h⟩
          · rw [hsame, hanswers₁]
            simp [setup_answers.Recorded]
        · have horderly := give_up_system hfd hpointers hgive
          refine ⟨?_, [], hfinal, fun _ => iff_of_true rfl ?_⟩
          · rw [abandoned_of_opened (by rw [horderly.answers, hanswers₁]; rfl)]
            exact ⟨fun _ h => hfd h.1, fun _ => horderly.clean (hclean₁ hclean)⟩
          · rw [horderly.answers, hanswers₁]
            simp [setup_answers.Recorded]
      · rw [if_neg hfailed] at hsetup
        have hgranted : s₁.answers.Granted := by
          rw [hanswers₁]
          simp [setup_answers.Granted]
        obtain ⟨hopened, hiff, hleaked⟩ := exec_setup_groups
          (exec_bind.mpr ⟨initialized, s₂, hsetup, hcontext⟩) hledger₁ (hclean₁ hclean) hgranted
          hempty
        rw [hanswers₁] at hopened
        have hzero : fd ≠ 0 := by omega
        refine ⟨?_, hleaked⟩
        rw [hiff, abandoned_of_opened hopened]
        simp only [hzero, false_or]

-- Nothing has been closed or asked of the kernel yet, whoever has what open.
structure descriptor_state.Initial (s : descriptor_state) : Prop where
  releases : s.table.releases = []
  answers : s.answers = ⟨[], [], []⟩

-- What the actor has done and what it has left open when it returns.
theorem exec_perf_monitoring_actor {regexec : regex_match} {config : perf_config}
    {events : List poll_event} (hstart : s.Initial) (hledger : Ledger old [] s)
    (h : Exec descriptor_step (perf_monitoring_actor order regexec config events) s () final) :
    (ClosesOwned final ↔ ¬Abandoned config final.answers) ∧
      ∃ leaked, Ledger old leaked final ∧
        (config.Valid → (leaked = [] ↔ final.answers.Recorded)) := by
  have hclean : ClosesOwned s := by simp [ClosesOwned, Table.Clean, hstart.releases]
  obtain ⟨name, s₁, hname, h₁⟩ := exec_bind.mp h
  obtain ⟨hledger₁, horderly₁⟩ := spends_target_resolve_real_name regexec config.target _ _ _ _
    hledger hname
  have hanswers₁ := horderly₁.answers.trans hstart.answers
  cases name with
  | none =>
      obtain ⟨-, rfl⟩ := exec_pure.mp h₁
      refine ⟨⟨fun _ => not_abandoned (by rw [hanswers₁]), fun _ => horderly₁.clean hclean⟩, [],
        hledger₁, fun _ => iff_of_true rfl ?_⟩
      rw [hanswers₁]
      simp [setup_answers.Recorded]
  | some target_name =>
      obtain ⟨allocated, s₂, hmalloc, h₂⟩ := exec_bind.mp h₁
      obtain ⟨hledger₂, horderly₂⟩ := Spends.perform (show QuietCall .malloc from trivial) _ _ _ _
        hledger₁ hmalloc
      obtain ⟨table, -, hallocated, -⟩ := exec_perform.mp hmalloc
      subst hallocated
      rw [if_neg (by simp)] at h₂
      have horderly := horderly₁.trans horderly₂
      exact exec_initialize hledger₂ (horderly.clean hclean)
        (horderly.answers.trans hstart.answers) rfl rfl h₂

end Main

-- The error label closes the directory of the cgroup and leaves its number in the
-- context, so that it is closed a second time with the context.
theorem closes_owned_iff {order : hash_order} {regexec : regex_match} {config : perf_config}
    {events : List poll_event} {start final : descriptor_state} (hstart : start.Initial)
    (h : Exec descriptor_step (perf_monitoring_actor order regexec config events)
      start () final) :
    ClosesOwned final ↔ ¬Abandoned config final.answers := by
  have hledger : Ledger (fun fd => start.table.owner fd = some .actor) [] start :=
    ⟨Table.Holds.nil, by simp, fun _ => Or.inr⟩
  exact (exec_perf_monitoring_actor hstart hledger h).1

-- A kernel that opens the cgroup as 5 and no event, next to an actor that takes
-- every number as soon as it is free.
def reused_number (s : descriptor_state) :
    (call : syscall) → syscall_answer call × descriptor_state
  | .malloc => (true, s)
  | .open _ =>
      if s.table.owner 5 = none then ((5 : Int), (give s 5).log_open 5)
      else ((-1 : Int), s.log_open (-1))
  | .perf_event_open _ _ _ _ _ => ((-1 : Int), s.log_perf_event_open (-1))
  | .mmap _ => (none, s.log_mmap none)
  | .close fd =>
      if IsDescriptor fd ∧ s.table.owner fd = none then
        ((), { s with table := (s.table.acquire fd .other).release fd })
      else ((), { s with table := s.table.release fd })
  | .ioctl_reset _ => ((-1 : Int), s)
  | .ioctl_enable _ => ((-1 : Int), s)
  | .read _ _ => (none, s)
  | .get_callchains _ _ => (none, s)
  | .fopen _ => (none, s)
  | .getline _ => (none, s)
  | .fgets _ => (none, s)
  | .fclose stream => ((), { s with table := s.table.release stream })
  | .init_dwfl _ => (none, s)
  | .dwfl_end => ((), s)
  | .warning => ((), s)
  | .send _ => ((), s)

theorem reused_number_step (s : descriptor_state) (call : syscall) :
    descriptor_step s call (reused_number s call).1 (reused_number s call).2 := by
  have hnone : ¬IsDescriptor (-1) := by decide
  have hgive : give s (-1) = s := if_neg hnone
  cases call with
  | «open» path =>
      simp only [reused_number]
      by_cases hfree : s.table.owner 5 = none
      · rw [if_pos hfree]
        exact ⟨s.table, .refl, fun _ => hfree, rfl⟩
      · rw [if_neg hfree]
        refine ⟨s.table, .refl, fun h => absurd h hnone, ?_⟩
        rw [hgive]
  | perf_event_open attr pid cpu group_fd flags =>
      refine ⟨s.table, .refl, fun h => absurd h hnone, ?_⟩
      simp only [reused_number]
      rw [hgive]
  | close fd =>
      simp only [reused_number]
      by_cases h : IsDescriptor fd ∧ s.table.owner fd = none
      · rw [if_pos h]
        exact ⟨_, .single (.acquire h.1 (by decide) h.2), rfl⟩
      · rw [if_neg h]
        exact ⟨s.table, .refl, rfl⟩
  | malloc => exact ⟨s.table, .refl, rfl, rfl⟩
  | _ => exact ⟨s.table, .refl, rfl⟩

def web_config : perf_config where
  hwinfo := ⟨[("0", ⟨["0"]⟩)]⟩
  events_groups := [("core", ⟨"core", .MONITOR_ALL_CPU_PER_SOCKET, [⟨"cycles",
    ⟨0, 0, false, 0, false, false, false, false, 0, 0, false, false, false⟩⟩]⟩)]
  target := ⟨.LXC, some "/sys/fs/cgroup/perf_event", some "/sys/fs/cgroup/perf_event/lxc/web"⟩
  callchain_frequency := 4000

def system_config : perf_config :=
  { web_config with target := ⟨.SYSTEM, none, none⟩ }

def nothing_open : descriptor_state := ⟨⟨fun _ => none, []⟩, ⟨[], [], []⟩⟩

def run_reused (config : perf_config) : descriptor_state :=
  ((perf_monitoring_actor ⟨id, fun _ => List.Perm.refl _⟩ (fun _ _ _ => none) config []).run
    reused_number nothing_open).2

theorem run_reused_exec (config : perf_config) :
    Exec descriptor_step
      (perf_monitoring_actor ⟨id, fun _ => List.Perm.refl _⟩ (fun _ _ _ => none) config [])
      nothing_open () (run_reused config) :=
  exec_run reused_number reused_number_step _ nothing_open

-- A kernel that opens the cgroup as 5 and an event as 6, and maps its ring buffer.
def one_of_each (s : descriptor_state) (call : syscall) :
    syscall_answer call × descriptor_state :=
  match call with
  | .perf_event_open _ _ _ _ _ =>
      if s.table.owner 6 = none then ((6 : Int), (give s 6).log_perf_event_open 6)
      else ((-1 : Int), s.log_perf_event_open (-1))
  | .mmap _ => (some 0, s.log_mmap (some 0))
  | call => reused_number s call

theorem one_of_each_step (s : descriptor_state) (call : syscall) :
    descriptor_step s call (one_of_each s call).1 (one_of_each s call).2 := by
  have hnone : ¬IsDescriptor (-1) := by decide
  cases call with
  | perf_event_open attr pid cpu group_fd flags =>
      simp only [one_of_each]
      by_cases hfree : s.table.owner 6 = none
      · rw [if_pos hfree]
        exact ⟨s.table, .refl, fun _ => hfree, rfl⟩
      · rw [if_neg hfree]
        refine ⟨s.table, .refl, fun h => absurd h hnone, ?_⟩
        rw [show give s (-1) = s from if_neg hnone]
  | mmap fd => exact ⟨s.table, .refl, rfl⟩
  | _ => exact reused_number_step s _

def run_granted (config : perf_config) : descriptor_state :=
  ((perf_monitoring_actor in_order (fun _ _ _ => none) config []).run one_of_each nothing_open).2

theorem run_granted_exec (config : perf_config) :
    Exec descriptor_step (perf_monitoring_actor in_order (fun _ _ _ => none) config [])
      nothing_open () (run_granted config) :=
  exec_run one_of_each one_of_each_step _ nothing_open

-- The event and the directory are closed once each, by the actor that opened them.
theorem closes_owned_iff_granted :
    (run_granted web_config).table.releases = [(5, some .actor), (6, some .actor)] ∧
      ClosesOwned (run_granted web_config) := by
  have hkept : ¬Abandoned web_config (run_granted web_config).answers := by
    unfold Abandoned setup_answers.Granted CpuIdsParse
    decide
  exact ⟨by decide, (closes_owned_iff ⟨rfl, rfl⟩ (run_granted_exec _)).mpr hkept⟩

-- The second close of the directory closes what the other actor has opened.
theorem cgroup_closed_twice :
    ¬ ∀ (order : hash_order) (regexec : regex_match) (config : perf_config)
      (events : List poll_event) (start final : descriptor_state), start.Initial →
      Exec descriptor_step (perf_monitoring_actor order regexec config events) start () final →
      ClosesOwned final := by
  intro hclaim
  have hclean := hclaim _ _ web_config [] nothing_open _ ⟨rfl, rfl⟩ (run_reused_exec web_config)
  have hreleases : (run_reused web_config).table.releases =
      [(5, some .actor), (5, some .other)] := by
    decide
  unfold ClosesOwned Table.Clean at hclean
  rw [hreleases] at hclean
  exact absurd (hclean (5, some .other) (by simp) (by decide)) (by decide)

end HwpcSensor.Perf
