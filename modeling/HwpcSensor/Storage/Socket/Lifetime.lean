import HwpcSensor.Storage.Socket.Descriptors

namespace HwpcSensor.Storage.Socket

open Interaction Transition

-- The descriptor stays in the context.
def socket_deinitialize (s : storage_module) : socket_program Int :=
  if s.is_initialized = false then pure (-1)
  else if s.context.socket_fd ≠ -1 then do
    close s.context.socket_fd
    pure 0
  else pure 0

section Calls

variable {monotone : Prop} {ctx : socket_context} {s s' : network} {time : Int}
  {result : Int × socket_context}

def ClosesWell (s : network) : Prop :=
  ∀ entry ∈ s.closes, entry.2 = true

-- What is closed stays recorded.
theorem Reconnects.closes (h : Reconnects ctx s time result s') :
    ∃ more, s'.closes = ((s.at_time time).dropped ctx.socket_fd).closes ++ more := by
  cases h with
  | waits => exact ⟨[], (List.append_nil _).symm⟩
  | fails hdue hnot =>
      obtain ⟨more, hmore, -⟩ := hnot.untouched.closes
      exact ⟨more, hmore⟩
  | succeeds hdue hdone =>
      obtain ⟨more, hmore, -⟩ := hdone.untouched.closes
      exact ⟨more, hmore⟩

theorem Reconnects.closes_badly (h : Reconnects ctx s time result s') (hbad : ¬ClosesWell s) :
    ¬ClosesWell s' := by
  obtain ⟨more, hmore⟩ := h.closes
  intro hwell
  refine hbad fun entry hentry => hwell entry ?_
  rw [hmore, network.dropped]
  split_ifs
  · exact List.mem_append_left _ (List.mem_append_left _ hentry)
  · exact List.mem_append_left _ hentry

-- The descriptor of the context is closed, whatever comes of it.
theorem Reconnects.closes_unopened (h : Reconnects ctx s time result s')
    (hfd : ctx.socket_fd ≠ -1) (hnone : ctx.socket_fd ∉ s.sockets) : ¬ClosesWell s' := by
  obtain ⟨more, hmore⟩ := h.closes
  intro hwell
  have hentry : (ctx.socket_fd, false) ∈ s'.closes := by
    rw [hmore, network.dropped, if_pos hfd]
    refine List.mem_append_left _ (List.mem_append_right _ (List.mem_singleton.mpr ?_))
    rw [show decide (ctx.socket_fd ∈ (s.at_time time).sockets) = false from decide_eq_false hnone]
  exact Bool.false_ne_true (hwell _ hentry)

theorem exec_send_report_badly {json_report : List UInt8} {retry_once : Nat}
    (h : Exec (network.step monotone) (send_report json_report retry_once ctx) s result s')
    (hbad : ¬ClosesWell s) : ¬ClosesWell s' := by
  have hrules : ReportRules monotone (fun _ => True) (fun _ s => ¬ClosesWell s)
      fun _ s => ¬ClosesWell s :=
    ⟨fun _ _ h => h, fun _ _ _ _ _ h _ hcases _ => hcases.closes_badly h,
      fun _ _ _ _ _ h _ hcases _ => hcases.closes_badly h, fun _ _ _ _ _ h _ _ _ _ _ => h⟩
  exact exec_send_report hrules trivial h hbad

variable {Double : Type} {writer : json_writer Double} {payload : payload}

theorem exec_store_report_badly
    (h : Exec (network.step monotone) (socket_store_report writer ctx payload) s result s')
    (hbad : ¬ClosesWell s) : ¬ClosesWell s' :=
  exec_store_report_preserves (fun _ s => ¬ClosesWell s) h hbad
    (fun _ _ _ _ _ h _ hcases => hcases.closes_badly h) fun _ _ _ _ _ h => h

-- The module does not see that its descriptor is closed. It finds out by sending,
-- and then closes it once more.
theorem exec_store_report_closed
    (h : Exec (network.step monotone) (socket_store_report writer ctx payload) s result s')
    (hfd : ctx.socket_fd ≠ -1) (hnone : s.sockets = []) :
    (writer.bson_as_json (report writer ctx payload) = none ∧ result.2 = ctx ∧ s' = s) ∨
      writer.bson_as_json (report writer ctx payload) ≠ none ∧ ¬ClosesWell s' := by
  obtain ⟨connected, s₁, hensure, hrest⟩ := exec_bind.mp h
  unfold ensure_connected at hensure
  rw [if_neg hfd] at hensure
  obtain ⟨rfl, rfl⟩ := exec_pure.mp hensure
  rw [if_neg (not_not.mpr rfl)] at hrest
  dsimp only at hrest
  cases hjson : writer.bson_as_json (report writer ctx payload) with
  | none =>
      rw [hjson] at hrest
      obtain ⟨rfl, rfl⟩ := exec_pure.mp hrest
      exact Or.inl ⟨rfl, rfl, rfl⟩
  | some json_report =>
      rw [hjson] at hrest
      refine Or.inr ⟨Option.some_ne_none _, ?_⟩
      obtain ⟨nbsend, s₂, hsent, hanswered⟩ := exec_perform_bind.mp hrest
      rcases hsent with ⟨rfl, rfl⟩ | ⟨connection, accepted, hopen, -⟩
      · obtain ⟨reconnected, s₃, htry, hagain⟩ := exec_bind.mp hanswered
        obtain ⟨time, -, hcases⟩ := exec_try_reconnect htry
        have hbad := hcases.closes_unopened hfd (by rw [hnone]; exact List.not_mem_nil)
        by_cases hzero : reconnected.1 = 0
        · rw [if_pos hzero] at hagain
          exact exec_send_report_badly hagain hbad
        · rw [if_neg hzero] at hagain
          obtain ⟨-, rfl⟩ := exec_pure.mp hagain
          exact hbad
      · rw [hnone] at hopen
        exact absurd hopen List.not_mem_nil

end Calls

section Runs

variable {Double : Type} {writer : json_writer Double} {monotone : Prop}
  {sensor_name address : String} {port now err : Int} {module : storage_module}
  {start s : network} {last final : socket_context × network} {calls late : List store_call}

theorem Tracked.stored {s s' : socket_context × network} {call : store_call}
    (h : Tracked s.1 s.2) (hstep : StoreStep writer monotone s call s') : Tracked s'.1 s'.2 :=
  exec_store_report_preserves Tracked hstep.2.2 h (fun _ _ _ _ _ h _ hcases => h.reconnects hcases)
    fun _ _ _ _ _ h => ⟨h.sockets, h.connected, h.closes⟩

theorem Begins.tracked_after {start : socket_context × network}
    (h : Begins monotone sensor_name address port now start)
    (hrun : Run (StoreStep writer monotone) start calls last) : Tracked last.1 last.2 :=
  hrun.invariant (fun s => Tracked s.1 s.2) h.tracked fun _ _ _ h hstep => h.stored hstep

theorem initialized_of_exec
    (h : Exec (network.step monotone)
      ( socket_initialize ⟨socket_context_create sensor_name address port, false⟩)
      (network.start now) (0, module) start) : module.is_initialized = true := by
  obtain ⟨connected, s₁, hconnect, hrest⟩ := exec_bind.mp h
  by_cases hfailed : connected.1 ≠ 0
  · rw [if_pos hfailed] at hrest
    have herr : (0 : Int) = -1 := congrArg Prod.fst (exec_pure.mp hrest).1
    omega
  · rw [if_neg hfailed] at hrest
    exact congrArg (fun result => result.2.is_initialized) (exec_pure.mp hrest).1

theorem exec_deinitialize (hinit : module.is_initialized = true) {ctx : socket_context}
    {before : network} (htracked : Tracked ctx before)
    (h : Exec (network.step monotone) ( socket_deinitialize ⟨ctx, module.is_initialized⟩) before
      err s) : err = 0 ∧ s.sockets = [] ∧ ClosesWell s := by
  unfold socket_deinitialize at h
  rw [if_neg (by simp [hinit])] at h
  obtain ⟨hnone, hwell⟩ := htracked.dropped before.now
  unfold network.dropped at hnone hwell
  by_cases hfd : ctx.socket_fd ≠ -1
  · rw [if_pos hfd] at h hnone hwell
    obtain ⟨_, s₁, rfl, hpure⟩ := exec_perform_bind.mp h
    obtain ⟨rfl, rfl⟩ := exec_pure.mp hpure
    exact ⟨rfl, hnone, hwell⟩
  · rw [if_neg hfd] at h hnone hwell
    obtain ⟨rfl, rfl⟩ := exec_pure.mp h
    exact ⟨rfl, hnone, hwell⟩

-- The reports that come late do nothing until the first that has a document.
theorem late_reports (hfd : last.1.socket_fd ≠ -1) (hnone : s.sockets = [])
    (hlate : Run (StoreStep writer monotone) (last.1, s) late final) :
    ((∀ call ∈ late, call.document writer = none) ∧ final = (last.1, s)) ∨
      (∃ call ∈ late, call.document writer ≠ none) ∧ ¬ClosesWell final.2 := by
  refine hlate.history (fun late final =>
    ((∀ call ∈ late, call.document writer = none) ∧ final = (last.1, s)) ∨
      (∃ call ∈ late, call.document writer ≠ none) ∧ ¬ClosesWell final.2) ?_ ?_
  · exact Or.inl ⟨List.forall_mem_nil _, rfl⟩
  · rintro late before call after (⟨hlate, rfl⟩ | ⟨⟨other, hother, hdocument⟩, hbad⟩) hstep
    · obtain ⟨hbefore, -, hexec⟩ := hstep
      have hsame :
          call.document writer = writer.bson_as_json (report writer last.1 call.payload) := by
        rw [store_call.document, hbefore]
      rcases exec_store_report_closed hexec hfd hnone with ⟨hjson, hctx, hs⟩ | ⟨hjson, hbad⟩
      · refine Or.inl ⟨fun other hother => ?_, Prod.ext hctx hs⟩
        rcases List.mem_append.mp hother with hold | hnew
        · exact hlate other hold
        · exact List.mem_singleton.mp hnew ▸ hsame.trans hjson
      · refine Or.inr ⟨⟨call, List.mem_append_right _ List.mem_cons_self, ?_⟩, hbad⟩
        rwa [hsame]
    · exact Or.inr ⟨⟨other, List.mem_append_left _ hother, hdocument⟩,
        exec_store_report_badly hstep.2.2 hbad⟩

-- Until it is deinitialized the module closes each of its sockets once, and then
-- none is open. A report that comes later makes it close a descriptor that is not
-- its own, if it has a document and the module was connected.
theorem closes_well_iff
    (hinit : Exec (network.step monotone)
      ( socket_initialize ⟨socket_context_create sensor_name address port, false⟩)
      (network.start now) (0, module) start)
    (hrun : Run (StoreStep writer monotone) (module.context, start) calls last)
    (hdeinit : Exec (network.step monotone)
      ( socket_deinitialize ⟨last.1, module.is_initialized⟩) last.2 err s)
    (hlate : Run (StoreStep writer monotone) (last.1, s) late final) :
    err = 0 ∧ s.sockets = [] ∧ ClosesWell s ∧
      (ClosesWell final.2 ↔
        last.1.socket_fd = -1 ∨ ∀ call ∈ late, call.document writer = none) := by
  have hbegin : Begins monotone sensor_name address port now (module.context, start) :=
    .initialized hinit
  obtain ⟨herr, hnone, hwell⟩ :=
    exec_deinitialize (initialized_of_exec hinit) (hbegin.tracked_after hrun) hdeinit
  refine ⟨herr, hnone, hwell, ?_⟩
  by_cases hfd : last.1.socket_fd = -1
  · have htracked : Tracked final.1 final.2 :=
      hlate.invariant (fun s => Tracked s.1 s.2) (.of_none rfl hfd hnone hwell)
        fun _ _ _ h hstep => h.stored hstep
    exact iff_of_true htracked.closes (Or.inl hfd)
  · rcases late_reports hfd hnone hlate with ⟨hempty, rfl⟩ | ⟨⟨call, hcall, hdocument⟩, hbad⟩
    · exact iff_of_true hwell (Or.inr hempty)
    · refine iff_of_false hbad ?_
      rintro (hnot | hempty)
      · exact hfd hnot
      · exact hdocument (hempty call hcall)

def initialized : (Int × storage_module) × network :=
  ( socket_initialize ⟨created.1, false⟩).run (accepting 1024) created.2

def stored_reports : List store_call × (socket_context × network) :=
  serve_reports (accepting 1024) plain_writer [payload_create 0 "all"]
    (initialized.1.2.context, initialized.2)

def deinitialized : Int × network :=
  ( socket_deinitialize ⟨stored_reports.2.1, initialized.1.2.is_initialized⟩).run
    (accepting 1024) stored_reports.2.2

def late_report : List store_call × (socket_context × network) :=
  serve_reports (accepting 1024) plain_writer [payload_create 1000 "all"]
    (stored_reports.2.1, deinitialized.2)

-- One report before and one behind the end of the module.
theorem closes_well_iff_late :
    deinitialized.2.sockets = [] ∧ ClosesWell deinitialized.2 ∧ ¬ClosesWell late_report.2.2 := by
  have hinit : Exec (network.step True) ( socket_initialize ⟨created.1, false⟩) created.2
      (0, initialized.1.2) initialized.2 :=
    exec_run_ok (accepting 1024) (accepting_step 1024) _ _ (by decide)
  obtain ⟨-, hnone, hwell, hiff⟩ := closes_well_iff hinit
    (serve_reports_run (accepting_step 1024) plain_writer [payload_create 0 "all"] _)
    (exec_run (accepting 1024) (accepting_step 1024) _ _)
    (serve_reports_run (accepting_step 1024) plain_writer [payload_create 1000 "all"] _)
  exact ⟨hnone, hwell, fun hlate => absurd (hiff.mp hlate) (by decide)⟩

end Runs

end HwpcSensor.Storage.Socket
