import HwpcSensor.Storage.Socket.Streams

namespace HwpcSensor.Storage.Socket

open Interaction Transition

-- The open sockets are the one that the context knows of, which is connected, and
-- no socket was closed that was not open.
structure Tracked (ctx : socket_context) (s : network) : Prop where
  sockets : s.sockets = if ctx.socket_fd = -1 then [] else [ctx.socket_fd]
  connected : ctx.socket_fd ≠ -1 → ∃ connection, s.connected ctx.socket_fd = some connection
  closes : ∀ entry ∈ s.closes, entry.2 = true

section Tracked

variable {ctx : socket_context} {s s' : network} {time : Int} {result : Int × socket_context}

theorem Tracked.dropped (h : Tracked ctx s) (time : Int) :
    ((s.at_time time).dropped ctx.socket_fd).sockets = [] ∧
      ∀ entry ∈ ((s.at_time time).dropped ctx.socket_fd).closes, entry.2 = true := by
  have hsockets := h.sockets
  unfold network.dropped
  by_cases hfd : ctx.socket_fd = -1
  · rw [if_pos hfd] at hsockets
    rw [if_neg (not_ne_iff.mpr hfd)]
    exact ⟨hsockets, h.closes⟩
  · rw [if_neg hfd] at hsockets
    rw [if_pos hfd]
    refine ⟨by simp [network.closed, network.at_time, hsockets],
      List.forall_mem_append.mpr ⟨h.closes, List.forall_mem_singleton.mpr ?_⟩⟩
    simp [network.at_time, hsockets]

theorem Tracked.of_none {fd : Int} (hfd : fd = -1) (hctx : ctx.socket_fd = fd)
    (hsockets : s.sockets = []) (hcloses : ∀ entry ∈ s.closes, entry.2 = true) : Tracked ctx s := by
  subst hfd
  exact ⟨by rw [if_pos hctx, hsockets], fun hne => absurd hctx hne, hcloses⟩

theorem Tracked.of_connected {sfd : Int} {connection : Nat} (hnonneg : 0 ≤ sfd)
    (hctx : ctx.socket_fd = sfd) (hsockets : s.sockets = [sfd])
    (hconnected : s.connected sfd = some connection)
    (hcloses : ∀ entry ∈ s.closes, entry.2 = true) : Tracked ctx s := by
  subst hctx
  exact ⟨by rw [if_neg (by omega), hsockets], fun _ => ⟨connection, hconnected⟩, hcloses⟩

theorem Untouched.closes_open (h : Untouched s s') (hopen : ∀ entry ∈ s.closes, entry.2 = true) :
    ∀ entry ∈ s'.closes, entry.2 = true := by
  obtain ⟨more, hmore, hopened⟩ := h.closes
  rw [hmore]
  exact List.forall_mem_append.mpr ⟨hopen, hopened⟩

theorem Tracked.reconnects (h : Tracked ctx s) (hcases : Reconnects ctx s time result s') :
    Tracked result.2 s' := by
  obtain ⟨hnone, hopen⟩ := h.dropped time
  cases hcases with
  | waits => exact .of_none rfl rfl hnone hopen
  | fails hdue hnot =>
      exact .of_none rfl rfl (hnot.sockets.trans hnone) (hnot.untouched.closes_open hopen)
  | @succeeds sfd s₁ hdue hdone =>
      refine .of_connected hdone.nonneg rfl ?_ hdone.connected (hdone.untouched.closes_open hopen)
      exact hdone.sockets.trans (by rw [network.retry, hnone]; rfl)

end Tracked

section Runs

variable {Double : Type} {writer : json_writer Double} {monotone : Prop}
  {sensor_name address : String} {port now : Int} {start last : socket_context × network}
  {calls : List store_call}

theorem Begins.tracked (h : Begins monotone sensor_name address port now start) :
    Tracked start.1 start.2 := by
  obtain ⟨-, -, -, hcloses, ⟨hctx, hsockets, -⟩ | ⟨sfd, hctx, hnonneg, hsockets, hconnected, -⟩⟩ :=
    h.cases
  · exact .of_none rfl (by rw [hctx]; rfl) hsockets hcloses
  · exact .of_connected hnonneg (by rw [hctx]) hsockets hconnected hcloses

-- Behind every call the descriptor of the context is the only one open, and all
-- that were closed were open.
theorem one_descriptor_tracked (hbegin : Begins monotone sensor_name address port now start)
    (hrun : Run (StoreStep writer monotone) start calls last) : Tracked last.1 last.2 :=
  hrun.invariant (fun s => Tracked s.1 s.2) hbegin.tracked fun _ _ _ h ⟨_, _, hexec⟩ =>
    exec_store_report_preserves Tracked hexec h (fun _ _ _ _ _ h _ hcases => h.reconnects hcases)
      fun _ _ _ _ _ h => ⟨h.sockets, h.connected, h.closes⟩

theorem one_descriptor_tracked_two :
    Tracked (accepted_calls 1024).2.1 (accepted_calls 1024).2.2 :=
  one_descriptor_tracked
    (Begins.created : Begins True "sensor" "10.0.0.1" 9080 1700000000 created)
    (accepted_calls_run 1024)

end Runs

end HwpcSensor.Storage.Socket
