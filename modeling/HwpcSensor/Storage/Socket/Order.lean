import HwpcSensor.Storage.Socket.Lifetime

namespace HwpcSensor.Storage.Socket

open Interaction Transition

def sending.taken (x : sending) : List UInt8 :=
  x.offered.take x.accepted

-- What was accepted on a connection, in order.
def accepted_on (connection : Nat) (sends : List sending) : List UInt8 :=
  (sends.filter (·.connection = connection)).flatMap sending.taken

-- The open sockets have the newest connection, and a connection has what was
-- accepted on it. A connection that was left is not gone back to.
structure Ordered (s : network) : Prop where
  newest : ∀ fd ∈ s.sockets, ∀ connection, s.connected fd = some connection →
    connection + 1 = s.streams.length
  known : ∀ x ∈ s.sends, x.connection < s.streams.length
  accepted : ∀ x ∈ s.sends, 0 < x.accepted ∧ x.accepted ≤ x.offered.length
  forward : (s.sends.map sending.connection).Pairwise (· ≤ ·)
  stream : ∀ connection, s.stream connection = accepted_on connection s.sends
  total : s.streams.flatten = s.sends.flatMap sending.taken

section Ordered

variable {ctx : socket_context} {s s' : network} {time : Int} {result : Int × socket_context}

theorem Ordered.linked (h : Ordered s) : Linked s := by
  intro fd hfd connection hconnection
  exact Nat.lt_of_succ_le (h.newest fd hfd connection hconnection).le

theorem accepted_on_append (connection : Nat) (sends more : List sending) :
    accepted_on connection (sends ++ more) =
      accepted_on connection sends ++ accepted_on connection more := by
  simp [accepted_on, List.filter_append, List.flatMap_append]

theorem flatten_modify_last {streams : List (List UInt8)} {connection : Nat}
    (hlast : connection + 1 = streams.length) (more : List UInt8) :
    (streams.modify connection (· ++ more)).flatten = streams.flatten ++ more := by
  induction streams generalizing connection with
  | nil => simp at hlast
  | cons stream rest ih =>
      cases connection with
      | zero =>
          obtain rfl : rest = [] := List.length_eq_zero_iff.mp (by simpa using hlast.symm)
          simp
      | succ connection =>
          rw [List.modify_succ_cons, List.flatten_cons, ih (by simpa using hlast),
            List.flatten_cons, List.append_assoc]

theorem Ordered.of_frame (h : Ordered s) (hsockets : s'.sockets = [])
    (hstreams : s'.streams = s.streams) (hsends : s'.sends = s.sends) : Ordered s' := by
  refine ⟨fun fd hfd => ?_, ?_, ?_, ?_, fun connection => ?_, ?_⟩
  · rw [hsockets] at hfd
    exact absurd hfd List.not_mem_nil
  · rw [hstreams, hsends]
    exact h.known
  · rw [hsends]
    exact h.accepted
  · rw [hsends]
    exact h.forward
  · rw [network.stream, hstreams, hsends]
    exact h.stream connection
  · rw [hstreams, hsends]
    exact h.total

-- A new connection has nothing yet.
theorem Ordered.connected {sfd : Int} (h : Ordered s) (hnone : s.sockets = [])
    (hdone : Connected s s' sfd) : Ordered s' := by
  have hlength : s'.streams.length = s.streams.length + 1 := by
    rw [hdone.streams, List.length_append, List.length_singleton]
  refine ⟨fun fd hfd connection hconnection => ?_, fun x hx => ?_, ?_, ?_, fun connection => ?_, ?_⟩
  · rw [hdone.sockets, hnone, List.nil_append] at hfd
    obtain rfl := List.mem_singleton.mp hfd
    rw [hdone.connected] at hconnection
    rw [hlength, ← Option.some.inj hconnection]
  · rw [hdone.untouched.sends] at hx
    exact hlength ▸ Nat.lt_succ_of_lt (h.known x hx)
  · rw [hdone.untouched.sends]
    exact h.accepted
  · rw [hdone.untouched.sends]
    exact h.forward
  · rw [network.stream, hdone.streams, network.stream_append_nil, hdone.untouched.sends]
    exact h.stream connection
  · rw [hdone.streams, hdone.untouched.sends, ← h.total]
    simp

theorem Ordered.sent {fd : Int} {connection accepted : Nat} {offered : List UInt8}
    (h : Ordered s) (hopen : fd ∈ s.sockets) (hlink : s.connected fd = some connection)
    (hsome : 0 < accepted) (hmost : accepted ≤ offered.length) :
    Ordered (s.sent connection offered accepted) := by
  have hlast := h.newest fd hopen connection hlink
  have hlength : (s.sent connection offered accepted).streams.length = s.streams.length := by
    simp [network.sent]
  refine ⟨fun fd hfd connection' hconnection => ?_, fun x hx => ?_, fun x hx => ?_, ?_,
    fun other => ?_, ?_⟩
  · exact hlength ▸ h.newest fd hfd connection' hconnection
  · rw [hlength]
    rcases List.mem_append.mp hx with hold | hnew
    · exact h.known x hold
    · obtain rfl := List.mem_singleton.mp hnew
      exact Nat.lt_of_succ_le hlast.le
  · rcases List.mem_append.mp hx with hold | hnew
    · exact h.accepted x hold
    · obtain rfl := List.mem_singleton.mp hnew
      exact ⟨hsome, hmost⟩
  · rw [network.sent, List.map_append]
    refine List.pairwise_append.mpr ⟨h.forward, List.pairwise_singleton _ _, ?_⟩
    intro earlier hearlier later hlater
    obtain ⟨x, hx, rfl⟩ := List.mem_map.mp hearlier
    obtain rfl : later = connection := by simpa using hlater
    have hlt := h.known x hx
    omega
  · rw [network.stream_sent (Nat.lt_of_succ_le hlast.le), network.sent, accepted_on_append,
      ← h.stream other]
    by_cases heq : other = connection
    · subst heq
      simp [accepted_on, sending.taken]
    · have hne : connection ≠ other := fun h => heq h.symm
      simp [accepted_on, heq, hne]
  · rw [network.sent, flatten_modify_last hlast, h.total, List.flatMap_append]
    simp [sending.taken]

theorem Ordered.reconnects (h : Ordered s) (htracked : Tracked ctx s)
    (hcases : Reconnects ctx s time result s') : Ordered s' := by
  obtain ⟨hnone, -⟩ := htracked.dropped time
  obtain ⟨hstreams, hsends, -, -⟩ := network.dropped_frame (s.at_time time) ctx.socket_fd
  have hdropped : Ordered (((s.at_time time).dropped ctx.socket_fd).retry (.attempt time)) :=
    h.of_frame hnone hstreams hsends
  cases hcases with
  | waits => exact h.of_frame hnone hstreams hsends
  | fails hdue hnot =>
      exact hdropped.of_frame (hnot.sockets.trans hnone) hnot.streams hnot.untouched.sends
  | succeeds hdue hdone =>
      have hconnected := hdropped.connected hnone hdone
      exact ⟨hconnected.newest, hconnected.known, hconnected.accepted, hconnected.forward,
        hconnected.stream, hconnected.total⟩

end Ordered

section Runs

variable {Double : Type} {writer : json_writer Double} {monotone : Prop}
  {sensor_name address : String} {port now : Int} {start last : socket_context × network}
  {calls : List store_call}

def store_call.stored (call : store_call) : Bool :=
  call.result = 0

-- How a call ends: it reports an error and has sent nothing, or a part of its
-- document was accepted at once.
def SendsDocument (writer : json_writer Double) (before : socket_context × network)
    (payload : payload) (result : Int) (sends : List sending) : Prop :=
  (result = -1 ∧ sends = before.2.sends) ∨
    result = 0 ∧ ∃ x : sending, writer.bson_as_json (report writer before.1 payload) =
      some x.offered ∧ sends = before.2.sends ++ [x]

theorem exec_store_report_ordered {ctx : socket_context} {s s' : network} {payload : payload}
    {result : Int × socket_context}
    (h : Exec (network.step monotone) (socket_store_report writer ctx payload) s result s')
    (htracked : Tracked ctx s) (hordered : Ordered s) :
    Ordered s' ∧ SendsDocument writer (ctx, s) payload result.1 s'.sends := by
  have hrules : ReportRules monotone
      (fun document => writer.bson_as_json (report writer ctx payload) = some document)
      (fun ctx' s₁ => Tracked ctx' s₁ ∧ Ordered s₁ ∧ Steady (ctx, s) ctx' s₁)
      (fun result s₁ => Ordered s₁ ∧
        SendsDocument writer (ctx, s) payload result.1 s₁.sends) := by
    refine ⟨?_, ?_, ?_, ?_⟩
    · rintro ctx' s₁ ⟨-, hordered, hsteady⟩
      exact ⟨hordered, Or.inl ⟨rfl, hsteady.sends⟩⟩
    · rintro ctx' s₁ time result s₂ ⟨htracked, hordered, hsteady⟩ - hcases -
      exact ⟨htracked.reconnects hcases, hordered.reconnects htracked hcases,
        hsteady.reconnects hcases⟩
    · rintro ctx' s₁ time result s₂ ⟨htracked, hordered, hsteady⟩ - hcases -
      exact ⟨hordered.reconnects htracked hcases,
        Or.inl ⟨rfl, (hsteady.reconnects hcases).sends⟩⟩
    · rintro ctx' s₁ connection document accepted ⟨-, hordered, hsteady⟩ hdocument hopen hlink
        hsome hmost
      exact ⟨hordered.sent hopen hlink hsome hmost, Or.inr ⟨rfl, ⟨connection, document, accepted⟩,
        hdocument, by rw [network.sent, hsteady.sends]⟩⟩
  refine exec_store_report hrules (fun ctx' s₁ document hinv hjson => ?_) h
    ⟨htracked, hordered, rfl, fun _ => rfl, rfl, hordered.linked⟩
  have hsame : report writer ctx' payload = report writer ctx payload := by
    rw [report, report, hinv.2.2.config]
  rwa [hsame] at hjson

theorem Begins.ordered (h : Begins monotone sensor_name address port now start) :
    Ordered start.2 := by
  obtain ⟨-, -, hsends, -, ⟨-, hsockets, hstreams⟩ |
    ⟨sfd, -, -, hsockets, hconnected, hstreams⟩⟩ := h.cases
  · refine ⟨?_, ?_, ?_, ?_, fun connection => ?_, ?_⟩ <;>
      simp [hsockets, hsends, hstreams, network.stream, accepted_on]
  · refine ⟨fun fd hfd connection hconnection => ?_, ?_, ?_, ?_, fun connection => ?_, ?_⟩
    · rw [hsockets] at hfd
      obtain rfl := List.mem_singleton.mp hfd
      rw [hconnected] at hconnection
      rw [hstreams, ← Option.some.inj hconnection]
      rfl
    · simp [hsends]
    · simp [hsends]
    · simp [hsends]
    · rw [network.stream, hstreams, hsends]
      cases connection <;> rfl
    · rw [hstreams, hsends]
      rfl

-- Each call that returns 0 has offered its document once, and no other call has
-- offered anything.
theorem offered_in_order (hbegin : Begins monotone sensor_name address port now start)
    (hrun : Run (StoreStep writer monotone) start calls last) :
    Tracked last.1 last.2 ∧ Ordered last.2 ∧
      (calls.filter store_call.stored).map (store_call.document writer) =
        last.2.sends.map fun x => some x.offered := by
  refine hrun.history (fun calls s => Tracked s.1 s.2 ∧ Ordered s.2 ∧
    (calls.filter store_call.stored).map (store_call.document writer) =
      s.2.sends.map fun x => some x.offered) ?_ ?_
  · exact ⟨hbegin.tracked, hbegin.ordered, by rw [hbegin.linked.2.1]; rfl⟩
  · rintro calls s call s' ⟨htracked, hordered, hoffered⟩ hstep
    have htracked' : Tracked s'.1 s'.2 := htracked.stored hstep
    obtain ⟨hbefore, hafter, hexec⟩ := hstep
    obtain ⟨hordered', hsends⟩ := exec_store_report_ordered hexec htracked hordered
    refine ⟨htracked', hordered', ?_⟩
    rw [List.filter_append, List.map_append, hoffered]
    rcases hsends with ⟨hresult, hsame⟩ | ⟨hresult, x, hdocument, hmore⟩
    · have hresult : call.result = -1 := hresult
      simp [store_call.stored, hresult, hsame]
    · have hresult : call.result = 0 := hresult
      have hdocument : call.document writer = some x.offered := by
        rw [store_call.document, hbefore]
        exact hdocument
      simp [store_call.stored, hresult, hmore, hdocument]

-- What reaches the endpoint are, in the order of the calls, the documents of those
-- calls that returned 0, or a first part of each, cut into the connections by the
-- order in which these were made.
theorem delivered_in_order (hbegin : Begins monotone sensor_name address port now start)
    (hrun : Run (StoreStep writer monotone) start calls last) :
    (calls.filter store_call.stored).map (store_call.document writer) =
        (last.2.sends.map fun x => some x.offered) ∧
      (∀ x ∈ last.2.sends, 0 < x.accepted ∧ x.accepted ≤ x.offered.length) ∧
      (last.2.sends.map sending.connection).Pairwise (· ≤ ·) ∧
      (∀ connection, last.2.stream connection = accepted_on connection last.2.sends) ∧
      (WholeSends last.2 → last.2.streams.flatten =
        (calls.filter store_call.stored).flatMap fun call =>
          (call.document writer).getD []) := by
  obtain ⟨-, hordered, hoffered⟩ := offered_in_order hbegin hrun
  refine ⟨hoffered, hordered.accepted, hordered.forward, hordered.stream, fun hwhole => ?_⟩
  have htaken : last.2.sends.flatMap sending.taken = last.2.sends.flatMap sending.offered :=
    List.flatMap_congr fun x hx => by rw [sending.taken, hwhole x hx, List.take_length]
  have hdocuments := congrArg (List.flatMap fun document => Option.getD document []) hoffered
  rw [List.flatMap_map, List.flatMap_map] at hdocuments
  rw [hordered.total, htaken, hdocuments]
  rfl

theorem delivered_in_order_two :
    (accepted_calls 1024).2.2.streams.flatten =
      (accepted_calls 1024).1.flatMap fun call => (call.document plain_writer).getD [] := by
  have hin_order := delivered_in_order
    (Begins.created : Begins True "sensor" "10.0.0.1" 9080 1700000000 created)
    (accepted_calls_run 1024)
  exact (hin_order.2.2.2.2 (by decide)).trans (by decide)

end Runs

end HwpcSensor.Storage.Socket
