import HwpcSensor.Storage.Socket.Backoff
import Mathlib.Data.List.GetD

namespace HwpcSensor.Storage.Socket

open Interaction Transition

-- The document of a call.
def store_call.document {Double : Type} (writer : json_writer Double) (call : store_call) :
    Option (List UInt8) :=
  writer.bson_as_json (report writer call.before.1 call.payload)

-- The connections of the open sockets have a stream.
def Linked (s : network) : Prop :=
  ∀ fd ∈ s.sockets, ∀ connection, s.connected fd = some connection →
    connection < s.streams.length

section Streams

variable {ctx : socket_context} {s s' : network} {time : Int} {result : Int × socket_context}

theorem network.stream_sent {connection : Nat} (hlink : connection < s.streams.length)
    (offered : List UInt8) (accepted other : Nat) :
    (s.sent connection offered accepted).stream other =
      if other = connection then s.stream connection ++ offered.take accepted
      else s.stream other := by
  unfold network.stream network.sent
  by_cases heq : other = connection
  · subst heq
    simp [List.getD_eq_getElem?_getD, hlink]
  · simp [List.getD_eq_getElem?_getD, heq, Ne.symm heq]

theorem network.stream_append_nil (s : network) (other : Nat) :
    (s.streams ++ [[]]).getD other [] = s.stream other := by
  unfold network.stream
  by_cases hold : other < s.streams.length
  · rw [List.getD_append _ _ _ _ hold]
  · rw [List.getD_append_right _ _ _ _ (Nat.le_of_not_lt hold), List.getD_eq_default s.streams _
      (Nat.le_of_not_lt hold)]
    cases other - s.streams.length <;> rfl

theorem Linked.not_connected (h : Linked s) (hnot : NotConnected s s') : Linked s' := by
  intro fd hfd connection hconnection
  rw [hnot.sockets] at hfd
  rw [hnot.untouched.connected fd hfd] at hconnection
  rw [hnot.streams]
  exact h fd hfd connection hconnection

theorem Linked.connected {sfd : Int} (h : Linked s) (hdone : Connected s s' sfd) : Linked s' := by
  intro fd hfd connection hconnection
  rw [hdone.sockets] at hfd
  rw [hdone.streams, List.length_append, List.length_singleton]
  rcases List.mem_append.mp hfd with hold | hnew
  · rw [hdone.untouched.connected fd hold] at hconnection
    exact Nat.lt_succ_of_lt (h fd hold connection hconnection)
  · rw [List.mem_singleton.mp hnew, hdone.connected] at hconnection
    exact Option.some.inj hconnection ▸ Nat.lt_succ_self _

theorem network.dropped_frame (s : network) (fd : Int) :
    (s.dropped fd).streams = s.streams ∧ (s.dropped fd).sends = s.sends ∧
      (s.dropped fd).connected = s.connected ∧
      ∀ other ∈ (s.dropped fd).sockets, other ∈ s.sockets := by
  unfold network.dropped
  split_ifs
  · exact ⟨rfl, rfl, rfl, fun other hother => List.mem_of_mem_filter hother⟩
  · exact ⟨rfl, rfl, rfl, fun _ hother => hother⟩

-- What a report leaves as it was while nothing has been accepted of it.
structure Steady (before : socket_context × network) (ctx : socket_context) (s : network) :
    Prop where
  config : ctx.config = before.1.config
  streams : ∀ connection, s.stream connection = before.2.stream connection
  sends : s.sends = before.2.sends
  linked : Linked s

theorem Steady.reconnects {before : socket_context × network} (h : Steady before ctx s)
    (hcases : Reconnects ctx s time result s') : Steady before result.2 s' := by
  obtain ⟨hstreams, hsends, hconnected, hsockets⟩ :=
    network.dropped_frame (s.at_time time) ctx.socket_fd
  have hlinked : Linked (((s.at_time time).dropped ctx.socket_fd).retry (.attempt time)) := by
    intro fd hfd connection hconnection
    rw [network.retry, hconnected] at hconnection
    rw [network.retry, hstreams]
    exact h.linked fd (hsockets fd hfd) connection hconnection
  have hstream : ∀ connection, ((s.at_time time).dropped ctx.socket_fd).stream connection =
      before.2.stream connection := by
    intro connection
    rw [network.stream, hstreams]
    exact h.streams connection
  have hsent := hsends.trans h.sends
  cases hcases with
  | waits => exact ⟨h.config, hstream, hsent, hlinked⟩
  | @fails drawn backoff s₁ hdue hnot =>
      have hkept : Linked s₁ := hlinked.not_connected hnot
      refine ⟨h.config, fun connection => ?_, hnot.untouched.sends.trans hsent, hkept⟩
      exact (congrArg (List.getD · connection []) hnot.streams).trans (hstream connection)
  | @succeeds sfd s₁ hdue hdone =>
      have hkept : Linked s₁ := hlinked.connected hdone
      refine ⟨h.config, fun connection => ?_, hdone.untouched.sends.trans hsent, hkept⟩
      have hnew := (congrArg (List.getD · connection []) hdone.streams).trans
        (network.stream_append_nil _ connection)
      exact hnew.trans (hstream connection)

-- How a report ends: nothing was accepted, or some of its document, on one
-- connection.
inductive Ends (Document : List UInt8 → Prop) (before : socket_context × network) :
    Int × socket_context → network → Prop
  | unsent {ctx : socket_context} {s : network} :
      Steady before ctx s → Ends Document before (-1, ctx) s
  | sent {ctx : socket_context} {s : network} {connection accepted : Nat} {document : List UInt8} :
      Steady before ctx s → Document document → connection < s.streams.length → 0 < accepted →
      accepted ≤ document.length →
      Ends Document before (0, ctx) (s.sent connection document accepted)

theorem exec_store_report_ends {Double : Type} {writer : json_writer Double} {monotone : Prop}
    {payload : payload}
    (h : Exec (network.step monotone) (socket_store_report writer ctx payload) s result s')
    (hlinked : Linked s) :
    Ends (fun document => writer.bson_as_json (report writer ctx payload) = some document) (ctx, s)
      result s' := by
  have hrules : ReportRules monotone
      (fun document => writer.bson_as_json (report writer ctx payload) = some document)
      (Steady (ctx, s))
      (Ends (fun document => writer.bson_as_json (report writer ctx payload) = some document)
        (ctx, s)) :=
    ⟨fun _ _ => .unsent, fun _ _ _ _ _ h _ hcases _ => h.reconnects hcases,
      fun _ _ _ _ _ h _ hcases _ => .unsent (h.reconnects hcases),
      fun _ _ _ _ _ h hdocument hopen hlink hsome hmost =>
        .sent h hdocument (h.linked _ hopen _ hlink) hsome hmost⟩
  refine exec_store_report hrules (fun ctx' s' document hinv hjson => ?_) h
    ⟨rfl, fun _ => rfl, rfl, hlinked⟩
  have hsame : report writer ctx' payload = report writer ctx payload := by
    rw [report, report, hinv.config]
  rwa [hsame] at hjson

end Streams

section Runs

variable {Double : Type} {writer : json_writer Double} {monotone : Prop}
  {sensor_name address : String} {port now : Int} {start last : socket_context × network}
  {calls : List store_call}

-- A call that returns 0 has put its document on a connection.
def Stored (writer : json_writer Double) (call : store_call) : Prop :=
  call.result = 0 → ∃ document, call.document writer = some document ∧
    ∃ connection, call.after.2.stream connection = call.before.2.stream connection ++ document

-- A report can only go on with a connection that is not abandoned.
def Abandoned (s : socket_context × network) (connection : Nat) : Prop :=
  s.1.socket_fd ∈ s.2.sockets → s.2.connected s.1.socket_fd ≠ some connection

-- Whole documents, and behind them at most one that is not complete.
def Concatenated (writer : json_writer Double) (calls : List store_call)
    (last : socket_context × network) (connection : Nat) : Prop :=
  ∃ (documents : List (List UInt8)) (rest : List UInt8),
    last.2.stream connection = documents.flatten ++ rest ∧
    (∀ document ∈ documents, ∃ call ∈ calls, call.document writer = some document) ∧
    (rest = [] ∨ Abandoned last connection ∧ ∃ call ∈ calls, ∃ document,
      call.document writer = some document ∧ rest <+: document ∧ rest ≠ document)

structure WholeDocuments (writer : json_writer Double) (calls : List store_call)
    (last : socket_context × network) : Prop where
  stored : ∀ call ∈ calls, Stored writer call
  concatenated : ∀ connection, Concatenated writer calls last connection

-- What was not refused was accepted whole.
def WholeSends (s : network) : Prop :=
  ∀ sending ∈ s.sends, sending.accepted = sending.offered.length

instance : DecidablePred WholeSends := fun s =>
  inferInstanceAs (Decidable (∀ sending ∈ s.sends, _))

theorem Begins.linked (h : Begins monotone sensor_name address port now start) :
    Linked start.2 ∧ start.2.sends = [] ∧ ∀ connection, start.2.stream connection = [] := by
  obtain ⟨-, -, hsends, -, ⟨-, hsockets, hstreams⟩ |
    ⟨sfd, -, -, hsockets, hconnected, hstreams⟩⟩ := h.cases
  · refine ⟨fun fd hfd => ?_, hsends, fun connection => ?_⟩
    · rw [hsockets] at hfd
      cases hfd
    · rw [network.stream, hstreams]
      rfl
  · refine ⟨fun fd hfd connection hconnection => ?_, hsends, fun connection => ?_⟩
    · rw [hsockets] at hfd
      rw [List.mem_singleton.mp hfd, hconnected] at hconnection
      rw [hstreams, ← Option.some.inj hconnection]
      decide
    · rw [network.stream, hstreams]
      cases connection <;> rfl

-- A call of which a part of the document was accepted, and which returned 0.
structure Accepts (writer : json_writer Double) (call : store_call) (document : List UInt8)
    (connection accepted : Nat) : Prop where
  document_eq : call.document writer = some document
  result_eq : call.result = 0
  some_accepted : 0 < accepted
  at_most : accepted ≤ document.length
  sends : call.after.2.sends = call.before.2.sends ++ [⟨connection, document, accepted⟩]
  streams : ∀ other, call.after.2.stream other =
    if other = connection then call.before.2.stream connection ++ document.take accepted
    else call.before.2.stream other

-- A call that added nothing, and did not return 0.
structure Refused (call : store_call) : Prop where
  result_eq : call.result = -1
  sends : call.after.2.sends = call.before.2.sends
  streams : ∀ other, call.after.2.stream other = call.before.2.stream other

theorem store_step_cases {s s' : socket_context × network} {call : store_call}
    (h : StoreStep writer monotone s call s') (hlinked : Linked s.2) :
    Linked s'.2 ∧ (Refused call ∨
      ∃ document connection accepted, Accepts writer call document connection accepted) := by
  obtain ⟨rfl, rfl, hexec⟩ := h
  have hends := exec_store_report_ends hexec hlinked
  generalize hresult : (call.result, call.after.1) = result at hends
  generalize hafter : call.after.2 = after at hends
  cases hends with
  | unsent hsteady =>
      subst hafter
      exact ⟨hsteady.linked, Or.inl ⟨(Prod.mk.inj hresult).1, hsteady.sends, hsteady.streams⟩⟩
  | @sent ctx s connection accepted document hsteady hdocument hlink hsome hmost =>
      refine ⟨?_, Or.inr ⟨document, connection, accepted, hdocument, (Prod.mk.inj hresult).1, hsome,
        hmost, ?_, fun other => ?_⟩⟩
      · intro fd hfd other hother
        have hlt := hsteady.linked fd hfd other hother
        rwa [network.sent, List.length_modify]
      · rw [hafter, network.sent, hsteady.sends]
      · rw [hafter, network.stream_sent hlink, hsteady.streams, hsteady.streams]

-- A document that is stored was accepted whole.
theorem Accepts.whole {call : store_call} {document : List UInt8} {connection accepted : Nat}
    (h : Accepts writer call document connection accepted) (hstored : Stored writer call) :
    accepted = document.length := by
  obtain ⟨stored, hdocument, other, hgrown⟩ := hstored h.result_eq
  obtain rfl := Option.some.inj (hdocument.symm.trans h.document_eq)
  rw [h.streams other] at hgrown
  have hpositive := h.some_accepted
  have hmost := h.at_most
  have hlength := congrArg List.length hgrown
  by_cases heq : other = connection
  · rw [if_pos heq, heq, List.length_append, List.length_append, List.length_take] at hlength
    omega
  · rw [if_neg heq, List.length_append] at hlength
    omega

theorem Accepts.stored {call : store_call} {document : List UInt8} {connection accepted : Nat}
    (h : Accepts writer call document connection accepted) (hwhole : accepted = document.length) :
    Stored writer call := by
  intro _
  refine ⟨document, h.document_eq, connection, ?_⟩
  rw [h.streams connection, if_pos rfl, hwhole, List.take_length]

-- What the runs add up to, while every document so far was stored or accepted whole.
structure Streamed (writer : json_writer Double) (calls : List store_call)
    (s : socket_context × network) : Prop where
  linked : Linked s.2
  whole : (∀ call ∈ calls, Stored writer call) → WholeSends s.2
  stored : WholeSends s.2 → ∀ call ∈ calls, Stored writer call
  concatenated : WholeSends s.2 → ∀ connection, ∃ documents : List (List UInt8),
    s.2.stream connection = documents.flatten ∧
      ∀ document ∈ documents, ∃ call ∈ calls, call.document writer = some document

theorem Streamed.refused {s s' : socket_context × network} {call : store_call}
    (h : Streamed writer calls s) (hstep : StoreStep writer monotone s call s')
    (hlinked : Linked s'.2) (hrefused : Refused call) : Streamed writer (calls ++ [call]) s' := by
  obtain ⟨rfl, rfl, -⟩ := hstep
  have hstored : Stored writer call := by
    intro hzero
    rw [hrefused.result_eq] at hzero
    exact absurd hzero (by decide)
  have hwhole : WholeSends call.after.2 ↔ WholeSends call.before.2 := by
    unfold WholeSends
    rw [hrefused.sends]
  refine ⟨hlinked, fun hall => hwhole.mpr (h.whole ?_), fun hsends => ?_, fun hsends => ?_⟩
  · exact fun other hother => hall other (List.mem_append_left _ hother)
  · exact List.forall_mem_append.mpr
      ⟨h.stored (hwhole.mp hsends), List.forall_mem_singleton.mpr hstored⟩
  · intro connection
    obtain ⟨documents, hstream, hdocuments⟩ := h.concatenated (hwhole.mp hsends) connection
    refine ⟨documents, (hrefused.streams connection).trans hstream, fun document hdocument => ?_⟩
    obtain ⟨other, hother, heq⟩ := hdocuments document hdocument
    exact ⟨other, List.mem_append_left _ hother, heq⟩

theorem Streamed.accepts {s s' : socket_context × network} {call : store_call}
    {document : List UInt8} {connection accepted : Nat} (h : Streamed writer calls s)
    (hstep : StoreStep writer monotone s call s') (hlinked : Linked s'.2)
    (haccepts : Accepts writer call document connection accepted) :
    Streamed writer (calls ++ [call]) s' := by
  obtain ⟨rfl, rfl, -⟩ := hstep
  have hwhole : WholeSends call.after.2 ↔
      WholeSends call.before.2 ∧ accepted = document.length := by
    unfold WholeSends
    rw [haccepts.sends, List.forall_mem_append, List.forall_mem_singleton]
  refine ⟨hlinked, fun hall => hwhole.mpr ⟨h.whole ?_, haccepts.whole ?_⟩, fun hsends => ?_,
    fun hsends other => ?_⟩
  · exact fun other hother => hall other (List.mem_append_left _ hother)
  · exact hall call (List.mem_append_right _ (List.mem_singleton_self call))
  · obtain ⟨hbefore, haccepted⟩ := hwhole.mp hsends
    exact List.forall_mem_append.mpr
      ⟨h.stored hbefore, List.forall_mem_singleton.mpr (haccepts.stored haccepted)⟩
  · obtain ⟨hbefore, haccepted⟩ := hwhole.mp hsends
    obtain ⟨documents, hstream, hdocuments⟩ := h.concatenated hbefore other
    have hold : ∀ document ∈ documents, ∃ other ∈ calls ++ [call],
        other.document writer = some document := fun document hdocument => by
      obtain ⟨other, hother, heq⟩ := hdocuments document hdocument
      exact ⟨other, List.mem_append_left _ hother, heq⟩
    rw [haccepts.streams other]
    by_cases heq : other = connection
    · subst heq
      refine ⟨documents ++ [document], ?_, List.forall_mem_append.mpr
        ⟨hold, List.forall_mem_singleton.mpr ?_⟩⟩
      · rw [if_pos rfl, hstream, haccepted, List.take_length, List.flatten_append]
        simp
      · exact ⟨call, List.mem_append_right _ (List.mem_singleton_self call), haccepts.document_eq⟩
    · rw [if_neg heq]
      exact ⟨documents, hstream, hold⟩

theorem streamed_of_run (hbegin : Begins monotone sensor_name address port now start)
    (hrun : Run (StoreStep writer monotone) start calls last) : Streamed writer calls last := by
  obtain ⟨hlinked, hsends, hstreams⟩ := hbegin.linked
  have hwhole : WholeSends start.2 := by
    rw [WholeSends, hsends]
    exact fun _ hsending => absurd hsending List.not_mem_nil
  refine hrun.history (Streamed writer)
    ⟨hlinked, fun _ => hwhole, by simp, fun _ connection => ?_⟩ ?_
  · exact ⟨[], hstreams connection, by simp⟩
  · intro calls s call s' h hstep
    obtain ⟨hlinked', hrefused | ⟨document, connection, accepted, haccepts⟩⟩ :=
      store_step_cases hstep h.linked
    · exact h.refused hstep hlinked' hrefused
    · exact h.accepts hstep hlinked' haccepts

-- The streams are made of whole documents exactly when no send takes only a part.
theorem whole_documents_iff (hbegin : Begins monotone sensor_name address port now start)
    (hrun : Run (StoreStep writer monotone) start calls last) :
    WholeDocuments writer calls last ↔ WholeSends last.2 := by
  have hstreamed := streamed_of_run hbegin hrun
  constructor
  · exact fun h => hstreamed.whole h.stored
  · refine fun hsends => ⟨hstreamed.stored hsends, fun connection => ?_⟩
    obtain ⟨documents, hstream, hdocuments⟩ := hstreamed.concatenated hsends connection
    exact ⟨documents, [], by rw [hstream, List.append_nil], hdocuments, Or.inl rfl⟩

-- An endpoint that takes every connection, and at most so many bytes at once.
def accepting (limit : Nat) (s : network) : (call : socket_call) → socket_answer call × network
  | .time => (s.now + 1, s.at_time (s.now + 1))
  | .getrandom => (none, s.retry (.jitter none))
  | .getaddrinfo _ _ _ => (some [⟨2, 1, 6, [10, 0, 0, 1]⟩], s.retry (.attempt s.now))
  | .socket _ _ _ => if 3 ∈ s.sockets then ((-1 : Int), s) else ((3 : Int), s.opened 3)
  | .connect fd _ => ((0 : Int), (s.linked fd).answer 0)
  | .close fd => ((), s.closed fd)
  | .send fd buffer =>
      match s.connected fd with
      | none => ((-1 : Int), s)
      | some connection =>
          if fd ∈ s.sockets ∧ 0 < min limit buffer.length then
            (((min limit buffer.length : Nat) : Int),
              s.sent connection buffer (min limit buffer.length))
          else ((-1 : Int), s)
  | .next_try seconds => ((), s.retry (.failed s.now seconds))
  | .recovered => ((), s.retry (.recovered s.now))

theorem accepting_step (limit : Nat) (s : network) (call : socket_call) :
    network.step monotone s call (accepting limit s call).1 (accepting limit s call).2 := by
  cases call with
  | time => exact ⟨fun _ => show s.now ≤ s.now + 1 by omega, rfl⟩
  | socket family socktype protocol =>
      by_cases hopen : 3 ∈ s.sockets
      · simp only [accepting, if_pos hopen]
        exact Or.inl ⟨rfl, rfl⟩
      · simp only [accepting, if_neg hopen]
        exact Or.inr ⟨by decide, hopen, rfl⟩
  | connect fd addr => exact Or.inr ⟨rfl, rfl⟩
  | send fd buffer =>
      simp only [accepting]
      cases hconnected : s.connected fd with
      | none => exact Or.inl ⟨rfl, rfl⟩
      | some connection =>
          by_cases hsome : fd ∈ s.sockets ∧ 0 < min limit buffer.length
          · simp only [if_pos hsome]
            exact Or.inr
              ⟨connection, _, hsome.1, hconnected, hsome.2, Nat.min_le_right _ _, rfl, rfl⟩
          · simp only [if_neg hsome]
            exact Or.inl ⟨rfl, rfl⟩
  | _ => rfl

-- Two reports, of which the endpoint takes at most so many bytes at once.
def accepted_calls (limit : Nat) : List store_call × (socket_context × network) :=
  serve_reports (accepting limit) plain_writer
    [payload_create 0 "all", payload_create 1000 "all"] created

theorem accepted_calls_run (limit : Nat) :
    Run (StoreStep plain_writer monotone) created (accepted_calls limit).1
      (accepted_calls limit).2 :=
  serve_reports_run (accepting_step limit) _ _ _

theorem whole_documents_iff_two :
    WholeDocuments plain_writer (accepted_calls 1024).1 (accepted_calls 1024).2 ↔
      WholeSends (accepted_calls 1024).2.2 :=
  whole_documents_iff (Begins.created : Begins True "sensor" "10.0.0.1" 9080 1700000000 created)
    (accepted_calls_run 1024)

-- One byte of a document is taken, and the call returns 0.
theorem part_of_document_stored :
    ¬ ∀ (Double : Type) (writer : json_writer Double) (sensor_name address : String)
      (port now : Int) (start last : socket_context × network) (calls : List store_call),
      Begins True sensor_name address port now start →
      Run (StoreStep writer True) start calls last → WholeDocuments writer calls last := by
  intro hclaim
  have hwhole := hclaim Nat plain_writer _ _ _ _ created _ _ .created (accepted_calls_run 1)
  have hstreamed : Streamed plain_writer (accepted_calls 1).1 (accepted_calls 1).2 :=
    streamed_of_run (.created : Begins True "sensor" "10.0.0.1" 9080 1700000000 created)
      (accepted_calls_run 1)
  exact absurd (hstreamed.whole hwhole.stored) (by decide)

end Runs

end HwpcSensor.Storage.Socket
