import HwpcSensor.Library.Transition
import HwpcSensor.Storage.Socket
import Mathlib.Logic.Function.Basic

namespace HwpcSensor.Storage.Socket

open Interaction Transition

-- What is known of the attempts to reconnect, in order. An attempt begins with the
-- resolution of the address, and each connection has its answer.
inductive retry where
  | attempt (time : Int)
  | answered (time err : Int)
  | jitter (rand : Option UInt8)
  | failed (time backoff : Int)
  | recovered (time : Int)
  deriving DecidableEq

-- What was offered to a connection, and how much of it was accepted.
structure sending where
  connection : Nat
  offered : List UInt8
  accepted : Nat
  deriving DecidableEq

-- The sockets of the module, the connection that each of them has, and the bytes
-- that were accepted on each connection. The last three fields only record history:
-- the attempts to reconnect, what was sent, and what was closed, with whether it
-- was open.
structure network where
  now : Int
  sockets : List Int
  connected : Int → Option Nat
  streams : List (List UInt8)
  retries : List retry
  sends : List sending
  closes : List (Int × Bool)

namespace network

-- Nothing has happened yet.
def start (now : Int) : network :=
  ⟨now, [], fun _ => none, [], [], [], []⟩

def stream (s : network) (connection : Nat) : List UInt8 :=
  s.streams.getD connection []

def retry (s : network) (event : retry) : network :=
  { s with retries := s.retries ++ [event] }

def opened (s : network) (fd : Int) : network :=
  { s with sockets := s.sockets ++ [fd], connected := Function.update s.connected fd none }

def linked (s : network) (fd : Int) : network :=
  { s with
    connected := Function.update s.connected fd (some s.streams.length)
    streams := s.streams ++ [[]] }

def closed (s : network) (fd : Int) : network :=
  { s with
    sockets := s.sockets.filter (· ≠ fd)
    closes := s.closes ++ [(fd, decide (fd ∈ s.sockets))] }

def at_time (s : network) (time : Int) : network :=
  { s with now := time }

-- No socket is -1.
def dropped (s : network) (socket_fd : Int) : network :=
  if socket_fd ≠ -1 then s.closed socket_fd else s

def sent (s : network) (connection : Nat) (offered : List UInt8) (accepted : Nat) : network :=
  { s with
    streams := s.streams.modify connection (· ++ offered.take accepted)
    sends := s.sends ++ [⟨connection, offered, accepted⟩] }

def answer (s : network) (err : Int) : network :=
  s.retry (.answered s.now err)

-- A new socket gets a number that no open socket has.
def ServeSocket (s : network) (fd : Int) (s' : network) : Prop :=
  (fd = -1 ∧ s' = s) ∨ (0 ≤ fd ∧ fd ∉ s.sockets ∧ s' = s.opened fd)

def ServeConnect (s : network) (fd err : Int) (s' : network) : Prop :=
  (err = -1 ∧ s' = s.answer (-1)) ∨ (err = 0 ∧ s' = (s.linked fd).answer 0)

-- All or a part of what is offered can be accepted.
def ServeSend (s : network) (fd : Int) (buffer : List UInt8) (nbsend : Int) (s' : network) :
    Prop :=
  (nbsend = -1 ∧ s' = s) ∨ ∃ connection accepted, fd ∈ s.sockets ∧
    s.connected fd = some connection ∧ 0 < accepted ∧ accepted ≤ buffer.length ∧
    nbsend = accepted ∧ s' = s.sent connection buffer accepted

-- How a call is answered. With `monotone`, the clock never goes back.
def step (monotone : Prop) : Semantics socket_call socket_answer network
  | s, .time, current_time, s' =>
      (monotone → s.now ≤ current_time) ∧ s' = s.at_time current_time
  | s, .getrandom, nbrand, s' => s' = s.retry (.jitter nbrand)
  | s, .getaddrinfo _ _ _, _, s' => s' = s.retry (.attempt s.now)
  | s, .socket _ _ _, fd, s' => s.ServeSocket fd s'
  | s, .connect fd _, err, s' => s.ServeConnect fd err s'
  | s, .close fd, _, s' => s' = s.closed fd
  | s, .send fd buffer, nbsend, s' => s.ServeSend fd buffer nbsend s'
  | s, .next_try seconds, _, s' => s' = s.retry (.failed s.now seconds)
  | s, .recovered, _, s' => s' = s.retry (.recovered s.now)

end network

variable {monotone : Prop} {ctx : socket_context} {s s' : network}

section Connect

-- What an attempt to connect does not change.
structure Untouched (s s' : network) : Prop where
  now : s'.now = s.now
  connected : ∀ fd ∈ s.sockets, s'.connected fd = s.connected fd
  sends : s'.sends = s.sends
  closes : ∃ more, s'.closes = s.closes ++ more ∧ ∀ entry ∈ more, entry.2 = true

theorem Untouched.refl (s : network) : Untouched s s :=
  ⟨rfl, fun _ _ => rfl, rfl, [], by simp, by simp⟩

theorem Untouched.trans {s'' : network} (h : Untouched s s') (h' : Untouched s' s'')
    (hsub : ∀ fd ∈ s.sockets, fd ∈ s'.sockets) : Untouched s s'' := by
  obtain ⟨more, hmore, hopen⟩ := h.closes
  obtain ⟨more', hmore', hopen'⟩ := h'.closes
  refine ⟨h'.now.trans h.now, fun fd hfd => ?_, h'.sends.trans h.sends,
    more ++ more', ?_, ?_⟩
  · exact (h'.connected fd (hsub fd hfd)).trans (h.connected fd hfd)
  · rw [hmore', hmore, List.append_assoc]
  · exact List.forall_mem_append.mpr ⟨hopen, hopen'⟩

-- A socket that could not be connected leaves no trace but that it was closed.
theorem untouched_dropped {fd : Int} (hfresh : fd ∉ s.sockets) :
    Untouched s (((s.opened fd).answer (-1)).closed fd) ∧
      (((s.opened fd).answer (-1)).closed fd).sockets = s.sockets := by
  have hne : ∀ other ∈ s.sockets, other ≠ fd := fun other hother heq => hfresh (heq ▸ hother)
  refine ⟨⟨rfl, fun other hother => Function.update_of_ne (hne other hother) _ _, rfl,
    [(fd, true)], ?_, by simp⟩, ?_⟩
  · simp [network.closed, network.answer, network.retry, network.opened]
  · have hkeep : s.sockets.filter (· ≠ fd) = s.sockets :=
      List.filter_eq_self.mpr fun other hother => by simpa using hne other hother
    simp only [network.closed, network.answer, network.retry, network.opened,
      List.filter_append, hkeep]
    simp

-- As many refused connections.
def refusals (now : Int) (n : Nat) : List retry :=
  List.replicate n (.answered now (-1))

-- A new socket, connected on a new connection.
structure Connected (s s' : network) (sfd : Int) : Prop where
  untouched : Untouched s s'
  retries : ∃ n, s'.retries = s.retries ++ (refusals s.now n ++ [.answered s.now 0])
  nonneg : 0 ≤ sfd
  sockets : s'.sockets = s.sockets ++ [sfd]
  fresh : sfd ∉ s.sockets
  connected : s'.connected sfd = some s.streams.length
  streams : s'.streams = s.streams ++ [[]]

-- Nothing is left of the sockets that were tried.
structure NotConnected (s s' : network) : Prop where
  untouched : Untouched s s'
  retries : ∃ n, s'.retries = s.retries ++ refusals s.now n
  sockets : s'.sockets = s.sockets
  streams : s'.streams = s.streams

theorem connected_linked {sfd : Int} (hnonneg : 0 ≤ sfd) (hfresh : sfd ∉ s.sockets) :
    Connected s (((s.opened sfd).linked sfd).answer 0) sfd := by
  refine ⟨⟨rfl, fun fd hfd => ?_, rfl, [], ?_, by simp⟩, ⟨0, rfl⟩, hnonneg, rfl, hfresh,
    Function.update_self _ _ _, rfl⟩
  rotate_left
  · simp [network.answer, network.retry, network.linked, network.opened]
  have hne : fd ≠ sfd := fun heq => hfresh (heq ▸ hfd)
  exact (Function.update_of_ne hne _ _).trans (Function.update_of_ne hne _ _)

theorem NotConnected.refl (s : network) : NotConnected s s :=
  ⟨.refl s, ⟨0, (List.append_nil _).symm⟩, rfl, rfl⟩

theorem refusals_succ (now : Int) (n : Nat) :
    refusals now (n + 1) = .answered now (-1) :: refusals now n :=
  List.replicate_succ

-- What a refused connection leaves for the addresses behind it.
theorem NotConnected.refused {fd : Int} (hfresh : fd ∉ s.sockets)
    (h : NotConnected (((s.opened fd).answer (-1)).closed fd) s') : NotConnected s s' := by
  obtain ⟨huntouched, hsockets⟩ := untouched_dropped hfresh
  obtain ⟨n, hretries⟩ := h.retries
  refine ⟨huntouched.trans h.untouched ?_, ⟨n + 1, ?_⟩, h.sockets.trans hsockets, h.streams⟩
  · rw [hsockets]
    exact fun _ hother => hother
  · rw [hretries, refusals_succ]
    exact List.append_assoc _ _ _

theorem Connected.refused {fd sfd : Int} (hfresh : fd ∉ s.sockets)
    (h : Connected (((s.opened fd).answer (-1)).closed fd) s' sfd) : Connected s s' sfd := by
  obtain ⟨huntouched, hsockets⟩ := untouched_dropped hfresh
  obtain ⟨n, hretries⟩ := h.retries
  refine ⟨huntouched.trans h.untouched ?_, ⟨n + 1, ?_⟩, h.nonneg, ?_, ?_, h.connected, h.streams⟩
  · rw [hsockets]
    exact fun _ hother => hother
  · rw [hretries, refusals_succ]
    exact List.append_assoc _ _ _
  · rw [h.sockets, hsockets]
  · rw [← hsockets]
    exact h.fresh

-- The resolution of an address, or the answer to a connection.
def Dials : retry → Prop
  | .attempt _ => True
  | .answered _ _ => True
  | _ => False

theorem dials_refusals (now : Int) (n : Nat) : ∀ event ∈ refusals now n, Dials event :=
  fun _ hevent => (List.eq_of_mem_replicate hevent).symm ▸ trivial

theorem NotConnected.dials (h : NotConnected s s') (hs : ∀ event ∈ s.retries, Dials event) :
    ∀ event ∈ s'.retries, Dials event := by
  obtain ⟨n, hretries⟩ := h.retries
  rw [hretries]
  exact List.forall_mem_append.mpr ⟨hs, dials_refusals _ n⟩

theorem Connected.dials {sfd : Int} (h : Connected s s' sfd)
    (hs : ∀ event ∈ s.retries, Dials event) : ∀ event ∈ s'.retries, Dials event := by
  obtain ⟨n, hretries⟩ := h.retries
  rw [hretries]
  exact List.forall_mem_append.mpr ⟨hs, List.forall_mem_append.mpr
    ⟨dials_refusals _ n, List.forall_mem_singleton.mpr trivial⟩⟩

-- The loop ends with the first address that takes the connection.
theorem exec_connect_to_any {addresses : List addrinfo} {sfd : Int} {connected : Int × Int}
    (h : Exec (network.step monotone) (connect_to_any addresses (sfd, -1)) s connected s') :
    (connected.2 = -1 ∧ NotConnected s s') ∨
      (connected.2 = 0 ∧ Connected s s' connected.1) := by
  induction addresses generalizing s sfd with
  | nil =>
      obtain ⟨rfl, rfl⟩ := exec_pure.mp h
      exact Or.inl ⟨rfl, .refl _⟩
  | cons rp rest ih =>
      obtain ⟨fd, s₁, hsocket, hopened⟩ := exec_perform_bind.mp h
      rcases hsocket with ⟨rfl, rfl⟩ | ⟨hnonneg, hfresh, rfl⟩
      · rw [if_pos rfl] at hopened
        exact ih hopened
      rw [if_neg (by omega)] at hopened
      obtain ⟨ret, s₂, hconnect, hanswered⟩ := exec_perform_bind.mp hopened
      rcases hconnect with ⟨rfl, rfl⟩ | ⟨rfl, rfl⟩
      · rw [if_neg (by decide)] at hanswered
        obtain ⟨_, s₃, rfl, hrest⟩ := exec_perform_bind.mp hanswered
        exact (ih hrest).imp (And.imp_right (.refused hfresh)) (And.imp_right (.refused hfresh))
      · rw [if_pos rfl] at hanswered
        obtain ⟨rfl, rfl⟩ := exec_pure.mp hanswered
        exact Or.inr ⟨rfl, connected_linked hnonneg hfresh⟩

-- An attempt is made, and connects the module or leaves it as it was.
theorem exec_resolve_and_connect {connected : Int × socket_context}
    (h : Exec (network.step monotone) (socket_resolve_and_connect ctx) s connected s') :
    (connected = (-1, ctx) ∧ NotConnected (s.retry (.attempt s.now)) s') ∨
      ∃ sfd, connected = (0, { ctx with socket_fd := sfd }) ∧
        Connected (s.retry (.attempt s.now)) s' sfd := by
  obtain ⟨result, s₁, rfl, h⟩ := exec_perform_bind.mp h
  cases result with
  | none =>
      obtain ⟨rfl, rfl⟩ := exec_pure.mp h
      exact Or.inl ⟨rfl, .refl _⟩
  | some result =>
      obtain ⟨⟨sfd, ret⟩, s₂, hany, h⟩ := exec_bind.mp h
      rcases exec_connect_to_any hany with ⟨rfl, hnot⟩ | ⟨rfl, hdone⟩
      · rw [if_pos rfl] at h
        obtain ⟨rfl, rfl⟩ := exec_pure.mp h
        exact Or.inl ⟨rfl, hnot⟩
      · rw [if_neg (show (0 : Int) ≠ -1 by decide)] at h
        obtain ⟨rfl, rfl⟩ := exec_pure.mp h
        exact Or.inr ⟨sfd, rfl, hdone⟩

end Connect

section Reconnect

-- What a failed attempt does to the delay, and what is drawn for it.
inductive BacksOff (backoff : Int) : List retry → Int → Prop
  | capped : MAX_DURATION_CONNECTION_RETRY ≤ backoff → BacksOff backoff [] backoff
  | doubled (nbrand : Option UInt8) : backoff < MAX_DURATION_CONNECTION_RETRY →
      BacksOff backoff [.jitter nbrand] (backoff * 2 + jitter nbrand)

theorem exec_back_off {after : socket_context}
    (h : Exec (network.step monotone) (back_off ctx) s after s') :
    ∃ drawn backoff, BacksOff ctx.retry_backoff_time drawn backoff ∧
      after = { ctx with retry_backoff_time := backoff } ∧
      s' = { s with retries := s.retries ++ drawn } := by
  unfold back_off at h
  by_cases hlow : ctx.retry_backoff_time < MAX_DURATION_CONNECTION_RETRY
  · rw [if_pos hlow] at h
    obtain ⟨nbrand, s₁, rfl, hpure⟩ := exec_perform_bind.mp h
    obtain ⟨rfl, rfl⟩ := exec_pure.mp hpure
    exact ⟨_, _, .doubled nbrand hlow, rfl, rfl⟩
  · rw [if_neg hlow] at h
    obtain ⟨rfl, rfl⟩ := exec_pure.mp h
    exact ⟨[], _, .capped (Int.not_lt.mp hlow), rfl, by rw [List.append_nil]⟩

def socket_context.dropped (ctx : socket_context) : socket_context :=
  { ctx with socket_fd := -1 }

def socket_context.Due (ctx : socket_context) (time : Int) : Prop :=
  ctx.retry_backoff_time ≤ time - ctx.last_retry_time

-- Everything that a call of `socket_try_reconnect` can do: it is too early for an
-- attempt, or there is one, which fails or succeeds.
inductive Reconnects (ctx : socket_context) (s : network) (time : Int) :
    Int × socket_context → network → Prop
  | waits : ¬ctx.Due time →
      Reconnects ctx s time (-1, ctx.dropped) ((s.at_time time).dropped ctx.socket_fd)
  | fails {drawn : List retry} {backoff : Int} {s₁ : network} : ctx.Due time →
      NotConnected (((s.at_time time).dropped ctx.socket_fd).retry (.attempt time)) s₁ →
      BacksOff ctx.retry_backoff_time drawn backoff →
      Reconnects ctx s time
        (-1, { ctx.dropped with last_retry_time := time, retry_backoff_time := backoff })
        { s₁ with retries := s₁.retries ++ drawn ++ [.failed time backoff] }
  | succeeds {sfd : Int} {s₁ : network} : ctx.Due time →
      Connected (((s.at_time time).dropped ctx.socket_fd).retry (.attempt time)) s₁ sfd →
      Reconnects ctx s time
        (0, { ctx with socket_fd := sfd, last_retry_time := 0, retry_backoff_time := 1 })
        (s₁.retry (.recovered time))

theorem exec_close_current {after : socket_context}
    (h : Exec (network.step monotone) (close_current ctx) s after s') :
    after = ctx.dropped ∧ s' = s.dropped ctx.socket_fd := by
  unfold close_current at h
  unfold socket_context.dropped network.dropped
  by_cases hfd : ctx.socket_fd ≠ -1
  · rw [if_pos hfd] at h ⊢
    obtain ⟨_, s₁, rfl, hpure⟩ := exec_perform_bind.mp h
    exact exec_pure.mp hpure
  · rw [if_neg hfd] at h ⊢
    obtain ⟨rfl, rfl⟩ := exec_pure.mp h
    rw [← not_ne_iff.mp hfd]
    exact ⟨rfl, rfl⟩

theorem network.dropped_now (s : network) (fd : Int) : (s.dropped fd).now = s.now := by
  unfold network.dropped
  split_ifs <;> rfl

theorem exec_try_reconnect {result : Int × socket_context}
    (h : Exec (network.step monotone) (socket_try_reconnect ctx) s result s') :
    ∃ time, (monotone → s.now ≤ time) ∧ Reconnects ctx s time result s' := by
  obtain ⟨(time : Int), s₁, ⟨hclock, rfl⟩, htimed⟩ := exec_perform_bind.mp h
  refine ⟨time, hclock, ?_⟩
  obtain ⟨_, s₂, hclose, hclosed⟩ := exec_bind.mp htimed
  obtain ⟨rfl, rfl⟩ := exec_close_current hclose
  have hnow : ((s.at_time time).dropped ctx.socket_fd).now = time := network.dropped_now _ _
  by_cases hdue : ctx.Due time
  · rw [if_pos (show time - ctx.dropped.last_retry_time ≥ ctx.dropped.retry_backoff_time from hdue)]
      at hclosed
    obtain ⟨connected, s₃, hconnect, htried⟩ := exec_bind.mp hclosed
    rcases exec_resolve_and_connect hconnect with ⟨rfl, hnot⟩ | ⟨sfd, rfl, hdone⟩
    · rw [if_pos (show (-1 : Int) ≠ 0 by decide)] at htried
      obtain ⟨_, s₄, hback, hbacked⟩ := exec_bind.mp htried
      obtain ⟨drawn, backoff, hbackoff, rfl, rfl⟩ := exec_back_off hback
      obtain ⟨_, s₅, rfl, hpure⟩ := exec_perform_bind.mp hbacked
      obtain ⟨rfl, rfl⟩ := exec_pure.mp hpure
      rw [hnow] at hnot
      have hlater : s₃.now = time := hnot.untouched.now.trans hnow
      have hfails := Reconnects.fails hdue hnot hbackoff
      rwa [← hlater] at hfails ⊢
    · rw [if_neg (show ¬(0 : Int) ≠ 0 by decide)] at htried
      obtain ⟨_, s₄, rfl, hpure⟩ := exec_perform_bind.mp htried
      obtain ⟨rfl, rfl⟩ := exec_pure.mp hpure
      rw [hnow] at hdone
      have hlater : s₃.now = time := hdone.untouched.now.trans hnow
      have hsucceeds := Reconnects.succeeds hdue hdone
      rwa [← hlater] at hsucceeds ⊢
  · rw [if_neg (show ¬time - ctx.dropped.last_retry_time ≥ ctx.dropped.retry_backoff_time
      from hdue)] at hclosed
    obtain ⟨rfl, rfl⟩ := exec_pure.mp hclosed
    exact .waits hdue

end Reconnect

section Store

variable {Double : Type} {writer : json_writer Double} {Document : List UInt8 → Prop}
  {Inv : socket_context → network → Prop} {Post : Int × socket_context → network → Prop}

-- Reports go on as long as the attempts to reconnect succeed: an invariant is kept
-- up to what ends the report, which leaves the postcondition.
structure ReportRules (monotone : Prop) (Document : List UInt8 → Prop)
    (Inv : socket_context → network → Prop) (Post : Int × socket_context → network → Prop) :
    Prop where
  stop : ∀ ctx s, Inv ctx s → Post (-1, ctx) s
  succeeds : ∀ ctx s time result s', Inv ctx s → (monotone → s.now ≤ time) →
    Reconnects ctx s time result s' → result.1 = 0 → Inv result.2 s'
  fails : ∀ ctx s time result s', Inv ctx s → (monotone → s.now ≤ time) →
    Reconnects ctx s time result s' → result.1 ≠ 0 → Post (-1, result.2) s'
  send : ∀ ctx s connection json_report accepted, Inv ctx s → Document json_report →
    ctx.socket_fd ∈ s.sockets → s.connected ctx.socket_fd = some connection → 0 < accepted →
    accepted ≤ json_report.length → Post (0, ctx) (s.sent connection json_report accepted)

-- Either the whole of `send_report` ends with a send that is accepted, or the next
-- attempt to reconnect decides.
theorem exec_send_report (hrules : ReportRules monotone Document Inv Post)
    {json_report : List UInt8} (hdocument : Document json_report) {retry_once : Nat}
    {result : Int × socket_context}
    (h : Exec (network.step monotone) (send_report json_report retry_once ctx) s result s')
    (hinv : Inv ctx s) : Post result s' := by
  induction retry_once generalizing ctx s with
  | zero =>
      obtain ⟨nbsend, s₁, hsent, hrest⟩ := exec_perform_bind.mp h
      rcases hsent with ⟨rfl, rfl⟩ | ⟨connection, accepted, hopen, hlink, hsome, hmost, rfl, rfl⟩
      · obtain ⟨rfl, rfl⟩ := exec_pure.mp hrest
        exact hrules.stop _ _ hinv
      · rw [if_neg (by omega)] at hrest
        obtain ⟨rfl, rfl⟩ := exec_pure.mp hrest
        exact hrules.send _ _ _ _ _ hinv hdocument hopen hlink hsome hmost
  | succ retry_once ih =>
      obtain ⟨nbsend, s₁, hsent, hrest⟩ := exec_perform_bind.mp h
      rcases hsent with ⟨rfl, rfl⟩ | ⟨connection, accepted, hopen, hlink, hsome, hmost, rfl, rfl⟩
      · obtain ⟨reconnected, s₂, htry, hagain⟩ := exec_bind.mp hrest
        obtain ⟨time, hclock, hcases⟩ := exec_try_reconnect htry
        by_cases hzero : reconnected.1 = 0
        · rw [if_pos hzero] at hagain
          exact ih hagain (hrules.succeeds _ _ _ _ _ hinv hclock hcases hzero)
        · rw [if_neg hzero] at hagain
          have hfailed := hrules.fails _ _ _ _ _ hinv hclock hcases hzero
          obtain ⟨rfl, rfl⟩ := exec_pure.mp hagain
          exact hfailed
      · rw [if_neg (by omega)] at hrest
        obtain ⟨rfl, rfl⟩ := exec_pure.mp hrest
        exact hrules.send _ _ _ _ _ hinv hdocument hopen hlink hsome hmost

-- What is known when the document is built, or when there was no connection.
theorem exec_ensure_connected (hrules : ReportRules monotone Document Inv Post)
    {result : Int × socket_context}
    (h : Exec (network.step monotone) (ensure_connected ctx) s result s') (hinv : Inv ctx s) :
    (result.1 = 0 → Inv result.2 s') ∧ (result.1 ≠ 0 → Post (-1, result.2) s') := by
  unfold ensure_connected at h
  by_cases hfd : ctx.socket_fd = -1
  · rw [if_pos hfd] at h
    obtain ⟨time, hclock, hcases⟩ := exec_try_reconnect h
    exact ⟨hrules.succeeds _ _ _ _ _ hinv hclock hcases, hrules.fails _ _ _ _ _ hinv hclock hcases⟩
  · rw [if_neg hfd] at h
    obtain ⟨rfl, rfl⟩ := exec_pure.mp h
    exact ⟨fun _ => hinv, fun hne => absurd rfl hne⟩

theorem exec_store_report (hrules : ReportRules monotone Document Inv Post) {payload : payload}
    (hdocument : ∀ ctx s json_report, Inv ctx s →
      writer.bson_as_json (report writer ctx payload) = some json_report → Document json_report)
    {result : Int × socket_context}
    (h : Exec (network.step monotone) (socket_store_report writer ctx payload) s result s')
    (hinv : Inv ctx s) : Post result s' := by
  obtain ⟨connected, s₁, hensure, hrest⟩ := exec_bind.mp h
  obtain ⟨hok, herr⟩ := exec_ensure_connected hrules hensure hinv
  by_cases hfailed : connected.1 ≠ 0
  · rw [if_pos hfailed] at hrest
    have hpost := herr hfailed
    obtain ⟨rfl, rfl⟩ := exec_pure.mp hrest
    exact hpost
  · rw [if_neg hfailed] at hrest
    have hinv' := hok (not_ne_iff.mp hfailed)
    cases hjson : writer.bson_as_json (report writer connected.2 payload) with
    | none =>
        rw [hjson] at hrest
        obtain ⟨rfl, rfl⟩ := exec_pure.mp hrest
        exact hrules.stop _ _ hinv'
    | some json_report =>
        rw [hjson] at hrest
        exact exec_send_report hrules (hdocument _ _ _ hinv' hjson) hrest hinv'

-- What every attempt to reconnect and every sending preserve, whole reports do.
theorem exec_store_report_preserves (Inv : socket_context → network → Prop) {payload : payload}
    {result : Int × socket_context}
    (h : Exec (network.step monotone) (socket_store_report writer ctx payload) s result s')
    (hinv : Inv ctx s)
    (hreconnect : ∀ ctx s time result s', Inv ctx s → (monotone → s.now ≤ time) →
      Reconnects ctx s time result s' → Inv result.2 s')
    (hsend : ∀ ctx s connection offered accepted, Inv ctx s →
      Inv ctx (s.sent connection offered accepted)) : Inv result.2 s' := by
  have hrules : ReportRules monotone (fun _ => True) Inv fun result s => Inv result.2 s := by
    refine ⟨fun _ _ h => h, ?_, ?_, fun _ _ _ _ _ h _ _ _ _ _ => hsend _ _ _ _ _ h⟩
    · exact fun ctx s time result s' h hclock hcases _ =>
        hreconnect ctx s time result s' h hclock hcases
    · exact fun ctx s time result s' h hclock hcases _ =>
        hreconnect ctx s time result s' h hclock hcases
  exact exec_store_report hrules (fun _ _ _ _ _ => trivial) h hinv

end Store

section Runs

-- A call of `socket_store_report`, with the states around it.
structure store_call where
  payload : payload
  before : socket_context × network
  result : Int
  after : socket_context × network

variable {Double : Type} (writer : json_writer Double) (monotone : Prop)

def StoreStep (s : socket_context × network) (call : store_call)
    (s' : socket_context × network) : Prop :=
  call.before = s ∧ call.after = s' ∧
    Exec (network.step monotone) (socket_store_report writer s.1 call.payload) s.2
      (call.result, s'.1) s'.2

-- Where a run begins: with a new context, or behind `socket_initialize`, whether
-- or not that could connect.
inductive Begins (sensor_name address : String) (port now : Int) : socket_context × network → Prop
  | created :
      Begins sensor_name address port now
        (socket_context_create sensor_name address port, network.start now)
  | initialized {err : Int} {module : storage_module} {s : network} :
      Exec (network.step monotone)
        ( socket_initialize ⟨socket_context_create sensor_name address port, false⟩)
        (network.start now) (err, module) s →
      Begins sensor_name address port now (module.context, s)

variable {monotone} {sensor_name address : String} {port now : Int}
  {start : socket_context × network}

-- The delay is that of a new context, and what is open is what is connected.
theorem Begins.cases (h : Begins monotone sensor_name address port now start) :
    (∀ event ∈ start.2.retries, Dials event) ∧ start.2.now = now ∧
      start.2.sends = [] ∧ (∀ entry ∈ start.2.closes, entry.2 = true) ∧
      ((start.1 = socket_context_create sensor_name address port ∧ start.2.sockets = [] ∧
          start.2.streams = []) ∨
        ∃ sfd, start.1 = { socket_context_create sensor_name address port with socket_fd := sfd } ∧
          0 ≤ sfd ∧ start.2.sockets = [sfd] ∧ start.2.connected sfd = some 0 ∧
          start.2.streams = [[]]) := by
  cases h with
  | created =>
      exact ⟨by simp [network.start], rfl, rfl, by simp [network.start], Or.inl ⟨rfl, rfl, rfl⟩⟩
  | initialized hexec =>
      obtain ⟨connected, s₁, hconnect, hrest⟩ := exec_bind.mp hexec
      rcases exec_resolve_and_connect hconnect with ⟨rfl, hnot⟩ | ⟨sfd, rfl, hdone⟩
      · obtain ⟨hresult, rfl⟩ := exec_pure.mp hrest
        cases hresult
        obtain ⟨more, hmore, hopen⟩ := hnot.untouched.closes
        refine ⟨hnot.dials (List.forall_mem_singleton.mpr trivial), hnot.untouched.now,
          hnot.untouched.sends, ?_, Or.inl ⟨rfl, hnot.sockets, hnot.streams⟩⟩
        rw [hmore]
        exact hopen
      · obtain ⟨hresult, rfl⟩ := exec_pure.mp hrest
        cases hresult
        obtain ⟨more, hmore, hopen⟩ := hdone.untouched.closes
        refine ⟨hdone.dials (List.forall_mem_singleton.mpr trivial), hdone.untouched.now,
          hdone.untouched.sends, ?_,
          Or.inr ⟨sfd, rfl, hdone.nonneg, hdone.sockets, hdone.connected, hdone.streams⟩⟩
        rw [hmore]
        exact hopen

-- The run in which the calls are answered by a handler.
def serve_reports (handler : network → (call : socket_call) → socket_answer call × network)
    (writer : json_writer Double) :
    List payload → socket_context × network → List store_call × (socket_context × network)
  | [], s => ([], s)
  | payload :: rest, s =>
      let stored := (socket_store_report writer s.1 payload).run handler s.2
      let later := serve_reports handler writer rest (stored.1.2, stored.2)
      (⟨payload, s, stored.1.1, (stored.1.2, stored.2)⟩ :: later.1, later.2)

theorem serve_reports_run
    {handler : network → (call : socket_call) → socket_answer call × network}
    (hhandler : ∀ s call, network.step monotone s call (handler s call).1 (handler s call).2)
    (writer : json_writer Double) (payloads : List payload) (s : socket_context × network) :
    Run (StoreStep writer monotone) s (serve_reports handler writer payloads s).1
      (serve_reports handler writer payloads s).2 := by
  induction payloads generalizing s with
  | nil => exact .nil
  | cons payload rest ih =>
      exact (Run.single ⟨rfl, rfl, exec_run _ hhandler _ _⟩).append (ih _)

def plain_writer : json_writer Nat := ⟨id, fun _ => some [123, 125]⟩

def created : socket_context × network :=
  (socket_context_create "sensor" "10.0.0.1" 9080, network.start 1700000000)

end Runs

end HwpcSensor.Storage.Socket
