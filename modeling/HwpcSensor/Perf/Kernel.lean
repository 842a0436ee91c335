import HwpcSensor.Perf.Actor
import HwpcSensor.Perf.Ring.Records

namespace HwpcSensor.Perf

open Interaction

-- The arguments a counter was opened with.
structure perf_request where
  attr : perf_event_attr
  pid : Int
  cpu : Int
  group_fd : Int
  flags : Nat
  deriving DecidableEq

-- The open counters, in opening order, and what each was opened for.
structure wiring where
  opened : List Int
  request : Int → perf_request
  nodup : opened.Nodup
  nonneg : ∀ fd ∈ opened, 0 ≤ fd

namespace wiring

def add (w : wiring) (fd : Int) (request : perf_request) (hfresh : fd ∉ w.opened)
    (hfd : 0 ≤ fd) : wiring where
  opened := w.opened ++ [fd]
  request := Function.update w.request fd request
  nodup := List.nodup_append.mpr ⟨w.nodup, List.nodup_singleton fd, fun _ hmem _ hnew heq =>
    hfresh ((List.mem_singleton.mp hnew) ▸ heq ▸ hmem)⟩
  nonneg := List.forall_mem_append.mpr ⟨w.nonneg, List.forall_mem_singleton.mpr hfd⟩

def remove (w : wiring) (fd : Int) : wiring where
  opened := w.opened.filter (· ≠ fd)
  request := w.request
  nodup := w.nodup.filter _
  nonneg := fun other hother => w.nonneg other (List.mem_of_mem_filter hother)

-- A leader and the counters opened into its group, in opening order.
def members (w : wiring) (leader : Int) : List Int :=
  w.opened.filter fun fd => fd = leader ∨ (w.request fd).group_fd = leader

end wiring

-- A mapped ring buffer and the records it holds.
structure ring where
  page : perf_event_mmap_page
  records : List leader_record
  pending : page.Pending (records.map leader_record.record)

namespace ring

def append (r : ring) (record : leader_record)
    (hfits : record.record.size ≤ r.page.data_size - (r.page.data_head - r.page.data_tail))
    (htraffic : r.page.data_head + record.record.size < 2 ^ 64) : ring where
  page := r.page.append record.record
  records := r.records ++ [record]
  pending := by
    rw [List.map_append]
    exact r.pending.appended record.record hfits htraffic

def drained (r : ring) : ring where
  page := { r.page with data_tail := r.page.data_head }
  records := []
  pending := ⟨rfl, r.pending.head_lt, Nat.zero_le _, by simp [total_size, Circular.window]⟩

-- What the kernel adds to a ring.
inductive Grows : ring → ring → Prop
  | refl {r : ring} : Grows r r
  | append {r r' : ring} (record : leader_record)
      (hfits : record.record.size ≤ r'.page.data_size - (r'.page.data_head - r'.page.data_tail))
      (htraffic : r'.page.data_head + record.record.size < 2 ^ 64) :
      Grows r r' → Grows r (r'.append record hfits htraffic)

end ring

-- What every counter held when a leader was read.
structure reading where
  leader : Int
  time_enabled : Nat
  time_running : Nat
  value : Int → Nat

-- What a call of `get_callchains` took from a ring.
structure consumption where
  buffer : Nat
  dwfl : Option Dwfl
  records : List leader_record
  text : Option (List Char)

-- The kernel as the actor sees it. The last five fields only record history: what
-- was counted by each counter, what the resets took from it, and what was read,
-- consumed and sent.
structure kernel where
  wiring : wiring
  value : Int → Nat
  enabled : Int → Bool
  times : Int → Nat × Nat
  rings : Nat → Option ring
  last_read : Option Int
  counted : Int → Nat
  taken : Int → Nat
  readings : List reading
  consumed : List consumption
  sent : List payload

namespace kernel

def forget (s : kernel) : kernel :=
  { s with last_read := none }

def members (s : kernel) (leader : Int) : List Int :=
  s.wiring.members leader

def report (s : kernel) (leader : Int) : perf_read_format where
  nr := (s.members leader).length
  time_enabled := (s.times leader).1
  time_running := (s.times leader).2
  values := (s.members leader).map s.value

def reading (s : kernel) (leader : Int) : reading where
  leader := leader
  time_enabled := (s.times leader).1
  time_running := (s.times leader).2
  value := s.value

def read (s : kernel) (leader : Int) : kernel :=
  { s with last_read := some leader, readings := s.readings ++ [s.reading leader] }

-- `PERF_EVENT_IOC_RESET` with `PERF_IOC_FLAG_GROUP` clears the counts of the
-- group, not its times.
def reset (s : kernel) (leader : Int) : kernel :=
  { s with
    value := fun fd => if fd ∈ s.members leader then 0 else s.value fd
    taken := fun fd => if fd ∈ s.members leader then s.taken fd + s.value fd else s.taken fd
    last_read := none }

def enable (s : kernel) (leader : Int) : kernel :=
  { s with
    enabled := fun fd => if fd ∈ s.members leader then true else s.enabled fd
    last_read := none }

def consume (s : kernel) (buffer : Nat) (dwfl : Option Dwfl) (r : ring)
    (text : Option (List Char)) : kernel :=
  { s with
    rings := Function.update s.rings buffer (some r.drained)
    consumed := s.consumed ++ [⟨buffer, dwfl, r.records, text⟩]
    last_read := none }

def map (s : kernel) (buffer : Nat) (r : ring) : kernel :=
  { s with rings := Function.update s.rings buffer (some r), last_read := none }

def send (s : kernel) (payload : payload) : kernel :=
  { s with sent := s.sent ++ [payload], last_read := none }

-- A counter starts at zero, and counts nothing before it is enabled.
def add (s : kernel) (fd : Int) (request : perf_request) (hfresh : fd ∉ s.wiring.opened)
    (hfd : 0 ≤ fd) : kernel :=
  { s with
    wiring := s.wiring.add fd request hfresh hfd
    value := Function.update s.value fd 0
    enabled := Function.update s.enabled fd false
    counted := Function.update s.counted fd 0
    taken := Function.update s.taken fd 0
    last_read := none }

def close (s : kernel) (fd : Int) : kernel :=
  { s with wiring := s.wiring.remove fd, last_read := none }

-- Between two calls the enabled counters count, the times go on and the rings
-- fill. With `atomic`, nothing is counted in a group that has just been read.
inductive Between (atomic : Prop) (s : kernel) : kernel → Prop
  | count (counts : Int → Nat) (times : Int → Nat × Nat) (rings : Nat → Option ring)
      (hcounts : ∀ fd, 0 < counts fd → s.enabled fd = true ∧
        (atomic → ∀ leader, s.last_read = some leader → fd ∉ s.members leader))
      (hrings : ∀ buffer, Option.Rel ring.Grows (s.rings buffer) (rings buffer)) :
      Between atomic s { s with
        value := fun fd => s.value fd + counts fd
        counted := fun fd => s.counted fd + counts fd
        times := times
        rings := rings }

-- A new counter gets a number that no open counter has.
def ServeOpen (s : kernel) (request : perf_request) (fd : Int) (s' : kernel) : Prop :=
  (fd < 0 ∧ s' = s.forget) ∨
    ∃ hfresh hfd, s' = s.add fd request hfresh hfd

-- An `ioctl` that fails changes nothing.
def ServeIoctl (s : kernel) (fd err : Int) (done s' : kernel) : Prop :=
  (err = 0 ∧ fd ∈ s.wiring.opened ∧ s' = done) ∨ (err ≠ 0 ∧ s' = s.forget)

-- How a call is answered.
def Serve (s : kernel) : (call : syscall) → syscall_answer call → kernel → Prop
  | .malloc, allocated, s' => allocated = true ∧ s' = s.forget
  | .perf_event_open attr pid cpu group_fd flags, fd, s' =>
      s.ServeOpen ⟨attr, pid, cpu, group_fd, flags⟩ fd s'
  | .mmap _, none, s' => s' = s.forget
  | .mmap _, some buffer, s' =>
      s.rings buffer = none ∧ ∃ r : ring, r.records = [] ∧ s' = s.map buffer r
  | .close fd, _, s' => s' = s.close fd
  | .ioctl_reset fd, err, s' => s.ServeIoctl fd err (s.reset fd) s'
  | .ioctl_enable fd, err, s' => s.ServeIoctl fd err (s.enable fd) s'
  | .read _ _, none, s' => s' = s.forget
  | .read fd size, some report, s' =>
      fd ∈ s.wiring.opened ∧ size = perf_read_size (s.members fd).length ∧
        report = s.report fd ∧ s' = s.read fd
  | .get_callchains buffer dwfl, text, s' =>
      match s.rings buffer with
      | none => s' = s.forget
      | some r =>
          ∃ mem, get_callchains mem true dwfl r.page = some (r.drained.page, text) ∧
            s' = s.consume buffer dwfl r text
  | .send payload, _, s' => s' = s.send payload
  | _, _, s' => s' = s.forget

def step (atomic : Prop) : Semantics syscall syscall_answer kernel :=
  fun s call answer s' => ∃ m, Between atomic s m ∧ m.Serve call answer s'

end kernel

end HwpcSensor.Perf
