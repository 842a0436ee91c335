import HwpcSensor.Library.Transition
import HwpcSensor.Perf.Ring

namespace HwpcSensor.Perf

open Transition

-- Where the consumer stands: outside `get_callchains`, or in its loop with the
-- head it sampled on entry.
inductive reader_state where
  | idle
  | reading (dwfl : Option Dwfl) (old_tail head : Nat) (callchains : strbuffer)

-- What a finished call saw and did.
structure delivery where
  dwfl : Option Dwfl
  allocated : Bool
  old_tail : Nat
  head : Nat
  new_tail : Nat
  result : Option (List Char)

-- The ring with its two sides. The last two fields only record history.
structure ring_system where
  buffer : perf_event_mmap_page
  reader : reader_state
  appended : List sample_record
  delivered : List delivery

inductive ring_action where
  | append
  | enter
  | round
  | leave

-- The producer appends whenever the record fits, also in the middle of a call.
-- The consumer enters with a head snapshot, takes one record in each round and
-- leaves when the tail has reached the snapshot.
inductive RingStep : ring_system → ring_action → ring_system → Prop
  | append {s : ring_system} (sample : sample_record)
      (hfits : sample.record.size ≤
        s.buffer.data_size - (s.buffer.data_head - s.buffer.data_tail))
      (htraffic : s.buffer.data_head + sample.record.size < 2 ^ 64) :
      RingStep s .append
        { s with
          buffer := s.buffer.append sample.record
          appended := s.appended ++ [sample] }
  | empty {s : ring_system} (dwfl : Option Dwfl) (allocated : Bool) (hidle : s.reader = .idle)
      (hempty : s.buffer.data_head = s.buffer.data_tail) :
      RingStep s .enter
        { s with
          delivered := s.delivered ++ [{
            dwfl, allocated, old_tail := s.buffer.data_tail, head := s.buffer.data_head,
            new_tail := s.buffer.data_tail, result := none }] }
  | out_of_memory {s : ring_system} (dwfl : Option Dwfl) (allocated : Bool)
      (hidle : s.reader = .idle) (hne : s.buffer.data_head ≠ s.buffer.data_tail)
      (hnew : strnew allocated 1024 = none) :
      RingStep s .enter
        { s with
          delivered := s.delivered ++ [{
            dwfl, allocated, old_tail := s.buffer.data_tail, head := s.buffer.data_head,
            new_tail := s.buffer.data_tail, result := none }] }
  | enter {s : ring_system} (dwfl : Option Dwfl) (allocated : Bool) (callchains : strbuffer)
      (hidle : s.reader = .idle) (hne : s.buffer.data_head ≠ s.buffer.data_tail)
      (hnew : strnew allocated 1024 = some callchains) :
      RingStep s .enter
        { s with
          reader := .reading dwfl s.buffer.data_tail s.buffer.data_head callchains }
  | round {s : ring_system} {dwfl : Option Dwfl} {old_tail head : Nat} {callchains : strbuffer}
      (mem : memory) (hreading : s.reader = .reading dwfl old_tail head callchains)
      (hlt : s.buffer.data_tail < head) :
      RingStep s .round
        { s with
          buffer := (consume_record mem dwfl s.buffer callchains).1
          reader := .reading dwfl old_tail head
            (consume_record mem dwfl s.buffer callchains).2 }
  | leave {s : ring_system} {dwfl : Option Dwfl} {old_tail head : Nat} {callchains : strbuffer}
      (hreading : s.reader = .reading dwfl old_tail head callchains)
      (hdone : ¬s.buffer.data_tail < head) :
      RingStep s .leave
        { s with
          reader := .idle
          delivered := s.delivered ++ [{
            dwfl, allocated := true, old_tail, head, new_tail := s.buffer.data_tail,
            result := some (strfreewrap callchains) }] }

def ring_system.start (data : List UInt8) (tail : Nat) : ring_system where
  buffer := ⟨data, tail, tail⟩
  reader := .idle
  appended := []
  delivered := []

def sample_size (samples : List sample_record) : Nat :=
  total_size (samples.map sample_record.record)

-- The calls consumed exactly these records, in this order. Each call that got
-- its buffer moved the tail from where the previous one left it to its own head
-- snapshot, over the records it rendered.
inductive Delivers (first_tail : Nat) : List delivery → List sample_record → Prop
  | nil : Delivers first_tail [] []
  | complete {calls : List delivery} {consumed : List sample_record} (call : delivery)
      (taken : List sample_record) : Delivers first_tail calls consumed →
      call.old_tail = first_tail + sample_size consumed →
      call.head = call.old_tail + sample_size taken → call.new_tail = call.head →
      call.allocated = true ∨ taken = [] →
      call.result =
        (if taken = [] then none else some (taken.flatMap (sample_record.render call.dwfl))) →
      Delivers first_tail (calls ++ [call]) (consumed ++ taken)
  | out_of_memory {calls : List delivery} {consumed : List sample_record} (call : delivery) :
      Delivers first_tail calls consumed → call.allocated = false →
      call.old_tail = first_tail + sample_size consumed → call.new_tail = call.old_tail →
      call.result = none → Delivers first_tail (calls ++ [call]) consumed

end HwpcSensor.Perf
