import HwpcSensor.Library.Circular
import HwpcSensor.Perf.Callchain

namespace HwpcSensor.Perf

open LittleEndian

-- A record as the kernel writes it into the ring: the header, then a body that
-- starts with a 64-bit word whatever the type.
structure ring_record where
  type : Nat
  misc : Nat
  body : List UInt8
  type_lt : type < 2 ^ 32
  misc_lt : misc < 2 ^ 16
  word_le : 8 ≤ body.length
  size_lt : HEADER_SIZE + body.length < 2 ^ 16

namespace ring_record

def size (record : ring_record) : Nat :=
  HEADER_SIZE + record.body.length

def bytes (record : ring_record) : List UInt8 :=
  encode 4 record.type ++ encode 2 record.misc ++ encode 2 record.size ++ record.body

-- The word at offset 8, where a sample has its number of frames.
def word (record : ring_record) : Nat :=
  decode (record.body.take 8)

end ring_record

def PERF_RECORD_MMAP : Nat := 1
def PERF_RECORD_LOST : Nat := 2
def PERF_RECORD_THROTTLE : Nat := 5
def PERF_RECORD_UNTHROTTLE : Nat := 6
def PERF_RECORD_SAMPLE : Nat := 9
def PERF_RECORD_CGROUP : Nat := 19

-- A well-formed sample with `PERF_SAMPLE_CALLCHAIN`.
structure sample_record where
  misc : Nat
  ips : List Nat
  misc_lt : misc < 2 ^ 16
  ips_lt : ∀ ip ∈ ips, ip < 2 ^ 64
  size_le : 16 + 8 * ips.length ≤ 65535

def words (values : List Nat) : List UInt8 :=
  values.flatMap (encode 8)

@[simp] theorem length_words (values : List Nat) : (words values).length = 8 * values.length := by
  induction values with
  | nil => rfl
  | cons value rest ih =>
      simp only [words, List.flatMap_cons, List.length_append, length_encode,
        List.length_cons] at ih ⊢
      omega

def sample_record.record (sample : sample_record) : ring_record where
  type := PERF_RECORD_SAMPLE
  misc := sample.misc
  body := words (sample.ips.length :: sample.ips)
  type_lt := by decide
  misc_lt := sample.misc_lt
  word_le := by simp
  size_lt := by
    have := sample.size_le
    simp only [HEADER_SIZE, length_words, List.length_cons]
    omega

-- What a frame and a sample are meant to look like in the text.
def frame_label (dwfl : Option Dwfl) (ip : Nat) : List Char :=
  match dwfl.bind (dwfl_symbol · ip) with
  | some symbol => c_string symbol
  | none => ['0', 'x'] ++ Nat.toDigits 16 ip

def render_frames (dwfl : Option Dwfl) (ips : List Nat) : List Char :=
  (ips.flatMap fun ip => frame_label dwfl ip ++ [';']) ++ ['|']

def sample_record.render (dwfl : Option Dwfl) (sample : sample_record) : List Char :=
  if sample.ips.length > 50 then [] else render_frames dwfl sample.ips

def total_size (records : List ring_record) : Nat :=
  (records.map ring_record.size).sum

-- The kernel's side of the ring: write at the head, then publish the new head.
def perf_event_mmap_page.append (buffer : perf_event_mmap_page) (record : ring_record) :
    perf_event_mmap_page :=
  { buffer with
    data := Circular.put buffer.data buffer.data_head record.bytes
    data_head := buffer.data_head + record.size }

-- The ring invariant: the bytes from the tail to the head are those of the
-- pending records, and they fit in the data area.
structure perf_event_mmap_page.Pending (buffer : perf_event_mmap_page)
    (records : List ring_record) : Prop where
  head_eq : buffer.data_head = buffer.data_tail + total_size records
  head_lt : buffer.data_head < 2 ^ 64
  fits : total_size records ≤ buffer.data_size
  window_eq : Circular.window buffer.data buffer.data_tail (total_size records) =
    records.flatMap ring_record.bytes

end HwpcSensor.Perf
