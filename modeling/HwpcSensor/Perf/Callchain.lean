import HwpcSensor.Library.LittleEndian
import HwpcSensor.Util

namespace HwpcSensor.Perf

open LittleEndian

structure perf_event_header where
  type : Nat
  misc : Nat
  size : Nat

def HEADER_SIZE : Nat := 8

def parse_header (bytes : List UInt8) : perf_event_header where
  type := decode (bytes.take 4)
  misc := decode ((bytes.drop 4).take 2)
  size := decode ((bytes.drop 6).take 2)

-- The ring-buffer page: `data` is the data area, so `data_size` is its length.
structure perf_event_mmap_page where
  data : List UInt8
  data_head : Nat
  data_tail : Nat

def perf_event_mmap_page.data_size (buffer : perf_event_mmap_page) : Nat :=
  buffer.data.length

-- Bytes that the program reads without having written them: what lies past a
-- memory block, and what `realloc` leaves in the grown part.
structure memory where
  beyond : Nat → UInt8
  fresh : Nat → Char

-- A `struct sample *` sees the bytes of the block it points into. Past the end
-- of the block it sees whatever the memory holds there.
def sample_byte (mem : memory) (sample : List UInt8) (i : Nat) : UInt8 :=
  (sample[i]?).getD (mem.beyond i)

def sample_u64 (mem : memory) (sample : List UInt8) (offset : Nat) : Nat :=
  decode ((List.range 8).map fun i => sample_byte mem sample (offset + i))

def sample_nr (mem : memory) (sample : List UInt8) : Nat :=
  sample_u64 mem sample 8

def sample_ip (mem : memory) (sample : List UInt8) (i : Nat) : Nat :=
  sample_u64 mem sample (16 + 8 * i)

-- `dwfl_addrmodule` followed by `dwfl_module_addrname`.
structure Dwfl where
  addrmodule : Nat → Option Nat
  addrname : Nat → Nat → Option (List Char)

def dwfl_symbol (dwfl : Dwfl) (ip : Nat) : Option (List Char) :=
  match dwfl.addrmodule ip with
  | none => none
  | some mod => dwfl.addrname mod ip

-- `snprintf(ip_buffer, 20, "0x%lx;", ip)`
def ip_text (ip : Nat) : List Char :=
  (['0', 'x'] ++ Nat.toDigits 16 ip ++ [';']).take 19

def append_frame (mem : memory) (dwfl : Option Dwfl) (callchains : strbuffer) (ip : Nat) :
    strbuffer :=
  match dwfl.bind (dwfl_symbol · ip) with
  | some symbol => strapp (some mem.fresh) (strapp (some mem.fresh) callchains symbol) [';']
  | none => strapp (some mem.fresh) callchains (ip_text ip)

def append_symbols_from_sample (mem : memory) (callchains : strbuffer) (sample : List UInt8)
    (dwfl : Option Dwfl) : strbuffer :=
  if sample_nr mem sample > 50 then callchains
  else
    let frames := (List.range (sample_nr mem sample)).map (sample_ip mem sample)
    strapp (some mem.fresh) (frames.foldl (append_frame mem dwfl) callchains) ['|']

-- The header is copied in two parts, the second one from the start of the area.
def read_header (buffer : perf_event_mmap_page) : perf_event_header :=
  let relative_loc := buffer.data_tail % buffer.data_size
  let bytes_remaining := buffer.data_size - relative_loc
  let header_bytes_remaining :=
    if bytes_remaining > HEADER_SIZE then HEADER_SIZE else bytes_remaining
  parse_header ((buffer.data.drop relative_loc).take header_bytes_remaining ++
    buffer.data.take (HEADER_SIZE - header_bytes_remaining))

-- The sample is used in place when it does not run over the end of the area,
-- and otherwise copied in two parts into a block of `header.size` bytes.
def locate_sample (buffer : perf_event_mmap_page) (header : perf_event_header) : List UInt8 :=
  let relative_loc := buffer.data_tail % buffer.data_size
  let bytes_remaining := buffer.data_size - relative_loc
  if bytes_remaining < header.size then
    (buffer.data.drop relative_loc).take bytes_remaining ++
      buffer.data.take (header.size - bytes_remaining)
  else buffer.data.drop relative_loc

-- One round of the loop of `get_callchains`.
def consume_record (mem : memory) (dwfl : Option Dwfl) (buffer : perf_event_mmap_page)
    (callchains : strbuffer) : perf_event_mmap_page × strbuffer :=
  let header := read_header buffer
  let sample := locate_sample buffer header
  ({ buffer with data_tail := (buffer.data_tail + header.size) % 2 ^ 64 },
    append_symbols_from_sample mem callchains sample dwfl)

-- `while (buffer->data_tail < head)`; `none` when the rounds do not suffice.
def consume_records (mem : memory) (dwfl : Option Dwfl) (head : Nat) :
    Nat → perf_event_mmap_page → strbuffer → Option (perf_event_mmap_page × strbuffer)
  | 0, buffer, callchains =>
      if buffer.data_tail < head then none else some (buffer, callchains)
  | rounds + 1, buffer, callchains =>
      if buffer.data_tail < head then
        let next := consume_record mem dwfl buffer callchains
        consume_records mem dwfl head rounds next.1 next.2
      else some (buffer, callchains)

-- The text is absent when the call returns NULL. As many rounds as there are
-- bytes to read suffice when no header has size zero.
def get_callchains (mem : memory) (allocated : Bool) (dwfl : Option Dwfl)
    (buffer : perf_event_mmap_page) : Option (perf_event_mmap_page × Option (List Char)) :=
  let head := buffer.data_head
  if head = buffer.data_tail then some (buffer, none)
  else
    match strnew allocated 1024 with
    | none => some (buffer, none)
    | some callchains =>
        match consume_records mem dwfl head (head - buffer.data_tail) buffer callchains with
        | none => none
        | some (buffer', callchains') => some (buffer', some (strfreewrap callchains'))

end HwpcSensor.Perf
