import HwpcSensor.Perf.Ring
import HwpcSensor.Util.Lemmas

namespace HwpcSensor.Perf

open LittleEndian

@[simp] theorem length_bytes (record : ring_record) : record.bytes.length = record.size := by
  simp only [ring_record.bytes, ring_record.size, HEADER_SIZE, List.length_append, length_encode]

theorem size_pos (record : ring_record) : 16 ≤ record.size := by
  have := record.word_le
  simp only [ring_record.size, HEADER_SIZE]
  omega

@[simp] theorem total_size_nil : total_size [] = 0 := rfl

@[simp] theorem total_size_cons (record : ring_record) (records : List ring_record) :
    total_size (record :: records) = record.size + total_size records := by
  simp [total_size]

@[simp] theorem total_size_append (first second : List ring_record) :
    total_size (first ++ second) = total_size first + total_size second := by
  simp [total_size]

section Text

-- What is no digit is in no number.
theorem notMem_toDigits {c : Char} (hc : ∀ d, d < 16 → c ≠ Nat.digitChar d) (n : Nat) :
    c ∉ Nat.toDigits 16 n := by
  induction n using Nat.strong_induction_on with
  | h n ih =>
      rw [Nat.toDigits_eq_if (by decide)]
      split_ifs with h
      · simpa using hc n h
      · simp only [List.mem_append, List.mem_singleton, not_or]
        exact ⟨ih (n / 16) (by omega), hc (n % 16) (by omega)⟩

-- Hexadecimal text is a C string as it stands.
theorem NUL_notMem_toDigits (n : Nat) : NUL ∉ Nat.toDigits 16 n := by
  apply notMem_toDigits
  decide

-- The stack buffer of `append_symbols_from_sample` never truncates an address.
theorem ip_text_eq {ip : Nat} (h : ip < 2 ^ 64) :
    ip_text ip = ['0', 'x'] ++ Nat.toDigits 16 ip ++ [';'] := by
  have hlen : (Nat.toDigits 16 ip).length ≤ 16 :=
    (Nat.length_toDigits_le_iff (by decide) (by decide)).mpr (by omega)
  apply List.take_of_length_le
  simp only [List.length_append, List.length_cons, List.length_nil]
  omega

theorem append_frame_holds (mem : memory) (dwfl : Option Dwfl) {callchains : strbuffer}
    {text : List Char} (h : callchains.Holds text) {ip : Nat} (hip : ip < 2 ^ 64) :
    (append_frame mem dwfl callchains ip).Holds (text ++ (frame_label dwfl ip ++ [';'])) := by
  have hsemi : c_string [';'] = [';'] := by decide
  unfold append_frame frame_label
  cases dwfl.bind (dwfl_symbol · ip) with
  | some symbol =>
      have hnext := strapp_holds (strapp_holds h mem.fresh symbol) mem.fresh [';']
      simpa [hsemi] using hnext
  | none =>
      have hnext := strapp_holds h mem.fresh (ip_text ip)
      have hclean : NUL ∉ ip_text ip := by
        rw [ip_text_eq hip]
        have hx : NUL ≠ '0' ∧ NUL ≠ 'x' ∧ NUL ≠ ';' := by decide
        simp [hx, NUL_notMem_toDigits]
      rw [c_string_of_notMem hclean] at hnext
      simpa only [ip_text_eq hip] using hnext

theorem append_frames_holds (mem : memory) (dwfl : Option Dwfl) (ips : List Nat)
    (hips : ∀ ip ∈ ips, ip < 2 ^ 64) {callchains : strbuffer} {text : List Char}
    (h : callchains.Holds text) :
    (ips.foldl (append_frame mem dwfl) callchains).Holds
      (text ++ ips.flatMap fun ip => frame_label dwfl ip ++ [';']) := by
  induction ips generalizing callchains text with
  | nil => simpa using h
  | cons ip ips ih =>
      have hhead := append_frame_holds mem dwfl h (hips ip (by simp))
      have htail := ih (fun i hi => hips i (List.mem_cons_of_mem _ hi)) hhead
      simpa [List.append_assoc] using htail

theorem sample_u64_lt (mem : memory) (sample : List UInt8) (offset : Nat) :
    sample_u64 mem sample offset < 2 ^ 64 := by
  have h := decode_lt ((List.range 8).map fun i => sample_byte mem sample (offset + i))
  simp only [List.length_map, List.length_range] at h
  exact h

-- The text that a record is turned into when it is read as a sample.
def interpret (mem : memory) (dwfl : Option Dwfl) (sample : List UInt8) : List Char :=
  if sample_nr mem sample > 50 then []
  else render_frames dwfl ((List.range (sample_nr mem sample)).map (sample_ip mem sample))

theorem append_symbols_from_sample_holds (mem : memory) (dwfl : Option Dwfl)
    {callchains : strbuffer} {text : List Char} (h : callchains.Holds text)
    (sample : List UInt8) :
    (append_symbols_from_sample mem callchains sample dwfl).Holds
      (text ++ interpret mem dwfl sample) := by
  unfold append_symbols_from_sample interpret
  split_ifs with hnr
  · simpa using h
  · have hips : ∀ ip ∈ (List.range (sample_nr mem sample)).map (sample_ip mem sample),
        ip < 2 ^ 64 := by
      intro ip hip
      obtain ⟨i, _, rfl⟩ := List.mem_map.mp hip
      exact sample_u64_lt mem sample _
    have hbar : c_string ['|'] = ['|'] := by decide
    have hnext := strapp_holds (append_frames_holds mem dwfl _ hips h) mem.fresh ['|']
    simpa [hbar, render_frames, List.append_assoc] using hnext

-- A record read as a sample is silent exactly when its second word exceeds 50:
-- otherwise there is at least the closing separator.
theorem interpret_eq_nil_iff (mem : memory) (dwfl : Option Dwfl) (sample : List UInt8) :
    interpret mem dwfl sample = [] ↔ 50 < sample_nr mem sample := by
  unfold interpret
  split_ifs with h
  · exact iff_of_true rfl h
  · exact iff_of_false (by simp [render_frames]) h

end Text

section View

-- A word that lies inside the block is read from the block alone.
theorem sample_u64_eq (mem : memory) (sample : List UInt8) (offset : Nat)
    (h : offset + 8 ≤ sample.length) :
    sample_u64 mem sample offset = decode ((sample.drop offset).take 8) := by
  unfold sample_u64
  congr 1
  apply List.ext_getElem
  · simp
    omega
  · intro i hi _
    have hi' : i < 8 := by simpa using hi
    have hin : offset + i < sample.length := by omega
    simp [sample_byte, hin]

theorem drop_take_of_prefix {α : Type} {view bytes : List α} {n offset count : Nat}
    (hview : view.take n = bytes) (h : offset + count ≤ n) :
    (view.drop offset).take count = (bytes.drop offset).take count := by
  rw [← hview, List.drop_take, List.take_take, Nat.min_eq_left (by omega)]

-- `view` shows the whole record at its start.
structure Shows (view : List UInt8) (record : ring_record) : Prop where
  prefix_eq : view.take record.size = record.bytes

theorem Shows.u64_eq {view : List UInt8} {record : ring_record} (h : Shows view record)
    (mem : memory) (offset : Nat) (hin : offset + 8 ≤ record.size) :
    sample_u64 mem view offset = decode ((record.bytes.drop offset).take 8) := by
  have hlen : record.size ≤ view.length := by
    have := congrArg List.length h.prefix_eq
    rw [List.length_take, length_bytes] at this
    omega
  rw [sample_u64_eq mem view offset (by omega), drop_take_of_prefix h.prefix_eq hin]

theorem Shows.nr_eq {view : List UInt8} {record : ring_record} (h : Shows view record)
    (mem : memory) : sample_nr mem view = record.word := by
  have hsize := size_pos record
  rw [sample_nr, h.u64_eq mem 8 (by omega), ring_record.word]
  rw [ring_record.bytes, List.drop_left' (by simp)]

theorem word_of_words (values : List Nat) (hvalues : ∀ value ∈ values, value < 2 ^ 64)
    (i : Nat) (hi : i < values.length) :
    decode (((words values).drop (8 * i)).take 8) = values[i] := by
  induction values generalizing i with
  | nil => simp at hi
  | cons value rest ih =>
      have hw : words (value :: rest) = encode 8 value ++ words rest := rfl
      cases i with
      | zero =>
          have hlt : value < 256 ^ 8 := hvalues value (by simp)
          rw [hw, Nat.mul_zero, List.drop_zero, List.take_left' (by simp),
            decode_encode_of_lt hlt]
          rfl
      | succ i =>
          have hdrop : (words (value :: rest)).drop (8 * (i + 1)) = (words rest).drop (8 * i) := by
            rw [hw, show 8 * (i + 1) = 8 + 8 * i by omega, ← List.drop_drop,
              List.drop_left' (by simp)]
          rw [hdrop, ih (fun v hv => hvalues v (List.mem_cons_of_mem _ hv)) i
            (by simpa using hi)]
          rfl

theorem sample_word (sample : sample_record) : sample.record.word = sample.ips.length := by
  have hle := sample.size_le
  have h := word_of_words (sample.ips.length :: sample.ips)
    (by
      intro value hv
      rcases List.mem_cons.mp hv with rfl | hv
      · omega
      · exact sample.ips_lt value hv) 0 (by simp)
  simpa [ring_record.word, sample_record.record] using h

theorem Shows.ip_eq {view : List UInt8} {sample : sample_record}
    (h : Shows view sample.record) (mem : memory) (i : Nat) (hi : i < sample.ips.length) :
    sample_ip mem view i = sample.ips[i] := by
  have hle := sample.size_le
  have hsize : sample.record.size = 16 + 8 * sample.ips.length := by
    simp only [ring_record.size, sample_record.record, HEADER_SIZE, length_words,
      List.length_cons]
    omega
  rw [sample_ip, h.u64_eq mem _ (by omega)]
  have hdrop : sample.record.bytes.drop (16 + 8 * i) =
      (words (sample.ips.length :: sample.ips)).drop (8 * (i + 1)) := by
    rw [ring_record.bytes, show 16 + 8 * i = 8 + 8 * (i + 1) by omega, ← List.drop_drop,
      List.drop_left' (by simp)]
    rfl
  rw [hdrop, word_of_words (sample.ips.length :: sample.ips)
    (by
      intro value hv
      rcases List.mem_cons.mp hv with rfl | hv
      · omega
      · exact sample.ips_lt value hv) (i + 1) (by simpa using hi)]
  rfl

-- A sample that is read back in full is rendered as it should be.
theorem Shows.interpret_sample {view : List UInt8} {sample : sample_record}
    (h : Shows view sample.record) (mem : memory) (dwfl : Option Dwfl) :
    interpret mem dwfl view = sample.render dwfl := by
  have hnr : sample_nr mem view = sample.ips.length := by rw [h.nr_eq, sample_word]
  unfold interpret sample_record.render
  rw [hnr]
  split_ifs with hlong
  · rfl
  · have hips : (List.range sample.ips.length).map (sample_ip mem view) = sample.ips := by
      apply List.ext_getElem (by simp)
      intro i hi _
      simpa using h.ip_eq mem i (by simpa using hi)
    rw [hips]

end View

section Loop

-- The header is read whole, whether or not it runs over the end of the area.
theorem read_header_eq (buffer : perf_event_mmap_page) (h : HEADER_SIZE ≤ buffer.data_size) :
    read_header buffer =
      parse_header (Circular.window buffer.data buffer.data_tail HEADER_SIZE) := by
  unfold perf_event_mmap_page.data_size HEADER_SIZE at h
  unfold read_header perf_event_mmap_page.data_size HEADER_SIZE
  have hlt : buffer.data_tail % buffer.data.length < buffer.data.length :=
    Nat.mod_lt _ (by omega)
  simp only
  split_ifs with hroom
  · rw [Circular.take_drop_eq_window _ _ _ (by omega)]
    simp
  · rw [← Circular.drop_append_take_eq_window _ _ 8 (by omega) (by omega) h,
      List.take_of_length_le (by simp)]

theorem parse_header_bytes (record : ring_record) :
    (parse_header (record.bytes.take HEADER_SIZE)).size = record.size := by
  have hsize := record.size_lt
  have htake : record.bytes.take HEADER_SIZE =
      encode 4 record.type ++ encode 2 record.misc ++ encode 2 record.size :=
    List.take_left' (by simp [HEADER_SIZE])
  have hlt : record.size < 256 ^ 2 := hsize
  have hdrop : (record.bytes.take HEADER_SIZE).drop 6 = encode 2 record.size := by
    rw [htake, List.drop_left' (by simp)]
  simp only [parse_header]
  rw [hdrop, List.take_of_length_le (by simp), decode_encode_of_lt hlt]

-- A record that fits the area is there whole, in place or in the copy.
theorem take_locate_sample (buffer : perf_event_mmap_page) (header : perf_event_header)
    (hpos : 0 < buffer.data_size) (hfits : header.size ≤ buffer.data_size) :
    (locate_sample buffer header).take header.size =
      Circular.window buffer.data buffer.data_tail header.size := by
  unfold perf_event_mmap_page.data_size at hpos hfits
  unfold locate_sample perf_event_mmap_page.data_size
  have hlt : buffer.data_tail % buffer.data.length < buffer.data.length := Nat.mod_lt _ hpos
  simp only
  split_ifs with hwrap
  · rw [List.take_of_length_le (l := buffer.data.drop _) (by simp),
      Circular.drop_append_take_eq_window _ _ _ hpos (by omega) hfits,
      List.take_of_length_le (by simp)]
  · rw [Circular.take_drop_eq_window _ _ _ (by omega)]

theorem locate_sample_shows (buffer : perf_event_mmap_page) (record : ring_record)
    (header : perf_event_header) (hheader : header.size = record.size)
    (hfits : record.size ≤ buffer.data_size)
    (hwindow : Circular.window buffer.data buffer.data_tail record.size = record.bytes) :
    Shows (locate_sample buffer header) record := by
  have hpos := size_pos record
  have htake := take_locate_sample buffer header (by omega) (by omega)
  rw [hheader, hwindow] at htake
  exact ⟨htake⟩

-- One round of the loop takes exactly the oldest pending record.
theorem consume_record_spec (mem : memory) (dwfl : Option Dwfl) {buffer : perf_event_mmap_page}
    {record : ring_record} {rest : List ring_record} (h : buffer.Pending (record :: rest))
    {callchains : strbuffer} {text : List Char} (hc : callchains.Holds text) :
    ∃ view, Shows view record ∧
      (consume_record mem dwfl buffer callchains).1 =
        { buffer with data_tail := buffer.data_tail + record.size } ∧
      (consume_record mem dwfl buffer callchains).2.Holds
        (text ++ interpret mem dwfl view) := by
  have hfits := h.fits
  have hhead := h.head_eq
  have hhead_lt := h.head_lt
  have hpos := size_pos record
  simp only [total_size_cons] at hfits hhead
  have hwindow : Circular.window buffer.data buffer.data_tail record.size = record.bytes := by
    have hw := congrArg (List.take record.size) h.window_eq
    rwa [total_size_cons, Circular.take_window _ _ _ _ (by omega), List.flatMap_cons,
      List.take_left' (by simp)] at hw
  have hheader : (read_header buffer).size = record.size := by
    rw [read_header_eq buffer (by unfold HEADER_SIZE; omega),
      ← Circular.take_window _ _ record.size HEADER_SIZE (by unfold HEADER_SIZE; omega),
      hwindow, parse_header_bytes]
  have htail : (buffer.data_tail + record.size) % 2 ^ 64 = buffer.data_tail + record.size :=
    Nat.mod_eq_of_lt (by omega)
  refine ⟨locate_sample buffer (read_header buffer),
    locate_sample_shows buffer record _ hheader (by omega) hwindow, ?_, ?_⟩
  · simp only [consume_record, hheader, htail]
  · simp only [consume_record]
    exact append_symbols_from_sample_holds mem dwfl hc _

theorem perf_event_mmap_page.Pending.consumed {buffer : perf_event_mmap_page} {record : ring_record}
    {rest : List ring_record} (h : buffer.Pending (record :: rest)) :
    ({ buffer with data_tail := buffer.data_tail + record.size } :
      perf_event_mmap_page).Pending rest := by
  have hhead := h.head_eq
  have hfits := h.fits
  simp only [total_size_cons] at hhead hfits
  have hroom : total_size rest ≤ buffer.data_size := by omega
  refine ⟨by simp only; omega, h.head_lt, hroom, ?_⟩
  have hw := congrArg (List.drop record.size) h.window_eq
  rw [total_size_cons, Circular.window_append, List.drop_left' (by simp), List.flatMap_cons,
    List.drop_left' (by simp)] at hw
  exact hw

-- Without interference the loop reads every pending record and stops at the head.
theorem consume_records_spec (mem : memory) (dwfl : Option Dwfl) (rounds : Nat)
    {buffer : perf_event_mmap_page} {records : List ring_record} (h : buffer.Pending records)
    (hrounds : records.length ≤ rounds) {callchains : strbuffer} {text : List Char}
    (hc : callchains.Holds text) :
    ∃ views callchains', List.Forall₂ Shows views records ∧
      consume_records mem dwfl buffer.data_head rounds buffer callchains =
        some ({ buffer with data_tail := buffer.data_head }, callchains') ∧
      callchains'.Holds (text ++ views.flatMap (interpret mem dwfl)) := by
  induction records generalizing buffer rounds callchains text with
  | nil =>
      have hhead := h.head_eq
      simp only [total_size_nil, Nat.add_zero] at hhead
      obtain ⟨data, head, tail⟩ := buffer
      obtain rfl : head = tail := hhead
      refine ⟨[], callchains, .nil, ?_, by simpa using hc⟩
      cases rounds <;> simp [consume_records]
  | cons record rest ih =>
      have hhead := h.head_eq
      have hpos := size_pos record
      simp only [total_size_cons] at hhead
      obtain ⟨view, hshows, hbuffer, htext⟩ := consume_record_spec mem dwfl h hc
      cases rounds with
      | zero => simp at hrounds
      | succ rounds =>
          obtain ⟨views, callchains', hviews, hloop, hholds⟩ :=
            ih rounds h.consumed (by simpa using hrounds) htext
          refine ⟨view :: views, callchains', .cons hshows hviews, ?_, ?_⟩
          · rw [consume_records, if_pos (by omega)]
            simpa only [hbuffer] using hloop
          · simpa [List.append_assoc] using hholds

theorem length_le_total_size (records : List ring_record) :
    records.length ≤ total_size records := by
  induction records with
  | nil => simp
  | cons record rest ih =>
      have := size_pos record
      simp only [List.length_cons, total_size_cons]
      omega

-- A call on a ring that holds some records returns the text they are read as.
theorem get_callchains_spec (mem : memory) (dwfl : Option Dwfl) {buffer : perf_event_mmap_page}
    {records : List ring_record} (h : buffer.Pending records) (hne : records ≠ []) :
    ∃ views, List.Forall₂ Shows views records ∧
      get_callchains mem true dwfl buffer =
        some ({ buffer with data_tail := buffer.data_head },
          some (views.flatMap (interpret mem dwfl))) := by
  have hhead := h.head_eq
  have hlen := length_le_total_size records
  have hpos := List.length_pos_iff.mpr hne
  have hnew : strnew true 1024 = some ⟨List.replicate 1024 NUL, 1024, 0⟩ := by
    simp only [strnew, if_true, if_false, OfNat.ofNat_ne_zero]
  obtain ⟨views, callchains', hviews, hloop, hholds⟩ := consume_records_spec mem dwfl
    (buffer.data_head - buffer.data_tail) h (by omega) (strnew_holds hnew)
  refine ⟨views, hviews, ?_⟩
  unfold get_callchains
  simp only [hnew, hloop, if_neg (show buffer.data_head ≠ buffer.data_tail by omega)]
  rw [strfreewrap_eq hholds, List.nil_append]

-- The producer writes into free space only.
theorem perf_event_mmap_page.Pending.appended {buffer : perf_event_mmap_page}
    {records : List ring_record} (h : buffer.Pending records) (record : ring_record)
    (hfits : record.size ≤ buffer.data_size - (buffer.data_head - buffer.data_tail))
    (hbound : buffer.data_head + record.size < 2 ^ 64) :
    (buffer.append record).Pending (records ++ [record]) := by
  have hhead := h.head_eq
  have hold := h.fits
  have hpos := size_pos record
  unfold perf_event_mmap_page.data_size at hfits hold
  constructor
  · simp only [perf_event_mmap_page.append, total_size_append, total_size_cons, total_size_nil]
    omega
  · exact hbound
  · simp only [perf_event_mmap_page.append, perf_event_mmap_page.data_size, Circular.length_put,
      total_size_append, total_size_cons, total_size_nil]
    omega
  · simp only [perf_event_mmap_page.append, total_size_append, total_size_cons, total_size_nil,
      Nat.add_zero, List.flatMap_append, List.flatMap_singleton]
    rw [Circular.window_append, ← hhead, Circular.window_put_before _ _ _ _ _ (by omega)
      (by rw [length_bytes]; omega), h.window_eq]
    congr 1
    have hself := Circular.window_put_self buffer.data record.bytes buffer.data_head
      (by rw [length_bytes]; omega)
    rwa [length_bytes] at hself

end Loop

end HwpcSensor.Perf
