import HwpcSensor.Perf.Ring.Lemmas

namespace HwpcSensor.Perf

open LittleEndian

-- `get_callchains` with any number of rounds for its loop.
def get_callchains_within (rounds : Nat) (mem : memory) (dwfl : Option Dwfl)
    (buffer : perf_event_mmap_page) : Option (perf_event_mmap_page × Option (List Char)) :=
  let head := buffer.data_head
  if head = buffer.data_tail then some (buffer, none)
  else
    match strnew true 1024 with
    | none => some (buffer, none)
    | some callchains =>
        match consume_records mem dwfl head rounds buffer callchains with
        | none => none
        | some (buffer', callchains') => some (buffer', some (strfreewrap callchains'))

theorem get_callchains_eq_within (mem : memory) (dwfl : Option Dwfl)
    (buffer : perf_event_mmap_page) :
    get_callchains mem true dwfl buffer =
      get_callchains_within (buffer.data_head - buffer.data_tail) mem dwfl buffer :=
  rfl

-- The ring when the tail has come to a position.
def perf_event_mmap_page.at_tail (buffer : perf_event_mmap_page) (tail : Nat) :
    perf_event_mmap_page :=
  { buffer with data_tail := tail }

def perf_event_mmap_page.next_tail (buffer : perf_event_mmap_page) (tail : Nat) : Nat :=
  (tail + (read_header (buffer.at_tail tail)).size) % 2 ^ 64

-- The positions of the records that the loop visits, from a first one on.
inductive Visits (buffer : perf_event_mmap_page) (start : Nat) : Nat → Prop
  | first (h : start < buffer.data_head) : Visits buffer start start
  | next {tail : Nat} (h : Visits buffer start tail)
      (hlt : buffer.next_tail tail < buffer.data_head) :
      Visits buffer start (buffer.next_tail tail)

-- The bytes of the record that are interpreted: the header, the number of frames
-- and, unless that exceeds 50, the frames.
def interpreted (mem : memory) (sample : List UInt8) : Nat :=
  if sample_nr mem sample > 50 then 16 else 16 + 8 * sample_nr mem sample

-- They lie within the record, and within the data area or the copy.
def InBounds (mem : memory) (buffer : perf_event_mmap_page) (tail : Nat) : Prop :=
  let header := read_header (buffer.at_tail tail)
  let sample := locate_sample (buffer.at_tail tail) header
  ∀ offset < interpreted mem sample, offset < header.size ∧ offset < sample.length

structure Survives (mem : memory) (dwfl : Option Dwfl) (buffer : perf_event_mmap_page) :
    Prop where
  terminates : ∃ rounds buffer' text,
    get_callchains_within rounds mem dwfl buffer = some (buffer', text) ∧
      buffer'.data_tail = buffer.data_head
  in_bounds : ∀ tail, Visits buffer buffer.data_tail tail → InBounds mem buffer tail

-- What stands in the ring at a position: the size field and the word at offset 8
-- of a record that starts there.
def ring_size (buffer : perf_event_mmap_page) (tail : Nat) : Nat :=
  decode (Circular.window buffer.data (tail + 6) 2)

def ring_word (buffer : perf_event_mmap_page) (tail : Nat) : Nat :=
  decode (Circular.window buffer.data (tail + 8) 8)

-- From the position to the head there are whole records: each has room for the
-- two words at its start and for the frames that it announces, and the last one
-- ends at the head. Positions are counted modulo 2 ^ 64.
inductive WholeRecords (buffer : perf_event_mmap_page) : Nat → Prop
  | done : WholeRecords buffer buffer.data_head
  | record {tail : Nat} (hlt : tail < buffer.data_head) (hsize : 16 ≤ ring_size buffer tail)
      (hframes : ring_word buffer tail ≤ 50 →
        16 + 8 * ring_word buffer tail ≤ ring_size buffer tail)
      (hrest : WholeRecords buffer ((tail + ring_size buffer tail) % 2 ^ 64)) :
      WholeRecords buffer tail

section Fields

variable {buffer : perf_event_mmap_page}

theorem ring_size_lt (tail : Nat) : ring_size buffer tail < 2 ^ 16 := by
  have h := decode_lt (Circular.window buffer.data (tail + 6) 2)
  rw [Circular.length_window] at h
  exact h

theorem size_at_tail (h : 2 ^ 16 ≤ buffer.data_size) (tail : Nat) :
    (read_header (buffer.at_tail tail)).size = ring_size buffer tail := by
  have hheader : HEADER_SIZE ≤ (buffer.at_tail tail).data_size := by
    unfold HEADER_SIZE
    exact Nat.le_trans (by decide) h
  rw [read_header_eq _ hheader, ring_size]
  simp only [parse_header]
  rw [HEADER_SIZE, Circular.take_drop_window _ _ _ _ _ (by omega)]
  rfl

theorem next_tail_eq (h : 2 ^ 16 ≤ buffer.data_size) (tail : Nat) :
    buffer.next_tail tail = (tail + ring_size buffer tail) % 2 ^ 64 := by
  rw [perf_event_mmap_page.next_tail, size_at_tail h]

-- The block that is read as a sample starts with the record.
theorem take_sample_at_tail (h : 2 ^ 16 ≤ buffer.data_size) (tail : Nat) :
    (locate_sample (buffer.at_tail tail) (read_header (buffer.at_tail tail))).take
        (ring_size buffer tail) =
      Circular.window buffer.data tail (ring_size buffer tail) := by
  have hlt : ring_size buffer tail < 2 ^ 16 := ring_size_lt tail
  have hsize := size_at_tail h tail
  have hfits : (read_header (buffer.at_tail tail)).size ≤ (buffer.at_tail tail).data_size := by
    rw [hsize]
    exact Nat.le_trans hlt.le h
  have hpos : 0 < (buffer.at_tail tail).data_size := Nat.lt_of_lt_of_le (by decide) h
  have htake := take_locate_sample _ _ hpos hfits
  rwa [hsize] at htake

theorem ring_size_le_length (h : 2 ^ 16 ≤ buffer.data_size) (tail : Nat) :
    ring_size buffer tail ≤
      (locate_sample (buffer.at_tail tail) (read_header (buffer.at_tail tail))).length := by
  have hlength := congrArg List.length (take_sample_at_tail h tail)
  rw [List.length_take, Circular.length_window] at hlength
  omega

-- A record with room for it has its number of frames at offset 8.
theorem nr_at_tail (h : 2 ^ 16 ≤ buffer.data_size) (mem : memory) {tail : Nat}
    (hroom : 16 ≤ ring_size buffer tail) :
    sample_nr mem
        (locate_sample (buffer.at_tail tail) (read_header (buffer.at_tail tail))) =
      ring_word buffer tail := by
  have hle := ring_size_le_length h tail
  rw [sample_nr, sample_u64_eq mem _ 8 (by omega),
    drop_take_of_prefix (take_sample_at_tail h tail) (by omega),
    Circular.take_drop_window _ _ _ _ _ (by omega), ring_word]

theorem in_bounds_iff (h : 2 ^ 16 ≤ buffer.data_size) (mem : memory) (tail : Nat) :
    InBounds mem buffer tail ↔ 16 ≤ ring_size buffer tail ∧
      (ring_word buffer tail ≤ 50 → 16 + 8 * ring_word buffer tail ≤ ring_size buffer tail) := by
  have hle := ring_size_le_length h tail
  have hsize := size_at_tail h tail
  unfold InBounds
  simp only [hsize]
  constructor
  · intro hall
    have hlow : 16 ≤ interpreted mem
        (locate_sample (buffer.at_tail tail) (read_header (buffer.at_tail tail))) := by
      unfold interpreted
      split_ifs <;> omega
    have hroom : 16 ≤ ring_size buffer tail := (hall 15 (by omega)).1
    refine ⟨hroom, fun hword => ?_⟩
    have hlast := hall (16 + 8 * ring_word buffer tail - 1)
    rw [interpreted, nr_at_tail h mem hroom, if_neg (by omega)] at hlast
    have := (hlast (by omega)).1
    omega
  · rintro ⟨hroom, hframes⟩ offset hoffset
    rw [interpreted, nr_at_tail h mem hroom] at hoffset
    split_ifs at hoffset with hword
    · omega
    · have := hframes (by omega)
      omega

end Fields

section Loop

variable {buffer : perf_event_mmap_page} {mem : memory} {dwfl : Option Dwfl}

-- A round changes the tail alone.
theorem consume_record_at_tail (tail : Nat) (callchains : strbuffer) :
    (consume_record mem dwfl (buffer.at_tail tail) callchains).1 =
      buffer.at_tail (buffer.next_tail tail) :=
  rfl

theorem visits_of_next {start tail : Nat} (hlt : start < buffer.data_head)
    (h : Visits buffer (buffer.next_tail start) tail) : Visits buffer start tail := by
  induction h with
  | first hnext => exact .next (.first hlt) hnext
  | next _ hnext ih => exact .next ih hnext

-- A loop that ends at the head, with every record in bounds, has gone over whole
-- records.
theorem whole_of_survives (h : 2 ^ 16 ≤ buffer.data_size) (rounds : Nat) {start : Nat}
    {callchains callchains' : strbuffer} {buffer' : perf_event_mmap_page}
    (hloop : consume_records mem dwfl buffer.data_head rounds (buffer.at_tail start) callchains =
      some (buffer', callchains'))
    (hend : buffer'.data_tail = buffer.data_head)
    (hbounds : ∀ tail, Visits buffer start tail → InBounds mem buffer tail) :
    WholeRecords buffer start := by
  induction rounds generalizing start callchains with
  | zero =>
      rw [consume_records] at hloop
      split_ifs at hloop with hlt
      obtain ⟨rfl, -⟩ := Prod.mk.inj (Option.some.inj hloop)
      obtain rfl : start = buffer.data_head := hend
      exact .done
  | succ rounds ih =>
      rw [consume_records] at hloop
      split_ifs at hloop with hlt
      · simp only [consume_record_at_tail] at hloop
        have hrest := ih hloop fun tail hvisits => hbounds tail (visits_of_next hlt hvisits)
        obtain ⟨hsize, hframes⟩ := (in_bounds_iff h mem start).mp (hbounds start (.first hlt))
        rw [next_tail_eq h] at hrest
        exact .record hlt hsize hframes hrest
      · obtain ⟨rfl, -⟩ := Prod.mk.inj (Option.some.inj hloop)
        obtain rfl : start = buffer.data_head := hend
        exact .done

-- Over whole records the loop comes to the head.
theorem WholeRecords.terminates (h : 2 ^ 16 ≤ buffer.data_size) {start : Nat}
    (hwhole : WholeRecords buffer start) (mem : memory) (dwfl : Option Dwfl)
    (callchains : strbuffer) :
    ∃ rounds callchains',
      consume_records mem dwfl buffer.data_head rounds (buffer.at_tail start) callchains =
        some (buffer.at_tail buffer.data_head, callchains') := by
  induction hwhole generalizing callchains with
  | done =>
      refine ⟨0, callchains, ?_⟩
      rw [consume_records]
      exact if_neg (Nat.lt_irrefl _)
  | @record tail hlt _ _ _ ih =>
      obtain ⟨rounds, callchains', hloop⟩ :=
        ih (consume_record mem dwfl (buffer.at_tail tail) callchains).2
      rw [← next_tail_eq h] at hloop
      refine ⟨rounds + 1, callchains', ?_⟩
      rw [consume_records]
      exact (if_pos hlt).trans hloop

-- A record without a size keeps the loop where it is.
theorem consume_records_stuck {start : Nat} (hlt : start < buffer.data_head)
    (hstuck : buffer.next_tail start = start) (rounds : Nat) (callchains : strbuffer) :
    consume_records mem dwfl buffer.data_head rounds (buffer.at_tail start) callchains = none := by
  induction rounds generalizing callchains with
  | zero =>
      rw [consume_records]
      exact if_pos hlt
  | succ rounds ih =>
      rw [consume_records]
      refine (if_pos hlt).trans ?_
      simp only [consume_record_at_tail, hstuck, ih]

-- Every visited position is that of a record with whole records after it.
theorem WholeRecords.visited (h : 2 ^ 16 ≤ buffer.data_size) {start tail : Nat}
    (hwhole : WholeRecords buffer start) (hvisits : Visits buffer start tail) :
    WholeRecords buffer tail ∧ tail < buffer.data_head := by
  induction hvisits with
  | first hlt => exact ⟨hwhole, hlt⟩
  | next _ hlt ih =>
      obtain ⟨hprev, hbefore⟩ := ih
      cases hprev with
      | done => exact absurd hbefore (Nat.lt_irrefl _)
      | record _ _ _ hrest =>
          rw [← next_tail_eq h] at hrest
          exact ⟨hrest, hlt⟩

end Loop

-- The reader survives exactly the rings that hold whole records up to the head.
theorem ring_survived_iff (mem : memory) (dwfl : Option Dwfl) {buffer : perf_event_mmap_page}
    {page_size : Nat} (hpage : 4096 ≤ page_size) (hsize : buffer.data_size = 16 * page_size) :
    Survives mem dwfl buffer ↔ WholeRecords buffer buffer.data_tail := by
  have hdata : 2 ^ 16 ≤ buffer.data_size := by omega
  obtain ⟨callchains, hnew⟩ : ∃ callchains, strnew true 1024 = some callchains := by
    simp only [strnew, if_true, if_false, OfNat.ofNat_ne_zero, Option.some.injEq, exists_eq']
  constructor
  · rintro ⟨⟨rounds, buffer', text, hcall, hend⟩, hbounds⟩
    unfold get_callchains_within at hcall
    simp only [hnew] at hcall
    split_ifs at hcall with heq
    · rw [← heq]
      exact .done
    · cases hloop : consume_records mem dwfl buffer.data_head rounds buffer callchains with
      | none => simp [hloop] at hcall
      | some last =>
          simp only [hloop, Option.some.injEq, Prod.mk.injEq] at hcall
          obtain ⟨rfl, -⟩ := hcall
          exact whole_of_survives hdata rounds hloop hend hbounds
  · intro hwhole
    constructor
    · obtain ⟨rounds, callchains', hloop⟩ := hwhole.terminates hdata mem dwfl callchains
      have hbuffer : buffer.at_tail buffer.data_tail = buffer := rfl
      rw [hbuffer] at hloop
      unfold get_callchains_within
      simp only [hnew]
      by_cases heq : buffer.data_head = buffer.data_tail
      · exact ⟨rounds, buffer, none, if_pos heq, heq.symm⟩
      · refine ⟨rounds, buffer.at_tail buffer.data_head, some (strfreewrap callchains'), ?_, rfl⟩
        rw [if_neg heq, hloop]
    · intro tail hvisits
      obtain ⟨htail, hlt⟩ := hwhole.visited hdata hvisits
      apply (in_bounds_iff hdata mem tail).mpr
      cases htail with
      | done => exact absurd hlt (Nat.lt_irrefl _)
      | record _ hroom hframes _ => exact ⟨hroom, hframes⟩

-- A head that has been published over sixteen bytes of zeros.
def zero_ring : perf_event_mmap_page where
  data := List.replicate (16 * 4096) 0
  data_head := 16
  data_tail := 0

theorem zero_ring_data_size : zero_ring.data_size = 16 * 4096 :=
  List.length_replicate

theorem ring_survived_iff_zero :
    Survives ⟨fun _ => 0, fun _ => NUL⟩ none zero_ring ↔ WholeRecords zero_ring 0 :=
  ring_survived_iff _ none (Nat.le_refl 4096) zero_ring_data_size

theorem zero_ring_next_tail : zero_ring.next_tail 0 = 0 := by
  have hcell : ∀ position, Circular.cell zero_ring.data position = 0 := by
    intro position
    rw [Circular.cell, zero_ring, List.getD_eq_getElem?_getD, List.getElem?_replicate]
    split_ifs <;> rfl
  have hsize : ring_size zero_ring 0 = 0 := by
    simp [ring_size, Circular.window, hcell, decode, List.range_succ]
  rw [next_tail_eq (Nat.le_of_eq zero_ring_data_size.symm), hsize,
    Nat.zero_add, Nat.zero_mod]

theorem zero_ring_stuck (rounds : Nat) :
    get_callchains_within rounds ⟨fun _ => 0, fun _ => NUL⟩ none zero_ring = none := by
  obtain ⟨callchains, hnew⟩ : ∃ callchains, strnew true 1024 = some callchains := by
    simp only [strnew, if_true, if_false, OfNat.ofNat_ne_zero, Option.some.injEq, exists_eq']
  have hloop : consume_records ⟨fun _ => 0, fun _ => NUL⟩ none zero_ring.data_head rounds zero_ring
      callchains = none :=
    consume_records_stuck (by decide) zero_ring_next_tail rounds callchains
  have hne : zero_ring.data_head ≠ zero_ring.data_tail := by decide
  rw [get_callchains_within, if_neg hne, hnew]
  simp only [hloop]

-- The call never comes back from a record whose size field is zero.
theorem zero_ring_not_survived :
    zero_ring.data_size = 16 * 4096 ∧ zero_ring.data_tail ≤ zero_ring.data_head ∧
      ¬ Survives ⟨fun _ => 0, fun _ => NUL⟩ none zero_ring := by
  refine ⟨zero_ring_data_size, Nat.zero_le _, ?_⟩
  rintro ⟨⟨rounds, _, _, hcall, _⟩, _⟩
  rw [zero_ring_stuck rounds] at hcall
  cases hcall

end HwpcSensor.Perf
