import HwpcSensor.Perf.Ring.Lemmas
import Mathlib.Data.List.Forall2

namespace HwpcSensor.Perf

open LittleEndian

-- The other records that a leader opened with `mmap = 1` and `cgroup = 1` finds
-- in its ring, with the fields that follow the header.
inductive other_layout where
  | mmap (pid tid addr len pgoff : Nat) (filename : List UInt8)
  | lost (id count : Nat)
  | throttle (time id stream_id : Nat)
  | unthrottle (time id stream_id : Nat)
  | cgroup (id : Nat) (path : List UInt8)

namespace other_layout

def type : other_layout → Nat
  | .mmap .. => PERF_RECORD_MMAP
  | .lost .. => PERF_RECORD_LOST
  | .throttle .. => PERF_RECORD_THROTTLE
  | .unthrottle .. => PERF_RECORD_UNTHROTTLE
  | .cgroup .. => PERF_RECORD_CGROUP

def body : other_layout → List UInt8
  | .mmap pid tid addr len pgoff filename =>
      encode 4 pid ++ encode 4 tid ++ words [addr, len, pgoff] ++ filename
  | .lost id count => words [id, count]
  | .throttle time id stream_id => words [time, id, stream_id]
  | .unthrottle time id stream_id => words [time, id, stream_id]
  | .cgroup id path => words [id] ++ path

-- The field, or the pair of fields, that stands at offset 8.
def word : other_layout → Nat
  | .mmap pid tid .. => pid % 2 ^ 32 + 2 ^ 32 * (tid % 2 ^ 32)
  | .lost id _ => id % 2 ^ 64
  | .throttle time .. => time % 2 ^ 64
  | .unthrottle time .. => time % 2 ^ 64
  | .cgroup id _ => id % 2 ^ 64

theorem type_lt (layout : other_layout) : layout.type < 2 ^ 32 := by
  cases layout <;> simp [type, PERF_RECORD_MMAP, PERF_RECORD_LOST, PERF_RECORD_THROTTLE,
    PERF_RECORD_UNTHROTTLE, PERF_RECORD_CGROUP]

theorem word_le (layout : other_layout) : 8 ≤ layout.body.length := by
  cases layout <;> simp [body]
  omega

end other_layout

structure other_record where
  misc : Nat
  layout : other_layout
  misc_lt : misc < 2 ^ 16
  size_lt : HEADER_SIZE + layout.body.length < 2 ^ 16

def other_record.record (other : other_record) : ring_record where
  type := other.layout.type
  misc := other.misc
  body := other.layout.body
  type_lt := other.layout.type_lt
  misc_lt := other.misc_lt
  word_le := other.layout.word_le
  size_lt := other.size_lt

inductive leader_record where
  | sample (sample : sample_record)
  | other (other : other_record)

def leader_record.record : leader_record → ring_record
  | .sample s => s.record
  | .other o => o.record

-- What a call should return: the samples rendered, and nothing else.
def samples_text (dwfl : Option Dwfl) (records : List leader_record) : List Char :=
  records.flatMap fun
    | .sample s => s.render dwfl
    | .other _ => []

-- No record that is not a sample has a word at offset 8 that passes for a
-- number of frames.
def NoSmallWord (records : List leader_record) : Prop :=
  ∀ other, .other other ∈ records → 50 < other.layout.word

theorem decode_append (first second : List UInt8) :
    decode (first ++ second) = decode first + 256 ^ first.length * decode second := by
  induction first with
  | nil => simp [decode]
  | cons byte rest ih =>
      simp only [List.cons_append, decode, ih, List.length_cons, pow_succ]
      ring

theorem other_word (other : other_record) : other.record.word = other.layout.word := by
  have hfirst : ∀ (value : Nat) (rest : List UInt8),
      decode ((encode 8 value ++ rest).take 8) = value % 2 ^ 64 := by
    intro value rest
    rw [List.take_left' (by simp), decode_encode, show 256 ^ 8 = 2 ^ 64 by norm_num]
  simp only [ring_record.word, other_record.record]
  cases other.layout with
  | mmap pid tid addr len pgoff filename =>
      have htake : ((other_layout.mmap pid tid addr len pgoff filename).body).take 8 =
          encode 4 pid ++ encode 4 tid := by
        rw [other_layout.body, List.append_assoc (_ ++ _), List.take_left' (by simp)]
      rw [htake, decode_append, decode_encode, decode_encode, length_encode,
        show 256 ^ 4 = 2 ^ 32 by norm_num]
      rfl
  | lost id count => exact hfirst id _
  | throttle time id stream_id => exact hfirst time _
  | unthrottle time id stream_id => exact hfirst time _
  | cgroup id path =>
      simp only [other_layout.body, words, List.flatMap_cons, List.flatMap_nil,
        List.append_nil]
      exact hfirst id path

-- Reading every record as a sample gives at least the text of the samples, and
-- gives no more exactly when no other record passes for a sample.
theorem interpret_records (mem : memory) (dwfl : Option Dwfl) {views : List (List UInt8)}
    {records : List leader_record}
    (h : List.Forall₂ Shows views (records.map leader_record.record)) :
    (samples_text dwfl records).length ≤ (views.flatMap (interpret mem dwfl)).length ∧
      (views.flatMap (interpret mem dwfl) = samples_text dwfl records ↔ NoSmallWord records) := by
  induction records generalizing views with
  | nil =>
      obtain rfl := List.forall₂_nil_right_iff.mp h
      simp [samples_text, NoSmallWord]
  | cons record records ih =>
      obtain ⟨view, views, hshows, hrest, rfl⟩ := List.forall₂_cons_right_iff.mp h
      obtain ⟨hle, hiff⟩ := ih hrest
      cases record with
      | sample sample =>
          have htext : samples_text dwfl (.sample sample :: records) =
              sample.render dwfl ++ samples_text dwfl records := by
            simp [samples_text]
          rw [List.flatMap_cons, hshows.interpret_sample mem dwfl, htext]
          refine ⟨by simpa using hle, ?_⟩
          rw [List.append_cancel_left_eq, hiff]
          simp [NoSmallWord]
      | other other =>
          have htext : samples_text dwfl (.other other :: records) =
              samples_text dwfl records := by
            simp [samples_text]
          have hword : sample_nr mem view = other.layout.word := by
            rw [hshows.nr_eq mem]
            exact other_word other
          rw [List.flatMap_cons, htext]
          refine ⟨by rw [List.length_append]; omega, ?_⟩
          by_cases hsmall : 50 < other.layout.word
          · have hnil := (interpret_eq_nil_iff mem dwfl view).mpr (hword ▸ hsmall)
            rw [hnil, List.nil_append, hiff]
            simp [NoSmallWord, hsmall]
          · have hne : interpret mem dwfl view ≠ [] := by
              rw [ne_eq, interpret_eq_nil_iff, hword]
              exact hsmall
            refine iff_of_false ?_ fun hall => hsmall (hall other (by simp))
            intro heq
            have hlen := congrArg List.length heq
            have hpos := List.length_pos_iff.mpr hne
            rw [List.length_append] at hlen
            omega

-- The text is that of the samples alone exactly when every other record in the
-- ring has more than 50 in the word that is taken for the number of frames.
theorem get_callchains_samples_iff (mem : memory) (dwfl : Option Dwfl)
    {buffer : perf_event_mmap_page} {records : List leader_record}
    (h : buffer.Pending (records.map leader_record.record)) (hne : records ≠ []) :
    ∃ text, get_callchains mem true dwfl buffer =
        some ({ buffer with data_tail := buffer.data_head }, some text) ∧
      (text = samples_text dwfl records ↔ NoSmallWord records) := by
  obtain ⟨views, hviews, hcall⟩ := get_callchains_spec mem dwfl h (by simpa using hne)
  exact ⟨_, hcall, (interpret_records mem dwfl hviews).2⟩

-- A text with a piece for each record, which for a sample is its rendering.
structure Rendered (dwfl : Option Dwfl) (records : List leader_record) (text : List Char) :
    Prop where
  intro ::
  exists_pieces : ∃ pieces : List (List Char), text = pieces.flatten ∧
    List.Forall₂ (fun piece record => ∀ sample, record = leader_record.sample sample →
      piece = sample.render dwfl) pieces records

theorem rendered_of_shows (mem : memory) (dwfl : Option Dwfl) {views : List (List UInt8)}
    {records : List leader_record}
    (h : List.Forall₂ Shows views (records.map leader_record.record)) :
    Rendered dwfl records (views.flatMap (interpret mem dwfl)) := by
  refine ⟨views.map (interpret mem dwfl), List.flatMap_def, ?_⟩
  rw [List.forall₂_map_left_iff]
  refine (List.forall₂_map_right_iff.mp h).imp ?_
  rintro view record hshows sample rfl
  exact hshows.interpret_sample mem dwfl

-- Event 1 lost five samples.
def small_lost : other_record where
  misc := 0
  layout := .lost 1 5
  misc_lt := by decide
  size_lt := by decide

def small_lost_ring : perf_event_mmap_page where
  data := small_lost.record.bytes ++ List.replicate 40 0
  data_head := 24
  data_tail := 0

theorem small_lost_pending : small_lost_ring.Pending [small_lost.record] where
  head_eq := by decide
  head_lt := by decide
  fits := by decide
  window_eq := by decide

theorem get_callchains_samples_iff_lost : ∃ text,
    get_callchains ⟨fun _ => 0, fun _ => NUL⟩ true none small_lost_ring =
        some ({ small_lost_ring with data_tail := 24 }, some text) ∧
      (text = samples_text none [.other small_lost] ↔ NoSmallWord [.other small_lost]) := by
  have hpending : small_lost_ring.Pending ([.other small_lost].map leader_record.record) :=
    small_lost_pending
  exact get_callchains_samples_iff _ none hpending (by simp)

-- The lost record is reported as a call chain with the frame 0x5.
theorem lost_record_rendered :
    small_lost_ring.Pending ([leader_record.other small_lost].map leader_record.record) ∧
    ∃ buffer', get_callchains ⟨fun _ => 0, fun _ => NUL⟩ true none small_lost_ring =
        some (buffer', some "0x5;|".toList) ∧
      "0x5;|".toList ≠ samples_text none [.other small_lost] :=
  ⟨small_lost_pending, _, by rfl, by decide⟩

end HwpcSensor.Perf
