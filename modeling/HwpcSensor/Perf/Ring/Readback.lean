import HwpcSensor.Perf.Ring.Decoding
import HwpcSensor.Perf.Ring.Theorems

namespace HwpcSensor.Perf

open Transition

-- What a reader makes of a call: nothing was there to be read, or the text is cut
-- into samples.
def delivery.chains (call : delivery) : Option (List (List (List Char))) :=
  match call.result with
  | none => some []
  | some text => parse_callchains text

-- The address that stands for itself.
def label_address (label : List Char) : Nat :=
  strtol_number 16 (label.drop 2)

def delivery.addresses (call : delivery) : Option (List (List Nat)) :=
  call.chains.map (List.map (List.map label_address))

-- The samples that are not too long for the text.
def short_samples (samples : List sample_record) : List sample_record :=
  samples.filter fun sample => sample.ips.length ≤ 50

def labels (dwfl : Option Dwfl) (samples : List sample_record) : List (List (List Char)) :=
  (short_samples samples).map fun sample => sample.ips.map (frame_label dwfl)

-- A long sample leaves no text.
theorem flatMap_render (dwfl : Option Dwfl) (samples : List sample_record) :
    samples.flatMap (sample_record.render dwfl) =
      Terminated.join '|' ((labels dwfl samples).map (Terminated.join ';')) := by
  induction samples with
  | nil => rfl
  | cons sample rest ih =>
      rw [List.flatMap_cons, ih, labels, labels, short_samples, short_samples]
      by_cases hlong : sample.ips.length > 50
      · rw [sample_record.render, if_pos hlong, List.filter_cons_of_neg (by simpa using hlong)]
        rfl
      · rw [sample_record.render, if_neg hlong, List.filter_cons_of_pos (by simpa using hlong),
          render_frames_eq]
        simp [Terminated.join]

theorem parse_render {dwfl : Option Dwfl} (hplain : PlainSymbols dwfl)
    (samples : List sample_record) :
    parse_callchains (samples.flatMap (sample_record.render dwfl)) =
      some (labels dwfl samples) := by
  rw [flatMap_render]
  apply parse_join
  intro chain hchain label hlabel
  obtain ⟨sample, -, rfl⟩ := List.mem_map.mp hchain
  obtain ⟨ip, -, rfl⟩ := List.mem_map.mp hlabel
  exact notMem_frame_label hplain ip

theorem addresses_of_labels {call : delivery} {samples : List sample_record}
    (hdwfl : call.dwfl = none) (h : call.chains = some (labels call.dwfl samples)) :
    call.addresses = some ((short_samples samples).map sample_record.ips) := by
  have haddress : label_address ∘ frame_label none = id := by
    funext ip
    exact strtol_number_toDigits (by decide) (Nat.le_refl 16) ip
  rw [delivery.addresses, h, hdwfl, labels, Option.map_some, List.map_map]
  refine congrArg some (List.map_congr_left fun sample _ => ?_)
  rw [Function.comp_apply, List.map_map, haddress, List.map_id]

-- The call gives the samples back: their labels, and their addresses when it had
-- no symbols.
def GivesBack (call : delivery) (samples : List sample_record) : Prop :=
  call.chains = some (labels call.dwfl samples) ∧
    (call.dwfl = none → call.addresses = some ((short_samples samples).map sample_record.ips))

theorem gives_back_of_chains {call : delivery} {samples : List sample_record}
    (h : call.chains = some (labels call.dwfl samples)) : GivesBack call samples :=
  ⟨h, fun hdwfl => addresses_of_labels hdwfl h⟩

-- One list of samples for each call.
theorem Delivers.read_back {first_tail : Nat} {calls : List delivery}
    {consumed : List sample_record} (h : Delivers first_tail calls consumed)
    (hplain : ∀ call ∈ calls, PlainSymbols call.dwfl) :
    ∃ taken : List (List sample_record), taken.flatten = consumed ∧
      List.Forall₂ GivesBack calls taken := by
  induction h with
  | nil => exact ⟨[], rfl, .nil⟩
  | @complete calls consumed call samples _ _ _ _ _ hresult ih =>
      obtain ⟨taken, rfl, htaken⟩ := ih fun other hother =>
        hplain other (List.mem_append_left _ hother)
      refine ⟨taken ++ [samples], by simp,
        List.rel_append htaken (.cons (gives_back_of_chains ?_) .nil)⟩
      rw [delivery.chains, hresult]
      by_cases hnil : samples = []
      · rw [if_pos hnil, hnil]
        rfl
      · rw [if_neg hnil]
        exact parse_render (hplain call (List.mem_append_right _ List.mem_cons_self)) samples
  | @out_of_memory calls consumed call _ _ _ _ hresult ih =>
      obtain ⟨taken, rfl, htaken⟩ := ih fun other hother =>
        hplain other (List.mem_append_left _ hother)
      refine ⟨taken ++ [[]], by simp,
        List.rel_append htaken (.cons (gives_back_of_chains ?_) .nil)⟩
      rw [delivery.chains, hresult]
      rfl

-- Whatever the two sides do in between, the texts of the calls read one after the
-- other give back the samples in the order of their appending: each that is not
-- too long once, except for those that are still in the ring.
theorem callchains_read_back {data : List UInt8} {tail : Nat} (htail : tail < 2 ^ 64)
    {actions : List ring_action} {s : ring_system}
    (h : Run RingStep (ring_system.start data tail) actions s) (hidle : s.reader = .idle)
    (hplain : ∀ call ∈ s.delivered, PlainSymbols call.dwfl) :
    ∃ (taken : List (List sample_record)) (pending : List sample_record),
      s.appended = taken.flatten ++ pending ∧
      s.buffer.Pending (pending.map sample_record.record) ∧
      List.Forall₂ GivesBack s.delivered taken := by
  obtain ⟨consumed, current, pending, hinv⟩ := ring_run_invariant htail h
  obtain rfl : current = [] := by
    simpa [hidle, reader_state.Consistent] using hinv.reader
  obtain ⟨taken, rfl, htaken⟩ := hinv.delivers.read_back hplain
  exact ⟨taken, pending, by simpa using hinv.appended_eq, hinv.ring, htaken⟩

-- A sample of one frame, read in one call.
theorem callchains_read_back_split : ∃ s : ring_system, s.appended = [split_sample] ∧
    ∃ call, s.delivered = [call] ∧ call.addresses = some [[42]] := by
  have happend : RingStep (ring_system.start (List.replicate 40 0) 35) .append _ :=
    .append split_sample (by decide) (by decide)
  have henter := (Run.single happend).snoc (.enter none true ⟨List.replicate 1024 NUL, 1024, 0⟩
    rfl (by decide) (by rfl))
  have hround := henter.snoc (.round ⟨fun _ => 0, fun _ => NUL⟩ rfl (by decide))
  have hrun := hround.snoc (.leave rfl (by decide))
  obtain ⟨s, hrun, happended, hidle, htail, hhead, call, hcall, hdwfl⟩ : ∃ s, Run RingStep
      (ring_system.start (List.replicate 40 0) 35) _ s ∧ s.appended = [split_sample] ∧
      s.reader = .idle ∧ s.buffer.data_tail = 59 ∧ s.buffer.data_head = 59 ∧
      ∃ call, s.delivered = [call] ∧ call.dwfl = none :=
    ⟨_, hrun, rfl, rfl, rfl, rfl, _, rfl, rfl⟩
  obtain ⟨taken, pending, hall, hring, htaken⟩ :=
    callchains_read_back (by decide) hrun hidle fun other hother => by
      rw [hcall] at hother
      rw [List.mem_singleton.mp hother, hdwfl]
      exact fun ip symbol hsymbol => by cases hsymbol
  rw [hcall] at htaken
  obtain ⟨samples, rest, hsamples, hrest, rfl⟩ := List.forall₂_cons_left_iff.mp htaken
  obtain rfl := List.forall₂_nil_left_iff.mp hrest
  obtain rfl : pending = [] := by
    have hsum := hring.head_eq
    rw [hhead, htail] at hsum
    cases pending with
    | nil => rfl
    | cons sample more =>
        have hpositive : 0 < sample.record.size := by
          simp [ring_record.size, HEADER_SIZE]
        rw [List.map_cons, total_size, List.map_cons, List.sum_cons] at hsum
        omega
  obtain rfl : samples = [split_sample] := by
    rw [happended] at hall
    simpa using hall.symm
  exact ⟨s, happended, call, hcall, (hsamples.2 hdwfl).trans (by decide)⟩

end HwpcSensor.Perf
