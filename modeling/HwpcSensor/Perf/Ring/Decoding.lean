import HwpcSensor.Library.Terminated
import HwpcSensor.Perf.Ring.Lemmas
import HwpcSensor.Strtol
import Mathlib.Data.List.Forall2

namespace HwpcSensor.Perf

open LittleEndian

-- The labels of each sample: first the samples are cut at their terminators, then
-- the frames of each at theirs.
def parse_callchains (text : List Char) : Option (List (List (List Char))) :=
  (Terminated.cut '|' text).bind fun chains => chains.mapM (Terminated.cut ';')

-- The symbol tables know no name with a separator in it.
def PlainSymbols (dwfl : Option Dwfl) : Prop :=
  ∀ ip symbol, dwfl.bind (dwfl_symbol · ip) = some symbol → ';' ∉ symbol ∧ '|' ∉ symbol

-- What a strbuffer holds after the samples have been appended one by one.
def callchains_text (mem : memory) (dwfl : Option Dwfl) (callchains : strbuffer)
    (samples : List (List UInt8)) : List Char :=
  strfreewrap (samples.foldl
    (fun callchains sample => append_symbols_from_sample mem callchains sample dwfl) callchains)

theorem render_frames_eq (dwfl : Option Dwfl) (ips : List Nat) :
    render_frames dwfl ips = Terminated.join ';' (ips.map (frame_label dwfl)) ++ ['|'] := by
  rw [render_frames, Terminated.join, List.flatMap_map]

theorem append_samples_holds (mem : memory) (dwfl : Option Dwfl) (samples : List (List UInt8))
    {callchains : strbuffer} {text : List Char} (h : callchains.Holds text) :
    (samples.foldl
      (fun callchains sample => append_symbols_from_sample mem callchains sample dwfl)
      callchains).Holds (text ++ samples.flatMap (interpret mem dwfl)) := by
  induction samples generalizing callchains text with
  | nil => simpa using h
  | cons sample samples ih =>
      have hnext := ih (append_symbols_from_sample_holds mem dwfl h sample)
      simpa [List.append_assoc] using hnext

-- The samples are joined at two levels.
theorem interpret_samples (mem : memory) (dwfl : Option Dwfl) {views : List (List UInt8)}
    {samples : List sample_record}
    (hviews : List.Forall₂ Shows views (samples.map sample_record.record))
    (hframes : ∀ sample ∈ samples, sample.ips.length ≤ 50) :
    views.flatMap (interpret mem dwfl) = Terminated.join '|'
      (samples.map fun sample => Terminated.join ';' (sample.ips.map (frame_label dwfl))) := by
  induction samples generalizing views with
  | nil =>
      obtain rfl := List.forall₂_nil_right_iff.mp hviews
      rfl
  | cons sample samples ih =>
      obtain ⟨view, rest, hshows, hrest, rfl⟩ := List.forall₂_cons_right_iff.mp hviews
      have hshort : ¬ sample.ips.length > 50 :=
        Nat.not_lt.mpr (hframes sample List.mem_cons_self)
      rw [List.flatMap_cons, hshows.interpret_sample mem dwfl, sample_record.render,
        if_neg hshort, render_frames_eq,
        ih hrest fun other hother => hframes other (List.mem_cons_of_mem _ hother)]
      simp

-- No label contains a separator.
theorem notMem_frame_label {dwfl : Option Dwfl} (hplain : PlainSymbols dwfl) (ip : Nat) :
    ';' ∉ frame_label dwfl ip ∧ '|' ∉ frame_label dwfl ip := by
  unfold frame_label
  cases hsymbol : dwfl.bind (dwfl_symbol · ip) with
  | some symbol =>
      have hsub : c_string symbol ⊆ symbol := (List.takeWhile_prefix _).subset
      obtain ⟨hsemi, hbar⟩ := hplain ip symbol hsymbol
      exact ⟨fun h => hsemi (hsub h), fun h => hbar (hsub h)⟩
  | none =>
      have hsemi : ';' ∉ Nat.toDigits 16 ip := notMem_toDigits (by decide) ip
      have hbar : '|' ∉ Nat.toDigits 16 ip := notMem_toDigits (by decide) ip
      have hother : ';' ≠ '0' ∧ ';' ≠ 'x' ∧ '|' ≠ '0' ∧ '|' ≠ 'x' := by decide
      simp [hsemi, hbar, hother]

theorem parse_join {chains : List (List (List Char))}
    (h : ∀ labels ∈ chains, ∀ label ∈ labels, ';' ∉ label ∧ '|' ∉ label) :
    parse_callchains (Terminated.join '|' (chains.map (Terminated.join ';'))) = some chains := by
  have hbar : ∀ chain ∈ chains.map (Terminated.join ';'), '|' ∉ chain := by
    intro chain hchain hmem
    obtain ⟨labels, hlabels, rfl⟩ := List.mem_map.mp hchain
    rcases Terminated.mem_join hmem with heq | ⟨label, hlabel, hin⟩
    · exact absurd heq (by decide)
    · exact (h labels hlabels label hlabel).2 hin
  have hsemi : ∀ labels ∈ chains, Terminated.cut ';' (Terminated.join ';' labels) = some labels :=
    fun labels hlabels =>
      Terminated.cut_join fun label hlabel => (h labels hlabels label hlabel).1
  rw [parse_callchains, Terminated.cut_join hbar, Option.bind_some]
  clear h hbar
  induction chains with
  | nil => rfl
  | cons labels chains ih =>
      rw [List.map_cons, List.mapM_cons, hsemi labels List.mem_cons_self,
        ih fun other hother => hsemi other (List.mem_cons_of_mem _ hother)]
      rfl

-- Without symbols a label gives its address back.
theorem frame_label_injective : Function.Injective (frame_label none) := by
  intro ip other h
  have hdigits : Nat.toDigits 16 ip = Nat.toDigits 16 other := by
    simpa [frame_label] using h
  rw [← strtol_number_toDigits (by decide) (Nat.le_refl 16) ip, hdigits,
    strtol_number_toDigits (by decide) (Nat.le_refl 16) other]

theorem parse_callchains_text (mem : memory) {dwfl : Option Dwfl} (hplain : PlainSymbols dwfl)
    {callchains : strbuffer} (hempty : callchains.Holds []) {views : List (List UInt8)}
    {samples : List sample_record}
    (hviews : List.Forall₂ Shows views (samples.map sample_record.record))
    (hframes : ∀ sample ∈ samples, sample.ips.length ≤ 50) :
    parse_callchains (callchains_text mem dwfl callchains views) =
      some (samples.map fun sample => sample.ips.map (frame_label dwfl)) := by
  have htext : callchains_text mem dwfl callchains views = Terminated.join '|'
      ((samples.map fun sample => sample.ips.map (frame_label dwfl)).map
        (Terminated.join ';')) := by
    rw [callchains_text, strfreewrap_eq (append_samples_holds mem dwfl views hempty),
      List.nil_append, interpret_samples mem dwfl hviews hframes, List.map_map]
    rfl
  rw [htext]
  apply parse_join
  intro labels hlabels label hlabel
  obtain ⟨sample, _, rfl⟩ := List.mem_map.mp hlabels
  obtain ⟨ip, _, rfl⟩ := List.mem_map.mp hlabel
  exact notMem_frame_label hplain ip

-- The text parses back to the samples' labels, and without symbols it tells the
-- samples apart by their addresses.
theorem callchains_decodable (mem : memory) {dwfl : Option Dwfl} (hplain : PlainSymbols dwfl)
    {size : Nat} {callchains : strbuffer} (hnew : strnew true size = some callchains)
    {views : List (List UInt8)} {samples : List sample_record}
    (hviews : List.Forall₂ Shows views (samples.map sample_record.record))
    (hframes : ∀ sample ∈ samples, sample.ips.length ≤ 50) :
    parse_callchains (callchains_text mem dwfl callchains views) =
        some (samples.map fun sample => sample.ips.map (frame_label dwfl)) ∧
      (dwfl = none → ∀ (others : List (List UInt8)) (samples' : List sample_record),
        List.Forall₂ Shows others (samples'.map sample_record.record) →
        (∀ sample ∈ samples', sample.ips.length ≤ 50) →
        callchains_text mem dwfl callchains others =
          callchains_text mem dwfl callchains views →
        samples'.map sample_record.ips = samples.map sample_record.ips) := by
  have hempty := strnew_holds hnew
  refine ⟨parse_callchains_text mem hplain hempty hviews hframes, ?_⟩
  rintro rfl others samples' hothers hframes' heq
  have hparsed := parse_callchains_text mem hplain hempty hothers hframes'
  rw [heq, parse_callchains_text mem hplain hempty hviews hframes, Option.some.injEq] at hparsed
  have hlabels : (samples'.map sample_record.ips).map (List.map (frame_label none)) =
      (samples.map sample_record.ips).map (List.map (frame_label none)) := by
    rw [List.map_map, List.map_map]
    exact hparsed.symm
  exact List.map_injective_iff.mpr (List.map_injective_iff.mpr frame_label_injective) hlabels

-- One address has a symbol, and the highest one has not.
def main_symbols : Dwfl where
  addrmodule := fun _ => some 0
  addrname := fun _ ip => if ip = 64 then some "main".toList else none

def two_frames : sample_record where
  misc := 2
  ips := [64, 2 ^ 64 - 1]
  misc_lt := by decide
  ips_lt := by decide
  size_le := by decide

theorem plain_main_symbols : PlainSymbols (some main_symbols) := by
  intro ip symbol h
  by_cases hip : ip = 64
  · have hsymbol : symbol = "main".toList := by
      simpa [main_symbols, dwfl_symbol, hip] using h.symm
    rw [hsymbol]
    decide
  · simp [main_symbols, dwfl_symbol, hip] at h

theorem callchains_decodable_two :
    parse_callchains (callchains_text ⟨fun _ => 0, fun _ => NUL⟩ (some main_symbols)
        ⟨[NUL], 1, 0⟩ [two_frames.record.bytes]) =
      some [["main".toList, "0xffffffffffffffff".toList]] := by
  have hshows : List.Forall₂ Shows [two_frames.record.bytes]
      ([two_frames].map sample_record.record) :=
    .cons ⟨List.take_of_length_le (length_bytes _).le⟩ .nil
  have hnew : strnew true 1 = some ⟨[NUL], 1, 0⟩ := rfl
  have h := (callchains_decodable ⟨fun _ => 0, fun _ => NUL⟩ plain_main_symbols hnew
    hshows (by decide)).1
  rw [h]
  decide

end HwpcSensor.Perf
