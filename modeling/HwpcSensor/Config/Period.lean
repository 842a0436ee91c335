import HwpcSensor.Config.Accepted
import HwpcSensor.Library.LastWrite

namespace HwpcSensor

open Getopt LastWrite

-- A number as the user gives it: the argument of an option, or a value of a document.
inductive number_given where
  | text (optarg : String)
  | int32 (value : Int)

def number_given.integer (base : Nat) : number_given → Option Int
  | .text optarg => denoted optarg.toList base
  | .int32 value => some value

section Front

variable {m : platform}

theorem handle_options_runs : Runs (handle_option m) (handle_options m) :=
  ⟨fun _ => rfl, fun _ _ _ => rfl⟩

theorem iter_on_root_config_runs :
    Runs (parse_root_field m) fun doc config => iter_on_root_config m doc config :=
  ⟨fun _ => rfl, fun _ _ _ => rfl⟩

end Front

-- What gives the frequency, and what it is stored as. A text that is no frequency
-- makes the set up fail.

def option_frequency : found → Option number_given
  | .value 'f' optarg => some (.text optarg)
  | _ => none

def field_frequency : String × bson_value → Option number_given
  | (key_name, .int32 value) => if key_name = "frequency" then some (.int32 value) else none
  | _ => none

def number_given.unsigned : number_given → Nat
  | .text optarg => (parse_frequency optarg).getD 0
  | .int32 value => (value % 2 ^ 32).toNat

-- The frequency that is given last.
def config_source.frequency : config_source → Option number_given
  | .cli argv => last_written option_frequency (cli_options argv)
  | .file doc => last_written field_frequency doc

def config.with_frequency (frequency : Nat) (config : config) : HwpcSensor.config :=
  { config with sensor.frequency := frequency }

def cli_state.with_frequency (frequency : Nat) (s : cli_state) : cli_state :=
  { s with config := s.config.with_frequency frequency }

section Stored

variable {m : platform}

theorem handle_option_writes_frequency :
    Writes cli_state.with_frequency (fun option => (option_frequency option).map
      number_given.unsigned) (handle_option m) := by
  rintro ⟨config, current⟩ option value
  unfold handle_option
  split
  case h_2 optarg =>
      cases hparsed : parse_frequency optarg with
      | none => rfl
      | some frequency =>
          have hgiven : number_given.unsigned (.text optarg) = frequency :=
            congrArg (Option.getD · 0) hparsed
          simp only [option_frequency, Option.map_some, hgiven]
          rfl
  case h_3 optarg => cases parse_frequency optarg <;> rfl
  case h_8 => cases current <;> rfl
  case h_9 event_name =>
      cases current with
      | none => rfl
      | some group =>
          change (config.events.append_event m group.1 group.2 event_name).bind _ =
            ((config.events.append_event m group.1 group.2 event_name).bind _).map _
          cases config.events.append_event m group.1 group.2 event_name <;> rfl
  case h_10 =>
      dsimp only
      split_ifs <;> rfl
  all_goals rfl

theorem parse_root_field_writes_frequency :
    Writes config.with_frequency (fun field => (field_frequency field).map
      number_given.unsigned) (parse_root_field m) := by
  rintro config ⟨key_name, item⟩ value
  cases item with
  | document fields =>
      simp only [parse_root_field]
      split_ifs
      · change (iter_on_event_group_config m .system fields config.events).map _ =
          ((iter_on_event_group_config m .system fields config.events).map _).map _
        cases iter_on_event_group_config m .system fields config.events <;> rfl
      · change (iter_on_event_group_config m .containers fields config.events).map _ =
          ((iter_on_event_group_config m .containers fields config.events).map _).map _
        cases iter_on_event_group_config m .containers fields config.events <;> rfl
      · change (iter_on_storage_config m fields config.storage).bind _ =
          ((iter_on_storage_config m fields config.storage).bind _).map _
        cases iter_on_storage_config m fields config.storage <;> rfl
      · rfl
  | bool _ | utf8 _ =>
      simp only [parse_root_field]
      split_ifs <;> rfl
  | int32 _ =>
      simp only [parse_root_field, field_frequency]
      split_ifs <;> rfl
  | array _ | other => rfl

-- What an accepted source gives last is what the configuration holds.
theorem setup_frequency {source : config_source} {P_flag : Int} {config : config}
    {given : number_given} (h : source.setup m P_flag = some config)
    (hgiven : source.frequency = some given) : config.sensor.frequency = given.unsigned := by
  cases source with
  | cli argv =>
      obtain ⟨s, hoptions, rfl⟩ := Option.map_eq_some_iff.mp h
      have hwrites := handle_option_writes_frequency.run (handle_options_runs (m := m))
        (cli_options argv) ⟨config_create P_flag, none⟩ 1000
      have hlast : last_written option_frequency (cli_options argv) = some given := hgiven
      rw [last_written_map, hlast] at hwrites
      obtain ⟨s', -, rfl⟩ := Option.map_eq_some_iff.mp (hwrites.symm.trans hoptions)
      rfl
  | file doc =>
      have hwrites := parse_root_field_writes_frequency.run (iter_on_root_config_runs (m := m))
        doc (config_create P_flag) 1000
      have hlast : last_written field_frequency doc = some given := hgiven
      rw [last_written_map, hlast] at hwrites
      obtain ⟨config', -, rfl⟩ := Option.map_eq_some_iff.mp (hwrites.symm.trans h)
      rfl

-- A text that was taken is the frequency that is parsed.
theorem setup_frequency_parsed {argv : List String} {P_flag : Int} {config : config}
    {optarg : String} (h : config_setup_from_cli m argv (config_create P_flag) = some config)
    (hgiven : last_written option_frequency (cli_options argv) = some (.text optarg)) :
    ∃ frequency, parse_frequency optarg = some frequency := by
  obtain ⟨s, hoptions, -⟩ := Option.map_eq_some_iff.mp h
  obtain ⟨option, hmem, hoption⟩ := mem_of_last_written hgiven
  obtain ⟨before, after, hstep⟩ := handle_options_runs.exists_step hoptions hmem
  unfold option_frequency at hoption
  split at hoption
  · obtain rfl := number_given.text.inj (Option.some.inj hoption)
    obtain ⟨frequency, hparsed, -⟩ := Option.bind_eq_some_iff.mp hstep
    exact ⟨frequency, hparsed⟩
  · exact absurd hoption (by simp)

end Stored

-- What `strtoul` makes of a text and what `parse_frequency` checks of it.
theorem parse_frequency_eq_some_iff {str : String} {frequency : Nat} :
    parse_frequency str = some frequency ↔ ∃ n, denoted str.toList 0 = some n ∧
      n.natAbs ≤ ULONG_MAX ∧ (n % 2 ^ 64).toNat = frequency ∧ frequency ≤ UINT_MAX := by
  unfold parse_frequency
  cases hdenoted : denoted str.toList 0 with
  | none =>
      have hrest : str.toList = (strtoul str.toList 0).rest ∨ (strtoul str.toList 0).rest ≠ [] ∨
          (strtoul str.toList 0).range_error = true :=
        (strtoul_of_not_denoted hdenoted).imp Eq.symm Or.inl
      simp [hrest]
  | some n =>
      have hstr : str.toList ≠ [] := by
        intro hnil
        have hempty : denoted [] 0 = none := rfl
        rw [hnil, hempty] at hdenoted
        cases hdenoted
      rw [strtoul_of_denoted hdenoted]
      by_cases hrange : n.natAbs > ULONG_MAX
      · simp [hrange, Nat.not_le_of_gt hrange]
      · rw [if_neg hrange]
        dsimp only
        rw [if_neg (by simp [hstr]), Option.ite_none_left_eq_some]
        constructor
        · rintro ⟨hfits, hvalue⟩
          exact ⟨n, rfl, Nat.le_of_not_gt hrange, Option.some.inj hvalue, by
            rw [← Option.some.inj hvalue]
            exact Nat.le_of_not_gt hfits⟩
        · rintro ⟨n', hsame, -, hvalue, hfits⟩
          obtain rfl := Option.some.inj hsame
          exact ⟨by rw [hvalue]; exact Nat.not_lt_of_ge hfits, congrArg some hvalue⟩

-- `main` converts the period to an `int` for `zclock_sleep`.
def sleep_time (config : config) : Int :=
  (config.sensor.frequency : Int).bmod (2 ^ 32)

structure Period (n : Int) (config : config) : Prop where
  positive : 1 ≤ n
  fits : n ≤ INT_MAX
  stored : config.sensor.frequency = n
  slept : sleep_time config = n

-- A number from 1 to `INT_MAX` goes through all of the conversions.
theorem Period.of_unsigned {given : number_given} {config : config} {n : Int}
    (hinteger : given.integer 0 = some n)
    (hparsed : ∀ optarg, given = .text optarg →
      ∃ frequency, parse_frequency optarg = some frequency)
    (hstored : config.sensor.frequency = given.unsigned) (hpos : 0 < n) (hmax : n ≤ INT_MAX) :
    Period n config := by
  unfold INT_MAX at hmax
  have hvalue : (given.unsigned : Int) = n := by
    cases given with
    | text optarg =>
        obtain ⟨frequency, hfrequency⟩ := hparsed optarg rfl
        obtain ⟨n', hdenoted, -, hread, -⟩ := parse_frequency_eq_some_iff.mp hfrequency
        obtain rfl := Option.some.inj (hinteger.symm.trans hdenoted)
        rw [number_given.unsigned, hfrequency, Option.getD_some]
        omega
    | int32 value =>
        obtain rfl := Option.some.inj hinteger
        show ((value % 2 ^ 32).toNat : Int) = value
        omega
  have hfrequency : (config.sensor.frequency : Int) = n := by rw [hstored, hvalue]
  have hsleep : sleep_time config = n := by
    unfold sleep_time
    rw [hfrequency]
    exact Int.bmod_eq_of_le (by omega) (by omega)
  exact ⟨hpos, hmax, hfrequency, hsleep⟩

section

variable {m : platform} {source : config_source} {accepted : config}

theorem Accepted.integer (h : Accepted m source accepted) {given : number_given}
    (hgiven : source.frequency = some given) :
    (∃ n, given.integer 0 = some n) ∧ ∀ optarg, given = .text optarg →
      ∃ frequency, parse_frequency optarg = some frequency := by
  obtain ⟨P_flag, hsetup⟩ := h.setup
  cases given with
  | int32 value => exact ⟨⟨value, rfl⟩, fun optarg htext => by cases htext⟩
  | text optarg =>
      cases source with
      | cli argv =>
          obtain ⟨frequency, hfrequency⟩ := setup_frequency_parsed hsetup hgiven
          obtain ⟨n, hdenoted, -⟩ := parse_frequency_eq_some_iff.mp hfrequency
          refine ⟨⟨n, hdenoted⟩, ?_⟩
          rintro _ ⟨⟩
          exact ⟨frequency, hfrequency⟩
      | file doc =>
          -- a document holds no texts for numbers
          obtain ⟨⟨key_name, item⟩, -, hfield⟩ := mem_of_last_written hgiven
          unfold field_frequency at hfield
          split at hfield
          · split_ifs at hfield
            cases hfield
          · cases hfield

-- The frequency that is given is always an integer. It is the period exactly when
-- it is positive and no more than `INT_MAX`.
theorem period_as_written_iff (h : Accepted m source accepted) {given : number_given}
    (hgiven : source.frequency = some given) :
    ∃ n, given.integer 0 = some n ∧ (Period n accepted ↔ 0 < n ∧ n ≤ INT_MAX) := by
  obtain ⟨⟨n, hinteger⟩, hparsed⟩ := h.integer hgiven
  obtain ⟨P_flag, hsetup⟩ := h.setup
  refine ⟨n, hinteger, fun hperiod => ⟨hperiod.positive, hperiod.fits⟩, ?_⟩
  rintro ⟨hpos, hmax⟩
  exact Period.of_unsigned hinteger hparsed (setup_frequency hsetup hgiven) hpos hmax

end

def every (frequency : Nat) : config :=
  (with_group ⟨"g", .MONITOR_ALL_CPU_PER_SOCKET, []⟩).with_frequency frequency

theorem period_as_written_iff_hexadecimal :
    ∃ n, (number_given.text "0x1f4").integer 0 = some n ∧
      (Period n (every 500) ↔ 0 < n ∧ n ≤ INT_MAX) :=
  @period_as_written_iff all_events
    (.cli ["hwpc-sensor", "-n", "x", "-U", "out", "-s", "g", "-f", "0x1f4"]) (every 500)
    ⟨⟨0, rfl⟩, by decide⟩ (.text "0x1f4") rfl

-- With a period of 0 the loop does not sleep.
theorem zero_period_accepted :
    ¬ ∀ (m : platform) (source : config_source) (accepted : config) (given : number_given),
      Accepted m source accepted → source.frequency = some given →
      ∃ n, given.integer 0 = some n ∧ Period n accepted := by
  intro hclaim
  have haccepted : Accepted all_events
      (.cli ["hwpc-sensor", "-n", "x", "-U", "out", "-s", "g", "-f", "0"]) (every 0) :=
    ⟨⟨0, rfl⟩, by decide⟩
  obtain ⟨n, hinteger, hperiod⟩ := hclaim _ _ _ (.text "0") haccepted rfl
  obtain rfl : 0 = n := Option.some.inj hinteger
  exact absurd hperiod.positive (by decide)

-- A number that `strtoul` negates, and one that the conversion makes negative.
example : parse_frequency "-18446744073709551615" = some 1 := by decide
example : sleep_time (every (2 ^ 32 - 1)) = -1 := by decide

end HwpcSensor
