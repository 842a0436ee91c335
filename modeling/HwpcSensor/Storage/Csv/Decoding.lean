import HwpcSensor.Library.Terminated
import HwpcSensor.Perf.Actor.Names
import HwpcSensor.Storage.Csv.Disk
import HwpcSensor.Storage.Csv.Theorems

namespace HwpcSensor.Storage

open Interaction Terminated

def column_value : Option event_value → Nat
  | some (.counter value) => value
  | _ => 0

def entry_values (columns : List String) (entry : report_entry) : List Nat :=
  columns.map fun column => column_value (zhashx_lookup entry.events column)

-- What a reader is to get back from the row of an entry.
def entry_fields (sensor_name : String) (columns : List String) (entry : report_entry) :
    List (List Char) :=
  [decimal entry.timestamp, sensor_name.toList, entry.target.toList, entry.socket.toList,
    entry.cpu.toList] ++ (entry_values columns entry).map decimal

-- The same as far as the columns tell.
structure SameEntry (columns : List String) (entry other : report_entry) : Prop where
  timestamp : entry.timestamp = other.timestamp
  target : entry.target = other.target
  socket : entry.socket = other.socket
  cpu : entry.cpu = other.cpu
  values : ∀ column ∈ columns,
    zhashx_lookup entry.events column = zhashx_lookup other.events column

-- Reports of counters, with the same columns in all entries of a group and with
-- lines that fit the buffer.
structure StorableCounters (sensor_name output_dir : String) (payloads : List payload) :
    Prop where
  full : ∀ payload ∈ payloads, Full (csv_context_create sensor_name output_dir) payload
  counters : ∀ group, ∀ entry ∈ all_entries group payloads, ∀ column value,
    zhashx_lookup entry.events column = some value → ∃ n, value = .counter n
  accepted : ∀ group, Accepted sensor_name (all_entries group payloads)

-- The file, cut at newlines, is the header and the rows; a row, split at commas, is
-- what has been stored.
structure Recovers (sensor_name : String) (entries : List report_entry) (content : List Char) :
    Prop where
  rows : ∃ rows, cut '\n' content = some (header_line (columns_of entries) :: rows) ∧
    rows.map fields = entries.map (entry_fields sensor_name (columns_of entries))
  distinct : ∀ entry ∈ entries, ∀ other ∈ entries,
    stored_row sensor_name (columns_of entries) entry =
      stored_row sensor_name (columns_of entries) other →
    SameEntry (columns_of entries) entry other

def Decodable (order : hash_order) (sensor_name output_dir : String) (payloads : List payload) :
    Prop :=
  let output := store_reports order payloads (csv_context_create sensor_name output_dir) []
  (∀ err ∈ output.errors, err = 0) ∧ ∀ group, all_entries group payloads ≠ [] →
    ∃ lines, (outfile_path output.ctx group, lines) ∈ output.files ∧
      Recovers sensor_name (all_entries group payloads) lines.flatten

structure Separable (sensor_name : String) (columns : List String) (entry : report_entry) :
    Prop where
  sensor : Clean sensor_name.toList
  target : Clean entry.target.toList
  socket : Clean entry.socket.toList
  cpu : Clean entry.cpu.toList
  columns : ∀ column ∈ columns, '\n' ∉ column.toList

section Rows

variable {sensor_name : String} {columns : List String} {entry other : report_entry}

theorem decimal_injective : Function.Injective decimal := by
  intro value value' h
  have hvalue := Nat.ofDigitChars_toDigits (b := 10) (n := value) (by decide) (by decide)
  have hvalue' := Nat.ofDigitChars_toDigits (b := 10) (n := value') (by decide) (by decide)
  unfold decimal at h
  rw [← hvalue, h, hvalue']

theorem stored_row_eq {row : List Char}
    (hcounters : ∀ column value, zhashx_lookup entry.events column = some value →
      ∃ n, value = .counter n) (h : stored_row sensor_name columns entry = some row) :
    row = [','].intercalate (entry_fields sensor_name columns entry) ∧
      columns.map (zhashx_lookup entry.events) =
        (entry_values columns entry).map fun value => some (.counter value) := by
  obtain ⟨full, hfull, hfits⟩ := Option.bind_eq_some_iff.mp h
  obtain ⟨text, htext, rfl⟩ := Option.map_eq_some_iff.mp hfull
  obtain rfl := eq_of_fitting hfits
  obtain ⟨values, rfl, hvalues⟩ := cells_counters hcounters htext
  have hentry : entry_values columns entry = values := by
    have hcounted := congrArg (List.map column_value) hvalues
    rw [List.map_map, List.map_map] at hcounted
    exact hcounted.trans (List.map_id _)
  refine ⟨?_, hentry ▸ hvalues⟩
  unfold entry_fields
  rw [hentry, List.cons_append, intercalate_eq_flatMap]
  simp [row_fixed]

theorem entry_fields_ne_nil : entry_fields sensor_name columns entry ≠ [] :=
  List.cons_ne_nil _ _

theorem clean_fields_iff :
    (∀ field ∈ entry_fields sensor_name columns entry, Clean field) ↔
      Clean sensor_name.toList ∧ Clean entry.target.toList ∧ Clean entry.socket.toList ∧
        Clean entry.cpu.toList := by
  unfold entry_fields
  have hvalues : ∀ field ∈ (entry_values columns entry).map decimal, Clean field := by
    intro field hfield
    obtain ⟨value, -, rfl⟩ := List.mem_map.mp hfield
    exact clean_decimal value
  simp only [List.forall_mem_append, List.forall_mem_cons, clean_decimal, true_and]
  constructor
  · rintro ⟨⟨hsensor, htarget, hsocket, hcpu, -⟩, -⟩
    exact ⟨hsensor, htarget, hsocket, hcpu⟩
  · rintro ⟨hsensor, htarget, hsocket, hcpu⟩
    exact ⟨⟨hsensor, htarget, hsocket, hcpu, fun _ hmem => absurd hmem List.not_mem_nil⟩, hvalues⟩

-- A row is one line that splits into the fields exactly when the fields are clean.
theorem clean_row_iff :
    ('\n' ∉ [','].intercalate (entry_fields sensor_name columns entry) ∧
      fields ([','].intercalate (entry_fields sensor_name columns entry)) =
        entry_fields sensor_name columns entry) ↔
      ∀ field ∈ entry_fields sensor_name columns entry, Clean field := by
  unfold fields
  rw [notMem_intercalate_iff (by decide), splitOn_intercalate_iff entry_fields_ne_nil]
  constructor
  · rintro ⟨hnewline, hcomma⟩ field hfield
    exact ⟨hcomma field hfield, hnewline field hfield⟩
  · intro h
    exact ⟨fun field hfield => (h field hfield).2, fun field hfield => (h field hfield).1⟩

theorem same_of_fields
    (hentry : columns.map (zhashx_lookup entry.events) =
      (entry_values columns entry).map fun value => some (.counter value))
    (hother : columns.map (zhashx_lookup other.events) =
      (entry_values columns other).map fun value => some (.counter value))
    (h : entry_fields sensor_name columns entry = entry_fields sensor_name columns other) :
    SameEntry columns entry other := by
  simp only [entry_fields, List.cons_append, List.nil_append, List.cons.injEq] at h
  obtain ⟨htimestamp, -, htarget, hsocket, hcpu, hvalues⟩ := h
  have hvalues := List.map_injective_iff.mpr decimal_injective hvalues
  refine ⟨decimal_injective htimestamp, String.toList_inj.mp htarget, String.toList_inj.mp hsocket,
    String.toList_inj.mp hcpu, ?_⟩
  rw [hvalues, ← hother] at hentry
  exact List.map_inj_left.mp hentry

theorem separable_iff :
    Separable sensor_name columns entry ↔
      (∀ field ∈ entry_fields sensor_name columns entry, Clean field) ∧
        ∀ column ∈ columns, '\n' ∉ column.toList := by
  rw [clean_fields_iff]
  constructor
  · intro h
    exact ⟨⟨h.sensor, h.target, h.socket, h.cpu⟩, h.columns⟩
  · rintro ⟨⟨hsensor, htarget, hsocket, hcpu⟩, hcolumns⟩
    exact ⟨hsensor, htarget, hsocket, hcpu, hcolumns⟩

theorem newline_notMem_header_iff :
    '\n' ∉ header_line columns ↔ ∀ column ∈ columns, '\n' ∉ column.toList := by
  have hfixed : '\n' ∉ header_fixed := by decide
  unfold header_line
  rw [List.mem_append, not_or, and_iff_right hfixed]
  simp [List.mem_flatMap]

end Rows

section Files

variable {sensor_name output_dir : String} {entries : List report_entry} {rows : List (List Char)}

theorem rows_eq
    (hcounters : ∀ entry ∈ entries, ∀ column value,
      zhashx_lookup entry.events column = some value → ∃ n, value = .counter n)
    {columns : List String}
    (hstored : entries.map (stored_row sensor_name columns) = rows.map some) :
    rows = entries.map (fun entry => [','].intercalate (entry_fields sensor_name columns entry)) ∧
      ∀ entry ∈ entries, columns.map (zhashx_lookup entry.events) =
        (entry_values columns entry).map fun value => some (.counter value) := by
  induction entries generalizing rows with
  | nil =>
      obtain rfl : rows = [] := List.map_eq_nil_iff.mp hstored.symm
      exact ⟨rfl, by simp⟩
  | cons entry rest ih =>
      cases rows with
      | nil => simp at hstored
      | cons row rows =>
          obtain ⟨hrow, hrest⟩ := List.cons.inj hstored
          obtain ⟨rfl, hvalues⟩ := stored_row_eq (hcounters entry List.mem_cons_self) hrow
          obtain ⟨rfl, hall⟩ := ih (fun other hother =>
            hcounters other (List.mem_cons_of_mem _ hother)) hrest
          exact ⟨rfl, List.forall_mem_cons.mpr ⟨hvalues, hall⟩⟩

theorem recovers_iff (hne : entries ≠ [])
    (hcounters : ∀ entry ∈ entries, ∀ column value,
      zhashx_lookup entry.events column = some value → ∃ n, value = .counter n)
    (hstored : entries.map (stored_row sensor_name (columns_of entries)) = rows.map some) :
    Recovers sensor_name entries (join '\n' (header_line (columns_of entries) :: rows)) ↔
      ∀ entry ∈ entries, Separable sensor_name (columns_of entries) entry := by
  obtain ⟨rfl, hvalues⟩ := rows_eq hcounters hstored
  constructor
  · rintro ⟨⟨found, hcut, hfields⟩, -⟩ entry hentry
    obtain ⟨hfound, hlines⟩ := eq_of_cut_join hcut (by simpa using congrArg List.length hfields)
    obtain rfl := (List.cons.inj hfound).2
    rw [List.map_map] at hfields
    have hrow := List.map_inj_left.mp hfields entry hentry
    have hline := hlines _ (List.mem_cons_of_mem _ (List.mem_map_of_mem hentry))
    exact separable_iff.mpr ⟨clean_row_iff.mp ⟨hline, hrow⟩,
      newline_notMem_header_iff.mp (hlines _ List.mem_cons_self)⟩
  · intro hseparable
    have hrows := fun entry hentry =>
      clean_row_iff.mpr (separable_iff.mp (hseparable entry hentry)).1
    refine ⟨⟨_, cut_join ?_, ?_⟩, fun entry hentry other hother hsame => ?_⟩
    · refine List.forall_mem_cons.mpr ⟨?_, fun row hrow => ?_⟩
      · obtain ⟨entry, hentry⟩ := List.exists_mem_of_ne_nil _ hne
        exact newline_notMem_header_iff.mpr (hseparable entry hentry).columns
      · obtain ⟨entry, hentry, rfl⟩ := List.mem_map.mp hrow
        exact (hrows entry hentry).1
    · rw [List.map_map]
      exact List.map_congr_left fun entry hentry => (hrows entry hentry).2
    · rw [List.map_map] at hstored
      have heq := List.map_inj_left.mp hstored
      rw [heq entry hentry, heq other hother] at hsame
      have hfields := congrArg fields (Option.some.inj hsame)
      rw [(hrows entry hentry).2, (hrows other hother).2] at hfields
      exact same_of_fields (hvalues entry hentry) (hvalues other hother) hfields

-- All the reports are stored, and each file is the header and the rows of its group.
theorem StorableCounters.stored {payloads : List payload}
    (h : StorableCounters sensor_name output_dir payloads) (order : hash_order)
    {output : csv_output}
    (houtput : store_reports order payloads (csv_context_create sensor_name output_dir) [] =
      output) :
    (∀ err ∈ output.errors, err = 0) ∧ ∀ group, all_entries group payloads ≠ [] →
      ∃ rows, (all_entries group payloads).map
          (stored_row sensor_name (columns_of (all_entries group payloads))) = rows.map some ∧
        ∀ lines, (outfile_path output.ctx group, lines) ∈ output.files ↔
          lines = (header_line (columns_of (all_entries group payloads)) :: rows).map
            (· ++ ['\n']) := by
  obtain ⟨hstored, haccepted⟩ := store_reports_spec order payloads
    (settled_create sensor_name output_dir) h.full houtput
  simp only [List.nil_append] at hstored haccepted
  have herrs := haccepted h.accepted
  obtain ⟨hsettled, hconfig⟩ := hstored herrs
  refine ⟨herrs, fun group hne => ?_⟩
  have hrecorded := hsettled.consistent.recorded group
  cases hall : all_entries group payloads with
  | nil => exact absurd hall hne
  | cons first rest =>
      rw [hall] at hrecorded
      obtain ⟨file, rows, -, -, hrows, hlines⟩ := hrecorded
      rw [hconfig] at hrows
      have hmem := List.mem_of_getElem? hlines
      refine ⟨rows, hrows, fun lines => ⟨fun hfile => ?_, fun heq => ?_⟩⟩
      · exact hsettled.consistent.file_unique hfile hmem
      · rw [heq]
        exact hmem

end Files

section Runs

variable (order : hash_order) {sensor_name output_dir : String} {payloads : List payload}

theorem StorableCounters.separable (h : StorableCounters sensor_name output_dir payloads)
    (hdecodable : Decodable order sensor_name output_dir payloads) {group : String}
    {entry : report_entry} (hentry : entry ∈ all_entries group payloads) :
    Separable sensor_name (columns_of (all_entries group payloads)) entry := by
  have hne := List.ne_nil_of_mem hentry
  obtain ⟨rows, hstored, hlines⟩ := (h.stored order rfl).2 group hne
  obtain ⟨lines, hfile, hcontent⟩ := hdecodable.2 group hne
  rw [(hlines lines).mp hfile, ← List.flatMap_def] at hcontent
  exact (recovers_iff hne (h.counters group) hstored).mp hcontent entry hentry

theorem StorableCounters.decodable (h : StorableCounters sensor_name output_dir payloads)
    (hseparable : ∀ group, ∀ entry ∈ all_entries group payloads,
      Separable sensor_name (columns_of (all_entries group payloads)) entry) :
    Decodable order sensor_name output_dir payloads := by
  obtain ⟨herrs, hfiles⟩ := h.stored order rfl
  refine ⟨herrs, fun group hne => ?_⟩
  obtain ⟨rows, hstored, hlines⟩ := hfiles group hne
  refine ⟨_, (hlines _).mpr rfl, ?_⟩
  rw [← List.flatMap_def]
  exact (recovers_iff hne (h.counters group) hstored).mpr (hseparable group)

theorem rows_decodable_iff (h : StorableCounters sensor_name output_dir payloads) :
    Decodable order sensor_name output_dir payloads ↔
      ∀ group, ∀ entry ∈ all_entries group payloads,
        Separable sensor_name (columns_of (all_entries group payloads)) entry :=
  ⟨fun hdecodable _ _ => h.separable order hdecodable, h.decodable order⟩

end Runs

-- The report of a target with one entry.
def report_of (target_name : String) : payload :=
  { one_entry plain_events with target_name := target_name }

theorem all_entries_report_of (target_name group : String) :
    all_entries group [report_of target_name] =
      if group = "core" then [⟨1000, target_name, "0", "3", plain_events⟩] else [] := by
  by_cases hgroup : group = "core"
  · subst hgroup
    rfl
  · have hnone : zhashx_lookup (report_of target_name).groups group = none :=
      zhashx_lookup_eq_none_iff.mpr fun hmem => hgroup (List.mem_singleton.mp hmem)
    rw [if_neg hgroup, all_entries, List.flatMap_singleton, payload_entries, entries_in, hnone]

theorem report_of_storable {target_name : String}
    (hrow : (stored_row "host" (sorted_names plain_events)
      ⟨1000, target_name, "0", "3", plain_events⟩).isSome) :
    StorableCounters "host" "out" [report_of target_name] := by
  refine ⟨?_, fun group => ?_, fun group => ?_⟩
  · intro payload hpayload
    rw [List.mem_singleton.mp hpayload]
    refine ⟨by simp [report_of, one_entry, zhashx_keys], ?_, ?_, ?_⟩
    all_goals
      intro item hitem
      rw [List.mem_singleton.mp hitem]
    · exact List.cons_ne_nil _ _
    · intro entry hentry
      rw [List.mem_singleton.mp hentry]
      exact List.cons_ne_nil _ _
    · decide
  · rw [all_entries_report_of]
    split_ifs
    · intro entry hentry column value hvalue
      rw [List.mem_singleton.mp hentry, plain_events_lookup] at hvalue
      split_ifs at hvalue <;> exact ⟨_, (Option.some.inj hvalue).symm⟩
    · simp
  · have hheader : (fitting (header_line (sorted_names plain_events))).isSome := by decide
    rw [all_entries_report_of]
    split_ifs
    · intro entry hentry
      rw [List.mem_singleton.mp hentry]
      exact ⟨hheader, hrow⟩
    · intro entry hentry
      exact absurd hentry List.not_mem_nil

theorem rows_decodable_iff_app : Decodable in_order "host" "out" [report_of "app"] := by
  refine (rows_decodable_iff in_order (report_of_storable (by decide))).mpr ?_
  intro group entry hentry
  rw [all_entries_report_of] at hentry ⊢
  split_ifs at hentry ⊢
  · rw [List.mem_singleton.mp hentry]
    exact ⟨⟨by decide, by decide⟩, ⟨by decide, by decide⟩, ⟨by decide, by decide⟩,
      ⟨by decide, by decide⟩, by decide⟩
  · exact absurd hentry List.not_mem_nil

-- The name that a cgroup gets that is no container's.
theorem comma_not_recovered :
    Perf.Resolves (fun _ => none)
      ⟨.UNKNOWN, some "/sys/fs/cgroup/perf_event", some "/sys/fs/cgroup/perf_event/a,b"⟩ "/a,b" ∧
      StorableCounters "host" "out" [report_of "/a,b"] ∧
      ¬Decodable in_order "host" "out" [report_of "/a,b"] := by
  have hstorable : StorableCounters "host" "out" [report_of "/a,b"] :=
    report_of_storable (by decide)
  refine ⟨(Perf.resolves_iff rfl rfl).mpr (Or.inr (by decide)), hstorable, fun hdecodable => ?_⟩
  have hentry : ⟨1000, "/a,b", "0", "3", plain_events⟩ ∈
      all_entries "core" [report_of "/a,b"] := List.mem_cons_self
  exact (hstorable.separable in_order hdecodable hentry).target.1 (by decide)

end HwpcSensor.Storage
