import HwpcSensor.Library.CString
import HwpcSensor.Storage.Csv.Lemmas

namespace HwpcSensor.Storage

open CString

-- A call of `snprintf`, with the place in the line buffer and the size it is given.
structure snprintf_call where
  pos : Nat
  size : Nat
  text : List Char
  deriving DecidableEq

def snprintf_call.Writes (call : snprintf_call) (p : Nat) : Prop :=
  call.pos ≤ p ∧ p < call.pos + stored call.size call.text

def size_t (value : Int) : Nat :=
  (value % 2 ^ 64).toNat

-- The memory from the line buffer on, and the position, which goes on by the length
-- that the whole text would have.
structure assembly where
  memory : Memory
  pos : Nat
  calls : List snprintf_call

-- `char buffer[CSV_LINE_BUFFER_SIZE] = {0}`
def assembly.start (stack : Memory) : assembly where
  memory := fun p => if p < CSV_LINE_BUFFER_SIZE then nul else stack p
  pos := 0
  calls := []

def assembly.snprintf (s : assembly) (text : List Char) : assembly where
  memory := print s.memory s.pos (size_t ((CSV_LINE_BUFFER_SIZE : Int) - s.pos)) text
  pos := s.pos + text.length
  calls := s.calls ++ [⟨s.pos, size_t ((CSV_LINE_BUFFER_SIZE : Int) - s.pos), text⟩]

def assemble_names : assembly → List String → Int × assembly
  | s, [] => (0, s)
  | s, event_name :: rest =>
      let s := s.snprintf (',' :: event_name.toList)
      if s.pos ≥ CSV_LINE_BUFFER_SIZE then (-1, s) else assemble_names s rest

def assemble_values (events : zhashx event_value) : assembly → List String → Int × assembly
  | s, [] => (0, s)
  | s, event_name :: rest =>
      match zhashx_lookup events event_name with
      | none => (-1, s)
      | some event_value =>
          let s := s.snprintf (',' :: decimal (read_uint64 event_value))
          if s.pos ≥ CSV_LINE_BUFFER_SIZE then (-1, s) else assemble_values events s rest

-- What is returned, and the line that goes to `fprintf`, when one does.
structure outcome where
  result : Int
  calls : List snprintf_call
  line : Option (List Char)

def assembled_line (assembled : Int × assembly) : Option (List Char) :=
  if assembled.1 ≠ 0 then none
  else some (read_string assembled.2.memory CSV_LINE_BUFFER_SIZE)

def print_line (written : Int) (assembled : Int × assembly) : outcome where
  result := if assembled.1 ≠ 0 ∨ written < 0 then -1 else 0
  calls := assembled.2.calls
  line := assembled_line assembled

-- `write_group_header` and `write_events_value` with their buffers in memory, when
-- `fprintf` returns `written`.
def group_header_outcome (stack : Memory) (written : Int) (events : zhashx event_value) :
    outcome :=
  print_line written
    (assemble_names ((assembly.start stack).snprintf header_fixed) (sorted_names events))

def events_value_outcome (stack : Memory) (written : Int) (ctx : csv_context) (group : String)
    (entry : report_entry) : outcome :=
  match zhashx_lookup ctx.groups_events group with
  | none => ⟨-1, [], none⟩
  | some events_name =>
      print_line written (assemble_values entry.events
        ((assembly.start stack).snprintf (row_fixed ctx.config.sensor_name entry.timestamp
          entry.target entry.socket entry.cpu)) events_name)

-- All is written within the buffer, no size is larger than what is left of it, and
-- the line is complete or not printed.
structure StaysInBuffer (complete : Option (List Char)) (o : outcome) : Prop where
  within : ∀ call ∈ o.calls, ∀ p, call.Writes p → p < CSV_LINE_BUFFER_SIZE
  sized : ∀ call ∈ o.calls, call.size ≤ CSV_LINE_BUFFER_SIZE - call.pos
  whole : (∃ line, o.line = some line ∧ complete = some line) ∨ o.line = none ∧ o.result = -1

def NulFree (s : String) : Prop :=
  nul ∉ s.toList

instance : DecidablePred NulFree := fun s => inferInstanceAs (Decidable (nul ∉ s.toList))

theorem StaysInBuffer.of_sized {complete : Option (List Char)} {o : outcome}
    (hsized : ∀ call ∈ o.calls, call.size ≤ CSV_LINE_BUFFER_SIZE - call.pos)
    (hwhole : (∃ line, o.line = some line ∧ complete = some line) ∨
      o.line = none ∧ o.result = -1) : StaysInBuffer complete o := by
  refine ⟨fun call hcall p hwrites => ?_, hsized, hwhole⟩
  have hleft := hsized call hcall
  have hstored : stored call.size call.text ≤ call.size := stored_le
  unfold snprintf_call.Writes at hwrites
  omega

-- The text is in the buffer, up to the position.
structure assembly.Holds (s : assembly) (full : List Char) : Prop where
  reads : Reads s.memory full
  pos_eq : s.pos = full.length
  room : full.length < CSV_LINE_BUFFER_SIZE
  nul_free : nul ∉ full
  sized : ∀ call ∈ s.calls, call.size ≤ CSV_LINE_BUFFER_SIZE - call.pos

theorem size_t_left {pos : Nat} (h : pos ≤ CSV_LINE_BUFFER_SIZE) :
    size_t ((CSV_LINE_BUFFER_SIZE : Int) - pos) = CSV_LINE_BUFFER_SIZE - pos := by
  unfold size_t CSV_LINE_BUFFER_SIZE at *
  omega

section Holds

variable {s : assembly} {full : List Char}

theorem assembly.Holds.snprintf_sized (h : s.Holds full) (text : List Char) :
    ∀ call ∈ (s.snprintf text).calls, call.size ≤ CSV_LINE_BUFFER_SIZE - call.pos := by
  intro call hcall
  rcases List.mem_append.mp hcall with hold | hnew
  · exact h.sized call hold
  · obtain rfl := List.mem_singleton.mp hnew
    have hpos : s.pos ≤ CSV_LINE_BUFFER_SIZE := h.pos_eq ▸ h.room.le
    exact (size_t_left hpos).le

theorem assembly.Holds.snprintf_reads (h : s.Holds full) (text : List Char) :
    Reads (s.snprintf text).memory ((full ++ text).take (CSV_LINE_BUFFER_SIZE - 1)) := by
  simp only [assembly.snprintf, h.pos_eq, size_t_left h.room.le]
  exact h.reads.print h.room

theorem assembly.Holds.snprintf (h : s.Holds full) {text : List Char} (hnul : nul ∉ text)
    (hroom : (full ++ text).length < CSV_LINE_BUFFER_SIZE) :
    (s.snprintf text).Holds (full ++ text) := by
  have hreads := h.snprintf_reads text
  rw [List.take_of_length_le (by omega)] at hreads
  refine ⟨hreads, ?_, hroom, ?_, h.snprintf_sized text⟩
  · simp only [assembly.snprintf, h.pos_eq, List.length_append]
  · rw [List.mem_append, not_or]
    exact ⟨h.nul_free, hnul⟩

theorem assembly.Holds.line (h : s.Holds full) :
    read_string s.memory CSV_LINE_BUFFER_SIZE = full :=
  h.reads.read_string h.nul_free h.room

theorem holds_start (stack : Memory) : (assembly.start stack).Holds [] := by
  refine ⟨⟨?_, rfl⟩, rfl, by decide, List.not_mem_nil, ?_⟩
  · intro i hi
    cases hi
  · intro call hcall
    cases hcall

theorem assemble_names_holds {names : List String} (hnames : ∀ name ∈ names, NulFree name)
    (h : s.Holds full) :
    (∀ call ∈ (assemble_names s names).2.calls, call.size ≤ CSV_LINE_BUFFER_SIZE - call.pos) ∧
      assembled_line (assemble_names s names) =
        fitting (full ++ names.flatMap fun name => ',' :: name.toList) := by
  induction names generalizing s full with
  | nil =>
      refine ⟨h.sized, ?_⟩
      simp [assembled_line, assemble_names, fitting, h.room, h.line]
  | cons name rest ih =>
      obtain ⟨hname, hrest⟩ := List.forall_mem_cons.mp hnames
      have hpos : (s.snprintf (',' :: name.toList)).pos = (full ++ ',' :: name.toList).length := by
        simp only [assembly.snprintf, h.pos_eq, List.length_append]
      rw [List.flatMap_cons, ← List.append_assoc]
      simp only [assemble_names]
      by_cases hroom : (full ++ ',' :: name.toList).length < CSV_LINE_BUFFER_SIZE
      · rw [if_neg (by omega)]
        exact ih hrest (h.snprintf (by simpa [nul, NulFree] using hname) hroom)
      · rw [if_pos (by omega)]
        exact ⟨h.snprintf_sized _, (fitting_append_of_le (by omega) _).symm⟩

theorem nul_not_mem_decimal (value : Nat) : nul ∉ decimal value := by
  intro hmem
  exact absurd (Nat.isDigit_of_mem_toDigits (by decide) (by decide) hmem) (by decide)

theorem assemble_values_holds (events : zhashx event_value) (names : List String)
    (h : s.Holds full) :
    (∀ call ∈ (assemble_values events s names).2.calls,
        call.size ≤ CSV_LINE_BUFFER_SIZE - call.pos) ∧
      assembled_line (assemble_values events s names) =
        (cells (fun value => decimal (read_uint64 value)) events names).bind
          fun text => fitting (full ++ text) := by
  induction names generalizing s full with
  | nil =>
      refine ⟨h.sized, ?_⟩
      simp [assembled_line, assemble_values, cells, fitting, h.room, h.line]
  | cons name rest ih =>
      simp only [assemble_values, cells]
      cases hvalue : zhashx_lookup events name with
      | none => exact ⟨h.sized, rfl⟩
      | some value =>
          have hpos : (s.snprintf (',' :: decimal (read_uint64 value))).pos =
              (full ++ ',' :: decimal (read_uint64 value)).length := by
            simp only [assembly.snprintf, h.pos_eq, List.length_append]
          have hnul : nul ∉ ',' :: decimal (read_uint64 value) := by
            simpa [nul] using nul_not_mem_decimal (read_uint64 value)
          dsimp only
          by_cases hroom :
              (full ++ ',' :: decimal (read_uint64 value)).length < CSV_LINE_BUFFER_SIZE
          · rw [if_neg (by omega)]
            obtain ⟨hsized, hline⟩ := ih (h.snprintf hnul hroom)
            refine ⟨hsized, hline.trans ?_⟩
            cases cells (fun value => decimal (read_uint64 value)) events rest with
            | none => rfl
            | some text => simp
          · rw [if_pos (by omega)]
            refine ⟨h.snprintf_sized _, ?_⟩
            cases cells (fun value => decimal (read_uint64 value)) events rest with
            | none => rfl
            | some text =>
                have hnone := fitting_append_of_le (Nat.le_of_not_lt hroom) text
                simpa [assembled_line] using hnone.symm

end Holds

theorem print_line_whole {complete : Option (List Char)} {written : Int}
    {assembled : Int × assembly}
    (hline : ∀ line, assembled_line assembled = some line → complete = some line) :
    (∃ line, (print_line written assembled).line = some line ∧ complete = some line) ∨
      (print_line written assembled).line = none ∧ (print_line written assembled).result = -1 := by
  by_cases hzero : assembled.1 = 0
  · have hsome : assembled_line assembled =
        some (read_string assembled.2.memory CSV_LINE_BUFFER_SIZE) := if_neg (by simpa using hzero)
    exact Or.inl ⟨_, hsome, hline _ hsome⟩
  · exact Or.inr ⟨if_pos hzero, if_pos (Or.inl hzero)⟩

theorem holds_header_fixed (stack : Memory) :
    ((assembly.start stack).snprintf header_fixed).Holds header_fixed :=
  (holds_start stack).snprintf (by decide) (by decide)

-- The header checks the position behind every name, and its start always fits.
theorem group_header_stays (stack : Memory) (written : Int) {events : zhashx event_value}
    (hnames : ∀ name ∈ zhashx_keys events, NulFree name) :
    StaysInBuffer (some (header_line (sorted_names events)))
      (group_header_outcome stack written events) := by
  obtain ⟨hsized, hline⟩ := assemble_names_holds
    (fun name hname => hnames name (mem_sorted_names.mp hname)) (holds_header_fixed stack)
  refine .of_sized hsized (print_line_whole fun line hsome => ?_)
  rw [hline] at hsome
  exact congrArg some (eq_of_fitting hsome).symm

section Row

variable {stack : Memory} {written : Int} {ctx : csv_context} {group : String}
  {entry : report_entry} {columns : List String}

abbrev row_start (ctx : csv_context) (entry : report_entry) : List Char :=
  row_fixed ctx.config.sensor_name entry.timestamp entry.target entry.socket entry.cpu

def complete_row (ctx : csv_context) (group : String) (entry : report_entry) :
    Option (List Char) :=
  (zhashx_lookup ctx.groups_events group).bind fun columns =>
    csv_row (fun value => decimal (read_uint64 value)) ctx.config.sensor_name columns entry

structure NulFreeTexts (ctx : csv_context) (entry : report_entry) : Prop where
  sensor_name : NulFree ctx.config.sensor_name
  target : NulFree entry.target
  socket : NulFree entry.socket
  cpu : NulFree entry.cpu

def start_length (ctx : csv_context) (entry : report_entry) : Nat :=
  (decimal entry.timestamp).length + ctx.config.sensor_name.length + entry.target.length +
    entry.socket.length + entry.cpu.length + 4

-- The start of the line fits, or no value is written behind it.
def StartFits (ctx : csv_context) (group : String) (entry : report_entry) : Prop :=
  ∀ columns, zhashx_lookup ctx.groups_events group = some columns →
    start_length ctx entry < CSV_LINE_BUFFER_SIZE ∨
      ∃ first rest, columns = first :: rest ∧
        (zhashx_lookup entry.events first = none ∨
          (start_length ctx entry - CSV_LINE_BUFFER_SIZE) % 2 ^ 64 = 0)

theorem length_row_start (ctx : csv_context) (entry : report_entry) :
    (row_start ctx entry).length = start_length ctx entry := by
  simp only [row_fixed, start_length, List.length_append, List.length_cons, String.length_toList]
  omega

theorem nul_not_mem_row_start (h : NulFreeTexts ctx entry) : nul ∉ row_start ctx entry := by
  have hcomma : nul ≠ ',' := by decide
  simp only [row_start, row_fixed, List.mem_append, List.mem_cons, not_or]
  exact ⟨⟨⟨⟨nul_not_mem_decimal _, hcomma, h.sensor_name⟩, hcomma, h.target⟩, hcomma, h.socket⟩,
    hcomma, h.cpu⟩

-- A size that has wrapped around is too large, unless nothing is left of it.
theorem size_t_sized_iff {pos : Nat} (h : CSV_LINE_BUFFER_SIZE ≤ pos) :
    size_t ((CSV_LINE_BUFFER_SIZE : Int) - pos) ≤ CSV_LINE_BUFFER_SIZE - pos ↔
      (pos - CSV_LINE_BUFFER_SIZE) % 2 ^ 64 = 0 := by
  unfold size_t CSV_LINE_BUFFER_SIZE at *
  omega

-- What is in the buffer when only the start of a row has been printed.
theorem read_row_start (stack : Memory) (h : NulFreeTexts ctx entry) :
    read_string ((assembly.start stack).snprintf (row_start ctx entry)).memory
        CSV_LINE_BUFFER_SIZE =
      (row_start ctx entry).take (CSV_LINE_BUFFER_SIZE - 1) := by
  have hreads := (holds_start stack).snprintf_reads (row_start ctx entry)
  refine hreads.read_string (fun hmem => nul_not_mem_row_start h (List.mem_of_mem_take hmem)) ?_
  rw [List.length_take]
  unfold CSV_LINE_BUFFER_SIZE
  omega

-- Without columns the position is never looked at, and the line is cut off.
theorem cut_off_without_columns (h : NulFreeTexts ctx entry)
    (hlong : CSV_LINE_BUFFER_SIZE ≤ (row_start ctx entry).length) :
    ¬StaysInBuffer (some (row_start ctx entry ++ []))
      (print_line written (0, (assembly.start stack).snprintf (row_start ctx entry))) := by
  intro hstays
  have hline :
      (print_line written (0, (assembly.start stack).snprintf (row_start ctx entry))).line =
        some ((row_start ctx entry).take (CSV_LINE_BUFFER_SIZE - 1)) :=
    congrArg some (read_row_start stack h)
  rcases hstays.whole with ⟨line, hprinted, hcomplete⟩ | ⟨hnone, -⟩
  · have hsame := Option.some.inj (hcomplete.trans (hprinted.symm.trans hline))
    have hlength := congrArg List.length hsame
    rw [List.append_nil, List.length_take] at hlength
    unfold CSV_LINE_BUFFER_SIZE at *
    omega
  · cases hline.symm.trans hnone

-- The first value is printed behind the buffer.
theorem value_behind_buffer_iff {complete : Option (List Char)} {events : zhashx event_value}
    {first : String} {rest : List String} {value : event_value}
    (hlong : CSV_LINE_BUFFER_SIZE ≤ (row_start ctx entry).length)
    (hvalue : zhashx_lookup events first = some value) :
    StaysInBuffer complete (print_line written (assemble_values events
        ((assembly.start stack).snprintf (row_start ctx entry)) (first :: rest))) ↔
      ((row_start ctx entry).length - CSV_LINE_BUFFER_SIZE) % 2 ^ 64 = 0 := by
  let s := (assembly.start stack).snprintf (row_start ctx entry)
  have hpos : s.pos = (row_start ctx entry).length := Nat.zero_add _
  have hvalues : assemble_values events s (first :: rest) =
      (-1, s.snprintf (',' :: decimal (read_uint64 value))) := by
    have hbehind :
        (s.snprintf (',' :: decimal (read_uint64 value))).pos ≥ CSV_LINE_BUFFER_SIZE := by
      simp only [assembly.snprintf]
      omega
    simp only [assemble_values, hvalue, if_pos hbehind]
  rw [hvalues, ← size_t_sized_iff hlong, ← hpos]
  constructor
  · exact fun hstays => hstays.sized _ (List.mem_append_right _ List.mem_cons_self)
  · refine fun hsized => .of_sized (fun call hcall => ?_) (Or.inr ⟨rfl, rfl⟩)
    rcases List.mem_append.mp hcall with hold | hnew
    · exact (holds_start stack).snprintf_sized _ call hold
    · obtain rfl := List.mem_singleton.mp hnew
      exact hsized

theorem events_value_stays_iff (stack : Memory) (written : Int) (group : String)
    (h : NulFreeTexts ctx entry) :
    StaysInBuffer (complete_row ctx group entry)
      (events_value_outcome stack written ctx group entry) ↔ StartFits ctx group entry := by
  unfold events_value_outcome complete_row StartFits
  rw [← length_row_start]
  cases hcolumns : zhashx_lookup ctx.groups_events group with
  | none => exact ⟨nofun, fun _ => ⟨nofun, nofun, Or.inr ⟨rfl, rfl⟩⟩⟩
  | some columns =>
      simp only [Option.some.injEq, forall_eq', Option.bind_some]
      by_cases hroom : (row_start ctx entry).length < CSV_LINE_BUFFER_SIZE
      · refine iff_of_true ?_ (Or.inl hroom)
        obtain ⟨hsized, hline⟩ := assemble_values_holds entry.events columns
          ((holds_start stack).snprintf (nul_not_mem_row_start h) hroom)
        refine .of_sized hsized (print_line_whole fun line hsome => ?_)
        rw [hline] at hsome
        obtain ⟨text, htext, hfits⟩ := Option.bind_eq_some_iff.mp hsome
        rw [csv_row, htext, eq_of_fitting hfits]
        rfl
      · have hlong := Nat.le_of_not_lt hroom
        cases columns with
        | nil => exact iff_of_false (cut_off_without_columns h hlong) (by simp [hroom])
        | cons first rest =>
            cases hvalue : zhashx_lookup entry.events first with
            | none =>
                refine iff_of_true ?_ (Or.inr ⟨first, rest, rfl, Or.inl hvalue⟩)
                have hvalues : ∀ s, assemble_values entry.events s (first :: rest) = (-1, s) :=
                  fun s => by simp only [assemble_values, hvalue]
                rw [hvalues]
                exact .of_sized ((holds_start stack).snprintf_sized _) (Or.inr ⟨rfl, rfl⟩)
            | some value =>
                refine (value_behind_buffer_iff hlong hvalue).trans ?_
                simp [hroom, hvalue]

-- The lines are those of the buffer that is no more than a text and a position.
theorem group_header_outcome_line (stack : Memory) (written : Int) {events : zhashx event_value}
    (hnames : ∀ name ∈ zhashx_keys events, NulFree name) :
    (group_header_outcome stack written events).line =
      (append_names (line_buffer.snprintf ⟨[], 0⟩ header_fixed) (sorted_names events)).map
        line_buffer.text := by
  rw [append_names_text (sorted_names events) (shows_empty.snprintf header_fixed)
    (Or.inr (by decide))]
  exact (assemble_names_holds (fun name hname => hnames name (mem_sorted_names.mp hname))
    (holds_header_fixed stack)).2

theorem assembled_values_line (stack : Memory) (events : zhashx event_value)
    (columns : List String) (h : NulFreeTexts ctx entry) :
    assembled_line (assemble_values events
        ((assembly.start stack).snprintf (row_start ctx entry)) columns) =
      (append_values events (line_buffer.snprintf ⟨[], 0⟩ (row_start ctx entry)) columns).map
        line_buffer.text := by
  by_cases hroom : (row_start ctx entry).length < CSV_LINE_BUFFER_SIZE
  · have htext := append_values_text events columns (shows_empty.snprintf (row_start ctx entry))
      (Or.inr hroom)
    have hline := (assemble_values_holds events columns
      ((holds_start stack).snprintf (nul_not_mem_row_start h) hroom)).2
    exact hline.trans htext.symm
  · cases columns with
    | nil => exact congrArg some (read_row_start stack h)
    | cons first rest =>
        cases hvalue : zhashx_lookup events first with
        | none => simp only [assemble_values, append_values, hvalue]; rfl
        | some value =>
            have hbehind : 0 + (row_start ctx entry).length +
                (',' :: decimal (read_uint64 value)).length ≥ CSV_LINE_BUFFER_SIZE := by omega
            have hpos : (((assembly.start stack).snprintf (row_start ctx entry)).snprintf
                (',' :: decimal (read_uint64 value))).pos ≥ CSV_LINE_BUFFER_SIZE := hbehind
            have hpos' : ((line_buffer.snprintf ⟨[], 0⟩ (row_start ctx entry)).snprintf
                (',' :: decimal (read_uint64 value))).pos ≥ CSV_LINE_BUFFER_SIZE := hbehind
            simp only [assemble_values, append_values, hvalue]
            rw [if_pos hpos, if_pos hpos']
            rfl

theorem write_events_value_eq (stack : Memory) (written : Int) (group : String) (file : Nat)
    (h : NulFreeTexts ctx entry) :
    write_events_value ctx group file entry.timestamp entry.target entry.socket entry.cpu
        entry.events =
      (match (events_value_outcome stack written ctx group entry).line with
      | none => pure (-1)
      | some line => do
          let written ← fprintf file (line ++ ['\n'])
          if written < 0 then pure (-1) else pure 0) := by
  unfold write_events_value events_value_outcome
  cases hcolumns : zhashx_lookup ctx.groups_events group with
  | none => rfl
  | some columns =>
      have hline := assembled_values_line stack entry.events columns h
      simp only [print_line]
      rw [hline]
      cases append_values entry.events (line_buffer.snprintf ⟨[], 0⟩ (row_start ctx entry)) columns
      · rfl
      · rfl

end Row

-- Only the start of a row goes unchecked.
theorem lines_stay_in_buffer_iff (stack : Memory) (written : Int) :
    (∀ events, (∀ name ∈ zhashx_keys events, NulFree name) →
      StaysInBuffer (some (header_line (sorted_names events)))
        (group_header_outcome stack written events)) ∧
    ∀ ctx group entry, NulFreeTexts ctx entry →
      (StaysInBuffer (complete_row ctx group entry)
        (events_value_outcome stack written ctx group entry) ↔ StartFits ctx group entry) :=
  ⟨fun _ hnames => group_header_stays stack written hnames,
    fun _ group _ hstrings => events_value_stays_iff stack written group hstrings⟩

def cycles_ctx : csv_context :=
  { csv_context_create "sensor" "/tmp/hwpc" with groups_events := [("core", ["cycles"])] }

def cycles_entry (target : String) : report_entry :=
  ⟨1538327257673, target, "0", "7", [("cycles", .counter 5996)]⟩

theorem cycles_strings {target : String} (htarget : NulFree target) :
    NulFreeTexts cycles_ctx (cycles_entry target) where
  sensor_name := by decide
  target := htarget
  socket := (by decide : NulFree "0")
  cpu := (by decide : NulFree "7")

theorem lines_stay_in_buffer_all (stack : Memory) :
    StaysInBuffer (some "timestamp,sensor,target,socket,cpu,cycles".toList)
        (group_header_outcome stack 42 (cycles_entry "all").events) ∧
      StaysInBuffer (some "1538327257673,sensor,all,0,7,5996".toList)
        (events_value_outcome stack 33 cycles_ctx "core" (cycles_entry "all")) := by
  have hstrings := cycles_strings (by decide : NulFree "all")
  refine ⟨(lines_stay_in_buffer_iff stack 42).1 (cycles_entry "all").events (by decide),
    ((lines_stay_in_buffer_iff stack 33).2 cycles_ctx "core" (cycles_entry "all") hstrings).mpr ?_⟩
  intro columns hcolumns
  exact Or.inl (by decide)

theorem long_target_leaves_buffer {target : String} (htarget : NulFree target)
    (hlong : CSV_LINE_BUFFER_SIZE ≤ target.toList.length) (hlimit : target.toList.length < 2 ^ 32)
    (stack : Memory) (written : Int) :
    ¬StaysInBuffer (complete_row cycles_ctx "core" (cycles_entry target))
      (events_value_outcome stack written cycles_ctx "core" (cycles_entry target)) := by
  have hfixed : (decimal 1538327257673).length = 13 ∧ "sensor".length = 6 ∧ "0".length = 1 ∧
      "7".length = 1 := by decide
  have hlength : start_length cycles_ctx (cycles_entry target) = target.toList.length + 25 := by
    simp only [start_length, cycles_entry, cycles_ctx, csv_context_create, hfixed,
      String.length_toList]
    omega
  intro hstays
  have hfits := (events_value_stays_iff stack written "core" (cycles_strings htarget)).mp hstays
  rcases hfits ["cycles"] rfl with hshort | ⟨first, rest, hcolumns, hvalue⟩
  · omega
  · obtain ⟨rfl, -⟩ := List.cons.inj hcolumns
    rcases hvalue with hnone | hwrapped
    · cases hnone
    · rw [hlength] at hwrapped
      unfold CSV_LINE_BUFFER_SIZE at *
      omega

-- The name of a target without another one: as many directories with names of this
-- length.
def directories (count length : Nat) : String :=
  String.ofList (List.replicate count ('/' :: List.replicate length 'a')).flatten

theorem length_directories (count length : Nat) :
    (directories count length).toList.length = count * (length + 1) := by
  simp [directories]

theorem directories_C_string (count length : Nat) : NulFree (directories count length) := by
  intro hmem
  rw [directories, String.toList_ofList] at hmem
  obtain ⟨name, hname, hnul⟩ := List.mem_flatten.mp hmem
  obtain rfl := List.eq_of_mem_replicate hname
  rcases List.mem_cons.mp hnul with hslash | hletter
  · exact absurd hslash (by decide)
  · exact absurd (List.eq_of_mem_replicate hletter) (by decide)

theorem directories_leave_buffer :
    ¬ ∀ (stack : Memory) (written : Int) (ctx : csv_context) (group : String)
      (entry : report_entry), NulFreeTexts ctx entry →
      StaysInBuffer (complete_row ctx group entry)
        (events_value_outcome stack written ctx group entry) := by
  intro hclaim
  have hlength := length_directories 5 220
  refine long_target_leaves_buffer (directories_C_string 5 220) (by rw [hlength]; decide)
    (by omega) (fun _ => nul) 0 ?_
  exact hclaim _ _ _ _ _ (cycles_strings (directories_C_string 5 220))

end HwpcSensor.Storage
