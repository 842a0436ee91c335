import HwpcSensor.Storage.Csv.Lemmas

namespace HwpcSensor.Storage

open Interaction

-- What is known of one group: either it has no columns and its file, if it has
-- one, is empty, or its file holds the header and the rows of its entries.
def Recorded (ctx : csv_context) (files : csv_files) (group : String) :
    List report_entry → Prop
  | [] => zhashx_lookup ctx.groups_events group = none ∧
      ∀ file, zhashx_lookup ctx.groups_fd group = some file →
        files[file]? = some (outfile_path ctx group, [])
  | first :: rest => ∃ file rows, zhashx_lookup ctx.groups_fd group = some file ∧
      zhashx_lookup ctx.groups_events group = some (sorted_names first.events) ∧
      (first :: rest).map (stored_row ctx.config.sensor_name (sorted_names first.events)) =
        rows.map some ∧
      files[file]? = some (outfile_path ctx group,
        (header_line (sorted_names first.events) :: rows).map (· ++ ['\n']))

-- `history` lists the entries that each group has got so far.
structure Consistent (ctx : csv_context) (files : csv_files)
    (history : String → List report_entry) : Prop where
  fd_nodup : (zhashx_keys ctx.groups_fd).Nodup
  events_nodup : (zhashx_keys ctx.groups_events).Nodup
  paths_nodup : (files.map Prod.fst).Nodup
  recorded : ∀ group, Recorded ctx files group (history group)
  unopened : ∀ group, zhashx_lookup ctx.groups_fd group = none →
    outfile_path ctx group ∉ files.map Prod.fst

theorem consistent_create (sensor_name output_dir : String) :
    Consistent (csv_context_create sensor_name output_dir) [] fun _ => [] := by
  refine ⟨List.nodup_nil, List.nodup_nil, List.nodup_nil, fun group => ⟨rfl, ?_⟩,
    fun group _ => by simp⟩
  intro file hfile
  exact absurd hfile (by simp [csv_context_create, zhashx_lookup])

theorem outfile_path_injective {ctx : csv_context} {group other : String}
    (h : outfile_path ctx group = outfile_path ctx other) : group = other := by
  have hlist := congrArg String.toList h
  simp only [outfile_path, String.toList_append, List.append_assoc] at hlist
  exact String.toList_inj.mp
    (List.append_cancel_right (List.append_cancel_left (List.append_cancel_left hlist)))

theorem Recorded.file_eq {ctx : csv_context} {files : csv_files} {group : String}
    {entries : List report_entry} (h : Recorded ctx files group entries) {file : Nat}
    (hfile : zhashx_lookup ctx.groups_fd group = some file) :
    ∃ lines, files[file]? = some (outfile_path ctx group, lines) := by
  cases entries with
  | nil => exact ⟨_, h.2 file hfile⟩
  | cons first rest =>
      obtain ⟨file', rows, hfile', -, -, hlines⟩ := h
      obtain rfl : file' = file := Option.some.inj (hfile'.symm.trans hfile)
      exact ⟨_, hlines⟩

theorem emit_self {files : csv_files} {file : Nat} {path : String} {lines : List (List Char)}
    (h : files[file]? = some (path, lines)) (line : List Char) :
    (files.emit file line)[file]? = some (path, lines ++ [line]) := by
  simp [csv_files.emit, h]

theorem emit_other {files : csv_files} {file other : Nat} (hne : file ≠ other)
    (line : List Char) : (files.emit file line)[other]? = files[other]? := by
  simp [csv_files.emit, hne]

theorem emit_paths (files : csv_files) (file : Nat) (line : List Char) :
    (files.emit file line).map Prod.fst = files.map Prod.fst := by
  unfold csv_files.emit
  induction files generalizing file with
  | nil => simp
  | cons entry rest ih =>
      cases file with
      | zero => rfl
      | succ file => simpa using ih file

theorem Recorded.frame {ctx ctx' : csv_context} {files files' : csv_files} {group : String}
    {entries : List report_entry} (h : Recorded ctx files group entries)
    (hconfig : ctx'.config = ctx.config)
    (hfd : zhashx_lookup ctx'.groups_fd group = zhashx_lookup ctx.groups_fd group)
    (hevents : zhashx_lookup ctx'.groups_events group = zhashx_lookup ctx.groups_events group)
    (hfiles : ∀ file, zhashx_lookup ctx.groups_fd group = some file →
      files'[file]? = files[file]?) : Recorded ctx' files' group entries := by
  have hpath : outfile_path ctx' group = outfile_path ctx group := by
    rw [outfile_path, outfile_path, hconfig]
  cases entries with
  | nil =>
      refine ⟨hevents.trans h.1, fun file hfile => ?_⟩
      rw [hfd] at hfile
      rw [hfiles file hfile, hpath]
      exact h.2 file hfile
  | cons first rest =>
      obtain ⟨file, rows, hfile, hcolumns, hrows, hlines⟩ := h
      refine ⟨file, rows, hfd.trans hfile, hevents.trans hcolumns, hconfig ▸ hrows, ?_⟩
      rw [hfiles file hfile, hpath]
      exact hlines

-- Two groups never share a stream.
theorem Consistent.file_ne {ctx : csv_context} {files : csv_files}
    {history : String → List report_entry} (h : Consistent ctx files history)
    {group other : String} {file file' : Nat} (hne : other ≠ group)
    (hfile : zhashx_lookup ctx.groups_fd group = some file)
    (hother : zhashx_lookup ctx.groups_fd other = some file') : file ≠ file' := by
  rintro rfl
  obtain ⟨lines, hlines⟩ := (h.recorded group).file_eq hfile
  obtain ⟨lines', hlines'⟩ := (h.recorded other).file_eq hother
  have heq := Option.some.inj (hlines.symm.trans hlines')
  exact hne (outfile_path_injective (Prod.mk.inj heq).1).symm

-- What a part of a report leaves behind that went well: its entries have been
-- written to the file of the group.
structure Extended (s : store_state) (history : String → List report_entry) (group : String)
    (entries : List report_entry) (s' : store_state) (files' : csv_files) : Prop where
  consistent : Consistent s'.ctx files' (Function.update history group (history group ++ entries))
  config_eq : s'.ctx.config = s.ctx.config
  fd_eq : s'.ctx.groups_fd = s.ctx.groups_fd
  flag : s'.write_header = (history group ++ entries).isEmpty

-- Every line of the group fits the buffer, and every entry has all the columns.
def Accepted (sensor_name : String) (entries : List report_entry) : Prop :=
  ∀ entry ∈ entries, (fitting (header_line (columns_of entries))).isSome ∧
    (stored_row sensor_name (columns_of entries) entry).isSome

theorem Accepted.of_append {sensor_name : String} {entries more : List report_entry}
    (h : Accepted sensor_name (entries ++ more)) : Accepted sensor_name entries := by
  intro entry hentry
  cases entries with
  | nil => simp at hentry
  | cons first rest => exact h entry (List.mem_append_left _ hentry)

theorem Consistent.extend {ctx ctx' : csv_context} {files files' : csv_files}
    {history : String → List report_entry} (h : Consistent ctx files history) {group : String}
    {file : Nat} {entries : List report_entry}
    (hfile : zhashx_lookup ctx.groups_fd group = some file)
    (hconfig : ctx'.config = ctx.config) (hfd : ctx'.groups_fd = ctx.groups_fd)
    (hnodup : (zhashx_keys ctx'.groups_events).Nodup)
    (hevents : ∀ other, other ≠ group →
      zhashx_lookup ctx'.groups_events other = zhashx_lookup ctx.groups_events other)
    (hother : ∀ i, file ≠ i → files'[i]? = files[i]?)
    (hpaths : files'.map Prod.fst = files.map Prod.fst)
    (hrecorded : Recorded ctx' files' group entries) :
    Consistent ctx' files' (Function.update history group entries) := by
  refine ⟨hfd ▸ h.fd_nodup, hnodup, hpaths ▸ h.paths_nodup, fun other => ?_,
    fun other hnone => ?_⟩
  · by_cases hne : other = group
    · subst hne
      rwa [Function.update_self]
    · rw [Function.update_of_ne hne]
      exact (h.recorded other).frame hconfig (by rw [hfd]) (hevents other hne)
        fun file' hfile' => hother file' (h.file_ne hne hfile hfile')
  · rw [hpaths]
    rw [hfd] at hnone
    have hpath : outfile_path ctx' other = outfile_path ctx other := by
      rw [outfile_path, outfile_path, hconfig]
    rw [hpath]
    exact h.unopened other hnone

section

variable (order : hash_order) {s : store_state} {files : csv_files}
  {history : String → List report_entry} {group : String} {file : Nat}

theorem sorted_names_ne_nil {events : zhashx event_value} (h : events ≠ []) :
    sorted_names events ≠ [] := by
  intro hnil
  have hlength := (List.perm_insertionSort (· ≤ ·) (zhashx_keys events)).length_eq
  rw [show (zhashx_keys events).insertionSort (· ≤ ·) = [] from hnil] at hlength
  simp only [List.length_nil, zhashx_keys, List.length_map] at hlength
  exact h (List.length_eq_zero_iff.mp hlength.symm)

-- The first entry of a group writes the header and its own row.
theorem store_first_spec (h : Consistent s.ctx files history)
    (hfile : zhashx_lookup s.ctx.groups_fd group = some file) (hflag : s.write_header = true)
    (hfirst : history group = []) {entry : report_entry} (hne : entry.events ≠ [])
    {result : (Int × store_state) × csv_files}
    (hresult : (store_cpu order group file entry.timestamp entry.target entry.socket entry.cpu
      ⟨entry.events⟩ s).run csv_files.handler files = result) :
    (result.1.1 = 0 → Extended s history group [entry] result.1.2 result.2) ∧
      (Accepted s.ctx.config.sensor_name [entry] → result.1.1 = 0) := by
  subst hresult
  have hrecorded := h.recorded group
  rw [hfirst] at hrecorded
  have hcolumns : zhashx_lookup (zhashx_insert order s.ctx.groups_events group
      (sorted_names entry.events)) group = some (sorted_names entry.events) := by
    rw [zhashx_lookup_insert order h.events_nodup, if_pos rfl, hrecorded.1]
    rfl
  rw [store_cpu, if_pos hflag, Prog.run_bind,
    run_write_group_header order file (sorted_names_ne_nil hne)]
  cases hheader : fitting (header_line (sorted_names entry.events)) with
  | none =>
      refine ⟨of_failed, fun haccepted => ?_⟩
      have hsome := (haccepted entry (List.mem_singleton_self entry)).1
      rw [columns_of, hheader] at hsome
      exact absurd hsome (by decide)
  | some line =>
      obtain rfl := eq_of_fitting hheader
      dsimp only
      rw [if_neg (by decide), Prog.run_bind,
        run_write_events_value file (sorted_names_ne_nil hne) hcolumns entry]
      cases hrow : stored_row s.ctx.config.sensor_name (sorted_names entry.events) entry with
      | none =>
          refine ⟨of_failed, fun haccepted => ?_⟩
          have hsome := (haccepted entry (List.mem_singleton_self entry)).2
          rw [columns_of, hrow] at hsome
          exact absurd hsome (by decide)
      | some row =>
          dsimp only
          rw [if_neg (by decide), Prog.run_pure]
          refine ⟨fun _ => ?_, fun _ => rfl⟩
          refine ⟨?_, rfl, rfl, by rw [hfirst]; rfl⟩
          rw [hfirst]
          refine h.extend hfile rfl rfl (nodup_zhashx_insert order h.events_nodup _ _) ?_ ?_ ?_ ?_
          · intro other hother
            exact (zhashx_lookup_insert order h.events_nodup _ _ other).trans
              (if_neg hother.symm)
          · intro i hi
            exact (emit_other hi _).trans (emit_other hi _)
          · exact (emit_paths _ file _).trans (emit_paths _ file _)
          · refine ⟨file, [row], hfile, hcolumns, by simp [hrow], ?_⟩
            exact emit_self (emit_self (hrecorded.2 file hfile) _) _

-- A later entry of a group writes its row under the columns there are.
theorem store_next_spec (h : Consistent s.ctx files history)
    (hfile : zhashx_lookup s.ctx.groups_fd group = some file) (hflag : s.write_header = false)
    {first : report_entry} {rest : List report_entry} (hhistory : history group = first :: rest)
    (hfirst : first.events ≠ []) (entry : report_entry)
    {result : (Int × store_state) × csv_files}
    (hresult : (store_cpu order group file entry.timestamp entry.target entry.socket entry.cpu
      ⟨entry.events⟩ s).run csv_files.handler files = result) :
    (result.1.1 = 0 → Extended s history group [entry] result.1.2 result.2) ∧
      (Accepted s.ctx.config.sensor_name (history group ++ [entry]) → result.1.1 = 0) := by
  subst hresult
  have hrecorded := h.recorded group
  rw [hhistory] at hrecorded
  obtain ⟨file', rows, hfile', hcolumns, hrows, hlines⟩ := hrecorded
  obtain rfl : file' = file := Option.some.inj (hfile'.symm.trans hfile)
  rw [store_cpu, if_neg (by simp [hflag]), Prog.run_bind, Prog.run_pure]
  dsimp only
  rw [if_neg (by decide), Prog.run_bind,
    run_write_events_value file' (sorted_names_ne_nil hfirst) hcolumns entry]
  cases hrow : stored_row s.ctx.config.sensor_name (sorted_names first.events) entry with
  | none =>
      refine ⟨of_failed, fun haccepted => ?_⟩
      have hsome := (haccepted entry (by simp)).2
      rw [hhistory, List.cons_append, columns_of, hrow] at hsome
      exact absurd hsome (by decide)
  | some row =>
      dsimp only
      rw [if_neg (by decide), Prog.run_pure]
      refine ⟨fun _ => ?_, fun _ => rfl⟩
      refine ⟨?_, rfl, rfl, by rw [hhistory]; rfl⟩
      refine h.extend hfile rfl rfl h.events_nodup (fun _ _ => rfl) ?_ (emit_paths _ _ _) ?_
      · exact fun i hi => emit_other hi _
      · rw [hhistory]
        refine ⟨file', rows ++ [row], hfile, hcolumns, ?_, ?_⟩
        · have hlast := congrArg (· ++ [some row]) hrows
          simpa [hrow] using hlast
        · have hemit := emit_self hlines (row ++ ['\n'])
          simpa using hemit

-- Where the loops stand between two entries of a group: a header is due exactly
-- while the group has no entry.
structure Ready (s : store_state) (files : csv_files) (history : String → List report_entry)
    (group : String) (file : Nat) : Prop where
  consistent : Consistent s.ctx files history
  opened : zhashx_lookup s.ctx.groups_fd group = some file
  flag : s.write_header = (history group).isEmpty
  filled : ∀ entry ∈ history group, entry.events ≠ []

-- A part of the loops stores these entries: it fails, or it has written them,
-- and it does not fail on entries that are accepted.
def Stores (group : String) (file : Nat) (entries : List report_entry)
    (program : store_state → csv_program (Int × store_state)) : Prop :=
  ∀ s files history, Ready s files history group file →
    ∀ result, (program s).run csv_files.handler files = result →
      (result.1.1 = 0 → Extended s history group entries result.1.2 result.2) ∧
        (Accepted s.ctx.config.sensor_name (history group ++ entries) → result.1.1 = 0)

theorem Extended.ready {entries : List report_entry} {s' : store_state} {files' : csv_files}
    (h : Extended s history group entries s' files') (hready : Ready s files history group file)
    (hentries : ∀ entry ∈ entries, entry.events ≠ []) :
    Ready s' files' (Function.update history group (history group ++ entries)) group file := by
  refine ⟨h.consistent, h.fd_eq ▸ hready.opened, ?_, ?_⟩
  · rw [Function.update_self]
    exact h.flag
  · rw [Function.update_self]
    intro entry hentry
    rcases List.mem_append.mp hentry with hold | hnew
    · exact hready.filled entry hold
    · exact hentries entry hnew

theorem stores_nil (group : String) (file : Nat) :
    Stores group file [] fun s => pure (0, s) := by
  rintro s files history hready result rfl
  refine ⟨fun _ => ⟨?_, rfl, rfl, ?_⟩, fun _ => rfl⟩
  · rw [List.append_nil, Function.update_eq_self]
    exact hready.consistent
  · rw [List.append_nil]
    exact hready.flag

theorem stores_cpu (entry : report_entry) (hne : entry.events ≠ []) :
    Stores group file [entry] (store_cpu order group file entry.timestamp entry.target
      entry.socket entry.cpu ⟨entry.events⟩) := by
  intro s files history hready result hresult
  cases hhistory : history group with
  | nil =>
      have hflag := hready.flag
      rw [hhistory] at hflag
      exact store_first_spec order hready.consistent hready.opened hflag hhistory hne hresult
  | cons first rest =>
      have hflag := hready.flag
      rw [hhistory] at hflag
      have hfirst := hready.filled first (by rw [hhistory]; exact List.mem_cons_self)
      have hspec := store_next_spec order hready.consistent hready.opened hflag hhistory hfirst
        entry hresult
      rwa [hhistory] at hspec

theorem Stores.seq {entries more : List report_entry}
    {program rest : store_state → csv_program (Int × store_state)}
    (h : Stores group file entries program) (hentries : ∀ entry ∈ entries, entry.events ≠ [])
    (hrest : Stores group file more rest) :
    Stores group file (entries ++ more) (fun s => do
      let stored ← program s
      if stored.1 ≠ 0 then pure (-1, stored.2) else rest stored.2) := by
  rintro s files history hready result rfl
  obtain ⟨hextended, haccepted⟩ := h s files history hready _ rfl
  rw [Prog.run_bind]
  generalize (program s).run csv_files.handler files = stored at hextended haccepted ⊢
  by_cases herr : stored.1.1 = 0
  · have hstored := hextended herr
    obtain ⟨hextended', haccepted'⟩ := hrest stored.1.2 stored.2 _
      (hstored.ready hready hentries) _ rfl
    rw [Function.update_self, List.append_assoc] at haccepted'
    rw [if_neg (by simpa using herr)]
    refine ⟨fun hzero => ?_, fun hall => haccepted' (hstored.config_eq ▸ hall)⟩
    have hlast := hextended' hzero
    refine ⟨?_, hlast.config_eq.trans hstored.config_eq, hlast.fd_eq.trans hstored.fd_eq, ?_⟩
    · have hconsistent := hlast.consistent
      rwa [Function.update_self, Function.update_idem, List.append_assoc] at hconsistent
    · have hflag := hlast.flag
      rwa [Function.update_self, List.append_assoc] at hflag
  · rw [if_pos herr, Prog.run_pure]
    refine ⟨of_failed, fun hall => ?_⟩
    refine absurd (haccepted ?_) herr
    rw [← List.append_assoc] at hall
    exact hall.of_append

theorem stores_cpus (timestamp : Nat) (target socket : String) (cpus : zhashx payload_cpu_data)
    (hne : ∀ entry ∈ pkg_entries timestamp target socket cpus, entry.events ≠ []) :
    Stores group file (pkg_entries timestamp target socket cpus)
      (store_cpus order group file timestamp target socket cpus) := by
  induction cpus with
  | nil => exact stores_nil group file
  | cons cpu rest ih =>
      have hfirst : ∀ entry ∈ [(⟨timestamp, target, socket, cpu.1, cpu.2.events⟩ : report_entry)],
          entry.events ≠ [] := by
        intro entry hentry
        rw [List.mem_singleton] at hentry
        exact hne entry (by rw [hentry]; exact List.mem_cons_self)
      exact (stores_cpu order _ (hfirst _ List.mem_cons_self)).seq hfirst
        (ih fun entry hentry => hne entry (List.mem_cons_of_mem _ hentry))

theorem stores_pkgs (timestamp : Nat) (target : String) (pkgs : zhashx payload_pkg_data)
    (hne : ∀ entry ∈ group_entries timestamp target pkgs, entry.events ≠ []) :
    Stores group file (group_entries timestamp target pkgs)
      (store_pkgs order group file timestamp target pkgs) := by
  induction pkgs with
  | nil => exact stores_nil group file
  | cons pkg rest ih =>
      have hpkg : ∀ entry ∈ pkg_entries timestamp target pkg.1 pkg.2.cpus, entry.events ≠ [] :=
        fun entry hentry => hne entry (List.mem_append_left _ hentry)
      exact (stores_cpus order timestamp target pkg.1 pkg.2.cpus hpkg).seq hpkg
        (ih fun entry hentry => hne entry (List.mem_append_right _ hentry))

end

end HwpcSensor.Storage
