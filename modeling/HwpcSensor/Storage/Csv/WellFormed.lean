import HwpcSensor.Storage.Csv.Disk
import HwpcSensor.Storage.Csv.Run

namespace HwpcSensor.Storage

open Interaction Prog

section

variable {sensor_name output_dir : String} {before : csv_disk}
  {total entries : String → List report_entry}

-- What the module knows of its files when it has come past these of all entries. A
-- file has got its header exactly when the columns of its group are known.
structure Kept (sensor_name output_dir : String) (before : csv_disk)
    (total entries : String → List report_entry) (ctx : csv_context) (disk : csv_disk) :
    Prop where
  within : ∀ group, (entries group).Sublist (total group)
  config_eq : ctx.config = ⟨sensor_name, output_dir⟩
  fd_nodup : (zhashx_keys ctx.groups_fd).Nodup
  events_nodup : (zhashx_keys ctx.groups_events).Nodup
  opened : ∀ group file, zhashx_lookup ctx.groups_fd group = some file →
    disk.streams file = some (outfile_path ctx group) ∧
      before.files (outfile_path ctx group) = none
  known : ∀ group columns, zhashx_lookup ctx.groups_events group = some columns →
    zhashx_lookup ctx.groups_fd group ≠ none
  old : ∀ group content, before.files (outfile_path ctx group) = some content →
    disk.files (outfile_path ctx group) = some content
  recorded : ∀ group content, before.files (outfile_path ctx group) = none →
    disk.files (outfile_path ctx group) = some content →
    match zhashx_lookup ctx.groups_events group with
    | none => content = []
    | some columns => HasRows sensor_name columns (entries group) content

variable {ctx : csv_context} {disk disk' : csv_disk} {group : String} {file : Nat}

theorem Kept.sound (h : Kept sensor_name output_dir before total entries ctx disk) :
    Sound sensor_name output_dir before total disk := by
  intro group
  have hpath : outfile_path (csv_context_create sensor_name output_dir) group =
      outfile_path ctx group := outfile_path_congr h.config_eq.symm group
  rw [hpath]
  refine ⟨h.old group, fun hnew content hcontent => ?_⟩
  have hrecorded := h.recorded group content hnew hcontent
  cases hcolumns : zhashx_lookup ctx.groups_events group with
  | none =>
      rw [hcolumns] at hrecorded
      exact Or.inl hrecorded
  | some columns =>
      rw [hcolumns] at hrecorded
      exact Or.inr ⟨columns, hrecorded.mono (h.within group)⟩

theorem kept_create (sensor_name output_dir : String) (before : csv_disk)
    (total : String → List report_entry) :
    Kept sensor_name output_dir before total (fun _ => [])
      (csv_context_create sensor_name output_dir) before := by
  refine ⟨fun _ => List.nil_sublist _, rfl, List.nodup_nil, List.nodup_nil,
    fun group file hfile => ?_, fun group columns hcolumns => ?_, fun _ _ hcontent => hcontent,
    fun group content hnone hsome => ?_⟩
  · simp [csv_context_create, zhashx_lookup] at hfile
  · simp [csv_context_create, zhashx_lookup] at hcolumns
  · exact absurd (hnone.symm.trans hsome) (by simp)

-- Descriptors are of no concern once their streams are there.
theorem Kept.frame (h : Kept sensor_name output_dir before total entries ctx disk)
    (hfiles : disk'.files = disk.files) (hstreams : disk'.streams = disk.streams) :
    Kept sensor_name output_dir before total entries ctx disk' :=
  ⟨h.within, h.config_eq, h.fd_nodup, h.events_nodup, hstreams ▸ h.opened, h.known,
    hfiles ▸ h.old, hfiles ▸ h.recorded⟩

-- Entries that are passed over leave the files as they are.
theorem Kept.pass {later : String → List report_entry}
    (h : Kept sensor_name output_dir before total entries ctx disk)
    (hsub : ∀ group, (entries group).Sublist (later group))
    (hwithin : ∀ group, (later group).Sublist (total group)) :
    Kept sensor_name output_dir before total later ctx disk := by
  refine { h with within := hwithin, recorded := fun group content hnew hcontent => ?_ }
  have hrecorded := h.recorded group content hnew hcontent
  cases hcolumns : zhashx_lookup ctx.groups_events group with
  | none =>
      rw [hcolumns] at hrecorded
      exact hrecorded
  | some columns =>
      rw [hcolumns] at hrecorded
      exact hrecorded.mono (hsub group)

-- A group without a file has no columns.
theorem Kept.no_columns (h : Kept sensor_name output_dir before total entries ctx disk)
    (hnone : zhashx_lookup ctx.groups_fd group = none) :
    zhashx_lookup ctx.groups_events group = none := by
  cases hcolumns : zhashx_lookup ctx.groups_events group with
  | none => rfl
  | some columns => exact absurd hnone (h.known group columns hcolumns)

-- The file of the group has been created.
theorem Kept.create {fd : Int} (h : Kept sensor_name output_dir before total entries ctx disk)
    (hnone : zhashx_lookup ctx.groups_fd group = none)
    (hopens : disk.Opens (outfile_path ctx group) fd disk') :
    Kept sensor_name output_dir before total entries ctx disk' ∧
      (fd ≠ -1 → disk'.fds fd = some (outfile_path ctx group) ∧
        before.files (outfile_path ctx group) = none) := by
  rcases hopens with ⟨rfl, rfl⟩ | ⟨-, hnew, -, rfl⟩
  · exact ⟨h, fun hne => absurd rfl hne⟩
  · have hbefore : before.files (outfile_path ctx group) = none := by
      cases hold : before.files (outfile_path ctx group) with
      | none => rfl
      | some content => exact absurd (hnew.symm.trans (h.old group content hold)) (by simp)
    refine ⟨⟨h.within, h.config_eq, h.fd_nodup, h.events_nodup, h.opened, h.known, ?_, ?_⟩,
      fun _ => ⟨Function.update_self _ _ _, hbefore⟩⟩
    · intro other content hcontent
      have hne : outfile_path ctx other ≠ outfile_path ctx group := by
        intro heq
        rw [heq, hbefore] at hcontent
        exact absurd hcontent (by simp)
      exact (Function.update_of_ne hne _ _).trans (h.old other content hcontent)
    · intro other content hother hcontent
      by_cases heq : other = group
      · subst heq
        have hempty : some [] = some content :=
          (Function.update_self (outfile_path ctx other) _ disk.files).symm.trans hcontent
        obtain rfl := Option.some.inj hempty
        rw [h.no_columns hnone]
      · have hne : outfile_path ctx other ≠ outfile_path ctx group :=
          fun hpath => heq (outfile_path_injective hpath)
        exact h.recorded other content hother ((Function.update_of_ne hne _ _).symm.trans hcontent)

-- The group has got its stream.
theorem Kept.connect (order : hash_order)
    (h : Kept sensor_name output_dir before total entries ctx disk)
    (hnone : zhashx_lookup ctx.groups_fd group = none)
    (hbefore : before.files (outfile_path ctx group) = none)
    (hfree : disk.streams file = none) :
    Kept sensor_name output_dir before total entries
      { ctx with groups_fd := zhashx_insert order ctx.groups_fd group file }
      { disk with streams := Function.update disk.streams file (some (outfile_path ctx group)) } :=
    by
  have hlookup : ∀ other, zhashx_lookup (zhashx_insert order ctx.groups_fd group file) other =
      if group = other then some file else zhashx_lookup ctx.groups_fd other := by
    intro other
    rw [zhashx_lookup_insert order h.fd_nodup, hnone]
    rfl
  refine ⟨h.within, h.config_eq, nodup_zhashx_insert order h.fd_nodup _ _, h.events_nodup, ?_, ?_,
    h.old, h.recorded⟩
  · intro other file' hfile'
    rw [hlookup] at hfile'
    split_ifs at hfile' with heq
    · subst heq
      obtain rfl := Option.some.inj hfile'
      exact ⟨Function.update_self _ _ _, hbefore⟩
    · obtain ⟨hstream, hother⟩ := h.opened other file' hfile'
      have hne : file' ≠ file := by
        rintro rfl
        exact absurd (hfree.symm.trans hstream) (by simp)
      exact ⟨(Function.update_of_ne hne _ _).trans hstream, hother⟩
  · intro other columns hcolumns
    rw [hlookup]
    split_ifs with heq
    · simp
    · exact h.known other columns hcolumns

-- A line has been written for the group.
theorem Kept.write {ctx' : csv_context} {line : List Char} {written : Int}
    {later : String → List report_entry}
    (h : Kept sensor_name output_dir before total entries ctx disk)
    (hfile : zhashx_lookup ctx.groups_fd group = some file)
    (hwrites : disk.Writes file line written disk') (hwritten : ¬written < 0)
    (hconfig : ctx'.config = ctx.config) (hfd : ctx'.groups_fd = ctx.groups_fd)
    (hnodup : (zhashx_keys ctx'.groups_events).Nodup)
    (hevents : ∀ other, other ≠ group →
      zhashx_lookup ctx'.groups_events other = zhashx_lookup ctx.groups_events other)
    (hlater : ∀ other, other ≠ group → later other = entries other)
    (hwithin : (later group).Sublist (total group))
    (hcontent : ∀ content, disk.files (outfile_path ctx group) = some content →
      ∃ columns, zhashx_lookup ctx'.groups_events group = some columns ∧
        HasRows sensor_name columns (later group) (content ++ line)) :
    Kept sensor_name output_dir before total later ctx' disk' := by
  obtain ⟨hstream, hbefore⟩ := h.opened group file hfile
  rcases hwrites with ⟨hneg, -⟩ | ⟨-, path, content, hpath, hold, rfl⟩
  · exact absurd hneg hwritten
  obtain rfl := Option.some.inj (hpath.symm.trans hstream)
  obtain ⟨columns, hcolumns, hrows⟩ := hcontent content hold
  have hpaths : ∀ other, outfile_path ctx' other = outfile_path ctx other :=
    outfile_path_congr hconfig
  refine ⟨?_, hconfig.trans h.config_eq, hfd ▸ h.fd_nodup, hnodup, ?_, ?_, ?_, ?_⟩
  · intro other
    by_cases heq : other = group
    · rw [heq]
      exact hwithin
    · rw [hlater other heq]
      exact h.within other
  · intro other file' hfile'
    rw [hpaths]
    rw [hfd] at hfile'
    exact h.opened other file' hfile'
  · intro other columns' hcolumns'
    rw [hfd]
    by_cases heq : other = group
    · subst heq
      rw [hfile]
      simp
    · exact h.known other columns' ((hevents other heq).symm.trans hcolumns')
  · intro other content' hcontent'
    rw [hpaths] at hcontent' ⊢
    have hne : outfile_path ctx other ≠ outfile_path ctx group := by
      intro heq
      rw [heq, hbefore] at hcontent'
      exact absurd hcontent' (by simp)
    exact (Function.update_of_ne hne _ _).trans (h.old other content' hcontent')
  · intro other content' hother hcontent'
    rw [hpaths] at hother hcontent'
    by_cases heq : other = group
    · subst heq
      have happended : some (content ++ line) = some content' :=
        (Function.update_self (outfile_path ctx other) _ disk.files).symm.trans hcontent'
      obtain rfl := Option.some.inj happended
      rw [hcolumns]
      exact hrows
    · have hne : outfile_path ctx other ≠ outfile_path ctx group :=
        fun hpath => heq (outfile_path_injective hpath)
      rw [hevents other heq, hlater other heq]
      exact h.recorded other content' hother ((Function.update_of_ne hne _ _).symm.trans hcontent')

-- Where the loops stand between two entries of a group: a header is due only
-- while the group has no columns.
structure Due (sensor_name output_dir : String) (before : csv_disk)
    (total entries : String → List report_entry) (group : String) (file : Nat) (s : store_state)
    (disk : csv_disk) : Prop where
  kept : Kept sensor_name output_dir before total entries s.ctx disk
  opened : zhashx_lookup s.ctx.groups_fd group = some file
  due : s.write_header = true → zhashx_lookup s.ctx.groups_events group = none

-- The loops have come past more entries of a group.
def passed (entries : String → List report_entry) (group : String) (new : List report_entry) :
    String → List report_entry :=
  Function.update entries group (entries group ++ new)

theorem passed_self (entries : String → List report_entry) (group : String)
    (new : List report_entry) : passed entries group new group = entries group ++ new :=
  Function.update_self _ _ _

theorem passed_other {group other : String} (hother : other ≠ group) (new : List report_entry) :
    passed entries group new other = entries other :=
  Function.update_of_ne hother _ _

theorem passed_nil (entries : String → List report_entry) (group : String) :
    passed entries group [] = entries := by
  rw [passed, List.append_nil, Function.update_eq_self]

theorem passed_append (entries : String → List report_entry) (group : String)
    (new more : List report_entry) :
    passed (passed entries group new) group more = passed entries group (new ++ more) := by
  rw [passed, passed_self, passed, Function.update_idem, passed, List.append_assoc]

theorem sublist_passed (entries : String → List report_entry) (group : String)
    (new : List report_entry) (other : String) :
    (entries other).Sublist (passed entries group new other) := by
  by_cases heq : other = group
  · rw [heq, passed_self]
    exact List.sublist_append_left _ _
  · rw [passed_other heq]

-- A part of the loops that comes past these entries keeps the files sound, and
-- after an entry no header is due.
def Keeps (sensor_name output_dir : String) (before : csv_disk)
    (total : String → List report_entry) (group : String) (file : Nat) (new : List report_entry)
    (program : store_state → csv_program (Int × store_state)) : Prop :=
  ∀ entries s disk, (∀ other, (passed entries group new other).Sublist (total other)) →
    Due sensor_name output_dir before total entries group file s disk →
    (program s).Always csv_step (Sound sensor_name output_dir before total)
      (fun result disk' =>
        Kept sensor_name output_dir before total (passed entries group new) result.2.ctx disk' ∧
        (result.1 = 0 →
          Due sensor_name output_dir before total (passed entries group new) group file result.2
            disk' ∧
          (s.write_header = false ∨ new ≠ [] → result.2.write_header = false))) disk

section Calls

variable {α : Type} {Inv : csv_disk → Prop} {Q : α → csv_disk → Prop}

theorem always_open_outfile {path : String} {f : Int → csv_program α} (hinv : Inv disk)
    (hf : ∀ fd disk', disk.Opens path fd disk' → (f fd).Always csv_step Inv Q disk') :
    (open_outfile path >>= f).Always csv_step Inv Q disk :=
  ⟨hinv, hf⟩

theorem always_fdopen {fd : Int} {f : Option Nat → csv_program α} (hinv : Inv disk)
    (hnone : (f none).Always csv_step Inv Q disk)
    (hsome : ∀ path file, disk.fds fd = some path → disk.streams file = none →
      (f (some file)).Always csv_step Inv Q
        { disk with streams := Function.update disk.streams file (some path) }) :
    (fdopen fd >>= f).Always csv_step Inv Q disk := by
  refine ⟨hinv, fun stream disk' hstep => ?_⟩
  cases stream with
  | none =>
      obtain rfl : disk' = disk := hstep
      exact hnone
  | some file =>
      obtain ⟨path, hpath, hfree, rfl⟩ := hstep
      exact hsome path file hpath hfree

theorem always_close {fd : Int} {f : Unit → csv_program α} (hinv : Inv disk)
    (hf : (f ()).Always csv_step Inv Q
      { disk with fds := Function.update disk.fds fd none }) :
    (close fd >>= f).Always csv_step Inv Q disk := by
  refine ⟨hinv, fun _ disk' hclose => ?_⟩
  obtain rfl : disk' = { disk with fds := Function.update disk.fds fd none } := hclose
  exact hf

-- A line that could not be written leaves the disk as it was.
theorem always_fprintf {line : List Char} {f : Int → csv_program α} (hinv : Inv disk)
    (hfailed : ∀ written, written < 0 → (f written).Always csv_step Inv Q disk)
    (hwritten : ∀ written disk', ¬written < 0 → disk.Writes file line written disk' →
      (f written).Always csv_step Inv Q disk') :
    (fprintf file line >>= f).Always csv_step Inv Q disk := by
  refine ⟨hinv, fun (written : Int) disk' (hwrites : disk.Writes file line written disk') => ?_⟩
  by_cases hneg : written < 0
  · rcases hwrites with ⟨-, rfl⟩ | ⟨hlength, -⟩
    · exact hfailed written hneg
    · omega
  · exact hwritten written disk' hneg hwrites

end Calls

variable (order : hash_order)

theorem group_outfile_keeps {s : store_state}
    (h : Kept sensor_name output_dir before total entries s.ctx disk)
    (hflag : s.write_header = false) :
    (group_outfile order group s).Always csv_step (Sound sensor_name output_dir before total)
      (fun outfile disk' => Kept sensor_name output_dir before total entries outfile.2.ctx disk' ∧
        ∀ file, outfile.1 = some file →
          Due sensor_name output_dir before total entries group file outfile.2 disk') disk := by
  unfold group_outfile
  cases hfile : zhashx_lookup s.ctx.groups_fd group with
  | some file =>
      refine Always.pure h.sound ⟨h, fun file' hfile' => ?_⟩
      obtain rfl := Option.some.inj hfile'
      exact ⟨h, hfile, fun htrue => absurd htrue (by simp [hflag])⟩
  | none =>
      have hopen : (open_group_outfile order s.ctx group).Always csv_step
          (Sound sensor_name output_dir before total)
          (fun opened disk' => Kept sensor_name output_dir before total entries opened.2 disk' ∧
            (opened.1 = 0 → zhashx_lookup opened.2.groups_events group = none)) disk := by
        unfold open_group_outfile
        split_ifs with hlong
        · exact Always.pure h.sound ⟨h, of_failed⟩
        refine always_open_outfile h.sound fun fd disk₁ hopens => ?_
        obtain ⟨hcreated, hfd⟩ := h.create hfile hopens
        split_ifs with hfailed
        · exact Always.pure hcreated.sound ⟨hcreated, of_failed⟩
        obtain ⟨hleads, hbefore⟩ := hfd hfailed
        refine always_fdopen hcreated.sound ?_ ?_
        · refine always_close hcreated.sound ?_
          have hclosed : Kept sensor_name output_dir before total entries s.ctx
              { disk₁ with fds := Function.update disk₁.fds fd none } := hcreated.frame rfl rfl
          exact Always.pure hclosed.sound ⟨hclosed, of_failed⟩
        · intro path file hpath hfree
          obtain rfl := Option.some.inj (hpath.symm.trans hleads)
          have hconnected := hcreated.connect order hfile hbefore hfree
          exact Always.pure hconnected.sound ⟨hconnected, fun _ => h.no_columns hfile⟩
      refine hopen.bind fun opened disk' hsound hopened => ?_
      split_ifs with hzero
      · exact Always.pure hsound ⟨hopened.1, fun file hfile => by simp at hfile⟩
      · refine Always.pure hsound ⟨hopened.1, fun file hfile => ⟨hopened.1, hfile, fun _ => ?_⟩⟩
        exact hopened.2 (by simpa using hzero)

-- The header goes to an empty file.
theorem write_group_header_keeps {events : zhashx event_value}
    (h : Kept sensor_name output_dir before total entries ctx disk)
    (hfile : zhashx_lookup ctx.groups_fd group = some file)
    (hnone : zhashx_lookup ctx.groups_events group = none)
    (hnodup : (zhashx_keys events).Nodup)
    (hclean : ∀ column ∈ zhashx_keys events, Clean column.toList) :
    (write_group_header order ctx group file events).Always csv_step
      (Sound sensor_name output_dir before total)
      (fun header disk' => Kept sensor_name output_dir before total entries header.2 disk' ∧
        zhashx_lookup header.2.groups_fd group = some file) disk := by
  have hsmall : sorted_names events ≠ [] ∨ header_fixed.length < CSV_LINE_BUFFER_SIZE :=
    Or.inr (by decide)
  have htext := append_names_text (sorted_names events) (shows_empty.snprintf header_fixed) hsmall
  unfold write_group_header
  cases hbuffer : append_names (line_buffer.snprintf ⟨[], 0⟩ header_fixed)
      (sorted_names events) with
  | none => exact Always.pure h.sound ⟨h, hfile⟩
  | some buffer =>
      rw [hbuffer] at htext
      have hline : buffer.text = header_line (sorted_names events) :=
        eq_of_fitting (htext.symm)
      refine always_fprintf h.sound (fun written hneg => ?_) fun written disk' hneg hwrites => ?_
      · rw [if_pos hneg]
        exact Always.pure h.sound ⟨h, hfile⟩
      · rw [if_neg hneg]
        have hcolumns : zhashx_lookup (zhashx_insert order ctx.groups_events group
            (sorted_names events)) group = some (sorted_names events) := by
          rw [zhashx_lookup_insert order h.events_nodup, if_pos rfl, hnone]
          rfl
        have hkept : Kept sensor_name output_dir before total entries
            { ctx with groups_events :=
              zhashx_insert order ctx.groups_events group (sorted_names events) } disk' := by
          refine h.write hfile hwrites hneg rfl rfl (nodup_zhashx_insert order h.events_nodup _ _)
            ?_ (fun _ _ => rfl) (h.within group) ?_
          · intro other hother
            exact (zhashx_lookup_insert order h.events_nodup _ _ other).trans
              (if_neg hother.symm)
          · intro content hcontent
            have hempty := h.recorded group content (h.opened group file hfile).2 hcontent
            rw [hnone] at hempty
            obtain rfl : content = [] := hempty
            have hheader : IsHeader (sorted_names events) (header_line (sorted_names events)) :=
              is_header_line (pairwise_lt_sorted_names hnodup)
                fun column hcolumn => hclean column (mem_sorted_names.mp hcolumn)
            refine ⟨_, hcolumns, _, [], [], hheader, List.nil_sublist _, .nil, ?_⟩
            simp [contents, hline]
        exact Always.pure hkept.sound ⟨hkept, hfile⟩

-- A row goes to a file with a header, behind the rows of the entries before it.
theorem write_events_value_keeps {entry : report_entry} (hsensor : Clean sensor_name.toList)
    (h : Kept sensor_name output_dir before total entries ctx disk)
    (hfile : zhashx_lookup ctx.groups_fd group = some file)
    (hwithin : ∀ other, (passed entries group [entry] other).Sublist (total other))
    (hplain : Plain sensor_name entry) :
    (write_events_value ctx group file entry.timestamp entry.target entry.socket entry.cpu
      entry.events).Always csv_step (Sound sensor_name output_dir before total)
      (fun err disk' =>
        Kept sensor_name output_dir before total (passed entries group [entry]) ctx disk' ∧
        (err = 0 → zhashx_lookup ctx.groups_events group ≠ none)) disk := by
  have hskipped := h.pass (sublist_passed entries group [entry]) hwithin
  unfold write_events_value
  cases hcolumns : zhashx_lookup ctx.groups_events group with
  | none => exact Always.pure h.sound ⟨hskipped, fun hzero => absurd hzero (by decide)⟩
  | some columns =>
      have hname : ctx.config.sensor_name = sensor_name := by rw [h.config_eq]
      have htext := append_values_text entry.events columns
        (shows_empty.snprintf (row_fixed ctx.config.sensor_name entry.timestamp entry.target
          entry.socket entry.cpu)) (Or.inr (by rw [hname]; exact hplain.fits))
      dsimp only
      cases hbuffer : append_values entry.events (line_buffer.snprintf ⟨[], 0⟩ (row_fixed
          ctx.config.sensor_name entry.timestamp entry.target entry.socket entry.cpu))
          columns with
      | none => exact Always.pure h.sound ⟨hskipped, fun hzero => absurd hzero (by decide)⟩
      | some buffer =>
          rw [hbuffer, hname] at htext
          have hrow : stored_row sensor_name columns entry = some buffer.text := by
            rw [stored_row, csv_row, Option.bind_map]
            exact htext.symm
          refine always_fprintf h.sound (fun written hneg => ?_)
            fun written disk' hneg hwrites => ?_
          · rw [if_pos hneg]
            exact Always.pure h.sound ⟨hskipped, fun hzero => absurd hzero (by decide)⟩
          · rw [if_neg hneg]
            have hkept : Kept sensor_name output_dir before total (passed entries group [entry])
                ctx disk' := by
              refine h.write hfile hwrites hneg rfl rfl h.events_nodup (fun _ _ => rfl)
                (fun other hother => passed_other hother _) (hwithin group) ?_
              intro content hcontent
              have hrows := h.recorded group content (h.opened group file hfile).2 hcontent
              rw [hcolumns] at hrows
              refine ⟨columns, hcolumns, ?_⟩
              rw [passed_self]
              exact hrows.concat (is_row_of_stored hsensor hplain hrow)
            exact Always.pure hkept.sound ⟨hkept, fun _ => by simp⟩

theorem keeps_nil : Keeps sensor_name output_dir before total group file []
    fun s => pure (0, s) := by
  intro entries s disk _ hdue
  rw [passed_nil]
  refine Always.pure hdue.kept.sound ⟨hdue.kept, fun _ => ⟨hdue, fun hflag => ?_⟩⟩
  exact hflag.resolve_right fun hne => hne rfl

theorem Keeps.seq {new more : List report_entry}
    {program rest : store_state → csv_program (Int × store_state)}
    (h : Keeps sensor_name output_dir before total group file new program)
    (hrest : Keeps sensor_name output_dir before total group file more rest) :
    Keeps sensor_name output_dir before total group file (new ++ more) (fun s => do
      let stored ← program s
      if stored.1 ≠ 0 then pure (-1, stored.2) else rest stored.2) := by
  intro entries s disk hwithin hdue
  rw [← passed_append] at hwithin ⊢
  have hfirst := fun other =>
    (sublist_passed (passed entries group new) group more other).trans (hwithin other)
  refine (h entries s disk hfirst hdue).bind fun stored disk₁ hsound hstored => ?_
  split_ifs with herr
  · exact Always.pure hsound ⟨hstored.1.pass (sublist_passed _ _ _) hwithin, of_failed⟩
  obtain ⟨hdue₁, hflag₁⟩ := hstored.2 (by simpa using herr)
  refine (hrest _ stored.2 disk₁ hwithin hdue₁).mono fun result disk₂ _ hresult => ?_
  refine ⟨hresult.1, fun hzero => ?_⟩
  obtain ⟨hdue₂, hflag₂⟩ := hresult.2 hzero
  refine ⟨hdue₂, fun hflag => hflag₂ ?_⟩
  by_cases hnew : new = []
  · rw [hnew, List.nil_append] at hflag
    exact hflag.imp_left fun hdone => hflag₁ (Or.inl hdone)
  · exact Or.inl (hflag₁ (Or.inr hnew))

theorem keeps_cpu {entry : report_entry} (hsensor : Clean sensor_name.toList)
    (hplain : Plain sensor_name entry) :
    Keeps sensor_name output_dir before total group file [entry]
      (store_cpu order group file entry.timestamp entry.target entry.socket entry.cpu
        ⟨entry.events⟩) := by
  intro entries s disk hwithin hdue
  have hafter : ∀ (header : Int × csv_context) (disk₁ : csv_disk),
      Kept sensor_name output_dir before total entries header.2 disk₁ →
      zhashx_lookup header.2.groups_fd group = some file →
      (if header.1 ≠ 0 then pure (-1, { s with ctx := header.2 }) else do
        let err ← write_events_value header.2 group file entry.timestamp entry.target
          entry.socket entry.cpu entry.events
        if err ≠ 0 then pure (-1, ⟨header.2, false⟩) else pure (0, ⟨header.2, false⟩) :
        csv_program (Int × store_state)).Always csv_step
        (Sound sensor_name output_dir before total)
        (fun result disk' => Kept sensor_name output_dir before total
            (passed entries group [entry]) result.2.ctx disk' ∧
          (result.1 = 0 → Due sensor_name output_dir before total (passed entries group [entry])
              group file result.2 disk' ∧
            (s.write_header = false ∨ [entry] ≠ [] → result.2.write_header = false))) disk₁ := by
    intro header disk₁ hkept hopened
    split_ifs with hfailed
    · exact Always.pure hkept.sound
        ⟨hkept.pass (sublist_passed _ _ _) hwithin, of_failed⟩
    refine (write_events_value_keeps hsensor hkept hopened hwithin hplain).bind
      fun err disk₂ hsound hwritten => ?_
    split_ifs with herr
    · exact Always.pure hsound ⟨hwritten.1, of_failed⟩
    · exact Always.pure hsound ⟨hwritten.1,
        fun _ => ⟨⟨hwritten.1, hopened, fun htrue => absurd htrue Bool.false_ne_true⟩,
          fun _ => rfl⟩⟩
  unfold store_cpu
  split_ifs with hflag
  · exact (write_group_header_keeps order hdue.kept hdue.opened (hdue.due hflag) hplain.nodup
      hplain.events).bind fun header disk₁ _ hheader => hafter header disk₁ hheader.1 hheader.2
  · exact hafter (0, s.ctx) disk hdue.kept hdue.opened

theorem keeps_cpus (timestamp : Nat) (target socket : String) (cpus : zhashx payload_cpu_data)
    (hsensor : Clean sensor_name.toList)
    (hplain : ∀ entry ∈ pkg_entries timestamp target socket cpus, Plain sensor_name entry) :
    Keeps sensor_name output_dir before total group file
      (pkg_entries timestamp target socket cpus)
      (store_cpus order group file timestamp target socket cpus) := by
  induction cpus with
  | nil => exact keeps_nil
  | cons cpu rest ih =>
      have hfirst := hplain ⟨timestamp, target, socket, cpu.1, cpu.2.events⟩ List.mem_cons_self
      exact (keeps_cpu order hsensor hfirst).seq
        (ih fun entry hentry => hplain entry (List.mem_cons_of_mem _ hentry))

theorem keeps_pkgs (timestamp : Nat) (target : String) (pkgs : zhashx payload_pkg_data)
    (hsensor : Clean sensor_name.toList)
    (hplain : ∀ entry ∈ group_entries timestamp target pkgs, Plain sensor_name entry) :
    Keeps sensor_name output_dir before total group file (group_entries timestamp target pkgs)
      (store_pkgs order group file timestamp target pkgs) := by
  induction pkgs with
  | nil => exact keeps_nil
  | cons pkg rest ih =>
      have hpkg : Keeps sensor_name output_dir before total group file
          (pkg_entries timestamp target pkg.1 pkg.2.cpus)
          (store_cpus order group file timestamp target pkg.1 pkg.2.cpus) :=
        keeps_cpus order timestamp target pkg.1 pkg.2.cpus hsensor
          fun entry hentry => hplain entry (List.mem_append_left _ hentry)
      exact hpkg.seq (ih fun entry hentry => hplain entry (List.mem_append_right _ hentry))

-- The entries of a group do not come back in the groups behind it.
theorem passed_entries_in {timestamp : Nat} {target : String}
    {item : String × payload_group_data} {rest : zhashx payload_group_data}
    (hnodup : (zhashx_keys (item :: rest)).Nodup) (other : String) :
    passed entries item.1 (group_entries timestamp target item.2.pkgs) other ++
        entries_in timestamp target rest other =
      entries other ++ entries_in timestamp target (item :: rest) other := by
  obtain ⟨hnot, -⟩ := List.nodup_cons.mp hnodup
  unfold entries_in
  rw [zhashx_lookup_cons]
  by_cases heq : other = item.1
  · rw [heq, if_pos rfl, zhashx_lookup_eq_none_iff.mpr hnot, passed_self, List.append_nil]
  · rw [if_neg (Ne.symm heq), passed_other heq]

theorem store_groups_keeps (timestamp : Nat) (target : String)
    (groups : zhashx payload_group_data) (hsensor : Clean sensor_name.toList)
    (hnodup : (zhashx_keys groups).Nodup)
    (hfilled : ∀ item ∈ groups, group_entries timestamp target item.2.pkgs ≠ [])
    (hplain : ∀ item ∈ groups, ∀ entry ∈ group_entries timestamp target item.2.pkgs,
      Plain sensor_name entry)
    (hwithin : ∀ group,
      (entries group ++ entries_in timestamp target groups group).Sublist (total group))
    {s : store_state} (h : Kept sensor_name output_dir before total entries s.ctx disk)
    (hflag : s.write_header = false) :
    (store_groups order timestamp target groups s).Always csv_step
      (Sound sensor_name output_dir before total)
      (fun stored disk' => Kept sensor_name output_dir before total
        (fun group => entries group ++ entries_in timestamp target groups group)
        stored.2.ctx disk') disk := by
  have hall : ∀ group,
      (entries group).Sublist (entries group ++ entries_in timestamp target groups group) :=
    fun group => List.sublist_append_left _ _
  induction groups generalizing entries s disk with
  | nil => exact Always.pure h.sound (h.pass hall hwithin)
  | cons item rest ih =>
      refine (group_outfile_keeps order h hflag).bind fun outfile disk₁ hsound houtfile => ?_
      obtain ⟨hkept, hdue⟩ := houtfile
      cases hfile : outfile.1 with
      | none => exact Always.pure hsound (hkept.pass hall hwithin)
      | some file =>
          have hentries := fun other => @passed_entries_in entries timestamp target item rest
            hnodup other
          have hbehind : ∀ other,
              (passed entries item.1 (group_entries timestamp target item.2.pkgs) other).Sublist
                (entries other ++ entries_in timestamp target (item :: rest) other) := fun other =>
            hentries other ▸ List.sublist_append_left _ _
          refine (keeps_pkgs order timestamp target item.2.pkgs hsensor
            (hplain item List.mem_cons_self) entries outfile.2 disk₁
            (fun other => (hbehind other).trans (hwithin other)) (hdue file hfile)).bind
            fun stored disk₂ hsound₂ hstored => ?_
          split_ifs with herr
          · exact Always.pure hsound₂ (hstored.1.pass hbehind hwithin)
          · obtain ⟨-, hdone⟩ := hstored.2 (by simpa using herr)
            have hrest := ih (List.nodup_cons.mp hnodup).2
              (fun other hother => hfilled other (List.mem_cons_of_mem _ hother))
              (fun other hother => hplain other (List.mem_cons_of_mem _ hother))
              (fun other => (hentries other).symm ▸ hwithin other) hstored.1
              (hdone (Or.inr (hfilled item List.mem_cons_self)))
              (fun other => List.sublist_append_left _ _)
            simpa only [hentries] using hrest

theorem store_payloads_keeps (payloads : List payload) (hsensor : Clean sensor_name.toList)
    (hstorable : ∀ payload ∈ payloads, Storable sensor_name payload)
    (hwithin : ∀ group, (entries group ++ all_entries group payloads).Sublist (total group))
    (h : Kept sensor_name output_dir before total entries ctx disk) :
    (store_payloads order payloads ctx).Always csv_step
      (Sound sensor_name output_dir before total)
      (fun ctx' disk' => Kept sensor_name output_dir before total
        (fun group => entries group ++ all_entries group payloads) ctx' disk') disk := by
  induction payloads generalizing entries ctx disk with
  | nil => exact Always.pure h.sound (h.pass (fun _ => List.sublist_append_left _ _) hwithin)
  | cons payload rest ih =>
      have hstorable₁ := hstorable payload List.mem_cons_self
      have hgroup : ∀ item ∈ payload.groups, payload_entries item.1 payload =
          group_entries payload.timestamp payload.target_name item.2.pkgs := by
        intro item hitem
        rw [payload_entries, entries_in, (zhashx_lookup_eq_some_iff hstorable₁.nodup).mpr hitem]
      have hsplit : ∀ group, entries group ++ all_entries group (payload :: rest) =
          entries group ++ payload_entries group payload ++ all_entries group rest := fun group =>
        (List.append_assoc _ _ _).symm
      simp only [hsplit] at hwithin ⊢
      have hstored : (csv_store_report order ctx payload).Always csv_step
          (Sound sensor_name output_dir before total)
          (fun stored disk' => Kept sensor_name output_dir before total
            (fun group => entries group ++ payload_entries group payload) stored.2 disk')
          disk := by
        have hgroups := store_groups_keeps order payload.timestamp payload.target_name
          payload.groups hsensor hstorable₁.nodup
          (fun item hitem => hgroup item hitem ▸
            hstorable₁.filled item.1 (List.mem_map_of_mem hitem))
          (fun item hitem => hgroup item hitem ▸ hstorable₁.plain item.1)
          (fun group => (List.sublist_append_left _ _).trans (hwithin group))
          (s := ⟨ctx, false⟩) h rfl
        exact hgroups.bind fun stored disk' hsound hkept => Always.pure hsound hkept
      refine hstored.bind fun stored disk' _ hkept => ?_
      exact ih (fun other hother => hstorable other (List.mem_cons_of_mem _ hother)) hwithin hkept

-- Whatever the module is handed and whichever of its operations fail, its files
-- are well formed at every moment.
theorem files_well_formed (payloads : List payload) (disk : csv_disk)
    (hsensor : Clean sensor_name.toList)
    (hstorable : ∀ payload ∈ payloads, Storable sensor_name payload)
    (hreaches : Reaches csv_step
      (store_payloads order payloads (csv_context_create sensor_name output_dir)) before disk) :
    Sound sensor_name output_dir before (fun group => all_entries group payloads) disk :=
  (store_payloads_keeps order payloads hsensor hstorable (fun _ => .refl _)
    (kept_create sensor_name output_dir before _)).reaches hreaches

end

-- Two cpus with different values.
def two_counters : payload :=
  ⟨5, "system",
    [("g", ⟨[("0", ⟨[("1", ⟨[("cycles", .counter 7)]⟩), ("2", ⟨[("cycles", .counter 9)]⟩)]⟩)]⟩)]⟩

def no_file : csv_disk := ⟨fun _ => none, fun _ => none, fun _ => none⟩

-- A disk on which operations fail only when they have to.
def csv_disk.serve (disk : csv_disk) : (op : csv_call) → csv_answer op × csv_disk
  | .open path =>
      match disk.files path, disk.fds 3 with
      | none, none => ((3 : Int), { disk with
          files := Function.update disk.files path (some [])
          fds := Function.update disk.fds 3 (some path) })
      | _, _ => ((-1 : Int), disk)
  | .fdopen fd =>
      match disk.fds fd, disk.streams 0 with
      | some path, none =>
          (some 0, { disk with streams := Function.update disk.streams 0 (some path) })
      | _, _ => (none, disk)
  | .close fd => ((), { disk with fds := Function.update disk.fds fd none })
  | .fprintf file line =>
      match disk.streams file with
      | none => ((-1 : Int), disk)
      | some path =>
          match disk.files path with
          | none => ((-1 : Int), disk)
          | some content => ((line.length : Int), { disk with
              files := Function.update disk.files path (some (content ++ line)) })

theorem csv_step_serve (disk : csv_disk) (op : csv_call) :
    csv_step disk op (disk.serve op).1 (disk.serve op).2 := by
  cases op with
  | «open» path =>
      simp only [csv_disk.serve]
      split
      · next hpath hfd => exact Or.inr ⟨show (0 : Int) ≤ 3 by decide, hpath, hfd, rfl⟩
      · exact Or.inl ⟨rfl, rfl⟩
  | fdopen fd =>
      simp only [csv_disk.serve]
      split
      · next path hpath hfree => exact ⟨path, hpath, hfree, rfl⟩
      · rfl
  | close fd => rfl
  | fprintf file line =>
      simp only [csv_disk.serve]
      split
      · exact Or.inl ⟨show (-1 : Int) < 0 by decide, rfl⟩
      · next path hpath =>
        split
        · exact Or.inl ⟨show (-1 : Int) < 0 by decide, rfl⟩
        · next content hcontent => exact Or.inr ⟨rfl, path, content, hpath, hcontent, rfl⟩

theorem storable_two : Storable "s" two_counters := by
  have hentries : ∀ group entry, entry ∈ payload_entries group two_counters →
      entry = ⟨5, "system", "0", "1", [("cycles", .counter 7)]⟩ ∨
        entry = ⟨5, "system", "0", "2", [("cycles", .counter 9)]⟩ := by
    intro group entry hentry
    unfold payload_entries entries_in at hentry
    split at hentry
    · simp at hentry
    · next data hdata =>
      have hmem := mem_of_zhashx_lookup hdata
      simp only [two_counters, List.mem_singleton, Prod.mk.injEq] at hmem
      obtain ⟨-, rfl⟩ := hmem
      simpa [group_entries, pkg_entries, two_counters] using hentry
  have hvalue : ∀ (n : Nat) column value,
      zhashx_lookup [("cycles", event_value.counter n)] column = some value →
        ∃ m, value = .counter m := by
    intro n column value hvalue
    have hmem := mem_of_zhashx_lookup hvalue
    simp only [List.mem_singleton, Prod.mk.injEq] at hmem
    exact ⟨n, hmem.2⟩
  have hclean : Clean "cycles".toList := ⟨by decide, by decide⟩
  refine ⟨by decide, ?_, ?_⟩
  · intro group hgroup
    obtain rfl : group = "g" := List.mem_singleton.mp hgroup
    decide
  · intro group entry hentry
    rcases hentries group entry hentry with rfl | rfl
    · exact ⟨by decide, hvalue 7, ⟨by decide, by decide⟩, ⟨by decide, by decide⟩,
        ⟨by decide, by decide⟩, List.forall_mem_singleton.mpr hclean, by decide⟩
    · exact ⟨by decide, hvalue 9, ⟨by decide, by decide⟩, ⟨by decide, by decide⟩,
        ⟨by decide, by decide⟩, List.forall_mem_singleton.mpr hclean, by decide⟩

theorem files_well_formed_two :
    let stored := (store_payloads in_order [two_counters] (csv_context_create "s" "d")).run
      csv_disk.serve no_file
    Sound "s" "d" no_file (fun group => all_entries group [two_counters]) stored.2 ∧
      stored.2.files "d/g.csv" = some
        ("timestamp,sensor,target,socket,cpu,cycles\n" ++
          "5,s,system,0,1,7\n5,s,system,0,2,9\n").toList := by
  refine ⟨files_well_formed in_order [two_counters] _ ⟨by decide, by decide⟩ ?_
    (exec_run csv_disk.serve csv_step_serve _ _).reaches, by decide +kernel⟩
  intro payload hpayload
  rw [List.mem_singleton.mp hpayload]
  exact storable_two

end HwpcSensor.Storage
