import HwpcSensor.Library.Resources
import HwpcSensor.Storage.Csv.Disk

namespace HwpcSensor.Storage

open Interaction Prog Resources
open Resources.Ledger (Holding)

inductive csv_resource where
  | fd (fd : Int)
  | stream (file : Nat)
  deriving DecidableEq

def independent : csv_resource → csv_resource → Bool :=
  fun _ _ => false

def OpensFd (l : Ledger csv_resource) (fd : Int) (l' : Ledger csv_resource) : Prop :=
  (fd = -1 ∧ l' = l) ∨ (fd ≠ -1 ∧ .fd fd ∉ l.held ∧ l' = l.acquire (.fd fd))

-- New descriptors and streams are not those that are open. A stream takes its
-- descriptor over.
def csv_effect : Semantics csv_call csv_answer (Ledger csv_resource)
  | l, .open _, fd, l' => OpensFd l fd l'
  | l, .fdopen fd, none, l' => l' = l.use (.fd fd)
  | l, .fdopen fd, some file, l' =>
      .stream file ∉ l.held ∧ l' = (l.release independent (.fd fd)).acquire (.stream file)
  | l, .close fd, _, l' => l' = l.release independent (.fd fd)
  | l, .fprintf file _, _, l' => l' = l.use (.stream file)

-- The destructor of the table closes the streams one after the other.
def csv_context_destroy (ctx : csv_context) (l : Ledger csv_resource) : Ledger csv_resource :=
  ctx.groups_fd.foldl (fun l item => l.release independent (.stream item.2)) l

def IsStreamOf (files : List Nat) : csv_resource → Prop
  | .fd _ => False
  | .stream file => file ∈ files

-- The open streams are those of the table.
structure OpenStreams (ctx : csv_context) (l : Ledger csv_resource) : Prop where
  groups : (zhashx_keys ctx.groups_fd).Nodup
  distinct : (ctx.groups_fd.map Prod.snd).Nodup
  holding : Holding (IsStreamOf (ctx.groups_fd.map Prod.snd)) [] l

section Calls

variable {α : Type} {Q : α → Ledger csv_resource → Prop} {P : csv_resource → Prop}
  {l : Ledger csv_resource}

theorem effect_open {path : String} {f : Int → csv_program α} (h : Holding P [] l)
    (hfailed : (f (-1)).Always csv_effect (fun _ => True) Q l)
    (hopened : ∀ fd l', fd ≠ -1 → ¬P (.fd fd) →
      Holding (fun other => other = .fd fd ∨ P other) [] l' →
      (f fd).Always csv_effect (fun _ => True) Q l') :
    (open_outfile path >>= f).Always csv_effect (fun _ => True) Q l := by
  refine ⟨trivial, fun (fd : Int) l' hstep => ?_⟩
  rcases hstep with ⟨rfl, rfl⟩ | ⟨hfd, hfresh, rfl⟩
  · exact hfailed
  · rw [h.held] at hfresh
    exact hopened fd _ hfd hfresh (h.acquire hfresh)

theorem effect_fdopen {fd : Int} {f : Option Nat → csv_program α} (h : Holding P [] l)
    (hheld : P (.fd fd)) (hfailed : (f none).Always csv_effect (fun _ => True) Q (l.use (.fd fd)))
    (hopened : ∀ file l', ¬P (.stream file) →
      Holding (fun other => other = .stream file ∨ other ≠ .fd fd ∧ P other) [] l' →
      (f (some file)).Always csv_effect (fun _ => True) Q l') :
    (fdopen fd >>= f).Always csv_effect (fun _ => True) Q l := by
  refine ⟨trivial, fun stream l' hstep => ?_⟩
  cases stream with
  | none =>
      obtain rfl : l' = l.use (.fd fd) := hstep
      exact hfailed
  | some file =>
      obtain ⟨hfresh, rfl⟩ := hstep
      rw [h.held] at hfresh
      refine hopened file _ hfresh ((h.release hheld fun _ _ _ => rfl).acquire ?_)
      exact fun hheld => hfresh hheld.2

theorem effect_fprintf {file : Nat} {line : List Char} {f : Int → csv_program α}
    (h : Holding P [] l) (hheld : P (.stream file))
    (hf : ∀ written l', Holding P [] l' → (f written).Always csv_effect (fun _ => True) Q l') :
    (fprintf file line >>= f).Always csv_effect (fun _ => True) Q l := by
  refine ⟨trivial, fun (written : Int) l' hstep => ?_⟩
  obtain rfl : l' = l.use (.stream file) := hstep
  exact hf written _ (h.use hheld)

end Calls

section Store

variable (order : hash_order) {ctx : csv_context} {l : Ledger csv_resource} {group : String}
  {file : Nat}

theorem stream_of_lookup (hfile : zhashx_lookup ctx.groups_fd group = some file) :
    IsStreamOf (ctx.groups_fd.map Prod.snd) (.stream file) :=
  List.mem_map_of_mem (mem_of_zhashx_lookup hfile)

-- The table takes a new stream in, as it has none for the group.
theorem OpenStreams.insert (h : OpenStreams ctx l)
    (hnone : zhashx_lookup ctx.groups_fd group = none) {l' : Ledger csv_resource}
    (hfresh : file ∉ ctx.groups_fd.map Prod.snd)
    (hholding : Holding (IsStreamOf (file :: ctx.groups_fd.map Prod.snd)) [] l') :
    OpenStreams { ctx with groups_fd := zhashx_insert order ctx.groups_fd group file } l' := by
  have hperm := (zhashx_insert_perm order (zhashx_lookup_eq_none_iff.mp hnone) file).map Prod.snd
  refine ⟨nodup_zhashx_insert order h.groups group file, ?_, hholding.congr fun resource => ?_⟩
  · exact hperm.nodup_iff.mpr (List.nodup_cons.mpr ⟨hfresh, h.distinct⟩)
  · cases resource with
    | fd fd => rfl
    | stream other => exact hperm.mem_iff.symm

theorem open_group_outfile_streams (h : OpenStreams ctx l)
    (hnone : zhashx_lookup ctx.groups_fd group = none) :
    (open_group_outfile order ctx group).Always csv_effect (fun _ => True)
      (fun opened l' => OpenStreams opened.2 l') l := by
  unfold open_group_outfile
  split_ifs
  · exact Always.pure trivial h
  refine effect_open h.holding (Always.pure trivial h) fun fd l₁ hfd hnot h₁ => ?_
  rw [if_neg hfd]
  refine effect_fdopen h₁ (Or.inl rfl) ?_ fun file l₂ hfresh h₂ => ?_
  · refine ⟨trivial, fun _ l₂ hstep => Always.pure trivial ⟨h.groups, h.distinct, ?_⟩⟩
    obtain rfl : l₂ = (l₁.use (.fd fd)).release independent (.fd fd) := hstep
    refine ((h₁.use (Or.inl rfl)).release (Or.inl rfl) fun _ _ _ => rfl).congr fun resource => ?_
    constructor
    · rintro ⟨hne, rfl | hheld⟩
      · exact absurd rfl hne
      · exact hheld
    · intro hheld
      refine ⟨?_, Or.inr hheld⟩
      rintro rfl
      exact hnot hheld
  · refine Always.pure trivial (h.insert order hnone (fun hmem => hfresh (Or.inr hmem)) ?_)
    refine h₂.congr fun resource => ?_
    cases resource with
    | fd other => simp [IsStreamOf]
    | stream other => simp [IsStreamOf]

theorem write_group_header_streams (h : OpenStreams ctx l)
    (hfile : zhashx_lookup ctx.groups_fd group = some file) (events : zhashx event_value) :
    (write_group_header order ctx group file events).Always csv_effect (fun _ => True)
      (fun header l' => header.2.groups_fd = ctx.groups_fd ∧ OpenStreams header.2 l') l := by
  unfold write_group_header
  cases append_names (line_buffer.snprintf ⟨[], 0⟩ header_fixed) (sorted_names events) with
  | none => exact Always.pure trivial ⟨rfl, h⟩
  | some buffer =>
      refine effect_fprintf h.holding (stream_of_lookup hfile) fun written l' h' => ?_
      split_ifs
      · exact Always.pure trivial ⟨rfl, h.groups, h.distinct, h'⟩
      · exact Always.pure trivial ⟨rfl, h.groups, h.distinct, h'⟩

theorem write_events_value_streams (h : OpenStreams ctx l)
    (hfile : zhashx_lookup ctx.groups_fd group = some file) (timestamp : Nat)
    (target socket cpu : String) (events : zhashx event_value) :
    (write_events_value ctx group file timestamp target socket cpu events).Always csv_effect
      (fun _ => True) (fun _ l' => OpenStreams ctx l') l := by
  unfold write_events_value
  cases zhashx_lookup ctx.groups_events group with
  | none => exact Always.pure trivial h
  | some events_name =>
      dsimp only
      cases append_values events (line_buffer.snprintf ⟨[], 0⟩
          (row_fixed ctx.config.sensor_name timestamp target socket cpu)) events_name with
      | none => exact Always.pure trivial h
      | some buffer =>
          refine effect_fprintf h.holding (stream_of_lookup hfile) fun written l' h' => ?_
          split_ifs
          · exact Always.pure trivial ⟨h.groups, h.distinct, h'⟩
          · exact Always.pure trivial ⟨h.groups, h.distinct, h'⟩

-- The loops over the entries of a group leave the table as it is.
def Writes (group : String) (file : Nat)
    (program : store_state → csv_program (Int × store_state)) : Prop :=
  ∀ s l, OpenStreams s.ctx l → zhashx_lookup s.ctx.groups_fd group = some file →
    (program s).Always csv_effect (fun _ => True) (fun stored l' =>
      OpenStreams stored.2.ctx l' ∧ zhashx_lookup stored.2.ctx.groups_fd group = some file) l

theorem writes_nil : Writes group file fun s => pure (0, s) :=
  fun _ _ h hfile => Always.pure trivial ⟨h, hfile⟩

theorem Writes.seq {program rest : store_state → csv_program (Int × store_state)}
    (h : Writes group file program) (hrest : Writes group file rest) :
    Writes group file (fun s => do
      let stored ← program s
      if stored.1 ≠ 0 then pure (-1, stored.2) else rest stored.2) := by
  intro s l hopen hfile
  refine (h s l hopen hfile).bind fun stored l' _ hstored => ?_
  split_ifs
  · exact Always.pure trivial hstored
  · exact hrest _ _ hstored.1 hstored.2

theorem writes_cpu (timestamp : Nat) (target socket cpu : String) (cpu_data : payload_cpu_data) :
    Writes group file (store_cpu order group file timestamp target socket cpu cpu_data) := by
  intro s l hopen hfile
  have hafter : ∀ (header : Int × csv_context) (l₁ : Ledger csv_resource),
      header.2.groups_fd = s.ctx.groups_fd ∧ OpenStreams header.2 l₁ →
      (if header.1 ≠ 0 then pure (-1, { s with ctx := header.2 }) else do
        let err ← write_events_value header.2 group file timestamp target socket cpu
          cpu_data.events
        if err ≠ 0 then pure (-1, ⟨header.2, false⟩) else pure (0, ⟨header.2, false⟩) :
        csv_program (Int × store_state)).Always csv_effect (fun _ => True)
        (fun stored l' => OpenStreams stored.2.ctx l' ∧
          zhashx_lookup stored.2.ctx.groups_fd group = some file) l₁ := by
    rintro header l₁ ⟨hsame, hopen₁⟩
    have hfile₁ : zhashx_lookup header.2.groups_fd group = some file := hsame ▸ hfile
    split_ifs
    · exact Always.pure trivial ⟨hopen₁, hfile₁⟩
    refine (write_events_value_streams hopen₁ hfile₁ timestamp target socket cpu
      cpu_data.events).bind fun err l₂ _ hopen₂ => ?_
    split_ifs
    · exact Always.pure trivial ⟨hopen₂, hfile₁⟩
    · exact Always.pure trivial ⟨hopen₂, hfile₁⟩
  unfold store_cpu
  split_ifs
  · exact (write_group_header_streams order hopen hfile cpu_data.events).bind
      fun header l₁ _ hheader => hafter header l₁ hheader
  · exact hafter (0, s.ctx) l ⟨rfl, hopen⟩

theorem writes_cpus (timestamp : Nat) (target socket : String) (cpus : zhashx payload_cpu_data) :
    Writes group file (store_cpus order group file timestamp target socket cpus) := by
  induction cpus with
  | nil => exact writes_nil
  | cons cpu rest ih => exact (writes_cpu order timestamp target socket cpu.1 cpu.2).seq ih

theorem writes_pkgs (timestamp : Nat) (target : String) (pkgs : zhashx payload_pkg_data) :
    Writes group file (store_pkgs order group file timestamp target pkgs) := by
  induction pkgs with
  | nil => exact writes_nil
  | cons pkg rest ih => exact (writes_cpus order timestamp target pkg.1 pkg.2.cpus).seq ih

theorem group_outfile_streams {s : store_state} (h : OpenStreams s.ctx l) :
    (group_outfile order group s).Always csv_effect (fun _ => True)
      (fun outfile l' => OpenStreams outfile.2.ctx l' ∧ ∀ file, outfile.1 = some file →
        zhashx_lookup outfile.2.ctx.groups_fd group = some file) l := by
  unfold group_outfile
  cases hfile : zhashx_lookup s.ctx.groups_fd group with
  | some file =>
      exact Always.pure trivial ⟨h, fun other hother => hfile.trans hother⟩
  | none =>
      refine (open_group_outfile_streams order h hfile).bind fun opened l' _ hopened => ?_
      split_ifs
      · exact Always.pure trivial ⟨hopened, fun file hnone => by simp at hnone⟩
      · exact Always.pure trivial ⟨hopened, fun file hsome => hsome⟩

theorem store_groups_streams (timestamp : Nat) (target : String)
    (groups : zhashx payload_group_data) {s : store_state} (h : OpenStreams s.ctx l) :
    (store_groups order timestamp target groups s).Always csv_effect (fun _ => True)
      (fun stored l' => OpenStreams stored.2.ctx l') l := by
  induction groups generalizing s l with
  | nil => exact Always.pure trivial h
  | cons item rest ih =>
      refine (group_outfile_streams order h).bind fun outfile l₁ _ houtfile => ?_
      obtain ⟨hopen, hfile⟩ := houtfile
      cases hsome : outfile.1 with
      | none => exact Always.pure trivial hopen
      | some file =>
          refine (writes_pkgs order timestamp target item.2.pkgs _ _ hopen (hfile file hsome)).bind
            fun stored l₂ _ hstored => ?_
          split_ifs
          · exact Always.pure trivial hstored.1
          · exact ih hstored.1

theorem store_payloads_streams (payloads : List payload) (h : OpenStreams ctx l) :
    (store_payloads order payloads ctx).Always csv_effect (fun _ => True)
      (fun ctx' l' => OpenStreams ctx' l') l := by
  induction payloads generalizing ctx l with
  | nil => exact Always.pure trivial h
  | cons payload rest ih =>
      have hstart : OpenStreams (store_state.mk ctx false).ctx l := h
      have hstored : (csv_store_report order ctx payload).Always csv_effect (fun _ => True)
          (fun stored l' => OpenStreams stored.2 l') l :=
        (store_groups_streams order payload.timestamp payload.target_name payload.groups
          hstart).bind fun stored l' _ hopen => Always.pure trivial hopen
      exact hstored.bind fun stored l' _ hopen => ih hopen

end Store

-- Streams that are open once are closed once.
theorem release_streams {files : List Nat} (hdistinct : files.Nodup) {l : Ledger csv_resource}
    (h : Holding (IsStreamOf files) [] l) :
    (files.foldl (fun l file => l.release independent (.stream file)) l).held = ∅ ∧
      (files.foldl (fun l file => l.release independent (.stream file)) l).faults = [] := by
  induction files generalizing l with
  | nil =>
      refine ⟨Finset.eq_empty_of_forall_notMem fun resource hmem => ?_, h.faults⟩
      have hstream := (h.held resource).mp hmem
      cases resource with
      | fd fd => exact hstream
      | stream file => exact List.not_mem_nil hstream
  | cons file rest ih =>
      obtain ⟨hnot, hrest⟩ := List.nodup_cons.mp hdistinct
      refine ih hrest ((h.release List.mem_cons_self fun _ _ _ => rfl).congr fun resource => ?_)
      cases resource with
      | fd fd => exact ⟨fun hheld => hheld.2, False.elim⟩
      | stream other =>
          constructor
          · rintro ⟨hne, hmem⟩
            exact (List.mem_cons.mp hmem).resolve_left fun heq => hne (heq ▸ rfl)
          · refine fun hmem => ⟨?_, List.mem_cons_of_mem _ hmem⟩
            rintro ⟨⟩
            exact hnot hmem

-- Whatever is stored and whatever fails, each descriptor and each stream that the
-- module opens is closed once, no line goes to a stream that is not open, and in
-- the end nothing is.
theorem streams_closed_once (order : hash_order) (payloads : List payload)
    {sensor_name output_dir : String} {ctx : csv_context} {l : Ledger csv_resource}
    (h : Exec csv_effect
      (store_payloads order payloads (csv_context_create sensor_name output_dir)) Ledger.empty
      ctx l) :
    (csv_context_destroy ctx l).held = ∅ ∧ (csv_context_destroy ctx l).faults = [] := by
  have hstart : OpenStreams (csv_context_create sensor_name output_dir) Ledger.empty := by
    refine ⟨List.nodup_nil, List.nodup_nil, Ledger.holding_empty.congr fun resource => ?_⟩
    cases resource with
    | fd fd => rfl
    | stream file => simp [IsStreamOf, csv_context_create]
  have hopen : OpenStreams ctx l := (store_payloads_streams order payloads hstart).exec h
  have hclosed := release_streams hopen.distinct hopen.holding
  rwa [List.foldl_map] at hclosed

-- The stream of the one file, and the next report fails as the stream does.
def one_group (timestamp : Nat) : payload :=
  ⟨timestamp, "system", [("g", ⟨[("0", ⟨[("1", ⟨[("cycles", .counter 7)]⟩)]⟩)]⟩)]⟩

def csv_answers (l : Ledger csv_resource) : (op : csv_call) → csv_answer op × Ledger csv_resource
  | .open _ => if .fd 3 ∈ l.held then ((-1 : Int), l) else ((3 : Int), l.acquire (.fd 3))
  | .fdopen fd =>
      if .stream 0 ∈ l.held then (none, l.use (.fd fd))
      else (some 0, (l.release independent (.fd fd)).acquire (.stream 0))
  | .close fd => ((), l.release independent (.fd fd))
  | .fprintf file _ => ((-1 : Int), l.use (.stream file))

theorem csv_answers_effect (l : Ledger csv_resource) (op : csv_call) :
    csv_effect l op (csv_answers l op).1 (csv_answers l op).2 := by
  cases op with
  | «open» path =>
      by_cases hheld : csv_resource.fd 3 ∈ l.held
      · simp only [csv_answers, if_pos hheld]
        exact Or.inl ⟨rfl, rfl⟩
      · simp only [csv_answers, if_neg hheld]
        exact Or.inr ⟨by decide, hheld, rfl⟩
  | fdopen fd =>
      by_cases hheld : csv_resource.stream 0 ∈ l.held
      · simp only [csv_answers, if_pos hheld]
        exact rfl
      · simp only [csv_answers, if_neg hheld]
        exact ⟨hheld, rfl⟩
  | close fd => rfl
  | fprintf file line => rfl

def failed_writes : csv_context × Ledger csv_resource :=
  (store_payloads in_order [one_group 5, one_group 6] (csv_context_create "s" "d")).run
    csv_answers Ledger.empty

theorem streams_closed_once_failed :
    failed_writes.1.groups_fd = [("g", 0)] ∧
    (csv_context_destroy failed_writes.1 failed_writes.2).held = ∅ ∧
    (csv_context_destroy failed_writes.1 failed_writes.2).faults = [] :=
  ⟨by decide +kernel, streams_closed_once in_order [one_group 5, one_group 6]
    (exec_run csv_answers csv_answers_effect _ _)⟩

end HwpcSensor.Storage
