import HwpcSensor.Perf.Descriptors.Ledger

namespace HwpcSensor.Perf

open Interaction Ownership Syscall

def cgroup_fds (cgroup_fd : Int) : List Int :=
  if IsDescriptor cgroup_fd then [cgroup_fd] else []

def pointer_fds {α : Type} (fds : α → List Int) (pointer : Option α) : List Int :=
  pointer.elim [] fds

-- An item that does not get into a table is lost with what it leads to.
theorem flatMap_zhashx_insert_dropped {β : Type} (order : hash_order) (table : zhashx β)
    (key : String) (value : β) (f : String × β → List Int) :
    ∃ dropped, (f (key, value) ++ table.flatMap f).Perm
        ((zhashx_insert order table key value).flatMap f ++ dropped) ∧
      (key ∉ zhashx_keys table → dropped = []) := by
  by_cases hmem : key ∈ zhashx_keys table
  · rw [zhashx_insert_of_mem order hmem]
    exact ⟨f (key, value), List.perm_append_comm, fun hnot => absurd hmem hnot⟩
  · refine ⟨[], ?_, fun _ => rfl⟩
    rw [List.append_nil]
    exact ((zhashx_insert_perm order hmem value).flatMap_right f).symm

theorem mem_zhashx_keys_insert {β : Type} (order : hash_order) {table : zhashx β}
    {key other : String} {value : β}
    (h : other ∈ zhashx_keys (zhashx_insert order table key value)) :
    other ∈ zhashx_keys table ∨ other = key := by
  by_cases hmem : key ∈ zhashx_keys table
  · rw [zhashx_insert_of_mem order hmem] at h
    exact Or.inl h
  · have hperm := zhashx_keys_insert_perm order hmem value
    exact (List.mem_cons.mp (hperm.mem_iff.mp h)).symm

section Destroy

variable {old : Int → Prop}

theorem spends_cpu_destroy (ctx : perf_group_cpu_context) :
    Spends old ctx.perf_fds (perf_group_cpu_context_destroy ctx) := by
  have h : Spends old (ctx.perf_fds.flatMap fun fd => [fd])
      (perf_group_cpu_context_destroy ctx) :=
    Spends.for_all fun fd _ => Spends.close fd
  rwa [List.flatMap_singleton'] at h

theorem spends_pkg_destroy (ctx : perf_group_pkg_context) :
    Spends old (pkg_fds ctx) (perf_group_pkg_context_destroy ctx) :=
  Spends.for_all fun item _ => spends_cpu_destroy item.2

theorem spends_group_destroy (ctx : perf_group_context) :
    Spends old (group_fds ctx) (perf_group_context_destroy ctx) :=
  Spends.for_all fun item _ => spends_pkg_destroy item.2

theorem spends_groups_destroy (ctx : perf_context) :
    Spends old (groups_fds ctx)
      (for_all (fun item => perf_group_context_destroy item.2) ctx.groups_ctx) :=
  Spends.for_all fun item _ => spends_group_destroy item.2

theorem spends_destroy_pointer {α : Type} {destroy : α → program Unit} {fds : α → List Int}
    (h : ∀ ctx, Spends old (fds ctx) (destroy ctx)) (pointer : Option α) :
    Spends old (pointer_fds fds pointer) (destroy_pointer destroy pointer) := by
  cases pointer with
  | none => exact Spends.pure ()
  | some ctx => exact h ctx

theorem spends_cgroup_close (cgroup_fd : Int) :
    Spends old (cgroup_fds cgroup_fd) (close cgroup_fd) := by
  unfold cgroup_fds
  by_cases h : IsDescriptor cgroup_fd
  · rw [if_pos h]
    exact Spends.close cgroup_fd
  · rw [if_neg h]
    exact Spends.close_negative h

end Destroy

section OpenEvents

variable {old : Int → Prop} {ctx : perf_context} {perf_flags : Nat} {cpu : Int} {rest : List Int}

theorem granted_log_perf_event_open {answers : setup_answers} {fd : Int} :
    setup_answers.Granted { answers with perf_opened := answers.perf_opened ++ [fd] } ↔
      answers.Granted ∧ 1 ≤ fd := by
  simp only [setup_answers.Granted, List.forall_mem_append, List.forall_mem_singleton]
  tauto

theorem granted_log_mmap {answers : setup_answers} {buffer : Option Nat} :
    setup_answers.Granted { answers with mapped := answers.mapped ++ [buffer] } ↔
      answers.Granted ∧ buffer ≠ none := by
  simp only [setup_answers.Granted, List.mem_append, List.mem_singleton, not_or, ne_eq, eq_comm]
  tauto

-- Each descriptor of an event that the kernel gave went into the list of its cpu.
def setup_answers.Recorded (answers : setup_answers) : Prop :=
  0 ∉ answers.perf_opened ∧ none ∉ answers.mapped

theorem setup_answers.Granted.recorded {answers : setup_answers} (h : answers.Granted) :
    answers.Recorded := by
  refine ⟨fun hzero => ?_, h.2⟩
  have hpos := h.1 0 hzero
  omega

theorem exec_perf_event_open {attr : perf_event_attr} {pid group_fd fd : Int}
    {s s' : descriptor_state} (hledger : Ledger old rest s) (hgranted : s.answers.Granted)
    (h : Exec descriptor_step (perf_event_open attr pid cpu group_fd perf_flags) s fd s') :
    s'.answers.opened = s.answers.opened ∧ (s'.answers.Granted ↔ 1 ≤ fd) ∧
      (ClosesOwned s → ClosesOwned s') ∧ (1 ≤ fd → Ledger old (fd :: rest) s') ∧
      (fd < 1 → ∃ leaked, Ledger old (leaked ++ rest) s' ∧
        (leaked = [] ↔ s'.answers.Recorded)) := by
  obtain ⟨table, hmoves, hfree, rfl⟩ := exec_perform.mp h
  have hmoved := hledger.moves hmoves
  have hgive : IsDescriptor fd → Ledger old (fd :: rest)
      ((give { s with table := table } fd).log_perf_event_open fd) :=
    fun hfd => (hmoved.give hfd hfree).of_table rfl
  refine ⟨?_, ?_, fun hclean => ?_, fun hfd => hgive ?_, fun hfd => ?_⟩
  · simp [descriptor_state.log_perf_event_open]
  · simp only [descriptor_state.log_perf_event_open, give_answers, granted_log_perf_event_open,
      hgranted, true_and]
  · have hmoved : ClosesOwned { s with table := table } := hclean.moves hmoves
    exact closes_owned_give.mpr hmoved
  · unfold IsDescriptor
    omega
  · have hrecorded : ((give { s with table := table } fd).log_perf_event_open
        fd).answers.Recorded ↔ fd ≠ 0 := by
      simp only [descriptor_state.log_perf_event_open, give_answers, setup_answers.Recorded,
        List.mem_append, List.mem_singleton, hgranted.recorded.1, hgranted.2, false_or,
        not_false_eq_true, and_true, ne_eq, eq_comm]
    rw [hrecorded]
    by_cases hzero : fd = 0
    · subst hzero
      exact ⟨[0], hgive (by decide), by simp⟩
    · have hnegative : ¬IsDescriptor fd := by
        unfold IsDescriptor
        omega
      exact ⟨[], (hmoved.give_negative hnegative).of_table rfl, by simp [hzero]⟩

theorem exec_mmap {fds : List Int} {fd : Int} {buffer : Option Nat} {s s' : descriptor_state}
    (hledger : Ledger old fds s) (h : Exec descriptor_step (mmap fd) s buffer s') :
    s'.answers = { s.answers with mapped := s.answers.mapped ++ [buffer] } ∧
      (ClosesOwned s → ClosesOwned s') ∧ Ledger old fds s' := by
  obtain ⟨table, hmoves, rfl⟩ := exec_perform.mp h
  exact ⟨rfl, fun hclean => hclean.moves hmoves, (hledger.moves hmoves).of_table rfl⟩

-- Whatever is opened is in the list of the cpu, unless its mapping failed or it
-- is number 0, and the events are all opened exactly when the kernel granted
-- everything.
theorem exec_open_events {events : List event_config} {group_fd : Int}
    {cpu_ctx : perf_group_cpu_context} {result : Int × perf_group_cpu_context}
    {s s' : descriptor_state}
    (h : Exec descriptor_step (open_events ctx perf_flags cpu group_fd events cpu_ctx) s
      result s')
    (hledger : Ledger old (cpu_ctx.perf_fds ++ rest) s) (hgranted : s.answers.Granted) :
    s'.answers.opened = s.answers.opened ∧ (s'.answers.Granted ↔ result.1 = 0) ∧
      (ClosesOwned s → ClosesOwned s') ∧
      ∃ leaked, Ledger old (result.2.perf_fds ++ (leaked ++ rest)) s' ∧
        (leaked = [] ↔ s'.answers.Recorded) := by
  induction events generalizing group_fd cpu_ctx s with
  | nil =>
      obtain ⟨rfl, rfl⟩ := exec_pure.mp h
      exact ⟨rfl, by simpa using hgranted, id, [], hledger, by simpa using hgranted.recorded⟩
  | cons event events ih =>
      unfold open_events at h
      have hadd : ∀ (fd : Int) (t : descriptor_state),
          Ledger old (fd :: (cpu_ctx.perf_fds ++ rest)) t →
          Ledger old ((cpu_ctx.perf_fds ++ [fd]) ++ rest) t := by
        intro fd t ht
        refine ht.perm ?_
        rw [List.append_assoc]
        exact List.perm_middle.symm
      have hleak : ∀ (leaked : List Int) (t : descriptor_state),
          Ledger old (leaked ++ (cpu_ctx.perf_fds ++ rest)) t →
          Ledger old (cpu_ctx.perf_fds ++ (leaked ++ rest)) t := by
        intro leaked t ht
        refine ht.perm ?_
        rw [← List.append_assoc, ← List.append_assoc]
        exact List.perm_append_comm.append_right rest
      by_cases hsampled : group_fd = -1 ∧ ctx.cgroup_fd > -1
      · rw [if_pos hsampled] at h
        obtain ⟨perf_fd, s₁, hopen, h⟩ := exec_bind.mp h
        obtain ⟨hopened₁, hgranted₁, hclean₁, hledger₁, hfailed₁⟩ :=
          exec_perf_event_open hledger hgranted hopen
        by_cases hfd : perf_fd < 1
        · rw [if_pos hfd] at h
          obtain ⟨rfl, rfl⟩ := exec_pure.mp h
          obtain ⟨leaked, hleaked, hrecorded⟩ := hfailed₁ hfd
          refine ⟨hopened₁, ?_, hclean₁, leaked, hleak leaked _ hleaked, hrecorded⟩
          rw [hgranted₁]
          simp only [reduceCtorEq, iff_false]
          omega
        · rw [if_neg hfd] at h
          obtain ⟨buffer, s₂, hmap, h⟩ := exec_bind.mp h
          have hgranted₁ : s₁.answers.Granted := hgranted₁.mpr (by omega)
          obtain ⟨hanswers₂, hclean₂, hledger₂⟩ := exec_mmap (hledger₁ (by omega)) hmap
          have hopened₂ : s₂.answers.opened = s.answers.opened := by
            rw [hanswers₂]
            exact hopened₁
          cases buffer with
          | none =>
              obtain ⟨rfl, rfl⟩ := exec_pure.mp h
              refine ⟨hopened₂, ?_, fun hclean => hclean₂ (hclean₁ hclean), [perf_fd],
                hleak [perf_fd] _ hledger₂, ?_⟩
              · rw [hanswers₂, granted_log_mmap]
                simp
              · simp [hanswers₂, setup_answers.Recorded]
          | some buffer =>
              obtain ⟨hopened, hresult, hclean, hledger'⟩ := ih h (hadd perf_fd s₂ hledger₂)
                (by rw [hanswers₂]; exact granted_log_mmap.mpr ⟨hgranted₁, by simp⟩)
              exact ⟨hopened.trans hopened₂, hresult,
                fun hstart => hclean (hclean₂ (hclean₁ hstart)), hledger'⟩
      · rw [if_neg hsampled] at h
        obtain ⟨perf_fd, s₁, hopen, h⟩ := exec_bind.mp h
        obtain ⟨hopened₁, hgranted₁, hclean₁, hledger₁, hfailed₁⟩ :=
          exec_perf_event_open hledger hgranted hopen
        by_cases hfd : perf_fd < 1
        · rw [if_pos hfd] at h
          obtain ⟨rfl, rfl⟩ := exec_pure.mp h
          obtain ⟨leaked, hleaked, hrecorded⟩ := hfailed₁ hfd
          refine ⟨hopened₁, ?_, hclean₁, leaked, hleak leaked _ hleaked, hrecorded⟩
          rw [hgranted₁]
          simp only [reduceCtorEq, iff_false]
          omega
        · rw [if_neg hfd] at h
          obtain ⟨hopened, hresult, hclean, hledger'⟩ := ih h
            (hadd perf_fd s₁ (hledger₁ (by omega))) (hgranted₁.mpr (by omega))
          exact ⟨hopened.trans hopened₁, hresult, fun hstart => hclean (hclean₁ hstart), hledger'⟩

end OpenEvents

section Loops

variable (old : Int → Prop) (config : perf_config) (cgroup_fd : Int) (opened : List Int)

-- The descriptors of the set up: those the pointers lead to, those of the groups
-- stored so far, and the cgroup directory.
structure Holding (fds : List Int) (s : setup_state) (t : descriptor_state) : Prop where
  config : s.ctx.config = config
  cgroup : s.ctx.cgroup_fd = cgroup_fd
  opened : t.answers.opened = opened
  clean : ClosesOwned t
  ledger : Ledger old (fds ++ (groups_fds s.ctx ++ cgroup_fds cgroup_fd)) t

-- With tables that are no tables some may have been lost.
def Going (fds : List Int) (s : setup_state) (t : descriptor_state) : Prop :=
  t.answers.Granted ∧ ∃ dropped, Holding old config cgroup_fd opened (fds ++ dropped) s t ∧
    (config.Valid → dropped = [])

def setup_state.all_fds (s : setup_state) : List Int :=
  pointer_fds group_fds s.group_ctx ++ pointer_fds pkg_fds s.pkg_ctx ++
    pointer_fds perf_group_cpu_context.perf_fds s.cpu_ctx

-- At the error label the three pointers lead to what the context does not have,
-- except for a descriptor that was given but not recorded.
def Failed (s : setup_state) (t : descriptor_state) : Prop :=
  (¬t.answers.Granted ∨ ¬CpuIdsParse config) ∧
    ∃ leaked, Holding old config cgroup_fd opened (s.all_fds ++ leaked) s t ∧
      (config.Valid → (leaked = [] ↔ t.answers.Recorded))

-- The table that a pointer leads to has no other keys.
def KeysWithin {α β : Type} (table : α → zhashx β) (pointer : Option α) (keys : List String) :
    Prop :=
  ∃ ctx, pointer = some ctx ∧ zhashx_keys (table ctx) ⊆ keys

variable {old config cgroup_fd opened} {order : hash_order} {perf_flags : Nat}
  {group : events_group} {fds done : List Int} {keys : List String} {s : setup_state}
  {result : Int × setup_state} {t t' : descriptor_state}

theorem Going.malloc {allocated : Bool} (h : Going old config cgroup_fd opened fds s t)
    (hexec : Exec descriptor_step malloc t allocated t') :
    allocated = true ∧ Going old config cgroup_fd opened fds s t' := by
  obtain ⟨table, hmoves, hallocated, rfl⟩ := exec_perform.mp hexec
  obtain ⟨hgranted, dropped, hholding, hvalid⟩ := h
  exact ⟨hallocated, hgranted, dropped, ⟨hholding.config, hholding.cgroup, hholding.opened,
    hholding.clean.moves hmoves, hholding.ledger.moves hmoves⟩, hvalid⟩

theorem Going.of_ctx {s' : setup_state} (h : Going old config cgroup_fd opened fds s t)
    (hctx : s'.ctx = s.ctx) : Going old config cgroup_fd opened fds s' t := by
  obtain ⟨hgranted, dropped, ⟨hc, hg, ho, hclean, hledger⟩, hvalid⟩ := h
  rw [← hctx] at hc hg hledger
  exact ⟨hgranted, dropped, ⟨hc, hg, ho, hclean, hledger⟩, hvalid⟩

theorem Going.store {fds' dropped : List Int} {s' : setup_state}
    (h : Going old config cgroup_fd opened fds s t) (hconfig : s'.ctx.config = s.ctx.config)
    (hcgroup : s'.ctx.cgroup_fd = s.ctx.cgroup_fd)
    (hperm : (fds ++ groups_fds s.ctx).Perm (fds' ++ groups_fds s'.ctx ++ dropped))
    (hdropped : config.Valid → dropped = []) : Going old config cgroup_fd opened fds' s' t := by
  obtain ⟨hgranted, lost, ⟨hc, hg, ho, hclean, hledger⟩, hlost⟩ := h
  refine ⟨hgranted, dropped ++ lost, ⟨hconfig.trans hc, hcgroup.trans hg, ho, hclean,
    hledger.perm ?_⟩, fun hvalid => ?_⟩
  · rw [List.perm_iff_count] at hperm ⊢
    intro fd
    have hcount := hperm fd
    simp only [List.count_append] at hcount ⊢
    omega
  · rw [hdropped hvalid, hlost hvalid, List.append_nil]

theorem store_cpu_dropped (order : hash_order) (cpu_id : String)
    (cpu_ctx : perf_group_cpu_context)
    (hkeys : KeysWithin perf_group_pkg_context.cpus_ctx s.pkg_ctx keys) :
    KeysWithin perf_group_pkg_context.cpus_ctx (s.store_cpu order cpu_id cpu_ctx).pkg_ctx
      (keys ++ [cpu_id]) ∧
    ∃ dropped, (cpu_ctx.perf_fds ++ pointer_fds pkg_fds s.pkg_ctx).Perm
        (pointer_fds pkg_fds (s.store_cpu order cpu_id cpu_ctx).pkg_ctx ++ dropped) ∧
      (cpu_id ∉ keys → dropped = []) := by
  obtain ⟨pkg_ctx, hpkg, hsub⟩ := hkeys
  simp only [setup_state.store_cpu, hpkg, Option.map_some]
  refine ⟨⟨_, rfl, fun key hkey => ?_⟩, ?_⟩
  · rcases mem_zhashx_keys_insert order hkey with hold | rfl
    · exact List.mem_append_left _ (hsub hold)
    · exact List.mem_append_right _ List.mem_cons_self
  · obtain ⟨dropped, hperm, hfresh⟩ := flatMap_zhashx_insert_dropped order pkg_ctx.cpus_ctx
      cpu_id cpu_ctx fun item => item.2.perf_fds
    exact ⟨dropped, hperm, fun hnot => hfresh fun hmem => hnot (hsub hmem)⟩

theorem store_pkg_dropped (order : hash_order) (pkg_id : String)
    (hpkg : ∃ pkg_ctx, s.pkg_ctx = some pkg_ctx)
    (hkeys : KeysWithin perf_group_context.pkgs_ctx s.group_ctx keys) :
    KeysWithin perf_group_context.pkgs_ctx (s.store_pkg order pkg_id).group_ctx
      (keys ++ [pkg_id]) ∧
    ∃ dropped, (pointer_fds pkg_fds s.pkg_ctx ++ pointer_fds group_fds s.group_ctx).Perm
        (pointer_fds group_fds (s.store_pkg order pkg_id).group_ctx ++ dropped) ∧
      (pkg_id ∉ keys → dropped = []) := by
  obtain ⟨pkg_ctx, hpkg⟩ := hpkg
  obtain ⟨group_ctx, hgroup, hsub⟩ := hkeys
  simp only [setup_state.store_pkg, hpkg, hgroup, Option.map_some]
  refine ⟨⟨_, rfl, fun key hkey => ?_⟩, ?_⟩
  · rcases mem_zhashx_keys_insert order hkey with hold | rfl
    · exact List.mem_append_left _ (hsub hold)
    · exact List.mem_append_right _ List.mem_cons_self
  · obtain ⟨dropped, hperm, hfresh⟩ := flatMap_zhashx_insert_dropped order group_ctx.pkgs_ctx
      pkg_id pkg_ctx fun item => pkg_fds item.2
    exact ⟨dropped, hperm, fun hnot => hfresh fun hmem => hnot (hsub hmem)⟩

theorem store_group_dropped (order : hash_order) (group_name : String)
    (hgroup : ∃ group_ctx, s.group_ctx = some group_ctx)
    (hkeys : zhashx_keys s.ctx.groups_ctx ⊆ keys) :
    zhashx_keys (s.store_group order group_name).ctx.groups_ctx ⊆ keys ++ [group_name] ∧
    ∃ dropped, (pointer_fds group_fds s.group_ctx ++ groups_fds s.ctx).Perm
        (groups_fds (s.store_group order group_name).ctx ++ dropped) ∧
      (group_name ∉ keys → dropped = []) := by
  obtain ⟨group_ctx, hgroup⟩ := hgroup
  simp only [setup_state.store_group, hgroup]
  refine ⟨fun key hkey => ?_, ?_⟩
  · rcases mem_zhashx_keys_insert order hkey with hold | rfl
    · exact List.mem_append_left _ (hkeys hold)
    · exact List.mem_append_right _ List.mem_cons_self
  · obtain ⟨dropped, hperm, hfresh⟩ := flatMap_zhashx_insert_dropped order s.ctx.groups_ctx
      group_name group_ctx fun item => group_fds item.2
    exact ⟨dropped, hperm, fun hnot => hfresh fun hmem => hnot (hkeys hmem)⟩

theorem store_pkg_ctx (pkg_id : String) : (s.store_pkg order pkg_id).ctx = s.ctx := by
  unfold setup_state.store_pkg
  cases s.pkg_ctx <;> rfl

theorem store_group_config (s : setup_state) (order : hash_order) (group_name : String) :
    (s.store_group order group_name).ctx.config = s.ctx.config ∧
      (s.store_group order group_name).ctx.cgroup_fd = s.ctx.cgroup_fd := by
  unfold setup_state.store_group
  cases s.group_ctx <;> exact ⟨rfl, rfl⟩

theorem exec_setup_cpu {cpu_id : String}
    (h : Going old config cgroup_fd opened
      (pointer_fds group_fds s.group_ctx ++ pointer_fds pkg_fds s.pkg_ctx) s t)
    (hkeys : KeysWithin perf_group_pkg_context.cpus_ctx s.pkg_ctx keys)
    (hfresh : config.Valid → cpu_id ∉ keys)
    (hbad : parse_cpu_id cpu_id = none → ¬CpuIdsParse config)
    (hexec : Exec descriptor_step (setup_cpu order perf_flags group cpu_id s) t result t') :
    (result.1 = 0 → Going old config cgroup_fd opened
      (pointer_fds group_fds result.2.group_ctx ++ pointer_fds pkg_fds result.2.pkg_ctx)
      result.2 t' ∧ parse_cpu_id cpu_id ≠ none ∧ result.2.ctx = s.ctx ∧
        result.2.group_ctx = s.group_ctx ∧
        KeysWithin perf_group_pkg_context.cpus_ctx result.2.pkg_ctx (keys ++ [cpu_id])) ∧
    (result.1 ≠ 0 → Failed old config cgroup_fd opened result.2 t') := by
  obtain ⟨allocated, t₁, hmalloc, hrest⟩ := exec_bind.mp hexec
  obtain ⟨rfl, hgranted, dropped, hgoing, hdropped⟩ := h.malloc hmalloc
  rw [if_neg (by simp)] at hrest
  obtain ⟨setup, t₂, hsetup, hlast⟩ := exec_bind.mp hrest
  unfold perf_events_group_setup_cpu at hsetup
  cases hparse : parse_cpu_id cpu_id with
  | none =>
      rw [hparse] at hsetup
      obtain ⟨rfl, rfl⟩ := exec_pure.mp hsetup
      rw [if_pos (by simp)] at hlast
      obtain ⟨rfl, rfl⟩ := exec_pure.mp hlast
      refine ⟨by simp, fun _ => ⟨Or.inr (hbad hparse), dropped, ⟨hgoing.config, hgoing.cgroup,
        hgoing.opened, hgoing.clean, ?_⟩, fun hvalid => ?_⟩⟩
      · have hnil : ∀ fds : List Int, fds ++ perf_group_cpu_context_create.perf_fds = fds :=
          List.append_nil
        simpa only [setup_state.all_fds, pointer_fds, Option.elim_some, hnil] using hgoing.ledger
      · exact iff_of_true (hdropped hvalid) hgranted.recorded
  | some cpu =>
      rw [hparse] at hsetup
      obtain ⟨hopened, hresult, hclean, leaked, hledger, hleaked⟩ :=
        exec_open_events hsetup hgoing.ledger hgranted
      by_cases hzero : setup.1 = 0
      · rw [if_neg (by simpa using hzero)] at hlast
        obtain ⟨rfl, rfl⟩ := exec_pure.mp hlast
        have hgranted' := hresult.mpr hzero
        obtain rfl := hleaked.mpr hgranted'.recorded
        obtain ⟨hkeys', lost, hperm, hlost⟩ := store_cpu_dropped order cpu_id setup.2 hkeys
        refine ⟨fun _ => ⟨⟨hgranted', lost ++ dropped, ⟨hgoing.config, hgoing.cgroup,
          hopened.trans hgoing.opened, hclean hgoing.clean, hledger.perm ?_⟩, fun hvalid => ?_⟩,
          by simp, rfl, rfl, hkeys'⟩, by simp⟩
        · rw [List.perm_iff_count] at hperm ⊢
          intro fd
          have hcount := hperm fd
          simp only [setup_state.store_cpu, List.append_eq, List.nil_append,
            List.count_append] at hcount ⊢
          omega
        · rw [hlost (hfresh hvalid), hdropped hvalid, List.append_nil]
      · rw [if_pos hzero] at hlast
        obtain ⟨rfl, rfl⟩ := exec_pure.mp hlast
        refine ⟨by simp, fun _ => ⟨Or.inl (mt hresult.mp hzero), leaked ++ dropped,
          ⟨hgoing.config, hgoing.cgroup, hopened.trans hgoing.opened, hclean hgoing.clean,
            hledger.perm ?_⟩, fun hvalid => ?_⟩⟩
        · rw [List.perm_iff_count]
          intro fd
          simp only [setup_state.all_fds, pointer_fds, Option.elim_some, List.append_eq,
            List.count_append]
          omega
        · rw [hdropped hvalid, List.append_nil]
          exact hleaked

theorem not_mem_of_nodup_append {α : Type} {items done rest : List α} {item : α}
    (hnodup : items.Nodup) (hitems : items = done ++ item :: rest) : item ∉ done := by
  rw [hitems, List.nodup_middle, List.nodup_cons] at hnodup
  exact fun hmem => hnodup.1 (List.mem_append_left rest hmem)

theorem exec_setup_pkg {item : String × hwinfo_pkg}
    (h : Going old config cgroup_fd opened (pointer_fds group_fds s.group_ctx) s t)
    (hkeys : KeysWithin perf_group_context.pkgs_ctx s.group_ctx keys)
    (hitem : item ∈ config.hwinfo.pkgs) (hfresh : config.Valid → item.1 ∉ keys)
    (hbad : ∀ cpu_id ∈ selected_cpus group item.2, parse_cpu_id cpu_id = none →
      ¬CpuIdsParse config)
    (hexec : Exec descriptor_step (setup_pkg order perf_flags group item s) t result t') :
    (result.1 = 0 → Going old config cgroup_fd opened (pointer_fds group_fds result.2.group_ctx)
      result.2 t' ∧ (∀ cpu_id ∈ selected_cpus group item.2, parse_cpu_id cpu_id ≠ none) ∧
        result.2.ctx = s.ctx ∧
        KeysWithin perf_group_context.pkgs_ctx result.2.group_ctx (keys ++ [item.1])) ∧
    (result.1 ≠ 0 → Failed old config cgroup_fd opened result.2 t') := by
  obtain ⟨allocated, t₁, hmalloc, hrest⟩ := exec_bind.mp hexec
  obtain ⟨rfl, hgoing⟩ := h.malloc hmalloc
  rw [if_neg (by simp), setup_cpus_eq_for_each] at hrest
  obtain ⟨setup, t₂, hsetup, hlast⟩ := exec_bind.mp hrest
  have hstart : Going old config cgroup_fd opened
      (pointer_fds group_fds s.group_ctx ++
        pointer_fds pkg_fds (some perf_group_pkg_context_create))
      { s with pkg_ctx := some perf_group_pkg_context_create } t₁ := by
    rw [show pointer_fds pkg_fds (some perf_group_pkg_context_create) = [] from rfl,
      List.append_nil]
    exact hgoing.of_ctx rfl
  obtain ⟨hok, hfail⟩ := exec_for_each hsetup
    (fun done s' t => Going old config cgroup_fd opened
      (pointer_fds group_fds s'.group_ctx ++ pointer_fds pkg_fds s'.pkg_ctx) s' t ∧
        (∀ cpu_id ∈ done, parse_cpu_id cpu_id ≠ none) ∧ s'.ctx = s.ctx ∧
        s'.group_ctx = s.group_ctx ∧
        KeysWithin perf_group_pkg_context.cpus_ctx s'.pkg_ctx done)
    (Failed old config cgroup_fd opened)
    ⟨hstart, by simp, rfl, rfl, perf_group_pkg_context_create, rfl, List.nil_subset _⟩ (by
      rintro done cpu_id rest s' t result t' hitems ⟨hgoing, hdone, hctx, hgroup, hkeys⟩ hexec
      have hmem : cpu_id ∈ selected_cpus group item.2 := by simp [hitems]
      have hnew : config.Valid → cpu_id ∉ done := fun hvalid =>
        not_mem_of_nodup_append (nodup_selected_cpus (hvalid.cpus item hitem)) hitems
      obtain ⟨hok, hfail⟩ := exec_setup_cpu hgoing hkeys hnew (hbad cpu_id hmem) hexec
      refine ⟨fun hzero => ?_, hfail⟩
      obtain ⟨hgoing', hparse, hctx', hgroup', hkeys'⟩ := hok hzero
      exact ⟨hgoing', List.forall_mem_append.mpr ⟨hdone, List.forall_mem_singleton.mpr hparse⟩,
        hctx'.trans hctx, hgroup'.trans hgroup, hkeys'⟩)
  by_cases hzero : setup.1 = 0
  · rw [if_neg (by simpa using hzero)] at hlast
    obtain ⟨rfl, rfl⟩ := exec_pure.mp hlast
    obtain ⟨hgoing, hparse, hctx, hgroup, pkg_ctx, hpkg, -⟩ := hok hzero
    obtain ⟨hkeys', lost, hperm, hlost⟩ := store_pkg_dropped order item.1 ⟨pkg_ctx, hpkg⟩
      (hgroup ▸ hkeys)
    refine ⟨fun _ => ⟨hgoing.store ?_ ?_ ?_ (fun hvalid => hlost (hfresh hvalid)), hparse, ?_,
      hkeys'⟩, by simp⟩
    · rw [store_pkg_ctx]
    · rw [store_pkg_ctx]
    · rw [store_pkg_ctx]
      rw [List.perm_iff_count] at hperm ⊢
      intro fd
      have hcount := hperm fd
      simp only [List.count_append] at hcount ⊢
      omega
    · rw [store_pkg_ctx, hctx]
  · rw [if_pos hzero] at hlast
    obtain ⟨rfl, rfl⟩ := exec_pure.mp hlast
    exact ⟨by simp, fun _ => hfail hzero⟩

theorem exec_setup_group {item : String × events_group}
    (h : Going old config cgroup_fd opened [] s t) (hkeys : zhashx_keys s.ctx.groups_ctx ⊆ keys)
    (hfresh : config.Valid → item.1 ∉ keys)
    (hbad : ∀ pkg_item ∈ config.hwinfo.pkgs, ∀ cpu_id ∈ selected_cpus item.2 pkg_item.2,
      parse_cpu_id cpu_id = none → ¬CpuIdsParse config)
    (hexec : Exec descriptor_step (setup_group order perf_flags item s) t result t') :
    (result.1 = 0 → Going old config cgroup_fd opened [] result.2 t' ∧
      (∀ pkg_item ∈ config.hwinfo.pkgs, ∀ cpu_id ∈ selected_cpus item.2 pkg_item.2,
        parse_cpu_id cpu_id ≠ none) ∧
      zhashx_keys result.2.ctx.groups_ctx ⊆ keys ++ [item.1]) ∧
    (result.1 ≠ 0 → Failed old config cgroup_fd opened result.2 t') := by
  obtain ⟨allocated, t₁, hmalloc, hrest⟩ := exec_bind.mp hexec
  obtain ⟨rfl, hgoing⟩ := h.malloc hmalloc
  obtain ⟨-, dropped, hholding, -⟩ := id hgoing
  rw [if_neg (by simp), hholding.config] at hrest
  obtain ⟨setup, t₂, hsetup, hlast⟩ := exec_bind.mp hrest
  have hstart : Going old config cgroup_fd opened
      (pointer_fds group_fds (some (perf_group_context_create item.2)))
      { s with group_ctx := some (perf_group_context_create item.2) } t₁ := hgoing.of_ctx rfl
  obtain ⟨hok, hfail⟩ := exec_for_each hsetup
    (fun done s' t => Going old config cgroup_fd opened
      (pointer_fds group_fds s'.group_ctx) s' t ∧
      (∀ pkg_item ∈ done, ∀ cpu_id ∈ selected_cpus item.2 pkg_item.2,
        parse_cpu_id cpu_id ≠ none) ∧ s'.ctx = s.ctx ∧
      KeysWithin perf_group_context.pkgs_ctx s'.group_ctx (done.map Prod.fst))
    (Failed old config cgroup_fd opened)
    ⟨hstart, by simp, rfl, perf_group_context_create item.2, rfl, List.nil_subset _⟩ (by
      rintro done pkg_item rest s' t result t' hitems ⟨hgoing, hdone, hctx, hkeys⟩ hexec
      have hmem : pkg_item ∈ config.hwinfo.pkgs := by simp [hitems]
      have hnew : config.Valid → pkg_item.1 ∉ done.map Prod.fst := fun hvalid =>
        not_mem_of_nodup_append hvalid.pkgs (by rw [hitems, List.map_append, List.map_cons])
      obtain ⟨hok, hfail⟩ := exec_setup_pkg hgoing hkeys hmem hnew (hbad pkg_item hmem) hexec
      refine ⟨fun hzero => ?_, hfail⟩
      obtain ⟨hgoing', hparse, hctx', hkeys'⟩ := hok hzero
      rw [List.map_append]
      exact ⟨hgoing', List.forall_mem_append.mpr ⟨hdone, List.forall_mem_singleton.mpr hparse⟩,
        hctx'.trans hctx, hkeys'⟩)
  by_cases hzero : setup.1 = 0
  · rw [if_neg (by simpa using hzero)] at hlast
    obtain ⟨rfl, rfl⟩ := exec_pure.mp hlast
    obtain ⟨hgoing, hparse, hctx, group_ctx, hgroup, -⟩ := hok hzero
    obtain ⟨hconfig, hcgroup⟩ := store_group_config setup.2 order item.1
    obtain ⟨hkeys', lost, hperm, hlost⟩ := store_group_dropped order item.1 ⟨group_ctx, hgroup⟩
      (hctx ▸ hkeys)
    exact ⟨fun _ => ⟨hgoing.store hconfig hcgroup hperm (fun hvalid => hlost (hfresh hvalid)),
      hparse, hkeys'⟩, by simp⟩
  · rw [if_pos hzero] at hlast
    obtain ⟨rfl, rfl⟩ := exec_pure.mp hlast
    exact ⟨by simp, fun _ => hfail hzero⟩

-- The loop over the groups, from a context without groups.
theorem exec_setup_loop {ctx : perf_context} (hledger : Ledger old (cgroup_fds ctx.cgroup_fd) t)
    (hclean : ClosesOwned t) (hgranted : t.answers.Granted) (hempty : ctx.groups_ctx = [])
    (hexec : Exec descriptor_step (for_each (setup_group order perf_flags)
      ctx.config.events_groups ⟨ctx, none, none, none⟩) t result t') :
    (result.1 = 0 → Going old ctx.config ctx.cgroup_fd t.answers.opened [] result.2 t' ∧
      CpuIdsParse ctx.config) ∧
    (result.1 ≠ 0 → Failed old ctx.config ctx.cgroup_fd t.answers.opened result.2 t') := by
  have hstart : Going old ctx.config ctx.cgroup_fd t.answers.opened []
      ⟨ctx, none, none, none⟩ t := by
    refine ⟨hgranted, [], ⟨rfl, rfl, rfl, hclean, ?_⟩, fun _ => rfl⟩
    rw [show groups_fds ctx = [] by rw [groups_fds, hempty]; rfl]
    exact hledger
  obtain ⟨hok, hfail⟩ := exec_for_each hexec (fun done s t' =>
    Going old ctx.config ctx.cgroup_fd t.answers.opened [] s t' ∧
      (∀ group_item ∈ done, ∀ pkg_item ∈ ctx.config.hwinfo.pkgs,
        ∀ cpu_id ∈ selected_cpus group_item.2 pkg_item.2, parse_cpu_id cpu_id ≠ none) ∧
      zhashx_keys s.ctx.groups_ctx ⊆ done.map Prod.fst)
    (Failed old ctx.config ctx.cgroup_fd t.answers.opened)
    ⟨hstart, by simp, by simp [hempty, zhashx_keys]⟩ (by
      rintro done item rest s t result t' hitems ⟨hgoing, hdone, hkeys⟩ hexec
      have hmem : item ∈ ctx.config.events_groups := by simp [hitems]
      have hnew : ctx.config.Valid → item.1 ∉ done.map Prod.fst := fun hvalid =>
        not_mem_of_nodup_append hvalid.groups (by rw [hitems, List.map_append, List.map_cons])
      obtain ⟨hok, hfail⟩ := exec_setup_group hgoing hkeys hnew
        (fun pkg_item hpkg cpu_id hcpu hnone hparse =>
          hparse item hmem pkg_item hpkg cpu_id hcpu hnone) hexec
      refine ⟨fun hzero => ?_, hfail⟩
      obtain ⟨hgoing', hparse, hkeys'⟩ := hok hzero
      rw [List.map_append]
      exact ⟨hgoing', List.forall_mem_append.mpr ⟨hdone, List.forall_mem_singleton.mpr hparse⟩,
        hkeys'⟩)
  exact ⟨fun hzero => ⟨(hok hzero).1, (hok hzero).2.1⟩, hfail⟩

end Loops

end HwpcSensor.Perf
