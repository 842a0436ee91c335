import HwpcSensor.Perf.Actor.Lemmas
import HwpcSensor.Perf.Descriptors

namespace HwpcSensor.Perf

open Interaction Ownership Syscall

-- The actor has these descriptors open, and no others but those of `old`.
structure Ledger (old : Int → Prop) (fds : List Int) (s : descriptor_state) : Prop where
  holds : s.table.Holds .actor fds
  valid : ∀ fd ∈ fds, IsDescriptor fd
  only : ∀ fd, s.table.owner fd = some .actor → fd ∈ fds ∨ old fd

variable {old : Int → Prop} {fds rest : List Int} {s s' : descriptor_state}

theorem Ledger.perm (h : Ledger old fds s) (hperm : fds.Perm rest) : Ledger old rest s :=
  ⟨h.holds.subperm hperm.symm.subperm, fun fd hfd => h.valid fd (hperm.mem_iff.mpr hfd),
    fun fd hfd => (h.only fd hfd).imp_left fun hmem => hperm.subset hmem⟩

theorem Ledger.of_table (h : Ledger old fds s) (htable : s'.table = s.table) :
    Ledger old fds s' := by
  obtain ⟨hholds, hvalid, honly⟩ := h
  rw [← htable] at hholds honly
  exact ⟨hholds, hvalid, honly⟩

theorem Ledger.moves {table : Table Int party} (h : Ledger old fds s)
    (hmoves : Table.Moves IsDescriptor .actor s.table table) :
    Ledger old fds { s with table := table } :=
  ⟨h.holds.moves hmoves, h.valid, fun fd hfd => h.only fd ((hmoves.owner_self fd).mp hfd)⟩

theorem Ledger.give {fd : Int} (h : Ledger old fds s) (hfd : IsDescriptor fd)
    (hfree : FreeDescriptor s fd) :
    Ledger old (fd :: fds) (give s fd) := by
  unfold Perf.give
  rw [if_pos hfd]
  refine ⟨h.holds.acquire (hfree hfd), List.forall_mem_cons.mpr ⟨hfd, h.valid⟩, ?_⟩
  intro other hother
  rw [Table.owner_acquire] at hother
  by_cases heq : other = fd
  · exact Or.inl (heq ▸ List.mem_cons_self)
  · rw [if_neg heq] at hother
    exact (h.only other hother).imp_left (List.mem_cons_of_mem _)

theorem Ledger.give_negative {fd : Int} (h : Ledger old fds s) (hfd : ¬IsDescriptor fd) :
    Ledger old fds (Perf.give s fd) := by
  unfold Perf.give
  rwa [if_neg hfd]

theorem Ledger.release {fd : Int} (h : Ledger old (fd :: fds) s) :
    Ledger old fds { s with table := s.table.release fd } := by
  refine ⟨h.holds.release, (List.forall_mem_cons.mp h.valid).2, ?_⟩
  intro other hother
  rw [Table.owner_release] at hother
  by_cases heq : other = fd
  · rw [if_pos heq] at hother
    cases hother
  · rw [if_neg heq] at hother
    exact (h.only other hother).imp_left (List.mem_of_ne_of_mem heq)

theorem Ledger.release_of_not_mem {fd : Int} (h : Ledger old fds s) (hfd : fd ∉ fds) :
    Ledger old fds { s with table := s.table.release fd } := by
  refine ⟨h.holds.release_of_not_mem hfd, h.valid, ?_⟩
  intro other hother
  by_contra hnot
  exact Table.owner_release_ne (mt (h.only other) hnot) hother

@[simp] theorem give_answers (s : descriptor_state) (fd : Int) :
    (give s fd).answers = s.answers := by
  unfold give
  split_ifs <;> rfl

theorem serve_quiet {call : syscall} {answer : syscall_answer call} (hquiet : QuietCall call)
    (h : Serve s call answer s') : s' = s := by
  cases call <;> first | exact False.elim hquiet | exact h | exact h.2

-- Closes that were all of own descriptors, and nothing asked of the kernel.
structure Orderly (s s' : descriptor_state) : Prop where
  clean : ClosesOwned s → ClosesOwned s'
  answers : s'.answers = s.answers

theorem Orderly.refl (s : descriptor_state) : Orderly s s :=
  ⟨id, rfl⟩

theorem Orderly.trans {s₁ s₂ s₃ : descriptor_state} (h : Orderly s₁ s₂) (h' : Orderly s₂ s₃) :
    Orderly s₁ s₃ :=
  ⟨fun hclean => h'.clean (h.clean hclean), h'.answers.trans h.answers⟩

theorem Orderly.moves {table : Table Int party}
    (hmoves : Table.Moves IsDescriptor .actor s.table table) :
    Orderly s { s with table := table } :=
  ⟨fun hclean => hclean.moves hmoves, rfl⟩

theorem Orderly.release {fd : Int} (hfd : IsDescriptor fd → s.table.owner fd = some .actor) :
    Orderly s { s with table := s.table.release fd } :=
  ⟨fun hclean => Table.clean_release_iff.mpr ⟨hclean, hfd⟩, rfl⟩

theorem closes_owned_give {fd : Int} : ClosesOwned (give s fd) ↔ ClosesOwned s := by
  unfold give
  split_ifs <;> exact Iff.rfl

-- A program that, whatever else is open, closes these descriptors and no others
-- that were open before it.
def Spends {α : Type} (old : Int → Prop) (spent : List Int) (program : program α) : Prop :=
  ∀ rest s result s', Ledger old (spent ++ rest) s → Exec descriptor_step program s result s' →
    Ledger old rest s' ∧ Orderly s s'

namespace Spends

variable {α β : Type} {old : Int → Prop} {spent spent' : List Int}

theorem pure (value : α) : Spends old [] (pure value) := by
  intro rest s result s' hledger hexec
  obtain ⟨rfl, rfl⟩ := exec_pure.mp hexec
  exact ⟨hledger, .refl _⟩

theorem bind {program : program α} {f : α → HwpcSensor.program β}
    (hprogram : Spends old spent program) (hf : ∀ value, Spends old spent' (f value)) :
    Spends old (spent ++ spent') (program >>= f) := by
  intro rest s result s' hledger hexec
  obtain ⟨value, middle, hfirst, hsecond⟩ := exec_bind.mp hexec
  rw [List.append_assoc] at hledger
  obtain ⟨hmiddle, horderly⟩ := hprogram _ _ _ _ hledger hfirst
  obtain ⟨hafter, horderly'⟩ := hf value _ _ _ _ hmiddle hsecond
  exact ⟨hafter, horderly.trans horderly'⟩

-- Nothing is spent before the rest of the program.
theorem keep_bind {program : program α} {f : α → HwpcSensor.program β}
    (hprogram : Spends old [] program) (hf : ∀ value, Spends old spent (f value)) :
    Spends old spent (program >>= f) :=
  bind hprogram hf

theorem of_uses {program : program α} (h : program.Uses QuietCall) : Spends old [] program := by
  intro rest s result s' hledger hexec
  refine hexec.preserves_uses h (fun t => Ledger old rest t ∧ Orderly s t) ?_ ⟨hledger, .refl s⟩
  rintro t call answer t' hquiet ⟨hledger, horderly⟩ ⟨table, hmoves, hserve⟩
  rw [serve_quiet hquiet hserve]
  exact ⟨hledger.moves hmoves, horderly.trans (.moves hmoves)⟩

theorem perform {call : syscall} (h : QuietCall call) :
    Spends old [] (Interaction.perform call : HwpcSensor.program (syscall_answer call)) :=
  of_uses (Prog.Uses.perform h)

theorem close (fd : Int) : Spends old [fd] (Syscall.close fd) := by
  intro rest s result s' hledger hexec
  obtain ⟨table, hmoves, rfl⟩ := exec_perform.mp hexec
  have hmoved : Ledger old (fd :: rest) _ := hledger.moves hmoves
  exact ⟨hmoved.release, (Orderly.moves hmoves).trans
    (.release fun _ => hmoved.holds.owned fd List.mem_cons_self)⟩

theorem fclose (stream : Int) : Spends old [stream] (Syscall.fclose stream) := by
  intro rest s result s' hledger hexec
  exact close stream rest s result s' hledger (exec_perform.mpr (exec_perform.mp hexec))

-- A negative number is no descriptor: such a close does nothing.
theorem close_negative {fd : Int} (hfd : ¬IsDescriptor fd) : Spends old [] (Syscall.close fd) := by
  intro rest s result s' hledger hexec
  obtain ⟨table, hmoves, rfl⟩ := exec_perform.mp hexec
  have hmoved : Ledger old rest _ := hledger.moves hmoves
  exact ⟨hmoved.release_of_not_mem fun hmem => hfd (hmoved.valid fd hmem),
    (Orderly.moves hmoves).trans (.release fun h => absurd h hfd)⟩

theorem fopen_bind {path : String} {f : Option Int → HwpcSensor.program α}
    (hnone : Spends old [] (f none)) (hsome : ∀ stream, Spends old [stream] (f (some stream))) :
    Spends old [] (fopen path >>= f) := by
  intro rest s result s' hledger hexec
  obtain ⟨stream, middle, ⟨table, hmoves, hserve⟩, hexec⟩ := exec_perform_bind.mp hexec
  have hmoved := hledger.moves hmoves
  cases stream with
  | none =>
      have hmiddle : middle = { s with table := table } := hserve
      subst hmiddle
      obtain ⟨hafter, horderly⟩ := hnone rest { s with table := table } result s' hmoved hexec
      exact ⟨hafter, (Orderly.moves hmoves).trans horderly⟩
  | some stream =>
      obtain ⟨hfd, hfree, rfl⟩ := hserve
      obtain ⟨hafter, horderly⟩ := hsome stream _ _ _ _ (hmoved.give hfd hfree) hexec
      exact ⟨hafter, (Orderly.moves hmoves).trans
        (.trans ⟨closes_owned_give.mpr, give_answers _ stream⟩ horderly)⟩

theorem for_all {ι : Type} {body : ι → program Unit} {items : List ι} {f : ι → List Int}
    (h : ∀ item ∈ items, Spends old (f item) (body item)) :
    Spends old (items.flatMap f) (for_all body items) := by
  induction items with
  | nil => exact pure ()
  | cons item rest ih =>
      exact bind (h item List.mem_cons_self) fun _ =>
        ih fun item hitem => h item (List.mem_cons_of_mem _ hitem)

end Spends

end HwpcSensor.Perf
