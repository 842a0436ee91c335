import Mathlib.Logic.Relation
import Mathlib.Order.WellFounded

namespace HwpcSensor.Transition

variable {σ ℓ : Type}

-- A run of a labelled transition system, with the labels in order.
inductive Run (step : σ → ℓ → σ → Prop) (start : σ) : List ℓ → σ → Prop
  | nil : Run step start [] start
  | snoc {labels : List ℓ} {middle last : σ} {label : ℓ} : Run step start labels middle →
      step middle label last → Run step start (labels ++ [label]) last

variable {step : σ → ℓ → σ → Prop} {start last : σ} {labels : List ℓ}

-- The invariant rule: what holds at the start and across every step holds at
-- the end of every run.
theorem Run.invariant (h : Run step start labels last) (Inv : σ → Prop) (hstart : Inv start)
    (hstep : ∀ s l s', Inv s → step s l s' → Inv s') : Inv last := by
  induction h with
  | nil => exact hstart
  | snoc _ hs ih => exact hstep _ _ _ ih hs

-- Invariants that speak about the labels so far.
theorem Run.history (h : Run step start labels last) (Inv : List ℓ → σ → Prop)
    (hstart : Inv [] start)
    (hstep : ∀ ls s l s', Inv ls s → step s l s' → Inv (ls ++ [l]) s') : Inv labels last := by
  induction h with
  | nil => exact hstart
  | snoc _ hs ih => exact hstep _ _ _ _ ih hs

theorem Run.append {more : List ℓ} {final : σ} (h : Run step start labels last)
    (h' : Run step last more final) : Run step start (labels ++ more) final := by
  induction h' with
  | nil => simpa using h
  | snoc _ hs ih => simpa [List.append_assoc] using ih.snoc hs

theorem Run.single {label : ℓ} (h : step start label last) : Run step start [label] last := by
  have hrun : Run step start ([] ++ [label]) last := .snoc .nil h
  simpa using hrun

theorem Run.mono {step' : σ → ℓ → σ → Prop} (h : Run step start labels last)
    (hle : ∀ s l s', step s l s' → step' s l s') : Run step' start labels last := by
  induction h with
  | nil => exact .nil
  | snoc _ hs ih => exact ih.snoc (hle _ _ _ hs)

-- The simulation rule: when each step is matched by one with its label, or is silent
-- and matched by none, a run is matched by one with the labels that are not silent.
theorem Run.simulated {τ : Type} {step' : τ → ℓ → τ → Prop} {start' : τ}
    (h : Run step start labels last) (R : σ → τ → Prop) (silent : ℓ → Bool)
    (hstart : R start start')
    (hstep : ∀ s l s' t, R s t → step s l s' →
      silent l = true ∧ R s' t ∨ ∃ t', step' t l t' ∧ R s' t') :
    ∃ labels' last', Run step' start' labels' last' ∧ R last last' ∧ labels'.Sublist labels ∧
      labels'.filter (!silent ·) = labels.filter (!silent ·) := by
  induction h with
  | nil => exact ⟨[], start', .nil, hstart, .refl [], rfl⟩
  | @snoc labels middle last label _ hs ih =>
      obtain ⟨labels', middle', hrun, hmiddle, hsublist, hfilter⟩ := ih
      rcases hstep _ _ _ _ hmiddle hs with ⟨hsilent, hlast⟩ | ⟨last', hs', hlast⟩
      · refine ⟨labels', middle', hrun, hlast, hsublist.trans (List.sublist_append_left _ _), ?_⟩
        rw [List.filter_append, hfilter]
        simp [hsilent]
      · refine ⟨labels' ++ [label], last', hrun.snoc hs', hlast, hsublist.append_right _, ?_⟩
        rw [List.filter_append, List.filter_append, hfilter]

-- The progress rule: where each state that is not final can go on to one of a lower
-- rank, it can go on to a final one.
theorem Run.reaches {ρ : Type} [LT ρ] [WellFoundedLT ρ] (Inv Final : σ → Prop) (rank : σ → ρ)
    (hstep : ∀ s l s', Inv s → step s l s' → Inv s')
    (hadvance : ∀ s, Inv s → ¬Final s → ∃ labels s', Run step s labels s' ∧ rank s' < rank s)
    (hstart : Inv start) : ∃ labels last, Run step start labels last ∧ Inv last ∧ Final last := by
  induction hrank : rank start using WellFoundedLT.induction generalizing start with
  | ind r ih =>
      by_cases hfinal : Final start
      · exact ⟨[], start, .nil, hstart, hfinal⟩
      · obtain ⟨labels, middle, hrun, hlower⟩ := hadvance start hstart hfinal
        obtain ⟨more, last, hmore, hlast⟩ := ih (rank middle) (hrank ▸ hlower)
          (hrun.invariant Inv hstart hstep) rfl
        exact ⟨labels ++ more, last, hrun.append hmore, hlast⟩

-- The variant rule: labels whose steps lower a measure that no other step raises
-- cannot come up more often than the measure allows.
theorem Run.bounded (h : Run step start labels last) (Inv : σ → Prop) (lowers : ℓ → Bool)
    (measure : σ → Nat) (hstart : Inv start) (hstep : ∀ s l s', Inv s → step s l s' → Inv s')
    (hlowers : ∀ s l s', Inv s → step s l s' → lowers l = true → measure s' < measure s)
    (hothers : ∀ s l s', Inv s → step s l s' → lowers l = false → measure s' ≤ measure s) :
    (labels.filter lowers).length + measure last ≤ measure start := by
  induction h with
  | nil => simp
  | @snoc labels middle last label hrun hs ih =>
      have hinv := hrun.invariant Inv hstart hstep
      rw [List.filter_append, List.length_append]
      cases hlabel : lowers label with
      | true =>
          have hlt := hlowers _ _ _ hinv hs hlabel
          simp only [List.filter_cons, hlabel, List.filter_nil, if_true, List.length_singleton]
          omega
      | false =>
          have hle := hothers _ _ _ hinv hs hlabel
          simp only [List.filter_cons, hlabel, List.filter_nil, Bool.false_eq_true, if_false,
            List.length_nil]
          omega

end HwpcSensor.Transition
