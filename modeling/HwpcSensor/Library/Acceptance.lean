import HwpcSensor.Library.LastWrite

namespace HwpcSensor.LastWrite

variable {σ ι : Type} {invariant : σ → Prop} {allowed allowed' : Prop} {f g : σ → Option σ}

-- From a state of the invariant the operation succeeds exactly when it is allowed,
-- and it keeps the invariant.
def Takes (invariant : σ → Prop) (allowed : Prop) (f : σ → Option σ) : Prop :=
  ∀ state, invariant state →
    ((f state).isSome ↔ allowed) ∧ ∀ next, f state = some next → invariant next

theorem Takes.none : Takes invariant False fun _ => none := by
  intro state _
  exact ⟨by simp, fun next hnext => by cases hnext⟩

theorem Takes.some {change : σ → σ} (h : ∀ state, invariant state → invariant (change state)) :
    Takes invariant True fun state => some (change state) := by
  intro state hstate
  refine ⟨by simp, fun next hnext => ?_⟩
  obtain rfl := Option.some.inj hnext
  exact h state hstate

theorem Takes.congr (h : Takes invariant allowed f) (hiff : allowed ↔ allowed') :
    Takes invariant allowed' f :=
  fun state hstate => ⟨(h state hstate).1.trans hiff, (h state hstate).2⟩

theorem Takes.bind (hf : Takes invariant allowed f) (hg : Takes invariant allowed' g) :
    Takes invariant (allowed ∧ allowed') fun state => (f state).bind g := by
  intro state hstate
  obtain ⟨hallowed, hkept⟩ := hf state hstate
  dsimp only
  cases hnext : f state with
  | none =>
      rw [hnext] at hallowed
      refine ⟨iff_of_false (by simp) fun h => ?_, fun next h => by cases h⟩
      exact absurd (hallowed.mpr h.1) (by simp)
  | some next =>
      rw [hnext] at hallowed
      obtain ⟨hallowed', hkept'⟩ := hg next (hkept next hnext)
      exact ⟨hallowed'.trans (and_iff_right (hallowed.mp rfl)).symm, hkept'⟩

theorem Takes.ite {c : Prop} [Decidable c] (hf : Takes invariant allowed f)
    (hg : Takes invariant allowed' g) :
    Takes invariant (if c then allowed else allowed') fun state =>
      if c then f state else g state := by
  by_cases h : c
  · simpa only [if_pos h] using hf
  · simpa only [if_neg h] using hg

-- An operation with a narrower invariant of its own, which holds on entry.
theorem Takes.within {inner : σ → Prop} {enter : σ → σ} (h : Takes inner allowed f)
    (henter : ∀ state, invariant state → inner (enter state))
    (hleave : ∀ state, inner state → invariant state) :
    Takes invariant allowed fun state => f (enter state) := by
  intro state hstate
  obtain ⟨hallowed, hkept⟩ := h (enter state) (henter state hstate)
  exact ⟨hallowed, fun next hnext => hleave next (hkept next hnext)⟩

-- A loop over items is allowed exactly when each of them is.
theorem Takes.run {step : σ → ι → Option σ} {run : List ι → σ → Option σ} {taken : ι → Prop}
    (hrun : Runs step run) (hstep : ∀ item, Takes invariant (taken item) fun s => step s item)
    (items : List ι) : Takes invariant (∀ item ∈ items, taken item) (run items) := by
  induction items with
  | nil =>
      rw [funext hrun.nil]
      exact (Takes.some fun _ => id).congr (by simp)
  | cons item rest ih =>
      rw [funext (hrun.cons item rest)]
      exact ((hstep item).bind ih).congr List.forall_mem_cons.symm

-- The operation on a part of the state that has an invariant of its own.
theorem Takes.part {τ : Type} {inner : τ → Prop} {part : σ → τ} {put : σ → τ → σ}
    {change : τ → Option τ} (h : Takes inner allowed change)
    (hpart : ∀ state, invariant state → inner (part state))
    (hput : ∀ state value, invariant state → inner value → invariant (put state value)) :
    Takes invariant allowed fun state => (change (part state)).map (put state) := by
  intro state hstate
  obtain ⟨hallowed, hkept⟩ := h (part state) (hpart state hstate)
  refine ⟨by rw [Option.isSome_map, hallowed], fun next hnext => ?_⟩
  obtain ⟨value, hvalue, rfl⟩ := Option.map_eq_some_iff.mp hnext
  exact hput state value hstate (hkept value hvalue)

end HwpcSensor.LastWrite
