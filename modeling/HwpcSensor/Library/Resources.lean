import Mathlib.Data.Finset.Basic

namespace HwpcSensor.Resources

variable {R : Type}

inductive Fault (R : Type) where
  -- acquired while it was held
  | leaked (resource : R)
  -- released or used while it was not held
  | missing (resource : R)
  -- released before something that refers to it
  | outlived (resource : R)
  deriving DecidableEq

-- What is held, and what has gone wrong so far.
structure Ledger (R : Type) where
  held : Finset R
  faults : List (Fault R)

def Ledger.empty : Ledger R :=
  ⟨∅, []⟩

namespace Ledger

variable [DecidableEq R]

def acquire (l : Ledger R) (resource : R) : Ledger R where
  held := insert resource l.held
  faults := if resource ∈ l.held then l.faults ++ [.leaked resource] else l.faults

def use (l : Ledger R) (resource : R) : Ledger R where
  held := l.held
  faults := if resource ∈ l.held then l.faults else l.faults ++ [.missing resource]

section

variable (refers : R → R → Bool)

def release (l : Ledger R) (resource : R) : Ledger R where
  held := l.held.erase resource
  faults :=
    if resource ∉ l.held then l.faults ++ [.missing resource]
    else if ∃ other ∈ l.held.erase resource, refers other resource = true then
      l.faults ++ [.outlived resource]
    else l.faults

-- What checks for itself whether there is something to release.
def dismiss (l : Ledger R) (resource : R) : Ledger R :=
  if resource ∈ l.held then l.release refers resource else l

end

-- What is held is told by a predicate.
structure Holding (P : R → Prop) (faults : List (Fault R)) (l : Ledger R) : Prop where
  held : ∀ resource, resource ∈ l.held ↔ P resource
  faults : l.faults = faults

variable {P Q : R → Prop} {refers : R → R → Bool} {faults : List (Fault R)} {l : Ledger R}
  {resource : R}

omit [DecidableEq R] in
theorem holding_empty : Holding (fun _ : R => False) [] Ledger.empty :=
  ⟨by simp [Ledger.empty], rfl⟩

omit [DecidableEq R] in
theorem Holding.congr (h : Holding P faults l) (hiff : ∀ resource, P resource ↔ Q resource) :
    Holding Q faults l :=
  ⟨fun resource => (h.held resource).trans (hiff resource), h.faults⟩

theorem Holding.acquire (h : Holding P faults l) (hnot : ¬P resource) :
    Holding (fun other => other = resource ∨ P other) faults (l.acquire resource) := by
  refine ⟨fun other => ?_, ?_⟩
  · rw [Ledger.acquire, Finset.mem_insert, h.held]
  · rw [Ledger.acquire, if_neg (by rwa [h.held]), h.faults]

theorem Holding.use (h : Holding P faults l) (hheld : P resource) :
    Holding P faults (l.use resource) :=
  ⟨h.held, by rw [Ledger.use, if_pos ((h.held resource).mpr hheld), h.faults]⟩

theorem Holding.release (h : Holding P faults l) (hheld : P resource)
    (hfree : ∀ other, P other → other ≠ resource → refers other resource = false) :
    Holding (fun other => other ≠ resource ∧ P other) faults (l.release refers resource) := by
  refine ⟨fun other => ?_, ?_⟩
  · rw [Ledger.release, Finset.mem_erase, h.held]
  · have hnone : ¬∃ other ∈ l.held.erase resource, refers other resource = true := by
      rintro ⟨other, hother, hrefers⟩
      obtain ⟨hne, hmem⟩ := Finset.mem_erase.mp hother
      rw [hfree other ((h.held other).mp hmem) hne] at hrefers
      exact Bool.false_ne_true hrefers
    have hmem : ¬resource ∉ l.held := not_not.mpr ((h.held resource).mpr hheld)
    rw [Ledger.release, if_neg hmem, if_neg hnone, h.faults]

-- Released while something else refers to it.
theorem Holding.release_outlived (h : Holding P faults l) (hheld : P resource) {other : R}
    (hother : P other) (hne : other ≠ resource) (hrefers : refers other resource = true) :
    Holding (fun other => other ≠ resource ∧ P other) (faults ++ [.outlived resource])
      (l.release refers resource) := by
  refine ⟨fun other => ?_, ?_⟩
  · rw [Ledger.release, Finset.mem_erase, h.held]
  · have hsome : ∃ other ∈ l.held.erase resource, refers other resource = true :=
      ⟨other, Finset.mem_erase.mpr ⟨hne, (h.held other).mpr hother⟩, hrefers⟩
    have hmem : ¬resource ∉ l.held := not_not.mpr ((h.held resource).mpr hheld)
    rw [Ledger.release, if_neg hmem, if_pos hsome, h.faults]

theorem Holding.dismiss_of_not (h : Holding P faults l) (hnot : ¬P resource) :
    l.dismiss refers resource = l :=
  if_neg fun hmem => hnot ((h.held resource).mp hmem)

theorem Holding.dismiss_of (h : Holding P faults l) (hheld : P resource) :
    l.dismiss refers resource = l.release refers resource :=
  if_pos ((h.held resource).mpr hheld)

end Ledger

end HwpcSensor.Resources
