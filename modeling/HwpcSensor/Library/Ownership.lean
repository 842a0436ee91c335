import Mathlib.Data.List.Perm.Subperm
import Mathlib.Logic.Function.Basic
import Mathlib.Logic.Relation

namespace HwpcSensor.Ownership

variable {Name Party : Type} [DecidableEq Name]

-- Names shared by several parties, one owner at a time. The releases of the party
-- under study are logged with the owner the name had.
structure Table (Name Party : Type) where
  owner : Name → Option Party
  releases : List (Name × Option Party)

namespace Table

def acquire (t : Table Name Party) (name : Name) (party : Party) : Table Name Party :=
  { t with owner := Function.update t.owner name (some party) }

def release (t : Table Name Party) (name : Name) : Table Name Party where
  owner := Function.update t.owner name none
  releases := t.releases ++ [(name, t.owner name)]

-- What a party other than `me` does between two operations of `me`.
inductive Move (usable : Name → Prop) (me : Party) (t : Table Name Party) :
    Table Name Party → Prop
  | acquire {name : Name} {other : Party} (husable : usable name) (hne : other ≠ me)
      (hfree : t.owner name = none) : Move usable me t (t.acquire name other)
  | release {name : Name} {other : Party} (hne : other ≠ me)
      (howner : t.owner name = some other) :
      Move usable me t { t with owner := Function.update t.owner name none }

abbrev Moves (usable : Name → Prop) (me : Party) : Table Name Party → Table Name Party → Prop :=
  Relation.ReflTransGen (Move usable me)

variable {usable : Name → Prop} {me : Party} {t t' : Table Name Party}

theorem owner_acquire (name other : Name) (party : Party) :
    (t.acquire name party).owner other = if other = name then some party else t.owner other :=
  Function.update_apply _ _ _ _

theorem owner_release (name other : Name) :
    (t.release name).owner other = if other = name then none else t.owner other :=
  Function.update_apply _ _ _ _

theorem Move.owner_self (h : Move usable me t t') (name : Name) :
    t'.owner name = some me ↔ t.owner name = some me := by
  cases h with
  | @acquire moved other husable hne hfree =>
      rw [owner_acquire]
      by_cases heq : name = moved
      · subst heq
        simp [hne, hfree]
      · rw [if_neg heq]
  | @release moved other hne howner =>
      by_cases heq : name = moved
      · subst heq
        simp [hne, howner]
      · simp [Function.update_of_ne heq]

theorem Moves.owner_self (h : Moves usable me t t') (name : Name) :
    t'.owner name = some me ↔ t.owner name = some me := by
  induction h with
  | refl => exact Iff.rfl
  | tail _ hmove ih => exact (hmove.owner_self name).trans ih

theorem Moves.releases_eq (h : Moves usable me t t') : t'.releases = t.releases := by
  induction h with
  | refl => rfl
  | tail _ hmove ih => cases hmove <;> exact ih

-- Only its own names are released by a clean party, as far as they are usable.
def Clean (usable : Name → Prop) (me : Party) (t : Table Name Party) : Prop :=
  ∀ entry ∈ t.releases, usable entry.1 → entry.2 = some me

-- A list of different names, all of them owned.
structure Holds (me : Party) (names : List Name) (t : Table Name Party) : Prop where
  nodup : names.Nodup
  owned : ∀ name ∈ names, t.owner name = some me

omit [DecidableEq Name] in
theorem Holds.nil : Holds me [] t :=
  ⟨List.nodup_nil, by simp⟩

omit [DecidableEq Name] in
theorem Holds.subperm {names names' : List Name} (h : Holds me names t)
    (hsub : names'.Subperm names) : Holds me names' t := by
  obtain ⟨_, hperm, hsublist⟩ := id hsub
  exact ⟨hperm.nodup_iff.mp (h.nodup.sublist hsublist),
    fun name hname => h.owned name (hsub.subset hname)⟩

theorem Holds.moves {names : List Name} (h : Holds me names t)
    (hmoves : Moves usable me t t') : Holds me names t' :=
  ⟨h.nodup, fun name hname => (hmoves.owner_self name).mpr (h.owned name hname)⟩

theorem Holds.acquire {names : List Name} {name : Name} (h : Holds me names t)
    (hfree : t.owner name = none) : Holds me (name :: names) (t.acquire name me) := by
  have hnot : name ∉ names := by
    intro hmem
    simp [h.owned name hmem] at hfree
  refine ⟨List.nodup_cons.mpr ⟨hnot, h.nodup⟩, ?_⟩
  intro other hother
  rw [owner_acquire]
  by_cases heq : other = name
  · rw [if_pos heq]
  · rw [if_neg heq]
    exact h.owned other (List.mem_of_ne_of_mem heq hother)

theorem Holds.release_of_not_mem {names : List Name} {name : Name} (h : Holds me names t)
    (hnot : name ∉ names) : Holds me names (t.release name) := by
  refine ⟨h.nodup, ?_⟩
  intro other hother
  have hne : other ≠ name := fun heq => hnot (heq ▸ hother)
  rw [owner_release, if_neg hne]
  exact h.owned other hother

theorem Holds.release {names : List Name} {name : Name} (h : Holds me (name :: names) t) :
    Holds me names (t.release name) := by
  obtain ⟨hnot, hnodup⟩ := List.nodup_cons.mp h.nodup
  have hrest : Holds me names t := ⟨hnodup, fun other hother =>
    h.owned other (List.mem_cons_of_mem name hother)⟩
  exact hrest.release_of_not_mem hnot

theorem Clean.moves (h : Clean usable me t) (hmoves : Moves usable me t t') :
    Clean usable me t' := by
  unfold Clean
  rw [hmoves.releases_eq]
  exact h

theorem clean_release_iff {name : Name} :
    Clean usable me (t.release name) ↔
      Clean usable me t ∧ (usable name → t.owner name = some me) := by
  simp [Clean, release, or_imp, forall_and]

theorem owner_release_ne {name other : Name} (h : t.owner name ≠ some me) :
    (t.release other).owner name ≠ some me := by
  rw [owner_release]
  by_cases heq : name = other
  · simp [heq]
  · rwa [if_neg heq]

end Table

end HwpcSensor.Ownership
