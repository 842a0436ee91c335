import Mathlib.Data.List.Basic

namespace HwpcSensor.Terminated

variable {α : Type} {t : α} {pieces : List (List α)} {text : List α}

-- Each piece is followed by the terminator.
def join (t : α) (pieces : List (List α)) : List α :=
  pieces.flatMap (· ++ [t])

@[simp] theorem join_nil : join t ([] : List (List α)) = [] := rfl

@[simp] theorem join_cons (piece : List α) :
    join t (piece :: pieces) = piece ++ t :: join t pieces := by
  simp [join]

theorem mem_join {x : α} (h : x ∈ join t pieces) : x = t ∨ ∃ piece ∈ pieces, x ∈ piece := by
  obtain ⟨piece, hpiece, hmem⟩ := List.mem_flatMap.mp h
  rcases List.mem_append.mp hmem with hin | hend
  · exact Or.inr ⟨piece, hpiece, hin⟩
  · exact Or.inl (List.mem_singleton.mp hend)

theorem join_append (more : List (List α)) :
    join t (pieces ++ more) = join t pieces ++ join t more :=
  List.flatMap_append

theorem join_eq_nil_or : join t pieces = [] ∨ (join t pieces).getLast? = some t := by
  induction pieces with
  | nil => exact Or.inl rfl
  | cons piece pieces ih =>
      rw [join_cons, List.getLast?_append_of_ne_nil _ (by simp), List.getLast?_cons]
      rcases ih with hnil | hlast
      · exact Or.inr (by rw [hnil]; rfl)
      · exact Or.inr (by rw [hlast]; rfl)

-- What stands in front of the first terminator.
theorem peel {piece piece' rest rest' : List α} (h : t ∉ piece) (h' : t ∉ piece')
    (heq : piece ++ t :: rest = piece' ++ t :: rest') : piece = piece' ∧ rest = rest' := by
  induction piece generalizing piece' with
  | nil =>
      cases piece' with
      | nil => exact ⟨rfl, (List.cons.inj heq).2⟩
      | cons x piece' => exact absurd (List.cons.inj heq).1 fun hx => h' (hx ▸ List.mem_cons_self)
  | cons x piece ih =>
      cases piece' with
      | nil =>
          exact absurd (List.cons.inj heq).1 fun hx => h (hx ▸ List.mem_cons_self)
      | cons y piece' =>
          simp only [List.mem_cons, not_or] at h h'
          obtain ⟨rfl, htail⟩ := List.cons.inj heq
          obtain ⟨rfl, rfl⟩ := ih h.2 h'.2 htail
          exact ⟨rfl, rfl⟩

variable [DecidableEq α]

-- The pieces that the terminators end; `none` when the text goes on after the last.
def cut (t : α) : List α → Option (List (List α))
  | [] => some []
  | x :: rest =>
      if x = t then (cut t rest).map ([] :: ·)
      else
        match cut t rest with
        | some (piece :: pieces) => some ((x :: piece) :: pieces)
        | _ => none

theorem cut_append {piece : List α} (h : t ∉ piece) (rest : List α) :
    cut t (piece ++ t :: rest) = (cut t rest).map (piece :: ·) := by
  induction piece with
  | nil => simp [cut]
  | cons x piece ih =>
      simp only [List.mem_cons, not_or] at h
      rw [List.cons_append, cut, if_neg (Ne.symm h.1), ih h.2]
      cases cut t rest <;> rfl

-- What has been joined is cut back into its pieces.
theorem cut_join (h : ∀ piece ∈ pieces, t ∉ piece) : cut t (join t pieces) = some pieces := by
  induction pieces with
  | nil => rfl
  | cons piece pieces ih =>
      rw [join_cons, cut_append (h piece List.mem_cons_self),
        ih fun other hother => h other (List.mem_cons_of_mem _ hother)]
      rfl

-- Every terminator ends a piece.
theorem length_of_cut (h : cut t text = some pieces) : pieces.length = text.count t := by
  induction text generalizing pieces with
  | nil =>
      obtain rfl := Option.some.inj h
      rfl
  | cons x rest ih =>
      rw [cut] at h
      split_ifs at h with hx
      · obtain ⟨tail, htail, rfl⟩ := Option.map_eq_some_iff.mp h
        rw [List.length_cons, ih htail, hx, List.count_cons_self]
      · rw [List.count_cons_of_ne hx]
        cases hrest : cut t rest with
        | none => simp [hrest] at h
        | some found =>
            rw [← ih hrest]
            cases found with
            | nil => simp [hrest] at h
            | cons first others =>
                simp only [hrest, Option.some.injEq] at h
                subst h
                rfl

theorem count_join : (join t pieces).count t = pieces.length + pieces.flatten.count t := by
  induction pieces with
  | nil => rfl
  | cons piece pieces ih =>
      rw [join_cons, List.count_append, List.count_cons_self, ih, List.flatten_cons,
        List.count_append, List.length_cons]
      omega

-- As many pieces as have been joined are these pieces.
theorem eq_of_cut_join {found : List (List α)} (h : cut t (join t pieces) = some found)
    (hlength : found.length = pieces.length) :
    found = pieces ∧ ∀ piece ∈ pieces, t ∉ piece := by
  have hcount : pieces.flatten.count t = 0 := by
    have hfound := length_of_cut h
    rw [count_join] at hfound
    omega
  have hclean : ∀ piece ∈ pieces, t ∉ piece := fun piece hpiece hmem =>
    List.count_eq_zero.mp hcount (List.mem_flatten_of_mem hpiece hmem)
  exact ⟨Option.some.inj (h.symm.trans (cut_join hclean)), hclean⟩

-- The same with separators, which stand between the pieces only.

theorem notMem_of_splitOn {piece : List α} (h : piece ∈ text.splitOn t) : t ∉ piece := by
  induction text generalizing piece with
  | nil =>
      rw [List.splitOn_nil, List.mem_singleton] at h
      exact h ▸ List.not_mem_nil
  | cons x rest ih =>
      rw [List.splitOn_cons_eq_if_modifyHead] at h
      by_cases hx : x = t
      · rw [if_pos (beq_iff_eq.mpr hx)] at h
        rcases List.mem_cons.mp h with rfl | h
        · exact List.not_mem_nil
        · exact ih h
      · rw [if_neg fun heq => hx (beq_iff_eq.mp heq)] at h
        cases hrest : rest.splitOn t with
        | nil => exact absurd hrest (List.splitOn_ne_nil t rest)
        | cons first others =>
            rw [hrest, List.modifyHead_cons] at h
            rcases List.mem_cons.mp h with rfl | h
            · rw [List.mem_cons, not_or]
              exact ⟨Ne.symm hx, ih (hrest ▸ List.mem_cons_self)⟩
            · exact ih (hrest ▸ List.mem_cons_of_mem first h)

omit [DecidableEq α] in
theorem notMem_intercalate_iff {x : α} (hx : x ≠ t) :
    x ∉ [t].intercalate pieces ↔ ∀ piece ∈ pieces, x ∉ piece := by
  induction pieces with
  | nil => simp
  | cons first rest ih =>
      cases rest with
      | nil => simp
      | cons next rest =>
          rw [List.intercalate_cons_cons, List.append_assoc, List.mem_append, List.mem_append,
            List.mem_singleton, not_or, not_or, ih]
          refine (and_congr_right fun _ => and_iff_right hx).trans ?_
          exact (List.forall_mem_cons (p := (x ∉ ·))).symm

omit [DecidableEq α] in
theorem intercalate_append (front : List (List α)) (piece : List α) (rest : List (List α)) :
    [t].intercalate (front ++ piece :: rest) = join t front ++ [t].intercalate (piece :: rest) := by
  induction front with
  | nil => rfl
  | cons first front ih =>
      rw [List.cons_append, List.intercalate_cons_of_ne_nil (by simp), ih, join_cons]
      simp

theorem splitOn_intercalate_iff (hne : pieces ≠ []) :
    ([t].intercalate pieces).splitOn t = pieces ↔ ∀ piece ∈ pieces, t ∉ piece := by
  constructor
  · intro h piece hpiece
    exact notMem_of_splitOn (h ▸ hpiece)
  · intro h
    exact List.splitOn_intercalate t h hne

theorem splitOn_eq_append_iff {front : List (List α)} {piece : List α} {rest : List (List α)} :
    text.splitOn t = front ++ piece :: rest ↔
      text = join t front ++ [t].intercalate (piece :: rest) ∧
        ∀ part ∈ front ++ piece :: rest, t ∉ part := by
  constructor
  · intro h
    refine ⟨?_, fun part hpart => notMem_of_splitOn (h ▸ hpart)⟩
    rw [← intercalate_append, ← h, List.intercalate_splitOn]
  · rintro ⟨rfl, hclean⟩
    rw [← intercalate_append]
    exact List.splitOn_intercalate t hclean (by simp)

theorem join_splitOn (text : List α) : join t (text.splitOn t) = text ++ [t] := by
  have hsplit : [t].intercalate ((text ++ [t]).splitOn t) = text ++ [t] :=
    List.intercalate_splitOn t
  rw [List.splitOn_append_cons_self, List.splitOn_nil, intercalate_append] at hsplit
  simpa using hsplit

theorem exists_join (h : text = [] ∨ text.getLast? = some t) :
    ∃ pieces, text = join t pieces ∧ ∀ piece ∈ pieces, t ∉ piece := by
  rcases h with rfl | hlast
  · exact ⟨[], rfl, by simp⟩
  · obtain ⟨shorter, rfl⟩ := List.getLast?_eq_some_iff.mp hlast
    exact ⟨shorter.splitOn t, (join_splitOn shorter).symm, fun _ => notMem_of_splitOn⟩

end HwpcSensor.Terminated
