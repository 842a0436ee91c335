import Mathlib.Data.List.Nodup
import Mathlib.Data.List.Perm.Basic

namespace HwpcSensor.ChainedTable

variable {κ β σ : Type}

-- A hash table with one chain for each bucket and one iteration cursor. The
-- cursor is a bucket and what is left of its chain; an empty rest is NULL.
structure Table (κ β : Type) where
  buckets : List (List (κ × β))
  cursor_index : Nat
  cursor_item : List (κ × β)

namespace Table

def entries (t : Table κ β) : List (κ × β) :=
  t.buckets.flatten

def keys (t : Table κ β) : List κ :=
  t.entries.map Prod.fst

def bucket_of (hash : κ → Nat) (t : Table κ β) (key : κ) : Nat :=
  hash key % t.buckets.length

def chain (hash : κ → Nat) (t : Table κ β) (key : κ) : List (κ × β) :=
  t.buckets.getD (t.bucket_of hash key) []

def lookup [DecidableEq κ] (hash : κ → Nat) (t : Table κ β) (key : κ) : Option β :=
  ((t.chain hash key).find? fun entry => entry.1 = key).map Prod.snd

-- A key that is present keeps its value. A new entry goes to the front of its
-- chain, and the cursor is cleared.
def insert [DecidableEq κ] (hash : κ → Nat) (t : Table κ β) (key : κ) (value : β) : Table κ β :=
  match t.lookup hash key with
  | some _ => t
  | none =>
      { t with
        buckets := t.buckets.modify (t.bucket_of hash key) ((key, value) :: ·)
        cursor_item := [] }

-- Deleting clears the cursor too.
def delete [DecidableEq κ] (hash : κ → Nat) (t : Table κ β) (key : κ) : Table κ β :=
  match t.lookup hash key with
  | none => t
  | some _ =>
      { t with
        buckets := t.buckets.modify (t.bucket_of hash key)
          (·.eraseP fun entry => entry.1 = key)
        cursor_item := [] }

-- The first bucket with a chain among those after the given one.
def seek : Nat → List (List (κ × β)) → Nat × List (κ × β)
  | index, [] => (index, [])
  | index, [] :: rest => seek (index + 1) rest
  | index, (entry :: chain) :: _ => (index + 1, entry :: chain)

def next (t : Table κ β) : Option (κ × β) × Table κ β :=
  let cursor := match t.cursor_item with
    | [] => seek t.cursor_index (t.buckets.drop (t.cursor_index + 1))
    | entry :: rest => (t.cursor_index, entry :: rest)
  match cursor with
  | (index, []) => (none, { t with cursor_index := index, cursor_item := [] })
  | (index, entry :: rest) => (some entry, { t with cursor_index := index, cursor_item := rest })

def first (t : Table κ β) : Option (κ × β) × Table κ β :=
  next { t with cursor_index := 0, cursor_item := t.buckets.getD 0 [] }

-- `for (x = first(t); x; x = next(t))`. The body may change the table.
def loop (body : σ → Table κ β → κ × β → σ × Table κ β) :
    Nat → σ → Option (κ × β) × Table κ β → σ × Table κ β
  | _, state, (none, t) => (state, t)
  | 0, state, (some _, t) => (state, t)
  | fuel + 1, state, (some entry, t) =>
      loop body fuel (body state t entry).1 (body state t entry).2.next

-- One round for each entry is enough, as every round returns another one.
def for_each (body : σ → Table κ β → κ × β → σ × Table κ β) (state : σ) (t : Table κ β) :
    σ × Table κ β :=
  loop body t.entries.length state t.first

-- Every entry is in the bucket of its key, and no key occurs twice.
structure Valid (hash : κ → Nat) (t : Table κ β) : Prop where
  nonempty : 0 < t.buckets.length
  placed : ∀ i (hi : i < t.buckets.length), ∀ entry ∈ t.buckets[i],
    hash entry.1 % t.buckets.length = i
  distinct : t.keys.Nodup

section Lookup

variable {hash : κ → Nat} {t : Table κ β}

theorem bucket_of_lt (h : t.Valid hash) (key : κ) : t.bucket_of hash key < t.buckets.length :=
  Nat.mod_lt _ h.nonempty

theorem chain_eq (h : t.Valid hash) (key : κ) :
    t.chain hash key = t.buckets.get ⟨t.bucket_of hash key, bucket_of_lt h key⟩ := by
  simp [chain, List.getD_eq_getElem?_getD, bucket_of_lt h key]

theorem mem_entries_iff {entry : κ × β} :
    entry ∈ t.entries ↔ ∃ i, ∃ hi : i < t.buckets.length, entry ∈ t.buckets[i] := by
  constructor
  · intro h
    obtain ⟨chain, hchain, hmem⟩ := List.mem_flatten.mp h
    obtain ⟨i, hi, rfl⟩ := List.getElem_of_mem hchain
    exact ⟨i, hi, hmem⟩
  · rintro ⟨i, hi, hmem⟩
    exact List.mem_flatten.mpr ⟨_, List.getElem_mem hi, hmem⟩

variable [DecidableEq κ]

omit [DecidableEq κ] in
-- An entry can only be in the chain of its key.
theorem mem_chain_iff (h : t.Valid hash) {entry : κ × β} :
    entry ∈ t.chain hash entry.1 ↔ entry ∈ t.entries := by
  rw [chain_eq h, mem_entries_iff]
  constructor
  · exact fun hmem => ⟨_, bucket_of_lt h _, hmem⟩
  · rintro ⟨i, hi, hmem⟩
    have hplace := h.placed i hi entry hmem
    simpa only [bucket_of, hplace, List.get_eq_getElem] using hmem

theorem lookup_eq_none_iff (h : t.Valid hash) {key : κ} :
    t.lookup hash key = none ↔ key ∉ t.keys := by
  simp only [lookup, Option.map_eq_none_iff, List.find?_eq_none, keys, List.mem_map, not_exists,
    not_and, decide_eq_true_eq]
  constructor
  · rintro hnone entry hmem rfl
    exact hnone entry ((mem_chain_iff h).mpr hmem) rfl
  · rintro hnone entry hmem rfl
    exact hnone entry ((mem_chain_iff h).mp hmem) rfl

theorem lookup_isSome_iff (h : t.Valid hash) {key : κ} :
    (t.lookup hash key).isSome ↔ key ∈ t.keys := by
  rw [Option.isSome_iff_ne_none, ne_eq, lookup_eq_none_iff h, not_not]

end Lookup

section Insert

variable [DecidableEq κ] {hash : κ → Nat} {t : Table κ β}

omit [DecidableEq κ] in
theorem entries_modify (buckets : List (List (κ × β))) (i : Nat) (hi : i < buckets.length)
    (entry : κ × β) :
    (buckets.modify i (entry :: ·)).flatten.Perm (entry :: buckets.flatten) := by
  induction buckets generalizing i with
  | nil => simp at hi
  | cons chain rest ih =>
      cases i with
      | zero => simp
      | succ i =>
          simp only [List.modify_succ_cons, List.flatten_cons]
          have hrest := ih i (by simpa using hi)
          exact (hrest.append_left chain).trans List.perm_middle

theorem insert_of_mem (h : t.Valid hash) {key : κ} (hmem : key ∈ t.keys) (value : β) :
    t.insert hash key value = t := by
  obtain ⟨old, hold⟩ := Option.isSome_iff_exists.mp ((lookup_isSome_iff h).mpr hmem)
  simp [insert, hold]

theorem entries_insert (h : t.Valid hash) {key : κ} (hmem : key ∉ t.keys) (value : β) :
    (t.insert hash key value).entries.Perm ((key, value) :: t.entries) := by
  simp only [insert, (lookup_eq_none_iff h).mpr hmem]
  exact entries_modify t.buckets _ (bucket_of_lt h key) (key, value)

theorem valid_insert (h : t.Valid hash) (key : κ) (value : β) :
    (t.insert hash key value).Valid hash := by
  by_cases hmem : key ∈ t.keys
  · rwa [insert_of_mem h hmem]
  · have hperm := entries_insert h hmem value
    refine ⟨?_, ?_, ?_⟩
    · simpa [insert, (lookup_eq_none_iff h).mpr hmem] using h.nonempty
    · simp only [insert, (lookup_eq_none_iff h).mpr hmem, List.length_modify]
      intro i hi entry he
      rw [List.getElem_modify] at he
      split_ifs at he with hbucket
      · rcases List.mem_cons.mp he with rfl | he
        · exact hbucket
        · exact h.placed i hi entry he
      · exact h.placed i hi entry he
    · rw [keys, (hperm.map Prod.fst).nodup_iff]
      exact List.nodup_cons.mpr ⟨hmem, h.distinct⟩

theorem keys_insert (h : t.Valid hash) {key : κ} (hmem : key ∉ t.keys) (value : β) :
    (t.insert hash key value).keys.Perm (key :: t.keys) :=
  (entries_insert h hmem value).map Prod.fst

end Insert

section Delete

variable [DecidableEq κ] {hash : κ → Nat} {t : Table κ β}

omit [DecidableEq κ] in
theorem flatten_modify_sublist (buckets : List (List (κ × β))) (i : Nat)
    (f : List (κ × β) → List (κ × β)) (hf : ∀ chain, (f chain).Sublist chain) :
    (buckets.modify i f).flatten.Sublist buckets.flatten := by
  induction buckets generalizing i with
  | nil => simp
  | cons chain rest ih =>
      cases i with
      | zero => simpa using hf chain
      | succ i => simpa using ih i

theorem valid_delete (h : t.Valid hash) (key : κ) : (t.delete hash key).Valid hash := by
  unfold delete
  cases t.lookup hash key with
  | none => exact h
  | some value =>
      refine ⟨by simpa using h.nonempty, ?_, ?_⟩
      · simp only [List.length_modify]
        intro i hi entry he
        rw [List.getElem_modify] at he
        split_ifs at he with hbucket
        · exact h.placed i hi entry (List.eraseP_subset he)
        · exact h.placed i hi entry he
      · have hsub := flatten_modify_sublist t.buckets (t.bucket_of hash key)
          (·.eraseP fun entry => entry.1 = key) fun _ => List.eraseP_sublist
        exact (hsub.map Prod.fst).nodup h.distinct

omit [DecidableEq κ] in
theorem modify_append_cons {α : Type} (before : List α) (x : α) (todo : List α) (f : α → α) :
    (before ++ x :: todo).modify before.length f = before ++ f x :: todo := by
  induction before with
  | nil => rfl
  | cons y before ih => simp [ih]

-- Deleting the key of an entry takes that entry out of its chain.
theorem delete_eq {before todo : List (List (κ × β))} {done rest : List (κ × β)}
    {entry : κ × β} {index : Nat} {item : List (κ × β)}
    (h : (⟨before ++ (done ++ entry :: rest) :: todo, index, item⟩ : Table κ β).Valid hash) :
    (⟨before ++ (done ++ entry :: rest) :: todo, index, item⟩ : Table κ β).delete hash entry.1 =
      ⟨before ++ (done ++ rest) :: todo, index, []⟩ := by
  have hmem : entry.1 ∈
      (⟨before ++ (done ++ entry :: rest) :: todo, index, item⟩ : Table κ β).keys := by
    simp [keys, entries]
  obtain ⟨value, hvalue⟩ := Option.isSome_iff_exists.mp ((lookup_isSome_iff h).mpr hmem)
  have hbucket : (⟨before ++ (done ++ entry :: rest) :: todo, index, item⟩ : Table κ β).bucket_of
      hash entry.1 = before.length :=
    h.placed before.length (by simp) entry (by simp)
  have hdone : ∀ other ∈ done, ¬other.1 = entry.1 := by
    intro other hother heq
    have hnodup := h.distinct
    simp only [keys, entries, List.flatten_append, List.flatten_cons, List.map_append,
      List.map_cons, List.nodup_append] at hnodup
    exact hnodup.2.1.1.2.2 other.1 (List.mem_map_of_mem hother) entry.1 (by simp) heq
  have herase : (done ++ entry :: rest).eraseP (fun other => other.1 = entry.1) =
      done ++ rest := by
    rw [List.eraseP_append_right _ (by simpa using hdone)]
    simp
  simp only [delete, hvalue, hbucket, Table.mk.injEq, and_self, and_true]
  rw [modify_append_cons, herase]

end Delete

section Cursor

variable {t : Table κ β}

-- The cursor moves within its chain, and over to the next bucket at the end.
theorem next_cons {entry : κ × β} {rest : List (κ × β)} (h : t.cursor_item = entry :: rest) :
    t.next = (some entry, { t with cursor_item := rest }) := by
  simp [next, h]

theorem next_nil_last (h : t.cursor_item = []) (hlast : t.buckets.length ≤ t.cursor_index + 1) :
    t.next = (none, t) := by
  obtain ⟨buckets, index, item⟩ := t
  obtain rfl : item = [] := h
  simp [next, List.drop_eq_nil_of_le hlast, seek]

theorem next_nil (h : t.cursor_item = []) {chain : List (κ × β)}
    {rest : List (List (κ × β))} (hrest : t.buckets.drop (t.cursor_index + 1) = chain :: rest) :
    t.next = { t with cursor_index := t.cursor_index + 1, cursor_item := chain }.next := by
  obtain ⟨buckets, index, item⟩ := t
  obtain rfl : item = [] := h
  have hdrop : buckets.drop (index + 1 + 1) = rest := by
    rw [← List.drop_drop, hrest]
    rfl
  cases chain with
  | nil => simp [next, hrest, hdrop, seek]
  | cons entry chain => simp [next, hrest, seek]

-- Iterating leaves the entries alone.
theorem next_buckets (t : Table κ β) : t.next.2.buckets = t.buckets := by
  unfold next
  cases t.cursor_item with
  | nil =>
      dsimp only
      split <;> rfl
  | cons entry rest => rfl

theorem first_buckets (t : Table κ β) : t.first.2.buckets = t.buckets :=
  next_buckets _

end Cursor

theorem Valid.cursor {hash : κ → Nat} {buckets : List (List (κ × β))} {index : Nat}
    {item : List (κ × β)} (h : (⟨buckets, index, item⟩ : Table κ β).Valid hash) (index' : Nat)
    (item' : List (κ × β)) : (⟨buckets, index', item'⟩ : Table κ β).Valid hash :=
  ⟨h.nonempty, h.placed, h.distinct⟩

-- What an iteration has yet to come to.
def left (t : Table κ β) : Nat :=
  t.cursor_item.length + (t.buckets.drop (t.cursor_index + 1)).flatten.length

theorem next_left {t : Table κ β} {entry : κ × β} (h : t.next.1 = some entry) :
    t.next.2.left < t.left := by
  induction hrest : t.buckets.drop (t.cursor_index + 1) generalizing t with
  | nil =>
      cases hitem : t.cursor_item with
      | nil =>
          rw [next_nil_last hitem (List.drop_eq_nil_iff.mp hrest)] at h
          exact absurd h (by simp)
      | cons first chain =>
          rw [next_cons hitem]
          simp [left, hitem]
  | cons chain rest ih =>
      cases hitem : t.cursor_item with
      | nil =>
          have hdrop : t.buckets.drop (t.cursor_index + 1 + 1) = rest := by
            rw [← List.drop_drop, hrest]
            rfl
          have hleft : (⟨t.buckets, t.cursor_index + 1, chain⟩ : Table κ β).left = t.left := by
            simp [left, hitem, hrest, hdrop]
          rw [next_nil hitem hrest] at h ⊢
          rw [← hleft]
          exact ih h hdrop
      | cons first chain' =>
          rw [next_cons hitem]
          simp [left, hitem]

theorem left_delete [DecidableEq κ] (hash : κ → Nat) (t : Table κ β) (key : κ) :
    (t.delete hash key).left ≤ t.left := by
  unfold delete
  cases t.lookup hash key with
  | none => exact Nat.le_refl _
  | some value =>
      simp only [left, List.length_nil, Nat.zero_add]
      refine Nat.le_trans ?_ (Nat.le_add_left _ _)
      rcases Nat.lt_or_ge (t.bucket_of hash key) (t.cursor_index + 1) with hlt | hge
      · exact Nat.le_of_eq (by rw [List.drop_modify_of_lt _ _ _ _ hlt])
      · rw [List.drop_modify_of_ge _ _ _ _ hge]
        exact (flatten_modify_sublist _ _ _ fun _ => List.eraseP_sublist).length_le

-- Only the buckets matter to what a table holds.
theorem Valid.of_buckets {hash : κ → Nat} {t t' : Table κ β} (h : t.Valid hash)
    (hbuckets : t'.buckets = t.buckets) : t'.Valid hash := by
  obtain ⟨buckets, index, item⟩ := t
  obtain ⟨buckets', index', item'⟩ := t'
  obtain rfl : buckets' = buckets := hbuckets
  exact h.cursor index' item'

theorem lookup_of_buckets [DecidableEq κ] {hash : κ → Nat} {t t' : Table κ β}
    (hbuckets : t'.buckets = t.buckets) (key : κ) : t'.lookup hash key = t.lookup hash key := by
  simp only [lookup, chain, bucket_of, hbuckets]

section Sweep

variable [DecidableEq κ] (hash : κ → Nat) (dead : κ → Bool) (f : σ → κ × β → σ)

-- A loop body that may delete the entry it is given.
def sweep (state : σ) (t : Table κ β) (entry : κ × β) : σ × Table κ β :=
  (f state entry, if dead entry.1 then t.delete hash entry.1 else t)

-- What the loop gets to see of a chain: a deletion clears the cursor, so that
-- the rest of the chain is passed over.
def visited : List (κ × β) → List (κ × β)
  | [] => []
  | entry :: rest => if dead entry.1 then [entry] else entry :: visited rest

-- The loop, resumed at the end of a chain or within one, makes this of the rest
-- of the table.
def Sweeps (todo : List (List (κ × β))) : Prop :=
  ∀ (before : List (List (κ × β))) (chain : List (κ × β)) (fuel : Nat) (state : σ),
    (⟨before ++ chain :: todo, before.length, []⟩ : Table κ β).Valid hash →
    todo.flatten.length ≤ fuel →
    ∃ index item,
      loop (sweep hash dead f) fuel state
        (next ⟨before ++ chain :: todo, before.length, []⟩) =
      ((todo.flatMap (visited dead)).foldl f state,
        ⟨before ++ chain :: todo.map (·.eraseP fun entry => dead entry.1), index, item⟩)

variable {hash dead f}

theorem sweep_chain {todo : List (List (κ × β))} (htodo : Sweeps hash dead f todo)
    (before : List (List (κ × β))) (done rest : List (κ × β)) (fuel : Nat) (state : σ)
    (hvalid : (⟨before ++ (done ++ rest) :: todo, before.length, rest⟩ : Table κ β).Valid hash)
    (hdone : ∀ entry ∈ done, dead entry.1 = false)
    (hfuel : rest.length + todo.flatten.length ≤ fuel) :
    ∃ index item,
      loop (sweep hash dead f) fuel state
        (next ⟨before ++ (done ++ rest) :: todo, before.length, rest⟩) =
      ((visited dead rest ++ todo.flatMap (visited dead)).foldl f state,
        ⟨before ++ (done ++ rest).eraseP (fun entry => dead entry.1) ::
          todo.map (·.eraseP fun entry => dead entry.1), index, item⟩) := by
  induction rest generalizing done fuel state with
  | nil =>
      obtain ⟨index, item, hloop⟩ := htodo before (done ++ []) fuel state hvalid
        (by simpa using hfuel)
      refine ⟨index, item, ?_⟩
      rw [hloop, List.append_nil, List.eraseP_of_forall_not (by simpa using hdone)]
      rfl
  | cons entry rest ih =>
      cases fuel with
      | zero => simp at hfuel
      | succ fuel =>
          simp only [List.length_cons] at hfuel
          rw [next_cons rfl]
          simp only [loop, sweep]
          cases hdead : dead entry.1 with
          | true =>
              -- the deletion has cleared the cursor: go on with the next bucket
              have hvalid' := (hvalid.cursor before.length rest)
              have hnext := valid_delete hvalid' entry.1
              rw [delete_eq hvalid'] at hnext
              obtain ⟨index, item, hloop⟩ :=
                htodo before (done ++ rest) fuel (f state entry) hnext (by omega)
              refine ⟨index, item, ?_⟩
              rw [if_pos rfl, delete_eq hvalid', hloop,
                List.eraseP_append_right _ (by simpa using hdone)]
              simp [visited, hdead]
          | false =>
              obtain ⟨index, item, hloop⟩ := ih (done ++ [entry]) fuel (f state entry)
                (by simpa using hvalid.cursor _ _)
                (by simpa [or_imp, forall_and, hdead] using hdone) (by omega)
              refine ⟨index, item, ?_⟩
              simpa [visited, hdead] using hloop

theorem sweeps_all (todo : List (List (κ × β))) : Sweeps hash dead f todo := by
  induction todo with
  | nil =>
      intro before chain fuel state _ _
      refine ⟨before.length, [], ?_⟩
      rw [next_nil_last rfl (by simp)]
      cases fuel <;> rfl
  | cons next_chain todo ih =>
      intro before chain fuel state hvalid hfuel
      have hdrop : (before ++ chain :: next_chain :: todo).drop (before.length + 1) =
          next_chain :: todo := by
        rw [← List.drop_drop, List.drop_left' rfl]
        rfl
      rw [next_nil rfl hdrop]
      obtain ⟨index, item, hloop⟩ := sweep_chain ih (before ++ [chain]) [] next_chain fuel state
        (by simpa using hvalid.cursor _ _) (by simp) (by simpa using hfuel)
      exact ⟨index, item, by simpa using hloop⟩

-- Of each chain, the loop deletes the first dead entry and no other.
theorem for_each_sweep (dead : κ → Bool) {t : Table κ β} (h : t.Valid hash) (state : σ) :
    (for_each (sweep hash dead f) state t).1 =
        (t.buckets.flatMap (visited dead)).foldl f state ∧
      (for_each (sweep hash dead f) state t).2.buckets =
        t.buckets.map (·.eraseP fun entry => dead entry.1) := by
  obtain ⟨buckets, index, item⟩ := t
  cases buckets with
  | nil => exact absurd h.nonempty (by simp)
  | cons chain todo =>
      have htodo : Sweeps hash dead f todo := sweeps_all todo
      obtain ⟨index', item', hloop⟩ := sweep_chain htodo [] [] chain
        (chain :: todo).flatten.length state (h.cursor _ _) (by simp) (by simp)
      simp only [List.nil_append, List.length_nil] at hloop
      simp only [for_each, first, entries, List.getD_cons_zero, hloop]
      simp

end Sweep

section Erase

variable {hash : κ → Nat} {dead : κ × β → Bool}

theorem flatten_map_sublist (buckets : List (List (κ × β)))
    (f : List (κ × β) → List (κ × β)) (hf : ∀ chain, (f chain).Sublist chain) :
    (buckets.map f).flatten.Sublist buckets.flatten := by
  induction buckets with
  | nil => exact List.Sublist.refl []
  | cons chain rest ih => exact (hf chain).append ih

-- A table stays valid when each chain loses at most its first dead entry.
theorem valid_of_buckets_eraseP {t t' : Table κ β} (h : t.Valid hash)
    (hbuckets : t'.buckets = t.buckets.map (·.eraseP dead)) : t'.Valid hash := by
  have hlength : t'.buckets.length = t.buckets.length := by simp [hbuckets]
  refine ⟨by rw [hlength]; exact h.nonempty, ?_, ?_⟩
  · intro i hi entry he
    have hi' : i < t.buckets.length := by omega
    have hchain : t'.buckets[i] = t.buckets[i].eraseP dead := by simp [hbuckets]
    rw [hchain] at he
    rw [hlength]
    exact h.placed i hi' entry (List.eraseP_subset he)
  · have hsub : t'.entries.Sublist t.entries := by
      rw [entries, hbuckets]
      exact flatten_map_sublist t.buckets _ fun _ => List.eraseP_sublist
    exact (hsub.map Prod.fst).nodup h.distinct

-- Losing the first dead entry is losing all of them when there is one at most.
theorem eraseP_clean_iff (chain : List (κ × β)) :
    (∀ entry ∈ chain.eraseP dead, dead entry = false) ↔ (chain.filter dead).length ≤ 1 := by
  induction chain with
  | nil => simp
  | cons entry rest ih =>
      by_cases hdead : dead entry = true
      · rw [List.eraseP_cons_of_pos hdead, List.filter_cons_of_pos hdead, List.length_cons]
        constructor
        · intro hrest
          rw [List.filter_eq_nil_iff.mpr (by simpa using hrest)]
          exact Nat.le_refl 1
        · intro hlength other hother
          have hnil : rest.filter dead = [] := List.length_eq_zero_iff.mp (by omega)
          simpa using List.filter_eq_nil_iff.mp hnil other hother
      · rw [List.eraseP_cons_of_neg hdead, List.filter_cons_of_neg hdead, ← ih]
        simp [hdead]

-- What a chain loses and what it keeps are together what it had.
theorem find?_append_eraseP_perm (dead : κ × β → Bool) (chain : List (κ × β)) :
    ((chain.find? dead).toList ++ chain.eraseP dead).Perm chain := by
  induction chain with
  | nil => exact List.Perm.refl []
  | cons entry rest ih =>
      by_cases hdead : dead entry = true
      · rw [List.find?_cons_of_pos hdead, List.eraseP_cons_of_pos hdead]
        exact List.Perm.refl _
      · rw [List.find?_cons_of_neg hdead, List.eraseP_cons_of_neg hdead]
        exact List.perm_middle.trans (ih.cons entry)

theorem flatten_modify_perm (buckets : List (List (κ × β))) {i : Nat} (hi : i < buckets.length)
    (f : List (κ × β) → List (κ × β)) {entry : κ × β}
    (hf : (entry :: f buckets[i]).Perm buckets[i]) :
    (entry :: (buckets.modify i f).flatten).Perm buckets.flatten := by
  induction buckets generalizing i with
  | nil => simp at hi
  | cons chain rest ih =>
      cases i with
      | zero =>
          have hchain : (entry :: f chain).Perm chain := hf
          simpa using hchain.append_right rest.flatten
      | succ i =>
          have hrest := ih (Nat.lt_of_succ_lt_succ hi) hf
          have hmiddle : (entry :: (chain ++ (rest.modify i f).flatten)).Perm
              (chain ++ entry :: (rest.modify i f).flatten) := List.perm_middle.symm
          simpa using hmiddle.trans (hrest.append_left chain)

-- The key that is deleted takes its value out of the table.
theorem entries_delete [DecidableEq κ] {hash : κ → Nat} {t : Table κ β} (h : t.Valid hash)
    {key : κ} {value : β} (hlookup : t.lookup hash key = some value) :
    ((key, value) :: (t.delete hash key).entries).Perm t.entries := by
  have hfind : (t.buckets.get ⟨t.bucket_of hash key, bucket_of_lt h key⟩).find?
      (fun entry => entry.1 = key) = some (key, value) := by
    rw [← chain_eq h]
    obtain ⟨entry, hentry, rfl⟩ := Option.map_eq_some_iff.mp hlookup
    have hkey : entry.1 = key := by simpa using List.find?_some hentry
    rw [hentry, ← hkey]
  have hchain := find?_append_eraseP_perm (fun entry : κ × β => decide (entry.1 = key))
    (t.buckets.get ⟨t.bucket_of hash key, bucket_of_lt h key⟩)
  rw [hfind] at hchain
  simp only [delete, hlookup, entries]
  exact flatten_modify_perm t.buckets (bucket_of_lt h key) _ hchain

theorem flatMap_find?_append_eraseP_perm (dead : κ × β → Bool) (buckets : List (List (κ × β))) :
    ((buckets.flatMap fun chain => (chain.find? dead).toList) ++
      (buckets.map (·.eraseP dead)).flatten).Perm buckets.flatten := by
  induction buckets with
  | nil => exact List.Perm.refl []
  | cons chain rest ih =>
      have hchain := find?_append_eraseP_perm dead chain
      simp only [List.flatMap_cons, List.map_cons, List.flatten_cons, List.append_assoc]
      have hswap := (List.perm_append_comm_assoc
        (rest.flatMap fun chain => (chain.find? dead).toList) (chain.eraseP dead)
        (rest.map (·.eraseP dead)).flatten).append_left (chain.find? dead).toList
      refine hswap.trans ?_
      rw [← List.append_assoc]
      exact hchain.append ih

theorem find?_toList_eq_filter {chain : List (κ × β)} (h : (chain.filter dead).length ≤ 1) :
    (chain.find? dead).toList = chain.filter dead := by
  rw [← List.head?_filter]
  cases hfilter : chain.filter dead with
  | nil => rfl
  | cons entry rest =>
      rw [hfilter, List.length_cons] at h
      obtain rfl : rest = [] := List.length_eq_zero_iff.mp (by omega)
      rfl

end Erase

end Table

end HwpcSensor.ChainedTable
