import HwpcSensor.Library.ChainedTable

namespace HwpcSensor

-- A czmq hash table as its items in iteration order.
abbrev zhashx (β : Type) := List (String × β)

-- Where an insertion leaves the items is up to the hash function and the size
-- of the table: any rearrangement is possible.
structure hash_order where
  arrange : {β : Type} → zhashx β → zhashx β
  perm : ∀ {β : Type} (items : zhashx β), (arrange items).Perm items

theorem id_perm {β : Type} (items : zhashx β) : (id items).Perm items :=
  List.Perm.refl items

def in_order : hash_order := ⟨id, @id_perm⟩

variable {β : Type}

def zhashx_keys (table : zhashx β) : List String :=
  table.map Prod.fst

def zhashx_lookup (table : zhashx β) (key : String) : Option β :=
  (table.find? fun item => item.1 = key).map Prod.snd

-- An existing key keeps its value.
def zhashx_insert (order : hash_order) (table : zhashx β) (key : String) (value : β) : zhashx β :=
  match zhashx_lookup table key with
  | some _ => table
  | none => order.arrange ((key, value) :: table)

theorem zhashx_lookup_eq_none_iff {table : zhashx β} {key : String} :
    zhashx_lookup table key = none ↔ key ∉ zhashx_keys table := by
  simp only [zhashx_lookup, Option.map_eq_none_iff, List.find?_eq_none, zhashx_keys, List.mem_map,
    not_exists, not_and, decide_eq_true_eq]

theorem zhashx_lookup_cons (item : String × β) (table : zhashx β) (key : String) :
    zhashx_lookup (item :: table) key =
      if item.1 = key then some item.2 else zhashx_lookup table key := by
  unfold zhashx_lookup
  split_ifs with h <;> simp [h]

theorem mem_of_zhashx_lookup {table : zhashx β} {key : String} {value : β}
    (h : zhashx_lookup table key = some value) : (key, value) ∈ table := by
  obtain ⟨item, hitem, rfl⟩ := Option.map_eq_some_iff.mp h
  have hkey : item.1 = key := by simpa using List.find?_some hitem
  rw [← hkey]
  exact List.mem_of_find?_eq_some hitem

theorem mem_zhashx_keys_of_lookup {table : zhashx β} {key : String} {value : β}
    (h : zhashx_lookup table key = some value) : key ∈ zhashx_keys table :=
  List.mem_map_of_mem (mem_of_zhashx_lookup h)

theorem zhashx_lookup_of_mem_keys {table : zhashx β} {key : String}
    (h : key ∈ zhashx_keys table) : ∃ value, zhashx_lookup table key = some value := by
  cases hvalue : zhashx_lookup table key with
  | none => exact absurd h (zhashx_lookup_eq_none_iff.mp hvalue)
  | some value => exact ⟨value, rfl⟩

theorem zhashx_lookup_eq_some_iff {table : zhashx β} (hnodup : (zhashx_keys table).Nodup)
    {key : String} {value : β} :
    zhashx_lookup table key = some value ↔ (key, value) ∈ table := by
  constructor
  · exact mem_of_zhashx_lookup
  · intro hmem
    induction table with
    | nil => simp at hmem
    | cons item table ih =>
        have hcons : item.1 ∉ zhashx_keys table ∧ (zhashx_keys table).Nodup :=
          List.nodup_cons.mp hnodup
        rw [zhashx_lookup_cons]
        rcases List.mem_cons.mp hmem with rfl | hmem
        · simp
        · have hne : item.1 ≠ key := by
            rintro rfl
            exact hcons.1 (List.mem_map.mpr ⟨_, hmem, rfl⟩)
          rw [if_neg hne, ih hcons.2 hmem]

-- A table and any rearrangement of it answer alike.
theorem zhashx_lookup_perm {table table' : zhashx β} (h : table.Perm table')
    (hnodup : (zhashx_keys table).Nodup) (key : String) :
    zhashx_lookup table key = zhashx_lookup table' key := by
  have hnodup' : (zhashx_keys table').Nodup := (h.map Prod.fst).nodup_iff.mp hnodup
  apply Option.ext
  intro value
  rw [zhashx_lookup_eq_some_iff hnodup, zhashx_lookup_eq_some_iff hnodup', h.mem_iff]

section Insert

variable (order : hash_order) {table : zhashx β} {key : String}

theorem zhashx_insert_of_mem (hmem : key ∈ zhashx_keys table) (value : β) :
    zhashx_insert order table key value = table := by
  cases h : zhashx_lookup table key with
  | none => exact absurd hmem (zhashx_lookup_eq_none_iff.mp h)
  | some old => simp [zhashx_insert, h]

theorem zhashx_insert_perm (hmem : key ∉ zhashx_keys table) (value : β) :
    (zhashx_insert order table key value).Perm ((key, value) :: table) := by
  simp only [zhashx_insert, zhashx_lookup_eq_none_iff.mpr hmem]
  exact order.perm _

theorem zhashx_keys_insert_perm (hmem : key ∉ zhashx_keys table) (value : β) :
    (zhashx_keys (zhashx_insert order table key value)).Perm (key :: zhashx_keys table) :=
  (zhashx_insert_perm order hmem value).map Prod.fst

theorem mem_zhashx_keys_insert {key : String} {value : β} {name : String} :
    name ∈ zhashx_keys (zhashx_insert order table key value) ↔
      name = key ∨ name ∈ zhashx_keys table := by
  by_cases hmem : key ∈ zhashx_keys table
  · rw [zhashx_insert_of_mem order hmem]
    exact ⟨Or.inr, fun h => h.elim (fun heq => heq ▸ hmem) id⟩
  · rw [(zhashx_keys_insert_perm order hmem value).mem_iff, List.mem_cons]

theorem nodup_zhashx_insert (hnodup : (zhashx_keys table).Nodup) (key : String) (value : β) :
    (zhashx_keys (zhashx_insert order table key value)).Nodup := by
  by_cases hmem : key ∈ zhashx_keys table
  · rwa [zhashx_insert_of_mem order hmem]
  · rw [(zhashx_keys_insert_perm order hmem value).nodup_iff]
    exact List.nodup_cons.mpr ⟨hmem, hnodup⟩

theorem zhashx_lookup_insert (hnodup : (zhashx_keys table).Nodup) (key : String) (value : β)
    (other : String) :
    zhashx_lookup (zhashx_insert order table key value) other =
      if key = other then some ((zhashx_lookup table key).getD value)
      else zhashx_lookup table other := by
  by_cases hmem : key ∈ zhashx_keys table
  · rw [zhashx_insert_of_mem order hmem]
    split_ifs with h
    · subst h
      cases hl : zhashx_lookup table key with
      | none => exact absurd hmem (zhashx_lookup_eq_none_iff.mp hl)
      | some old => rfl
    · rfl
  · have hperm := zhashx_insert_perm order hmem value
    rw [zhashx_lookup_perm hperm (nodup_zhashx_insert order hnodup key value),
      zhashx_lookup_cons, zhashx_lookup_eq_none_iff.mpr hmem]
    rfl

theorem zhashx_lookup_insert_of_some (hnodup : (zhashx_keys table).Nodup) {other : String}
    {old : β} (hold : zhashx_lookup table other = some old) (value : β) :
    zhashx_lookup (zhashx_insert order table key value) other = some old := by
  rw [zhashx_lookup_insert order hnodup]
  by_cases h : key = other
  · subst h
    rw [if_pos rfl, hold, Option.getD_some]
  · rw [if_neg h, hold]

-- The items are inserted one after the other in a new table.
def zhashx_dup (table : zhashx β) : zhashx β :=
  table.foldl (fun copy item => zhashx_insert order copy item.1 item.2) []

theorem foldl_zhashx_insert_perm {items copy : zhashx β}
    (hnodup : (zhashx_keys (copy ++ items)).Nodup) :
    (items.foldl (fun copy item => zhashx_insert order copy item.1 item.2) copy).Perm
      (copy ++ items) := by
  induction items generalizing copy with
  | nil => simp
  | cons item rest ih =>
      have hperm : (item :: copy ++ rest).Perm (copy ++ item :: rest) := List.perm_middle.symm
      have hkeys := (hperm.map Prod.fst).nodup_iff.mpr hnodup
      have hfresh : item.1 ∉ zhashx_keys copy := by
        intro hmem
        have hmap : item.1 ∈ zhashx_keys (copy ++ rest) := by
          unfold zhashx_keys
          rw [List.map_append]
          exact List.mem_append_left _ hmem
        exact (List.nodup_cons.mp hkeys).1 hmap
      have hinsert := zhashx_insert_perm order hfresh item.2
      have hnext := ((hinsert.append_right rest).map Prod.fst).nodup_iff.mpr hkeys
      exact (ih hnext).trans ((hinsert.append_right rest).trans hperm)

theorem zhashx_dup_perm (hnodup : (zhashx_keys table).Nodup) :
    (zhashx_dup order table).Perm table :=
  foldl_zhashx_insert_perm order hnodup

end Insert

-- The chained table czmq really keeps shows its iterations one of the orders.
theorem zhashx_insert_chained (order : hash_order) {hash : String → Nat}
    {t : ChainedTable.Table String β} (h : t.Valid hash) (key : String) (value : β) :
    (t.insert hash key value).entries.Perm (zhashx_insert order t.entries key value) := by
  by_cases hmem : key ∈ t.keys
  · rw [ChainedTable.Table.insert_of_mem h hmem, zhashx_insert_of_mem order hmem]
  · exact (ChainedTable.Table.entries_insert h hmem value).trans
      (zhashx_insert_perm order hmem value).symm

-- In a table at most one entry has the key.
theorem zhashx_flatMap_at {γ : Type} {table : zhashx β} (hkeys : (zhashx_keys table).Nodup)
    (key : String) (f : β → List γ) :
    (table.flatMap fun item => if item.1 = key then f item.2 else []) =
      ((zhashx_lookup table key).map f).getD [] := by
  induction table with
  | nil => rfl
  | cons item rest ih =>
      obtain ⟨hitem, hrest⟩ := List.nodup_cons.mp hkeys
      rw [List.flatMap_cons, ih hrest, zhashx_lookup_cons]
      by_cases hkey : item.1 = key
      · have hnone : zhashx_lookup rest key = none :=
          zhashx_lookup_eq_none_iff.mpr (hkey ▸ hitem)
        rw [if_pos hkey, if_pos hkey, hnone]
        simp
      · rw [if_neg hkey, if_neg hkey]
        rfl

end HwpcSensor
