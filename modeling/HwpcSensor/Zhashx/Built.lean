import HwpcSensor.Zhashx

namespace HwpcSensor

variable {ι α β : Type}

-- A table with an entry for each item, under the key of the item, and no others.
structure Built (key : ι → String) (P : ι → β → Prop) (items : List ι) (table : zhashx β) :
    Prop where
  distinct : (zhashx_keys table).Nodup
  keys : ∀ name, name ∈ zhashx_keys table ↔ name ∈ items.map key
  entry : ∀ item ∈ items, ∃ value, zhashx_lookup table (key item) = some value ∧ P item value

namespace Built

variable {key : ι → String} {P Q : ι → β → Prop} {items : List ι} {table : zhashx β}

theorem nil : Built key P [] [] :=
  ⟨List.nodup_nil, fun _ => Iff.rfl, by simp⟩

theorem keys_perm (h : Built key P items table) (hnodup : (items.map key).Nodup) :
    (zhashx_keys table).Perm (items.map key) :=
  (List.perm_ext_iff_of_nodup h.distinct hnodup).mpr h.keys

theorem mono (h : Built key P items table) (hle : ∀ item ∈ items, ∀ value, P item value →
    Q item value) : Built key Q items table := by
  refine ⟨h.distinct, h.keys, ?_⟩
  intro item hitem
  obtain ⟨value, hlookup, hvalue⟩ := h.entry item hitem
  exact ⟨value, hlookup, hle item hitem value hvalue⟩

theorem fresh (h : Built key P items table) {item : ι}
    (hnodup : ((items ++ [item]).map key).Nodup) : key item ∉ zhashx_keys table := by
  rw [List.map_append] at hnodup
  intro hmem
  exact (List.nodup_append.mp hnodup).2.2 _ ((h.keys _).mp hmem) _ (by simp) rfl

-- An item that is met again keeps the entry it has.
theorem insert_again (h : Built key P items table) (order : hash_order) {item : ι}
    (hsame : ∀ other ∈ items, key other = key item → other = item) {value : β}
    (hvalue : P item value) :
    Built key P (items ++ [item]) (zhashx_insert order table (key item) value) := by
  refine ⟨nodup_zhashx_insert order h.distinct _ _, fun name => ?_, fun other hother => ?_⟩
  · rw [mem_zhashx_keys_insert, h.keys, List.map_append, List.mem_append, List.map_singleton,
      List.mem_singleton, or_comm]
  · rw [zhashx_lookup_insert order h.distinct]
    rcases List.mem_append.mp hother with hother | hother
    · obtain ⟨old, hold, hP⟩ := h.entry other hother
      refine ⟨old, ?_, hP⟩
      by_cases hkey : key item = key other
      · rw [if_pos hkey, hkey, hold]
        rfl
      · rw [if_neg hkey, hold]
    · obtain rfl := List.mem_singleton.mp hother
      rw [if_pos rfl]
      cases hold : zhashx_lookup table (key other) with
      | none => exact ⟨value, rfl, hvalue⟩
      | some old =>
          -- the entry is that of an earlier item with the same key
          obtain ⟨first, hfirst, hkey⟩ :=
            List.mem_map.mp ((h.keys _).mp (mem_zhashx_keys_of_lookup hold))
          obtain ⟨found, hfound, hP⟩ := h.entry first hfirst
          rw [hsame first hfirst hkey, hold] at hfound
          obtain rfl := Option.some.inj hfound
          exact ⟨old, rfl, hsame first hfirst hkey ▸ hP⟩

theorem insert (h : Built key P items table) (order : hash_order) {item : ι}
    (hnodup : ((items ++ [item]).map key).Nodup) {value : β} (hvalue : P item value) :
    Built key P (items ++ [item]) (zhashx_insert order table (key item) value) := by
  refine h.insert_again order (fun other hother hkey => ?_) hvalue
  have hmem : key item ∈ zhashx_keys table :=
    (h.keys _).mpr (List.mem_map.mpr ⟨other, hother, hkey⟩)
  exact absurd hmem (h.fresh hnodup)

-- What is met when the table is iterated.
theorem of_mem (h : Built key P items table) {name : String} {value : β}
    (hmem : (name, value) ∈ table) : ∃ item ∈ items, key item = name ∧ P item value := by
  obtain ⟨item, hitem, rfl⟩ := List.mem_map.mp ((h.keys _).mp (List.mem_map_of_mem hmem))
  obtain ⟨found, hfound, hP⟩ := h.entry item hitem
  rw [(zhashx_lookup_eq_some_iff h.distinct).mpr hmem] at hfound
  exact ⟨item, hitem, rfl, Option.some.inj hfound ▸ hP⟩

-- A table built while another one was iterated.
theorem trans {R : String × β → α → Prop} {table' : zhashx α} (h : Built key P items table)
    (h' : Built Prod.fst R table table') :
    Built key (fun item value => ∃ middle, P item middle ∧ R (key item, middle) value) items
      table' := by
  refine ⟨h'.distinct, fun name => (h'.keys name).trans (h.keys name), ?_⟩
  intro item hitem
  obtain ⟨middle, hmiddle, hP⟩ := h.entry item hitem
  obtain ⟨value, hvalue, hR⟩ := h'.entry _ (mem_of_zhashx_lookup hmiddle)
  exact ⟨value, hvalue, middle, hP, hR⟩

end Built

end HwpcSensor
