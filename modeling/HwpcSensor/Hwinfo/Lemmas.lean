import HwpcSensor.Hwinfo
import HwpcSensor.Util.Lemmas
import Mathlib.Data.List.TakeDrop

namespace HwpcSensor

theorem parse_cpu_id_from_name_eq_some {name cpu_id : String} :
    parse_cpu_id_from_name name = some cpu_id ↔
      name.toList = 'c' :: 'p' :: 'u' :: cpu_id.toList ∧ cpu_id.toList ≠ [] ∧
        ∀ c ∈ cpu_id.toList, c.isDigit := by
  unfold parse_cpu_id_from_name
  split
  case h_1 digits htoList =>
    rw [Option.ite_none_right_eq_some, htoList, List.all_eq_true]
    constructor
    · rintro ⟨⟨hne, hdigits⟩, h⟩
      obtain rfl := Option.some.inj h
      rw [String.toList_ofList]
      exact ⟨rfl, hne, hdigits⟩
    · rintro ⟨h, hne, hdigits⟩
      obtain rfl : digits = cpu_id.toList := by simpa using h
      exact ⟨⟨hne, hdigits⟩, by rw [String.ofList_toList]⟩
  case h_2 hother =>
    refine iff_of_false (by simp) ?_
    rintro ⟨h, -⟩
    exact hother _ h

-- The buffer has room for 22 characters and the newline.
theorem get_package_id_eq {sysfs : sysfs_cpus} {cpu_dir : String} {id : List Char}
    (h : sysfs.physical_package_id cpu_dir = some (id ++ ['\n']))
    (hid : ∀ c ∈ id, c.isDigit) :
    get_package_id sysfs cpu_dir = some (String.ofList (id.take 22)) := by
  have hline : ∀ c ∈ id, decide (c ≠ '\n') = true := by
    intro c hc
    apply decide_eq_true
    rintro rfl
    exact absurd (hid _ hc) (by decide)
  have hclean : NUL ∉ id := fun hmem => absurd (hid _ hmem) (by decide)
  have hne : id ++ ['\n'] ≠ [] := by simp
  have hread : fgets_first 24 (id ++ ['\n']) =
      some (if id.length ≤ 22 then id ++ ['\n'] else id.take 23) := by
    rw [fgets_first, if_neg hne]
    split_ifs with hshort
    · have htake : (id ++ ['\n']).take (24 - 1) = id ++ ['\n'] := by
        apply List.take_of_length_le
        simp only [List.length_append, List.length_singleton]
        omega
      rw [htake, List.span_eq_takeWhile_dropWhile, List.takeWhile_append_of_pos hline,
        List.dropWhile_append_of_pos hline]
      simp
    · have htake : (id ++ ['\n']).take (24 - 1) = id.take 23 :=
        List.take_append_of_le_length (by omega)
      have hpart : ∀ c ∈ id.take 23, decide (c ≠ '\n') = true := fun c hc =>
        hline c (List.mem_of_mem_take hc)
      rw [htake, List.span_eq_takeWhile_dropWhile, List.takeWhile_eq_self_iff.mpr hpart,
        List.dropWhile_eq_nil_iff.mpr hpart]
  rw [get_package_id, h, Option.bind_some, hread, Option.map_some]
  congr 2
  split_ifs with hshort
  · have hNUL : NUL ∉ id ++ ['\n'] := by
      rw [List.mem_append, not_or]
      exact ⟨hclean, by decide⟩
    rw [strlen, c_string_of_notMem hNUL, List.length_append, List.length_singleton,
      Nat.add_sub_cancel, List.take_left' rfl, List.take_of_length_le hshort]
  · have hNUL : NUL ∉ id.take 23 := fun hmem => hclean (List.mem_of_mem_take hmem)
    rw [strlen, c_string_of_notMem hNUL, List.length_take, List.take_take]
    congr 1
    omega

section Table

variable {table : zhashx hwinfo_pkg}

theorem zhashx_keys_add_cpu_id (pkg_id cpu_id : String) :
    zhashx_keys (add_cpu_id table pkg_id cpu_id) = zhashx_keys table := by
  rw [zhashx_keys, add_cpu_id, List.map_map]
  apply List.map_congr_left
  intro item _
  simp only [Function.comp_apply]
  split_ifs <;> rfl

theorem zhashx_lookup_add_cpu_id (pkg_id cpu_id key : String) :
    zhashx_lookup (add_cpu_id table pkg_id cpu_id) key =
      (zhashx_lookup table key).map fun pkg =>
        if pkg_id = key then ⟨pkg.cpus_id ++ [cpu_id]⟩ else pkg := by
  induction table with
  | nil => rfl
  | cons item table ih =>
      rw [add_cpu_id, List.map_cons]
      change zhashx_lookup (_ :: add_cpu_id table pkg_id cpu_id) key = _
      rw [zhashx_lookup_cons, zhashx_lookup_cons, ih]
      by_cases hitem : item.1 = pkg_id
      · rw [if_pos hitem]
        by_cases hkey : item.1 = key
        · rw [if_pos hkey, if_pos hkey, Option.map_some, if_pos (hitem.symm.trans hkey)]
        · rw [if_neg hkey, if_neg hkey]
      · rw [if_neg hitem]
        by_cases hkey : item.1 = key
        · rw [if_pos hkey, if_pos hkey, Option.map_some, if_neg fun h => hitem (hkey.trans h.symm)]
        · rw [if_neg hkey, if_neg hkey]

-- The cpus among these pairs that go with a package.
def cpus_of (pairs : List (String × String)) (pkg_id : String) : List String :=
  pairs.filterMap fun pair => if pair.1 = pkg_id then some pair.2 else none

-- The table has a package with just these cpus, or none when there are none.
def lists_cpus (cpus_id : List String) : Option hwinfo_pkg :=
  if cpus_id = [] then none else some ⟨cpus_id⟩

-- Each package has its cpus in the order of the pairs.
structure ByPackage (pairs : List (String × String)) (table : zhashx hwinfo_pkg) : Prop where
  keys : (zhashx_keys table).Nodup
  lookup : ∀ pkg_id, zhashx_lookup table pkg_id = lists_cpus (cpus_of pairs pkg_id)

theorem ByPackage.nil : ByPackage [] [] :=
  ⟨List.nodup_nil, fun _ => rfl⟩

theorem lists_cpus_injective : Function.Injective lists_cpus := by
  intro first second h
  unfold lists_cpus at h
  split_ifs at h with hfirst hsecond
  · rw [hfirst, hsecond]
  · simpa using h

theorem cpus_of_append (first second : List (String × String)) (pkg_id : String) :
    cpus_of (first ++ second) pkg_id = cpus_of first pkg_id ++ cpus_of second pkg_id :=
  List.filterMap_append

theorem cpus_of_cons (pair : String × String) (pairs : List (String × String)) (pkg_id : String) :
    cpus_of (pair :: pairs) pkg_id =
      (if pair.1 = pkg_id then [pair.2] else []) ++ cpus_of pairs pkg_id := by
  unfold cpus_of
  split_ifs with h <;> simp [h]

theorem cpus_of_concat (pairs : List (String × String)) (pair : String × String)
    (pkg_id : String) :
    cpus_of (pairs ++ [pair]) pkg_id =
      cpus_of pairs pkg_id ++ if pair.1 = pkg_id then [pair.2] else [] := by
  rw [cpus_of_append, cpus_of_cons]
  simp [cpus_of]

-- The stored copy is the one that the cpu is added to.
theorem ByPackage.store_cpu_id {pairs : List (String × String)} (h : ByPackage pairs table)
    (order : hash_order) (pair : String × String) :
    ByPackage (pairs ++ [pair]) (store_cpu_id order table pair.1 pair.2) := by
  have hpkg := h.lookup pair.1
  unfold HwpcSensor.store_cpu_id
  cases hlookup : zhashx_lookup table pair.1 with
  | some pkg =>
      refine ⟨by rw [zhashx_keys_add_cpu_id]; exact h.keys, fun key => ?_⟩
      rw [zhashx_lookup_add_cpu_id, h.lookup key, cpus_of_concat]
      by_cases hkey : pair.1 = key
      · subst hkey
        rw [hlookup, lists_cpus] at hpkg
        split_ifs at hpkg with hempty
        simp [lists_cpus, hempty]
      · simp [lists_cpus, hkey]
  | none =>
      refine ⟨by rw [zhashx_keys_add_cpu_id]; exact nodup_zhashx_insert order h.keys _ _,
        fun key => ?_⟩
      rw [zhashx_lookup_add_cpu_id, zhashx_lookup_insert order h.keys, cpus_of_concat]
      by_cases hkey : pair.1 = key
      · subst hkey
        rw [hlookup, lists_cpus] at hpkg
        split_ifs at hpkg with hempty
        simp [lists_cpus, hempty, hlookup, hwinfo_pkg_dup, hwinfo_pkg_create]
      · simp [h.lookup key, hkey]

theorem ByPackage.foldl {pairs : List (String × String)} (h : ByPackage pairs table)
    (order : hash_order) (more : List (String × String)) :
    ByPackage (pairs ++ more)
      (more.foldl (fun table pair => HwpcSensor.store_cpu_id order table pair.1 pair.2) table) := by
  induction more generalizing pairs table with
  | nil => simpa using h
  | cons pair more ih =>
      have hnext := ih (h.store_cpu_id order pair)
      simpa [List.append_assoc] using hnext

end Table

section Loop

variable {order : hash_order} {sysfs : sysfs_cpus} {entries : List dirent}

-- An entry that the loop looks into.
def Examined (sysfs : sysfs_cpus) (entry : dirent) : Prop :=
  Considered entry ∧ get_cpu_online_status sysfs entry.d_name = true

instance (sysfs : sysfs_cpus) (entry : dirent) : Decidable (Examined sysfs entry) :=
  inferInstanceAs (Decidable (_ ∧ _))

-- Its package and its cpu.
def detected_cpu (sysfs : sysfs_cpus) (entry : dirent) : Option (String × String) :=
  (parse_cpu_id_from_name entry.d_name).bind fun cpu_id =>
    (get_package_id sysfs entry.d_name).map fun pkg_id => (pkg_id, cpu_id)

def examined_cpu (sysfs : sysfs_cpus) (entry : dirent) : Option (String × String) :=
  if Examined sysfs entry then detected_cpu sysfs entry else none

-- One entry is passed over, ends the loop, or has its cpu stored.
theorem detect_packages_cons (entry : dirent) (pkgs : zhashx hwinfo_pkg) :
    detect_packages order sysfs (entry :: entries) pkgs =
      if Examined sysfs entry then
        match detected_cpu sysfs entry with
        | none => (-1, pkgs)
        | some pair => detect_packages order sysfs entries (store_cpu_id order pkgs pair.1 pair.2)
      else detect_packages order sysfs entries pkgs := by
  rw [detect_packages]
  by_cases hconsidered : Considered entry
  · rw [if_pos hconsidered]
    cases honline : get_cpu_online_status sysfs entry.d_name with
    | false => rw [if_pos rfl, if_neg (by simp [Examined, honline])]
    | true =>
        rw [if_neg (by decide), if_pos ⟨hconsidered, honline⟩, detected_cpu]
        cases parse_cpu_id_from_name entry.d_name with
        | none => rfl
        | some cpu_id =>
            cases get_package_id sysfs entry.d_name with
            | none => rfl
            | some pkg_id => rfl
  · rw [if_neg hconsidered, if_neg fun h => hconsidered h.1]

theorem detect_packages_fails (pkgs : zhashx hwinfo_pkg)
    (h : ∃ entry ∈ entries, Examined sysfs entry ∧ detected_cpu sysfs entry = none) :
    (detect_packages order sysfs entries pkgs).1 = -1 := by
  induction entries generalizing pkgs with
  | nil => simp at h
  | cons entry entries ih =>
      rw [detect_packages_cons]
      split_ifs with hexamined
      · cases hcpu : detected_cpu sysfs entry with
        | none => rfl
        | some pair =>
            apply ih
            obtain ⟨bad, hmem, hbad, hnone⟩ := h
            rcases List.mem_cons.mp hmem with rfl | hmem
            · rw [hcpu] at hnone
              cases hnone
            · exact ⟨bad, hmem, hbad, hnone⟩
      · apply ih
        obtain ⟨bad, hmem, hbad, hnone⟩ := h
        rcases List.mem_cons.mp hmem with rfl | hmem
        · exact absurd hbad hexamined
        · exact ⟨bad, hmem, hbad, hnone⟩

theorem detect_packages_ok (pkgs : zhashx hwinfo_pkg)
    (h : ∀ entry ∈ entries, Examined sysfs entry → detected_cpu sysfs entry ≠ none) :
    detect_packages order sysfs entries pkgs =
      (0, (entries.filterMap (examined_cpu sysfs)).foldl
        (fun table pair => store_cpu_id order table pair.1 pair.2) pkgs) := by
  induction entries generalizing pkgs with
  | nil => rfl
  | cons entry entries ih =>
      have hrest := fun table =>
        ih table fun other hother => h other (List.mem_cons_of_mem _ hother)
      rw [detect_packages_cons]
      by_cases hexamined : Examined sysfs entry
      · cases hcpu : detected_cpu sysfs entry with
        | none => exact absurd hcpu (h entry List.mem_cons_self hexamined)
        | some pair =>
            have hsome : examined_cpu sysfs entry = some pair := by
              rw [examined_cpu, if_pos hexamined, hcpu]
            rw [if_pos hexamined, List.filterMap_cons_some hsome, List.foldl_cons]
            exact hrest _
      · have hnone : examined_cpu sysfs entry = none := if_neg hexamined
        rw [if_neg hexamined, List.filterMap_cons_none hnone]
        exact hrest _

-- Without an error the table is grouped as the entries come.
theorem detect_packages_grouped (order : hash_order)
    (h : ∀ entry ∈ entries, Examined sysfs entry → detected_cpu sysfs entry ≠ none) :
    (detect_packages order sysfs entries []).1 = 0 ∧
      ByPackage (entries.filterMap (examined_cpu sysfs))
        (detect_packages order sysfs entries []).2 := by
  rw [detect_packages_ok [] h]
  exact ⟨rfl, by simpa using ByPackage.nil.foldl order (entries.filterMap (examined_cpu sysfs))⟩

end Loop

end HwpcSensor
