import HwpcSensor.Hwinfo.Lemmas
import Mathlib.Data.List.Nodup

namespace HwpcSensor

def OnlineLink (sysfs : sysfs_cpus) (entry : dirent) : Prop :=
  entry.d_type = DT_LNK ∧ get_cpu_online_status sysfs entry.d_name = true

instance (sysfs : sysfs_cpus) (entry : dirent) : Decidable (OnlineLink sysfs entry) :=
  inferInstanceAs (Decidable (_ ∧ _))

-- The directory without the other entries.
def sysfs_cpus.only_links (sysfs : sysfs_cpus) : sysfs_cpus :=
  { sysfs with entries := sysfs.entries.map (·.filter fun entry => OnlineLink sysfs entry) }

-- The packages as decimal texts, each on a line of its own.
structure Assigns (sysfs : sysfs_cpus) (package : String → Option (List Char)) : Prop where
  line : ∀ cpu_dir, sysfs.physical_package_id cpu_dir = (package cpu_dir).map (· ++ ['\n'])
  decimal : ∀ cpu_dir id, package cpu_dir = some id → id ≠ [] ∧ ∀ c ∈ id, c.isDigit

-- The ids of the online cpus that report a package, in the order of the listing.
def reporting_cpus (sysfs : sysfs_cpus) (package : String → Option (List Char))
    (entries : List dirent) (pkg_id : String) : List String :=
  entries.filterMap fun entry =>
    if OnlineLink sysfs entry ∧ package entry.d_name = some pkg_id.toList then
      parse_cpu_id_from_name entry.d_name
    else none

structure Partitions (sysfs : sysfs_cpus) (package : String → Option (List Char))
    (entries : List dirent) (pkgs : zhashx hwinfo_pkg) : Prop where
  keys : (zhashx_keys pkgs).Nodup
  lookup : ∀ pkg_id,
    zhashx_lookup pkgs pkg_id = lists_cpus (reporting_cpus sysfs package entries pkg_id)
  nodup : ∀ pkg_id, (reporting_cpus sysfs package entries pkg_id).Nodup

-- A detection that ends well leaves the partition, and only the online links have
-- a part in it.
structure Detects (order : hash_order) (sysfs : sysfs_cpus)
    (package : String → Option (List Char)) : Prop where
  partition : (do_packages_detection order sysfs hwinfo_create).1 = 0 →
    ∀ entries, sysfs.entries = some entries →
      Partitions sysfs package entries (do_packages_detection order sysfs hwinfo_create).2.pkgs
  same_outcome : (do_packages_detection order sysfs.only_links hwinfo_create).1 =
    (do_packages_detection order sysfs hwinfo_create).1
  same_result : (do_packages_detection order sysfs hwinfo_create).1 = 0 →
    (do_packages_detection order sysfs.only_links hwinfo_create).2 =
      (do_packages_detection order sysfs hwinfo_create).2

-- An online link that is no cpu, or that has no package.
def Unusable (sysfs : sysfs_cpus) (package : String → Option (List Char)) (entry : dirent) :
    Prop :=
  OnlineLink sysfs entry ∧ entry.d_name.toList.head? ≠ some '.' ∧
    (parse_cpu_id_from_name entry.d_name = none ∨ package entry.d_name = none)

-- An entry that is no link and has a bit in common with the type of one.
def Stray (sysfs : sysfs_cpus) (entry : dirent) : Prop :=
  Examined sysfs entry ∧ entry.d_type ≠ DT_LNK

-- The ids that fit the buffer in front of the newline and the terminator.
def ShortIds (sysfs : sysfs_cpus) (package : String → Option (List Char))
    (entries : List dirent) : Prop :=
  ∀ entry ∈ entries, OnlineLink sysfs entry → entry.d_name.toList.head? ≠ some '.' →
    ∀ id, package entry.d_name = some id → id.length ≤ 22

section Links

variable {order : hash_order} {sysfs : sysfs_cpus} {package : String → Option (List Char)}
  {entries : List dirent} {entry : dirent}

theorem considered_of_link (hlink : entry.d_type = DT_LNK)
    (hname : entry.d_name.toList.head? ≠ some '.') : Considered entry := by
  refine ⟨?_, hname⟩
  rw [hlink]
  decide

theorem dotted_no_cpu {name : String} (h : name.toList.head? = some '.') :
    parse_cpu_id_from_name name = none := by
  cases hparse : parse_cpu_id_from_name name with
  | none => rfl
  | some cpu_id =>
      rw [(parse_cpu_id_from_name_eq_some.mp hparse).1, List.head?_cons, Option.some.injEq] at h
      exact absurd h (by decide)

theorem Assigns.get_package_id (h : Assigns sysfs package) (cpu_dir : String) :
    get_package_id sysfs cpu_dir =
      (package cpu_dir).map fun id => String.ofList (id.take 22) := by
  have hline := h.line cpu_dir
  cases hid : package cpu_dir with
  | none =>
      rw [hid, Option.map_none] at hline
      rw [HwpcSensor.get_package_id, hline]
      rfl
  | some id =>
      rw [hid, Option.map_some] at hline
      exact get_package_id_eq hline (h.decimal cpu_dir id hid).2

theorem detected_cpu_eq (h : Assigns sysfs package) :
    detected_cpu sysfs entry = (parse_cpu_id_from_name entry.d_name).bind fun cpu_id =>
      (package entry.d_name).map fun id => (String.ofList (id.take 22), cpu_id) := by
  rw [detected_cpu, h.get_package_id]
  cases parse_cpu_id_from_name entry.d_name <;> cases package entry.d_name <;> rfl

theorem detected_cpu_eq_none_iff (h : Assigns sysfs package) :
    detected_cpu sysfs entry = none ↔
      parse_cpu_id_from_name entry.d_name = none ∨ package entry.d_name = none := by
  rw [detected_cpu_eq h]
  cases parse_cpu_id_from_name entry.d_name <;> cases package entry.d_name <;> simp

theorem unusable_iff (h : Assigns sysfs package) :
    Unusable sysfs package entry ↔ OnlineLink sysfs entry ∧ Examined sysfs entry ∧
      detected_cpu sysfs entry = none := by
  rw [Unusable, detected_cpu_eq_none_iff h]
  constructor
  · rintro ⟨hlink, hname, hnone⟩
    exact ⟨hlink, ⟨considered_of_link hlink.1 hname, hlink.2⟩, hnone⟩
  · rintro ⟨hlink, hexamined, hnone⟩
    exact ⟨hlink, hexamined.1.2, hnone⟩

-- Each id belongs to one link.
theorem nodup_reporting_cpus (hnodup : (entries.map dirent.d_name).Nodup) (pkg_id : String) :
    (reporting_cpus sysfs package entries pkg_id).Nodup := by
  refine (List.Nodup.of_map _ hnodup).filterMap ?_
  intro first second cpu_id hfirst hsecond
  obtain ⟨⟨⟨hlink, -⟩, -⟩, hname⟩ := Option.ite_none_right_eq_some.mp hfirst
  obtain ⟨⟨⟨hlink', -⟩, -⟩, hname'⟩ := Option.ite_none_right_eq_some.mp hsecond
  have hsame : first.d_name = second.d_name := by
    rw [← String.toList_inj, (parse_cpu_id_from_name_eq_some.mp hname).1,
      (parse_cpu_id_from_name_eq_some.mp hname').1]
  obtain ⟨type, name⟩ := first
  obtain ⟨type', name'⟩ := second
  obtain rfl : name = name' := hsame
  obtain rfl : type = type' := hlink.trans hlink'.symm
  rfl

-- Without strays, and with ids that fit, the loop sees what the links report.
theorem cpus_of_examined (hassigns : Assigns sysfs package)
    (hstray : ∀ entry ∈ entries, ¬Stray sysfs entry) (hshort : ShortIds sysfs package entries)
    (pkg_id : String) :
    cpus_of (entries.filterMap (examined_cpu sysfs)) pkg_id =
      reporting_cpus sysfs package entries pkg_id := by
  rw [cpus_of, List.filterMap_filterMap, reporting_cpus]
  apply List.filterMap_congr
  intro entry hentry
  by_cases hexamined : Examined sysfs entry
  · have hlink : OnlineLink sysfs entry :=
      ⟨not_not.mp fun hne => hstray entry hentry ⟨hexamined, hne⟩, hexamined.2⟩
    rw [examined_cpu, if_pos hexamined, detected_cpu_eq hassigns]
    cases hid : package entry.d_name with
    | none => cases parse_cpu_id_from_name entry.d_name <;> simp
    | some id =>
        have hfits := hshort entry hentry hlink hexamined.1.2 id hid
        have hkey : String.ofList id = pkg_id ↔ id = pkg_id.toList := by
          rw [← String.toList_inj, String.toList_ofList]
        simp only [Option.map_some, List.take_of_length_le hfits]
        cases parse_cpu_id_from_name entry.d_name <;> simp [hlink, hkey]
  · rw [examined_cpu, if_neg hexamined, Option.bind_none]
    symm
    by_cases hlink : OnlineLink sysfs entry
    · have hdot : entry.d_name.toList.head? = some '.' := by
        by_contra hname
        exact hexamined ⟨considered_of_link hlink.1 hname, hlink.2⟩
      rw [dotted_no_cpu hdot, ite_self]
    · exact if_neg fun h => hlink h.1

-- The loop passes over everything else.
theorem filterMap_filter_links (hstray : ∀ entry ∈ entries, ¬Stray sysfs entry) :
    (entries.filter fun entry => OnlineLink sysfs entry).filterMap (examined_cpu sysfs) =
      entries.filterMap (examined_cpu sysfs) := by
  rw [List.filterMap_filter]
  apply List.filterMap_congr
  intro entry hentry
  by_cases hlink : OnlineLink sysfs entry
  · rw [if_pos (by simpa using hlink)]
  · have hexamined : ¬Examined sysfs entry := by
      intro hexamined
      by_cases htype : entry.d_type = DT_LNK
      · exact hlink ⟨htype, hexamined.2⟩
      · exact hstray entry hentry ⟨hexamined, htype⟩
    rw [if_neg (by simpa using hlink), examined_cpu, if_neg hexamined]

-- A stray cpu is one more than the links account for.
theorem stray_counted (hdetected : ∀ entry ∈ entries, Examined sysfs entry →
    detected_cpu sysfs entry ≠ none) (hentry : entry ∈ entries) (hstray : Stray sysfs entry) :
    ∃ pkg_id, (cpus_of ((entries.filter fun entry => OnlineLink sysfs entry).filterMap
        (examined_cpu sysfs)) pkg_id).length <
      (cpus_of (entries.filterMap (examined_cpu sysfs)) pkg_id).length := by
  obtain ⟨pair, hpair⟩ := Option.ne_none_iff_exists'.mp (hdetected entry hentry hstray.1)
  have hseen : examined_cpu sysfs entry = some pair := by
    rw [examined_cpu, if_pos hstray.1, hpair]
  have hlink : ¬OnlineLink sysfs entry := fun hlink => hstray.2 hlink.1
  obtain ⟨before, after, rfl⟩ := List.append_of_mem hentry
  refine ⟨pair.1, ?_⟩
  have hpart : ∀ part : List dirent,
      (cpus_of ((part.filter fun entry => OnlineLink sysfs entry).filterMap
        (examined_cpu sysfs)) pair.1).length ≤
      (cpus_of (part.filterMap (examined_cpu sysfs)) pair.1).length := fun part =>
    ((List.filter_sublist.filterMap _).filterMap _).length_le
  have hbefore := hpart before
  have hafter := hpart after
  rw [List.filter_append, List.filter_cons_of_neg (by simpa using hlink), List.filterMap_append,
    List.filterMap_append, List.filterMap_cons_some hseen, cpus_of_append, cpus_of_append,
    cpus_of_cons, if_pos rfl, List.length_append, List.length_append, List.length_append,
    List.length_singleton]
  omega

end Links

section Detection

variable {order : hash_order} {sysfs : sysfs_cpus} {package : String → Option (List Char)}
  {entries : List dirent}

theorem do_packages_detection_eq (hentries : sysfs.entries = some entries) :
    do_packages_detection order sysfs hwinfo_create =
      ((detect_packages order sysfs entries []).1,
        ⟨(detect_packages order sysfs entries []).2⟩) := by
  rw [do_packages_detection, hentries]
  rfl

-- Only the listing changes when the other entries are left out.
theorem do_packages_detection_only_links (hentries : sysfs.entries = some entries) :
    do_packages_detection order sysfs.only_links hwinfo_create =
      ((detect_packages order sysfs
          (entries.filter fun entry => OnlineLink sysfs entry) []).1,
        ⟨(detect_packages order sysfs
          (entries.filter fun entry => OnlineLink sysfs entry) []).2⟩) := by
  have hsame : ∀ listing pkgs, detect_packages order sysfs.only_links listing pkgs =
      detect_packages order sysfs listing pkgs := by
    intro listing
    induction listing with
    | nil => intro pkgs; rfl
    | cons entry listing ih =>
        intro pkgs
        rw [detect_packages_cons, detect_packages_cons]
        simp only [ih]
        rfl
  have hlinks : sysfs.only_links.entries =
      some (entries.filter fun entry => OnlineLink sysfs entry) := by
    rw [sysfs_cpus.only_links, hentries, Option.map_some]
  rw [do_packages_detection_eq hlinks, hsame]

theorem detects_of_fails
    (hall : (do_packages_detection order sysfs hwinfo_create).1 = -1)
    (hlinks : (do_packages_detection order sysfs.only_links hwinfo_create).1 = -1) :
    Detects order sysfs package := by
  constructor
  · intro hok
    rw [hall] at hok
    exact absurd hok (by decide)
  · rw [hall, hlinks]
  · intro hok
    rw [hall] at hok
    exact absurd hok (by decide)

-- A bad link ends both detections.
theorem detects_of_unusable (hassigns : Assigns sysfs package)
    (hentries : sysfs.entries = some entries)
    (hbad : ∃ entry ∈ entries, Unusable sysfs package entry) : Detects order sysfs package := by
  obtain ⟨entry, hentry, hunusable⟩ := hbad
  obtain ⟨hlink, hexamined, hnone⟩ := (unusable_iff hassigns).mp hunusable
  apply detects_of_fails
  · rw [do_packages_detection_eq hentries]
    exact detect_packages_fails [] ⟨entry, hentry, hexamined, hnone⟩
  · rw [do_packages_detection_only_links hentries]
    refine detect_packages_fails [] ⟨entry, ?_, hexamined, hnone⟩
    exact List.mem_filter.mpr ⟨hentry, by simpa using hlink⟩

theorem detects_of_clean (hassigns : Assigns sysfs package)
    (hnodup : (entries.map dirent.d_name).Nodup) (hentries : sysfs.entries = some entries)
    (husable : ∀ entry ∈ entries, ¬Unusable sysfs package entry)
    (hstray : ∀ entry ∈ entries, ¬Stray sysfs entry) (hshort : ShortIds sysfs package entries) :
    Detects order sysfs package := by
  have hdetected : ∀ entry ∈ entries, Examined sysfs entry → detected_cpu sysfs entry ≠ none := by
    intro entry hentry hexamined hnone
    have hlink : OnlineLink sysfs entry :=
      ⟨not_not.mp fun hne => hstray entry hentry ⟨hexamined, hne⟩, hexamined.2⟩
    exact husable entry hentry ((unusable_iff hassigns).mpr ⟨hlink, hexamined, hnone⟩)
  obtain ⟨hok, hgrouped⟩ := detect_packages_grouped order hdetected
  have hsame :
      detect_packages order sysfs (entries.filter fun entry => OnlineLink sysfs entry) [] =
        detect_packages order sysfs entries [] := by
    rw [detect_packages_ok [] fun entry hentry => hdetected entry (List.mem_of_mem_filter hentry),
      detect_packages_ok [] hdetected, filterMap_filter_links hstray]
  constructor
  · intro _ listing hlisting
    obtain rfl := Option.some.inj (hentries.symm.trans hlisting)
    rw [do_packages_detection_eq hentries]
    refine ⟨hgrouped.keys, fun pkg_id => ?_, nodup_reporting_cpus hnodup⟩
    rw [hgrouped.lookup, cpus_of_examined hassigns hstray hshort]
  · rw [do_packages_detection_eq hentries, do_packages_detection_only_links hentries, hsame]
  · intro _
    rw [do_packages_detection_eq hentries, do_packages_detection_only_links hentries, hsame]

-- The ids of packages are cut to what the buffer holds.
theorem length_le_of_detected (hassigns : Assigns sysfs package) {cpu_id : String}
    {id : List Char}
    (h : cpu_id ∈ cpus_of (entries.filterMap (examined_cpu sysfs)) (String.ofList id)) :
    id.length ≤ 22 := by
  obtain ⟨pair, hpair, hkey⟩ := List.mem_filterMap.mp h
  obtain ⟨other, -, hother⟩ := List.mem_filterMap.mp hpair
  have hcut := (Option.ite_none_right_eq_some.mp hother).2
  rw [detected_cpu_eq hassigns] at hcut
  obtain ⟨found, -, hcut⟩ := Option.bind_eq_some_iff.mp hcut
  obtain ⟨text, -, rfl⟩ := Option.map_eq_some_iff.mp hcut
  have htext := (Option.ite_none_right_eq_some.mp hkey).1
  rw [← String.toList_inj, String.toList_ofList, String.toList_ofList] at htext
  rw [← htext, List.length_take]
  omega

-- A detection that is right has met no stray and no id that does not fit.
theorem clean_of_detects (hassigns : Assigns sysfs package)
    (hentries : sysfs.entries = some entries)
    (husable : ∀ entry ∈ entries, ¬Unusable sysfs package entry)
    (h : Detects order sysfs package) :
    (∀ entry ∈ entries, ¬Stray sysfs entry) ∧ ShortIds sysfs package entries := by
  have hlinks : ∀ entry ∈ entries.filter fun entry => OnlineLink sysfs entry,
      Examined sysfs entry → detected_cpu sysfs entry ≠ none := by
    intro entry hentry hexamined hnone
    obtain ⟨hmem, hlink⟩ := List.mem_filter.mp hentry
    exact husable entry hmem
      ((unusable_iff hassigns).mpr ⟨by simpa using hlink, hexamined, hnone⟩)
  obtain ⟨hok, hgrouped⟩ := detect_packages_grouped order hlinks
  have houtcome := h.same_outcome
  have hresult := h.same_result
  have hpartition := h.partition
  rw [do_packages_detection_eq hentries] at houtcome hresult hpartition
  rw [do_packages_detection_only_links hentries, hok] at houtcome
  rw [do_packages_detection_only_links hentries] at hresult
  have htables := congrArg hwinfo.pkgs (hresult houtcome.symm)
  have hdetected : ∀ entry ∈ entries, Examined sysfs entry → detected_cpu sysfs entry ≠ none := by
    intro entry hentry hexamined hnone
    have hfails : (detect_packages order sysfs entries []).1 = -1 :=
      detect_packages_fails [] ⟨entry, hentry, hexamined, hnone⟩
    rw [← houtcome] at hfails
    exact absurd hfails (by decide)
  obtain ⟨-, hall⟩ := detect_packages_grouped order hdetected
  constructor
  · intro entry hentry hstray
    obtain ⟨pkg_id, hlt⟩ := stray_counted hdetected hentry hstray
    have hlists := (hgrouped.lookup pkg_id).symm.trans
      ((congrArg (zhashx_lookup · pkg_id) htables).trans (hall.lookup pkg_id))
    rw [lists_cpus_injective hlists] at hlt
    exact Nat.lt_irrefl _ hlt
  · intro entry hentry hlink hname id hid
    obtain ⟨cpu_id, hcpu⟩ : ∃ cpu_id, parse_cpu_id_from_name entry.d_name = some cpu_id := by
      apply Option.ne_none_iff_exists'.mp
      exact fun hnone => husable entry hentry ⟨hlink, hname, Or.inl hnone⟩
    have hreported : cpu_id ∈ reporting_cpus sysfs package entries (String.ofList id) := by
      refine List.mem_filterMap.mpr ⟨entry, hentry, ?_⟩
      rw [if_pos ⟨hlink, by rw [hid, String.toList_ofList]⟩, hcpu]
    have hlists := (hpartition houtcome.symm entries hentries).lookup (String.ofList id)
    rw [lists_cpus_injective (hlists.symm.trans (hall.lookup (String.ofList id)))] at hreported
    exact length_le_of_detected hassigns hreported

end Detection

-- The detection partitions the online cpus unless a stray entry is looked into or
-- an id is cut, and no bad link ends it anyway.
theorem packages_detected_iff (order : hash_order) {sysfs : sysfs_cpus}
    {package : String → Option (List Char)} (hassigns : Assigns sysfs package)
    (hnodup : ∀ entries, sysfs.entries = some entries → (entries.map dirent.d_name).Nodup) :
    Detects order sysfs package ↔ ∀ entries, sysfs.entries = some entries →
      (∃ entry ∈ entries, Unusable sysfs package entry) ∨
        (∀ entry ∈ entries, ¬Stray sysfs entry) ∧ ShortIds sysfs package entries := by
  cases hentries : sysfs.entries with
  | none =>
      refine iff_of_true (detects_of_fails ?_ ?_) (by simp)
      · rw [do_packages_detection, hentries]
      · rw [do_packages_detection, sysfs_cpus.only_links, hentries]
        rfl
  | some entries =>
      simp only [Option.some.injEq, forall_eq']
      by_cases hbad : ∃ entry ∈ entries, Unusable sysfs package entry
      · exact iff_of_true (detects_of_unusable hassigns hentries hbad) (Or.inl hbad)
      · have husable : ∀ entry ∈ entries, ¬Unusable sysfs package entry :=
          fun entry hentry h => hbad ⟨entry, hentry, h⟩
        constructor
        · exact fun h => Or.inr (clean_of_detects hassigns hentries husable h)
        · rintro (h | ⟨hstray, hshort⟩)
          · exact absurd h hbad
          · exact detects_of_clean hassigns (hnodup entries hentries) hentries husable hstray hshort

-- Two cpus of a package, one of them offline, and a regular file beside them.
def cpus_and_file : sysfs_cpus where
  entries := some [⟨DT_LNK, "cpu0"⟩, ⟨DT_LNK, "cpu1"⟩, ⟨DT_REG, "notes"⟩]
  online := fun cpu_dir => if cpu_dir = "cpu1" then some ['0', '\n'] else none
  physical_package_id := fun cpu_dir => if cpu_dir = "notes" then none else some ['0', '\n']

def first_package (cpu_dir : String) : Option (List Char) :=
  if cpu_dir = "notes" then none else some ['0']

theorem first_package_assigns : Assigns cpus_and_file first_package := by
  constructor
  · intro cpu_dir
    by_cases hnotes : cpu_dir = "notes"
    · simp [cpus_and_file, first_package, hnotes]
    · simp [cpus_and_file, first_package, hnotes]
  · intro cpu_dir id hid
    rw [first_package, Option.ite_none_left_eq_some] at hid
    obtain rfl := Option.some.inj hid.2
    exact ⟨List.cons_ne_nil _ _, List.forall_mem_singleton.mpr rfl⟩

theorem packages_detected_iff_file :
    Detects in_order cpus_and_file first_package ↔
      ∀ entries, cpus_and_file.entries = some entries →
        (∃ entry ∈ entries, Unusable cpus_and_file first_package entry) ∨
          (∀ entry ∈ entries, ¬Stray cpus_and_file entry) ∧
            ShortIds cpus_and_file first_package entries :=
  packages_detected_iff in_order first_package_assigns fun entries hentries => by
    obtain rfl := Option.some.inj hentries
    decide

-- The file is taken for a link and ends the detection.
theorem file_ends_detection :
    Assigns cpus_and_file first_package ∧
      ([⟨DT_LNK, "cpu0"⟩, ⟨DT_LNK, "cpu1"⟩, ⟨DT_REG, "notes"⟩].map dirent.d_name).Nodup ∧
      (do_packages_detection in_order cpus_and_file.only_links hwinfo_create).1 = 0 ∧
      (do_packages_detection in_order cpus_and_file hwinfo_create).1 = -1 ∧
      ¬Detects in_order cpus_and_file first_package := by
  have hlinks : (do_packages_detection in_order cpus_and_file.only_links hwinfo_create).1 = 0 := by
    decide
  have hall : (do_packages_detection in_order cpus_and_file hwinfo_create).1 = -1 := by decide
  refine ⟨first_package_assigns, by decide, hlinks, hall, fun h => ?_⟩
  have hsame := h.same_outcome
  rw [hlinks, hall] at hsame
  exact absurd hsame (by decide)

end HwpcSensor
