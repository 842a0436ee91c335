import HwpcSensor.Hwinfo.Theorems

namespace HwpcSensor

-- The listing of a machine: links for the cpus, which are numbered and have their
-- package in the file, and one of them online.
structure Machine (sysfs : sysfs_cpus) (package : String → Option (List Char))
    (entries : List dirent) : Prop where
  listing : sysfs.entries = some entries
  assigns : Assigns sysfs package
  nodup : (entries.map dirent.d_name).Nodup
  stray : ∀ entry ∈ entries, ¬Stray sysfs entry
  cpus : ∀ entry ∈ entries, OnlineLink sysfs entry →
    (∃ n : Nat, n ≤ INT_MAX ∧ entry.d_name = "cpu" ++ n.repr) ∧
      ∃ id, package entry.d_name = some id ∧ id.length ≤ 22
  online : ∃ entry ∈ entries, OnlineLink sysfs entry

variable {sysfs : sysfs_cpus} {package : String → Option (List Char)} {entries : List dirent}

theorem parse_cpu_id_from_name_repr (n : Nat) :
    parse_cpu_id_from_name ("cpu" ++ n.repr) = some n.repr := by
  refine parse_cpu_id_from_name_eq_some.mpr ⟨?_, ?_, fun c hc => ?_⟩
  · rw [String.toList_append]
    rfl
  · rw [Nat.toList_repr]
    exact Nat.toDigits_ne_nil
  · rw [Nat.toList_repr] at hc
    exact Nat.isDigit_of_mem_toDigits (by decide) (by decide) hc

theorem Machine.reported (h : Machine sysfs package entries) {pkg_id cpu_id : String}
    (hcpu : cpu_id ∈ reporting_cpus sysfs package entries pkg_id) :
    ∃ n : Nat, n ≤ INT_MAX ∧ cpu_id = n.repr := by
  obtain ⟨entry, hentry, hreports⟩ := List.mem_filterMap.mp hcpu
  obtain ⟨⟨hlink, -⟩, hparse⟩ := Option.ite_none_right_eq_some.mp hreports
  obtain ⟨⟨n, hn, hname⟩, -⟩ := h.cpus entry hentry hlink
  rw [hname, parse_cpu_id_from_name_repr] at hparse
  exact ⟨n, hn, (Option.some.inj hparse).symm⟩

-- Its detection ends well, with the online cpus by their packages.
theorem Machine.detected (h : Machine sysfs package entries) (order : hash_order) :
    ∃ hwinfo, do_packages_detection order sysfs hwinfo_create = (0, hwinfo) ∧ hwinfo.Detected ∧
      ∀ pkg_id, zhashx_lookup hwinfo.pkgs pkg_id =
        lists_cpus (reporting_cpus sysfs package entries pkg_id) := by
  have hshort : ShortIds sysfs package entries := by
    intro entry hentry hlink _ id hid
    obtain ⟨-, other, hother, hlength⟩ := h.cpus entry hentry hlink
    rw [hid, Option.some.injEq] at hother
    exact hother ▸ hlength
  have husable : ∀ entry ∈ entries, Examined sysfs entry → detected_cpu sysfs entry ≠ none := by
    intro entry hentry hexamined hnone
    have hlink : OnlineLink sysfs entry :=
      ⟨not_not.mp fun hne => h.stray entry hentry ⟨hexamined, hne⟩, hexamined.2⟩
    obtain ⟨⟨n, -, hname⟩, id, hid, -⟩ := h.cpus entry hentry hlink
    rw [detected_cpu_eq_none_iff h.assigns, hid, hname, parse_cpu_id_from_name_repr] at hnone
    simp at hnone
  obtain ⟨hok, hgrouped⟩ := detect_packages_grouped order husable
  have hlookup : ∀ pkg_id, zhashx_lookup (detect_packages order sysfs entries []).2 pkg_id =
      lists_cpus (reporting_cpus sysfs package entries pkg_id) := by
    intro pkg_id
    rw [hgrouped.lookup, cpus_of_examined h.assigns h.stray hshort]
  have hitem : ∀ item ∈ (detect_packages order sysfs entries []).2,
      reporting_cpus sysfs package entries item.1 ≠ [] ∧
        item.2.cpus_id = reporting_cpus sysfs package entries item.1 := by
    intro item hitem
    have hpkg := (zhashx_lookup_eq_some_iff hgrouped.keys).mpr hitem
    rw [hlookup, lists_cpus] at hpkg
    obtain ⟨hne, hpkg⟩ := Option.ite_none_left_eq_some.mp hpkg
    exact ⟨hne, (congrArg hwinfo_pkg.cpus_id (Option.some.inj hpkg)).symm⟩
  refine ⟨_, (do_packages_detection_eq h.listing).trans (by rw [hok]), ?_, hlookup⟩
  refine ⟨hgrouped.keys, fun hnil => ?_, fun item hmem => ?_, fun item hmem => ?_,
    fun item hmem cpu_id hcpu => ?_⟩
  · obtain ⟨entry, hentry, hlink⟩ := h.online
    obtain ⟨⟨n, -, hname⟩, id, hid, -⟩ := h.cpus entry hentry hlink
    have hreports : n.repr ∈ reporting_cpus sysfs package entries (String.ofList id) := by
      refine List.mem_filterMap.mpr ⟨entry, hentry, ?_⟩
      rw [if_pos ⟨hlink, by rw [hid, String.toList_ofList]⟩, hname, parse_cpu_id_from_name_repr]
    have hnil : (detect_packages order sysfs entries []).2 = [] := hnil
    have hpkg := hlookup (String.ofList id)
    rw [hnil, lists_cpus, if_neg (List.ne_nil_of_mem hreports)] at hpkg
    exact absurd hpkg (by simp [zhashx_lookup])
  · rw [(hitem item hmem).2]
    exact nodup_reporting_cpus h.nodup item.1
  · rw [(hitem item hmem).2]
    exact (hitem item hmem).1
  · rw [(hitem item hmem).2] at hcpu
    exact h.reported hcpu

end HwpcSensor
