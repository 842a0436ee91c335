import HwpcSensor.Perf.Actor.Names
import HwpcSensor.Target.Discovery.Lemmas
import HwpcSensor.Target.Ids

namespace HwpcSensor

open Perf PosixRegex

-- A target of one discovery, known by its position.
def Returned (order : hash_order) (base_path : String) (type_mask : Nat) (tree : cgroups)
    (created : List target) (i : Nat) (t : target) : Prop :=
  let d := (target_discover_running order base_path type_mask (some tree) ⟨created, []⟩).2
  ∃ path, (path, i) ∈ d.targets ∧ d.created[i]? = some t

def DistinctNames (files : String → Option (List String)) : Prop :=
  ∀ id id' name, ContainerId id.toList → ContainerId id'.toList →
    configured_name files id = some name → configured_name files id' = some name → id = id'

-- Two targets for the whole system, or for the kernel.
def SameStatic (t t' : target) : Prop :=
  t.type = t'.type ∧ (static_name t.type).isSome

-- Two cgroups of one container.
def SameContainer (files : String → Option (List String)) (t t' : target) : Prop :=
  ∃ id, target_container_id t = some id ∧ target_container_id t' = some id ∧
    (configured_name files id).isSome

-- A container that is called as the other target is.
def CalledStatic (files : String → Option (List String)) (t t' : target) : Prop :=
  ∃ id name, target_container_id t = some id ∧ configured_name files id = some name ∧
    static_name t'.type = some name

-- Behind a base path that ends in a slash, a cgroup that is called as the other
-- target is.
def PlacedAs (files : String → Option (List String)) (base_path : String) (t t' : target) :
    Prop :=
  base_path.toList.getLast? = some '/' ∧
    ∃ name, own_name files t' = some name ∧ t.cgroup_path = some (base_path ++ name)

def SharesName (files : String → Option (List String)) (base_path : String) (t t' : target) :
    Prop :=
  SameStatic t t' ∨ SameContainer files t t' ∨
    (CalledStatic files t t' ∨ CalledStatic files t' t) ∨
      PlacedAs files base_path t t' ∨ PlacedAs files base_path t' t

-- What identifies the entries of a report.
def report_keys (payload : payload) : List (Nat × String × String × String × String) :=
  payload.groups.flatMap fun group => group.2.pkgs.flatMap fun pkg =>
    pkg.2.cpus.map fun cpu => (payload.timestamp, payload.target_name, group.1, pkg.1, cpu.1)

theorem mem_report_keys {payload : payload} {key : Nat × String × String × String × String}
    (h : key ∈ report_keys payload) : key.2.1 = payload.target_name := by
  obtain ⟨group, -, h⟩ := List.mem_flatMap.mp h
  obtain ⟨pkg, -, h⟩ := List.mem_flatMap.mp h
  obtain ⟨cpu, -, rfl⟩ := List.mem_map.mp h
  rfl

section Own

variable {files : String → Option (List String)} {t t' : target} {id name : String}

theorem regexec_captured {pattern text : String} {r : Regex} {group : Nat}
    (hpattern : Regex.comp pattern = some r) (h : regexec pattern group text = some name) :
    ∃ s rest c, r.Matches s rest c ∧ c.lookup group = some name.toList := by
  unfold regexec regex_search at h
  rw [hpattern, Option.bind_some] at h
  obtain ⟨c, hexec, hcaptured⟩ := Option.bind_eq_some_iff.mp h
  obtain ⟨found, hfound, rfl⟩ := Option.map_eq_some_iff.mp hcaptured
  obtain ⟨before, s, rest, -, hmatches⟩ := Regex.exec_matches hexec
  exact ⟨s, rest, c, hmatches, by rw [hfound, String.toList_ofList]⟩

theorem target_container_id_ok (h : target_container_id t = some id) :
    ContainerId id.toList ∧ static_name t.type = none := by
  unfold target_container_id at h
  cases htype : t.type with
  | DOCKER =>
      rw [htype] at h
      obtain ⟨path, -, hid⟩ := Option.bind_eq_some_iff.mp h
      obtain ⟨s, rest, c, hmatches, hlookup⟩ := regexec_captured comp_docker hid
      obtain ⟨found, -, hfound, -, rfl⟩ := docker_id_matches.mp hmatches
      obtain rfl : found = id.toList := Option.some.inj hlookup
      exact ⟨hfound, rfl⟩
  | KUBERNETES =>
      rw [htype] at h
      obtain ⟨path, -, hid⟩ := Option.bind_eq_some_iff.mp h
      obtain ⟨s, rest, c, hmatches, hlookup⟩ := regexec_captured comp_kubernetes hid
      obtain ⟨qos, pod, found, group, -, -, -, hfound, -, rfl⟩ := kubernetes_id_matches.mp hmatches
      obtain rfl : found = id.toList := Option.some.inj hlookup
      exact ⟨hfound, rfl⟩
  | _ =>
      rw [htype] at h
      cases h

theorem own_name_container (h : target_container_id t = some id) :
    own_name files t = configured_name files id := by
  rw [own_name, (target_container_id_ok h).2, h]
  rfl

theorem own_name_static (h : static_name t.type = some name) : own_name files t = some name := by
  rw [own_name, h, Option.some_or]

theorem own_name_eq_some (h : own_name files t = some name) :
    static_name t.type = some name ∨
      ∃ id, target_container_id t = some id ∧ configured_name files id = some name := by
  cases hstatic : static_name t.type with
  | some _ =>
      rw [own_name, hstatic, Option.some_or] at h
      exact Or.inl h
  | none =>
      rw [own_name, hstatic, Option.none_or] at h
      exact Or.inr (Option.bind_eq_some_iff.mp h)

theorem static_name_injective {type type' : target_type} (hsome : (static_name type).isSome)
    (h : static_name type = static_name type') : type = type' := by
  cases type <;> cases type' <;>
    first | rfl | exact absurd h (by decide) | exact absurd hsome (by decide)

-- No name of its own reads as a path.
theorem own_name_head (h : own_name files t = some name) :
    ∃ x more, name.toList = x :: more ∧ x ≠ '/' := by
  rcases own_name_eq_some h with hstatic | ⟨id, -, hconfigured⟩
  · unfold static_name at hstatic
    split at hstatic
    · exact Option.some.inj hstatic ▸ ⟨'a', _, rfl, by decide⟩
    · exact Option.some.inj hstatic ▸ ⟨'k', _, rfl, by decide⟩
    · exact Option.some.inj hstatic ▸ ⟨'s', _, rfl, by decide⟩
    · cases hstatic
  · obtain ⟨json, -, hname⟩ := Option.bind_eq_some_iff.mp hconfigured
    obtain ⟨s, rest, c, hmatches, hlookup⟩ := regexec_captured comp_container_name hname
    obtain ⟨x, more, rfl, hstart⟩ := container_name_captured hmatches
    refine ⟨x, more, by simpa using hlookup.symm, ?_⟩
    rintro rfl
    exact absurd hstart (by decide)

-- Who can have one name of their own.
theorem own_names_shared (hdistinct : DistinctNames files) (h : own_name files t = some name)
    (h' : own_name files t' = some name) :
    SameStatic t t' ∨ SameContainer files t t' ∨ CalledStatic files t t' ∨
      CalledStatic files t' t := by
  rcases own_name_eq_some h with hstatic | ⟨id, hid, hname⟩ <;>
    rcases own_name_eq_some h' with hstatic' | ⟨id', hid', hname'⟩
  · have hsome : (static_name t.type).isSome := by rw [hstatic, Option.isSome_some]
    exact Or.inl ⟨static_name_injective hsome (hstatic.trans hstatic'.symm), hsome⟩
  · exact Or.inr (Or.inr (Or.inr ⟨id', name, hid', hname', hstatic⟩))
  · exact Or.inr (Or.inr (Or.inl ⟨id, name, hid, hname, hstatic'⟩))
  · obtain rfl := hdistinct id id' name (target_container_id_ok hid).1
      (target_container_id_ok hid').1 hname hname'
    exact Or.inr (Or.inl ⟨id, hid, hid', by rw [hname, Option.isSome_some]⟩)

end Own

section Place

variable {order : hash_order} {base_path : String} {type_mask : Nat} {tree : cgroups}
  {created : List target} {i i' : Nat} {t t' : target}

theorem Returned.place (h : Returned order base_path type_mask tree created i t)
    (hvalid : tree.Valid) :
    ∃ names : List String, (∀ name ∈ names, name ≠ "" ∧ '/' ∉ name.toList) ∧
      t.cgroup_path = some (cgroup_path base_path names) ∧ t.cgroup_basedir = some base_path := by
  obtain ⟨path, hentry, htarget⟩ := h
  obtain ⟨node, hnode, hwanted, -, hcreated⟩ :=
    (target_discover_running_found tree created).sound _ hentry
  obtain ⟨names, sub, hplace, rfl⟩ := mem_fts_read_iff.mp ⟨hnode, hwanted.1.1⟩
  obtain rfl := Option.some.inj (htarget.symm.trans hcreated)
  refine ⟨names, ?_, rfl, rfl⟩
  rcases hplace with ⟨rfl, -⟩ | hhas
  · simp
  · exact hhas.name_ok hvalid

-- Different targets are for different cgroups.
theorem Returned.path_ne (h : Returned order base_path type_mask tree created i t)
    (h' : Returned order base_path type_mask tree created i' t') (hvalid : tree.Valid)
    (hne : i ≠ i') : t.cgroup_path ≠ t'.cgroup_path := by
  obtain ⟨path, hentry, htarget⟩ := h
  obtain ⟨path', hentry', htarget'⟩ := h'
  have hfound := @target_discover_running_found order base_path type_mask tree created
  obtain ⟨found, hkeys, -, -⟩ := @target_discover_running_perm order base_path type_mask tree hvalid
    created
  obtain ⟨node, -, -, hpath, hcreated⟩ := hfound.sound _ hentry
  obtain ⟨node', -, -, hpath', hcreated'⟩ := hfound.sound _ hentry'
  obtain rfl := Option.some.inj (htarget.symm.trans hcreated)
  obtain rfl := Option.some.inj (htarget'.symm.trans hcreated')
  intro heq
  have hsame : path = path' := hpath.symm.trans ((Option.some.inj heq).trans hpath')
  subst hsame
  exact hne (congrArg Prod.snd (List.inj_on_of_nodup_map hkeys hentry hentry' rfl))

end Place

-- What is left of a path behind the base path.
def relative_name (base_path path : String) : String :=
  (path.drop base_path.length).copy

section Relative

variable {base_path : String} {names : List String}

theorem base_path_append_relative (hnames : ∀ name ∈ names, name ≠ "" ∧ '/' ∉ name.toList) :
    base_path ++ relative_name base_path (cgroup_path base_path names) =
      cgroup_path base_path names := by
  rw [← String.toList_inj, String.toList_append, relative_name, String.toList_copy_drop,
    ← String.length_toList]
  exact List.prefix_iff_eq_append.mp (cgroup_path_starts base_path hnames)

theorem relative_head (hbase : base_path.toList.getLast? ≠ some '/')
    (hnames : ∀ name ∈ names, name ≠ "" ∧ '/' ∉ name.toList) {x : Char} {more : List Char}
    (h : (relative_name base_path (cgroup_path base_path names)).toList = x :: more) :
    x = '/' := by
  rw [relative_name, String.toList_copy_drop, ← String.length_toList,
    cgroup_path_toList hbase hnames, List.drop_left] at h
  cases names with
  | nil => cases h
  | cons name names => exact (List.cons.inj h).1.symm

end Relative

section Shared

variable {files : String → Option (List String)} {order : hash_order} {base_path : String}
  {type_mask : Nat} {tree : cgroups} {created : List target} {i : Nat} {t t' : target}

-- A target that was discovered has its own name, or what is left of its path.
theorem Returned.resolves_iff (h : Returned order base_path type_mask tree created i t)
    (hvalid : tree.Valid) :
    ∃ names : List String, (∀ name ∈ names, name ≠ "" ∧ '/' ∉ name.toList) ∧
      t.cgroup_path = some (cgroup_path base_path names) ∧
      ∀ name, Resolves files t name ↔ own_name files t = some name ∨
        relative_name base_path (cgroup_path base_path names) = name := by
  obtain ⟨names, hnames, hpath, hbase⟩ := h.place hvalid
  exact ⟨names, hnames, hpath, fun name => Perf.resolves_iff hpath hbase⟩

-- Own names are no relative ones, unless the base path ends in a slash.
theorem placed_as {names : List String} (hnames : ∀ name ∈ names, name ≠ "" ∧ '/' ∉ name.toList)
    (hpath : t.cgroup_path = some (cgroup_path base_path names))
    (hown : own_name files t' =
      some (relative_name base_path (cgroup_path base_path names))) :
    PlacedAs files base_path t t' := by
  refine ⟨?_, _, hown, hpath.trans (congrArg some (base_path_append_relative hnames).symm)⟩
  obtain ⟨x, more, htoList, hne⟩ := own_name_head hown
  by_contra hbase
  exact hne (relative_head hbase hnames htoList)

theorem PlacedAs.relative {names : List String}
    (hnames : ∀ name ∈ names, name ≠ "" ∧ '/' ∉ name.toList)
    (hpath : t.cgroup_path = some (cgroup_path base_path names))
    (h : PlacedAs files base_path t t') :
    own_name files t' = some (relative_name base_path (cgroup_path base_path names)) := by
  obtain ⟨-, name, hown, hplace⟩ := h
  have hsame := Option.some.inj (hpath.symm.trans hplace)
  rw [← base_path_append_relative hnames, String.append_right_inj] at hsame
  rw [hown, hsame]

-- What two targets have to do with each other when they can get the same name.
theorem shares_name_iff {i' : Nat} (hdistinct : DistinctNames files) (hvalid : tree.Valid)
    (h : Returned order base_path type_mask tree created i t)
    (h' : Returned order base_path type_mask tree created i' t') (hne : i ≠ i') :
    (∃ name, Resolves files t name ∧ Resolves files t' name) ↔
      SharesName files base_path t t' := by
  obtain ⟨names, hnames, hpath, hresolves⟩ := @Returned.resolves_iff files _ _ _ _ _ _ _ h hvalid
  obtain ⟨names', hnames', hpath', hresolves'⟩ :=
    @Returned.resolves_iff files _ _ _ _ _ _ _ h' hvalid
  simp only [hresolves, hresolves']
  constructor
  · rintro ⟨name, hown | rfl, hown' | hplace'⟩
    · rcases own_names_shared hdistinct hown hown' with hsame | hsame | hcalled
      · exact Or.inl hsame
      · exact Or.inr (Or.inl hsame)
      · exact Or.inr (Or.inr (Or.inl hcalled))
    · subst hplace'
      exact Or.inr (Or.inr (Or.inr (Or.inr (placed_as hnames' hpath' hown))))
    · exact Or.inr (Or.inr (Or.inr (Or.inl (placed_as hnames hpath hown'))))
    · have hsame : t.cgroup_path = t'.cgroup_path := by
        rw [hpath, hpath', ← base_path_append_relative hnames,
          ← base_path_append_relative hnames', hplace']
      exact absurd hsame (h.path_ne h' hvalid hne)
  · rintro (⟨htype, hsome⟩ | ⟨id, hid, hid', hsome⟩ | hcalled | hplaced)
    · obtain ⟨name, hname⟩ := Option.isSome_iff_exists.mp hsome
      exact ⟨name, Or.inl (own_name_static hname), Or.inl (own_name_static (htype ▸ hname))⟩
    · obtain ⟨name, hname⟩ := Option.isSome_iff_exists.mp hsome
      exact ⟨name, Or.inl ((own_name_container hid).trans hname),
        Or.inl ((own_name_container hid').trans hname)⟩
    · rcases hcalled with ⟨id, name, hid, hname, hstatic⟩ | ⟨id, name, hid, hname, hstatic⟩
      · exact ⟨name, Or.inl ((own_name_container hid).trans hname),
          Or.inl (own_name_static hstatic)⟩
      · exact ⟨name, Or.inl (own_name_static hstatic),
          Or.inl ((own_name_container hid).trans hname)⟩
    · rcases hplaced with hplaced | hplaced
      · exact ⟨_, Or.inr rfl, Or.inl (hplaced.relative hnames hpath)⟩
      · exact ⟨_, Or.inl (hplaced.relative hnames' hpath'), Or.inr rfl⟩

end Shared

-- Reports of different targets can be told apart, but for those that share a name.
theorem reports_distinguishable (order : hash_order) (base_path : String) (type_mask : Nat)
    {tree : cgroups} (hvalid : tree.Valid) (created : List target)
    {files : String → Option (List String)} (hdistinct : DistinctNames files) {i i' : Nat}
    {t t' : target} (h : Returned order base_path type_mask tree created i t)
    (h' : Returned order base_path type_mask tree created i' t') (hne : i ≠ i') :
    ((∃ name, Resolves files t name ∧ Resolves files t' name) ↔
      SharesName files base_path t t') ∧
    (¬SharesName files base_path t t' → ∀ payload payload', Emits files t payload →
      Emits files t' payload' → ∀ key ∈ report_keys payload, key ∉ report_keys payload') := by
  have hshares := shares_name_iff hdistinct hvalid h h' hne
  refine ⟨hshares, fun hnot payload payload' hemits hemits' key hkey hkey' => ?_⟩
  have hname : payload.target_name = payload'.target_name :=
    (mem_report_keys hkey).symm.trans (mem_report_keys hkey')
  exact hnot (hshares.mp ⟨_, hemits.resolves, hname ▸ hemits'.resolves⟩)

def perf_event_target (type : target_type) (place : String) : target :=
  target_create type (some "/sys/fs/cgroup/perf_event")
    (some ("/sys/fs/cgroup/perf_event" ++ place))

def no_files : String → Option (List String) := fun _ => none

theorem distinct_no_files : DistinctNames no_files :=
  fun _ _ _ _ _ hname => nomatch hname

def proxy_id : String := "0123456789abcdef0123456789abcdef0123456789abcdef0123456789abcdef"

def store_id : String := "fedcba9876543210fedcba9876543210fedcba9876543210fedcba9876543210"

-- Two containers, and the files that name them.
def two_docker_containers : cgroups :=
  .cgroup "docker" (.cgroup proxy_id .none (.cgroup store_id .none .none)) .none

def two_names : String → Option (List String) := fun path =>
  if path = container_config_path proxy_id then some ["\x7b\"Name\":\"/proxy\"\x7d\n"]
  else if path = container_config_path store_id then some ["\x7b\"Name\":\"/store\"\x7d\n"]
  else none

theorem proxy_configured : configured_name two_names proxy_id = some "proxy" := by
  rw [configured_name, two_names, if_pos rfl]
  decide +kernel

theorem store_configured : configured_name two_names store_id = some "store" := by
  have hne : container_config_path store_id ≠ container_config_path proxy_id := fun h =>
    absurd (container_config_path_injective (by decide) (by decide) h) (by decide)
  rw [configured_name, two_names, if_neg hne, if_pos rfl]
  decide +kernel

theorem two_names_configured {id name : String} (hid : ContainerId id.toList)
    (h : configured_name two_names id = some name) : id = proxy_id ∨ id = store_id := by
  unfold configured_name two_names at h
  split_ifs at h with hproxy hstore
  · exact Or.inl (container_config_path_injective hid.1 (by decide) hproxy)
  · exact Or.inr (container_config_path_injective hid.1 (by decide) hstore)
  · cases h

theorem distinct_two_names : DistinctNames two_names := by
  intro id id' name hid hid' hname hname'
  rcases two_names_configured hid hname with rfl | rfl <;>
    rcases two_names_configured hid' hname' with rfl | rfl
  · rfl
  · have hsame := (proxy_configured.symm.trans hname).trans hname'.symm
    exact absurd (hsame.trans store_configured) (by decide)
  · have hsame := (proxy_configured.symm.trans hname').trans hname.symm
    exact absurd (hsame.trans store_configured) (by decide)
  · rfl

theorem proxy_container :
    target_container_id (perf_event_target .DOCKER ("/docker/" ++ proxy_id)) = some proxy_id := by
  decide +kernel

theorem store_container :
    target_container_id (perf_event_target .DOCKER ("/docker/" ++ store_id)) = some store_id := by
  decide +kernel

theorem two_docker_containers_discovered :
    let d := (target_discover_running in_order "/sys/fs/cgroup/perf_event" TARGET_TYPE_EVERYTHING
      (some two_docker_containers) ⟨[], []⟩).2
    (d.targets, d.created) =
      ([("/sys/fs/cgroup/perf_event/docker/" ++ store_id, 1),
          ("/sys/fs/cgroup/perf_event/docker/" ++ proxy_id, 0)],
        [perf_event_target .DOCKER ("/docker/" ++ proxy_id),
          perf_event_target .DOCKER ("/docker/" ++ store_id)]) := by
  decide +kernel

theorem reports_distinguishable_docker :
    own_name two_names (perf_event_target .DOCKER ("/docker/" ++ proxy_id)) = some "proxy" ∧
    own_name two_names (perf_event_target .DOCKER ("/docker/" ++ store_id)) = some "store" ∧
    ¬∃ name, Resolves two_names (perf_event_target .DOCKER ("/docker/" ++ proxy_id)) name ∧
      Resolves two_names (perf_event_target .DOCKER ("/docker/" ++ store_id)) name := by
  have hvalid : two_docker_containers.Valid := by
    simp only [two_docker_containers, cgroups.Valid, cgroups.names]
    decide
  obtain ⟨htargets, hcreated⟩ := Prod.mk.inj two_docker_containers_discovered
  have hproxy : Returned in_order "/sys/fs/cgroup/perf_event" TARGET_TYPE_EVERYTHING
      two_docker_containers [] 0 (perf_event_target .DOCKER ("/docker/" ++ proxy_id)) :=
    ⟨_, htargets ▸ List.mem_cons_of_mem _ List.mem_cons_self, by rw [hcreated]; rfl⟩
  have hstore : Returned in_order "/sys/fs/cgroup/perf_event" TARGET_TYPE_EVERYTHING
      two_docker_containers [] 1 (perf_event_target .DOCKER ("/docker/" ++ store_id)) :=
    ⟨_, htargets ▸ List.mem_cons_self, by rw [hcreated]; rfl⟩
  refine ⟨(own_name_container proxy_container).trans proxy_configured,
    (own_name_container store_container).trans store_configured, ?_⟩
  rw [(reports_distinguishable in_order "/sys/fs/cgroup/perf_event" TARGET_TYPE_EVERYTHING hvalid
    [] distinct_two_names hproxy hstore (by decide)).1]
  rintro (⟨-, hstatic⟩ | ⟨id, hid, hid', -⟩ | hcalled | hplaced)
  · exact absurd hstatic (by decide)
  · have hsame := Option.some.inj ((proxy_container.symm.trans hid).trans
      (hid'.symm.trans store_container))
    exact absurd hsame (by decide)
  · rcases hcalled with ⟨_, _, -, -, hstatic⟩ | ⟨_, _, -, -, hstatic⟩ <;> cases hstatic
  · rcases hplaced with ⟨hbase, -⟩ | ⟨hbase, -⟩ <;> exact absurd hbase (by decide)

-- Two services, which are both part of the system.
def two_services : cgroups :=
  .cgroup "system.slice" (.cgroup "cron.service" .none (.cgroup "ssh.service" .none .none)) .none

theorem services_share_name :
    ¬ ∀ (order : hash_order) (base_path : String) (type_mask : Nat) (tree : cgroups)
      (created : List target) (files : String → Option (List String)) (i i' : Nat)
      (t t' : target) (name name' : String), tree.Valid → DistinctNames files →
      Returned order base_path type_mask tree created i t →
      Returned order base_path type_mask tree created i' t' → i ≠ i' →
      Resolves files t name → Resolves files t' name' → name ≠ name' := by
  intro hclaim
  have hvalid : two_services.Valid := by
    simp only [two_services, cgroups.Valid, cgroups.names]
    decide
  have hcron : Returned in_order "/sys/fs/cgroup/perf_event" TARGET_TYPE_EVERYTHING two_services []
      0 (perf_event_target .SYSTEM "/system.slice/cron.service") :=
    ⟨"/sys/fs/cgroup/perf_event/system.slice/cron.service", by decide +kernel, by decide +kernel⟩
  have hssh : Returned in_order "/sys/fs/cgroup/perf_event" TARGET_TYPE_EVERYTHING two_services []
      1 (perf_event_target .SYSTEM "/system.slice/ssh.service") :=
    ⟨"/sys/fs/cgroup/perf_event/system.slice/ssh.service", by decide +kernel, by decide +kernel⟩
  have hresolves : ∀ place, Resolves no_files (perf_event_target .SYSTEM place) "system" :=
    fun place => (Perf.resolves_iff rfl rfl).mpr (Or.inl rfl)
  exact hclaim in_order _ _ _ [] no_files 0 1 _ _ "system" "system" hvalid distinct_no_files hcron
    hssh (by decide) (hresolves _) (hresolves _) rfl

end HwpcSensor
