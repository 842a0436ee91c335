import HwpcSensor.Target.Discovery.Lemmas
import HwpcSensor.Target.Patterns

namespace HwpcSensor

-- Discovery returns a target of the type for the directory that the names lead to,
-- or for one below it.
def Covered (order : hash_order) (base_path : String) (tree : cgroups) (created : List target)
    (type : target_type) (names : List String) : Prop :=
  let d := (target_discover_running order base_path TARGET_TYPE_EVERYTHING (some tree)
    ⟨created, []⟩).2
  ∃ path i target, (path, i) ∈ d.targets ∧ d.created[i]? = some target ∧ target.type = type ∧
    target.cgroup_path = some path ∧
    ∃ more sub, tree.Has (names ++ more) sub ∧ path = cgroup_path base_path (names ++ more)

def Contains (path text : String) : Prop :=
  text.toList <:+: path.toList

-- A line of the path ends in `perf_event/docker` and a container id.
def NamesDockerContainer (path : String) : Prop :=
  ∃ before id rest, path.toList = before ++ ("perf_event/docker/".toList ++ id ++ rest) ∧
    ContainerId id ∧ LineEnd rest

def NamesKubernetesContainer (path : String) : Prop :=
  ∃ before qos pod id rest, path.toList = before ++ ("perf_event/kubepods/".toList ++
      (qos ++ ("pod".toList ++ pod ++ ("/".toList ++ (id ++ rest))))) ∧
    PodClass qos ∧ PodId pod ∧ ContainerId id

-- Some leaf of the container counts as one: no text that is looked for earlier is
-- in its path, and it is the container itself, or its path names one once more.
def DockerSeen (base_path : String) (tree : cgroups) (id : String) : Prop :=
  ∃ more, tree.Has (["docker", id] ++ more) .none ∧
    ¬Contains (cgroup_path base_path (["docker", id] ++ more)) "perf_event/system" ∧
    ¬Contains (cgroup_path base_path (["docker", id] ++ more)) "perf_event/kernel" ∧
    (more = [] ∨ NamesDockerContainer (cgroup_path base_path (["docker", id] ++ more)))

-- Here every leaf of the container counts, as long as the id of its pod is one that
-- is looked for.
def KubernetesSeen (base_path : String) (tree : cgroups) (names : List String) (pod : String) :
    Prop :=
  ∃ more, tree.Has (names ++ more) .none ∧
    ¬Contains (cgroup_path base_path (names ++ more)) "perf_event/system" ∧
    ¬Contains (cgroup_path base_path (names ++ more)) "perf_event/kernel" ∧
    ¬Contains (cgroup_path base_path (names ++ more)) "perf_event/docker" ∧
    (PodId pod.toList ∨ NamesKubernetesContainer (cgroup_path base_path (names ++ more)))

-- The directories that the pods of each class are in.
def pod_classes : List (List String) :=
  [["kubepods"], ["kubepods", "besteffort"], ["kubepods", "burstable"]]

theorem strstr_iff {path text : String} : strstr path text = true ↔ Contains path text :=
  decide_eq_true_iff

theorem detected_docker_iff {path : String} :
    target_detect_type (some path) = .DOCKER ↔ ¬Contains path "perf_event/system" ∧
      ¬Contains path "perf_event/kernel" ∧ Contains path "perf_event/docker" := by
  simp only [target_detect_type, ← strstr_iff]
  generalize strstr path "perf_event/system" = system
  generalize strstr path "perf_event/kernel" = kernel
  generalize strstr path "perf_event/docker" = docker
  cases system <;> cases kernel <;> cases docker <;> simp
  split_ifs <;> simp

theorem detected_kubernetes_iff {path : String} :
    target_detect_type (some path) = .KUBERNETES ↔ ¬Contains path "perf_event/system" ∧
      ¬Contains path "perf_event/kernel" ∧ ¬Contains path "perf_event/docker" ∧
      Contains path "perf_event/kubepods" := by
  simp only [target_detect_type, ← strstr_iff]
  generalize strstr path "perf_event/system" = system
  generalize strstr path "perf_event/kernel" = kernel
  generalize strstr path "perf_event/docker" = docker
  generalize strstr path "perf_event/kubepods" = kubepods
  cases system <;> cases kernel <;> cases docker <;> cases kubepods <;> simp
  split_ifs <;> simp

theorem covered_iff {order : hash_order} {base_path : String} {tree : cgroups}
    (hvalid : tree.Valid) {created : List target} {type : target_type} {names : List String}
    (hnames : names ≠ []) :
    Covered order base_path tree created type names ↔
      ∃ more, tree.Has (names ++ more) .none ∧
        target_detect_type (some (cgroup_path base_path (names ++ more))) = type ∧
        target_validate_type type (some (cgroup_path base_path (names ++ more))) = true := by
  have hfound := @target_discover_running_found order base_path TARGET_TYPE_EVERYTHING tree created
  have hne : ∀ more : List String, names ++ more ≠ [] := fun more => by simp [hnames]
  constructor
  · rintro ⟨path, i, target, hentry, htarget, rfl, -, more, sub, hhas, rfl⟩
    obtain ⟨node, hnode, hwanted, hpath, hcreated⟩ := hfound.sound _ hentry
    obtain rfl := Option.some.inj (htarget.symm.trans hcreated)
    obtain ⟨⟨hinfo, hnlink⟩, hvalidated⟩ := Wanted.everything.mp hwanted
    obtain ⟨names', sub', hplace, rfl⟩ := mem_fts_read_iff.mp ⟨hnode, hinfo⟩
    have hnames' : ∀ name ∈ names', name ≠ "" ∧ '/' ∉ name.toList := by
      rcases hplace with ⟨rfl, -⟩ | hhas'
      · simp
      · exact hhas'.name_ok hvalid
    obtain rfl := cgroup_path_injective hnames' (hhas.name_ok hvalid) hpath
    rcases hplace with ⟨hroot, -⟩ | hhas'
    · exact absurd hroot (hne more)
    · obtain rfl := count_eq_zero_iff.mp (Nat.add_left_cancel hnlink)
      exact ⟨more, hhas', rfl, hvalidated⟩
  · rintro ⟨more, hhas, rfl, hvalidated⟩
    obtain ⟨hnode, -⟩ := mem_fts_read_iff.mpr ⟨names ++ more, .none, Or.inr hhas, rfl⟩
    have hwanted : Wanted TARGET_TYPE_EVERYTHING
        ⟨.FTS_D, cgroup_path base_path (names ++ more), 2 + cgroups.none.count⟩ := by
      rw [Wanted.everything]
      exact ⟨⟨rfl, rfl⟩, hvalidated⟩
    obtain ⟨entry, hentry, hpath⟩ := List.mem_map.mp (hfound.complete _ hnode hwanted)
    obtain ⟨node, hnode', hwanted', hpath', hcreated⟩ := hfound.sound entry hentry
    have hsame : node.fts_path = cgroup_path base_path (names ++ more) := hpath'.trans hpath
    refine ⟨entry.1, entry.2, _, hentry, hcreated, ?_, ?_, more, .none, hhas, hpath⟩
    · rw [discovered_target, hsame]
      rfl
    · rw [discovered_target, hpath']
      rfl

section

variable {order : hash_order} {base_path : String} {tree : cgroups} {created : List target}

theorem last_of_base (hbase : "perf_event".toList <:+ base_path.toList) :
    base_path.toList.getLast? ≠ some '/' := by
  obtain ⟨before, hbefore⟩ := hbase
  rw [← hbefore, List.getLast?_append_of_ne_nil _ (by simp)]
  simp

-- The path of a directory below a container.
theorem container_path_toList (hbase : "perf_event".toList <:+ base_path.toList)
    (hvalid : tree.Valid) {names more : List String} {sub : cgroups}
    (hhas : tree.Has (names ++ more) sub) :
    ∃ before, (cgroup_path base_path (names ++ more)).toList =
      before ++ ("perf_event".toList ++ below names ++ below more) := by
  obtain ⟨before, hbefore⟩ := id hbase
  refine ⟨before, ?_⟩
  rw [cgroup_path_toList (last_of_base hbase) (hhas.name_ok hvalid), ← hbefore, below_append]
  simp only [List.append_assoc]

theorem docker_covered_iff (hbase : "perf_event".toList <:+ base_path.toList)
    (hvalid : tree.Valid) {id : String} (hid : ContainerId id.toList) :
    Covered order base_path tree created .DOCKER ["docker", id] ↔
      DockerSeen base_path tree id := by
  rw [covered_iff hvalid (by simp), DockerSeen]
  refine exists_congr fun more => and_congr_right fun hhas => ?_
  obtain ⟨before, hpath⟩ := container_path_toList hbase hvalid hhas
  have hbelow : "perf_event".toList ++ below ["docker", id] =
      "perf_event/docker/".toList ++ id.toList := by
    simp [below]
  rw [hbelow] at hpath
  have hdocker : Contains (cgroup_path base_path (["docker", id] ++ more)) "perf_event/docker" := by
    refine ⟨before, "/".toList ++ id.toList ++ below more, ?_⟩
    rw [hpath]
    simp
  have hcontainer : more = [] →
      NamesDockerContainer (cgroup_path base_path (["docker", id] ++ more)) := by
    rintro rfl
    exact ⟨before, id.toList, [], hpath, hid, Or.inl rfl⟩
  rw [detected_docker_iff, and_assoc, and_assoc]
  refine and_congr_right fun _ => and_congr_right fun _ => ?_
  rw [and_iff_right hdocker, or_iff_right_of_imp hcontainer]
  exact target_docker_validate_iff

theorem kubernetes_covered_iff (hbase : "perf_event".toList <:+ base_path.toList)
    (hvalid : tree.Valid) {pods : List String} (hpods : pods ∈ pod_classes) {pod id : String}
    (hid : ContainerId id.toList) :
    Covered order base_path tree created .KUBERNETES (pods ++ ["pod" ++ pod, id]) ↔
      KubernetesSeen base_path tree (pods ++ ["pod" ++ pod, id]) pod := by
  rw [covered_iff hvalid (by simp), KubernetesSeen]
  refine exists_congr fun more => and_congr_right fun hhas => ?_
  obtain ⟨before, hpath⟩ := container_path_toList hbase hvalid hhas
  obtain ⟨qos, hqos, hbelow⟩ : ∃ qos, PodClass qos ∧
      "perf_event".toList ++ below (pods ++ ["pod" ++ pod, id]) = "perf_event/kubepods/".toList ++
        (qos ++ ("pod".toList ++ pod.toList ++ ("/".toList ++ id.toList))) := by
    simp only [pod_classes, List.mem_cons, List.not_mem_nil, or_false] at hpods
    rcases hpods with rfl | rfl | rfl
    · exact ⟨[], Or.inr (Or.inr rfl), by simp [below]⟩
    · exact ⟨"besteffort/".toList, Or.inl rfl, by simp [below]⟩
    · exact ⟨"burstable/".toList, Or.inr (Or.inl rfl), by simp [below]⟩
  rw [hbelow] at hpath
  have hkubepods : Contains (cgroup_path base_path (pods ++ ["pod" ++ pod, id] ++ more))
      "perf_event/kubepods" := by
    refine ⟨before, "/".toList ++ (qos ++ ("pod".toList ++ pod.toList ++
      ("/".toList ++ id.toList))) ++ below more, ?_⟩
    rw [hpath]
    simp
  have hcontainer : PodId pod.toList →
      NamesKubernetesContainer (cgroup_path base_path (pods ++ ["pod" ++ pod, id] ++ more)) := by
    intro hpod
    refine ⟨before, qos, pod.toList, id.toList, below more, ?_, hqos, hpod, hid⟩
    rw [hpath]
    simp only [List.append_assoc]
  rw [detected_kubernetes_iff, and_assoc, and_assoc, and_assoc]
  refine and_congr_right fun _ => and_congr_right fun _ => and_congr_right fun _ => ?_
  rw [and_iff_right hkubepods, or_iff_right_of_imp hcontainer]
  exact target_kubernetes_validate_iff

-- Below an ordinary base path no subtree hides a Kubernetes container.
theorem kubernetes_covered (hbase : "perf_event".toList <:+ base_path.toList)
    (hvalid : tree.Valid) {pods : List String} (hpods : pods ∈ pod_classes) {pod id : String}
    (hpod : PodId pod.toList) (hid : ContainerId id.toList) {sub : cgroups}
    (hhas : tree.Has (pods ++ ["pod" ++ pod, id]) sub)
    (hclear : ∀ more sub', tree.Has (pods ++ ["pod" ++ pod, id] ++ more) sub' →
      ∀ text ∈ ["perf_event/system", "perf_event/kernel", "perf_event/docker"],
        ¬Contains (cgroup_path base_path (pods ++ ["pod" ++ pod, id] ++ more)) text) :
    Covered order base_path tree created .KUBERNETES (pods ++ ["pod" ++ pod, id]) := by
  obtain ⟨more, hleaf⟩ : ∃ more, tree.Has (pods ++ ["pod" ++ pod, id] ++ more) .none := by
    rcases sub.exists_leaf with rfl | ⟨more, hmore⟩
    · exact ⟨[], by rwa [List.append_nil]⟩
    · exact ⟨more, hhas.append hmore⟩
  have htexts := hclear more .none hleaf
  exact (kubernetes_covered_iff hbase hvalid hpods hid).mpr
    ⟨more, hleaf, htexts _ (by simp), htexts _ (by simp), htexts _ (by simp), Or.inl hpod⟩

-- Which containers discovery sees, of both kinds.
theorem discovery_covers_iff (order : hash_order)
    (hbase : "perf_event".toList <:+ base_path.toList) (hvalid : tree.Valid)
    (created : List target) :
    (∀ id : String, ContainerId id.toList →
      (Covered order base_path tree created .DOCKER ["docker", id] ↔
        DockerSeen base_path tree id)) ∧
      ∀ pods ∈ pod_classes, ∀ pod id : String, ContainerId id.toList →
        (Covered order base_path tree created .KUBERNETES (pods ++ ["pod" ++ pod, id]) ↔
          KubernetesSeen base_path tree (pods ++ ["pod" ++ pod, id]) pod) :=
  ⟨fun _ hid => docker_covered_iff hbase hvalid hid,
    fun _ hpods _ _ hid => kubernetes_covered_iff hbase hvalid hpods hid⟩

end

def some_id : String :=
  "0123456789abcdef0123456789abcdef0123456789abcdef0123456789abcdef"

theorem container_some_id : ContainerId some_id.toList :=
  ⟨by decide, List.all_eq_true.mp (by decide)⟩

-- A container without cgroups of its own.
def one_docker_container : cgroups :=
  .cgroup "docker" (.cgroup some_id .none .none) .none

theorem discovery_covers_docker_leaf :
    Covered in_order "/sys/fs/cgroup/perf_event" one_docker_container [] .DOCKER
      ["docker", some_id] := by
  have hvalid : one_docker_container.Valid := by
    simp only [one_docker_container, cgroups.Valid, cgroups.names]
    decide
  refine ((discovery_covers_iff in_order (by decide) hvalid []).1 some_id
    container_some_id).mpr ⟨[], .inside .entry, ?_, ?_, Or.inl rfl⟩
  · rw [← strstr_iff]
    decide +kernel
  · rw [← strstr_iff]
    decide +kernel

-- A container with a cgroup of its own, as an init system in it makes one.
def nested_docker_container : cgroups :=
  .cgroup "docker" (.cgroup some_id (.cgroup "init" .none .none) .none) .none

theorem docker_child_hides_container :
    ¬ ∀ (order : hash_order) (base_path : String) (tree : cgroups) (created : List target),
      "perf_event".toList <:+ base_path.toList → tree.Valid →
      (∀ id : String, ContainerId id.toList → (∃ sub, tree.Has ["docker", id] sub) →
        Covered order base_path tree created .DOCKER ["docker", id]) ∧
      ∀ pods ∈ pod_classes, ∀ pod id : String, ContainerId id.toList →
        (∃ sub, tree.Has (pods ++ ["pod" ++ pod, id]) sub) →
        Covered order base_path tree created .KUBERNETES (pods ++ ["pod" ++ pod, id]) := by
  intro hclaim
  have hvalid : nested_docker_container.Valid := by
    simp only [nested_docker_container, cgroups.Valid, cgroups.names]
    decide
  have hcovered := (hclaim in_order "/sys/fs/cgroup/perf_event" nested_docker_container []
    (by decide) hvalid).1 some_id container_some_id ⟨_, .inside .entry⟩
  obtain ⟨more, hhas, -, hvalidated⟩ := (covered_iff hvalid (by simp)).mp hcovered
  obtain rfl : more = ["init"] := by
    unfold nested_docker_container at hhas
    rcases hhas with - | h | h
    · rcases h with - | h | h
      · rcases h with - | h | h
        · rfl
        · cases h
        · cases h
      · cases h
    · cases h
  exact absurd hvalidated (by decide +kernel)

end HwpcSensor
