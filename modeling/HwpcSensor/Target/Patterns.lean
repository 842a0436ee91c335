import HwpcSensor.Target.Discovery

namespace HwpcSensor

open PosixRegex

-- The characters of container ids, and those a pod id starts and goes on with.
def id_char (x : Char) : Bool :=
  ('a' ≤ x && x ≤ 'f') || (('0' ≤ x && x ≤ '9') || false)

def pod_start (x : Char) : Bool :=
  ('a' ≤ x && x ≤ 'z') || (('A' ≤ x && x ≤ 'Z') || (('0' ≤ x && x ≤ '9') || false))

def pod_char (x : Char) : Bool :=
  ('a' ≤ x && x ≤ 'z') ||
    (('A' ≤ x && x ≤ 'Z') || (('0' ≤ x && x ≤ '9') || (x = '.' || x = '-')))

def ContainerId (id : List Char) : Prop :=
  id.length = 64 ∧ ∀ x ∈ id, id_char x = true

def name_char (x : Char) : Bool :=
  ('a' ≤ x && x ≤ 'z') ||
    (('A' ≤ x && x ≤ 'Z') || (('0' ≤ x && x ≤ '9') || (x = '_' || (x = '.' || x = '-'))))

-- At least two characters.
def PodId (id : List Char) : Prop :=
  ∃ x more, id = x :: more ∧ pod_start x = true ∧ more ≠ [] ∧ ∀ y ∈ more, pod_char y = true

-- A line of the text ends here.
def LineEnd (rest : List Char) : Prop :=
  rest = [] ∨ ∃ more, rest = '\n' :: more

def container_id_regex (index : Nat) : Regex :=
  .group index (.seq (.set id_char 64 (some 64)) .empty)

def pod_id_regex : Regex :=
  .seq (.set pod_start 1 (some 1)) (.seq (.set pod_char 1 none) .empty)

def docker_id_regex : Regex :=
  Regex.literal "perf_event/docker/".toList
    (.seq (container_id_regex 1) (.seq .line_end .empty))

def pod_class_regex : Regex :=
  .alt (Regex.literal "besteffort/".toList .empty)
    (.alt (Regex.literal "burstable/".toList .empty) .empty)

def resource_group_regex : Regex :=
  .alt (Regex.literal "/".toList pod_id_regex) .empty

def kubernetes_id_regex : Regex :=
  Regex.literal "perf_event/kubepods/".toList
    (.seq (.group 1 pod_class_regex)
      (.seq (.group 2 (Regex.literal "pod".toList pod_id_regex))
        (Regex.literal "/".toList
          (.seq (container_id_regex 3) (.seq (.group 4 resource_group_regex) .empty)))))

def container_name_regex : Regex :=
  Regex.literal "\"Name\":\"/".toList
    (.seq (.group 1 (.seq (.set pod_start 1 (some 1)) (.seq (.set name_char 1 none) .empty)))
      (Regex.literal "\"".toList .empty))

-- The patterns as they are read.
theorem comp_docker : Regex.comp DOCKER_CONTAINER_ID_REGEX = some docker_id_regex := rfl

set_option maxRecDepth 4000 in
theorem comp_kubernetes : Regex.comp KUBERNETES_CONTAINER_ID_REGEX = some kubernetes_id_regex :=
  rfl

theorem comp_container_name : Regex.comp CONTAINER_NAME_REGEX = some container_name_regex := rfl

theorem container_id_matches {index : Nat} {s rest : List Char} {c : Captures} :
    (container_id_regex index).Matches s rest c ↔ ContainerId s ∧ c = [(index, s)] := by
  simp only [container_id_regex, Regex.Matches, ContainerId, Option.mem_def, Option.some.injEq]
  constructor
  · rintro ⟨_, rfl, s₁, _, _, _, rfl, rfl, ⟨hall, hleast, hmost, rfl⟩, rfl, rfl⟩
    have hlength : s₁.length = 64 := Nat.le_antisymm (hmost 64 rfl) hleast
    simpa using ⟨hlength, hall⟩
  · rintro ⟨⟨hlength, hall⟩, rfl⟩
    refine ⟨[], rfl, s, [], [], [], by simp, rfl, ⟨hall, by omega, ?_, rfl⟩, rfl, rfl⟩
    rintro n rfl
    omega

theorem pod_id_matches {s rest : List Char} {c : Captures} :
    pod_id_regex.Matches s rest c ↔ PodId s ∧ c = [] := by
  simp only [pod_id_regex, Regex.Matches, PodId]
  constructor
  · rintro ⟨s₁, _, _, _, rfl, rfl, ⟨hstart, hleast, hmost, rfl⟩,
      more, _, _, _, rfl, rfl, ⟨hmore, hone, -, rfl⟩, rfl, rfl⟩
    obtain ⟨x, rfl⟩ := List.length_eq_one_iff.mp (Nat.le_antisymm (hmost 1 rfl) hleast)
    refine ⟨⟨x, more, by simp, hstart x List.mem_cons_self, ?_, hmore⟩, rfl⟩
    exact List.ne_nil_of_length_pos hone
  · rintro ⟨⟨x, more, rfl, hstart, hne, hmore⟩, rfl⟩
    refine ⟨[x], more, [], [], rfl, rfl, ⟨by simpa using hstart, by simp, by simp, rfl⟩,
      more, [], [], [], by simp, rfl, ⟨hmore, ?_, by simp, rfl⟩, rfl, rfl⟩
    exact List.length_pos_iff.mpr hne

theorem docker_id_matches {s rest : List Char} {c : Captures} :
    docker_id_regex.Matches s rest c ↔
      ∃ id, s = "perf_event/docker/".toList ++ id ∧ ContainerId id ∧ LineEnd rest ∧
        c = [(1, id)] := by
  rw [docker_id_regex, Regex.literal_matches]
  simp only [Regex.Matches, container_id_matches, LineEnd]
  constructor
  · rintro ⟨_, rfl, id, _, _, _, rfl, rfl, ⟨hid, rfl⟩, _, _, _, _, rfl, rfl, ⟨rfl, hend, rfl⟩,
      rfl, rfl⟩
    exact ⟨id, by simp, hid, by simpa using hend, rfl⟩
  · rintro ⟨id, rfl, hid, hend, rfl⟩
    exact ⟨id, rfl, id, [], [(1, id)], [], by simp, rfl, ⟨hid, rfl⟩, [], [], [], [], rfl, rfl,
      ⟨rfl, hend, rfl⟩, rfl, rfl⟩

theorem literal_empty_matches {text s rest : List Char} {c : Captures} :
    (Regex.literal text .empty).Matches s rest c ↔ s = text ∧ c = [] := by
  rw [Regex.literal_matches]
  simp only [Regex.Matches]
  constructor
  · rintro ⟨_, rfl, rfl, rfl⟩
    exact ⟨List.append_nil _, rfl⟩
  · rintro ⟨rfl, rfl⟩
    exact ⟨[], (List.append_nil _).symm, rfl, rfl⟩

-- The part of the hierarchy that a pod is in.
def PodClass (qos : List Char) : Prop :=
  qos = "besteffort/".toList ∨ qos = "burstable/".toList ∨ qos = []

def ResourceGroup (group : List Char) : Prop :=
  (∃ name, group = "/".toList ++ name ∧ PodId name) ∨ group = []

theorem pod_class_matches {s rest : List Char} {c : Captures} :
    pod_class_regex.Matches s rest c ↔ PodClass s ∧ c = [] := by
  simp only [pod_class_regex, Regex.Matches, literal_empty_matches, PodClass, ← or_and_right]

theorem resource_group_matches {s rest : List Char} {c : Captures} :
    resource_group_regex.Matches s rest c ↔ ResourceGroup s ∧ c = [] := by
  simp only [resource_group_regex, Regex.Matches, Regex.literal_matches, pod_id_matches,
    ResourceGroup, ← and_assoc, exists_and_right, ← or_and_right]

theorem kubernetes_id_matches {s rest : List Char} {c : Captures} :
    kubernetes_id_regex.Matches s rest c ↔
      ∃ qos pod id group, s = "perf_event/kubepods/".toList ++
          (qos ++ ("pod".toList ++ pod ++ ("/".toList ++ (id ++ group)))) ∧
        PodClass qos ∧ PodId pod ∧ ContainerId id ∧ ResourceGroup group ∧
        c = [(1, qos), (2, "pod".toList ++ pod), (3, id), (4, group)] := by
  rw [kubernetes_id_regex, Regex.literal_matches]
  simp only [Regex.Matches, Regex.literal_matches, pod_class_matches, resource_group_matches,
    container_id_matches, pod_id_matches]
  constructor
  · rintro ⟨_, rfl, qos, _, _, _, rfl, rfl, ⟨_, rfl, hqos, rfl⟩, _, _, _, _, rfl, rfl,
      ⟨_, rfl, pod, rfl, hpod, rfl⟩, _, rfl, id, _, _, _, rfl, rfl, ⟨hid, rfl⟩,
      group, _, _, _, rfl, rfl, ⟨_, rfl, hgroup, rfl⟩, rfl, rfl⟩
    exact ⟨qos, pod, id, group, by rw [List.append_nil], hqos, hpod, hid, hgroup, rfl⟩
  · rintro ⟨qos, pod, id, group, rfl, hqos, hpod, hid, hgroup, rfl⟩
    exact ⟨_, rfl, qos, _, _, _, rfl, rfl, ⟨[], rfl, hqos, rfl⟩, _, _, _, _, rfl, rfl,
      ⟨[], rfl, pod, rfl, hpod, rfl⟩, _, rfl, id, group, _, _, rfl, rfl, ⟨hid, rfl⟩,
      group, [], _, _, (List.append_nil _).symm, rfl, ⟨[], rfl, hgroup, rfl⟩, rfl, rfl⟩

-- The grammar of the names of containers.
def ContainerName : List Char → Prop
  | x :: y :: more => pod_start x = true ∧ ∀ z ∈ y :: more, name_char z = true
  | _ => False

instance : DecidablePred ContainerName
  | [] => isFalse id
  | [_] => isFalse id
  | x :: y :: more =>
      decidable_of_iff (pod_start x = true ∧ (y :: more).all name_char = true)
        (and_congr_right fun _ => List.all_eq_true)

theorem container_name_iff {name : List Char} :
    ContainerName name ↔
      ∃ x y more, name = x :: y :: more ∧ pod_start x = true ∧
        ∀ z ∈ y :: more, name_char z = true := by
  constructor
  · intro h
    cases name with
    | nil => exact False.elim h
    | cons x tail =>
        cases tail with
        | nil => exact False.elim h
        | cons y more => exact ⟨x, y, more, rfl, h⟩
  · rintro ⟨x, y, more, rfl, h⟩
    exact h

theorem container_name_matches {s rest : List Char} {c : Captures} :
    container_name_regex.Matches s rest c ↔
      ∃ name, s = "\"Name\":\"/".toList ++ (name ++ ['"']) ∧ ContainerName name ∧
        c = [(1, name)] := by
  rw [container_name_regex, Regex.literal_matches]
  simp only [Regex.Matches, literal_empty_matches]
  constructor
  · rintro ⟨_, rfl, name, _, _, _, rfl, rfl, ⟨_, rfl, start, more, _, _, rfl, rfl,
      ⟨hstart, hleast, hmost, rfl⟩, _, _, _, _, rfl, rfl, ⟨hmore, hone, -, rfl⟩, rfl, rfl⟩,
      rfl, rfl⟩
    obtain ⟨x, rfl⟩ := List.length_eq_one_iff.mp (Nat.le_antisymm (hmost 1 rfl) hleast)
    obtain ⟨y, more, rfl⟩ := List.exists_cons_of_length_pos hone
    refine ⟨x :: y :: more, by simp, ⟨hstart x List.mem_cons_self, hmore⟩, by simp⟩
  · rintro ⟨name, rfl, hname, rfl⟩
    obtain ⟨x, y, more, rfl, hstart, hmore⟩ := container_name_iff.mp hname
    exact ⟨_, rfl, x :: y :: more, _, [(1, x :: y :: more)], [], rfl, rfl, ⟨[], rfl, [x],
      y :: more, [], [], rfl, rfl, ⟨by simpa using hstart, by simp, by simp, rfl⟩,
      y :: more, [], [], [], by simp, rfl, ⟨hmore, by simp, by simp, rfl⟩, rfl, rfl⟩, rfl, rfl⟩

-- A name in a configuration file starts with a letter or a digit.
theorem container_name_captured {s rest : List Char} {c : Captures}
    (h : container_name_regex.Matches s rest c) :
    ∃ x more, c = [(1, x :: more)] ∧ pod_start x = true := by
  obtain ⟨name, -, hname, rfl⟩ := container_name_matches.mp h
  obtain ⟨x, y, more, rfl, hstart, -⟩ := container_name_iff.mp hname
  exact ⟨x, y :: more, rfl, hstart⟩

-- Where a path has the id of a container.
theorem target_docker_validate_iff {path : String} :
    target_docker_validate (some path) = true ↔
      ∃ before id rest, path.toList = before ++ ("perf_event/docker/".toList ++ id ++ rest) ∧
        ContainerId id ∧ LineEnd rest := by
  have hsearch : regex_search DOCKER_CONTAINER_ID_REGEX path =
      docker_id_regex.exec path.toList := by
    rw [regex_search, comp_docker, Option.bind_some]
  rw [target_docker_validate, container_validate, hsearch, Regex.exec_isSome_iff]
  simp only [docker_id_matches]
  constructor
  · rintro ⟨before, _, rest, _, hpath, id, rfl, hid, hend, rfl⟩
    exact ⟨before, id, rest, hpath, hid, hend⟩
  · rintro ⟨before, id, rest, hpath, hid, hend⟩
    exact ⟨before, _, rest, _, hpath, id, rfl, hid, hend, rfl⟩

-- A resource group behind it is not asked for.
theorem target_kubernetes_validate_iff {path : String} :
    target_kubernetes_validate (some path) = true ↔
      ∃ before qos pod id rest, path.toList = before ++ ("perf_event/kubepods/".toList ++
          (qos ++ ("pod".toList ++ pod ++ ("/".toList ++ (id ++ rest))))) ∧
        PodClass qos ∧ PodId pod ∧ ContainerId id := by
  have hsearch : regex_search KUBERNETES_CONTAINER_ID_REGEX path =
      kubernetes_id_regex.exec path.toList := by
    rw [regex_search, comp_kubernetes, Option.bind_some]
  rw [target_kubernetes_validate, container_validate, hsearch, Regex.exec_isSome_iff]
  simp only [kubernetes_id_matches]
  constructor
  · rintro ⟨before, _, rest, _, hpath, qos, pod, id, group, rfl, hqos, hpod, hid, -, rfl⟩
    refine ⟨before, qos, pod, id, group ++ rest, ?_, hqos, hpod, hid⟩
    rw [hpath]
    simp only [List.append_assoc]
  · rintro ⟨before, qos, pod, id, rest, hpath, hqos, hpod, hid⟩
    refine ⟨before, _, rest, _, ?_, qos, pod, id, [], rfl, hqos, hpod, hid, Or.inr rfl, rfl⟩
    rw [hpath]
    simp only [List.append_assoc, List.nil_append]

end HwpcSensor
