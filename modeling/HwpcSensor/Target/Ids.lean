import HwpcSensor.Library.Terminated
import HwpcSensor.Perf.Actor.Names
import HwpcSensor.Target.Patterns

namespace HwpcSensor

open Perf PosixRegex Regex Terminated

-- The two kinds of containers: the pattern of the ids with the group that is the id,
-- the components that the id is under, what the pattern wants behind the id, and
-- whether there are components below a container.
structure container_format where
  pattern : String
  group : Nat
  Names : List (List Char) → Prop
  Behind : List Char → Prop
  nested : Bool

def docker_format : container_format where
  pattern := DOCKER_CONTAINER_ID_REGEX
  group := 1
  Names names := names = ["perf_event".toList, "docker".toList]
  Behind := LineEnd
  nested := false

def kubernetes_format : container_format where
  pattern := KUBERNETES_CONTAINER_ID_REGEX
  group := 3
  Names names := ∃ qos pod, qos ∈ [[], ["besteffort".toList], ["burstable".toList]] ∧ PodId pod ∧
    names = ["perf_event".toList, "kubepods".toList] ++ qos ++ ["pod".toList ++ pod]
  Behind _ := True
  nested := true

def build_container_config_path (format : container_format) (cgroup_path : String) :
    Option String :=
  (regexec format.pattern format.group cgroup_path).map container_config_path

-- The id is a component of the path, in its place.
def Component (format : container_format) (path id : List Char) : Prop :=
  ∃ front names rest, path.splitOn '/' = front ++ (names ++ id :: rest) ∧ format.Names names ∧
    ContainerId id ∧ (rest = [] ∨ format.nested = true)

def WholeIds (validate : Option String → Bool) (format : container_format) (path : String) :
    Prop :=
  validate (some path) = true →
    ∃ id : String, Component format path.toList id.toList ∧
      build_container_config_path format path = some (container_config_path id)

-- What the pattern reads at a place of the path.
def Reads (format : container_format) (start id : List Char) : Prop :=
  ∃ names rest, start = join '/' names ++ (id ++ rest) ∧ format.Names names ∧ ContainerId id ∧
    format.Behind rest

-- The id that the pattern reads first.
def FirstId (format : container_format) (path id : List Char) : Prop :=
  First (Reads format) path id

-- Somewhere in the path the id starts and ends with its component.
def BoundedId (format : container_format) (path id : List Char) : Prop :=
  ∃ before names rest, path = before ++ (join '/' names ++ (id ++ rest)) ∧ format.Names names ∧
    ContainerId id ∧ (before = [] ∨ before.getLast? = some '/') ∧
    (rest = [] ∨ format.nested = true ∧ ∃ more, rest = '/' :: more)

section Formats

-- What the proofs use of a kind of container.
structure container_format.Lawful (format : container_format) : Prop where
  compiles : ∃ r, Regex.comp format.pattern = some r ∧ r.Captured format.group (Reads format)
  clean : ∀ names, format.Names names → ∀ name ∈ names, '/' ∉ name

variable {format : container_format} {path : String} {start text id id' : List Char}

-- The components in front of an id tell where it starts.
theorem reads_unique
    (hsame : ∀ names names' rest rest', format.Names names → format.Names names' →
      join '/' names ++ rest = join '/' names' ++ rest' → names = names')
    (h : Reads format start id) (h' : Reads format start id') : id = id' := by
  obtain ⟨names, rest, hstart, hnames, hid, -⟩ := h
  obtain ⟨names', rest', hstart', hnames', hid', -⟩ := h'
  obtain rfl := hsame names names' _ _ hnames hnames' (hstart.symm.trans hstart')
  have htail := List.append_cancel_left (hstart.symm.trans hstart')
  exact (List.append_inj htail (hid.1.trans hid'.1.symm)).1

theorem docker_lawful : docker_format.Lawful := by
  have hnames : join '/' ["perf_event".toList, "docker".toList] = "perf_event/docker/".toList := by
    decide
  refine ⟨⟨docker_id_regex, comp_docker, fun start => ⟨?_, ?_⟩, fun s rest c hmatches => ?_,
    fun _ _ _ => reads_unique ?_⟩, ?_⟩
  · rintro ⟨_, rest, c, rfl, hmatches⟩
    obtain ⟨id, rfl, hid, hend, -⟩ := docker_id_matches.mp hmatches
    exact ⟨id, _, rest, by rw [hnames, List.append_assoc], rfl, hid, hend⟩
  · rintro ⟨id, _, rest, rfl, rfl, hid, hend⟩
    refine ⟨"perf_event/docker/".toList ++ id, rest, [(1, id)], ?_, ?_⟩
    · rw [hnames, List.append_assoc]
    · exact docker_id_matches.mpr ⟨id, rfl, hid, hend, rfl⟩
  · obtain ⟨id, rfl, hid, hend, rfl⟩ := docker_id_matches.mp hmatches
    exact ⟨id, ⟨_, rest, by rw [hnames, List.append_assoc], rfl, hid, hend⟩, rfl⟩
  · rintro _ _ _ _ rfl rfl -
    rfl
  · rintro _ rfl
    decide

theorem pod_class_iff {qos : List Char} :
    PodClass qos ↔ ∃ names ∈ [[], ["besteffort".toList], ["burstable".toList]],
      qos = join '/' names := by
  simp [PodClass]
  tauto

theorem slash_notMem_pod {pod : List Char} (h : PodId pod) : '/' ∉ "pod".toList ++ pod := by
  obtain ⟨x, more, rfl, hx, -, hmore⟩ := h
  intro hmem
  rcases List.mem_append.mp hmem with hpod | hmem
  · exact absurd hpod (by decide)
  · rcases List.mem_cons.mp hmem with rfl | hmem
    · exact absurd hx (by decide)
    · exact absurd (hmore _ hmem) (by decide)

theorem kubernetes_names_join {qos : List (List Char)} {pod : List Char} :
    join '/' (["perf_event".toList, "kubepods".toList] ++ qos ++ ["pod".toList ++ pod]) =
      "perf_event/kubepods/".toList ++ (join '/' qos ++ ("pod".toList ++ pod ++ "/".toList)) := by
  rw [List.append_assoc, join_append, join_append]
  simp [join]

theorem kubernetes_names_unique {names names' : List (List Char)} {rest rest' : List Char}
    (hnames : kubernetes_format.Names names) (hnames' : kubernetes_format.Names names')
    (h : join '/' names ++ rest = join '/' names' ++ rest') : names = names' := by
  obtain ⟨qos, pod, hqos, hpod, rfl⟩ := hnames
  obtain ⟨qos', pod', hqos', hpod', rfl⟩ := hnames'
  rw [kubernetes_names_join, kubernetes_names_join] at h
  simp only [List.append_assoc] at h
  have hbelow := List.append_cancel_left h
  simp only [List.mem_cons, List.not_mem_nil, or_false] at hqos hqos'
  have hsame : qos = qos' := by
    rcases hqos with rfl | rfl | rfl <;> rcases hqos' with rfl | rfl | rfl <;>
      first | rfl | simp at hbelow
  subst hsame
  have hpieces : ("pod".toList ++ pod) ++ '/' :: rest = ("pod".toList ++ pod') ++ '/' :: rest' := by
    simpa using List.append_cancel_left hbelow
  rw [(peel (slash_notMem_pod hpod) (slash_notMem_pod hpod') hpieces).1]

theorem kubernetes_id_reads {s rest : List Char} {c : Captures}
    (h : kubernetes_id_regex.Matches s rest c) :
    ∃ id, Reads kubernetes_format (s ++ rest) id ∧ c.lookup 3 = some id := by
  obtain ⟨_, pod, id, group, rfl, hclass, hpod, hid, -, rfl⟩ := kubernetes_id_matches.mp h
  obtain ⟨qos, hqos, rfl⟩ := pod_class_iff.mp hclass
  refine ⟨id, ⟨_, group ++ rest, ?_, ⟨qos, pod, hqos, hpod, rfl⟩, hid, trivial⟩, rfl⟩
  rw [kubernetes_names_join]
  simp only [List.append_assoc]

theorem kubernetes_lawful : kubernetes_format.Lawful := by
  refine ⟨⟨kubernetes_id_regex, comp_kubernetes, fun start => ⟨?_, ?_⟩, fun s rest c =>
    kubernetes_id_reads, fun _ _ _ => reads_unique fun _ _ _ _ => kubernetes_names_unique⟩, ?_⟩
  · rintro ⟨s, rest, c, rfl, hmatches⟩
    obtain ⟨id, hreads, -⟩ := kubernetes_id_reads hmatches
    exact ⟨id, hreads⟩
  · rintro ⟨id, _, rest, rfl, ⟨qos, pod, hqos, hpod, rfl⟩, hid, -⟩
    refine ⟨_, rest, _, ?_, kubernetes_id_matches.mpr ⟨join '/' qos, pod, id, [], rfl,
      pod_class_iff.mpr ⟨qos, hqos, rfl⟩, hpod, hid, Or.inr rfl, rfl⟩⟩
    rw [kubernetes_names_join]
    simp only [List.append_assoc, List.nil_append]
  · rintro _ ⟨qos, pod, hqos, hpod, rfl⟩ name hname
    rcases List.mem_append.mp hname with hname | hname
    · have hfixed : ∀ qos ∈ [[], ["besteffort".toList], ["burstable".toList]],
          ∀ name ∈ ["perf_event".toList, "kubepods".toList] ++ qos, '/' ∉ name := by
        decide
      exact hfixed qos hqos name hname
    · rw [List.mem_singleton.mp hname]
      exact slash_notMem_pod hpod

-- What goes into the configuration path is what the pattern reads first.
theorem regexec_iff (hformat : format.Lawful) {id : String} :
    regexec format.pattern format.group path = some id ↔
      FirstId format path.toList id.toList := by
  obtain ⟨r, hcomp, hcaptured⟩ := hformat.compiles
  exact regexec_eq_some_iff hcomp hcaptured

theorem validate_iff (hformat : format.Lawful) :
    container_validate format.pattern (some path) = true ↔
      ∃ id : String, FirstId format path.toList id.toList := by
  obtain ⟨r, hcomp, hcaptured⟩ := hformat.compiles
  simp only [← regexec_iff hformat]
  rw [container_validate, regexec, regex_search, hcomp, Option.bind_some]
  constructor
  · intro hvalid
    obtain ⟨c, hexec⟩ := Option.isSome_iff_exists.mp hvalid
    obtain ⟨s, rest, -, hmatches⟩ := exec_leftmost hexec
    obtain ⟨id, -, hid⟩ := hcaptured.lookup s rest c hmatches
    exact ⟨String.ofList id, by rw [hexec, Option.bind_some, hid, Option.map_some]⟩
  · rintro ⟨id, hid⟩
    obtain ⟨c, hexec, -⟩ := Option.bind_eq_some_iff.mp hid
    rw [hexec]
    rfl

theorem container_config_path_injective {id id' : String} (hid : id.toList.length = 64)
    (hid' : id'.toList.length = 64) (h : container_config_path id = container_config_path id') :
    id = id' := by
  have hpath : ∀ {id : String}, id.toList.length = 64 → (container_config_path id).toList =
      "/var/lib/docker/containers/".toList ++ (id.toList ++ "/config.v2.json".toList) := by
    intro id hlength
    rw [container_config_path, String.toList_copy_take, List.take_of_length_le]
    · simp only [String.toList_append, List.append_assoc]
    · simp only [String.toList_append, List.length_append, hlength]
      decide
  have hlist := (hpath hid).symm.trans ((congrArg String.toList h).trans (hpath hid'))
  have hids := List.append_cancel_right (List.append_cancel_left hlist)
  exact String.toList_inj.mp hids

theorem slash_notMem_id (h : ContainerId id) : '/' ∉ id :=
  fun hmem => absurd (h.2 _ hmem) (by decide)

-- What follows a component that has ended.
theorem components_behind (id : List Char) {rest : List Char}
    (h : rest = [] ∨ format.nested = true ∧ ∃ more, rest = '/' :: more) :
    ∃ behind, id ++ rest = ['/'].intercalate (id :: behind) ∧
      (∀ part ∈ behind, '/' ∉ part) ∧ (behind = [] ∨ format.nested = true) := by
  rcases h with rfl | ⟨hnested, more, rfl⟩
  · exact ⟨[], by simp, by simp, Or.inl rfl⟩
  · refine ⟨more.splitOn '/', ?_, fun _ => notMem_of_splitOn, Or.inr hnested⟩
    rw [List.intercalate_cons_of_ne_nil (List.splitOn_ne_nil _ _), List.intercalate_splitOn,
      List.append_assoc, List.singleton_append]

-- A component of the path is a text between two slashes.
theorem component_iff (hformat : format.Lawful) :
    Component format text id ↔ BoundedId format text id := by
  constructor
  · rintro ⟨front, names, rest, hsplit, hnames, hid, hlast⟩
    rw [← List.append_assoc] at hsplit
    obtain ⟨rfl, -⟩ := splitOn_eq_append_iff.mp hsplit
    rw [join_append, List.append_assoc]
    cases rest with
    | nil =>
        refine ⟨join '/' front, names, [], ?_, hnames, hid, join_eq_nil_or, Or.inl rfl⟩
        rw [List.intercalate_singleton, List.append_nil]
    | cons next rest =>
        have hnested := hlast.resolve_left (List.cons_ne_nil _ _)
        refine ⟨join '/' front, names, '/' :: ['/'].intercalate (next :: rest), ?_, hnames, hid,
          join_eq_nil_or, Or.inr ⟨hnested, _, rfl⟩⟩
        rw [List.intercalate_cons_cons, List.append_assoc, List.singleton_append]
  · rintro ⟨before, names, rest, rfl, hnames, hid, hbefore, hrest⟩
    obtain ⟨front, rfl, hfront⟩ := exists_join hbefore
    obtain ⟨behind, hbehind, hclean, hlast⟩ := components_behind id hrest
    refine ⟨front, names, behind, ?_, hnames, hid, hlast⟩
    rw [← List.append_assoc front names, splitOn_eq_append_iff, hbehind, join_append,
      List.append_assoc]
    refine ⟨rfl, fun part hpart => ?_⟩
    rcases List.mem_append.mp hpart with hpart | hpart
    · rcases List.mem_append.mp hpart with hpart | hpart
      · exact hfront part hpart
      · exact hformat.clean names hnames part hpart
    · rcases List.mem_cons.mp hpart with rfl | hpart
      · exact slash_notMem_id hid
      · exact hclean part hpart

theorem whole_ids_iff (hformat : format.Lawful) :
    WholeIds (container_validate format.pattern) format path ↔
      ∀ id, FirstId format path.toList id → BoundedId format path.toList id := by
  unfold WholeIds build_container_config_path
  rw [validate_iff hformat]
  constructor
  · intro hwhole id hfirst
    obtain ⟨built, rfl⟩ : ∃ built : String, built.toList = id :=
      ⟨String.ofList id, String.toList_ofList⟩
    obtain ⟨found, hcomponent, hfound⟩ := hwhole ⟨built, hfirst⟩
    rw [(regexec_iff hformat).mpr hfirst, Option.map_some, Option.some.injEq] at hfound
    have hbounded := (component_iff hformat).mp hcomponent
    obtain rfl : built = found := by
      obtain ⟨-, -, -, -, -, -, hid, -⟩ := hfirst
      obtain ⟨-, -, -, -, -, hid', -⟩ := hbounded
      exact container_config_path_injective hid.1 hid'.1 hfound
    exact hbounded
  · rintro hbounded ⟨id, hfirst⟩
    exact ⟨id, (component_iff hformat).mpr (hbounded _ hfirst),
      by rw [(regexec_iff hformat).mpr hfirst, Option.map_some]⟩

end Formats

theorem container_ids_whole_iff (path : String) :
    (WholeIds target_docker_validate docker_format path ↔
      ∀ id, FirstId docker_format path.toList id → BoundedId docker_format path.toList id) ∧
    (WholeIds target_kubernetes_validate kubernetes_format path ↔
      ∀ id, FirstId kubernetes_format path.toList id →
        BoundedId kubernetes_format path.toList id) := by
  have hpattern : kubernetes_format.pattern = KUBERNETES_CONTAINER_ID_REGEX := by
    rw [kubernetes_format]
  unfold target_docker_validate target_kubernetes_validate
  rw [← hpattern]
  exact ⟨whole_ids_iff docker_lawful, whole_ids_iff kubernetes_lawful⟩

-- A component of 65 digits.
def long_id_path : String :=
  "/sys/fs/cgroup/perf_event/kubepods/pod12/" ++
    "0123456789abcdef0123456789abcdef0123456789abcdef0123456789abcdef0"

theorem long_id_cut : ¬WholeIds target_kubernetes_validate kubernetes_format long_id_path := by
  intro hwhole
  have hvalid : target_kubernetes_validate (some long_id_path) = true := by
    rw [target_kubernetes_validate_iff]
    exact ⟨"/sys/fs/cgroup/".toList, [], "12".toList,
      "0123456789abcdef0123456789abcdef0123456789abcdef0123456789abcdef".toList, ['0'], by decide,
      Or.inr (Or.inr rfl), ⟨'1', ['2'], by decide, by decide, by decide,
        List.forall_mem_singleton.mpr rfl⟩, by decide, List.all_eq_true.mp (by decide)⟩
  obtain ⟨id, ⟨front, names, rest, hsplit, -, hid, -⟩, -⟩ := hwhole hvalid
  have hmem : id.toList ∈ long_id_path.toList.splitOn '/' := by
    rw [hsplit]
    simp
  have hshort : ∀ part ∈ long_id_path.toList.splitOn '/', part.length ≠ 64 := by
    decide
  exact hshort _ hmem hid.1

end HwpcSensor
