import HwpcSensor.Target.Discovery

namespace HwpcSensor

open PosixRegex

namespace cgroups

def names : cgroups → List String
  | none => []
  | cgroup name _ siblings => name :: siblings.names

-- A hierarchy that a file system can hold.
def Valid : cgroups → Prop
  | none => True
  | cgroup name children siblings =>
      name ≠ "" ∧ '/' ∉ name.toList ∧ name ∉ siblings.names ∧ children.Valid ∧ siblings.Valid

-- The directory that a list of names leads to, with what is in it.
inductive Has : cgroups → List String → cgroups → Prop
  | entry {name : String} {children siblings : cgroups} :
      Has (cgroup name children siblings) [name] children
  | inside {name : String} {names : List String} {children siblings sub : cgroups}
      (h : Has children names sub) : Has (cgroup name children siblings) (name :: names) sub
  | beside {name : String} {names : List String} {children siblings sub : cgroups}
      (h : Has siblings names sub) : Has (cgroup name children siblings) names sub

theorem Has.name_ok {tree sub : cgroups} {names : List String} (h : tree.Has names sub)
    (hvalid : tree.Valid) : ∀ name ∈ names, name ≠ "" ∧ '/' ∉ name.toList := by
  induction h with
  | entry => simpa using ⟨hvalid.1, hvalid.2.1⟩
  | inside h ih =>
      intro name hname
      rcases List.mem_cons.mp hname with rfl | hname
      · exact ⟨hvalid.1, hvalid.2.1⟩
      · exact ih hvalid.2.2.2.1 name hname
  | beside h ih => exact ih hvalid.2.2.2.2

theorem Has.append {tree sub sub' : cgroups} {names more : List String}
    (h : tree.Has names sub) (h' : sub.Has more sub') : tree.Has (names ++ more) sub' := by
  induction h with
  | entry => exact .inside h'
  | inside h ih => exact .inside (ih h')
  | beside h ih => exact .beside (ih h')

-- Every directory is a leaf or has one below it.
theorem exists_leaf (tree : cgroups) : tree = .none ∨ ∃ more, tree.Has more .none := by
  induction tree with
  | none => exact Or.inl rfl
  | cgroup name children siblings ihchildren ihsiblings =>
      rcases ihchildren with rfl | ⟨more, hmore⟩
      · exact Or.inr ⟨[name], .entry⟩
      · exact Or.inr ⟨name :: more, .inside hmore⟩

theorem Has.ne_nil {tree sub : cgroups} {names : List String} (h : tree.Has names sub) :
    names ≠ [] := by
  induction h with
  | entry => simp
  | inside h ih => simp
  | beside h ih => exact ih

-- Where the directories are, in the order in which they are visited.
def places : cgroups → List (List String)
  | none => []
  | cgroup name children siblings =>
      [name] :: (children.places.map (name :: ·) ++ siblings.places)

theorem mem_places {tree : cgroups} {place : List String} (h : place ∈ tree.places) :
    ∃ sub, tree.Has place sub := by
  induction tree generalizing place with
  | none => simp [places] at h
  | cgroup name children siblings ihchildren ihsiblings =>
      simp only [places, List.mem_cons, List.mem_append, List.mem_map] at h
      rcases h with rfl | ⟨inner, hinner, rfl⟩ | h
      · exact ⟨children, .entry⟩
      · obtain ⟨sub, hsub⟩ := ihchildren hinner
        exact ⟨sub, .inside hsub⟩
      · obtain ⟨sub, hsub⟩ := ihsiblings h
        exact ⟨sub, .beside hsub⟩

theorem Has.head_mem {tree sub : cgroups} {name : String} {names : List String}
    (h : tree.Has (name :: names) sub) : name ∈ tree.names := by
  generalize hplace : name :: names = place at h
  induction h with
  | entry =>
      obtain ⟨rfl, -⟩ := List.cons.inj hplace
      exact List.mem_cons_self
  | inside h ih =>
      obtain ⟨rfl, -⟩ := List.cons.inj hplace
      exact List.mem_cons_self
  | beside h ih => exact List.mem_cons_of_mem _ (ih hplace)

theorem nodup_places {tree : cgroups} (hvalid : tree.Valid) : tree.places.Nodup := by
  induction tree with
  | none => exact List.nodup_nil
  | cgroup name children siblings ihchildren ihsiblings =>
      obtain ⟨-, -, hfresh, hchildren, hsiblings⟩ := hvalid
      have hbeside : ∀ names, name :: names ∉ siblings.places := fun names hmem =>
        hfresh (mem_places hmem).choose_spec.head_mem
      rw [places, List.nodup_cons, List.nodup_append]
      refine ⟨fun hmem => ?_, ?_, ihsiblings hsiblings, ?_⟩
      · rcases List.mem_append.mp hmem with hmem | hmem
        · obtain ⟨inner, hinner, heq⟩ := List.mem_map.mp hmem
          obtain rfl := (List.cons.inj heq).2
          obtain ⟨sub, hsub⟩ := mem_places hinner
          exact hsub.ne_nil rfl
        · exact hbeside [] hmem
      · exact (ihchildren hchildren).map fun _ _ h => (List.cons.inj h).2
      · intro place hplace other hother heq
        obtain ⟨inner, -, rfl⟩ := List.mem_map.mp hplace
        exact hbeside inner (heq ▸ hother)

end cgroups

-- The path of the directory that the names lead to.
def cgroup_path (base_path : String) (names : List String) : String :=
  names.foldl fts_child_path base_path

-- The base path as it stands in front of the names.
def stem (base_path : String) : List Char :=
  if base_path.toList.getLast? = some '/' then base_path.toList.dropLast else base_path.toList

def below (names : List String) : List Char :=
  names.flatMap fun name => '/' :: name.toList

theorem below_append (names more : List String) :
    below (names ++ more) = below names ++ below more :=
  List.flatMap_append

theorem fts_child_path_toList (parent name : String) :
    (fts_child_path parent name).toList = stem parent ++ '/' :: name.toList := by
  unfold fts_child_path stem
  split <;> simp

theorem fts_child_path_last {parent name : String} (hname : name ≠ "" ∧ '/' ∉ name.toList) :
    (fts_child_path parent name).toList.getLast? ≠ some '/' := by
  have hne : name.toList ≠ [] := fun h => hname.1 (String.toList_eq_nil_iff.mp h)
  rw [fts_child_path_toList, List.append_cons, List.getLast?_append_of_ne_nil _ hne]
  exact fun h => hname.2 (List.mem_of_getLast? h)

theorem stem_child {parent name : String} (hname : name ≠ "" ∧ '/' ∉ name.toList) :
    stem (fts_child_path parent name) = stem parent ++ '/' :: name.toList := by
  rw [stem, if_neg (fts_child_path_last hname), fts_child_path_toList]

theorem stem_cgroup_path (base_path : String) {names : List String}
    (hnames : ∀ name ∈ names, name ≠ "" ∧ '/' ∉ name.toList) :
    stem (cgroup_path base_path names) = stem base_path ++ below names := by
  induction names generalizing base_path with
  | nil => simp [cgroup_path, below]
  | cons name names ih =>
      have hrest := ih (fts_child_path base_path name) fun other hother =>
        hnames other (List.mem_cons_of_mem _ hother)
      rw [stem_child (hnames name List.mem_cons_self)] at hrest
      simpa [cgroup_path, below] using hrest

-- A name ends at the next slash.
theorem below_injective {names names' : List String}
    (hnames : ∀ name ∈ names, name ≠ "" ∧ '/' ∉ name.toList)
    (hnames' : ∀ name ∈ names', name ≠ "" ∧ '/' ∉ name.toList) (h : below names = below names') :
    names = names' := by
  have htake : ∀ {name : String} (rest : List String), '/' ∉ name.toList →
      (name.toList ++ below rest).takeWhile (· ≠ '/') = name.toList := by
    intro name rest hname
    have hall : ∀ x ∈ name.toList, decide (x ≠ '/') = true := fun x hx =>
      decide_eq_true fun heq => hname (heq ▸ hx)
    rw [List.takeWhile_append_of_pos hall]
    cases rest <;> simp [below]
  induction names generalizing names' with
  | nil =>
      cases names' with
      | nil => rfl
      | cons name' names' => simp [below] at h
  | cons name names ih =>
      cases names' with
      | nil => simp [below] at h
      | cons name' names' =>
          have hcons : name.toList ++ below names = name'.toList ++ below names' := by
            simpa [below] using h
          have htoList : name.toList = name'.toList := by
            rw [← htake names (hnames name List.mem_cons_self).2, hcons,
              htake names' (hnames' name' List.mem_cons_self).2]
          rw [htoList] at hcons
          rw [String.toList_inj.mp htoList, ih
            (fun other hother => hnames other (List.mem_cons_of_mem _ hother))
            (fun other hother => hnames' other (List.mem_cons_of_mem _ hother))
            (List.append_cancel_left hcons)]

theorem cgroup_path_injective {base_path : String} {names names' : List String}
    (hnames : ∀ name ∈ names, name ≠ "" ∧ '/' ∉ name.toList)
    (hnames' : ∀ name ∈ names', name ≠ "" ∧ '/' ∉ name.toList)
    (h : cgroup_path base_path names = cgroup_path base_path names') : names = names' := by
  have hstem := congrArg stem h
  rw [stem_cgroup_path _ hnames, stem_cgroup_path _ hnames'] at hstem
  exact below_injective hnames hnames' (List.append_cancel_left hstem)

theorem cgroup_path_toList {base_path : String} {names : List String}
    (hbase : base_path.toList.getLast? ≠ some '/')
    (hnames : ∀ name ∈ names, name ≠ "" ∧ '/' ∉ name.toList) :
    (cgroup_path base_path names).toList = base_path.toList ++ below names := by
  have hlast : (cgroup_path base_path names).toList.getLast? ≠ some '/' := by
    induction names generalizing base_path with
    | nil => exact hbase
    | cons name names ih =>
        exact ih (fts_child_path_last (hnames name List.mem_cons_self)) fun other hother =>
          hnames other (List.mem_cons_of_mem _ hother)
  have hstem := stem_cgroup_path base_path hnames
  rwa [stem, if_neg hlast, stem, if_neg hbase] at hstem

theorem cgroup_path_cons_toList (base_path : String) {name : String} {names : List String}
    (hnames : ∀ other ∈ name :: names, other ≠ "" ∧ '/' ∉ other.toList) :
    (cgroup_path base_path (name :: names)).toList = stem base_path ++ below (name :: names) := by
  obtain ⟨hname, hrest⟩ := List.forall_mem_cons.mp hnames
  have hpath := cgroup_path_toList (@fts_child_path_last base_path name hname) hrest
  rw [fts_child_path_toList] at hpath
  simpa [cgroup_path, below] using hpath

-- Paths start with the base path. What follows is empty or starts with a slash, but
-- for a slash that the base path ends in.
theorem cgroup_path_starts (base_path : String) {names : List String}
    (hnames : ∀ name ∈ names, name ≠ "" ∧ '/' ∉ name.toList) :
    base_path.toList <+: (cgroup_path base_path names).toList := by
  cases names with
  | nil => exact List.prefix_rfl
  | cons name names =>
      rw [cgroup_path_cons_toList base_path hnames, stem]
      split_ifs with hlast
      · have hbase := List.dropLast_append_getLast? '/' hlast
        have hcons : below (name :: names) = ['/'] ++ (name.toList ++ below names) := rfl
        refine ⟨name.toList ++ below names, ?_⟩
        rw [hcons, ← List.append_assoc base_path.toList.dropLast, hbase]
      · exact List.prefix_append _ _

-- Directories are visited once each, and leaves are told by their links.
theorem mem_fts_below_iff {parent : String} {tree : cgroups} {node : FTSENT} :
    node ∈ fts_below parent tree ∧ node.fts_info = .FTS_D ↔
      ∃ names sub, tree.Has names sub ∧
        node = ⟨.FTS_D, cgroup_path parent names, 2 + sub.count⟩ := by
  induction tree generalizing parent with
  | none =>
      simp only [fts_below, List.not_mem_nil, false_and, false_iff]
      rintro ⟨names, sub, h, -⟩
      cases h
  | cgroup name children siblings ihchildren ihsiblings =>
      simp only [fts_below, List.mem_cons, List.mem_append]
      constructor
      · rintro ⟨rfl | hchild | rfl | hsibling, hinfo⟩
        · exact ⟨[name], children, .entry, rfl⟩
        · obtain ⟨names, sub, h, rfl⟩ := ihchildren.mp ⟨hchild, hinfo⟩
          exact ⟨name :: names, sub, .inside h, rfl⟩
        · exact absurd hinfo (by simp)
        · obtain ⟨names, sub, h, rfl⟩ := ihsiblings.mp ⟨hsibling, hinfo⟩
          exact ⟨names, sub, .beside h, rfl⟩
      · rintro ⟨names, sub, h, rfl⟩
        cases h with
        | entry => exact ⟨Or.inl rfl, rfl⟩
        | inside h => exact ⟨Or.inr (Or.inl (ihchildren.mpr ⟨_, _, h, rfl⟩).1), rfl⟩
        | beside h => exact ⟨Or.inr (Or.inr (Or.inr (ihsiblings.mpr ⟨_, _, h, rfl⟩).1)), rfl⟩

theorem mem_fts_read_iff {base_path : String} {tree : cgroups} {node : FTSENT} :
    node ∈ fts_read base_path tree ∧ node.fts_info = .FTS_D ↔
      ∃ names sub, (names = [] ∧ sub = tree ∨ tree.Has names sub) ∧
        node = ⟨.FTS_D, cgroup_path base_path names, 2 + sub.count⟩ := by
  simp only [fts_read, List.mem_cons, List.mem_append, List.not_mem_nil, or_false]
  constructor
  · rintro ⟨rfl | hbelow | rfl, hinfo⟩
    · exact ⟨[], tree, Or.inl ⟨rfl, rfl⟩, rfl⟩
    · obtain ⟨names, sub, h, rfl⟩ := mem_fts_below_iff.mp ⟨hbelow, hinfo⟩
      exact ⟨names, sub, Or.inr h, rfl⟩
    · exact absurd hinfo (by simp)
  · rintro ⟨names, sub, ⟨rfl, rfl⟩ | h, rfl⟩
    · exact ⟨Or.inl rfl, rfl⟩
    · exact ⟨Or.inr (Or.inl (mem_fts_below_iff.mpr ⟨_, _, h, rfl⟩).1), rfl⟩

theorem fts_below_paths (parent : String) (tree : cgroups) :
    ((fts_below parent tree).filter fun node => node.fts_info = .FTS_D).map FTSENT.fts_path =
      tree.places.map (cgroup_path parent) := by
  induction tree generalizing parent with
  | none => rfl
  | cgroup name children siblings ihchildren ihsiblings =>
      have hchildren := ihchildren (fts_child_path parent name)
      have hsiblings := ihsiblings parent
      simp only [fts_below, cgroups.places, List.filter_cons, List.filter_append, decide_true,
        if_true, List.map_cons, List.map_append, List.map_map, reduceCtorEq, decide_false,
        Bool.false_eq_true, if_false, hchildren, hsiblings]
      rfl

-- No path is visited twice.
theorem nodup_fts_paths (base_path : String) {tree : cgroups} (hvalid : tree.Valid) :
    (((fts_read base_path tree).filter fun node => node.fts_info = .FTS_D).map
      FTSENT.fts_path).Nodup := by
  have hpaths : ((fts_read base_path tree).filter fun node => node.fts_info = .FTS_D).map
      FTSENT.fts_path = ([] :: tree.places).map (cgroup_path base_path) := by
    simp [fts_read, fts_below_paths, cgroup_path]
  have hok : ∀ place ∈ [] :: tree.places, ∀ name ∈ place, name ≠ "" ∧ '/' ∉ name.toList := by
    intro place hplace
    rcases List.mem_cons.mp hplace with rfl | hplace
    · simp
    · obtain ⟨sub, hsub⟩ := cgroups.mem_places hplace
      exact hsub.name_ok hvalid
  have hroot : [] ∉ tree.places := by
    intro hmem
    obtain ⟨sub, hsub⟩ := cgroups.mem_places hmem
    exact hsub.ne_nil rfl
  rw [hpaths]
  refine List.Nodup.map_on ?_ (List.nodup_cons.mpr ⟨hroot, cgroups.nodup_places hvalid⟩)
  exact fun place hplace other hother h =>
    cgroup_path_injective (hok place hplace) (hok other hother) h

theorem count_eq_zero_iff {tree : cgroups} : tree.count = 0 ↔ tree = .none := by
  cases tree <;> simp [cgroups.count]

theorem Wanted.everything {node : FTSENT} :
    Wanted TARGET_TYPE_EVERYTHING node ↔ (node.fts_info = .FTS_D ∧ node.st_nlink = 2) ∧
      target_validate_type (target_detect_type (some node.fts_path)) (some node.fts_path) =
        true := by
  have hflag : ∀ type : target_type, type.flag &&& TARGET_TYPE_EVERYTHING ≠ 0 := by
    intro type
    cases type <;> decide
  simp [Wanted, hflag]

-- Each item of the table is the target of a wanted directory, and each wanted
-- directory has an item.
structure Found (base_path : String) (type_mask : Nat) (nodes : List FTSENT) (d : discovery) :
    Prop where
  sound : ∀ entry ∈ d.targets, ∃ node ∈ nodes, Wanted type_mask node ∧
    node.fts_path = entry.1 ∧ d.created[entry.2]? = some (discovered_target base_path node)
  complete : ∀ node ∈ nodes, Wanted type_mask node → node.fts_path ∈ zhashx_keys d.targets

theorem Found.discover {order : hash_order} {base_path : String} {type_mask : Nat}
    {nodes : List FTSENT} {d : discovery} (h : Found base_path type_mask nodes d)
    (node : FTSENT) :
    Found base_path type_mask (nodes ++ [node]) (discover order base_path type_mask d node) := by
  unfold HwpcSensor.discover
  by_cases hwanted : Wanted type_mask node
  · rw [if_pos hwanted]
    have hold : ∀ entry ∈ d.targets, ∃ other ∈ nodes ++ [node], Wanted type_mask other ∧
        other.fts_path = entry.1 ∧ (d.created ++ [discovered_target base_path node])[entry.2]? =
          some (discovered_target base_path other) := by
      intro entry hentry
      obtain ⟨other, hother, hw, hpath, htarget⟩ := h.sound entry hentry
      refine ⟨other, List.mem_append_left _ hother, hw, hpath, ?_⟩
      rw [List.getElem?_append_left (List.getElem?_eq_some_iff.mp htarget).1]
      exact htarget
    by_cases hmem : node.fts_path ∈ zhashx_keys d.targets
    · rw [zhashx_insert_of_mem order hmem]
      refine ⟨hold, fun other hother hw => ?_⟩
      rcases List.mem_append.mp hother with hother | hother
      · exact h.complete other hother hw
      · obtain rfl := List.mem_singleton.mp hother
        exact hmem
    · have hperm := zhashx_insert_perm order hmem d.created.length
      refine ⟨fun entry hentry => ?_, fun other hother hw => ?_⟩
      · rcases List.mem_cons.mp (hperm.subset hentry) with rfl | hentry
        · exact ⟨node, by simp, hwanted, rfl, List.getElem?_concat_length⟩
        · exact hold entry hentry
      · rw [(zhashx_keys_insert_perm order hmem _).mem_iff]
        rcases List.mem_append.mp hother with hother | hother
        · exact List.mem_cons_of_mem _ (h.complete other hother hw)
        · obtain rfl := List.mem_singleton.mp hother
          exact List.mem_cons_self
  · rw [if_neg hwanted]
    refine ⟨fun entry hentry => ?_, fun other hother hw => ?_⟩
    · obtain ⟨other, hother, hrest⟩ := h.sound entry hentry
      exact ⟨other, List.mem_append_left _ hother, hrest⟩
    · rcases List.mem_append.mp hother with hother | hother
      · exact h.complete other hother hw
      · obtain rfl := List.mem_singleton.mp hother
        exact absurd hw hwanted

theorem found_foldl {order : hash_order} {base_path : String} {type_mask : Nat}
    (nodes : List FTSENT) {before : List FTSENT} {d : discovery}
    (h : Found base_path type_mask before d) :
    Found base_path type_mask (before ++ nodes)
      (nodes.foldl (discover order base_path type_mask) d) := by
  induction nodes generalizing before d with
  | nil => simpa using h
  | cons node nodes ih => simpa using ih (h.discover node)

theorem target_discover_running_found {order : hash_order} {base_path : String}
    {type_mask : Nat} (tree : cgroups) (created : List target) :
    Found base_path type_mask (fts_read base_path tree)
      (target_discover_running order base_path type_mask (some tree) ⟨created, []⟩).2 := by
  have hempty : Found base_path type_mask [] ⟨created, []⟩ := ⟨by simp, by simp⟩
  exact found_foldl (fts_read base_path tree) hempty

-- Each wanted path is a new key: the targets that are created are just those in the
-- table.
theorem foldl_discover_perm {order : hash_order} {base_path : String} {type_mask : Nat}
    (nodes : List FTSENT) {d : discovery} (hkeys : (zhashx_keys d.targets).Nodup)
    (hnodup : ((nodes.filter fun node => Wanted type_mask node).map FTSENT.fts_path).Nodup)
    (hnew : ∀ node ∈ nodes, Wanted type_mask node → node.fts_path ∉ zhashx_keys d.targets) :
    (zhashx_keys (nodes.foldl (discover order base_path type_mask) d).targets).Nodup ∧
      (nodes.foldl (discover order base_path type_mask) d).created = d.created ++
        (nodes.filter fun node => Wanted type_mask node).map (discovered_target base_path) ∧
      ((nodes.foldl (discover order base_path type_mask) d).targets.map Prod.snd).Perm
        (d.targets.map Prod.snd ++ List.range' d.created.length
          (nodes.filter fun node => Wanted type_mask node).length) := by
  induction nodes generalizing d with
  | nil => simpa using hkeys
  | cons node nodes ih =>
      have hrest : ∀ other ∈ nodes, Wanted type_mask other →
          other.fts_path ∉ zhashx_keys d.targets := fun other hother =>
        hnew other (List.mem_cons_of_mem _ hother)
      by_cases hwanted : Wanted type_mask node
      · have hfresh := hnew node List.mem_cons_self hwanted
        have hinsert := zhashx_insert_perm order hfresh d.created.length
        rw [List.filter_cons_of_pos (by simpa using hwanted), List.map_cons,
          List.nodup_cons] at hnodup
        have hstep : discover order base_path type_mask d node =
            { created := d.created ++ [discovered_target base_path node]
              targets := zhashx_insert order d.targets node.fts_path d.created.length } := by
          rw [discover, if_pos hwanted]
        have hnew' : ∀ other ∈ nodes, Wanted type_mask other → other.fts_path ∉
            zhashx_keys (zhashx_insert order d.targets node.fts_path d.created.length) := by
          intro other hother hw hmem
          rw [(zhashx_keys_insert_perm order hfresh _).mem_iff] at hmem
          rcases List.mem_cons.mp hmem with heq | hmem
          · refine hnodup.1 (heq ▸ List.mem_map_of_mem ?_)
            exact List.mem_filter.mpr ⟨hother, by simpa using hw⟩
          · exact hrest other hother hw hmem
        obtain ⟨hkeys', hcreated, hperm⟩ := ih (d := ⟨d.created ++
            [discovered_target base_path node],
            zhashx_insert order d.targets node.fts_path d.created.length⟩)
          (nodup_zhashx_insert order hkeys _ _) hnodup.2 hnew'
        rw [List.foldl_cons, hstep, List.filter_cons_of_pos (by simpa using hwanted)]
        refine ⟨hkeys', by simp [hcreated], hperm.trans ?_⟩
        have hids := (hinsert.map Prod.snd).append_right
          (List.range' (d.created.length + 1)
            (nodes.filter fun node => Wanted type_mask node).length)
        simp only [List.length_append, List.length_cons, List.range'_succ]
        exact hids.trans List.perm_middle.symm
      · have hstep : discover order base_path type_mask d node = d := by
          rw [discover, if_neg hwanted]
        rw [List.foldl_cons, hstep, List.filter_cons_of_neg (by simpa using hwanted)]
        refine ih hkeys ?_ hrest
        rwa [List.filter_cons_of_neg (by simpa using hwanted)] at hnodup

theorem target_discover_running_perm {order : hash_order} (base_path : String)
    (type_mask : Nat) {tree : cgroups} (hvalid : tree.Valid) (created : List target) :
    ∃ found, (zhashx_keys (target_discover_running order base_path type_mask (some tree)
        ⟨created, []⟩).2.targets).Nodup ∧
      (target_discover_running order base_path type_mask (some tree) ⟨created, []⟩).2.created =
        created ++ found ∧
      ((target_discover_running order base_path type_mask (some tree)
        ⟨created, []⟩).2.targets.map Prod.snd).Perm
        (List.range' created.length found.length) := by
  have hwanted : ((fts_read base_path tree).filter fun node => Wanted type_mask node).Sublist
      ((fts_read base_path tree).filter fun node => node.fts_info = .FTS_D) :=
    List.monotone_filter_right _ fun node hnode => by
      have hw : Wanted type_mask node := of_decide_eq_true hnode
      simpa using hw.1.1
  obtain ⟨hkeys, hcreated, hperm⟩ := @foldl_discover_perm order base_path type_mask
    (fts_read base_path tree) ⟨created, []⟩ List.nodup_nil
    ((hwanted.map FTSENT.fts_path).nodup (nodup_fts_paths base_path hvalid)) (by simp [zhashx_keys])
  refine ⟨_, hkeys, hcreated, ?_⟩
  rwa [List.length_map]

end HwpcSensor
