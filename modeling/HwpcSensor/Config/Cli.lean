import HwpcSensor.Config.Groups

namespace HwpcSensor

open Getopt

def names_group : found → Option (events_kind × String)
  | .value 's' optarg => some (.system, optarg)
  | .value 'c' optarg => some (.containers, optarg)
  | _ => none

-- What one option asks for, when `current` is the group last named.
def option_ops (current : Option (events_kind × String)) : found → List events_op
  | .value 's' optarg => [.create .system optarg]
  | .value 'c' optarg => [.create .containers optarg]
  | .flag 'o' =>
      current.toList.map fun group => .set_type group.1 group.2 .MONITOR_ONE_CPU_PER_SOCKET
  | .value 'e' optarg => current.toList.map fun group => .append group.1 group.2 optarg
  | _ => []

def cli_ops : Option (events_kind × String) → List found → List events_op
  | _, [] => []
  | current, option :: rest =>
      option_ops current option ++ cli_ops ((names_group option).or current) rest

section Refinement

variable {m : platform}

theorem handle_option_ops {s s' : cli_state} {option : found}
    (h : handle_option m s option = some s') :
    apply_ops m (option_ops s.current_events_group option) s.config.events =
        some s'.config.events ∧
      s'.current_events_group = (names_group option).or s.current_events_group := by
  unfold handle_option at h
  split at h
  case h_8 =>
      obtain ⟨group, hgroup, h⟩ := Option.bind_eq_some_iff.mp h
      obtain rfl := Option.some.inj h
      simp only [option_ops, hgroup]
      exact ⟨rfl, rfl⟩
  case h_9 =>
      obtain ⟨group, hgroup, h⟩ := Option.bind_eq_some_iff.mp h
      obtain ⟨events, hevents, h⟩ := Option.bind_eq_some_iff.mp h
      obtain rfl := Option.some.inj h
      simp only [option_ops, hgroup]
      exact ⟨Option.bind_eq_some_iff.mpr ⟨events, hevents, rfl⟩, rfl⟩
  case h_2 | h_3 =>
      obtain ⟨frequency, -, h⟩ := Option.bind_eq_some_iff.mp h
      obtain rfl := Option.some.inj h
      exact ⟨rfl, rfl⟩
  case h_10 =>
      obtain ⟨-, h⟩ := Option.ite_none_left_eq_some.mp h
      obtain rfl := Option.some.inj h
      exact ⟨rfl, rfl⟩
  case h_15 => exact absurd h (by simp)
  all_goals
    obtain rfl := Option.some.inj h
    exact ⟨rfl, rfl⟩

theorem handle_options_ops {s s' : cli_state} {options : List found}
    (h : handle_options m options s = some s') :
    apply_ops m (cli_ops s.current_events_group options) s.config.events =
      some s'.config.events := by
  induction options generalizing s with
  | nil =>
      obtain rfl := Option.some.inj h
      rfl
  | cons option rest ih =>
      obtain ⟨next, hoption, hrest⟩ := Option.bind_eq_some_iff.mp h
      obtain ⟨hops, hcurrent⟩ := handle_option_ops hoption
      have hlater := ih hrest
      rw [hcurrent] at hlater
      exact apply_ops_append hops hlater

end Refinement

-- An event option comes before the next option that names a group.
def LeadsToEvent (options : List found) : Prop :=
  ∃ between event_name after, options = between ++ .value 'e' event_name :: after ∧
    ∀ option ∈ between, names_group option = none

-- One of the options that name the group has an event option before the next
-- option that names a group.
def GetsEvent (group : events_kind × String) (options : List found) : Prop :=
  ∃ before namer after, options = before ++ namer :: after ∧ names_group namer = some group ∧
    LeadsToEvent after

theorem leads_to_event_cons {option : found} {rest : List found} :
    LeadsToEvent (option :: rest) ↔ (∃ event_name, option = .value 'e' event_name) ∨
      (names_group option = none ∧ LeadsToEvent rest) := by
  constructor
  · rintro ⟨between, event_name, after, hsplit, hbetween⟩
    rcases List.cons_eq_append_iff.mp hsplit with ⟨rfl, hevent⟩ | ⟨between, rfl, rfl⟩
    · exact Or.inl ⟨event_name, (List.cons.inj hevent.symm).1⟩
    · exact Or.inr ⟨hbetween option List.mem_cons_self, between, event_name, after, rfl,
        fun other hother => hbetween other (List.mem_cons_of_mem _ hother)⟩
  · rintro (⟨event_name, rfl⟩ | ⟨hnone, between, event_name, after, rfl, hbetween⟩)
    · exact ⟨[], event_name, rest, rfl, by simp⟩
    · exact ⟨option :: between, event_name, after, rfl, List.forall_mem_cons.mpr ⟨hnone, hbetween⟩⟩

theorem gets_event_cons {group : events_kind × String} {option : found} {rest : List found} :
    GetsEvent group (option :: rest) ↔
      (names_group option = some group ∧ LeadsToEvent rest) ∨ GetsEvent group rest := by
  constructor
  · rintro ⟨before, namer, after, hsplit, hnamer, hleads⟩
    rcases List.cons_eq_append_iff.mp hsplit with ⟨rfl, heq⟩ | ⟨before, rfl, rfl⟩
    · obtain ⟨rfl, rfl⟩ := List.cons.inj heq
      exact Or.inl ⟨hnamer, hleads⟩
    · exact Or.inr ⟨before, namer, after, rfl, hnamer, hleads⟩
  · rintro (⟨hnamer, hleads⟩ | ⟨before, namer, after, rfl, hnamer, hleads⟩)
    · exact ⟨[], option, rest, rfl, hnamer, hleads⟩
    · exact ⟨option :: before, namer, after, rfl, hnamer, hleads⟩

theorem create_mem_option_ops {current : Option (events_kind × String)} {option : found}
    {kind : events_kind} {group_name : String} :
    .create kind group_name ∈ option_ops current option ↔
      names_group option = some (kind, group_name) := by
  unfold option_ops names_group
  split <;> simp [eq_comm]

theorem append_mem_option_ops {current : Option (events_kind × String)} {option : found}
    {kind : events_kind} {group_name event_name : String} :
    .append kind group_name event_name ∈ option_ops current option ↔
      current = some (kind, group_name) ∧ option = .value 'e' event_name := by
  unfold option_ops
  split
  case h_5 hevent =>
      refine iff_of_false List.not_mem_nil ?_
      rintro ⟨-, rfl⟩
      exact hevent event_name rfl
  all_goals simp [eq_comm]

theorem create_mem_cli_ops {current : Option (events_kind × String)} {options : List found}
    {kind : events_kind} {group_name : String} :
    .create kind group_name ∈ cli_ops current options ↔
      ∃ option ∈ options, names_group option = some (kind, group_name) := by
  induction options generalizing current with
  | nil => simp [cli_ops]
  | cons option rest ih =>
      unfold cli_ops
      rw [List.mem_append, create_mem_option_ops, ih]
      simp

theorem append_mem_cli_ops {current : Option (events_kind × String)} {options : List found}
    {kind : events_kind} {group_name : String} :
    (∃ event_name, .append kind group_name event_name ∈ cli_ops current options) ↔
      (current = some (kind, group_name) ∧ LeadsToEvent options) ∨
        GetsEvent (kind, group_name) options := by
  induction options generalizing current with
  | nil => simp [cli_ops, GetsEvent, LeadsToEvent]
  | cons option rest ih =>
      unfold cli_ops
      simp only [List.mem_append, append_mem_option_ops, exists_or, exists_and_left, ih,
        leads_to_event_cons, gets_event_cons]
      cases hnames : names_group option with
      | none =>
          rw [Option.none_or]
          tauto
      | some named =>
          -- an option that names a group is no event option
          have hevent : ¬∃ event_name, option = .value 'e' event_name := by
            rintro ⟨event_name, rfl⟩
            cases hnames
          rw [Option.some_or]
          simp [hevent]

-- From the start of the options, where no group has been named.
theorem append_mem_cli_ops_none {options : List found} {kind : events_kind}
    {group_name : String} :
    (∃ event_name, .append kind group_name event_name ∈ cli_ops none options) ↔
      GetsEvent (kind, group_name) options := by
  rw [append_mem_cli_ops]
  simp

end HwpcSensor
