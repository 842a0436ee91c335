import HwpcSensor.Config.Period
import HwpcSensor.Storage.Socket

namespace HwpcSensor

open Getopt Interaction LastWrite Storage.Socket

-- What gives the port. A document has it under its name in an output section.

def option_port : found → Option number_given
  | .value 'P' optarg => some (.text optarg)
  | _ => none

def field_port : String × bson_value → Option number_given
  | (key_name, .int32 value) => if key_name = "port" then some (.int32 value) else none
  | _ => none

-- What is stored as the port: any number of an output section is.
def field_number : String × bson_value → Option number_given
  | (_, .int32 value) => some (.int32 value)
  | _ => none

def in_output (given : String × bson_value → Option number_given) :
    String × bson_value → Option number_given
  | (key_name, .document fields) => if key_name = "output" then last_written given fields else none
  | _ => none

-- The port that the user gives last, and what is stored last.
def config_source.port : config_source → Option number_given
  | .cli argv => last_written option_port (cli_options argv)
  | .file doc => last_written (in_output field_port) doc

def config_source.stored_port : config_source → Option number_given
  | .cli argv => last_written option_port (cli_options argv)
  | .file doc => last_written (in_output field_number) doc

def number_given.port : number_given → Int
  | .text optarg => (strtol optarg.toList 10).value.bmod (2 ^ 32)
  | .int32 value => value

def config_storage.with_port (P_flag : Int) (storage : config_storage) : config_storage :=
  { storage with P_flag := P_flag }

def config.with_port (P_flag : Int) (config : config) : HwpcSensor.config :=
  { config with storage := config.storage.with_port P_flag }

def cli_state.with_port (P_flag : Int) (s : cli_state) : cli_state :=
  { s with config := s.config.with_port P_flag }

section Stored

variable {m : platform}

theorem handle_option_writes_port :
    Writes cli_state.with_port (fun option => (option_port option).map number_given.port)
      (handle_option m) := by
  rintro ⟨config, current⟩ option value
  unfold handle_option
  split
  case h_2 optarg | h_3 optarg => cases parse_frequency optarg <;> rfl
  case h_8 => cases current <;> rfl
  case h_9 event_name =>
      cases current with
      | none => rfl
      | some group =>
          change (config.events.append_event m group.1 group.2 event_name).bind _ =
            ((config.events.append_event m group.1 group.2 event_name).bind _).map _
          cases config.events.append_event m group.1 group.2 event_name <;> rfl
  case h_10 =>
      dsimp only
      split_ifs <;> rfl
  all_goals rfl

theorem parse_storage_field_writes_port :
    Writes config_storage.with_port (fun field => (field_number field).map number_given.port)
      (parse_storage_field m) := by
  rintro storage ⟨key_name, item⟩ value
  cases item with
  | utf8 _ =>
      simp only [parse_storage_field]
      split_ifs <;> rfl
  | _ => rfl

theorem iter_on_storage_config_runs :
    Runs (parse_storage_field m) fun fields storage => iter_on_storage_config m fields storage :=
  ⟨fun _ => rfl, fun _ _ _ => rfl⟩

theorem parse_root_field_writes_port :
    Writes config.with_port (fun field => (in_output field_number field).map number_given.port)
      (parse_root_field m) := by
  rintro before ⟨key_name, item⟩ value
  cases item with
  | document fields =>
      have hstorage := parse_storage_field_writes_port.run (iter_on_storage_config_runs (m := m))
        fields before.storage value
      rw [last_written_map] at hstorage
      simp only [parse_root_field]
      by_cases houtput : key_name = "output"
      · subst houtput
        change (iter_on_storage_config m fields (before.storage.with_port value)).bind _ =
          ((iter_on_storage_config m fields before.storage).bind _).map
            (config.with_port (((last_written field_number fields).map number_given.port).getD
              value))
        rw [hstorage]
        cases iter_on_storage_config m fields before.storage <;> rfl
      · rw [in_output, if_neg houtput, if_neg houtput, if_neg houtput]
        split_ifs
        · change (iter_on_event_group_config m .system fields before.events).map _ =
            ((iter_on_event_group_config m .system fields before.events).map _).map _
          cases iter_on_event_group_config m .system fields before.events <;> rfl
        · change (iter_on_event_group_config m .containers fields before.events).map _ =
            ((iter_on_event_group_config m .containers fields before.events).map _).map _
          cases iter_on_event_group_config m .containers fields before.events <;> rfl
        · rfl
  | bool _ | utf8 _ | int32 _ =>
      simp only [parse_root_field]
      split_ifs <;> rfl
  | array _ | other => rfl

-- Whatever the memory holds, the sources lead to one configuration, up to a port
-- that nothing stores.
theorem setup_port (source : config_source) (P_flag : Int) :
    source.setup m P_flag = (source.setup m 0).map
      (config.with_port ((source.stored_port.map number_given.port).getD P_flag)) := by
  cases source with
  | cli argv =>
      have hwrites := handle_option_writes_port.run (handle_options_runs (m := m))
        (cli_options argv) ⟨config_create 0, none⟩ P_flag
      rw [last_written_map] at hwrites
      have hcreate : cli_state.with_port P_flag ⟨config_create 0, none⟩ =
          ⟨config_create P_flag, none⟩ := rfl
      rw [hcreate] at hwrites
      show (handle_options m (cli_options argv) ⟨config_create P_flag, none⟩).map _ =
        ((handle_options m (cli_options argv) ⟨config_create 0, none⟩).map _).map _
      rw [hwrites, Option.map_map, Option.map_map]
      rfl
  | file doc =>
      have hwrites := parse_root_field_writes_port.run (iter_on_root_config_runs (m := m))
        doc (config_create 0) P_flag
      rw [last_written_map] at hwrites
      exact hwrites

end Stored

section Decimal

theorem length_signed_decimal {p : Int} (hpos : 1 ≤ p) (hmax : p ≤ 65535) :
    (signed_decimal p).length ≤ 5 := by
  unfold signed_decimal
  rw [if_neg (by omega)]
  exact (Nat.length_toDigits_le_iff (by decide) (by decide)).mpr (by omega)

theorem signed_decimal_injective {p q : Int} (h : signed_decimal p = signed_decimal q) :
    p = q := by
  have hp := denoted_signed_decimal p (Or.inr rfl : (10 : Nat) = 0 ∨ (10 : Nat) = 10)
  rw [h, denoted_signed_decimal q (Or.inr rfl)] at hp
  exact (Option.some.inj hp).symm

-- The five digits of a port fit in the buffer, and a text that is cut off has more.
theorem port_str_eq_iff {p q : Int} (hpos : 1 ≤ p) (hmax : p ≤ 65535) :
    port_str q = signed_decimal p ↔ q = p := by
  have hlength := length_signed_decimal hpos hmax
  unfold port_str PORT_STR_BUFFER_SIZE
  constructor
  · intro h
    have hshort : (signed_decimal q).length ≤ 8 - 1 := by
      have hcut : ((signed_decimal q).take (8 - 1)).length ≤ 5 := h ▸ hlength
      rw [List.length_take] at hcut
      omega
    rw [List.take_of_length_le hshort] at h
    exact signed_decimal_injective h
  · rintro rfl
    exact List.take_of_length_le (by omega)

theorem number_given.port_eq {given : number_given} {p : Int}
    (hinteger : given.integer 10 = some p) (hpos : 1 ≤ p) (hmax : p ≤ 65535) :
    given.port = p := by
  cases given with
  | int32 value => exact Option.some.inj hinteger
  | text optarg =>
      have hvalue : (strtol optarg.toList 10).value = p := by
        rw [strtol_of_denoted hinteger, if_neg (by unfold LONG_MAX; omega),
          if_neg (by unfold LONG_MIN; omega)]
      show (strtol optarg.toList 10).value.bmod (2 ^ 32) = p
      rw [hvalue]
      exact Int.bmod_eq_of_le (by omega) (by omega)

end Decimal

section Service

-- The service that a resolution asks for.
def ResolvesService (service : List Char) : socket_call → Prop
  | .getaddrinfo _ asked _ => asked = service
  | _ => True

theorem connect_to_any_resolves (service : List Char) (result : List addrinfo) (s : Int × Int) :
    (connect_to_any result s).Uses (ResolvesService service) := by
  induction result generalizing s with
  | nil => exact Prog.Uses.pure _
  | cons rp rest ih =>
      refine Prog.Uses.bind (Prog.Uses.perform trivial) fun sfd => ?_
      split_ifs
      · exact ih _
      · refine Prog.Uses.bind (Prog.Uses.perform trivial) fun ret => ?_
        split_ifs
        · exact Prog.Uses.pure _
        · exact Prog.Uses.bind (Prog.Uses.perform trivial) fun _ => ih _

theorem resolve_and_connect_resolves_iff {ctx : socket_context} {service : List Char} :
    (socket_resolve_and_connect ctx).Uses (ResolvesService service) ↔
      port_str ctx.config.port = service := by
  constructor
  · exact fun h => h.1
  · intro h
    refine Prog.Uses.bind (Prog.Uses.perform h) fun result => ?_
    cases result with
    | none => exact Prog.Uses.pure _
    | some result =>
        refine Prog.Uses.bind (connect_to_any_resolves service result _) fun connected => ?_
        split_ifs <;> exact Prog.Uses.pure _

-- The context that `storage_socket_create` makes.
def storage_socket_context (config : config) : Option socket_context := do
  let sensor_name ← config.sensor.name
  let address ← config.storage.U_flag
  pure (socket_context_create sensor_name address config.storage.P_flag)

theorem storage_socket_context_port {config : config} {ctx : socket_context}
    (h : storage_socket_context config = some ctx) : ctx.config.port = config.storage.P_flag := by
  obtain ⟨sensor_name, -, h⟩ := Option.bind_eq_some_iff.mp h
  obtain ⟨address, -, h⟩ := Option.bind_eq_some_iff.mp h
  obtain rfl := Option.some.inj h
  rfl

theorem exists_storage_socket_context {m : platform} {config : config}
    (hvalid : config_validate m config = 0) (htype : config.storage.type = .STORAGE_SOCKET) :
    ∃ ctx, storage_socket_context config = some ctx := by
  unfold config_validate at hvalid
  cases hname : config.sensor.name with
  | none => simp [hname] at hvalid
  | some sensor_name =>
      cases haddress : config.storage.U_flag with
      | none => simp [hname, haddress, htype] at hvalid
      | some address =>
          exact ⟨socket_context_create sensor_name address config.storage.P_flag, by
            simp [storage_socket_context, hname, haddress]⟩

end Service

-- The port is the one that the user gave, and nothing of it was in the memory.
structure UsersPort (m : platform) (source : config_source) (accepted : config) : Prop where
  supplied : ∃ given p ctx, source.port = some given ∧ given.integer 10 = some p ∧
    1 ≤ p ∧ p ≤ 65535 ∧ storage_socket_context accepted = some ctx ∧
    (socket_resolve_and_connect ctx).Uses (ResolvesService (signed_decimal p))
  independent : ∀ P_flag, ∃ config, source.setup m P_flag = some config ∧
    config_validate m config = 0 ∧ config.storage.P_flag = accepted.storage.P_flag

theorem int32_of_in_output {given : String × bson_value → Option number_given}
    (hgiven : ∀ field number, given field = some number → ∃ value, number = .int32 value)
    {doc : List (String × bson_value)} {number : number_given}
    (h : last_written (in_output given) doc = some number) : ∃ value, number = .int32 value := by
  obtain ⟨⟨key_name, item⟩, -, h⟩ := mem_of_last_written h
  unfold in_output at h
  split at h
  · obtain ⟨-, h⟩ := Option.ite_none_right_eq_some.mp h
    obtain ⟨field, -, hfield⟩ := mem_of_last_written h
    exact hgiven field number hfield
  · cases h

-- Two numbers of a document, or two arguments of one option, that are the same
-- number are given alike.
theorem stored_port_eq {source : config_source} {given stored : number_given} {p : Int}
    (hgiven : source.port = some given) (hstored : source.stored_port = some stored)
    (hinteger : given.integer 10 = some p) (hport : stored.port = p) :
    source.stored_port = source.port := by
  cases source with
  | cli argv => rfl
  | file doc =>
      obtain ⟨value, rfl⟩ := int32_of_in_output (fun field number hfield => by
        unfold field_port at hfield
        split at hfield
        · exact ⟨_, (Option.some.inj (Option.ite_none_right_eq_some.mp hfield).2).symm⟩
        · cases hfield) hgiven
      obtain ⟨value', rfl⟩ := int32_of_in_output (fun field number hfield => by
        unfold field_number at hfield
        split at hfield
        · exact ⟨_, (Option.some.inj hfield).symm⟩
        · cases hfield) hstored
      obtain rfl := Option.some.inj hinteger
      rw [hstored, hgiven]
      exact congrArg (some ∘ number_given.int32) hport

section

variable {m : platform} {source : config_source} {accepted : config}

theorem users_port_iff {P_flag : Int} (hsetup : source.setup m P_flag = some accepted)
    (hvalid : config_validate m accepted = 0)
    (htype : accepted.storage.type = .STORAGE_SOCKET) :
    UsersPort m source accepted ↔ source.stored_port = source.port ∧
      ∃ given p, source.port = some given ∧ given.integer 10 = some p ∧ 1 ≤ p ∧ p ≤ 65535 := by
  have hall := setup_port (m := m) source
  obtain ⟨base, hbase, hport⟩ := Option.map_eq_some_iff.mp ((hall P_flag).symm.trans hsetup)
  constructor
  · rintro ⟨⟨given, p, ctx, hgiven, hinteger, hpos, hmax, hctx, hservice⟩, hindependent⟩
    refine ⟨?_, given, p, hgiven, hinteger, hpos, hmax⟩
    rw [resolve_and_connect_resolves_iff, port_str_eq_iff hpos hmax,
      storage_socket_context_port hctx] at hservice
    cases hstored : source.stored_port with
    | none =>
        -- another memory would give another port
        obtain ⟨config, hconfig, -, hsame⟩ := hindependent (p + 1)
        obtain ⟨_, -, rfl⟩ := Option.map_eq_some_iff.mp ((hall (p + 1)).symm.trans hconfig)
        rw [hstored, hservice] at hsame
        have hmore : p + 1 = p := hsame
        omega
    | some stored =>
        rw [← hstored]
        refine stored_port_eq hgiven hstored hinteger ?_
        rw [← hservice, ← hport, hstored]
        rfl
  · rintro ⟨hstored, given, p, hgiven, hinteger, hpos, hmax⟩
    have hp := number_given.port_eq hinteger hpos hmax
    have hsame : ∀ P_flag', source.setup m P_flag' = some accepted := by
      intro P_flag'
      rw [hall P_flag', hbase, hstored, hgiven]
      rw [hstored, hgiven] at hport
      exact congrArg some hport
    have hstoredp : accepted.storage.P_flag = p := by
      rw [← hport, hstored, hgiven]
      exact hp
    obtain ⟨ctx, hctx⟩ := exists_storage_socket_context hvalid htype
    refine ⟨⟨given, p, ctx, hgiven, hinteger, hpos, hmax, hctx, ?_⟩,
      fun P_flag' => ⟨accepted, hsame P_flag', hvalid, rfl⟩⟩
    rw [resolve_and_connect_resolves_iff, port_str_eq_iff hpos hmax,
      storage_socket_context_port hctx, hstoredp]

end

def over_socket (P_flag : Int) : config where
  sensor := ⟨0, 1000, 20, DEFAULT_CGROUP_BASEPATH, some "x"⟩
  storage := ⟨.STORAGE_SOCKET, some "host", none, none, P_flag⟩
  events := ⟨[("g", ⟨"g", .MONITOR_ALL_CPU_PER_SOCKET, []⟩)], []⟩

def socket_argv (port : List String) : List String :=
  ["hwpc-sensor", "-n", "x", "-r", "socket", "-U", "host", "-s", "g"] ++ port

theorem users_port_iff_9080 :
    UsersPort all_events (.cli (socket_argv ["-P", "9080"])) (over_socket 9080) ↔
      config_source.stored_port (.cli (socket_argv ["-P", "9080"])) =
        config_source.port (.cli (socket_argv ["-P", "9080"])) ∧
      ∃ given p, config_source.port (.cli (socket_argv ["-P", "9080"])) = some given ∧
        given.integer 10 = some p ∧ 1 ≤ p ∧ p ≤ 65535 :=
  @users_port_iff all_events (.cli (socket_argv ["-P", "9080"])) (over_socket 9080) 7
    rfl (by decide) rfl

-- Without a port, the one in the memory is taken.
theorem no_port_accepted :
    ¬ ∀ (m : platform) (source : config_source) (P_flag : Int) (accepted : config),
      source.setup m P_flag = some accepted → config_validate m accepted = 0 →
      accepted.storage.type = .STORAGE_SOCKET → UsersPort m source accepted := by
  intro hclaim
  have hport := hclaim all_events (.cli (socket_argv [])) 7 (over_socket 7) rfl (by decide) rfl
  obtain ⟨given, p, ctx, hgiven, -⟩ := hport.supplied
  have hnone : config_source.port (.cli (socket_argv [])) = none := rfl
  rw [hnone] at hgiven
  cases hgiven

end HwpcSensor
