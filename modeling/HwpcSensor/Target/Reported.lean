import HwpcSensor.Library.Json
import HwpcSensor.Library.Terminated
import HwpcSensor.Perf.Actor.Names
import HwpcSensor.Target.Patterns

namespace HwpcSensor

open Interaction Json Perf PosixRegex Regex Terminated

-- What the pattern reads at a place of the file.
def ReadsName (start name : List Char) : Prop :=
  ∃ rest, start = "\"Name\":\"/".toList ++ (name ++ '"' :: rest) ∧ ContainerName name

-- What it wants behind the key.
def ReadsValue (start name : List Char) : Prop :=
  ∃ rest, start = ":\"/".toList ++ (name ++ '"' :: rest) ∧ ContainerName name

def EndsNamed (text : List Char) : Prop :=
  "\"Name".toList <:+ text

instance : DecidablePred EndsNamed := fun text =>
  inferInstanceAs (Decidable ("\"Name".toList <:+ text))

def name_of : List Char → Option (List Char)
  | '/' :: name => if ContainerName name then some name else none
  | _ => none

-- A quote in a key is taken for the one in front of it.
def name_at (key text : List Char) : Option (List Char) :=
  if EndsNamed ('"' :: key) then name_of text else none

section Pattern

variable {name : List Char}

theorem plain_of_name_char {c : Char} (h : name_char c = true) : plain_char c = true := by
  simp only [name_char, plain_char, Bool.or_eq_true] at h ⊢
  tauto

theorem name_char_of_pod_start {c : Char} (h : pod_start c = true) : name_char c = true := by
  simp only [pod_start, name_char, Bool.or_eq_true] at h ⊢
  tauto

theorem ContainerName.plain (h : ContainerName name) : ∀ c ∈ name, plain_char c = true := by
  obtain ⟨x, y, more, rfl, hstart, hmore⟩ := container_name_iff.mp h
  have hchars : ∀ c ∈ x :: y :: more, name_char c = true :=
    List.forall_mem_cons.mpr ⟨name_char_of_pod_start hstart, hmore⟩
  exact fun c hc => plain_of_name_char (hchars c hc)

theorem ContainerName.quote_notMem (h : ContainerName name) : '"' ∉ name :=
  fun hmem => absurd (h.plain _ hmem) (by decide)

theorem container_name_reads : container_name_regex.Captured 1 ReadsName := by
  refine ⟨fun start => ⟨?_, ?_⟩, fun s rest c hmatches => ?_, ?_⟩
  · rintro ⟨_, rest, c, rfl, hmatches⟩
    obtain ⟨name, rfl, hname, -⟩ := container_name_matches.mp hmatches
    exact ⟨name, rest, by simp, hname⟩
  · rintro ⟨name, rest, rfl, hname⟩
    exact ⟨_, rest, _, by simp, container_name_matches.mpr ⟨name, rfl, hname, rfl⟩⟩
  · obtain ⟨name, rfl, hname, rfl⟩ := container_name_matches.mp hmatches
    exact ⟨name, ⟨rest, by simp, hname⟩, rfl⟩
  · rintro start name name' ⟨rest, rfl, hname⟩ ⟨rest', heq, hname'⟩
    exact (peel hname.quote_notMem hname'.quote_notMem (List.append_cancel_left heq)).1

end Pattern

section Scan

variable {e : encoding} {a : Char} {s text key name : List Char} {ts : List token}

-- The search goes on behind what is no quote.

theorem first_skip (h : a ≠ '"') :
    First ReadsName (a :: text) name ↔ First ReadsName text name := by
  have hnone : ∀ found, ¬ReadsName (a :: text) found := by
    rintro found ⟨rest, heq, -⟩
    exact h (List.cons.inj heq).1
  rw [first_cons_iff, or_iff_right (hnone name), and_iff_right (fun ⟨found, h⟩ => hnone found h)]

theorem first_skip_all (h : ∀ c ∈ s, c ≠ '"') :
    First ReadsName (s ++ text) name ↔ First ReadsName text name := by
  induction s with
  | nil => rfl
  | cons c s ih =>
      obtain ⟨hc, hs⟩ := List.forall_mem_cons.mp h
      exact (first_skip hc).trans (ih hs)

-- No key starts behind a quote that ends a string.
theorem first_closing :
    First ReadsName ('"' :: e.text ts) name ↔ First ReadsName (e.text ts) name := by
  have hnone : ∀ found, ¬ReadsName ('"' :: e.text ts) found := by
    rintro found ⟨rest, heq, -⟩
    rcases text_cons_cases (List.cons.inj heq).2 with ⟨m, _, _, hm, _⟩ | ⟨_, _, _, hc, _⟩ |
      hword | ⟨b, hb⟩
    · cases m <;> exact absurd hm (by decide)
    · exact absurd hc (by decide)
    · exact absurd hword (by decide)
    · cases b <;> exact absurd hb (by decide)
  rw [first_cons_iff, or_iff_right (hnone name), and_iff_right (fun ⟨found, h⟩ => hnone found h)]

theorem reads_quote_iff {rest : List Char} :
    ReadsName ('"' :: (e.content key ++ '"' :: rest)) name ↔
      key = "Name".toList ∧ ReadsValue rest name := by
  have hkey : ∀ c ∈ "Name".toList, plain_char c = true :=
    List.all_eq_true.mp (by decide)
  constructor
  · rintro ⟨more, heq, hname⟩
    obtain ⟨rfl, rfl⟩ := (content_eq_iff hkey).mp (List.cons.inj heq).2
    exact ⟨rfl, more, rfl, hname⟩
  · rintro ⟨rfl, more, rfl, hname⟩
    exact ⟨more, by rw [content_plain hkey]; rfl, hname⟩

theorem ends_named_cons_iff :
    EndsNamed ('"' :: key) ↔ key = "Name".toList ∨ EndsNamed key := by
  have hquote : "\"Name".toList = '"' :: key ↔ key = "Name".toList :=
    ⟨fun h => (List.cons.inj h).2.symm, fun h => h ▸ rfl⟩
  rw [EndsNamed, List.suffix_cons_iff, hquote]
  rfl

theorem ends_named_cons_of_ne (h : a ≠ '"') : EndsNamed (a :: key) ↔ EndsNamed key := by
  rw [EndsNamed, List.suffix_cons_iff, or_iff_right]
  · rfl
  · exact fun heq => h (List.cons.inj heq).1.symm

-- A quote in front of the rest of a string, when it is known what is found behind it.
theorem first_quote_iff
    (h : First ReadsName (e.content key ++ '"' :: e.text ts) name ↔
      (EndsNamed key ∧ ReadsValue (e.text ts) name) ∨
        (¬(EndsNamed key ∧ ∃ found, ReadsValue (e.text ts) found) ∧
          First ReadsName (e.text ts) name)) :
    First ReadsName ('"' :: (e.content key ++ '"' :: e.text ts)) name ↔
      (EndsNamed ('"' :: key) ∧ ReadsValue (e.text ts) name) ∨
        (¬(EndsNamed ('"' :: key) ∧ ∃ found, ReadsValue (e.text ts) found) ∧
          First ReadsName (e.text ts) name) := by
  rw [first_cons_iff, h]
  simp only [reads_quote_iff, exists_and_left, ends_named_cons_iff]
  by_cases hkey : key = "Name".toList
  · by_cases hvalue : ∃ found, ReadsValue (e.text ts) found
    · simp only [hkey, hvalue, true_or, true_and, not_true_eq_false, false_and, or_false]
    · have hnone : ¬ReadsValue (e.text ts) name := fun h => hvalue ⟨name, h⟩
      simp only [hkey, hvalue, hnone, and_false, false_or, not_false_eq_true, true_and]
  · simp only [hkey, false_and, false_or, not_false_eq_true, true_and]

theorem first_content_iff :
    First ReadsName (e.content key ++ '"' :: e.text ts) name ↔
      (EndsNamed key ∧ ReadsValue (e.text ts) name) ∨
        (¬(EndsNamed key ∧ ∃ found, ReadsValue (e.text ts) found) ∧
          First ReadsName (e.text ts) name) := by
  induction key with
  | nil =>
      have hnil : ¬EndsNamed [] := by decide
      rw [or_iff_right fun h => hnil h.1, and_iff_right fun h => hnil h.1]
      exact first_closing
  | cons c key ih =>
      rw [content_cons, List.append_assoc]
      by_cases hc : c = '"'
      · subst hc
        have hquote := first_quote_iff ih
        rw [e.quote, ← hquote]
        exact first_skip (by decide)
      · rw [first_skip_all (quote_notMem_escape hc), ih, ends_named_cons_of_ne hc]

theorem name_of_eq_some_iff :
    name_of text = some name ↔ text = '/' :: name ∧ ContainerName name := by
  unfold name_of
  split
  next found =>
    rw [Option.ite_none_right_eq_some, Option.some.injEq]
    constructor
    · rintro ⟨hname, rfl⟩
      exact ⟨rfl, hname⟩
    · rintro ⟨heq, hname⟩
      obtain rfl := (List.cons.inj heq).2
      exact ⟨hname, rfl⟩
  next hslash =>
    exact ⟨fun h => absurd h (by simp), fun h => absurd h.1 (hslash name)⟩

-- A string is the value of a key where it stands right behind the colon.
theorem reads_value_iff :
    ReadsValue (e.text ts) name ↔
      ∃ text rest, ts = .mark .colon :: .string text :: rest ∧ name_of text = some name := by
  simp only [name_of_eq_some_iff]
  constructor
  · rintro ⟨rest, heq, hname⟩
    obtain ⟨after, rfl, hafter⟩ := text_eq_colon heq
    obtain ⟨text, more, rfl, hcontent⟩ := text_eq_quote hafter.symm
    have hplain : ∀ c ∈ '/' :: name, plain_char c = true :=
      List.forall_mem_cons.mpr ⟨by decide, hname.plain⟩
    obtain ⟨rfl, -⟩ := (content_eq_iff hplain).mp hcontent.symm
    exact ⟨_, more, rfl, rfl, hname⟩
  · rintro ⟨_, rest, rfl, rfl, hname⟩
    have hplain : ∀ c ∈ '/' :: name, plain_char c = true :=
      List.forall_mem_cons.mpr ⟨by decide, hname.plain⟩
    refine ⟨e.text rest, ?_, hname⟩
    rw [text_cons, text_cons, encoding.written, encoding.written, content_plain hplain]
    simp [mark.char]

theorem pair_at_eq_some_iff :
    pair_at name_at (.string key :: ts) = some name ↔
      EndsNamed ('"' :: key) ∧ ReadsValue (e.text ts) name := by
  rw [reads_value_iff]
  constructor
  · intro h
    unfold pair_at at h
    split at h
    next heq =>
      obtain ⟨hkey, rfl⟩ := List.cons.inj heq
      obtain rfl := token.string.inj hkey
      obtain ⟨hnamed, hname⟩ := Option.ite_none_right_eq_some.mp h
      exact ⟨hnamed, _, _, rfl, hname⟩
    next => cases h
  · rintro ⟨hnamed, text, rest, rfl, hname⟩
    exact Option.ite_none_right_eq_some.mpr ⟨hnamed, hname⟩

-- What the pattern reads in a text is what the first pair has.
theorem first_text_iff :
    First ReadsName (e.text ts) name ↔ first_pair name_at ts = some name := by
  induction ts with
  | nil =>
      rw [encoding.text, List.flatMap_nil, first_nil_iff]
      constructor
      · rintro ⟨rest, heq, -⟩
        cases heq
      · intro h
        cases h
  | cons t ts ih =>
      rw [text_cons]
      cases t with
      | string key =>
          have hwritten : e.written (.string key) ++ e.text ts =
              '"' :: (e.content key ++ '"' :: e.text ts) := by
            simp [encoding.written]
          have hnone : pair_at name_at (.string key :: ts) = none ↔
              ¬(EndsNamed ('"' :: key) ∧ ∃ found, ReadsValue (e.text ts) found) := by
            simp only [← exists_and_left, ← pair_at_eq_some_iff]
            exact Option.eq_none_iff_forall_ne_some.trans not_exists.symm
          rw [hwritten, first_quote_iff first_content_iff, first_pair, Option.or_eq_some_iff,
            pair_at_eq_some_iff, hnone, ih]
      | _ =>
          rw [first_skip_all (quote_notMem_written (by simp)), ih]
          rfl

end Scan

-- Reading the file does not always succeed, but no other name is returned.
def ResolvesTo (files : String → Option (List String)) (resolve : program (Option String))
    (name : String) : Prop :=
  (∃ s', Exec (host_step files) resolve nothing_sent (some name) s') ∧
    ∀ s other s', Exec (host_step files) resolve s (some other) s' → other = name

-- The name that a document gives its container.
def NamesContainer (document : List (List Char × value)) (name : String) : Prop :=
  ("Name".toList, value.string ('/' :: name.toList)) ∈ document ∧ ContainerName name.toList

def ReportsOwnName (files : String → Option (List String)) (resolve : program (Option String))
    (document : List (List Char × value)) : Prop :=
  ∀ name, NamesContainer document name → ResolvesTo files resolve name

-- Of the members at any depth that the pattern takes for a name, the first one has
-- the name of the container.
def NameFirst (document : List (List Char × value)) : Prop :=
  ∀ name, NamesContainer document name →
    (members (.object document)).findSome? (string_member name_at) = some name.toList

-- A single line, with no blank next to a colon.
def Serialised (e : encoding) (document : List (List Char × value)) (line : String) : Prop :=
  ∃ ts, line.toList = e.text ts ∧ ts.filter token.solid = tokens (.object document) ∧ Tight ts

section Document

variable {e : encoding} {document : List (List Char × value)} {line id name : String}
  {files : String → Option (List String)} {t : target} {pattern : String} {group : Nat}

theorem regexec_name_iff (h : Serialised e document line) :
    regexec CONTAINER_NAME_REGEX 1 line = some name ↔
      (members (.object document)).findSome? (string_member name_at) = some name.toList := by
  obtain ⟨ts, hline, hsolid, htight⟩ := h
  rw [regexec_eq_some_iff comp_container_name container_name_reads, hline, first_text_iff,
    ← first_pair_filter htight, hsolid, first_pair_value]

theorem resolves_to_iff (hid : t.cgroup_path.bind (regexec pattern group) = some id) :
    ResolvesTo files (resolve_container_name regexec pattern group t) name ↔
      configured_name files id = some name := by
  have hsound : ∀ {s s' other}, Exec (host_step files)
      (resolve_container_name regexec pattern group t) s (some other) s' →
        configured_name files id = some other := by
    intro s s' other h
    have hresult := (resolve_container_name_sound h).resolve_left (by simp)
    rw [hid, Option.bind_some] at hresult
    exact hresult.symm
  constructor
  · rintro ⟨⟨s', h⟩, -⟩
    exact hsound h
  · intro hname
    refine ⟨resolve_container_name_complete (Or.inr ?_), fun s other s' h => ?_⟩
    · rw [hid, Option.bind_some, hname]
    · exact Option.some.inj ((hsound h).symm.trans hname)

theorem reports_own_name_iff {more : List String}
    (hid : t.cgroup_path.bind (regexec pattern group) = some id)
    (hfile : files (container_config_path id) = some (line :: more))
    (hline : Serialised e document line) :
    ReportsOwnName files (resolve_container_name regexec pattern group t) document ↔
      NameFirst document := by
  have hconfigured : configured_name files id = regexec CONTAINER_NAME_REGEX 1 line := by
    rw [configured_name, hfile]
    rfl
  refine forall₂_congr fun name _ => ?_
  rw [resolves_to_iff hid, hconfigured, regexec_name_iff hline]

end Document

-- A container is reported under its own name unless a member in front of that name
-- reads as one.
theorem reported_name_own_iff {e : encoding} {document : List (List Char × value)}
    {line id : String} {more : List String} {files : String → Option (List String)}
    (hfile : files (container_config_path id) = some (line :: more))
    (hline : Serialised e document line) :
    (∀ t : target, t.cgroup_path.bind (regexec DOCKER_CONTAINER_ID_REGEX 1) = some id →
      (ReportsOwnName files (target_docker_resolve_name regexec t) document ↔
        NameFirst document)) ∧
    (∀ t : target, t.cgroup_path.bind (regexec KUBERNETES_CONTAINER_ID_REGEX 3) = some id →
      (ReportsOwnName files (target_kubernetes_resolve_name regexec t) document ↔
        NameFirst document)) :=
  ⟨fun _ hid => reports_own_name_iff hid hfile hline,
    fun _ hid => reports_own_name_iff hid hfile hline⟩

-- Other control characters than the ends of lines and tabs, what browsers would take
-- for tags and the separators of lines and paragraphs are written as numbers.
def docker_escape (c : Char) : List Char :=
  if c = '"' ∨ c = '\\' then ['\\', c]
  else if c = '\n' then ['\\', 'n']
  else if c = '\r' then ['\\', 'r']
  else if c = '\t' then ['\\', 't']
  else if c.toNat < 32 ∨ c ∈ ['<', '>', '&', '\u2028', '\u2029'] then
    ['\\', 'u', Nat.digitChar (c.toNat / 4096), Nat.digitChar (c.toNat / 256 % 16),
      Nat.digitChar (c.toNat / 16 % 16), Nat.digitChar (c.toNat % 16)]
  else [c]

theorem plain_char_ge {c : Char} (h : plain_char c = true) : 32 ≤ c.toNat := by
  simp only [plain_char, Bool.or_eq_true, Bool.and_eq_true, decide_eq_true_eq, Char.le_def,
    UInt32.le_iff_toNat_le] at h
  have hvalues : 'A'.val.toNat = 65 ∧ 'a'.val.toNat = 97 ∧ '0'.val.toNat = 48 := by decide
  rw [Char.toNat]
  rcases h with (((((⟨h, -⟩ | ⟨h, -⟩) | ⟨h, -⟩) | rfl) | rfl) | rfl) | rfl
  · omega
  · omega
  · omega
  all_goals decide

def docker_encoding : encoding where
  escape := docker_escape
  quote := by decide
  other c hquote := by
    unfold docker_escape
    split_ifs with hbackslash
    · exact Or.inr ⟨[c], rfl, fun hmem => hquote (List.mem_singleton.mp hmem).symm⟩
    · exact Or.inr ⟨_, rfl, by simp⟩
    · exact Or.inr ⟨_, rfl, by simp⟩
    · exact Or.inr ⟨_, rfl, by simp⟩
    · exact Or.inr ⟨_, rfl, by simp⟩
    · exact Or.inl ⟨rfl, fun heq => hbackslash (Or.inr heq)⟩
  plain c hplain := by
    unfold docker_escape
    rw [if_neg, if_neg, if_neg, if_neg, if_neg]
    · rintro (hcontrol | hmem)
      · exact absurd (plain_char_ge hplain) (by omega)
      · simp only [List.mem_cons, List.not_mem_nil, or_false] at hmem
        rcases hmem with rfl | rfl | rfl | rfl | rfl <;> exact absurd hplain (by decide)
    · rintro rfl
      exact absurd hplain (by decide)
    · rintro rfl
      exact absurd hplain (by decide)
    · rintro rfl
      exact absurd hplain (by decide)
    · rintro (rfl | rfl) <;> exact absurd hplain (by decide)

def web_id : String := "0123456789abcdef0123456789abcdef0123456789abcdef0123456789abcdef"

-- The one container of a host, with this configuration file.
def web_files (line : String) : String → Option (List String) := fun path =>
  if path = container_config_path web_id then some [line] else none

def web_docker : target :=
  target_create .DOCKER "/sys/fs/cgroup/perf_event"
    ("/sys/fs/cgroup/perf_event/docker/" ++ web_id)

def web_kubernetes : target :=
  target_create .KUBERNETES "/sys/fs/cgroup/perf_event"
    ("/sys/fs/cgroup/perf_event/kubepods/pod12/" ++ web_id)

-- One label stands in front of the name.
def web_document (label : String) : List (List Char × value) :=
  [("Config".toList, .object [("Labels".toList, .object [(label.toList, .string "/db".toList)])]),
    ("Name".toList, .string "/web".toList)]

def web_line (label : String) : String :=
  "\x7b\"Config\":\x7b\"Labels\":\x7b\"" ++ label ++
    "\":\"/db\"\x7d\x7d,\"Name\":\"/web\"\x7d\n"

-- The tokens of the document, and the end of the line.
def web_tokens (label : String) : List token :=
  tokens (.object (web_document label)) ++ [.blank .newline]

theorem web_serialised {label : String}
    (hline : (web_line label).toList = docker_encoding.text (web_tokens label)) :
    Serialised docker_encoding (web_document label) (web_line label) := by
  refine ⟨web_tokens label, hline, rfl, ?_⟩
  simp [web_tokens, web_document, tokens, member_tokens, Tight, token.solid]

theorem web_named {label name : String} (h : NamesContainer (web_document label) name) :
    name = "web" := by
  obtain ⟨hmem, -⟩ := h
  simp only [web_document, List.mem_cons, Prod.mk.injEq, List.not_mem_nil, or_false] at hmem
  rcases hmem with ⟨hkey, -⟩ | ⟨-, hvalue⟩
  · exact absurd hkey (by decide)
  · exact String.toList_inj.mp (List.cons.inj (value.string.inj hvalue)).2

theorem reported_name_own_iff_web :
    ReportsOwnName (web_files (web_line "tier"))
        (target_docker_resolve_name regexec web_docker) (web_document "tier") ∧
      ReportsOwnName (web_files (web_line "tier"))
        (target_kubernetes_resolve_name regexec web_kubernetes) (web_document "tier") := by
  have hfirst : NameFirst (web_document "tier") := fun name hname => web_named hname ▸ by decide
  have hfile : web_files (web_line "tier") (container_config_path web_id) =
      some [web_line "tier"] := if_pos rfl
  obtain ⟨hdocker, hkubernetes⟩ := reported_name_own_iff hfile (web_serialised (by decide +kernel))
  exact ⟨(hdocker web_docker (by decide +kernel)).mpr hfirst,
    (hkubernetes web_kubernetes (by decide +kernel)).mpr hfirst⟩

theorem label_reported_as_name :
    ¬∀ (e : encoding) (document : List (List Char × value)) (line id : String)
      (more : List String) (files : String → Option (List String)),
      files (container_config_path id) = some (line :: more) → Serialised e document line →
      (∀ t : target, t.cgroup_path.bind (regexec DOCKER_CONTAINER_ID_REGEX 1) = some id →
        ReportsOwnName files (target_docker_resolve_name regexec t) document) ∧
      (∀ t : target, t.cgroup_path.bind (regexec KUBERNETES_CONTAINER_ID_REGEX 3) = some id →
        ReportsOwnName files (target_kubernetes_resolve_name regexec t) document) := by
  intro hclaim
  have hserialised : Serialised docker_encoding (web_document "Name") (web_line "Name") :=
    web_serialised (by decide +kernel)
  have hid : web_docker.cgroup_path.bind (regexec DOCKER_CONTAINER_ID_REGEX 1) = some web_id := by
    decide +kernel
  obtain ⟨hdocker, -⟩ := hclaim docker_encoding _ _ web_id [] (web_files (web_line "Name"))
    (if_pos rfl) hserialised
  have hreturns := hdocker web_docker hid "web" ⟨by simp [web_document], by decide⟩
  have hname := (resolves_to_iff hid).mp hreturns
  rw [configured_name, web_files, if_pos rfl] at hname
  exact absurd ((regexec_name_iff hserialised).mp hname) (by decide)

end HwpcSensor
