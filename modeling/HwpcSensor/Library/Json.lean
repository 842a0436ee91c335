import Mathlib.Data.List.Infix
import Mathlib.Logic.Basic

namespace HwpcSensor.Json

def word_char (c : Char) : Bool :=
  c.isLower || c.isDigit || c = '-' || c = '+' || c = '.' || c = 'E'

-- `null`, `true`, `false` and the numbers, as they are written.
structure word where
  text : List Char
  ne_nil : text ≠ []
  chars : ∀ c ∈ text, word_char c = true

inductive value where
  | word (w : word)
  | string (text : List Char)
  | array (elements : List value)
  | object (members : List (List Char × value))

inductive mark where
  | open_object
  | close_object
  | open_array
  | close_array
  | comma
  | colon
  deriving DecidableEq

def mark.char : mark → Char
  | open_object => '\x7b'
  | close_object => '\x7d'
  | open_array => '['
  | close_array => ']'
  | comma => ','
  | colon => ':'

inductive blank where
  | space
  | tab
  | newline
  | carriage_return

def blank.char : blank → Char
  | space => ' '
  | tab => '\t'
  | newline => '\n'
  | carriage_return => '\r'

inductive token where
  | mark (m : mark)
  | word (w : word)
  | string (text : List Char)
  | blank (b : blank)

def plain_char (c : Char) : Bool :=
  ('a' ≤ c && c ≤ 'z') || ('A' ≤ c && c ≤ 'Z') || ('0' ≤ c && c ≤ '9') ||
    c = '_' || c = '-' || c = '.' || c = '/'

-- How the characters of a string are written: a quote behind a backslash, a plain
-- character as it is, and any other as it is or escaped.
structure encoding where
  escape : Char → List Char
  quote : escape '"' = ['\\', '"']
  other : ∀ c, c ≠ '"' → escape c = [c] ∧ c ≠ '\\' ∨ ∃ more, escape c = '\\' :: more ∧ '"' ∉ more
  plain : ∀ c, plain_char c = true → escape c = [c]

def encoding.content (e : encoding) (text : List Char) : List Char :=
  text.flatMap e.escape

def encoding.written (e : encoding) : token → List Char
  | .mark m => [m.char]
  | .word w => w.text
  | .string text => '"' :: (e.content text ++ ['"'])
  | .blank b => [b.char]

def encoding.text (e : encoding) (tokens : List token) : List Char :=
  tokens.flatMap e.written

mutual

-- A value without blanks.
def tokens : value → List token
  | .word w => [.word w]
  | .string text => [.string text]
  | .array elements => .mark .open_array :: ((element_tokens elements).tail ++ [.mark .close_array])
  | .object members =>
      .mark .open_object :: ((member_tokens members).tail ++ [.mark .close_object])

-- With a comma in front of each.
def element_tokens : List value → List token
  | [] => []
  | v :: rest => .mark .comma :: (tokens v ++ element_tokens rest)

def member_tokens : List (List Char × value) → List token
  | [] => []
  | (key, v) :: rest =>
      .mark .comma :: .string key :: .mark .colon :: (tokens v ++ member_tokens rest)

end

mutual

-- All the members in a value, at any depth, in the order of the text.
def members : value → List (List Char × value)
  | .word _ => []
  | .string _ => []
  | .array elements => element_members elements
  | .object own => object_members own

def element_members : List value → List (List Char × value)
  | [] => []
  | v :: rest => members v ++ element_members rest

def object_members : List (List Char × value) → List (List Char × value)
  | [] => []
  | (key, v) :: rest => (key, v) :: (members v ++ object_members rest)

end

-- What is made of a key and the string under it, where they stand next to each other.
def pair_at {α : Type} (pick : List Char → List Char → Option α) : List token → Option α
  | .string key :: .mark .colon :: .string text :: _ => pick key text
  | _ => none

def first_pair {α : Type} (pick : List Char → List Char → Option α) : List token → Option α
  | [] => none
  | t :: rest => (pair_at pick (t :: rest)).or (first_pair pick rest)

def string_member {α : Type} (pick : List Char → List Char → Option α) :
    List Char × value → Option α
  | (key, .string text) => pick key text
  | _ => none

def token.solid : token → Bool
  | .blank _ => false
  | _ => true

-- No blank stands next to a colon.
def Tight (tokens : List token) : Prop :=
  tokens.IsChain fun a b =>
    (a = .mark .colon → b.solid = true) ∧ (b = .mark .colon → a.solid = true)

section Members

variable {α : Type} {pick : List Char → List Char → Option α}

-- The token that comes next is no colon.
def Closed (rest : List token) : Prop :=
  ∀ more, rest ≠ .mark .colon :: more

theorem pair_at_closed {text : List Char} {rest : List token} (h : Closed rest) :
    pair_at pick (.string text :: rest) = none := by
  unfold pair_at
  split
  next heq => exact absurd (List.cons.inj heq).2 (h _)
  next => rfl

theorem first_pair_string {text : List Char} {rest : List token} (h : Closed rest) :
    first_pair pick (.string text :: rest) = first_pair pick rest := by
  rw [first_pair, pair_at_closed h, Option.none_or]

-- The comma in front of the first element or member does not matter.

theorem first_pair_elements_tail (elements : List value) (rest : List token) :
    first_pair pick ((element_tokens elements).tail ++ rest) =
      first_pair pick (element_tokens elements ++ rest) := by
  cases elements <;> rfl

theorem first_pair_members_tail (own : List (List Char × value)) (rest : List token) :
    first_pair pick ((member_tokens own).tail ++ rest) =
      first_pair pick (member_tokens own ++ rest) := by
  cases own <;> rfl

theorem closed_elements (elements : List value) {rest : List token} (h : Closed rest) :
    Closed (element_tokens elements ++ rest) := by
  cases elements with
  | nil => exact h
  | cons v elements => exact fun more heq => by cases heq

theorem closed_members (own : List (List Char × value)) {rest : List token} (h : Closed rest) :
    Closed (member_tokens own ++ rest) := by
  cases own with
  | nil => exact h
  | cons member own => exact fun more heq => by cases heq

theorem closed_mark {m : mark} (h : m ≠ .colon) (rest : List token) :
    Closed (.mark m :: rest) := by
  rintro more ⟨⟩
  exact h rfl

theorem pair_at_member (key : List Char) (v : value) (rest : List token) :
    pair_at pick (.string key :: .mark .colon :: (tokens v ++ rest)) =
      string_member pick (key, v) := by
  cases v <;> rfl

theorem findSome?_cons_or {β : Type} (f : β → Option α) (x : β) (l : List β) :
    (x :: l).findSome? f = (f x).or (l.findSome? f) := by
  rw [List.findSome?_cons]
  cases f x <;> rfl

mutual

-- The pairs are the members with a string, in the order of the members.
theorem first_pair_tokens : ∀ (v : value) {rest : List token}, Closed rest →
    first_pair pick (tokens v ++ rest) =
      ((members v).findSome? (string_member pick)).or (first_pair pick rest)
  | .word w, rest, _ => rfl
  | .string text, rest, h => first_pair_string h
  | .array elements, rest, h => by
      have hclosed : Closed (.mark .close_array :: rest) := closed_mark (by decide) rest
      have hinside := first_pair_elements elements hclosed
      rw [tokens, members, List.cons_append, List.append_assoc]
      exact (first_pair_elements_tail elements _).trans hinside
  | .object own, rest, h => by
      have hclosed : Closed (.mark .close_object :: rest) := closed_mark (by decide) rest
      have hinside := first_pair_members own hclosed
      rw [tokens, members, List.cons_append, List.append_assoc]
      exact (first_pair_members_tail own _).trans hinside

theorem first_pair_elements : ∀ (elements : List value) {rest : List token}, Closed rest →
    first_pair pick (element_tokens elements ++ rest) =
      ((element_members elements).findSome? (string_member pick)).or (first_pair pick rest)
  | [], rest, _ => rfl
  | v :: elements, rest, h => by
      have hfirst := first_pair_tokens v (closed_elements elements h)
      rw [first_pair_elements elements h] at hfirst
      rw [element_members, List.findSome?_append, Option.or_assoc, ← hfirst, element_tokens,
        List.cons_append, List.append_assoc]
      rfl

theorem first_pair_members : ∀ (own : List (List Char × value)) {rest : List token}, Closed rest →
    first_pair pick (member_tokens own ++ rest) =
      ((object_members own).findSome? (string_member pick)).or (first_pair pick rest)
  | [], rest, _ => rfl
  | (key, v) :: own, rest, h => by
      have hfirst := first_pair_tokens v (closed_members own h)
      rw [first_pair_members own h] at hfirst
      rw [object_members, findSome?_cons_or, List.findSome?_append, Option.or_assoc,
        Option.or_assoc, ← hfirst, ← pair_at_member key v (member_tokens own ++ rest),
        member_tokens, List.cons_append, List.cons_append, List.cons_append, List.append_assoc]
      rfl

end

theorem first_pair_value (v : value) :
    first_pair pick (tokens v) = (members v).findSome? (string_member pick) := by
  have hclosed : Closed [] := fun more heq => by cases heq
  have hpairs := @first_pair_tokens _ pick v [] hclosed
  rwa [List.append_nil, first_pair, Option.or_none] at hpairs

theorem closed_filter {b : blank} {rest : List token} (h : Tight (.blank b :: rest)) :
    Closed (rest.filter token.solid) := by
  induction rest generalizing b with
  | nil => exact fun more heq => by cases heq
  | cons t rest ih =>
      have hnext := (List.isChain_cons_cons.mp h)
      cases t with
      | mark m =>
          refine closed_mark (fun hcolon => ?_) _
          subst hcolon
          exact absurd (hnext.1.2 rfl) (by simp [token.solid])
      | blank b' => exact ih hnext.2
      | _ => exact fun more heq => by cases heq

theorem pair_at_filter {key : List Char} {rest : List token} (h : Tight rest) :
    pair_at pick (.string key :: rest.filter token.solid) = pair_at pick (.string key :: rest) := by
  cases rest with
  | nil => rfl
  | cons next rest =>
      cases next with
      | mark m =>
          cases rest with
          | nil => rfl
          | cons last rest =>
              cases last with
              | blank b =>
                  have hcolon := (List.isChain_cons_cons.mp h).1.1
                  cases m <;> first | rfl | exact absurd (hcolon rfl) (by simp [token.solid])
              | _ => cases m <;> rfl
      | blank b =>
          have hclosed : Closed (rest.filter token.solid) := closed_filter h
          exact pair_at_closed hclosed
      | _ => rfl

-- Blanks make no difference.
theorem first_pair_filter {ts : List token} (h : Tight ts) :
    first_pair pick (ts.filter token.solid) = first_pair pick ts := by
  induction ts with
  | nil => rfl
  | cons t rest ih =>
      have hrest := ih h.of_cons
      cases t with
      | string key =>
          have hfilter : (token.string key :: rest).filter token.solid =
              .string key :: rest.filter token.solid := rfl
          rw [hfilter, first_pair, first_pair, pair_at_filter h.of_cons, hrest]
      | _ => exact hrest

end Members

section Text

variable {e : encoding}

theorem content_cons (c : Char) (text : List Char) :
    e.content (c :: text) = e.escape c ++ e.content text :=
  List.flatMap_cons

theorem escape_cases (e : encoding) (c : Char) :
    (e.escape c = [c] ∧ c ≠ '"' ∧ c ≠ '\\') ∨ ∃ more, e.escape c = '\\' :: more := by
  by_cases hquote : c = '"'
  · exact Or.inr ⟨['"'], hquote ▸ e.quote⟩
  · rcases e.other c hquote with ⟨hescape, hbackslash⟩ | ⟨more, hescape, -⟩
    · exact Or.inl ⟨hescape, hquote, hbackslash⟩
    · exact Or.inr ⟨more, hescape⟩

theorem quote_notMem_escape {c : Char} (h : c ≠ '"') : ∀ d ∈ e.escape c, d ≠ '"' := by
  rintro _ hmem rfl
  rcases e.other c h with ⟨hescape, -⟩ | ⟨more, hescape, hmore⟩
  · rw [hescape] at hmem
    exact h (List.mem_singleton.mp hmem).symm
  · rw [hescape] at hmem
    rcases List.mem_cons.mp hmem with hbackslash | hmem
    · exact absurd hbackslash (by decide)
    · exact hmore hmem

theorem content_plain {text : List Char} (h : ∀ c ∈ text, plain_char c = true) :
    e.content text = text := by
  induction text with
  | nil => rfl
  | cons c text ih =>
      obtain ⟨hc, hrest⟩ := List.forall_mem_cons.mp h
      rw [content_cons, e.plain c hc, ih hrest]
      rfl

-- Up to the next quote, a content that reads as plain characters is these.
theorem content_eq_iff {text plain rest rest' : List Char}
    (hplain : ∀ c ∈ plain, plain_char c = true) :
    e.content text ++ '"' :: rest = plain ++ '"' :: rest' ↔ text = plain ∧ rest = rest' := by
  have hquote : ∀ c, plain_char c = true → c ≠ '"' ∧ c ≠ '\\' := fun c hc =>
    ⟨fun heq => absurd (heq ▸ hc) (by decide), fun heq => absurd (heq ▸ hc) (by decide)⟩
  constructor
  · intro h
    induction text generalizing plain with
    | nil =>
        cases plain with
        | nil => exact ⟨rfl, (List.cons.inj h).2⟩
        | cons c plain =>
            exact absurd (List.cons.inj h).1.symm (hquote c (hplain c List.mem_cons_self)).1
    | cons c text ih =>
        rw [content_cons, List.append_assoc] at h
        rcases escape_cases e c with ⟨hescape, hne, -⟩ | ⟨more, hescape⟩
        · rw [hescape] at h
          cases plain with
          | nil => exact absurd (List.cons.inj h).1 hne
          | cons d plain =>
              obtain ⟨rfl, htail⟩ := List.cons.inj h
              obtain ⟨rfl, rfl⟩ := ih (List.forall_mem_cons.mp hplain).2 htail
              exact ⟨rfl, rfl⟩
        · rw [hescape] at h
          cases plain with
          | nil => exact absurd (List.cons.inj h).1 (by decide)
          | cons d plain =>
              exact absurd (List.cons.inj h).1.symm (hquote d (hplain d List.mem_cons_self)).2
  · rintro ⟨rfl, rfl⟩
    rw [content_plain hplain]

theorem text_cons (t : token) (ts : List token) : e.text (t :: ts) = e.written t ++ e.text ts :=
  List.flatMap_cons

-- The first character of a text tells what it starts with.
theorem text_cons_cases {ts : List token} {c : Char} {rest : List Char}
    (h : e.text ts = c :: rest) :
    (∃ m more, ts = .mark m :: more ∧ c = m.char ∧ rest = e.text more) ∨
      (∃ text more, ts = .string text :: more ∧ c = '"' ∧
        rest = e.content text ++ '"' :: e.text more) ∨
      word_char c = true ∨ ∃ b : blank, c = b.char := by
  cases ts with
  | nil => cases h
  | cons t more =>
      rw [text_cons] at h
      cases t with
      | mark m =>
          obtain ⟨rfl, rfl⟩ := List.cons.inj h
          exact Or.inl ⟨m, more, rfl, rfl, rfl⟩
      | string text =>
          obtain ⟨rfl, rfl⟩ := List.cons.inj h
          exact Or.inr (Or.inl ⟨text, more, rfl, rfl, by simp⟩)
      | word w =>
          obtain ⟨d, tail, hw⟩ := List.exists_cons_of_ne_nil w.ne_nil
          have hword : e.written (.word w) = d :: tail := hw
          rw [hword] at h
          obtain ⟨rfl, -⟩ := List.cons.inj h
          exact Or.inr (Or.inr (Or.inl (w.chars d (hw ▸ List.mem_cons_self))))
      | blank b =>
          obtain ⟨rfl, -⟩ := List.cons.inj h
          exact Or.inr (Or.inr (Or.inr ⟨b, rfl⟩))

theorem text_eq_colon {ts : List token} {rest : List Char} (h : e.text ts = ':' :: rest) :
    ∃ more, ts = .mark .colon :: more ∧ rest = e.text more := by
  rcases text_cons_cases h with ⟨m, more, rfl, hm, hrest⟩ | ⟨_, _, _, hc, _⟩ | hword | ⟨b, hb⟩
  · cases m with
    | colon => exact ⟨more, rfl, hrest⟩
    | _ => exact absurd hm (by decide)
  · exact absurd hc (by decide)
  · exact absurd hword (by decide)
  · cases b <;> exact absurd hb (by decide)

theorem text_eq_quote {ts : List token} {rest : List Char} (h : e.text ts = '"' :: rest) :
    ∃ text more, ts = .string text :: more ∧ rest = e.content text ++ '"' :: e.text more := by
  rcases text_cons_cases h with ⟨m, _, _, hm, _⟩ | ⟨text, more, hts, _, hrest⟩ | hword | ⟨b, hb⟩
  · cases m <;> exact absurd hm (by decide)
  · exact ⟨text, more, hts, hrest⟩
  · exact absurd hword (by decide)
  · cases b <;> exact absurd hb (by decide)

-- Only strings have quotes.
theorem quote_notMem_written {t : token} (h : ∀ text, t ≠ .string text) :
    ∀ c ∈ e.written t, c ≠ '"' := by
  cases t with
  | mark m =>
      intro c hc
      rw [List.mem_singleton.mp hc]
      cases m <;> decide
  | string text => exact absurd rfl (h text)
  | word w =>
      rintro c hc rfl
      exact absurd (w.chars _ hc) (by decide)
  | blank b =>
      intro c hc
      rw [List.mem_singleton.mp hc]
      cases b <;> decide

end Text

end HwpcSensor.Json
