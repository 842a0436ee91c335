import Mathlib.Data.List.Infix
import Mathlib.Data.List.Sort

namespace HwpcSensor.PosixRegex

-- Extended regular expressions on single lines: bracket expressions with bounds,
-- alternatives, numbered groups and `$`, which matches in front of a newline too.
inductive Regex where
  | empty
  | set (accept : Char → Bool) (least : Nat) (most : Option Nat)
  | line_end
  | seq (first second : Regex)
  | alt (left right : Regex)
  | group (index : Nat) (body : Regex)

-- The texts of the groups, by their numbers.
abbrev Captures := List (Nat × List Char)

namespace Regex

-- The expression matches a text that stands in front of `rest`.
def Matches : Regex → List Char → List Char → Captures → Prop
  | empty, s, _, c => s = [] ∧ c = []
  | set accept least most, s, _, c =>
      (∀ x ∈ s, accept x = true) ∧ least ≤ s.length ∧ (∀ n ∈ most, s.length ≤ n) ∧ c = []
  | line_end, s, rest, c => s = [] ∧ (rest = [] ∨ ∃ more, rest = '\n' :: more) ∧ c = []
  | seq first second, s, rest, c => ∃ s₁ s₂ c₁ c₂, s = s₁ ++ s₂ ∧ c = c₁ ++ c₂ ∧
      first.Matches s₁ (s₂ ++ rest) c₁ ∧ second.Matches s₂ rest c₂
  | alt left right, s, rest, c => left.Matches s rest c ∨ right.Matches s rest c
  | group index body, s, rest, c => ∃ inner, c = (index, s) :: inner ∧ body.Matches s rest inner

-- How many characters a bounded set can take, the most first.
def lengths (accept : Char → Bool) (least : Nat) (most : Option Nat) (text : List Char) :
    List Nat :=
  let run := (text.takeWhile accept).length
  ((List.range (run + 1)).filter fun k => least ≤ k ∧ ∀ n ∈ most, k ≤ n).reverse

def longest_first (candidates : List (Captures × List Char)) : List (Captures × List Char) :=
  candidates.insertionSort fun a b => a.2.length ≤ b.2.length

-- Every way to match at the start of a text, with what is left of it. Of the parts
-- of a sequence, each earlier one takes as much as it can.
def candidates : Regex → List Char → List (Captures × List Char)
  | empty, text => [([], text)]
  | set accept least most, text =>
      (lengths accept least most text).map fun k => ([], text.drop k)
  | line_end, [] => [([], [])]
  | line_end, x :: rest => if x = '\n' then [([], x :: rest)] else []
  | seq first second, text =>
      (first.candidates text).flatMap fun a =>
        (second.candidates a.2).map fun b => (a.1 ++ b.1, b.2)
  | alt left right, text => longest_first (left.candidates text ++ right.candidates text)
  | group index body, text =>
      (body.candidates text).map fun a =>
        ((index, text.take (text.length - a.2.length)) :: a.1, a.2)

-- The longest match at the leftmost place that has one.
def exec (r : Regex) (text : List Char) : Option Captures :=
  text.tails.findSome? fun start => ((longest_first (r.candidates start)).head?).map Prod.fst

theorem mem_lengths_iff {accept : Char → Bool} {least : Nat} {most : Option Nat}
    {text : List Char} {k : Nat} :
    k ∈ lengths accept least most text ↔
      k ≤ (text.takeWhile accept).length ∧ least ≤ k ∧ ∀ n ∈ most, k ≤ n := by
  simp only [lengths, List.mem_reverse, List.mem_filter, List.mem_range, decide_eq_true_eq]
  constructor
  · rintro ⟨hlt, hbounds⟩
    exact ⟨by omega, hbounds⟩
  · rintro ⟨hle, hbounds⟩
    exact ⟨by omega, hbounds⟩

theorem length_le_takeWhile {accept : Char → Bool} {s rest : List Char}
    (h : ∀ x ∈ s, accept x = true) : s.length ≤ ((s ++ rest).takeWhile accept).length := by
  rw [List.takeWhile_append_of_pos h, List.length_append]
  omega

theorem longest_first_perm (all : List (Captures × List Char)) : (longest_first all).Perm all :=
  List.perm_insertionSort _ _

-- The candidates are the matches, and nothing else.
theorem mem_candidates_iff {r : Regex} {text rest : List Char} {c : Captures} :
    (c, rest) ∈ r.candidates text ↔ ∃ s, text = s ++ rest ∧ r.Matches s rest c := by
  induction r generalizing text rest c with
  | empty => simp [candidates, Matches, and_comm, eq_comm]
  | set accept least most =>
      simp only [candidates, List.mem_map, Prod.mk.injEq, mem_lengths_iff, Matches]
      constructor
      · rintro ⟨k, ⟨hrun, hleast, hmost⟩, rfl, rfl⟩
        have hlength : (text.take k).length = k := by
          rw [List.length_take]
          exact Nat.min_eq_left (hrun.trans (List.takeWhile_prefix accept).length_le)
        refine ⟨text.take k, (List.take_append_drop k text).symm, fun x hx => ?_, ?_, ?_, rfl⟩
        · have hshort : text.take k <+: text.takeWhile accept :=
            List.prefix_of_prefix_length_le (List.take_prefix k text)
              (List.takeWhile_prefix accept) (by omega)
          exact (List.all_eq_true.mp List.all_takeWhile) x (hshort.subset hx)
        · rw [hlength]
          exact hleast
        · rw [hlength]
          exact hmost
      · rintro ⟨s, rfl, hall, hleast, hmost, rfl⟩
        exact ⟨s.length, ⟨length_le_takeWhile hall, hleast, hmost⟩, rfl, List.drop_left⟩
  | line_end =>
      cases text with
      | nil =>
          simp only [candidates, List.mem_singleton, Prod.mk.injEq, Matches, List.nil_eq,
            List.append_eq_nil_iff]
          constructor
          · rintro ⟨rfl, rfl⟩
            exact ⟨[], ⟨rfl, rfl⟩, rfl, Or.inl rfl, rfl⟩
          · rintro ⟨s, ⟨-, rfl⟩, -, -, rfl⟩
            exact ⟨rfl, rfl⟩
      | cons x text =>
          by_cases hx : x = '\n'
          · simp only [candidates, if_pos hx, List.mem_singleton, Prod.mk.injEq, Matches]
            constructor
            · rintro ⟨rfl, rfl⟩
              exact ⟨[], rfl, rfl, Or.inr ⟨text, by rw [hx]⟩, rfl⟩
            · rintro ⟨_, htext, rfl, -, rfl⟩
              exact ⟨rfl, htext.symm⟩
          · simp only [candidates, if_neg hx, List.not_mem_nil, Matches, false_iff]
            rintro ⟨_, htext, rfl, hend | ⟨more, hend⟩, -⟩
            · exact absurd (htext.trans hend) (by simp)
            · exact hx (List.cons.inj (htext.trans hend)).1
  | seq first second ihfirst ihsecond =>
      simp only [candidates, List.mem_flatMap, List.mem_map, Prod.exists, Prod.mk.injEq, Matches]
      constructor
      · rintro ⟨c₁, middle, hfirst, c₂, _, hsecond, rfl, rfl⟩
        obtain ⟨s₁, rfl, h₁⟩ := ihfirst.mp hfirst
        obtain ⟨s₂, rfl, h₂⟩ := ihsecond.mp hsecond
        exact ⟨s₁ ++ s₂, (List.append_assoc ..).symm, s₁, s₂, c₁, c₂, rfl, rfl, h₁, h₂⟩
      · rintro ⟨_, rfl, s₁, s₂, c₁, c₂, rfl, rfl, h₁, h₂⟩
        exact ⟨c₁, s₂ ++ rest, ihfirst.mpr ⟨s₁, List.append_assoc .., h₁⟩, c₂, rest,
          ihsecond.mpr ⟨s₂, rfl, h₂⟩, rfl, rfl⟩
  | alt left right ihleft ihright =>
      simp only [candidates, (longest_first_perm _).mem_iff, List.mem_append, ihleft, ihright,
        Matches, and_or_left, exists_or]
  | group index body ih =>
      simp only [candidates, List.mem_map, Prod.exists, Prod.mk.injEq, Matches]
      constructor
      · rintro ⟨inner, _, hbody, rfl, rfl⟩
        obtain ⟨s, rfl, h⟩ := ih.mp hbody
        refine ⟨s, rfl, inner, ?_, h⟩
        simp
      · rintro ⟨s, rfl, inner, rfl, h⟩
        refine ⟨inner, rest, ih.mpr ⟨s, rfl, h⟩, ?_, rfl⟩
        simp

-- What is taken at a place is a match there, and something is taken if there is one.

theorem matches_of_head {r : Regex} {start : List Char} {c : Captures}
    (h : (longest_first (r.candidates start)).head?.map Prod.fst = some c) :
    ∃ s rest, start = s ++ rest ∧ r.Matches s rest c := by
  obtain ⟨⟨_, rest⟩, hfirst, rfl⟩ := Option.map_eq_some_iff.mp h
  have hmem := (longest_first_perm _).subset (List.mem_of_head? hfirst)
  obtain ⟨s, rfl, hs⟩ := mem_candidates_iff.mp hmem
  exact ⟨s, rest, rfl, hs⟩

theorem head_isSome_iff {r : Regex} {start : List Char} :
    ((longest_first (r.candidates start)).head?.map Prod.fst).isSome ↔
      ∃ s rest c, start = s ++ rest ∧ r.Matches s rest c := by
  rw [Option.isSome_map, List.isSome_head?, ← List.length_pos_iff, List.length_pos_iff_exists_mem]
  simp only [(longest_first_perm _).mem_iff, Prod.exists, mem_candidates_iff]
  exact ⟨fun ⟨c, rest, s, h⟩ => ⟨s, rest, c, h⟩, fun ⟨s, rest, c, h⟩ => ⟨c, rest, s, h⟩⟩

-- The text matches somewhere.
theorem exec_isSome_iff {r : Regex} {text : List Char} :
    (r.exec text).isSome ↔
      ∃ before s rest c, text = before ++ (s ++ rest) ∧ r.Matches s rest c := by
  rw [exec, List.findSome?_isSome_iff]
  constructor
  · rintro ⟨start, hstart, hsome⟩
    obtain ⟨before, rfl⟩ := (List.mem_tails _ _).mp hstart
    obtain ⟨s, rest, c, rfl, h⟩ := head_isSome_iff.mp hsome
    exact ⟨before, s, rest, c, rfl, h⟩
  · rintro ⟨before, s, rest, c, rfl, h⟩
    exact ⟨s ++ rest, (List.mem_tails _ _).mpr (List.suffix_append _ _),
      head_isSome_iff.mpr ⟨s, rest, c, rfl, h⟩⟩

-- The first place of a text, from the left, that is one of these.
def Leftmost (here : List Char → Prop) (text start : List Char) : Prop :=
  ∃ before, text = before ++ start ∧ here start ∧
    ∀ before' start', text = before' ++ start' → here start' → before.length ≤ before'.length

theorem Leftmost.unique {here : List Char → Prop} {text start start' : List Char}
    (h : Leftmost here text start) (h' : Leftmost here text start') : start = start' := by
  obtain ⟨before, htext, hstart, hleast⟩ := h
  obtain ⟨before', htext', hstart', hleast'⟩ := h'
  have hlength := Nat.le_antisymm (hleast before' start' htext' hstart')
    (hleast' before start htext hstart)
  exact (List.append_inj (htext.symm.trans htext') hlength).2

def Found (r : Regex) (start : List Char) : Prop :=
  ∃ s rest c, start = s ++ rest ∧ r.Matches s rest c

-- What is captured comes from a match at the leftmost place that has one.
theorem exec_leftmost {r : Regex} {text : List Char} {c : Captures} (h : r.exec text = some c) :
    ∃ s rest, Leftmost r.Found text (s ++ rest) ∧ r.Matches s rest c := by
  unfold exec at h
  induction text with
  | nil =>
      rw [List.tails, List.findSome?_singleton] at h
      obtain ⟨s, rest, htext, hs⟩ := matches_of_head h
      exact ⟨s, rest, ⟨[], htext, ⟨s, rest, c, rfl, hs⟩, fun _ _ _ _ => Nat.zero_le _⟩, hs⟩
  | cons x text ih =>
      rw [List.tails_cons, List.findSome?_cons] at h
      cases hhead : (longest_first (r.candidates (x :: text))).head?.map Prod.fst with
      | some found =>
          rw [hhead] at h
          obtain rfl := Option.some.inj h
          obtain ⟨s, rest, htext, hs⟩ := matches_of_head hhead
          exact ⟨s, rest, ⟨[], htext, ⟨s, rest, found, rfl, hs⟩, fun _ _ _ _ => Nat.zero_le _⟩, hs⟩
      | none =>
          rw [hhead] at h
          obtain ⟨s, rest, ⟨before, rfl, hfound, hleast⟩, hs⟩ := ih h
          refine ⟨s, rest, ⟨x :: before, rfl, hfound, fun before' start' htext hstart' => ?_⟩, hs⟩
          cases before' with
          | nil =>
              obtain ⟨s', rest', c', rfl, hs'⟩ := hstart'
              have hsome := head_isSome_iff.mpr ⟨s', rest', c', htext, hs'⟩
              rw [hhead] at hsome
              exact absurd hsome (by simp)
          | cons y before' =>
              exact Nat.succ_le_succ (hleast before' start' (List.cons.inj htext).2 hstart')

-- What is read at the first place where anything is.
def First (reads : List Char → List Char → Prop) (text x : List Char) : Prop :=
  ∃ start, Leftmost (fun place => ∃ found, reads place found) text start ∧ reads start x

-- What a group of the expression captures, as a reading of the text.
structure Captured (r : Regex) (index : Nat) (reads : List Char → List Char → Prop) : Prop where
  found : ∀ start, r.Found start ↔ ∃ x, reads start x
  lookup : ∀ s rest c, r.Matches s rest c →
    ∃ x, reads (s ++ rest) x ∧ c.lookup index = some x
  unique : ∀ start x y, reads start x → reads start y → x = y

section Reading

variable {reads : List Char → List Char → Prop} {text x y : List Char} {r : Regex} {index : Nat}

theorem First.unique (hunique : ∀ start x y, reads start x → reads start y → x = y)
    (h : First reads text x) (h' : First reads text y) : x = y := by
  obtain ⟨start, hfirst, hreads⟩ := h
  obtain ⟨start', hfirst', hreads'⟩ := h'
  obtain rfl := hfirst.unique hfirst'
  exact hunique start x y hreads hreads'

theorem first_nil_iff : First reads [] x ↔ reads [] x := by
  constructor
  · rintro ⟨start, ⟨before, htext, -, -⟩, hreads⟩
    obtain ⟨-, rfl⟩ := List.append_eq_nil_iff.mp htext.symm
    exact hreads
  · intro hreads
    exact ⟨[], ⟨[], rfl, ⟨x, hreads⟩, fun _ _ _ _ => Nat.zero_le _⟩, hreads⟩

theorem first_cons_iff {a : Char} :
    First reads (a :: text) x ↔
      reads (a :: text) x ∨ (¬∃ found, reads (a :: text) found) ∧ First reads text x := by
  constructor
  · rintro ⟨start, ⟨before, htext, hhere, hleast⟩, hreads⟩
    cases before with
    | nil =>
        obtain rfl : a :: text = start := htext
        exact Or.inl hreads
    | cons b before =>
        obtain ⟨rfl, rfl⟩ := List.cons.inj htext
        refine Or.inr ⟨fun hfound => ?_, start, ⟨before, rfl, hhere, ?_⟩, hreads⟩
        · exact absurd (hleast [] _ rfl hfound) (by simp)
        · intro before' start' htext' hhere'
          exact Nat.le_of_succ_le_succ
            (hleast (a :: before') start' (congrArg (a :: ·) htext') hhere')
  · rintro (hreads | ⟨hnone, start, ⟨before, rfl, hhere, hleast⟩, hreads⟩)
    · exact ⟨a :: text, ⟨[], rfl, ⟨x, hreads⟩, fun _ _ _ _ => Nat.zero_le _⟩, hreads⟩
    · refine ⟨start, ⟨a :: before, rfl, hhere, fun before' start' htext' hhere' => ?_⟩, hreads⟩
      cases before' with
      | nil =>
          obtain rfl : a :: (before ++ start) = start' := htext'
          exact absurd hhere' hnone
      | cons b before' =>
          exact Nat.succ_le_succ (hleast before' start' (List.cons.inj htext').2 hhere')

theorem exec_lookup_eq_some_iff (h : r.Captured index reads) :
    (r.exec text).bind (fun c => c.lookup index) = some x ↔ First reads text x := by
  have hsame : r.Found = fun place => ∃ found, reads place found :=
    funext fun place => propext (h.found place)
  have hsound : ∀ {x}, (r.exec text).bind (fun c => c.lookup index) = some x →
      First reads text x := by
    intro x hx
    obtain ⟨c, hexec, hlookup⟩ := Option.bind_eq_some_iff.mp hx
    obtain ⟨s, rest, hfirst, hmatches⟩ := exec_leftmost hexec
    obtain ⟨y, hreads, hy⟩ := h.lookup s rest c hmatches
    obtain rfl := Option.some.inj (hlookup.symm.trans hy)
    exact ⟨s ++ rest, hsame ▸ hfirst, hreads⟩
  refine ⟨hsound, fun hfirst => ?_⟩
  obtain ⟨start, ⟨before, rfl, hreads, -⟩, -⟩ := id hfirst
  obtain ⟨s, rest, c, rfl, hmatches⟩ := (h.found start).mpr hreads
  obtain ⟨c', hexec⟩ := Option.isSome_iff_exists.mp
    (exec_isSome_iff.mpr ⟨before, s, rest, c, rfl, hmatches⟩)
  obtain ⟨s', rest', -, hmatches'⟩ := exec_leftmost hexec
  obtain ⟨y, -, hy⟩ := h.lookup s' rest' c' hmatches'
  have hcaptured : (r.exec (before ++ (s ++ rest))).bind (fun c => c.lookup index) = some y := by
    rw [hexec, Option.bind_some, hy]
  rw [hcaptured, (hsound hcaptured).unique h.unique hfirst]

end Reading

theorem exec_matches {r : Regex} {text : List Char} {c : Captures} (h : r.exec text = some c) :
    ∃ before s rest, text = before ++ (s ++ rest) ∧ r.Matches s rest c := by
  obtain ⟨s, rest, ⟨before, htext, -, -⟩, hs⟩ := exec_leftmost h
  exact ⟨before, s, rest, htext, hs⟩

-- A literal text in front of an expression.
def literal (s : List Char) (r : Regex) : Regex :=
  s.foldr (fun x r => .seq (.set (fun y => y = x) 1 (some 1)) r) r

theorem literal_matches {text s rest : List Char} {r : Regex} {c : Captures} :
    (literal text r).Matches s rest c ↔ ∃ more, s = text ++ more ∧ r.Matches more rest c := by
  induction text generalizing s with
  | nil => simp [literal]
  | cons x text ih =>
      have hcons : literal (x :: text) r =
          .seq (.set (fun y => y = x) 1 (some 1)) (literal text r) := rfl
      rw [hcons]
      constructor
      · rintro ⟨s₁, s₂, c₁, c₂, rfl, rfl, ⟨hall, hleast, hmost, rfl⟩, hrest⟩
        obtain ⟨more, rfl, hmore⟩ := ih.mp hrest
        obtain ⟨y, rfl⟩ := List.length_eq_one_iff.mp (Nat.le_antisymm (hmost 1 rfl) hleast)
        obtain rfl : y = x := by simpa using hall y List.mem_cons_self
        exact ⟨more, rfl, hmore⟩
      · rintro ⟨more, rfl, hmore⟩
        exact ⟨[x], text ++ more, [], c, rfl, rfl, ⟨by simp, by simp, by simp, rfl⟩,
          ih.mpr ⟨more, rfl, hmore⟩⟩

-- The members of a bracket expression.
def brackets : List Char → Option ((Char → Bool) × List Char)
  | [] => none
  | ']' :: rest => some (fun _ => false, rest)
  | low :: '-' :: high :: rest =>
      if high = ']' then some (fun x => x = low || x = '-', rest)
      else (brackets rest).map fun more => (fun x => (low ≤ x && x ≤ high) || more.1 x, more.2)
  | member :: rest => (brackets rest).map fun more => (fun x => x = member || more.1 x, more.2)

def number (digits : List Char) : Nat :=
  digits.foldl (fun n x => 10 * n + (x.toNat - '0'.toNat)) 0

-- A set with the bound behind it.
def bounded (accept : Char → Bool) : List Char → Option (Regex × List Char)
  | '+' :: rest => some (.set accept 1 none, rest)
  | '{' :: rest =>
      match rest.span Char.isDigit with
      | (digit :: digits, '}' :: rest) =>
          some (.set accept (number (digit :: digits)) (some (number (digit :: digits))), rest)
      | _ => none
  | rest => some (.set accept 1 (some 1), rest)

-- The operators that are not read here.
def unsupported (x : Char) : Bool :=
  x ∈ ['^', '*', '?', '.', '\\', '+', '\x7b', ']']

mutual

-- The branches of an expression, up to a closing parenthesis or the end. The
-- index is that of the next group.
def branches : Nat → Nat → List Char → Option (Regex × Nat × List Char)
  | 0, _, _ => none
  | fuel + 1, index, text => do
      let (left, index, rest) ← branch fuel index text
      match rest with
      | '|' :: rest => do
          let (right, index, rest) ← branches fuel index rest
          some (.alt left right, index, rest)
      | rest => some (left, index, rest)

def branch : Nat → Nat → List Char → Option (Regex × Nat × List Char)
  | 0, _, _ => none
  | _ + 1, index, [] => some (.empty, index, [])
  | fuel + 1, index, x :: rest =>
      if x = '|' ∨ x = ')' then some (.empty, index, x :: rest)
      else if x = '(' then do
        let (body, next, rest) ← branches fuel (index + 1) rest
        match rest with
        | ')' :: rest => do
            let (more, next, rest) ← branch fuel next rest
            some (.seq (.group index body) more, next, rest)
        | _ => none
      else if x = '$' then do
        let (more, next, rest) ← branch fuel index rest
        some (.seq .line_end more, next, rest)
      else do
        let (accept, rest) ← if x = '[' then brackets rest
          else if unsupported x then none
          else some (fun y => decide (y = x), rest)
        let (first, rest) ← bounded accept rest
        let (more, next, rest) ← branch fuel index rest
        some (.seq first more, next, rest)

end

-- An expression as it is written.
def comp (pattern : String) : Option Regex :=
  match branches (2 * pattern.toList.length + 2) 1 pattern.toList with
  | some (r, _, []) => some r
  | _ => none

end Regex

end HwpcSensor.PosixRegex
