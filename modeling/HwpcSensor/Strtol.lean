import Mathlib.Algebra.Group.Nat.Defs
import Mathlib.Algebra.Ring.Int.Defs
import Mathlib.Data.List.Basic
import Mathlib.Data.List.TakeWhile

namespace HwpcSensor

def LONG_MAX : Int := 2 ^ 63 - 1
def LONG_MIN : Int := -2 ^ 63
def INT_MAX : Int := 2 ^ 31 - 1
def INT_MIN : Int := -2 ^ 31

def isspace (c : Char) : Bool :=
  c = ' ' || (9 ≤ c.toNat && c.toNat ≤ 13)

def digit_value (c : Char) : Nat :=
  if c.isDigit then c.toNat - '0'.toNat
  else if c.isLower then c.toNat - 'a'.toNat + 10
  else if c.isUpper then c.toNat - 'A'.toNat + 10
  else 36

-- `rest` is the string that the end pointer points to.
structure strtol_result where
  value : Int
  rest : List Char
  range_error : Bool
  deriving DecidableEq

def strtol_sign : List Char → Bool × List Char
  | '-' :: rest => (true, rest)
  | '+' :: rest => (false, rest)
  | s => (false, s)

-- Base 0 takes the base from the prefix. A hexadecimal prefix counts only when a
-- digit follows.
def strtol_base (base : Nat) (s : List Char) : Nat × List Char :=
  match s with
  | '0' :: x :: rest =>
      if (base = 0 ∨ base = 16) ∧ (x = 'x' ∨ x = 'X') ∧
          (rest.head?.map digit_value).any (· < 16) then (16, rest)
      else (if base = 0 then 8 else base, s)
  | '0' :: [] => (if base = 0 then 8 else base, s)
  | _ => (if base = 0 then 10 else base, s)

def strtol_digits (base : Nat) (s : List Char) : List Char :=
  s.takeWhile fun c => digit_value c < base

def strtol_number (base : Nat) (digits : List Char) : Nat :=
  digits.foldl (fun n c => n * base + digit_value c) 0

def strtol (s : List Char) (base : Nat) : strtol_result :=
  let signed := strtol_sign (s.dropWhile isspace)
  let start := strtol_base base signed.2
  let digits := strtol_digits start.1 start.2
  if digits = [] then ⟨0, s, false⟩
  else
    let rest := start.2.drop digits.length
    let value : Int := strtol_number start.1 digits
    let value := if signed.1 then -value else value
    if value > LONG_MAX then ⟨LONG_MAX, rest, true⟩
    else if value < LONG_MIN then ⟨LONG_MIN, rest, true⟩
    else ⟨value, rest, false⟩

def ULONG_MAX : Nat := 2 ^ 64 - 1
def UINT_MAX : Nat := 2 ^ 32 - 1

structure strtoul_result where
  value : Nat
  rest : List Char
  range_error : Bool
  deriving DecidableEq

-- A number with a minus sign is negated as an `unsigned long`.
def strtoul (s : List Char) (base : Nat) : strtoul_result :=
  let signed := strtol_sign (s.dropWhile isspace)
  let start := strtol_base base signed.2
  let digits := strtol_digits start.1 start.2
  if digits = [] then ⟨0, s, false⟩
  else
    let rest := start.2.drop digits.length
    let value := strtol_number start.1 digits
    if value > ULONG_MAX then ⟨ULONG_MAX, rest, true⟩
    else ⟨if signed.1 then (2 ^ 64 - value) % 2 ^ 64 else value, rest, false⟩

def signed_value (negative : Bool) (value : Nat) : Int :=
  if negative then -value else value

-- The integer that a text denotes, whether or not it fits in a `long`. The whole of
-- the text has to be read.
def denoted (text : List Char) (base : Nat) : Option Int :=
  let signed := strtol_sign (text.dropWhile isspace)
  let start := strtol_base base signed.2
  let digits := strtol_digits start.1 start.2
  if digits = [] ∨ start.2.drop digits.length ≠ [] then none
  else some (signed_value signed.1 (strtol_number start.1 digits))

theorem strtol_of_denoted {text : List Char} {base : Nat} {n : Int}
    (h : denoted text base = some n) :
    strtol text base =
      if n > LONG_MAX then ⟨LONG_MAX, [], true⟩
      else if n < LONG_MIN then ⟨LONG_MIN, [], true⟩
      else ⟨n, [], false⟩ := by
  obtain ⟨hread, hvalue⟩ := Option.ite_none_left_eq_some.mp h
  obtain ⟨hdigits, hrest⟩ := not_or.mp hread
  obtain rfl := Option.some.inj hvalue
  simp only [strtol, if_neg hdigits, not_not.mp hrest]
  rfl

theorem natAbs_signed_value (negative : Bool) (value : Nat) :
    (signed_value negative value).natAbs = value := by
  cases negative with
  | false => exact Int.natAbs_natCast value
  | true => exact (Int.natAbs_neg value).trans (Int.natAbs_natCast value)

theorem unsigned_signed_value (negative : Bool) {value : Nat} (h : value ≤ ULONG_MAX) :
    (if negative then (2 ^ 64 - value) % 2 ^ 64 else value) =
      (signed_value negative value % 2 ^ 64).toNat := by
  unfold ULONG_MAX at h
  cases negative with
  | false =>
      show value = ((value : Int) % 2 ^ 64).toNat
      omega
  | true =>
      show (2 ^ 64 - value) % 2 ^ 64 = (-(value : Int) % 2 ^ 64).toNat
      omega

theorem strtoul_of_denoted {text : List Char} {base : Nat} {n : Int}
    (h : denoted text base = some n) :
    strtoul text base =
      if n.natAbs > ULONG_MAX then ⟨ULONG_MAX, [], true⟩
      else ⟨(n % 2 ^ 64).toNat, [], false⟩ := by
  obtain ⟨hread, hvalue⟩ := Option.ite_none_left_eq_some.mp h
  obtain ⟨hdigits, hrest⟩ := not_or.mp hread
  obtain rfl := Option.some.inj hvalue
  rw [natAbs_signed_value]
  simp only [strtoul, if_neg hdigits, not_not.mp hrest]
  by_cases hrange : strtol_number (strtol_base base (strtol_sign (text.dropWhile isspace)).2).1
      (strtol_digits (strtol_base base (strtol_sign (text.dropWhile isspace)).2).1
        (strtol_base base (strtol_sign (text.dropWhile isspace)).2).2) > ULONG_MAX
  · rw [if_pos hrange, if_pos hrange]
  · rw [if_neg hrange, if_neg hrange, unsigned_signed_value _ (Nat.le_of_not_gt hrange)]

theorem strtol_of_not_denoted {text : List Char} {base : Nat} (h : denoted text base = none) :
    (strtol text base).rest = text ∨ (strtol text base).rest ≠ [] := by
  unfold denoted at h
  unfold strtol
  dsimp only at h ⊢
  by_cases hdigits : strtol_digits (strtol_base base (strtol_sign (text.dropWhile isspace)).2).1
      (strtol_base base (strtol_sign (text.dropWhile isspace)).2).2 = []
  · rw [if_pos hdigits]
    exact Or.inl rfl
  · have hrest := (ite_eq_left_iff.mp h).mt (by simp)
    rw [if_neg hdigits]
    split_ifs <;> exact Or.inr ((not_not.mp hrest).resolve_left hdigits)

theorem strtoul_of_not_denoted {text : List Char} {base : Nat} (h : denoted text base = none) :
    (strtoul text base).rest = text ∨ (strtoul text base).rest ≠ [] := by
  unfold denoted at h
  unfold strtoul
  dsimp only at h ⊢
  by_cases hdigits : strtol_digits (strtol_base base (strtol_sign (text.dropWhile isspace)).2).1
      (strtol_base base (strtol_sign (text.dropWhile isspace)).2).2 = []
  · rw [if_pos hdigits]
    exact Or.inl rfl
  · have hrest := (ite_eq_left_iff.mp h).mt (by simp)
    rw [if_neg hdigits]
    split_ifs <;> exact Or.inr ((not_not.mp hrest).resolve_left hdigits)

theorem digit_value_digitChar {n : Nat} (h : n < 16) : digit_value n.digitChar = n := by
  have hcases : ∀ m : Fin 16, digit_value (Nat.digitChar m) = m := by decide
  exact hcases ⟨n, h⟩

theorem strtol_number_append (base : Nat) (digits : List Char) (c : Char) :
    strtol_number base (digits ++ [c]) = strtol_number base digits * base + digit_value c := by
  simp [strtol_number]

-- A canonical number is read back in the base that it is written in.
theorem strtol_number_toDigits {base : Nat} (hbase : 1 < base) (hle : base ≤ 16) (n : Nat) :
    strtol_number base (Nat.toDigits base n) = n := by
  induction n using Nat.strongRecOn with
  | ind n ih =>
      rw [Nat.toDigits_eq_if hbase]
      by_cases h : n < base
      · rw [if_pos h]
        simp [strtol_number, digit_value_digitChar (Nat.lt_of_lt_of_le h hle)]
      · have hmod := Nat.mod_lt n (Nat.zero_lt_of_lt hbase)
        have hdiv : n / base < n := Nat.div_lt_self (by omega) hbase
        rw [if_neg h, strtol_number_append, ih (n / base) hdiv,
          digit_value_digitChar (Nat.lt_of_lt_of_le hmod hle)]
        exact Nat.div_add_mod' n base

theorem digit_value_lt_of_isDigit {c : Char} (h : c.isDigit) : digit_value c < 10 := by
  have hle : c.toNat ≤ 57 := by
    have := (Char.isDigit_iff_toNat.mp h).2
    simpa using this
  rw [digit_value, if_pos h]
  have hzero : '0'.toNat = 48 := rfl
  omega

theorem toDigits_head_ne_zero {n : Nat} (h : 0 < n) :
    ∃ c rest, Nat.toDigits 10 n = c :: rest ∧ c ≠ '0' ∧ c.isDigit := by
  induction n using Nat.strongRecOn with
  | ind n ih =>
      rw [Nat.toDigits_eq_if (by decide)]
      by_cases hlt : n < 10
      · rw [if_pos hlt]
        have hcases : ∀ m : Fin 10, 0 < m.val →
            Nat.digitChar m ≠ '0' ∧ (Nat.digitChar m).isDigit = true := by decide
        exact ⟨n.digitChar, [], rfl, hcases ⟨n, hlt⟩ h⟩
      · rw [if_neg hlt]
        obtain ⟨c, rest, heq, hne, hdigit⟩ := ih (n / 10) (by omega) (by omega)
        exact ⟨c, rest ++ [(n % 10).digitChar], by rw [heq]; rfl, hne, hdigit⟩

-- Digits have no blanks before them and no sign.
theorem strtol_start_digits {digits : List Char} (h : ∀ c ∈ digits, c.isDigit) :
    digits.dropWhile isspace = digits ∧ strtol_sign digits = (false, digits) := by
  cases digits with
  | nil => exact ⟨rfl, rfl⟩
  | cons c rest =>
      have hdigit := h c List.mem_cons_self
      have hrange := Char.isDigit_iff_toNat.mp hdigit
      have hlow : '0'.toNat = 48 := rfl
      have hspace : isspace c = false := by
        have hblank : c ≠ ' ' := by
          rintro rfl
          exact absurd hdigit (by decide)
        simp only [isspace, hblank, decide_false, Bool.false_or, Bool.and_eq_false_imp,
          decide_eq_true_eq, decide_eq_false_iff_not]
        omega
      have hsign : strtol_sign (c :: rest) = (false, c :: rest) := by
        unfold strtol_sign
        split
        · exact absurd hdigit (by simp_all)
        · exact absurd hdigit (by simp_all)
        · rfl
      exact ⟨List.dropWhile_cons_of_neg (by simp [hspace]), hsign⟩

theorem strtol_start_toDigits (n : Nat) :
    (Nat.toDigits 10 n).dropWhile isspace = Nat.toDigits 10 n ∧
      strtol_sign (Nat.toDigits 10 n) = (false, Nat.toDigits 10 n) :=
  strtol_start_digits fun _ hc => Nat.isDigit_of_mem_toDigits (by decide) (by decide) hc

-- Base 0 finds out that it is a decimal; the number 0 is one in every base.
theorem strtol_base_toDigits (n : Nat) {base : Nat} (hbase : base = 0 ∨ base = 10) :
    ∃ b, strtol_base base (Nat.toDigits 10 n) = (b, Nat.toDigits 10 n) ∧
      strtol_digits b (Nat.toDigits 10 n) = Nat.toDigits 10 n ∧
      strtol_number b (Nat.toDigits 10 n) = n := by
  by_cases hzero : n = 0
  · subst hzero
    rcases hbase with rfl | rfl
    · exact ⟨8, rfl, rfl, rfl⟩
    · exact ⟨10, rfl, rfl, rfl⟩
  · refine ⟨10, ?_, ?_, strtol_number_toDigits (by decide) (by decide) n⟩
    · obtain ⟨c, rest, heq, hne, -⟩ := toDigits_head_ne_zero (Nat.pos_of_ne_zero hzero)
      rw [heq]
      unfold strtol_base
      split
      · simp_all
      · simp_all
      · rcases hbase with rfl | rfl <;> rfl
    · apply List.takeWhile_eq_self_iff.mpr
      intro d hd
      have hlt := digit_value_lt_of_isDigit
        (Nat.isDigit_of_mem_toDigits (by decide) (by decide) hd)
      simpa using hlt

-- A number as it is written down.
def signed_decimal (n : Int) : List Char :=
  if n < 0 then '-' :: Nat.toDigits 10 n.natAbs else Nat.toDigits 10 n.natAbs

theorem strtol_start_signed_decimal (n : Int) :
    strtol_sign ((signed_decimal n).dropWhile isspace) =
      (decide (n < 0), Nat.toDigits 10 n.natAbs) := by
  obtain ⟨hdrop, hsign⟩ := strtol_start_toDigits n.natAbs
  unfold signed_decimal
  by_cases hneg : n < 0
  · rw [if_pos hneg, decide_eq_true hneg]
    rfl
  · rw [if_neg hneg, decide_eq_false hneg, hdrop, hsign]

theorem denoted_signed_decimal (n : Int) {base : Nat} (hbase : base = 0 ∨ base = 10) :
    denoted (signed_decimal n) base = some n := by
  obtain ⟨b, hstart, hdigits, hnumber⟩ := strtol_base_toDigits n.natAbs hbase
  have hvalue : signed_value (decide (n < 0)) n.natAbs = n := by
    unfold signed_value
    by_cases hneg : n < 0
    · rw [if_pos (decide_eq_true hneg)]
      omega
    · rw [if_neg (by simpa using hneg)]
      omega
  simp only [denoted, strtol_start_signed_decimal, hstart, hdigits, hnumber, hvalue,
    Nat.toDigits_ne_nil, List.drop_length, ne_eq, not_true, or_self, if_false]

theorem strtol_signed_decimal (n : Int) {base : Nat} (hbase : base = 0 ∨ base = 10) :
    strtol (signed_decimal n) base =
      if n > LONG_MAX then ⟨LONG_MAX, [], true⟩
      else if n < LONG_MIN then ⟨LONG_MIN, [], true⟩
      else ⟨n, [], false⟩ :=
  strtol_of_denoted (denoted_signed_decimal n hbase)

theorem strtoul_signed_decimal (n : Int) {base : Nat} (hbase : base = 0 ∨ base = 10) :
    strtoul (signed_decimal n) base =
      if n.natAbs > ULONG_MAX then ⟨ULONG_MAX, [], true⟩
      else ⟨(n % 2 ^ 64).toNat, [], false⟩ :=
  strtoul_of_denoted (denoted_signed_decimal n hbase)

theorem strtol_toDigits (n : Nat) :
    strtol (Nat.toDigits 10 n) 0 =
      if (n : Int) > LONG_MAX then ⟨LONG_MAX, [], true⟩ else ⟨n, [], false⟩ := by
  have h := strtol_signed_decimal n (Or.inl rfl : (0 : Nat) = 0 ∨ (0 : Nat) = 10)
  have hmin : ¬(n : Int) < LONG_MIN := by
    unfold LONG_MIN
    omega
  rw [signed_decimal, if_neg (by omega), Int.natAbs_natCast, if_neg hmin] at h
  exact h

-- Whether digits can be read as an octal number.
def Octal (digits : List Char) : Prop :=
  ∀ c ∈ digits, digit_value c < 8

instance (digits : List Char) : Decidable (Octal digits) :=
  inferInstanceAs (Decidable (∀ c ∈ digits, _))

-- Digits have no prefix but a zero.
theorem strtol_base_digits {first : Char} {rest : List Char}
    (h : ∀ c ∈ first :: rest, c.isDigit) :
    strtol_base 0 (first :: rest) = (if first = '0' then 8 else 10, first :: rest) := by
  by_cases hzero : first = '0'
  · subst hzero
    cases rest with
    | nil => rfl
    | cons x rest =>
        have hdigit := h x (by simp)
        have hx : ¬(x = 'x' ∨ x = 'X') := by
          rintro (rfl | rfl)
          · exact absurd hdigit (by decide)
          · exact absurd hdigit (by decide)
        rw [strtol_base, if_neg fun hhex => hx hhex.2.1, if_pos rfl, if_pos rfl]
  · rw [if_neg hzero]
    unfold strtol_base
    split
    · exact absurd (List.cons.inj ‹_›).1 hzero
    · exact absurd (List.cons.inj ‹_›).1 hzero
    · rfl

theorem strtol_digits_eq_self_iff {base : Nat} {text : List Char} :
    strtol_digits base text = text ↔ ∀ c ∈ text, digit_value c < base := by
  rw [strtol_digits, List.takeWhile_eq_self_iff]
  simp only [decide_eq_true_eq]

theorem drop_strtol_digits_iff {base : Nat} {text : List Char} :
    text.drop (strtol_digits base text).length = [] ↔ strtol_digits base text = text := by
  rw [List.drop_eq_nil_iff]
  constructor
  · exact (List.takeWhile_prefix _).eq_of_length_le
  · intro h
    rw [h]

-- In base 0 a leading zero makes digits octal, and those that are not octal are
-- not read to their end.
theorem denoted_digits {digits : List Char} (hne : digits ≠ [])
    (h : ∀ c ∈ digits, c.isDigit) :
    denoted digits 0 =
      if digits.head? = some '0' then
        if Octal digits then some (strtol_number 8 digits : Int) else none
      else some (strtol_number 10 digits : Int) := by
  obtain ⟨hdrop, hsign⟩ := strtol_start_digits h
  obtain ⟨first, rest, rfl⟩ := List.exists_cons_of_ne_nil hne
  have hbase := strtol_base_digits h
  simp only [List.head?_cons, Option.some.injEq]
  by_cases hzero : first = '0'
  · rw [if_pos hzero] at hbase ⊢
    have hdigits : strtol_digits 8 (first :: rest) ≠ [] := by
      have hfirst : digit_value first < 8 := hzero ▸ by decide
      rw [strtol_digits, List.takeWhile_cons_of_pos (by simpa using hfirst)]
      exact List.cons_ne_nil _ _
    simp only [denoted, hdrop, hsign, hbase, hdigits, false_or]
    by_cases hoctal : Octal (first :: rest)
    · have hall : strtol_digits 8 (first :: rest) = first :: rest :=
        strtol_digits_eq_self_iff.mpr hoctal
      rw [if_neg (not_not_intro (drop_strtol_digits_iff.mpr hall)), if_pos hoctal, hall]
      rfl
    · have hleft : strtol_digits 8 (first :: rest) ≠ first :: rest :=
        fun hself => hoctal (strtol_digits_eq_self_iff.mp hself)
      rw [if_pos (drop_strtol_digits_iff.not.mpr hleft), if_neg hoctal]
  · rw [if_neg hzero] at hbase ⊢
    have hall : strtol_digits 10 (first :: rest) = first :: rest :=
      strtol_digits_eq_self_iff.mpr fun c hc => digit_value_lt_of_isDigit (h c hc)
    simp only [denoted, hdrop, hsign, hbase, hall, List.drop_length]
    rw [if_neg (by simp)]
    rfl

theorem strtol_number_lt (digits : List Char) {n m : Nat} (h : n < m) :
    digits.foldl (fun n c => n * 8 + digit_value c) n <
      digits.foldl (fun n c => n * 10 + digit_value c) m := by
  induction digits generalizing n m with
  | nil => exact h
  | cons c digits ih =>
      rw [List.foldl_cons, List.foldl_cons]
      apply ih
      omega

theorem strtol_number_zero_cons (base : Nat) (digits : List Char) :
    strtol_number base ('0' :: digits) = strtol_number base digits := by
  have hzero : digit_value '0' = 0 := by decide
  rw [strtol_number, List.foldl_cons, hzero, Nat.zero_mul]
  rfl

-- Octal and decimal only agree on zeros and at most one digit behind them.
theorem octal_eq_decimal_iff (digits : List Char) (h : ∀ c ∈ digits, c.isDigit) :
    strtol_number 8 digits = strtol_number 10 digits ↔
      (digits.dropWhile (· = '0')).length ≤ 1 := by
  induction digits with
  | nil => exact iff_of_true rfl (Nat.zero_le 1)
  | cons c rest ih =>
      by_cases hzero : c = '0'
      · subst hzero
        rw [strtol_number_zero_cons, strtol_number_zero_cons, List.dropWhile_cons_of_pos (by simp)]
        exact ih fun d hd => h d (List.mem_cons_of_mem _ hd)
      · rw [List.dropWhile_cons_of_neg (by simpa using hzero)]
        cases rest with
        | nil => exact iff_of_true (by simp [strtol_number]) (Nat.le_refl 1)
        | cons d rest =>
            have hpos : 0 < digit_value c := by
              have hdigit := h c List.mem_cons_self
              have hrange := Char.isDigit_iff_toNat.mp hdigit
              have hne : c.toNat ≠ '0'.toNat := fun heq => hzero (Char.toNat_inj.mp heq)
              rw [digit_value, if_pos hdigit]
              omega
            have hlt := strtol_number_lt rest (n := (0 * 8 + digit_value c) * 8 + digit_value d)
              (m := (0 * 10 + digit_value c) * 10 + digit_value d) (by omega)
            refine iff_of_false ?_ (by simp)
            exact Nat.ne_of_lt hlt

end HwpcSensor
