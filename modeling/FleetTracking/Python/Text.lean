import Mathlib.Data.List.Induction
import Mathlib.Data.Nat.Digits.Defs
import Mathlib.Algebra.Order.Ring.Int
import Mathlib.Tactic.IntervalCases

/-!
# Python's integers as text

`Python.str n` is `str(n)` and `Python.int s` is `int(s)` of CPython 3.11, which strips
whitespace, takes a sign, allows single underscores between digits, knows the decimal
digits of every script and refuses more than 4300 digits in either direction.

`Python.int_str` is the round trip; every printed integer is read back.  `Python.str_of_plain`
is the other direction: among the literals `int` takes, the plain ones are those it prints.
-/

namespace Python

/-- CPython refuses to convert integers of more decimal digits than this. -/
def maxStrDigits : Nat := 4300

/-- The zero of each run of ten Unicode decimal digits (`Nd`, Unicode 14). -/
def decimalZeros : List Nat :=
  [0x30, 0x660, 0x6F0, 0x7C0, 0x966, 0x9E6, 0xA66, 0xAE6, 0xB66, 0xBE6, 0xC66, 0xCE6, 0xD66,
   0xDE6, 0xE50, 0xED0, 0xF20, 0x1040, 0x1090, 0x17E0, 0x1810, 0x1946, 0x19D0, 0x1A80, 0x1A90,
   0x1B50, 0x1BB0, 0x1C40, 0x1C50, 0xA620, 0xA8D0, 0xA900, 0xA9D0, 0xA9F0, 0xAA50, 0xABF0,
   0xFF10, 0x104A0, 0x10D30, 0x11066, 0x110F0, 0x11136, 0x111D0, 0x112F0, 0x11450, 0x114D0,
   0x11650, 0x116C0, 0x11730, 0x118E0, 0x11950, 0x11C50, 0x11D50, 0x11DA0, 0x16A60, 0x16AC0,
   0x16B50, 0x1D7CE, 0x1D7D8, 0x1D7E2, 0x1D7EC, 0x1D7F6, 0x1E140, 0x1E2F0, 0x1E950, 0x1FBF0]

/-- The value of a decimal digit of any script. -/
def decimal? (c : Char) : Option Nat :=
  (decimalZeros.find? fun z => z ≤ c.toNat ∧ c.toNat < z + 10).map (c.toNat - ·)

/-- The whitespace `int` strips. -/
def spaces : List Nat :=
  [0x9, 0xA, 0xB, 0xC, 0xD, 0x20, 0x85, 0xA0, 0x1680, 0x2000, 0x2001, 0x2002, 0x2003, 0x2004,
   0x2005, 0x2006, 0x2007, 0x2008, 0x2009, 0x200A, 0x2028, 0x2029, 0x202F, 0x205F, 0x3000]

def isSpace (c : Char) : Bool := spaces.contains c.toNat

/-- Drop the whitespace at both ends. -/
def strip (cs : List Char) : List Char :=
  ((cs.dropWhile isSpace).reverse.dropWhile isSpace).reverse

/-- The digits of a decimal literal: at least one, an underscore only between two of them.
`afterDigit` tells whether the character before was a digit. -/
def digits? : (afterDigit : Bool) → List Char → Option (List Nat)
  | afterDigit, [] => if afterDigit then some [] else none
  | afterDigit, c :: cs =>
      match decimal? c with
      | some d => (digits? true cs).map (d :: ·)
      | none => if afterDigit ∧ c = '_' then digits? false cs else none

/-- An unsigned literal, refused beyond the digit limit. -/
def natural? (cs : List Char) : Option Nat :=
  (digits? false cs).bind fun ds =>
    if ds.length ≤ maxStrDigits then some (ds.foldl (fun n d => 10 * n + d) 0) else none

/-- `int(s)`; `none` is the `ValueError`. -/
def int (s : String) : Option Int :=
  match strip s.toList with
  | '-' :: cs => (natural? cs).map fun n : Nat => -(n : Int)
  | '+' :: cs => (natural? cs).map Int.ofNat
  | cs => (natural? cs).map Int.ofNat

/-- `str(n)`; `none` is the `ValueError` beyond the digit limit. -/
def str (n : Int) : Option String :=
  if n.natAbs.repr.length ≤ maxStrDigits then
    some (if n < 0 then "-" ++ n.natAbs.repr else n.natAbs.repr)
  else none

/-! ## The round trip -/

theorem decimal?_of_isDigit {c : Char} (digit : c.isDigit = true) :
    decimal? c = some (c.toNat - '0'.toNat) := by
  have range : 0x30 ≤ c.toNat ∧ c.toNat < 0x30 + 10 := by
    simp only [Char.isDigit, Bool.and_eq_true, decide_eq_true_eq, ge_iff_le, UInt32.le_iff_toNat_le]
      at digit
    exact ⟨digit.1, Nat.lt_succ_of_le digit.2⟩
  simp [decimal?, decimalZeros, range]

theorem not_isSpace_of_isDigit {c : Char} (digit : c.isDigit = true) : isSpace c = false := by
  simp only [Char.isDigit, Bool.and_eq_true, decide_eq_true_eq, ge_iff_le, UInt32.le_iff_toNat_le]
    at digit
  have low : 0x30 ≤ c.toNat := digit.1
  have high : c.toNat ≤ 0x39 := digit.2
  simp only [isSpace, spaces, List.contains_eq_mem, decide_eq_false_iff_not, List.mem_cons,
    List.not_mem_nil, or_false, not_or]
  omega

/-- Plain digits are read as themselves, whatever came before. -/
theorem digits?_of_isDigit {cs : List Char} (digit : ∀ c ∈ cs, c.isDigit = true) :
    digits? true cs = some (cs.map fun c => c.toNat - '0'.toNat) := by
  induction cs with
  | nil => rfl
  | cons c cs ih =>
      rw [digits?, decimal?_of_isDigit (digit c List.mem_cons_self)]
      simp only [ih fun d later => digit d (List.mem_cons_of_mem _ later), Option.map_some,
        List.map_cons]

theorem digits?_cons_of_isDigit {c : Char} {cs : List Char}
    (digit : ∀ d ∈ c :: cs, d.isDigit = true) :
    digits? false (c :: cs) = some ((c :: cs).map fun c => c.toNat - '0'.toNat) := by
  rw [digits?, decimal?_of_isDigit (digit c List.mem_cons_self)]
  simp only [digits?_of_isDigit fun d later => digit d (List.mem_cons_of_mem _ later),
    Option.map_some, List.map_cons]

theorem isDigit_repr (n : Nat) : ∀ c ∈ n.repr.toList, c.isDigit = true := by
  rw [Nat.toList_repr]
  exact fun c => Nat.isDigit_of_mem_toDigits (by decide) (by decide)

/-- The printed form of `n` is read back as `n`, below the digit limit. -/
theorem natural?_repr {n : Nat} (short : n.repr.length ≤ maxStrDigits) :
    natural? n.repr.toList = some n := by
  have digit := isDigit_repr n
  have value := Nat.ofDigitChars_ten_toDigits (n := n)
  rw [← Nat.toList_repr, Nat.ofDigitChars_eq_foldl] at value
  rw [← String.length_toList] at short
  cases eq : n.repr.toList with
  | nil => exact (Nat.toDigits_ne_nil (Nat.toList_repr.symm.trans eq)).elim
  | cons c cs =>
      rw [eq] at digit value short
      rw [natural?, digits?_cons_of_isDigit digit, Option.bind_some, List.length_map, if_pos short,
        List.foldl_map, value]

theorem strip_of_not_space {c d : Char} {cs : List Char} (first : isSpace c = false)
    (last : (c :: cs).getLast? = some d) (notSpace : isSpace d = false) :
    strip (c :: cs) = c :: cs := by
  have back : (c :: cs).reverse.head? = some d := by rw [List.head?_reverse, last]
  rw [strip, List.dropWhile_cons, first]
  simp only [Bool.false_eq_true, if_false]
  cases eq : (c :: cs).reverse with
  | nil => simp at eq
  | cons x xs =>
      rw [eq, List.head?_cons, Option.some.injEq] at back
      rw [List.dropWhile_cons, back, notSpace]
      simp only [Bool.false_eq_true, if_false]
      rw [← back, ← eq, List.reverse_reverse]

/-- Without a sign the digits are the number. -/
theorem int_of_isDigit {s : String} (digit : ∀ c ∈ s.toList, c.isDigit = true) :
    int s = (natural? s.toList).map Int.ofNat := by
  rw [int]
  cases eq : s.toList with
  | nil => rfl
  | cons c cs =>
      rw [eq] at digit
      have firstDigit := digit c List.mem_cons_self
      obtain ⟨d, last⟩ : ∃ d, (c :: cs).getLast? = some d := by simp [List.getLast?_cons]
      have lastDigit := digit d (List.mem_of_getLast? last)
      rw [strip_of_not_space (not_isSpace_of_isDigit firstDigit) last
        (not_isSpace_of_isDigit lastDigit)]
      split
      · next h => simp only [List.cons.injEq] at h; rw [h.1] at firstDigit; cases firstDigit
      · next h => simp only [List.cons.injEq] at h; rw [h.1] at firstDigit; cases firstDigit
      · rfl

/-- What `str` prints is what `int` reads. -/
theorem int_str {n : Int} {s : String} (printed : str n = some s) : int s = some n := by
  unfold str at printed
  split at printed
  · next short =>
      have digit := isDigit_repr n.natAbs
      have read := natural?_repr short
      cases printed
      split
      · next negative =>
          obtain ⟨d, last⟩ : ∃ d, n.natAbs.repr.toList.getLast? = some d := by
            cases eq : n.natAbs.repr.toList with
            | nil => exact (Nat.toDigits_ne_nil (Nat.toList_repr.symm.trans eq)).elim
            | cons c cs => simp [List.getLast?_cons]
          have lastDigit := not_isSpace_of_isDigit (digit d (List.mem_of_getLast? last))
          have lastAll : ('-' :: n.natAbs.repr.toList).getLast? = some d := by
            rw [List.getLast?_cons, last, Option.getD_some]
          have body : ("-" ++ n.natAbs.repr).toList = '-' :: n.natAbs.repr.toList :=
            String.toList_append
          rw [int, body, strip_of_not_space (by decide) lastAll lastDigit]
          simp only [read, Option.map_some, Option.some.injEq]
          rw [Int.ofNat_natAbs_of_nonpos negative.le, neg_neg]
      · next nonneg =>
          rw [int_of_isDigit digit, read, Option.map_some]
          exact congrArg some (Int.natAbs_of_nonneg (not_lt.mp nonneg))
  · cases printed

/-- An integer that is not negative and below the digit limit is printed, and in digits. -/
theorem str_of_nonneg {n : Int} (nonneg : 0 ≤ n) (short : n.natAbs < 10 ^ maxStrDigits) :
    ∃ s, str n = some s ∧ ∀ c ∈ s.toList, c.isDigit = true := by
  have length : n.natAbs.repr.length ≤ maxStrDigits := Nat.repr_length _ _ (by decide) short
  refine ⟨n.natAbs.repr, ?_, ?_⟩
  · rw [str, if_pos length, if_neg (not_lt.mpr nonneg)]
  · exact isDigit_repr _

/-! ## Plain literals -/

/-- ASCII digits without a leading zero. -/
structure Plain (s : String) : Prop where
  digit : ∀ c ∈ s.toList, c.isDigit = true
  noZero : s.toList.head? ≠ some '0'

theorem digitChar_value {c : Char} (digit : c.isDigit = true) :
    c.toNat - '0'.toNat < 10 ∧ (c.toNat - '0'.toNat).digitChar = c := by
  simp only [Char.isDigit, Bool.and_eq_true, decide_eq_true_eq, ge_iff_le, UInt32.le_iff_toNat_le]
    at digit
  have low : 48 ≤ c.toNat := digit.1
  have high : c.toNat ≤ 57 := digit.2
  have zero : '0'.toNat = 48 := rfl
  rw [zero]
  refine ⟨by omega, ?_⟩
  obtain ⟨d, value, small⟩ : ∃ d, c.toNat = 48 + d ∧ d < 10 := ⟨c.toNat - 48, by omega, by omega⟩
  have back : c = Char.ofNat (48 + d) := by rw [← value, Char.ofNat_toNat]
  rw [value, Nat.add_sub_cancel_left, back]
  interval_cases d <;> rfl

/-- Digits without a leading zero are the decimal form of their value, which is positive. -/
theorem toDigits_ofDigitChars {cs : List Char} (digit : ∀ c ∈ cs, c.isDigit = true)
    (nonempty : cs ≠ []) (noZero : cs.head? ≠ some '0') :
    0 < Nat.ofDigitChars 10 cs 0 ∧ Nat.toDigits 10 (Nat.ofDigitChars 10 cs 0) = cs := by
  induction cs using List.reverseRecOn with
  | nil => exact absurd rfl nonempty
  | append_singleton front c ih =>
      obtain ⟨small, char⟩ := digitChar_value (digit c (by simp))
      have value : Nat.ofDigitChars 10 (front ++ [c]) 0 =
          10 * Nat.ofDigitChars 10 front 0 + (c.toNat - '0'.toNat) := by
        rw [Nat.ofDigitChars_append, Nat.ofDigitChars_cons, Nat.ofDigitChars_nil]
      rw [value]
      cases front with
      | nil =>
          rw [Nat.ofDigitChars_nil, Nat.mul_zero, Nat.zero_add, Nat.toDigits_of_lt_base small, char]
          refine ⟨Nat.pos_of_ne_zero fun zero => noZero ?_, rfl⟩
          rw [zero] at char
          exact congrArg some char.symm
      | cons first rest =>
          obtain ⟨positive, printed⟩ := ih (fun d early => digit d (List.mem_append_left _ early))
            (List.cons_ne_nil _ _) (by simpa using noZero)
          refine ⟨by omega, ?_⟩
          rw [← Nat.toDigits_append_toDigits (by decide) positive small, printed,
            Nat.toDigits_of_lt_base small, char]

theorem head?_toDigits {n : Nat} (positive : 0 < n) : (Nat.toDigits 10 n).head? ≠ some '0' := by
  induction n using Nat.strong_induction_on with
  | _ n ih =>
      rw [Nat.toDigits_eq_if (by decide)]
      split
      · next small =>
          intro zero
          interval_cases n <;> cases zero
      · next large =>
          have front := ih (n / 10) (by omega) (by omega)
          rw [List.head?_append]
          cases eq : Nat.toDigits 10 (n / 10) with
          | nil => exact (Nat.toDigits_ne_nil eq).elim
          | cons c cs => rwa [eq] at front

/-- What `str` prints of a positive integer is plain. -/
theorem plain_str {n : Int} {s : String} (printed : str n = some s) (positive : 1 ≤ n) :
    Plain s := by
  unfold str at printed
  rw [if_neg (show ¬ n < 0 by omega)] at printed
  split at printed
  · cases printed
    refine ⟨isDigit_repr _, ?_⟩
    rw [Nat.toList_repr]
    exact head?_toDigits (by omega)
  · cases printed

/-- A plain literal that `int` takes is what `str` prints. -/
theorem str_of_plain {n : Int} {s : String} (plain : Plain s) (read : int s = some n) :
    str n = some s := by
  rcases plain with ⟨digit, noZero⟩
  rw [int_of_isDigit digit] at read
  cases eq : s.toList with
  | nil => rw [eq] at read; cases read
  | cons c cs =>
      rw [eq] at digit noZero read
      obtain ⟨_, printed⟩ := toDigits_ofDigitChars digit (List.cons_ne_nil _ _) noZero
      rw [natural?, digits?_cons_of_isDigit digit, Option.bind_some, List.length_map,
        List.foldl_map, ← Nat.ofDigitChars_eq_foldl] at read
      split at read
      · next short =>
          cases read
          have repr : (Nat.ofDigitChars 10 (c :: cs) 0).repr = s := by
            rw [← String.toList_inj, Nat.toList_repr, printed, eq]
          rw [str, Int.ofNat_eq_natCast, Int.natAbs_natCast, repr, ← String.length_toList, eq,
            if_pos short, if_neg (by omega)]
      · cases read

end Python
