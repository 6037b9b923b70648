import Mathlib.Algebra.Order.Ring.Int
import Mathlib.Data.List.Basic

/-!
# Binary search

`Python.bisectRight a x` is `bisect.bisect_right(a, x)`: in a sorted list the entries before
it are at most `x`, and those from it on are greater.  `Brackets` is the invariant of its loop.
-/

namespace Python

section

variable {α : Type} [LinearOrder α]

/-- The loop of `bisect_right`.  Each pass at least halves what lies between `lo` and `hi`, so
`fuel` need not exceed that. -/
def bisectLoop (a : List α) (x : α) : (fuel lo hi : Nat) → Nat
  | 0, lo, _ => lo
  | fuel + 1, lo, hi =>
      if lo < hi then
        let mid := (lo + hi) / 2
        match a[mid]? with
        | none => lo
        | some y => if x < y then bisectLoop a x fuel lo mid else bisectLoop a x fuel (mid + 1) hi
      else lo

/-- `bisect.bisect_right(a, x)` -/
def bisectRight (a : List α) (x : α) : Nat := bisectLoop a x a.length 0 a.length

/-- The entries before `lo` are at most `x`, and those from `hi` on are greater. -/
structure Brackets (a : List α) (x : α) (lo hi : Nat) : Prop where
  low : ∀ i y, i < lo → a[i]? = some y → y ≤ x
  high : ∀ i y, hi ≤ i → a[i]? = some y → x < y

variable {a : List α} {x : α}

/-- In a sorted list, an earlier entry is not greater. -/
theorem entry_le {i j : Nat} {y z : α} (sorted : a.Pairwise (· ≤ ·)) (earlier : a[i]? = some y)
    (later : a[j]? = some z) (ordered : i ≤ j) : y ≤ z := by
  obtain ⟨inside, rfl⟩ := List.getElem?_eq_some_iff.mp earlier
  obtain ⟨within, rfl⟩ := List.getElem?_eq_some_iff.mp later
  rcases ordered.lt_or_eq with before | rfl
  · exact List.pairwise_iff_getElem.mp sorted i j inside within before
  · exact le_rfl

/-- An entry of a sorted list that is at most `x` has only such entries before it, and one
that is greater only such entries behind it. -/
theorem Brackets.at {mid : Nat} {y : α} (sorted : a.Pairwise (· ≤ ·)) (entry : a[mid]? = some y) :
    (y ≤ x → ∀ i z, i < mid + 1 → a[i]? = some z → z ≤ x) ∧
      (x < y → ∀ i z, mid ≤ i → a[i]? = some z → x < z) :=
  ⟨fun small _ _ before found =>
      (entry_le sorted found entry (Nat.le_of_lt_succ before)).trans small,
    fun large _ _ after found => large.trans_le (entry_le sorted entry found after)⟩

/-- **The loop** narrows the bracket down to one position. -/
theorem Brackets.loop (sorted : a.Pairwise (· ≤ ·)) {fuel lo hi : Nat}
    (brackets : Brackets a x lo hi) (ordered : lo ≤ hi) (inside : hi ≤ a.length)
    (enough : hi - lo ≤ fuel) :
    Brackets a x (bisectLoop a x fuel lo hi) (bisectLoop a x fuel lo hi) := by
  induction fuel generalizing lo hi with
  | zero =>
      have met : lo = hi := by omega
      subst met
      exact brackets
  | succ fuel ih =>
      rw [bisectLoop]
      split
      · next apart =>
          have entry : a[(lo + hi) / 2]? = some a[(lo + hi) / 2] := List.getElem?_eq_getElem _
          obtain ⟨small, large⟩ := Brackets.at (x := x) sorted entry
          simp only [entry]
          split
          · next greater =>
              exact ih ⟨brackets.low, large greater⟩ (by omega) (by omega) (by omega)
          · next notGreater =>
              exact ih ⟨small (not_lt.mp notGreater), brackets.high⟩ (by omega) inside (by omega)
      · next met =>
          have met : lo = hi := by omega
          subst met
          exact brackets

/-- What `bisect_right` answers for a sorted list. -/
theorem bisectRight_brackets (sorted : a.Pairwise (· ≤ ·)) :
    Brackets a x (bisectRight a x) (bisectRight a x) := by
  refine Brackets.loop sorted ⟨nofun, fun i y beyond found => ?_⟩ (Nat.zero_le _) le_rfl
    (Nat.sub_le _ _)
  rw [List.getElem?_eq_none beyond] at found
  cases found

/-- From the first entry on and before the last one, `x` falls between two neighbours; the
entries up to the former are those that are at most `x`. -/
theorem bisectRight_between (sorted : a.Pairwise (· ≤ ·)) {first last : α} {n : Nat}
    (head : a[0]? = some first) (low : first ≤ x) (tail : a[n]? = some last) (high : x < last) :
    ∃ k start stop, bisectRight a x = k + 1 ∧ k < n ∧ a[k]? = some start ∧
      a[k + 1]? = some stop ∧ (start ≤ x ∧ x < stop) ∧
      ∀ i y, a[i]? = some y → (y ≤ x ↔ i ≤ k) := by
  have brackets := bisectRight_brackets (x := x) sorted
  have some : bisectRight a x ≠ 0 := by
    intro none
    exact (brackets.high 0 first (by omega) head).not_ge low
  have notAll : bisectRight a x ≤ n := by
    by_contra all
    exact (brackets.low n last (by omega) tail).not_gt high
  obtain ⟨k, split⟩ := Nat.exists_eq_succ_of_ne_zero some
  obtain ⟨inside, -⟩ := List.getElem?_eq_some_iff.mp tail
  have start : a[k]? = .some a[k] := List.getElem?_eq_getElem _
  have stop : a[k + 1]? = .some a[k + 1] := List.getElem?_eq_getElem _
  rw [split] at brackets notAll
  refine ⟨k, a[k], a[k + 1], split, notAll, start, stop,
    ⟨brackets.low k _ k.lt_succ_self start, brackets.high (k + 1) _ le_rfl stop⟩,
    fun i y entry => ⟨fun small => ?_, fun before => brackets.low i y (by omega) entry⟩⟩
  by_contra after
  exact (brackets.high i y (by omega) entry).not_ge small

example : bisectRight [0, 2, 2, (5 : Int)] 2 = 3 := by decide
example : bisectRight [0, 2, 2, (5 : Int)] 1 = 1 := by decide

end

end Python
