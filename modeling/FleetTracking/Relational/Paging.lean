import Mathlib.Data.List.Basic
import Mathlib.Data.Nat.Basic

/-!
# Pages of a list

`LIMIT size OFFSET k * size` for `k = 0, 1, …`: the pages up to the length of the list are the
list again, all of them full but the last.
-/

namespace Relational

universe u

variable {α : Type u}

/-- The `k`-th page. -/
def page (l : List α) (size k : Nat) : List α := (l.drop (k * size)).take size

variable {l : List α} {size k : Nat}

theorem length_page : (page l size k).length = min size (l.length - k * size) := by
  rw [page, List.length_take, List.length_drop]

/-- The first `n` pages are the first `n * size` entries. -/
theorem flatMap_page (l : List α) (size n : Nat) :
    (List.range n).flatMap (page l size) = l.take (n * size) := by
  induction n with
  | zero => simp
  | succ n ih =>
      rw [List.range_succ, List.flatMap_append, ih, List.flatMap_singleton, Nat.succ_mul,
        List.take_add, page]

/-- The pages at the offsets up to the length are all of the list. -/
theorem flatMap_page_all (l : List α) (positive : 0 < size) :
    (List.range (l.length / size + 1)).flatMap (page l size) = l := by
  rw [flatMap_page]
  refine List.take_of_length_le ?_
  have remainder := Nat.mod_lt l.length positive
  have division := Nat.div_add_mod' l.length size
  rw [Nat.succ_mul]
  omega

/-- Every page before the last is full. -/
theorem length_page_of_lt (positive : 0 < size) (before : k < l.length / size) :
    (page l size k).length = size := by
  have full : (k + 1) * size ≤ l.length := (Nat.le_div_iff_mul_le positive).mp before
  rw [Nat.succ_mul] at full
  rw [length_page]
  omega

end Relational
