import FleetTracking.Relational.Paging
import Mathlib.Data.List.Count
import Mathlib.Data.List.Nodup
import Mathlib.Data.Nat.Find
import Mathlib.Order.Lattice

/-!
# Pages of a window that moves

A client reads page 0, 1, 2, … of a sorted window, one page a request, while the window moves
on: its ends `lo k` and `hi k` at request `k` only grow.  The offset counts from the oldest
entry, so every entry that leaves the window shifts the later ones towards the front, past the
page that is read next.

`walk_received` says which entries that stay in the window are missed, and `walk_once` that
none is read twice.
-/

namespace Relational

universe u v

/-- `before` orders the entries, first of all by `key`. -/
structure Chronological {α : Type u} {κ : Type v} [LinearOrder κ] (key : α → κ)
    (before : α → α → Bool) : Prop where
  asymm : ∀ {a b : α}, before a b = true → before b a = false
  key_le : ∀ {a b : α}, before a b = true → key a ≤ key b
  of_key : ∀ {a b : α}, key a < key b → before a b = true

section

variable {α : Type u} {κ : Type v} [LinearOrder κ] {key : α → κ} {before : α → α → Bool}

theorem Chronological.irrefl (order : Chronological key before) {a : α} : before a a = false := by
  by_contra reflexive
  have reflexive := eq_true_of_ne_false reflexive
  exact absurd (order.asymm reflexive) (by rw [reflexive]; decide)

/-- How many entries come before `a`. -/
def rank (before : α → α → Bool) (l : List α) (a : α) : Nat := l.countP fun b => before b a

/-- In a sorted list the rank is the position. -/
theorem rank_getElem (order : Chronological key before) {l : List α}
    (sorted : l.Pairwise fun a b => before a b = true) {i : Nat} (inside : i < l.length) :
    rank before l l[i] = i := by
  have split : l = l.take i ++ l[i] :: l.drop (i + 1) := by
    rw [← List.drop_eq_getElem_cons inside, List.take_append_drop]
  have parts := split ▸ sorted
  rw [List.pairwise_append, List.pairwise_cons] at parts
  obtain ⟨_, ⟨later, _⟩, earlier⟩ := parts
  have front : (l.take i).countP (fun b => before b l[i]) = i := by
    rw [List.countP_eq_length.mpr fun b member => earlier b member l[i] List.mem_cons_self,
      List.length_take, Nat.min_eq_left inside.le]
  have back : (l.drop (i + 1)).countP (fun b => before b l[i]) = 0 :=
    List.countP_eq_zero.mpr fun b member => by simp [order.asymm (later b member)]
  have self : before l[i] l[i] = false := order.irrefl
  calc rank before l l[i]
      = (l.take i ++ l[i] :: l.drop (i + 1)).countP fun b => before b l[i] := by
        rw [← split, rank]
    _ = i := by
        rw [List.countP_append, List.countP_cons, front, back, self]
        rfl

theorem rank_lt_length (order : Chronological key before) {l : List α}
    (sorted : l.Pairwise fun a b => before a b = true) {a : α} (member : a ∈ l) :
    rank before l a < l.length := by
  obtain ⟨i, inside, rfl⟩ := List.mem_iff_getElem.mp member
  rwa [rank_getElem order sorted]

/-- The entries of a page are those whose rank lies in it. -/
theorem mem_page (order : Chronological key before) {l : List α}
    (sorted : l.Pairwise fun a b => before a b = true) {size k : Nat} {a : α} :
    a ∈ page l size k ↔
      a ∈ l ∧ k * size ≤ rank before l a ∧ rank before l a < k * size + size := by
  rw [page, List.mem_take_iff_getElem]
  constructor
  · rintro ⟨i, inside, rfl⟩
    rw [List.length_drop] at inside
    rw [List.getElem_drop, rank_getElem order sorted]
    exact ⟨List.getElem_mem _, by omega, by omega⟩
  · rintro ⟨member, low, high⟩
    obtain ⟨i, inside, rfl⟩ := List.mem_iff_getElem.mp member
    rw [rank_getElem order sorted] at low high
    refine ⟨i - k * size, by rw [List.length_drop]; omega, ?_⟩
    rw [List.getElem_drop]
    congr 1
    omega

/-- A sorted window at each request.  Its ends move on. -/
structure Sliding (key : α → κ) (before : α → α → Bool) (rows : List α) (lo hi : Nat → κ)
    (window : Nat → List α) : Prop where
  order : Chronological key before
  perm (k : Nat) : (window k).Perm (rows.filter fun a => lo k ≤ key a ∧ key a ≤ hi k)
  sorted (k : Nat) : (window k).Pairwise fun a b => before a b = true
  lo_mono {j k : Nat} : j ≤ k → lo j ≤ lo k
  hi_mono {j k : Nat} : j ≤ k → hi j ≤ hi k

/-- How many entries of window `k` have left when the next request is made. -/
def leaving (key : α → κ) (lo : Nat → κ) (window : Nat → List α) (k : Nat) : Nat :=
  (window k).countP fun a => key a < lo (k + 1)

/-- The entries that leave after request `k` push `a` past the next page. -/
def Overtaken (key : α → κ) (before : α → α → Bool) (lo : Nat → κ) (window : Nat → List α)
    (size k : Nat) (a : α) : Prop :=
  k * size + size ≤ rank before (window k) a ∧
    rank before (window k) a < k * size + size + leaving key lo window k

namespace Sliding

variable {rows : List α} {lo hi : Nat → κ} {window : Nat → List α} {size j k n : Nat} {a : α}

theorem mem_window (sliding : Sliding key before rows lo hi window) :
    a ∈ window k ↔ a ∈ rows ∧ lo k ≤ key a ∧ key a ≤ hi k := by
  rw [(sliding.perm k).mem_iff, List.mem_filter, decide_eq_true_eq]

/-- What is in two windows is in those between. -/
theorem between (sliding : Sliding key before rows lo hi window) (first : a ∈ window j)
    (last : a ∈ window n) (from_ : j ≤ k) (till : k ≤ n) : a ∈ window k := by
  rw [sliding.mem_window] at first last ⊢
  exact ⟨first.1, (sliding.lo_mono till).trans last.2.1,
    first.2.2.trans (sliding.hi_mono from_)⟩

/-- **Step.**  From one request to the next, an entry that stays moves to the front by as many
places as entries have left. -/
theorem rank_succ (sliding : Sliding key before rows lo hi window) (here : a ∈ window k)
    (stays : a ∈ window (k + 1)) :
    rank before (window k) a = rank before (window (k + 1)) a + leaving key lo window k := by
  obtain ⟨-, -, high⟩ := sliding.mem_window.mp here
  obtain ⟨-, low, -⟩ := sliding.mem_window.mp stays
  have grows := sliding.lo_mono k.le_succ
  have grows' := sliding.hi_mono k.le_succ
  -- Of the entries before `a` in window `k`, those older than the next window are the ones
  -- that leave, and the others are the entries before `a` in it.
  rw [rank, List.countP_eq_countP_filter_add _ _ fun b => lo (k + 1) ≤ key b]
  congr 1
  · rw [rank, (sliding.perm (k + 1)).countP_eq, ((sliding.perm k).filter _).countP_eq,
      List.filter_filter, List.countP_filter, List.countP_filter]
    refine List.countP_congr fun b _ => ?_
    simp only [Bool.and_eq_true, decide_eq_true_eq]
    constructor
    · rintro ⟨earlier, kept, -, recent⟩
      exact ⟨earlier, kept, recent.trans grows'⟩
    · rintro ⟨earlier, kept, -⟩
      exact ⟨earlier, kept, grows.trans kept, (sliding.order.key_le earlier).trans high⟩
  · rw [leaving, List.countP_filter]
    refine List.countP_congr fun b _ => ?_
    simp only [Bool.and_eq_true, Bool.not_eq_true', decide_eq_false_iff_not, not_le,
      decide_eq_true_eq]
    exact ⟨And.right, fun old => ⟨sliding.order.of_key (old.trans_le low), old⟩⟩

/-- An entry before the next page, or moved to before it, is behind the pages from then on. -/
theorem behind_succ (sliding : Sliding key before rows lo hi window) (here : a ∈ window k)
    (stays : a ∈ window (k + 1))
    (passed : rank before (window k) a < k * size + size + leaving key lo window k) :
    rank before (window (k + 1)) a < (k + 1) * size := by
  have step := sliding.rank_succ here stays
  rw [Nat.succ_mul]
  omega

theorem behind (sliding : Sliding key before rows lo hi window) (first : a ∈ window j)
    (passed : rank before (window j) a < j * size) (later : j ≤ k) (last : a ∈ window k) :
    rank before (window k) a < k * size := by
  induction k, later using Nat.le_induction with
  | base => exact passed
  | succ k later ih =>
      have here := sliding.between first last later k.le_succ
      have before_ := ih here
      exact sliding.behind_succ here last (by omega)

/-- **No entry is read twice.** -/
theorem walk_once (sliding : Sliding key before rows lo hi window) (later : j < k)
    (first : a ∈ page (window j) size j) : a ∉ page (window k) size k := by
  intro again
  obtain ⟨here, -, read⟩ := (mem_page sliding.order (sliding.sorted j)).mp first
  obtain ⟨there, low, -⟩ := (mem_page sliding.order (sliding.sorted k)).mp again
  have next := sliding.between here there j.le_succ later
  have passed : rank before (window (j + 1)) a < (j + 1) * size :=
    sliding.behind_succ here next (by omega)
  exact absurd (sliding.behind next passed later there) (not_lt.mpr low)

/-- An entry that stays up to an empty page is read before, or overtaken. -/
theorem walk_cases (sliding : Sliding key before rows lo hi window) (positive : 0 < size)
    (stays : ∀ k ≤ n, a ∈ window k) (past : page (window n) size n = []) :
    ∃ k < n, a ∈ page (window k) size k ∨ Overtaken key before lo window size k a := by
  have ended : rank before (window n) a < n * size := by
    have inside := rank_lt_length sliding.order (sliding.sorted n) (stays n le_rfl)
    have empty := congrArg List.length past
    rw [length_page, List.length_nil] at empty
    omega
  have passes : ∃ k, k ≤ n ∧ rank before (window k) a < k * size := ⟨n, le_rfl, ended⟩
  obtain ⟨k, first⟩ : ∃ k, Nat.find passes = k + 1 := by
    refine Nat.exists_eq_succ_of_ne_zero fun zero => ?_
    have passed := (Nat.find_spec passes).2
    rw [zero, Nat.zero_mul] at passed
    exact Nat.not_lt_zero _ passed
  obtain ⟨before_, passed⟩ := Nat.find_spec passes
  rw [first] at before_ passed
  have reached : k * size ≤ rank before (window k) a := by
    by_contra behind
    exact Nat.find_min passes (first ▸ k.lt_succ_self) ⟨by omega, not_le.mp behind⟩
  have step := sliding.rank_succ (stays k (by omega)) (stays (k + 1) before_)
  rw [Nat.succ_mul] at passed
  refine ⟨k, before_, ?_⟩
  by_cases read : rank before (window k) a < k * size + size
  · exact .inl ((mem_page sliding.order (sliding.sorted k)).mpr
      ⟨stays k (by omega), reached, read⟩)
  · exact .inr ⟨not_lt.mp read, by omega⟩

/-- **Which entries are missed.**  An entry that stays up to an empty page is on a page before
exactly if it is never overtaken. -/
theorem walk_received (sliding : Sliding key before rows lo hi window) (positive : 0 < size)
    (stays : ∀ k ≤ n, a ∈ window k) (past : page (window n) size n = []) :
    (∃ k < n, a ∈ page (window k) size k) ↔
      ¬ ∃ k < n, Overtaken key before lo window size k a := by
  constructor
  · rintro ⟨j, within, read⟩ ⟨k, within', beyond, passed⟩
    obtain ⟨here, low, high⟩ := (mem_page sliding.order (sliding.sorted j)).mp read
    have there := stays k within'.le
    rcases lt_trichotomy j k with earlier | rfl | later
    · have next := stays (j + 1) within
      have passed : rank before (window (j + 1)) a < (j + 1) * size :=
        sliding.behind_succ here next (by omega)
      have last := sliding.behind next passed earlier there
      omega
    · omega
    · have next := stays (k + 1) within'
      have passed := sliding.behind next (sliding.behind_succ there next passed) later here
      omega
  · intro never
    obtain ⟨k, within, read | overtaken⟩ := sliding.walk_cases positive stays past
    · exact ⟨k, within, read⟩
    · exact absurd ⟨k, within, overtaken⟩ never

theorem walk_nodup (sliding : Sliding key before rows lo hi window) (size n : Nat) :
    ((List.range n).flatMap fun k => page (window k) size k).Nodup := by
  rw [List.nodup_flatMap]
  constructor
  · intro k _
    have distinct : (window k).Nodup := (sliding.sorted k).imp fun {a b} earlier same => by
      rw [same, sliding.order.irrefl] at earlier
      cases earlier
    exact distinct.sublist ((List.take_sublist _ _).trans (List.drop_sublist _ _))
  · exact List.pairwise_lt_range.imp fun earlier a first again =>
      sliding.walk_once earlier first again

/-- The client gets an empty page at last, and its offset is not far beyond the rows. -/
theorem walk_ends (sliding : Sliding key before rows lo hi window) (positive : 0 < size) :
    ∃ n, (∀ k < n, page (window k) size k ≠ []) ∧ page (window n) size n = [] ∧
      n * size < rows.length + size := by
  have part (k : Nat) : (window k).length ≤ rows.length := by
    rw [(sliding.perm k).length_eq]
    exact List.length_filter_le _ _
  have ends : ∃ n, page (window n) size n = [] := by
    refine ⟨rows.length, List.length_eq_zero_iff.mp ?_⟩
    have enough := Nat.le_mul_of_pos_right rows.length positive
    have some := part rows.length
    rw [length_page]
    omega
  refine ⟨Nat.find ends, fun k earlier => Nat.find_min ends earlier, Nat.find_spec ends, ?_⟩
  cases first : Nat.find ends with
  | zero =>
      rw [Nat.zero_mul]
      omega
  | succ k =>
      have full : page (window k) size k ≠ [] := Nat.find_min ends (first ▸ k.lt_succ_self)
      have some := List.length_pos_iff.mpr full
      have rest := part k
      rw [length_page] at some
      rw [Nat.succ_mul]
      omega

end Sliding

end

end Relational
