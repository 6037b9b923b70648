import Mathlib.Algebra.Order.Floor.Semiring
import Mathlib.Data.Int.ModEq
import Mathlib.Data.Nat.ModEq
import Mathlib.Tactic.Linarith
import Mathlib.Tactic.Ring

/-!
# A point that goes to and fro

A `Shuttle` moves on a track from `0` to `length`; where a move would carry it past an end,
it stops at that end and turns.

* `move_cases` says what one move can do.  `OnTrack` and `Headed` are its invariants, `Moved`
  is what it changes.
* With moves of one length the shuttle makes round trips of `2 * ⌈length / step⌉₊` moves, and
  `trip` is where it is on them (`after_atTrip`).
-/

namespace Kinematics

/-! ## Residues in a window -/

/-- Among as many successive numbers as there are residues, each residue occurs once. -/
theorem existsUnique_mod {period r : Nat} (below : r < period) (first : Nat) :
    ∃! n, (first ≤ n ∧ n < first + period) ∧ n % period = r := by
  have inside := Nat.mod_lt first (Nat.zero_lt_of_lt below)
  have gap := Nat.mod_lt (r + (period - first % period)) (Nat.zero_lt_of_lt below)
  have residue : (first + (r + (period - first % period)) % period) % period = r :=
    calc (first + (r + (period - first % period)) % period) % period
        = (first % period + (r + (period - first % period))) % period := by
          rw [Nat.add_mod_mod, ← Nat.mod_add_mod]
      _ = (r + period) % period := by congr 1; omega
      _ = r := by rw [Nat.add_mod_right, Nat.mod_eq_of_lt below]
  refine ⟨_, ⟨⟨Nat.le_add_right _ _, by omega⟩, residue⟩, fun n other => ?_⟩
  obtain ⟨within, same⟩ := other
  have congruent : n ≡ first + (r + (period - first % period)) % period [MOD period] :=
    same.trans residue.symm
  exact congruent.eq_of_abs_lt (abs_lt.mpr ⟨by omega, by omega⟩)

/-! ## Moves -/

/-- A point on the track, and which way it goes: `1` toward the far end, `-1` back. -/
structure Shuttle (K : Type*) where
  pos : K
  direction : Int

namespace Shuttle

theorem direction_ahead {K : Type*} [Ring K] {c : Shuttle K} (ahead : c.direction = 1) (x : K) :
    c.direction * x = x := by
  rw [ahead, Int.cast_one, one_mul]

theorem direction_back {K : Type*} [Ring K] {c : Shuttle K} (back : c.direction = -1) (x : K) :
    c.direction * x = -x := by
  rw [back, Int.cast_neg, Int.cast_one, neg_one_mul]

section

variable {K : Type*} [Field K] [LinearOrder K]

/-- Go on by `step`; at either end of the track stop there and turn. -/
def move (length step : K) (c : Shuttle K) : Shuttle K :=
  let pos := c.pos + c.direction * step
  if length ≤ pos then ⟨length, -1⟩ else if pos ≤ 0 then ⟨0, 1⟩ else ⟨pos, c.direction⟩

/-- After the first `n` of the steps. -/
def after (length : K) (steps : Nat → K) (c : Shuttle K) : Nat → Shuttle K
  | 0 => c
  | n + 1 => (after length steps c n).move length (steps n)

/-- On the track, and going one of the two ways. -/
structure OnTrack (length : K) (c : Shuttle K) : Prop where
  inside : 0 ≤ c.pos ∧ c.pos ≤ length
  direction : c.direction = 1 ∨ c.direction = -1

/-- At an end of the track it goes away from it. -/
structure Headed (length : K) (c : Shuttle K) : Prop where
  near : c.pos = 0 → c.direction = 1
  far : c.pos = length → c.direction = -1

/-- The whole step in the current direction, or a part of it that ends at an end of the track. -/
def Moved (length step : K) (c c' : Shuttle K) : Prop :=
  c'.pos = c.pos + c.direction * step ∨
    (c'.pos = 0 ∨ c'.pos = length) ∧
      ∃ part, 0 ≤ part ∧ part < step ∧ c'.pos = c.pos + c.direction * part

/-- What a move can do. -/
theorem move_cases (length step : K) (c : Shuttle K) :
    (length ≤ c.pos + c.direction * step ∧ c.move length step = ⟨length, -1⟩) ∨
      (c.pos + c.direction * step < length ∧ c.pos + c.direction * step ≤ 0 ∧
        c.move length step = ⟨0, 1⟩) ∨
      (c.pos + c.direction * step < length ∧ 0 < c.pos + c.direction * step ∧
        c.move length step = ⟨c.pos + c.direction * step, c.direction⟩) := by
  by_cases beyond : length ≤ c.pos + c.direction * step
  · exact .inl ⟨beyond, if_pos beyond⟩
  · by_cases before : c.pos + c.direction * step ≤ 0
    · exact .inr (.inl ⟨not_le.mp beyond, before, (if_neg beyond).trans (if_pos before)⟩)
    · exact .inr (.inr ⟨not_le.mp beyond, not_le.mp before,
        (if_neg beyond).trans (if_neg before)⟩)

variable {length step : K} {c c' : Shuttle K}

theorem OnTrack.move (on : c.OnTrack length) (positive : 0 < length) :
    (c.move length step).OnTrack length := by
  rcases move_cases length step c with ⟨-, moved⟩ | ⟨-, -, moved⟩ | ⟨below, above, moved⟩
  · exact moved ▸ ⟨⟨positive.le, le_rfl⟩, .inr rfl⟩
  · exact moved ▸ ⟨⟨le_rfl, positive.le⟩, .inl rfl⟩
  · exact moved ▸ ⟨⟨above.le, below.le⟩, on.direction⟩

/-- Whatever it did before, after a move it does not run against an end. -/
theorem headed_move (positive : 0 < length) : (c.move length step).Headed length := by
  rcases move_cases length step c with ⟨-, moved⟩ | ⟨-, -, moved⟩ | ⟨below, above, moved⟩
  · exact moved ▸ ⟨fun zero => (positive.ne' zero).elim, fun _ => rfl⟩
  · exact moved ▸ ⟨fun _ => rfl, fun far => (positive.ne far).elim⟩
  · exact moved ▸ ⟨fun zero => (above.ne' zero).elim, fun far => (below.ne far).elim⟩

/-- A part of a step is the whole of it or less. -/
theorem Moved.of_part (part : K) (some : 0 ≤ part) (most : part ≤ step)
    (ends : c'.pos = 0 ∨ c'.pos = length) (went : c'.pos = c.pos + c.direction * part) :
    c.Moved length step c' := by
  rcases most.eq_or_lt with rfl | less
  · exact .inl went
  · exact .inr ⟨ends, part, some, less, went⟩

/-- Without a step, it stays at an end that it goes away from. -/
theorem Headed.move_zero (headed : c.Headed length) (positive : 0 < length)
    (ends : c.pos = 0 ∨ c.pos = length) : c.move length 0 = c := by
  obtain ⟨pos, direction⟩ := c
  rcases ends with near | far
  · obtain rfl : pos = 0 := near
    obtain rfl : direction = 1 := headed.near rfl
    simp [Shuttle.move, positive.not_ge]
  · obtain rfl : pos = length := far
    obtain rfl : direction = -1 := headed.far rfl
    simp [Shuttle.move]

/-- **Run.** -/
theorem OnTrack.after {steps : Nat → K} (on : c.OnTrack length) (positive : 0 < length) (n : Nat) :
    (c.after length steps n).OnTrack length := by
  induction n with
  | zero => exact on
  | succ n ih => exact ih.move positive

/-- It waits at an end for as long as the steps are zero. -/
theorem Headed.after_zeros {steps : Nat → K} (positive : 0 < length) {n wait : Nat}
    (headed : (c.after length steps n).Headed length)
    (ends : (c.after length steps n).pos = 0 ∨ (c.after length steps n).pos = length)
    (still : ∀ i < wait, steps (n + i) = 0) :
    c.after length steps (n + wait) = c.after length steps n := by
  induction wait with
  | zero => rfl
  | succ wait ih =>
      have before := ih fun i less => still i (Nat.lt_succ_of_lt less)
      rw [← Nat.add_assoc, Shuttle.after, before, still wait (Nat.lt_succ_self wait)]
      exact headed.move_zero positive ends

variable [IsStrictOrderedRing K]

theorem OnTrack.moved (on : c.OnTrack length) (nonneg : 0 ≤ step) :
    c.Moved length step (c.move length step) := by
  obtain ⟨low, high⟩ := on.inside
  rcases move_cases length step c with ⟨beyond, moved⟩ | ⟨-, before, moved⟩ | ⟨-, -, moved⟩
  · rw [moved]
    rcases on.direction with ahead | back
    · rw [direction_ahead ahead] at beyond
      refine .of_part (length - c.pos) (by linarith) (by linarith) (.inr rfl) ?_
      rw [direction_ahead ahead, add_sub_cancel]
    · -- Going back, it is beyond the far end only when it stands there.
      rw [direction_back back] at beyond
      refine .of_part 0 le_rfl nonneg (.inr rfl) ?_
      rw [mul_zero, add_zero]
      exact le_antisymm (by linarith) high
  · rw [moved]
    rcases on.direction with ahead | back
    · rw [direction_ahead ahead] at before
      refine .of_part 0 le_rfl nonneg (.inl rfl) ?_
      rw [mul_zero, add_zero]
      exact le_antisymm low (by linarith)
    · rw [direction_back back] at before
      refine .of_part c.pos low (by linarith) (.inl rfl) ?_
      rw [direction_back back, add_neg_cancel]
  · exact .inl (by rw [moved])

/-- Any step takes it away from such an end. -/
theorem Headed.leaves (headed : c.Headed length) (positive : 0 < length) (goes : 0 < step) :
    (c.pos = 0 → 0 < (c.move length step).pos) ∧
      (c.pos = length → (c.move length step).pos < length) := by
  rcases move_cases length step c with ⟨beyond, moved⟩ | ⟨-, before, moved⟩ | ⟨below, above, moved⟩
  · refine ⟨fun _ => by rw [moved]; exact positive, fun far => ?_⟩
    rw [far, direction_back (headed.far far)] at beyond
    linarith
  · refine ⟨fun near => ?_, fun _ => by rw [moved]; exact positive⟩
    rw [near, direction_ahead (headed.near near)] at before
    linarith
  · exact ⟨fun _ => by rw [moved]; exact above, fun _ => by rw [moved]; exact below⟩

/-! ## Round trips -/

variable [FloorSemiring K]

/-- Where it is after `k` moves of a round trip whose way out takes `turn` of them. -/
def trip (length step : K) (turn k : Nat) : K :=
  if k ≤ turn then min (k * step) length else max (length - (k - turn) * step) 0

/-- The place on the trip, and the way it goes there. -/
def atTrip (length step : K) (turn k : Nat) : Shuttle K :=
  ⟨trip length step turn k, if k < turn then 1 else -1⟩

section

variable {k : Nat}

/-- So many steps reach the far end exactly when they are enough for the turn. -/
theorem le_out_iff (goes : 0 < step) : length ≤ k * step ↔ ⌈length / step⌉₊ ≤ k := by
  rw [Nat.ceil_le, div_le_iff₀ goes]

theorem out_lt_iff (goes : 0 < step) : k * step < length ↔ k < ⌈length / step⌉₊ := by
  rw [← not_le, le_out_iff goes, not_le]

theorem atTrip_out (goes : 0 < step) (out : k < ⌈length / step⌉₊) :
    atTrip length step ⌈length / step⌉₊ k = ⟨k * step, 1⟩ := by
  rw [atTrip, trip, if_pos out.le, min_eq_left ((out_lt_iff goes).mpr out).le, if_pos out]

/-- On the way back, `back` steps from the turn. -/
theorem atTrip_back (goes : 0 < step) {back : Nat} (within : back < ⌈length / step⌉₊) :
    atTrip length step ⌈length / step⌉₊ (⌈length / step⌉₊ + back) =
      ⟨length - back * step, -1⟩ := by
  rw [atTrip, if_neg (by omega), trip]
  cases back with
  | zero =>
      have turned : length ≤ ⌈length / step⌉₊ * step := (le_out_iff goes).mpr le_rfl
      rw [Nat.add_zero, if_pos le_rfl, min_eq_right turned, Nat.cast_zero, zero_mul, sub_zero]
  | succ back =>
      have short : (back + 1 : Nat) * step < length := (out_lt_iff goes).mpr within
      rw [if_neg (by omega), Nat.cast_add, add_sub_cancel_left,
        max_eq_left (sub_nonneg.mpr short.le)]

/-- A place on a round trip is on the way out, or so many steps after the turn. -/
theorem out_or_back {turn : Nat} (within : k < 2 * turn) :
    k < turn ∨ ∃ back < turn, k = turn + back := by
  rcases Nat.lt_or_ge k turn with out | turned
  · exact .inl out
  · exact .inr ⟨k - turn, by omega, (Nat.add_sub_cancel' turned).symm⟩

/-- A step out. -/
theorem move_out (goes : 0 < step) (out : k < ⌈length / step⌉₊) :
    move length step ⟨k * step, 1⟩ = atTrip length step ⌈length / step⌉₊ (k + 1) := by
  have further : (k : K) * step + (1 : Int) * step = (k + 1 : Nat) * step := by
    push_cast
    ring
  rw [move, further]
  rcases Nat.lt_or_ge (k + 1) ⌈length / step⌉₊ with still | turns
  · have short : (k + 1 : Nat) * step < length := (out_lt_iff goes).mpr still
    have some : 0 < ((k + 1 : Nat) : K) * step := mul_pos (Nat.cast_pos.mpr k.succ_pos) goes
    rw [if_neg short.not_ge, if_neg some.not_ge, atTrip_out goes still]
  · have turn : k + 1 = ⌈length / step⌉₊ + 0 := by omega
    rw [if_pos ((le_out_iff goes).mpr turns), turn, atTrip_back goes (by omega), Nat.cast_zero,
      zero_mul, sub_zero]

/-- A step back; the last one ends the trip. -/
theorem move_back (goes : 0 < step) {back : Nat} (within : back < ⌈length / step⌉₊) :
    move length step ⟨length - back * step, -1⟩ =
      atTrip length step ⌈length / step⌉₊
        ((⌈length / step⌉₊ + back + 1) % (2 * ⌈length / step⌉₊)) := by
  have further : length - back * step + (-1 : Int) * step = length - (back + 1 : Nat) * step := by
    push_cast
    ring
  have below : length - (back + 1 : Nat) * step < length :=
    sub_lt_self _ (mul_pos (Nat.cast_pos.mpr back.succ_pos) goes)
  rw [move, further, if_neg below.not_ge]
  rcases Nat.lt_or_ge (back + 1) ⌈length / step⌉₊ with still | home
  · have short : (back + 1 : Nat) * step < length := (out_lt_iff goes).mpr still
    rw [if_neg (sub_pos.mpr short).not_ge, Nat.mod_eq_of_lt (by omega), Nat.add_assoc,
      atTrip_back goes still]
  · have round : ⌈length / step⌉₊ + back + 1 = 2 * ⌈length / step⌉₊ := by omega
    rw [if_pos (sub_nonpos.mpr ((le_out_iff goes).mpr home)), round, Nat.mod_self,
      atTrip_out goes (by omega), Nat.cast_zero, zero_mul]

/-- **Step.** -/
theorem move_atTrip (goes : 0 < step) (within : k < 2 * ⌈length / step⌉₊) :
    (atTrip length step ⌈length / step⌉₊ k).move length step =
      atTrip length step ⌈length / step⌉₊ ((k + 1) % (2 * ⌈length / step⌉₊)) := by
  rcases out_or_back within with out | ⟨back, less, rfl⟩
  · rw [atTrip_out goes out, move_out goes out, Nat.mod_eq_of_lt (by omega)]
  · rw [atTrip_back goes less, move_back goes less]

/-- On a round trip it is at the far end at the turn only, and at the near end at the start
only. -/
theorem atTrip_ends (goes : 0 < step) (within : k < 2 * ⌈length / step⌉₊) :
    ((atTrip length step ⌈length / step⌉₊ k).pos = length ↔ k = ⌈length / step⌉₊) ∧
      ((atTrip length step ⌈length / step⌉₊ k).pos = 0 ↔ k = 0) := by
  rcases out_or_back within with out | ⟨back, less, rfl⟩
  · have short : k * step < length := (out_lt_iff goes).mpr out
    rw [atTrip_out goes out]
    refine ⟨⟨fun far => (short.ne far).elim, fun far => (out.ne far).elim⟩, ?_⟩
    rw [mul_eq_zero, Nat.cast_eq_zero, or_iff_left goes.ne']
  · have short : back * step < length := (out_lt_iff goes).mpr less
    rw [atTrip_back goes less]
    refine ⟨?_, ⟨fun near => ((sub_pos.mpr short).ne' near).elim, fun near => by omega⟩⟩
    rw [sub_eq_self, mul_eq_zero, Nat.cast_eq_zero, or_iff_left goes.ne', Nat.add_eq_left]

/-- **Run.**  The shuttle goes round and round. -/
theorem after_atTrip {steps : Nat → K} (positive : 0 < length) (goes : 0 < step)
    (same : ∀ n, steps n = step) (start : c.pos = 0 ∧ c.direction = 1) (n : Nat) :
    c.after length steps n =
      atTrip length step ⌈length / step⌉₊ (n % (2 * ⌈length / step⌉₊)) := by
  have turns : 0 < ⌈length / step⌉₊ := Nat.ceil_pos.mpr (div_pos positive goes)
  induction n with
  | zero =>
      obtain ⟨pos, direction⟩ := c
      obtain ⟨rfl, rfl⟩ := start
      rw [Nat.zero_mod, atTrip_out goes turns, Nat.cast_zero, zero_mul]
      rfl
  | succ n ih =>
      rw [after, ih, same, move_atTrip goes (Nat.mod_lt _ (by omega)), Nat.mod_add_mod]

/-- In each `2 * ⌈length / step⌉₊` successive moments it is once at the far end and once at the
near one. -/
theorem after_ends_once {steps : Nat → K} (positive : 0 < length) (goes : 0 < step)
    (same : ∀ n, steps n = step) (start : c.pos = 0 ∧ c.direction = 1) (first : Nat) :
    (∃! n, (first ≤ n ∧ n < first + 2 * ⌈length / step⌉₊) ∧
        (c.after length steps n).pos = length) ∧
      ∃! n, (first ≤ n ∧ n < first + 2 * ⌈length / step⌉₊) ∧ (c.after length steps n).pos = 0 := by
  have turns : 0 < ⌈length / step⌉₊ := Nat.ceil_pos.mpr (div_pos positive goes)
  have within (n : Nat) : n % (2 * ⌈length / step⌉₊) < 2 * ⌈length / step⌉₊ :=
    Nat.mod_lt n (by omega)
  have ends (n : Nat) := atTrip_ends goes (within n)
  simp only [after_atTrip positive goes same start, ends]
  exact ⟨existsUnique_mod (by omega) first, existsUnique_mod (by omega) first⟩

end

end

end Shuttle

end Kinematics
