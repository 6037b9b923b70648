import Mathlib.Data.Rat.Floor
import Mathlib.Algebra.Order.Ring.Int
import Mathlib.Tactic.Linarith
import Mathlib.Tactic.FieldSimp

/-!
# Numbers, JSON documents and datetimes

`Number` is what a `float`, a `Decimal` or a `NUMERIC` column can hold: the finite numbers
exactly, and the three values that are not finite.  A `Datetime` shows its wall clock in
microseconds since 1970 and may carry a UTC offset; wall clocks outside the years 1 to 9999
do not exist, and neither do sums that lead there.
-/

namespace Python

/-! ## Numbers -/

inductive Number
  | nan
  | negInf
  | fin (q : ℚ)
  | posInf
deriving DecidableEq

namespace Number

/-- `x < y`; false whenever one side is NaN. -/
def lt : Number → Number → Bool
  | .nan, _ => false
  | _, .nan => false
  | .fin a, .fin b => a < b
  | .negInf, y => y ≠ .negInf
  | x, .posInf => x ≠ .posInf
  | _, _ => false

/-- `x == y`; NaN differs from itself. -/
def eq : Number → Number → Bool
  | .nan, _ => false
  | x, y => x = y

/-- `x <= y`; false whenever one side is NaN. -/
def le (x y : Number) : Bool := x.lt y || x.eq y

/-- The nearest multiple of `10 ^ -scale` to `q`, halves away from zero. -/
def roundHalfUp (scale : Nat) (q : ℚ) : ℚ :=
  let size : ℚ := (⌊|q| * 10 ^ scale + 1 / 2⌋ : ℚ) / 10 ^ scale
  if 0 ≤ q then size else -size

/-- What a `NUMERIC(_, scale)` column stores for a number it is given. -/
def quantize (scale : Nat) : Number → Number
  | .fin q => .fin (roundHalfUp scale q)
  | x => x

def isFinite : Number → Bool
  | .fin _ => true
  | _ => false

theorem eq_iff {x y : Number} : x.eq y = true ↔ x = y ∧ x ≠ .nan := by
  cases x <;> simp [eq]

theorem fin_le {a b : ℚ} : (fin a).le (.fin b) = true ↔ a ≤ b := by
  simp [le, lt, eq, le_iff_lt_or_eq]

theorem roundHalfUp_of_nonneg {scale : Nat} {q : ℚ} (nonneg : 0 ≤ q) :
    roundHalfUp scale q = (⌊q * 10 ^ scale + 1 / 2⌋ : ℚ) / 10 ^ scale := by
  simp only [roundHalfUp, if_pos nonneg, abs_of_nonneg nonneg]

theorem roundHalfUp_neg (scale : Nat) (q : ℚ) :
    roundHalfUp scale (-q) = -roundHalfUp scale q := by
  rcases lt_trichotomy q 0 with negative | rfl | positive
  · simp only [roundHalfUp, abs_neg, if_neg negative.not_ge, if_pos (neg_pos.mpr negative).le,
      neg_neg]
  · norm_num [roundHalfUp]
  · simp only [roundHalfUp, abs_neg, if_pos positive.le, if_neg (neg_neg_of_pos positive).not_ge]

/-- Rounding does not cross a whole number from below. -/
theorem roundHalfUp_le {scale : Nat} {q : ℚ} {n : ℤ} (below : q ≤ n) :
    roundHalfUp scale q ≤ n := by
  have power : (0 : ℚ) < 10 ^ scale := by positivity
  rcases le_total 0 q with nonneg | nonpos
  · rw [roundHalfUp_of_nonneg nonneg, div_le_iff₀ power]
    have scaled : q * 10 ^ scale ≤ n * 10 ^ scale := by gcongr
    have floor : ⌊q * 10 ^ scale + 1 / 2⌋ ≤ n * 10 ^ scale := by
      refine Int.lt_add_one_iff.mp (Int.floor_lt.mpr ?_)
      push_cast
      linarith
    exact_mod_cast floor
  · have mirror : roundHalfUp scale q = -roundHalfUp scale (-q) := by
      rw [roundHalfUp_neg, neg_neg]
    rw [mirror, roundHalfUp_of_nonneg (neg_nonneg.mpr nonpos), neg_le, le_div_iff₀ power]
    have scaled : -n * 10 ^ scale ≤ -q * 10 ^ scale := by gcongr
    have floor : -n * 10 ^ scale ≤ ⌊-q * 10 ^ scale + 1 / 2⌋ := by
      refine Int.le_floor.mpr ?_
      push_cast
      linarith
    exact_mod_cast floor

/-- Rounding does not cross a whole number from above. -/
theorem le_roundHalfUp {scale : Nat} {q : ℚ} {n : ℤ} (above : n ≤ q) :
    n ≤ roundHalfUp scale q := by
  have mirrored : roundHalfUp scale (-q) ≤ ((-n : ℤ) : ℚ) :=
    roundHalfUp_le (by push_cast; linarith)
  rw [roundHalfUp_neg] at mirrored
  push_cast at mirrored
  linarith

/-- It takes half a unit more than a whole number to be rounded to above it. -/
theorem lt_roundHalfUp_iff {scale : Nat} {q : ℚ} {n : ℤ} (nonneg : 0 ≤ q) :
    n < roundHalfUp scale q ↔ n + 1 / (2 * 10 ^ scale) ≤ q := by
  have power : (0 : ℚ) < 10 ^ scale := by positivity
  rw [roundHalfUp_of_nonneg nonneg, lt_div_iff₀ power]
  have units : (n : ℚ) * 10 ^ scale < ⌊q * 10 ^ scale + 1 / 2⌋ ↔
      n * 10 ^ scale + 1 ≤ ⌊q * 10 ^ scale + 1 / 2⌋ := by
    rw [← Int.lt_iff_add_one_le]
    exact_mod_cast Iff.rfl
  have half : (n : ℚ) + 1 / (2 * 10 ^ scale) ≤ q ↔
      (n : ℚ) * 10 ^ scale + 1 / 2 ≤ q * 10 ^ scale := by
    rw [← mul_le_mul_iff_of_pos_right power]
    field_simp
  rw [units, half, Int.le_floor]
  push_cast
  constructor <;> intro bound <;> linarith

/-- `round(q, scale)`: the nearest multiple of `10 ^ -scale` to `q`, halves to the even one. -/
def roundHalfEven (scale : Nat) (q : ℚ) : ℚ :=
  let below := ⌊q * 10 ^ scale⌋
  let rest := q * 10 ^ scale - below
  let nearest := if rest < 1 / 2 ∨ (rest = 1 / 2 ∧ below % 2 = 0) then below else below + 1
  (nearest : ℚ) / 10 ^ scale

/-- Nor does Python's rounding cross a whole number from below. -/
theorem roundHalfEven_le {scale : Nat} {q : ℚ} {n : ℤ} (below : q ≤ n) :
    roundHalfEven scale q ≤ n := by
  have power : (0 : ℚ) < 10 ^ scale := by positivity
  have scaled : q * 10 ^ scale ≤ n * 10 ^ scale := by gcongr
  have floor := Int.floor_le (q * 10 ^ scale)
  simp only [roundHalfEven]
  rw [div_le_iff₀ power]
  split
  · exact floor.trans scaled
  · next up =>
      have rest : 1 / 2 ≤ q * 10 ^ scale - ⌊q * 10 ^ scale⌋ := not_lt.mp fun low => up (.inl low)
      have lower : ⌊q * 10 ^ scale⌋ < n * 10 ^ scale := by
        have step : (⌊q * 10 ^ scale⌋ : ℚ) < n * 10 ^ scale := by linarith
        exact_mod_cast step
      exact_mod_cast Int.add_one_le_iff.mpr lower

/-- Nor from above. -/
theorem le_roundHalfEven {scale : Nat} {q : ℚ} {n : ℤ} (above : n ≤ q) :
    n ≤ roundHalfEven scale q := by
  have power : (0 : ℚ) < 10 ^ scale := by positivity
  have scaled : n * 10 ^ scale ≤ q * 10 ^ scale := by gcongr
  have floor : n * 10 ^ scale ≤ ⌊q * 10 ^ scale⌋ := Int.le_floor.mpr (by exact_mod_cast scaled)
  have floor' : (n : ℚ) * 10 ^ scale ≤ ⌊q * 10 ^ scale⌋ := by exact_mod_cast floor
  simp only [roundHalfEven]
  rw [le_div_iff₀ power]
  split
  · exact floor'
  · push_cast
    linarith

/-- A number that has been rounded stays as it is. -/
theorem roundHalfUp_roundHalfUp (scale : Nat) (q : ℚ) :
    roundHalfUp scale (roundHalfUp scale q) = roundHalfUp scale q := by
  have power : (0 : ℚ) < 10 ^ scale := by positivity
  -- Rounding lands on a whole number of units, and half a unit more has the same floor.
  have ofNonneg : ∀ q : ℚ, 0 ≤ q →
      roundHalfUp scale (roundHalfUp scale q) = roundHalfUp scale q := by
    intro q nonneg
    have floor : 0 ≤ ⌊q * 10 ^ scale + 1 / 2⌋ := Int.floor_nonneg.mpr (by positivity)
    have size : 0 ≤ (⌊q * 10 ^ scale + 1 / 2⌋ : ℚ) / 10 ^ scale :=
      div_nonneg (by exact_mod_cast floor) power.le
    rw [roundHalfUp_of_nonneg nonneg, roundHalfUp_of_nonneg size, div_mul_cancel₀ _ power.ne',
      Int.floor_intCast_add]
    norm_num
  rcases le_total 0 q with nonneg | nonpos
  · exact ofNonneg q nonneg
  · have mirrored := ofNonneg (-q) (neg_nonneg.mpr nonpos)
    rwa [roundHalfUp_neg, roundHalfUp_neg, neg_inj] at mirrored

/-- A whole number of units stays as it is. -/
theorem roundHalfUp_units (scale : Nat) (n : ℤ) :
    roundHalfUp scale (n / 10 ^ scale) = n / 10 ^ scale := by
  have power : (0 : ℚ) < 10 ^ scale := by positivity
  have ofNonneg : ∀ n : ℤ, 0 ≤ n → roundHalfUp scale (n / 10 ^ scale) = n / 10 ^ scale := by
    intro n nonneg
    have size : (0 : ℚ) ≤ n / 10 ^ scale := div_nonneg (by exact_mod_cast nonneg) power.le
    rw [roundHalfUp_of_nonneg size, div_mul_cancel₀ _ power.ne', Int.floor_intCast_add]
    norm_num
  rcases le_total 0 n with nonneg | nonpos
  · exact ofNonneg n nonneg
  · have mirrored := ofNonneg (-n) (neg_nonneg.mpr nonpos)
    rwa [Int.cast_neg, neg_div, roundHalfUp_neg, neg_inj] at mirrored

/-- A column with enough decimals keeps what Python has rounded. -/
theorem roundHalfUp_roundHalfEven {coarse fine : Nat} (enough : coarse ≤ fine) (q : ℚ) :
    roundHalfUp fine (roundHalfEven coarse q) = roundHalfEven coarse q := by
  obtain ⟨more, rfl⟩ := Nat.exists_eq_add_of_le enough
  obtain ⟨units, rounded⟩ : ∃ units : ℤ, roundHalfEven coarse q = units / 10 ^ coarse := ⟨_, rfl⟩
  have finer : (units : ℚ) / 10 ^ coarse = (units * 10 ^ more : ℤ) / 10 ^ (coarse + more) := by
    push_cast
    rw [pow_add]
    field_simp
  rw [rounded, finer, roundHalfUp_units]

@[simp] theorem quantize_quantize (scale : Nat) (x : Number) :
    (x.quantize scale).quantize scale = x.quantize scale := by
  cases x <;> simp [quantize, roundHalfUp_roundHalfUp]

example : quantize 2 (.fin (1001 / 200)) = .fin (501 / 100) := by decide +kernel
example : quantize 2 (.fin (-1001 / 200)) = .fin (-501 / 100) := by decide +kernel
example : roundHalfEven 1 (1 / 4) = 1 / 5 := by decide +kernel

end Number

/-- A finite number between the bounds. -/
def InRange (lo hi : ℚ) (x : Number) : Prop := ∃ q, x = .fin q ∧ lo ≤ q ∧ q ≤ hi

theorem InRange.ne_nan {lo hi : ℚ} {x : Number} (inRange : InRange lo hi x) : x ≠ .nan := by
  obtain ⟨q, rfl, _⟩ := inRange
  exact Number.noConfusion

/-- A column rounds, and rounding keeps within whole bounds. -/
theorem InRange.quantize {lo hi : ℚ} {x : Number} (inRange : InRange lo hi x)
    (l h : ℤ) (low : l = lo) (high : h = hi) (scale : Nat) :
    InRange lo hi (x.quantize scale) := by
  subst low
  subst high
  obtain ⟨q, rfl, above, below⟩ := inRange
  exact ⟨_, rfl, Number.le_roundHalfUp above, Number.roundHalfUp_le below⟩

/-- The values of a `NUMERIC(_, scale)` column. -/
abbrev Numeric (scale : Nat) := {x : Number // x.quantize scale = x}

/-- What the column stores for `x`. -/
def Numeric.of (scale : Nat) (x : Number) : Numeric scale :=
  ⟨x.quantize scale, x.quantize_quantize scale⟩

/-- A stored value is stored as it is. -/
@[simp] theorem Numeric.of_val {scale : Nat} (x : Numeric scale) : Numeric.of scale x.1 = x :=
  Subtype.ext x.2

/-! ## JSON documents -/

inductive Json
  | null
  | bool (b : Bool)
  | int (n : Int)
  | float (x : Number)
  | str (s : String)
  | arr (items : List Json)
  | obj (members : List (String × Json))

/-- The value under a key of an object. -/
def Json.field? (key : String) : Json → Option Json
  | .obj members => (members.find? fun m => m.1 = key).map Prod.snd
  | _ => none

/-! ## Datetimes -/

/-- `datetime.min`, as microseconds since 1970. -/
def minWall : Int := -62135596800000000

/-- One microsecond after `datetime.max`. -/
def endWall : Int := 253402300800000000

/-- A `datetime`: its wall clock and, unless it is naive, its UTC offset. -/
structure Datetime where
  wall : Int
  offset : Option Int
  representable : minWall ≤ wall ∧ wall < endWall
deriving DecidableEq

namespace Datetime

/-- 1970-01-01T00:00:00Z -/
def epoch : Datetime := ⟨0, some 0, by decide⟩

def isAware (d : Datetime) : Bool := d.offset.isSome

/-- The instant an aware datetime denotes; a naive one is read as UTC. -/
def instant (d : Datetime) : Int := d.wall - d.offset.getD 0

/-- `d.replace(tzinfo=UTC)` -/
def replaceUtc (d : Datetime) : Datetime := { d with offset := some 0 }

/-- `d + delta`; `none` is the `OverflowError`. -/
def add (d : Datetime) (delta : Int) : Option Datetime :=
  if h : minWall ≤ d.wall + delta ∧ d.wall + delta < endWall then
    some ⟨d.wall + delta, d.offset, h⟩
  else none

end Datetime

/-- `timedelta(seconds=n)` -/
def seconds (n : Int) : Int := n * 1000000

end Python
