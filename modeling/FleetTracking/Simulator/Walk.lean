import FleetTracking.Python.Bisect
import Mathlib.Data.Rat.Floor

/-!
# Route walking

A bus is a distance along a polyline and a direction.  The arithmetic is exact, and
`haversineM` is any function that gives two points a non-negative distance.

`MeasuredPath` is the polyline of a walker with any lengths for its segments; `BusWalker.path`
has those that `haversineM` gives.
-/

namespace FleetTracking.Simulator

open Python

/-- (lat, lng) -/
abbrev Waypoint := ℚ × ℚ

/-- `_haversine_m`, in metres. -/
abbrev Haversine := Waypoint → Waypoint → {m : ℚ // 0 ≤ m}

/-- The distance of each waypoint from the first one, along the path. -/
def cumulativeM (haversineM : Haversine) (waypoints : List Waypoint) : List ℚ :=
  (waypoints.zipWith (fun a b => (haversineM a b).1) waypoints.tail).scanl (· + ·) 0

/-- `a + (b - a) * t`, in both coordinates. -/
def interpolate (a b : Waypoint) (t : ℚ) : Waypoint :=
  (a.1 + (b.1 - a.1) * t, a.2 + (b.2 - a.2) * t)

/-- Position of one bus along one route polyline (metres along the path). -/
structure BusWalker (haversineM : Haversine) where
  waypoints : List Waypoint
  distanceM : ℚ
  /-- +1 toward the last waypoint, -1 back toward the first. -/
  direction : Int
  cumulative : List ℚ
  walkable : 2 ≤ waypoints.length
  cumulative_eq : cumulative = cumulativeM haversineM waypoints

namespace BusWalker

variable {haversineM : Haversine}

/-- `__post_init__`; `none` is the `ValueError`. -/
def new (haversineM : Haversine) (waypoints : List Waypoint) (distanceM : ℚ) :
    Option (BusWalker haversineM) :=
  if walkable : 2 ≤ waypoints.length then
    some ⟨waypoints, distanceM, 1, cumulativeM haversineM waypoints, walkable, rfl⟩
  else none

/-- `_cumulative[-1]` -/
def totalM (w : BusWalker haversineM) : ℚ := w.cumulative.getLastD 0

/-- Move by speed*dt; bounce direction at the termini. -/
def advance (w : BusWalker haversineM) (speedKmh dtSeconds : ℚ) : BusWalker haversineM :=
  let stepM := speedKmh * 1000 * dtSeconds / 3600
  let distanceM := w.distanceM + w.direction * stepM
  if w.totalM ≤ distanceM then { w with distanceM := w.totalM, direction := -1 }
  else if distanceM ≤ 0 then { w with distanceM := 0, direction := 1 }
  else { w with distanceM }

/-- Linear interpolation inside the segment containing `distanceM`; `none` is an
`IndexError`. -/
def position (w : BusWalker haversineM) : Option Waypoint :=
  if w.totalM ≤ w.distanceM then w.waypoints.getLast?
  else
    let idx : Int := bisectRight w.cumulative w.distanceM - 1
    let idx := (max 0 (min idx (w.waypoints.length - 2))).toNat
    match w.cumulative[idx]?, w.cumulative[idx + 1]?, w.waypoints[idx]?, w.waypoints[idx + 1]? with
    | some segStart, some segEnd, some a, some b =>
        let segLen := segEnd - segStart
        let t := if segLen = 0 then 0 else (w.distanceM - segStart) / segLen
        some (interpolate a b t)
    | _, _, _, _ => none

end BusWalker

/-! ## Sums of lengths -/

/-- Running sums of non-negative numbers do not fall below the start, and increase. -/
theorem scanl_sorted {lengths : List ℚ} (nonneg : ∀ m ∈ lengths, 0 ≤ m) (start : ℚ) :
    (∀ s ∈ lengths.scanl (· + ·) start, start ≤ s) ∧
      (lengths.scanl (· + ·) start).Pairwise (· ≤ ·) := by
  induction lengths generalizing start with
  | nil => simp
  | cons m lengths ih =>
      have first : start ≤ start + m := le_add_of_nonneg_right (nonneg m List.mem_cons_self)
      obtain ⟨above, sorted⟩ := ih (fun l later => nonneg l (List.mem_cons_of_mem _ later))
        (start + m)
      have rest : ∀ s ∈ lengths.scanl (· + ·) (start + m), start ≤ s :=
        fun s member => first.trans (above s member)
      rw [List.scanl_cons]
      refine ⟨fun s member => ?_, List.pairwise_cons.mpr ⟨rest, sorted⟩⟩
      rcases List.mem_cons.mp member with rfl | later
      · exact le_rfl
      · exact rest s later

/-! ## A path and its lengths -/

/-- A polyline, and a length for each of its segments. -/
structure MeasuredPath where
  waypoints : List Waypoint
  lengths : List ℚ
  walkable : 2 ≤ waypoints.length
  each : lengths.length + 1 = waypoints.length
  nonneg : ∀ m ∈ lengths, 0 ≤ m

namespace MeasuredPath

/-- `_cumulative` -/
def cumulative (path : MeasuredPath) : List ℚ := path.lengths.scanl (· + ·) 0

/-- `total_m` -/
def totalM (path : MeasuredPath) : ℚ := path.cumulative.getLastD 0

variable {path : MeasuredPath}

theorem length_cumulative : path.cumulative.length = path.waypoints.length := by
  rw [cumulative, List.length_scanl, path.each]

theorem sorted_cumulative : path.cumulative.Pairwise (· ≤ ·) := (scanl_sorted path.nonneg 0).2

theorem cumulative_zero : path.cumulative[0]? = some 0 := List.getElem?_scanl_zero

theorem cumulative_last : path.cumulative[path.waypoints.length - 1]? = some path.totalM := by
  rw [totalM, ← length_cumulative, ← List.getLast?_eq_getElem?, List.getLastD_eq_getLast?]
  cases last : path.cumulative.getLast? with
  | none =>
      have zero : path.cumulative[0]? = some 0 := cumulative_zero
      rw [List.getLast?_eq_none_iff.mp last] at zero
      cases zero
  | some total => rfl

theorem totalM_nonneg : 0 ≤ path.totalM :=
  (scanl_sorted path.nonneg 0).1 _ (List.mem_of_getElem? cumulative_last)

end MeasuredPath

namespace BusWalker

variable {haversineM : Haversine} {w : BusWalker haversineM}

/-- The polyline of a walker, with the distances between its waypoints. -/
def path (w : BusWalker haversineM) : MeasuredPath where
  waypoints := w.waypoints
  lengths := w.waypoints.zipWith (fun a b => (haversineM a b).1) w.waypoints.tail
  walkable := w.walkable
  each := by
    have walkable := w.walkable
    rw [List.length_zipWith, List.length_tail]
    omega
  nonneg m member := by
    obtain ⟨i, found⟩ := List.getElem?_of_mem member
    obtain ⟨a, b, _, _, rfl⟩ := List.getElem?_zipWith_eq_some.mp found
    exact (haversineM a b).2

theorem path_cumulative : w.path.cumulative = w.cumulative := w.cumulative_eq.symm

theorem path_totalM : w.path.totalM = w.totalM := by
  rw [MeasuredPath.totalM, path_cumulative, totalM]

/-- **Step.**  After a move the distance is on the path, whatever it was before and whichever
way and however far the bus went. -/
theorem advance_distance (speedKmh dtSeconds : ℚ) :
    0 ≤ (w.advance speedKmh dtSeconds).distanceM := by
  unfold advance
  dsimp only
  split_ifs with beyond before
  · exact path_totalM (w := w) ▸ MeasuredPath.totalM_nonneg
  · exact le_rfl
  · exact (not_le.mp before).le

@[simp] theorem advance_waypoints (speedKmh dtSeconds : ℚ) :
    (w.advance speedKmh dtSeconds).waypoints = w.waypoints := by
  unfold advance
  dsimp only
  split_ifs <;> rfl

end BusWalker

end FleetTracking.Simulator
