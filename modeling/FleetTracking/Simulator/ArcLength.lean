import FleetTracking.Simulator.Walk
import Mathlib.Analysis.Convex.Basic
import Mathlib.Order.Bounds.Defs
import Mathlib.Tactic.FieldSimp
import Mathlib.Tactic.Linarith

/-!
# Where a walker is

`BusWalker.position` reads only the waypoints and the running lengths of the path, and
`MeasuredPath.position` is it for any lengths (`position_eq`).  Short of the end it is on the
segment that the distance falls into (`MeasuredPath.position_inside`).

`BusWalker.position_between` is what the caller needs: wherever a walker is, its position is
between two of its waypoints.
-/

namespace FleetTracking.Simulator

open Python

namespace MeasuredPath

/-- `idx` -/
def segmentIndex (path : MeasuredPath) (distanceM : ℚ) : Nat :=
  let idx : Int := bisectRight path.cumulative distanceM - 1
  (max 0 (min idx (path.waypoints.length - 2))).toNat

/-- `position` -/
def position (path : MeasuredPath) (distanceM : ℚ) : Option Waypoint :=
  if path.totalM ≤ distanceM then path.waypoints.getLast?
  else
    let idx := path.segmentIndex distanceM
    match path.cumulative[idx]?, path.cumulative[idx + 1]?, path.waypoints[idx]?,
      path.waypoints[idx + 1]? with
    | some segStart, some segEnd, some a, some b =>
        let segLen := segEnd - segStart
        let t := if segLen = 0 then 0 else (distanceM - segStart) / segLen
        some (interpolate a b t)
    | _, _, _, _ => none

end MeasuredPath

theorem BusWalker.position_eq {haversineM : Haversine} (w : BusWalker haversineM) :
    w.position = w.path.position w.distanceM := by
  rw [MeasuredPath.position, MeasuredPath.segmentIndex, path_totalM, path_cumulative]
  rfl

/-! ## Segments -/

/-- Between two numbers of an interval is only the interval. -/
theorem interpolate_mem {lo hi a b t : ℚ} (first : lo ≤ a ∧ a ≤ hi) (second : lo ≤ b ∧ b ≤ hi)
    (part : 0 ≤ t ∧ t ≤ 1) : lo ≤ a + (b - a) * t ∧ a + (b - a) * t ≤ hi := by
  have between := (convex_Icc (𝕜 := ℚ) lo hi).add_smul_sub_mem first second part
  rwa [smul_eq_mul, mul_comm t] at between

/-- What of a segment lies before `d`. -/
theorem part_mem {start stop d : ℚ} (low : start ≤ d) (high : d < stop) :
    0 ≤ (d - start) / (stop - start) ∧ (d - start) / (stop - start) ≤ 1 := by
  have positive : 0 < stop - start := sub_pos.mpr (low.trans_lt high)
  rw [div_le_one positive]
  exact ⟨div_nonneg (sub_nonneg.mpr low) positive.le, sub_le_sub_right high.le _⟩

/-- Segment `i` goes from `a`, which is at `start`, to `b`, which is at `stop`. -/
structure MeasuredPath.Segment (path : MeasuredPath) (i : Nat) (a b : Waypoint)
    (start stop : ℚ) : Prop where
  first : path.waypoints[i]? = some a
  second : path.waypoints[i + 1]? = some b
  start : path.cumulative[i]? = some start
  stop : path.cumulative[i + 1]? = some stop

namespace MeasuredPath

variable {path : MeasuredPath} {d : ℚ}

/-- At the end of the path, and beyond it. -/
theorem position_end (atEnd : path.totalM ≤ d) :
    ∃ last, path.waypoints[path.waypoints.length - 1]? = some last ∧
      path.position d = some last := by
  have walkable := path.walkable
  have last : path.waypoints[path.waypoints.length - 1]? =
      some path.waypoints[path.waypoints.length - 1] := List.getElem?_eq_getElem _
  exact ⟨_, last, by rw [position, if_pos atEnd, List.getLast?_eq_getElem?, last]⟩

/-- Short of it.  The guard against a segment without length is never needed. -/
theorem position_inside (low : 0 ≤ d) (high : d < path.totalM) :
    ∃ a b start stop, path.Segment (path.segmentIndex d) a b start stop ∧
      (start ≤ d ∧ d < stop) ∧
      (∀ i y, path.cumulative[i]? = some y → (y ≤ d ↔ i ≤ path.segmentIndex d)) ∧
      path.position d = some (interpolate a b ((d - start) / (stop - start))) := by
  obtain ⟨k, start, stop, split, short, atStart, atStop, inside, upTo⟩ :=
    bisectRight_between sorted_cumulative cumulative_zero low cumulative_last high
  have index : path.segmentIndex d = k := by
    rw [segmentIndex, split]
    omega
  have first : path.waypoints[k]? = some path.waypoints[k] := List.getElem?_eq_getElem _
  have second : path.waypoints[k + 1]? = some path.waypoints[k + 1] := List.getElem?_eq_getElem _
  have positive : 0 < stop - start := sub_pos.mpr (inside.1.trans_lt inside.2)
  rw [index]
  refine ⟨_, _, start, stop, ⟨first, second, atStart, atStop⟩, inside, upTo, ?_⟩
  simp only [position, if_neg high.not_ge, index, atStart, atStop, first, second,
    if_neg positive.ne']

/-- At a waypoint, the position is that waypoint; where several are at one place, the last. -/
theorem position_waypoint (low : 0 ≤ d) {i : Nat} (here : path.cumulative[i]? = some d) :
    ∃ (j : Nat) (p : Waypoint), IsGreatest {j : Nat | path.cumulative[j]? = some d} j ∧
      path.waypoints[j]? = some p ∧ path.position d = some p := by
  rcases le_or_gt path.totalM d with atEnd | short
  · obtain ⟨last, found, position⟩ := position_end atEnd
    have within {j : Nat} {y : ℚ} (entry : path.cumulative[j]? = some y) :
        j ≤ path.waypoints.length - 1 := by
      have inside : j < path.cumulative.length := (List.getElem?_eq_some_iff.mp entry).1
      rw [length_cumulative] at inside
      omega
    have total : d = path.totalM :=
      le_antisymm (entry_le sorted_cumulative here cumulative_last (within here)) atEnd
    exact ⟨_, last, ⟨total ▸ cumulative_last, fun j same => within same⟩, found, position⟩
  · obtain ⟨a, b, start, stop, segment, inside, upTo, position⟩ := position_inside low short
    have most : start = d := le_antisymm inside.1
      (entry_le sorted_cumulative here segment.start ((upTo i d here).mp le_rfl))
    refine ⟨path.segmentIndex d, a, ⟨most ▸ segment.start, fun j same => (upTo j d same).mp le_rfl⟩,
      segment.first, ?_⟩
    rw [position, most, sub_self, zero_div, interpolate, mul_zero, mul_zero, add_zero, add_zero]

end MeasuredPath

/-- The position is between two waypoints, and never an `IndexError`. -/
theorem BusWalker.position_between {haversineM : Haversine} {w : BusWalker haversineM}
    (onPath : 0 ≤ w.distanceM) :
    ∃ a ∈ w.waypoints, ∃ b ∈ w.waypoints, ∃ t, 0 ≤ t ∧ t ≤ 1 ∧
      w.position = some (interpolate a b t) := by
  rw [position_eq]
  rcases le_or_gt w.path.totalM w.distanceM with atEnd | short
  · obtain ⟨last, found, here⟩ := MeasuredPath.position_end atEnd
    have member := List.mem_of_getElem? found
    refine ⟨last, member, last, member, 0, le_rfl, zero_le_one, ?_⟩
    rw [here, interpolate, mul_zero, mul_zero, add_zero, add_zero]
  · obtain ⟨a, b, start, stop, segment, ⟨low, high⟩, _, here⟩ :=
      MeasuredPath.position_inside onPath short
    have part := part_mem low high
    exact ⟨a, List.mem_of_getElem? segment.first, b, List.mem_of_getElem? segment.second, _,
      part.1, part.2, here⟩

/-! ## The arc length -/

/-- Each coordinate of `p` divides what lies between those of `a` and `b` in the ratio of
`before` to `behind`. -/
def Divides (p a b : Waypoint) (before behind : ℚ) : Prop :=
  behind * (p.1 - a.1) = before * (b.1 - p.1) ∧ behind * (p.2 - a.2) = before * (b.2 - p.2)

/-- Each coordinate of `p` is between those of `a` and `b`. -/
def Between (p a b : Waypoint) : Prop :=
  (min a.1 b.1 ≤ p.1 ∧ p.1 ≤ max a.1 b.1) ∧ min a.2 b.2 ≤ p.2 ∧ p.2 ≤ max a.2 b.2

section

variable {a b : Waypoint} {start stop d : ℚ}

theorem interpolate_divides (positive : 0 < stop - start) :
    Divides (interpolate a b ((d - start) / (stop - start))) a b (d - start) (stop - d) := by
  have apart := positive.ne'
  constructor
  · simp only [interpolate]
    field_simp
    ring
  · simp only [interpolate]
    field_simp
    ring

theorem interpolate_between (low : start ≤ d) (high : d < stop) :
    Between (interpolate a b ((d - start) / (stop - start))) a b := by
  have first (x y : ℚ) : min x y ≤ x ∧ x ≤ max x y := ⟨min_le_left x y, le_max_left x y⟩
  have second (x y : ℚ) : min x y ≤ y ∧ y ≤ max x y := ⟨min_le_right x y, le_max_right x y⟩
  exact ⟨interpolate_mem (first _ _) (second _ _) (part_mem low high),
    interpolate_mem (first _ _) (second _ _) (part_mem low high)⟩

end

/-- **The arc length.**  From one end of a path to the other, whatever the lengths of its
segments are, there is a position; short of the end it divides the one segment that the distance
falls into as the distance does; at a waypoint it is the last one there.  The position of a
walker is that on its own path. -/
theorem position_arcLength (path : MeasuredPath) (d : ℚ) (low : 0 ≤ d) (high : d ≤ path.totalM) :
    (∃ p, path.position d = some p ∧
      (d < path.totalM → ∃ a b start stop,
        path.Segment (path.segmentIndex d) a b start stop ∧
        (start ≤ d ∧ d < stop) ∧ stop - start ≠ 0 ∧
        (∀ i a' b' start' stop', path.Segment i a' b' start' stop' → start' ≤ d → d < stop' →
          i = path.segmentIndex d) ∧
        Divides p a b (d - start) (stop - d) ∧ Between p a b) ∧
      ∀ i : Nat, path.cumulative[i]? = some d →
        ∃ j, IsGreatest {j : Nat | path.cumulative[j]? = some d} j ∧
          path.waypoints[j]? = some p) ∧
    ∀ (haversineM : Haversine) (w : BusWalker haversineM),
      w.path.waypoints = w.waypoints ∧ w.path.cumulative = w.cumulative ∧
        w.position = w.path.position w.distanceM := by
  have atWaypoint {p : Waypoint} (here : path.position d = some p) {i : Nat}
      (entry : path.cumulative[i]? = some d) :
      ∃ j, IsGreatest {j : Nat | path.cumulative[j]? = some d} j ∧
        path.waypoints[j]? = some p := by
    obtain ⟨j, q, greatest, waypoint, there⟩ := path.position_waypoint low entry
    cases here.symm.trans there
    exact ⟨j, greatest, waypoint⟩
  refine ⟨?_, fun _ w => ⟨rfl, w.path_cumulative, w.position_eq⟩⟩
  rcases high.eq_or_lt with atEnd | short
  · obtain ⟨last, _, here⟩ := path.position_end atEnd.ge
    exact ⟨last, here, fun short => (short.ne atEnd).elim, fun i => atWaypoint here⟩
  · obtain ⟨a, b, start, stop, segment, ⟨before, behind⟩, upTo, here⟩ :=
      path.position_inside low short
    have positive : 0 < stop - start := sub_pos.mpr (before.trans_lt behind)
    refine ⟨_, here, fun _ => ⟨a, b, start, stop, segment, ⟨before, behind⟩, positive.ne', ?_,
      interpolate_divides positive, interpolate_between before behind⟩,
      fun i => atWaypoint here⟩
    intro i _ _ start' stop' other before' behind'
    have notAfter := (upTo i start' other.start).mp before'
    have notBefore : ¬ i + 1 ≤ path.segmentIndex d := fun earlier =>
      ((upTo (i + 1) stop' other.stop).mpr earlier).not_gt behind'
    omega

/-- Ten metres, a stop on the spot, and thirty metres. -/
def repeatedStop : MeasuredPath where
  waypoints := [(0, 0), (0, 1), (0, 2), (0, 4)]
  lengths := [10, 0, 30]
  walkable := by decide
  each := rfl
  nonneg := by decide +kernel

theorem position_arcLength_repeated :
    ∃ j, IsGreatest {j : Nat | repeatedStop.cumulative[j]? = some 10} j ∧
      repeatedStop.waypoints[j]? = repeatedStop.position 10 := by
  obtain ⟨p, here, _, atWaypoint⟩ :=
    (position_arcLength repeatedStop 10 (by norm_num) (by decide +kernel)).1
  obtain ⟨j, greatest, waypoint⟩ := atWaypoint 1 (by decide +kernel)
  exact ⟨j, greatest, waypoint.trans here.symm⟩

end FleetTracking.Simulator
