import FleetTracking.Kinematics.Shuttle
import FleetTracking.Simulator.Walk

/-!
# The walker goes to and fro

`BusWalker.advance` is the move of a shuttle on a track as long as the route, with `step_m` as
its step (`shuttle_advance`); what a walker does in a run is what that shuttle does
(`shuttle_after`).
-/

namespace FleetTracking.Simulator

open Kinematics

/-- The arguments of one call of `advance`. -/
structure Tick where
  speedKmh : ℚ
  dtSeconds : ℚ

/-- `step_m` -/
def Tick.stepM (tick : Tick) : ℚ := tick.speedKmh * 1000 * tick.dtSeconds / 3600

namespace BusWalker

variable {haversineM : Haversine} {w : BusWalker haversineM} {ticks : Nat → Tick}

/-- After the first `n` ticks. -/
def after (w : BusWalker haversineM) (ticks : Nat → Tick) : Nat → BusWalker haversineM
  | 0 => w
  | n + 1 => (after w ticks n).advance (ticks n).speedKmh (ticks n).dtSeconds

/-- The distance along the path, and the direction. -/
def shuttle (w : BusWalker haversineM) : Shuttle ℚ := ⟨w.distanceM, w.direction⟩

@[simp] theorem totalM_advance (speedKmh dtSeconds : ℚ) :
    (w.advance speedKmh dtSeconds).totalM = w.totalM := by
  unfold advance
  dsimp only
  split_ifs <;> rfl

/-- **Step.** -/
theorem shuttle_advance (tick : Tick) :
    (w.advance tick.speedKmh tick.dtSeconds).shuttle = w.shuttle.move w.totalM tick.stepM := by
  unfold advance Shuttle.move
  dsimp only [shuttle, Tick.stepM]
  split_ifs <;> rfl

theorem totalM_after (n : Nat) : (w.after ticks n).totalM = w.totalM := by
  induction n with
  | zero => rfl
  | succ n ih => rw [after, totalM_advance, ih]

/-- **Run.** -/
theorem shuttle_after (n : Nat) :
    (w.after ticks n).shuttle = w.shuttle.after w.totalM (fun i => (ticks i).stepM) n := by
  induction n with
  | zero => rfl
  | succ n ih => rw [after, Shuttle.after, shuttle_advance, totalM_after, ih]

/-- On a terminus after `n` ticks, the walker stays there as long as the steps are zero, and the
next positive step takes it away from there. -/
def LeavesTerminus (w : BusWalker haversineM) (ticks : Nat → Tick) (n : Nat) : Prop :=
  (w.after ticks n).distanceM = 0 ∨ (w.after ticks n).distanceM = w.totalM →
    ∀ wait, (∀ i < wait, (ticks (n + i)).stepM = 0) →
      (w.after ticks (n + wait)).shuttle = (w.after ticks n).shuttle ∧
      (0 < (ticks (n + wait)).stepM →
        ((w.after ticks n).distanceM = 0 → 0 < (w.after ticks (n + wait + 1)).distanceM) ∧
        ((w.after ticks n).distanceM = w.totalM →
          (w.after ticks (n + wait + 1)).distanceM < w.totalM))

theorem leavesTerminus (positive : 0 < w.totalM) (n : Nat) : w.LeavesTerminus ticks (n + 1) := by
  intro ends wait still
  have headed : (w.after ticks (n + 1)).shuttle.Headed w.totalM := by
    rw [shuttle_after]
    exact Shuttle.headed_move positive
  have waits : (w.after ticks (n + 1 + wait)).shuttle = (w.after ticks (n + 1)).shuttle := by
    rw [shuttle_after] at headed ⊢
    rw [shuttle_after]
    refine headed.after_zeros positive ?_ still
    rw [← shuttle_after]
    exact ends
  refine ⟨waits, fun goes => ?_⟩
  have leaves := headed.leaves positive goes
  rw [← waits, ← totalM_after (n + 1 + wait), ← shuttle_advance, totalM_after, waits] at leaves
  exact leaves

/-- **The ping-pong.**  With steps of one length a walker makes round trips of
`2 * ⌈total / step⌉` ticks; and whatever the steps are, it stays on its route, goes the whole
step unless it lands on a terminus, and leaves a terminus with the next step there is. -/
theorem advance_pingPong (w : BusWalker haversineM) (positive : 0 < w.totalM) :
    (∀ (ticks : Nat → Tick) (step : ℚ), 0 < step → (∀ n, (ticks n).stepM = step) →
      w.distanceM = 0 ∧ w.direction = 1 →
      (∀ n, (w.after ticks n).distanceM =
        Shuttle.trip w.totalM step ⌈w.totalM / step⌉₊ (n % (2 * ⌈w.totalM / step⌉₊))) ∧
      ∀ first,
        (∃! n, (first ≤ n ∧ n < first + 2 * ⌈w.totalM / step⌉₊) ∧
          (w.after ticks n).distanceM = w.totalM) ∧
        ∃! n, (first ≤ n ∧ n < first + 2 * ⌈w.totalM / step⌉₊) ∧
          (w.after ticks n).distanceM = 0) ∧
    ∀ ticks : Nat → Tick, (∀ n, 0 ≤ (ticks n).stepM) → w.shuttle.OnTrack w.totalM →
      ∀ n, (w.after ticks n).shuttle.OnTrack w.totalM ∧
        (w.after ticks n).shuttle.Moved w.totalM (ticks n).stepM (w.after ticks (n + 1)).shuttle ∧
        w.LeavesTerminus ticks (n + 1) := by
  refine ⟨fun ticks step goes same start => ?_, fun ticks nonneg on n => ?_⟩
  · have distance (n : Nat) : (w.after ticks n).distanceM =
        (w.shuttle.after w.totalM (fun i => (ticks i).stepM) n).pos := by
      rw [← shuttle_after]
      rfl
    simp only [distance]
    exact ⟨fun n => by rw [Shuttle.after_atTrip positive goes same start]; rfl,
      Shuttle.after_ends_once positive goes same start⟩
  · have onTrack : (w.after ticks n).shuttle.OnTrack w.totalM := by
      rw [shuttle_after]
      exact on.after positive n
    refine ⟨onTrack, ?_, leavesTerminus positive n⟩
    rw [after, shuttle_advance, totalM_after]
    exact onTrack.moved (nonneg n)

/-- A straight line of a hundred metres. -/
def hundredMetres : BusWalker (fun _ _ => ⟨100, by decide +kernel⟩) :=
  ⟨[(0, 0), (0, 1)], 0, 1, cumulativeM _ [(0, 0), (0, 1)], le_rfl, rfl⟩

/-- At 36 km/h for 3 s each, 30 m; then with halts and a step that is longer than the line. -/
theorem advance_pingPong_line :
    ((hundredMetres.after (fun _ => ⟨36, 3⟩) 4).distanceM = 100 ∧
      (hundredMetres.after (fun _ => ⟨36, 3⟩) 13).distanceM = 70) ∧
    ∀ n, (hundredMetres.after (fun i => if i % 2 = 0 then ⟨720, 1⟩ else ⟨0, 1⟩) n).shuttle.OnTrack
      hundredMetres.totalM := by
  have positive : 0 < hundredMetres.totalM := by decide +kernel
  have once := ((advance_pingPong hundredMetres positive).1 (fun _ => ⟨36, 3⟩) 30 (by norm_num)
    (fun _ => by norm_num [Tick.stepM]) ⟨rfl, rfl⟩).1
  refine ⟨⟨?_, ?_⟩, fun n => ?_⟩
  · rw [once]
    decide +kernel
  · rw [once]
    decide +kernel
  · refine ((advance_pingPong hundredMetres positive).2 _ (fun i => ?_)
      ⟨⟨le_rfl, positive.le⟩, .inl rfl⟩ n).1
    split <;> norm_num [Tick.stepM]

end BusWalker

end FleetTracking.Simulator
