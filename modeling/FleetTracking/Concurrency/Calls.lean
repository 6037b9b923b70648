import FleetTracking.Columns
import FleetTracking.LatestLocation
import FleetTracking.Services.CallEffects
import Mathlib.Algebra.BigOperators.Group.Finset.Basic
import Mathlib.Data.Fintype.BigOperators

/-!
# Any calls at once

Any number of sessions, each running one of the calls, interleaved statement by statement under
PostgreSQL's locks.  The guards of the services see what is committed by then and can be
overtaken, but the constraints of the schema cannot: `concurrent_calls_constrained`.
-/

namespace FleetTracking

open Relational ReadCommitted

/-- Every reachable state satisfies the constraints. -/
theorem Reachable.constrained {E : Engine} {settings : Settings} {db : DB}
    (enforced : E.constraints = true) (reachable : Reachable E settings db) : Constrained db := by
  have consistent := reachable.consistent
  have filled := reachable.filled enforced
  exact { consistent with
    routesFilled := fun r member => (filled.routes r member).1
    vehiclesFilled := fun v member => by
      obtain ⟨code, name, isActive⟩ := filled.vehicles v member
      rw [code, name, isActive]
      rfl
    usersFilled := filled.users }

section

variable {ι : Type} [Fintype ι] [DecidableEq ι]

/-- A session for each of the calls, all at their first statements. -/
def calling (E : Engine) (db : DB) (a : ι → Ambient) (c : ι → Call) :
    System ι DB (Locks Lockable) (Except Failure Bool) :=
  .start db fun i => (c i).txn E (a i)

theorem calling_constrained {E : Engine} (enforced : E.constraints = true) {db : DB}
    (start : Constrained db) {a : ι → Ambient} {c : ι → Call} {schedule : List ι}
    {s : System ι DB (Locks Lockable) (Except Failure Bool)}
    (played : (calling E db a c).play schedule = some s) : Constrained s.db :=
  System.keeps (D := fleetDiscipline) Within.constrained
    (fun i => Call.txn_obeys enforced (a i) (c i)) start played

/-- **Constraints.**  Whatever calls run at once and however their statements interleave, what is
committed satisfies the constraints of the schema, and the statements that a session has sent
would all be accepted if it committed now: nothing that was accepted is lost or rejected later. -/
theorem concurrent_calls_constrained {E : Engine} (enforced : E.constraints = true) {db : DB}
    (start : Constrained db) {a : ι → Ambient} {c : ι → Call} {schedule : List ι}
    {s : System ι DB (Locks Lockable) (Except Failure Bool)}
    (played : (calling E db a c).play schedule = some s) :
    Constrained s.db ∧ ∀ i, Applies (s.session i).pending s.db := by
  refine ⟨calling_constrained enforced start played, ?_⟩
  have sound : (calling E db a c).Sound fleetDiscipline :=
    System.Sound.start fun i => Call.txn_obeys enforced (a i) (c i)
  exact (sound.play played).applies

omit [Fintype ι] [DecidableEq ι] in
/-- No commit takes a current location away. -/
theorem locationKeys_kept {pending : List CallStatement} {db : DB} (applies : Applies pending db)
    (each : ∀ w ∈ pending, w.Obeys fleetDiscipline) :
    db.vehicleCurrentLocation.KeepsKeys (fun _ => False)
      (visible pending db).vehicleCurrentLocation :=
  applies.within (D := fleetDiscipline) (P := fun db' =>
      db.vehicleCurrentLocation.KeepsKeys (fun _ => False) db'.vehicleCurrentLocation)
    (fun within kept k none present => within.locationKeys k none (kept k none present)) each
    (.refl _)

/-- **Outcomes.**  What every commit, every refusal and every rollback keeps, holds of the answers
and the tables in every state reached. -/
theorem calling_outcomes {E : Engine} (enforced : E.constraints = true) {db : DB}
    {a : ι → Ambient} {c : ι → Call} {schedule : List ι}
    {s : System ι DB (Locks Lockable) (Except Failure Bool)}
    {P : (ι → Option (Except Failure Bool)) → DB → Prop}
    (commits : ∀ {results db db' i}, P results db → results i = none → Committed (c i) db db' →
      P (Function.update results i (some (.ok true))) db')
    (refusals : ∀ {results db i result}, P results db → results i = none → NotDone result →
      P (Function.update results i (some result)) db)
    (idles : ∀ {results db db'}, P results db → Idle db db' → P results db')
    (start : P (fun _ => none) db) (played : (calling E db a c).play schedule = some s) :
    P s.results s.db := by
  have preserves : System.Preserves fleetDiscipline
      (fun _ db db' =>
        db.vehicleCurrentLocation.KeepsKeys (fun _ => False) db'.vehicleCurrentLocation)
      (fun i pending result db => (c i).Commits E (a i) pending db ∧ result = .ok true)
      (fun _ result _ => NotDone result) P := {
    refl := fun _ _ => .refl _
    trans := fun first second k none present => second k none (first k none present)
    commits := fun {results db i pending result} before running ends each applies => by
      obtain ⟨commits', rfl⟩ := ends
      exact ⟨fun _ _ => locationKeys_kept applies each,
        commits before running (commits'.committed enforced applies)⟩
    fails := refusals
    idles := fun before idle => ⟨fun _ => idle.locations ▸ .refl _, idles before idle⟩ }
  exact System.outcomes preserves (fun i => Call.txn_obeys enforced (a i) (c i))
    (fun i => Call.txn_ensures id (c i) db) start played

end

section

variable {ι M : Type} [Fintype ι] [AddCommMonoid M] {f : ι → M}
  {results : ι → Option (Except Failure Bool)} {i : ι}

/-- The sum of `f` over the sessions that have answered `True`. -/
def acknowledged (f : ι → M) (results : ι → Option (Except Failure Bool)) : M :=
  ∑ i, if results i = some (.ok true) then f i else 0

theorem acknowledged_start : acknowledged f (fun _ => none) = 0 := by
  simp [acknowledged]

/-- One more session has ended. -/
theorem acknowledged_update [DecidableEq ι] {result : Except Failure Bool}
    (running : results i = none) :
    acknowledged f (Function.update results i (some result)) =
      acknowledged f results + if result = .ok true then f i else 0 := by
  have others : ∀ j ∈ Finset.univ.erase i,
      (if Function.update results i (some result) j = some (.ok true) then f j else 0) =
        if results j = some (.ok true) then f j else 0 :=
    fun j other => by rw [Function.update_of_ne (Finset.ne_of_mem_erase other)]
  unfold acknowledged
  rw [← Finset.add_sum_erase _ _ (Finset.mem_univ i), Finset.sum_congr rfl others,
    ← Finset.add_sum_erase Finset.univ (fun j =>
      if results j = some (.ok true) then f j else 0) (Finset.mem_univ i)]
  simp only [Function.update_self, running, Option.some.injEq, reduceCtorEq, if_false, zero_add]
  exact add_comm _ _

end

/-- Two sessions look for the code of the first vehicle before either inserts it. -/
def bothCreating : List Bool := [false, true, false, false, true]

theorem concurrent_calls_constrained_two :
    ∃ s, (calling postgres .empty (fun _ => plainAmbient)
        fun _ : Bool => createFirstVehicle).play bothCreating = some s ∧
      s.results true = some (.error .integrityError) ∧
      Constrained s.db ∧ ∀ i, Applies (s.session i).pending s.db := by
  have ran : ((calling postgres .empty (fun _ => plainAmbient)
      fun _ : Bool => createFirstVehicle).play bothCreating).any
        (fun s => s.results true = some (.error .integrityError)) = true := by decide +kernel
  obtain ⟨s, played, rejected⟩ := (Option.any_eq_true _ _).mp ran
  exact ⟨s, played, of_decide_eq_true rejected,
    concurrent_calls_constrained rfl .empty played⟩

end FleetTracking
