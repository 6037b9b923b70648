import FleetTracking.Concurrency.Fixes
import FleetTracking.Concurrency.Isolation
import FleetTracking.Relational.Progress

/-!
# Handler sessions come to an end

A handler locks its vehicle for key share, and the current location by one statement at most.
That statement comes first when the location was loaded with the vehicle and last otherwise, but
whoever has sent it waits for nobody, so handler sessions never wait for each other in a circle:
whatever their statements have been so far, each of them can still answer (`handlers_finish`).
-/

namespace FleetTracking

open Relational ReadCommitted

/-- The rows that a fix refers to and does not change. -/
def IsVehicle (row : Lockable) : Prop := ∃ v, row = .vehicle v

section

variable {E : Engine} {m : GPSMessage}

theorem pointOf_onlyShares : (pointOf E m).OnlyShares IsVehicle := by
  constructor <;> intro lock member
  · exact fun _ => List.mem_singleton.mp member ▸ rfl
  · exact ⟨m.vehicleId, congrArg Prod.fst (List.mem_singleton.mp member)⟩

theorem shares_currentOf : Shares IsVehicle (currentOf E m).locks := by
  rintro lock member ⟨v, same⟩
  rcases List.mem_cons.mp member with rfl | rest
  · cases same
  · exact List.mem_singleton.mp rest ▸ rfl

theorem shares_moveOf {loaded : VehicleCurrentLocation} :
    Shares IsVehicle (moveOf E m loaded).locks := by
  rintro lock member ⟨v, same⟩
  cases List.mem_singleton.mp member
  cases same

theorem saveCurrent_polite (current : Option VehicleCurrentLocation) :
    (saveCurrent E fixLocks m current).Polite IsVehicle ∧
      (saveCurrent E fixLocks m current).Lasts 2 := by
  unfold saveCurrent
  split
  · exact ⟨⟨shares_currentOf, .inr trivial⟩, trivial⟩
  · split
    · exact ⟨⟨shares_moveOf, .inr trivial⟩, trivial⟩
    · exact ⟨trivial, trivial⟩

theorem storeFix_polite (current : Option VehicleCurrentLocation) :
    (storeFix E fixLocks m current).Polite IsVehicle ∧
      (storeFix E fixLocks m current).Lasts 4 := by
  obtain ⟨shares, share⟩ := pointOf_onlyShares (E := E) (m := m)
  unfold storeFix
  split
  · split
    · exact ⟨⟨shares_moveOf, .inr ⟨⟨shares, share⟩, trivial⟩⟩, trivial⟩
    · exact ⟨⟨shares, .inl ⟨share, trivial⟩⟩, trivial⟩
  · exact ⟨⟨shares, .inl ⟨share, fun db => (saveCurrent_polite _).1⟩⟩,
      fun db => (saveCurrent_polite _).2⟩

/-- A handler session is polite and sends at most five statements. -/
theorem ingestTxn_polite : (ingestTxn E m).Polite IsVehicle ∧ (ingestTxn E m).Lasts 5 := by
  unfold ingestTxn handleGpsMessageTxn
  split
  · refine forall_and.mp fun db => ?_
    dsimp only
    cases db.vehicles.get m.vehicleId with
    | none => exact ⟨trivial, trivial⟩
    | some vehicle =>
        dsimp only
        split
        · exact ⟨trivial, trivial⟩
        · split
          · exact storeFix_polite _
          · exact ⟨trivial, trivial⟩
  · exact ⟨trivial, trivial⟩

end

section

variable {ι : Type} [Fintype ι] [DecidableEq ι] {E : Engine} {db : DB} {a : ι → Ambient}
  {m : ι → GPSMessage} {schedule : List ι} {s : System ι DB (Locks Lockable) (Except Failure Bool)}

/-- **Liveness.**  No run of handler sessions takes more than five statements a session, and none
gets stuck: whatever has been sent so far, there is a way on in which every session answers. -/
theorem handlers_finish (played : (calling E db a (reportAll m)).play schedule = some s) :
    schedule.length ≤ 5 * Fintype.card ι ∧
      ∃ rest s', s.play rest = some s' ∧ ∀ i, ∃ result, s'.results i = some result := by
  have start (i : ι) : ((calling E db a (reportAll m)).session i).Polite IsVehicle :=
    ⟨fun w member => (List.not_mem_nil member).elim,
      .inr ⟨ingestTxn_polite.1, fun w member => (List.not_mem_nil member).elim⟩⟩
  have few (i : ι) : ((calling E db a (reportAll m)).session i).Lasts 5 := ingestTxn_polite.2
  obtain ⟨left, lasts, total⟩ := System.play_length (n := fun _ => 5) few played
  have polite := System.play_keeps (P := fun s => ∀ i, (s.session i).Polite IsVehicle)
    (fun polite turn => System.polite_turn polite turn) start played
  refine ⟨?_, ?_⟩
  · rw [Finset.sum_const, Finset.card_univ, nsmul_eq_mul, Nat.cast_id] at total
    omega
  · obtain ⟨rest, s', played', finished⟩ := System.finishes polite lasts
    refine ⟨rest, s', played', fun i => ?_⟩
    obtain ⟨result, ended⟩ := finished i
    exact ⟨result, by rw [System.results, ended]; rfl⟩

end

/-- Two fixes of one vehicle: the first session has moved the current location and not yet stored
its point, and the other one waits for it. -/
theorem handlers_finish_two :
    ∃ s, (calling postgres .withFirstFix (fun _ => plainAmbient) (reportAll laterFixes)).play
        [false, true, false] = some s ∧ s.Waits true ∧
      ∃ rest s', s.play rest = some s' ∧ ∀ i, ∃ result, s'.results i = some result := by
  have ran : ((calling postgres .withFirstFix (fun _ => plainAmbient) (reportAll laterFixes)).play
      [false, true, false]).any (fun s => s.Waits true) = true := by decide +kernel
  obtain ⟨s, played, waits⟩ := (Option.any_eq_true _ _).mp ran
  exact ⟨s, played, of_decide_eq_true waits, (handlers_finish played).2⟩

end FleetTracking
