import FleetTracking.Deliveries
import FleetTracking.Services.Tracking

/-!
# What a redelivery does

QoS 1 may deliver a message again, at any later point.  `Redelivered` says that one sequence
comes from another that way, and `redelivery_effect` what becomes of the tables: the current
locations are the same, because a fix is never newer than a location it has been offered to;
the history, which keeps everything, has one more point for each stored fix that came again.
-/

namespace FleetTracking

open Relational Python

/-! ## Sequences with repetitions -/

/-- `ys` is `xs` with `extra` put in, each item of it after an item like it, or after one of
those `seen` before. -/
inductive Redelivered {α : Type} : List α → List α → List α → List α → Prop
  | done (seen : List α) : Redelivered seen [] [] []
  | first {seen xs extra ys : List α} {x : α} :
      Redelivered (x :: seen) xs extra ys → Redelivered seen (x :: xs) extra (x :: ys)
  | again {seen xs extra ys : List α} {x : α} :
      x ∈ seen → Redelivered seen xs extra ys → Redelivered seen xs (x :: extra) (x :: ys)

namespace Redelivered

variable {α β : Type} {seen xs extra ys : List α}

theorem perm (redelivered : Redelivered seen xs extra ys) : ys.Perm (xs ++ extra) := by
  induction redelivered with
  | done => exact .refl _
  | first _ ih => exact ih.cons _
  | again _ _ ih => exact (ih.cons _).trans List.perm_middle.symm

/-- Without a repetition nothing is put in. -/
theorem eq_of_nil (redelivered : Redelivered seen xs [] ys) : ys = xs := by
  generalize none : ([] : List α) = extra at redelivered
  induction redelivered with
  | done => rfl
  | first _ ih => rw [ih none]
  | again => cases none

/-- What becomes of the items becomes of the repetitions. -/
theorem filterMap (f : α → Option β) (redelivered : Redelivered seen xs extra ys) :
    Redelivered (seen.filterMap f) (xs.filterMap f) (extra.filterMap f) (ys.filterMap f) := by
  induction redelivered with
  | done seen => exact .done _
  | @first seen xs extra ys x _ ih =>
      simp only [List.filterMap_cons] at ih ⊢
      cases image : f x with
      | none =>
          rw [image] at ih
          exact ih
      | some y =>
          rw [image] at ih
          exact ih.first
  | @again seen xs extra ys x earlier _ ih =>
      simp only [List.filterMap_cons]
      cases image : f x with
      | none => exact ih
      | some y => exact ih.again (List.mem_filterMap.mpr ⟨x, earlier, image⟩)

end Redelivered

/-! ## The two tables -/

/-- What a fix adds to the history. -/
def GPSMessage.content (m : GPSMessage) : Int × Fix := (m.vehicleId.1, m.fix)

/-- The history without its ids. -/
def DB.contents (db : DB) : List (Int × Fix) := db.gpsPoints.rows.map GPSPoint.content

section

variable {db db' : DB} {m : GPSMessage} {fixes : List GPSMessage}

theorem contents_ingestList :
    (db.ingestList fixes).contents = db.contents ++ fixes.map GPSMessage.content := by
  induction fixes generalizing db with
  | nil => exact (List.append_nil _).symm
  | cons m fixes ih =>
      have added : (db.ingest m).contents = db.contents ++ [m.content] := by
        simp only [DB.contents, DB.ingest, DB.addPoint, Serial.rows_insert, List.map_append]
        rfl
      rw [ingestList_cons, ih, added, List.append_assoc]
      rfl

/-- The vehicle's current location is at least as recent as the fix. -/
def DB.Reflects (db : DB) (m : GPSMessage) : Prop :=
  ∃ seen, db.seenAt m.vehicleId = some seen ∧ m.recordedAt ≤ seen

/-- A fix that has been offered before moves no location. -/
theorem locations_ingest (reflects : db.Reflects m) :
    (db.ingest m).vehicleCurrentLocation = db.vehicleCurrentLocation := by
  obtain ⟨seen, recorded, older⟩ := reflects
  obtain ⟨current, present, rfl⟩ := Option.map_eq_some_iff.mp recorded
  have upsert : upsertLatest db.vehicleCurrentLocation m.current = _ :=
    upsertLatest_of_some (c := m.current) present
  rw [DB.ingest, upsert, m.recordedAt_current, if_neg (not_lt.mpr older)]

/-- A fix that was stored is reflected from then on. -/
theorem reflects_ingest (m' : GPSMessage) (offered : m = m' ∨ db.Reflects m) :
    (db.ingest m').Reflects m := by
  unfold DB.Reflects
  rw [seenAt_ingest]
  split
  · next own =>
      have bound : ∀ t, t ∈ (db.seenAt m.vehicleId).toList ++ [m'.recordedAt] →
          ∃ seen, ((db.seenAt m.vehicleId).toList ++ [m'.recordedAt]).max? = some seen ∧
            t ≤ seen := by
        intro t member
        obtain ⟨newest, max⟩ := Option.isSome_iff_exists.mp (List.isSome_max?_of_mem member)
        exact ⟨newest, max, (List.max?_eq_some_iff.mp max).2 t member⟩
      rcases offered with rfl | ⟨seen, recorded, older⟩
      · exact bound _ (List.mem_append_right _ (List.mem_singleton_self _))
      · obtain ⟨newest, max, newer⟩ := bound seen
          (List.mem_append_left _ (by rw [recorded]; exact List.mem_singleton_self _))
        exact ⟨newest, max, older.trans newer⟩
  · next other =>
      rcases offered with rfl | reflects
      · exact (other rfl).elim
      · exact reflects

/-- The same locations after the same fix. -/
theorem locations_ingest_congr (same : db'.vehicleCurrentLocation = db.vehicleCurrentLocation) :
    (db'.ingest m).vehicleCurrentLocation = (db.ingest m).vehicleCurrentLocation := by
  simp only [DB.ingest, same]

theorem Reflects.congr (same : db'.vehicleCurrentLocation = db.vehicleCurrentLocation)
    (reflects : db.Reflects m) : db'.Reflects m := by
  simpa only [DB.Reflects, DB.seenAt, same] using reflects

/-- **Run.**  Fixes that come again leave the locations as they are without them. -/
theorem locations_redelivered {seen xs extra ys : List GPSMessage}
    (redelivered : Redelivered seen xs extra ys)
    (same : db'.vehicleCurrentLocation = db.vehicleCurrentLocation)
    (reflected : ∀ m ∈ seen, db.Reflects m) :
    (db'.ingestList ys).vehicleCurrentLocation = (db.ingestList xs).vehicleCurrentLocation := by
  induction redelivered generalizing db db' with
  | done => exact same
  | @first seen xs extra ys m _ ih =>
      refine ih (locations_ingest_congr same) fun m' member => ?_
      rcases List.mem_cons.mp member with rfl | earlier
      · exact reflects_ingest _ (.inl rfl)
      · exact reflects_ingest _ (.inr (reflected m' earlier))
  | @again seen xs extra ys m earlier _ ih =>
      refine ih ?_ reflected
      rw [locations_ingest (Reflects.congr same (reflected m earlier)), same]

/-! ## The history reads -/

/-- The fix lies in the window of a history query. -/
def GPSMessage.inWindow (v dateFrom dateTo : Int) (m : GPSMessage) : Bool :=
  m.vehicleId.1 = v ∧ dateFrom ≤ m.recordedAt ∧ m.recordedAt ≤ dateTo

/-- A history query counts contents. -/
theorem count_inWindow {v dateFrom dateTo : Int} :
    db.gpsPoints.count (inWindow v dateFrom dateTo) =
      db.contents.countP fun c =>
        c.1 = v ∧ dateFrom ≤ c.2.recordedAt ∧ c.2.recordedAt ≤ dateTo := by
  rw [DB.contents, List.countP_map]
  rfl

variable {E : Engine} {settings : Settings} {d : Decoder} {xs extra ys : List Delivery}

/-- A query counts each stored fix that came again in its window once more. -/
theorem count_redelivered
    (perm : db'.contents.Perm (db.contents ++ fixes.map GPSMessage.content))
    {v dateFrom dateTo : Int} :
    db'.gpsPoints.count (inWindow v dateFrom dateTo) =
      db.gpsPoints.count (inWindow v dateFrom dateTo) +
        fixes.countP (GPSMessage.inWindow v dateFrom dateTo) := by
  rw [count_inWindow, count_inWindow, perm.countP_eq, List.countP_append, List.countP_map]
  rfl

/-- **Redelivery.**  Delivering messages again leaves the current locations as they are, adds
one point to the history for each redelivery of a message that is stored, and adds that many
to the counts of history queries; the history is the same exactly when nothing that comes
again is stored, and then so is everything else. -/
theorem redelivery_effect (E : Engine) (settings : Settings) (d : Decoder) (db : DB)
    (redelivered : Redelivered [] xs extra ys) :
    (processAll E settings d ys db).vehicleCurrentLocation =
      (processAll E settings d xs db).vehicleCurrentLocation ∧
    (processAll E settings d ys db).contents.Perm
      ((processAll E settings d xs db).contents ++
        (storedFixes E settings d db.vehicles extra).map GPSMessage.content) ∧
    ((processAll E settings d ys db).contents.Perm (processAll E settings d xs db).contents ↔
      storedFixes E settings d db.vehicles extra = []) ∧
    (storedFixes E settings d db.vehicles extra = [] →
      processAll E settings d ys db = processAll E settings d xs db) ∧
    ∀ (u : User) (v : Int) (now : Datetime) (params : HistoryParams) (dateFrom dateTo : Int),
      u.vehicleId = some v → historyWindow E now params = .ok (dateFrom, dateTo) →
      E.bigint params.offset = true → ∃ out out',
        getHistory E now (processAll E settings d xs db) u params = .ok out ∧
        getHistory E now (processAll E settings d ys db) u params = .ok out' ∧
        out'.count = out.count + (storedFixes E settings d db.vehicles extra).countP
          (GPSMessage.inWindow v dateFrom dateTo) := by
  have stored : Redelivered [] (storedFixes E settings d db.vehicles xs)
      (storedFixes E settings d db.vehicles extra) (storedFixes E settings d db.vehicles ys) :=
    redelivered.filterMap _
  simp only [processAll_eq, contents_ingestList]
  have perm := stored.perm
  generalize storedFixes E settings d db.vehicles xs = first at *
  generalize storedFixes E settings d db.vehicles extra = repeated at *
  generalize storedFixes E settings d db.vehicles ys = all at *
  have contents : (db.contents ++ all.map GPSMessage.content).Perm
      (db.contents ++ first.map GPSMessage.content ++ repeated.map GPSMessage.content) := by
    rw [List.append_assoc, ← List.map_append]
    exact (perm.map _).append_left _
  refine ⟨locations_redelivered stored rfl fun _ member => (List.not_mem_nil member).elim,
    contents, ?_, ?_, ?_⟩
  · constructor
    · intro same
      have lengths := same.length_eq.symm.trans contents.length_eq
      simpa using lengths
    · intro none
      rwa [none, List.map_nil, List.append_nil] at contents
  · intro none
    rw [none] at stored
    rw [stored.eq_of_nil]
  · intro u v now params dateFrom dateTo holds window fits
    refine ⟨_, _, getHistory_eq holds window fits, getHistory_eq holds window fits, ?_⟩
    refine count_redelivered ?_
    rw [contents_ingestList, contents_ingestList]
    exact contents

/-- The fix comes again at the end. -/
theorem redelivered_fix :
    Redelivered [] [fixDelivery] [fixDelivery] [fixDelivery, fixDelivery] :=
  .first (.again List.mem_cons_self (.done _))

theorem redelivery_effect_fix :
    (processAll postgres {} fixDecoder [fixDelivery, fixDelivery]
        .withFirstVehicle).vehicleCurrentLocation =
      (processAll postgres {} fixDecoder [fixDelivery] .withFirstVehicle).vehicleCurrentLocation :=
  (redelivery_effect postgres {} fixDecoder .withFirstVehicle redelivered_fix).1

/-- **The history has it twice.**  One redelivery of a stored fix adds a point. -/
theorem redelivery_duplicates_history :
    ¬ ∀ (db : DB) (xs extra ys : List Delivery), Redelivered [] xs extra ys →
      (processAll postgres {} fixDecoder ys db).vehicleCurrentLocation =
        (processAll postgres {} fixDecoder xs db).vehicleCurrentLocation ∧
      (processAll postgres {} fixDecoder ys db).contents.Perm
        (processAll postgres {} fixDecoder xs db).contents := by
  intro once
  have lengths := (once .withFirstVehicle _ _ _ redelivered_fix).2.length_eq
  revert lengths
  decide +kernel

end

end FleetTracking
