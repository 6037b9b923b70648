import FleetTracking.LatestLocation
import FleetTracking.Relational.Paging
import FleetTracking.Services.Tracking

/-!
# History, page by page

With the table unchanged between the requests, the pages at the offsets 0, L, 2L, … up to the
count are the vehicle's points of the window in one fixed order.  The order is total because
ids are unique, so no point is lost or repeated between two pages.

An aware `from` or `to` next to the year 1 or 9999 may denote an instant that has no UTC
`datetime`; the driver refuses it (`instant_out_of_range`), as it refuses an offset beyond 64
bits.
-/

namespace FleetTracking

open Relational Python Pydantic

/-- What is to be paged: the points of vehicle `v` from `dateFrom` to `dateTo`, as instants. -/
def DB.pointsBetween (db : DB) (v dateFrom dateTo : Int) : List GPSPoint :=
  db.gpsPoints.rows.filter fun p =>
    p.vehicleId = v ∧ dateFrom ≤ p.recordedAt ∧ p.recordedAt ≤ dateTo

/-- By `recorded_at`, and then by id. -/
def GPSPoint.Before (p q : GPSPoint) : Prop :=
  p.recordedAt < q.recordedAt ∨ (p.recordedAt = q.recordedAt ∧ p.id < q.id)

/-- The request for one page of an explicit window. -/
def pageRequest (dateFrom dateTo : Datetime) (limit : {n : Int // 1 ≤ n ∧ n ≤ 1000})
    (offset : AtLeast 0) : HistoryParams :=
  ⟨some dateFrom, some dateTo, limit, offset⟩

/-- The offset of the `k`-th page. -/
def pageOffset (limit : {n : Int // 1 ≤ n ∧ n ≤ 1000}) (k : Nat) : AtLeast 0 :=
  ⟨k * limit.1.toNat, by positivity⟩

section

variable {limit : {n : Int // 1 ≤ n ∧ n ≤ 1000}} {k : Nat}

theorem val_pageOffset : (pageOffset limit k).1 = ((k * limit.1.toNat : Nat) : Int) :=
  (Int.natCast_mul ..).symm

/-- The driver takes the offset of a page that begins among the first 2 ^ 63 rows. -/
theorem bigint_pageOffset (near : k * limit.1.toNat < 2 ^ 63) :
    postgres.bigint (pageOffset limit k) = true := by
  simp only [postgres, val_pageOffset, decide_eq_true_eq]
  omega

end

section

variable {db : DB} {v dateFrom dateTo : Int}

theorem chronological_iff {p q : GPSPoint} : chronological p q = true ↔
    p.recordedAt < q.recordedAt ∨ (p.recordedAt = q.recordedAt ∧ p.id ≤ q.id) :=
  decide_eq_true_iff

/-- The points of the window in the order of the query. -/
def DB.history (db : DB) (v dateFrom dateTo : Int) : List GPSPoint :=
  (db.pointsBetween v dateFrom dateTo).mergeSort chronological

theorem history_perm :
    (db.history v dateFrom dateTo).Perm (db.pointsBetween v dateFrom dateTo) :=
  List.mergeSort_perm _ _

/-- The order of the query leaves no choice: it is strict on rows of one table. -/
theorem history_before : (db.history v dateFrom dateTo).Pairwise GPSPoint.Before := by
  have sorted : (db.history v dateFrom dateTo).Pairwise fun p q => chronological p q = true := by
    refine List.pairwise_mergeSort (fun p q r first second => ?_) (fun p q => ?_) _
    · rw [chronological_iff] at *
      omega
    · rw [Bool.or_eq_true, chronological_iff, chronological_iff]
      omega
  have distinct : (db.history v dateFrom dateTo).Pairwise fun p q => p.id ≠ q.id := by
    refine (history_perm.pairwise_iff fun differ => differ.symm).mpr ?_
    exact (db.gpsPoints.sorted.imp fun less => less.ne).filter _
  refine sorted.imp₂ (fun p q before differ => ?_) distinct
  rw [chronological_iff] at before
  unfold GPSPoint.Before
  omega

/-- Ids are 64-bit, so a count is, too. -/
theorem length_history_lt (v dateFrom dateTo : Int)
    (columns : ∀ p ∈ db.gpsPoints.toTable, postgres.bigint p.id = true) :
    ((db.history v dateFrom dateTo).length : Int) < 2 ^ 63 := by
  have ids : ∀ p ∈ db.gpsPoints.rows, 1 ≤ p.id ∧ p.id < 2 ^ 63 := by
    intro p member
    have bigint := columns p member
    simp only [postgres, decide_eq_true_eq] at bigint
    exact ⟨Serial.one_le_key member, bigint.2⟩
  have rows := Serial.length_le_of_keys (by norm_num) db.gpsPoints.sorted ids
  have part : (db.history v dateFrom dateTo).length ≤ db.gpsPoints.rows.length := by
    rw [history_perm.length_eq]
    exact List.length_filter_le _ _
  omega

end

section

variable {E : Engine} {db : DB} {now dateFrom dateTo : Datetime} {u : User} {v : Int}
  {limit : {n : Int // 1 ≤ n ∧ n ≤ 1000}} {offset : AtLeast 0}

/-- **One request.** -/
theorem getHistory_page (holds : u.vehicleId = some v)
    (takesFrom : E.timestamptz dateFrom.instant = true)
    (takesTo : E.timestamptz dateTo.instant = true) (fits : E.bigint offset = true) :
    getHistory E now db u (pageRequest dateFrom dateTo limit offset) =
      .ok ⟨v, (db.pointsBetween v dateFrom.instant dateTo.instant).length,
        (((db.history v dateFrom.instant dateTo.instant).drop offset.1.toNat).take
          limit.1.toNat).map HistoryPointOut.modelValidate⟩ := by
  rw [getHistory_eq holds (historyWindow_explicit rfl rfl takesFrom takesTo) fits,
    Table.count, List.countP_eq_length_filter]
  rfl

/-- **Paging is exact** for windows of instants that the driver takes.  `columns` says that an
id column holds 64-bit integers. -/
theorem history_pages (db : DB)
    (columns : ∀ p ∈ db.gpsPoints.toTable, postgres.bigint p.id = true) {u : User} {v : Int}
    (holds : u.vehicleId = some v) (now dateFrom dateTo : Datetime)
    (takesFrom : postgres.timestamptz dateFrom.instant = true)
    (takesTo : postgres.timestamptz dateTo.instant = true)
    (limit : {n : Int // 1 ≤ n ∧ n ≤ 1000}) :
    let inside := db.pointsBetween v dateFrom.instant dateTo.instant
    let size := limit.1.toNat
    ∃ sorted : List GPSPoint, sorted.Perm inside ∧ sorted.Pairwise GPSPoint.Before ∧
      (∀ offset : AtLeast 0, postgres.bigint offset = true → ∃ points,
        getHistory postgres now db u (pageRequest dateFrom dateTo limit offset) =
          .ok ⟨v, inside.length, points⟩ ∧ (inside.length ≤ offset.1 → points = [])) ∧
      ∃ pages : Nat → List HistoryPointOut,
        (∀ k ≤ inside.length / size,
          getHistory postgres now db u (pageRequest dateFrom dateTo limit (pageOffset limit k)) =
            .ok ⟨v, inside.length, pages k⟩) ∧
        (List.range (inside.length / size + 1)).flatMap pages =
          sorted.map HistoryPointOut.modelValidate ∧
        ∀ k < inside.length / size, (pages k).length = size := by
  intro inside size
  have positive : 0 < size := by have := limit.2.1; omega
  have perm : (db.history v dateFrom.instant dateTo.instant).Perm inside := history_perm
  have length := perm.length_eq
  refine ⟨db.history v dateFrom.instant dateTo.instant, perm, history_before,
    fun offset fits => ⟨_, getHistory_page holds takesFrom takesTo fits, fun beyond => ?_⟩,
    fun k => (page (db.history v dateFrom.instant dateTo.instant) size k).map
      HistoryPointOut.modelValidate, fun k last => ?_, ?_, fun k before => ?_⟩
  · rw [List.drop_eq_nil_of_le (by omega), List.take_nil, List.map_nil]
  · have bound := length_history_lt v dateFrom.instant dateTo.instant columns
    have within : k * size ≤ inside.length :=
      (Nat.mul_le_mul_right size last).trans (Nat.div_mul_le_self _ _)
    have fits : postgres.bigint (pageOffset limit k) = true :=
      bigint_pageOffset (show k * size < 2 ^ 63 by omega)
    rw [getHistory_page holds takesFrom takesTo fits, val_pageOffset, Int.toNat_natCast]
    rfl
  · rw [← length, ← List.map_flatMap, flatMap_page_all _ positive]
  · rw [List.length_map]
    exact length_page_of_lt positive (length ▸ before)

/-- 1970-01-01T00:00:00, and 1970-01-01T01:00:01+01:00. -/
def naiveEpoch : Datetime := ⟨0, none, Datetime.epoch.representable⟩

def oneSecondLater : Datetime := ⟨seconds 3601, some (seconds 3600), by decide⟩

/-- Two points, on pages of one. -/
theorem history_pages_two :
    let db := runCalls postgres .empty [(plainAmbient, createFirstVehicle),
      (plainAmbient, .handleGpsMessage lateFix), (plainAmbient, .handleGpsMessage earlyFix)]
    let inside := db.pointsBetween 1 0 (seconds 1)
    inside.length = 2 ∧ ∃ sorted : List GPSPoint, sorted.Perm inside ∧
      sorted.Pairwise GPSPoint.Before ∧ ∃ pages : Nat → List HistoryPointOut,
        (∀ k ≤ 2, getHistory postgres .epoch db raviRow
          (pageRequest naiveEpoch oneSecondLater ⟨1, by decide⟩ (pageOffset ⟨1, by decide⟩ k)) =
            .ok ⟨1, 2, pages k⟩) ∧
        (List.range 3).flatMap pages = sorted.map HistoryPointOut.modelValidate := by
  intro db inside
  have two : inside.length = 2 := by decide +kernel
  have columns : ∀ p ∈ db.gpsPoints.rows, postgres.bigint p.id = true := by decide +kernel
  obtain ⟨sorted, perm, before, _, pages, each, all, _⟩ :=
    history_pages db columns rfl .epoch naiveEpoch oneSecondLater (by decide) (by decide)
      (u := raviRow) (v := 1) ⟨1, by decide⟩
  have count : (db.pointsBetween 1 naiveEpoch.instant oneSecondLater.instant).length = 2 := two
  rw [count] at each all
  exact ⟨two, sorted, perm, before, pages, each, all⟩

/-- 0001-01-01T00:00:00+00:01, a minute before the first UTC `datetime`. -/
def beforeYearOne : Datetime := ⟨minWall, some (seconds 60), by decide⟩

/-- **Not every explicit window is answered.** -/
theorem instant_out_of_range :
    ¬ ∀ (db : DB) (now dateFrom dateTo : Datetime) (u : User) (v : Int)
      (limit : {n : Int // 1 ≤ n ∧ n ≤ 1000}), u.vehicleId = some v →
      ∃ points, getHistory postgres now db u
          (pageRequest dateFrom dateTo limit (pageOffset limit 0)) =
        .ok ⟨v, (db.pointsBetween v dateFrom.instant dateTo.instant).length, points⟩ := by
  intro answered
  obtain ⟨points, answer⟩ := answered .demo .epoch beforeYearOne .epoch raviRow 1
    HistoryParams.defaultLimit rfl
  have refused : getHistory postgres .epoch .demo raviRow
      (pageRequest beforeYearOne .epoch HistoryParams.defaultLimit
        (pageOffset HistoryParams.defaultLimit 0)) = .error .dbapiError := by
    decide +kernel
  cases refused.symm.trans answer

end

end FleetTracking
