import FleetTracking.HistoryPaging
import FleetTracking.Relational.SlidingPages

/-!
# The default window

Without `to` a history request ends now, and without `from` it begins 24 hours before its end.
`getHistory_answers` says for which requests that, and the binding of the offset, stays in
range.  `default_walk` is about a client that reads the default window page by page: the window
moves between two requests, and the points that have left it push later ones past the next page.
-/

namespace FleetTracking

open Relational Python Pydantic

/-! ## Which requests are answered -/

/-- Where the window ends. -/
def HistoryParams.till (params : HistoryParams) (now : Datetime) : Datetime :=
  params.dateTo.getD now

/-- An instant with a UTC `datetime`. -/
def InCalendar (t : Int) : Prop := minWall ≤ t ∧ t < endWall

/-- The ends of the window are instants of the calendar, a missing `from` does not lead before
its beginning, on the clock of `to` or in UTC, and the offset is a 64-bit integer. -/
structure Answerable (now : Datetime) (params : HistoryParams) : Prop where
  till : InCalendar (params.till now).instant
  since : ∀ dateFrom, params.dateFrom = some dateFrom → InCalendar dateFrom.instant
  noFrom : params.dateFrom = none → minWall + defaultHistoryWindow ≤ (params.till now).wall ∧
    minWall + defaultHistoryWindow ≤ (params.till now).instant
  offset : params.offset.1 < 2 ^ 63

section

variable {db : DB} {now : Datetime} {u : User} {v : Int} {params : HistoryParams}

theorem timestamptz_iff {t : Int} : postgres.timestamptz t = true ↔ InCalendar t :=
  decide_eq_true_iff

theorem bigint_offset_iff : postgres.bigint params.offset = true ↔ params.offset.1 < 2 ^ 63 := by
  have nonneg := params.offset.2
  simp only [postgres, decide_eq_true_eq]
  constructor
  · exact And.right
  · exact fun small => ⟨by omega, small⟩

/-- Only the window and the offset can be refused. -/
theorem getHistory_eq_ok {E : Engine} (holds : u.vehicleId = some v) :
    (∃ out, getHistory E now db u params = .ok out) ↔
      (∃ window, historyWindow E now params = .ok window) ∧ E.bigint params.offset = true := by
  constructor
  · rintro ⟨out, done⟩
    unfold getHistory at done
    rw [holds] at done
    obtain ⟨window, opened, done⟩ := bind_eq_ok.mp done
    refine ⟨⟨window, opened⟩, ?_⟩
    by_contra refuses
    dsimp only at done
    rw [if_neg refuses] at done
    cases done
  · rintro ⟨⟨⟨dateFrom, dateTo⟩, opened⟩, fits⟩
    exact ⟨_, getHistory_eq holds opened fits⟩

/-- Where a window without `from` begins. -/
theorem since_eq_some (noFrom : params.dateFrom = none) {since : Datetime} :
    params.since now = some since ↔
      minWall + defaultHistoryWindow ≤ (params.till now).wall ∧
        since.wall = (params.till now).wall - defaultHistoryWindow ∧
        since.offset = (params.till now).offset := by
  have late := (params.till now).representable.2
  have day : 0 < defaultHistoryWindow := by decide
  rw [HistoryParams.since, noFrom]
  dsimp only
  change (params.till now).add (-defaultHistoryWindow) = some since ↔ _
  unfold Datetime.add
  split
  · next inside =>
      rw [Option.some.injEq]
      constructor
      · rintro rfl
        exact ⟨by omega, rfl, rfl⟩
      · rintro ⟨_, wall, offset⟩
        rcases since with ⟨wall', offset', _⟩
        subst wall offset
        rfl
  · next outside =>
      refine iff_of_false (by simp) fun begins => ?_
      have early := begins.1
      exact absurd ⟨by omega, by omega⟩ outside

/-- The window is one that the driver takes. -/
theorem historyWindow_answers :
    (∃ window, historyWindow postgres now params = .ok window) ↔
      InCalendar (params.till now).instant ∧
      (∀ dateFrom, params.dateFrom = some dateFrom → InCalendar dateFrom.instant) ∧
      (params.dateFrom = none → minWall + defaultHistoryWindow ≤ (params.till now).wall ∧
        minWall + defaultHistoryWindow ≤ (params.till now).instant) := by
  have window : (∃ window, historyWindow postgres now params = .ok window) ↔
      ∃ since, params.since now = some since ∧ InCalendar since.instant ∧
        InCalendar (params.till now).instant := by
    simp only [historyWindow_eq_ok, timestamptz_iff]
    constructor
    · rintro ⟨_, since, opens, takesFrom, takesTo, _⟩
      exact ⟨since, opens, takesFrom, takesTo⟩
    · rintro ⟨since, opens, takesFrom, takesTo⟩
      exact ⟨_, since, opens, takesFrom, takesTo, rfl⟩
  rw [window]
  cases given : params.dateFrom with
  | some dateFrom =>
      have opens : params.since now = some dateFrom := by rw [HistoryParams.since, given]
      simp only [opens, Option.some.injEq, exists_eq_left', forall_eq', reduceCtorEq,
        IsEmpty.forall_iff, and_true]
      exact and_comm
  | none =>
      simp only [since_eq_some given, reduceCtorEq, IsEmpty.forall_iff, implies_true, true_and,
        forall_const]
      have day : 0 < defaultHistoryWindow := by decide
      have late := (params.till now).representable.2
      constructor
      · rintro ⟨since, ⟨early, wall, offset⟩, takesFrom, takesTo⟩
        refine ⟨takesTo, early, ?_⟩
        unfold InCalendar Datetime.instant at *
        rw [wall, offset] at takesFrom
        omega
      · rintro ⟨takesTo, early, early'⟩
        refine ⟨⟨(params.till now).wall - defaultHistoryWindow, (params.till now).offset,
          by omega, by omega⟩, ⟨early, rfl, rfl⟩, ?_, takesTo⟩
        unfold InCalendar Datetime.instant at *
        dsimp only
        omega

/-- **Which requests are answered.** -/
theorem getHistory_answers (db : DB) (now : Datetime) (holds : u.vehicleId = some v)
    (params : HistoryParams) :
    (∃ out, getHistory postgres now db u params = .ok out) ↔ Answerable now params := by
  rw [getHistory_eq_ok holds, historyWindow_answers, bigint_offset_iff]
  constructor
  · rintro ⟨⟨till, since, noFrom⟩, offset⟩
    exact ⟨till, since, noFrom, offset⟩
  · rintro ⟨till, since, noFrom, offset⟩
    exact ⟨⟨till, since, noFrom⟩, offset⟩

theorem getHistory_answers_default :
    (∃ out, getHistory postgres .epoch .demo raviRow
        ⟨none, none, HistoryParams.defaultLimit, HistoryParams.defaultOffset⟩ = .ok out) ↔
      Answerable .epoch
        ⟨none, none, HistoryParams.defaultLimit, HistoryParams.defaultOffset⟩ :=
  getHistory_answers .demo .epoch (u := raviRow) (v := 1) rfl _

/-- 0001-01-01T00:00:00 -/
def datetimeMin : Datetime := ⟨minWall, none, beforeYearOne.representable⟩

/-- **A window up to the first midnight of the calendar** begins before it. -/
theorem year_one_overflows :
    ¬ ∀ (db : DB) (now : Datetime) (u : User) (v : Int) (params : HistoryParams),
      u.vehicleId = some v → ∃ out, getHistory postgres now db u params = .ok out := by
  intro answers
  obtain ⟨out, answer⟩ := answers .demo .epoch raviRow 1 ⟨none, some datetimeMin,
    HistoryParams.defaultLimit, HistoryParams.defaultOffset⟩ rfl
  have raised : getHistory postgres .epoch .demo raviRow ⟨none, some datetimeMin,
      HistoryParams.defaultLimit, HistoryParams.defaultOffset⟩ = .error .overflowError := rfl
  cases raised.symm.trans answer

end

/-! ## The default window, page by page -/

/-- The request for one page of the default window. -/
def defaultRequest (limit : {n : Int // 1 ≤ n ∧ n ≤ 1000}) (offset : AtLeast 0) : HistoryParams :=
  ⟨none, none, limit, offset⟩

/-- The default window at the time `now`, in the order of the query. -/
def DB.recent (db : DB) (v : Int) (now : Datetime) : List GPSPoint :=
  db.history v (now.instant - defaultHistoryWindow) now.instant

def GPSPoint.before (p q : GPSPoint) : Bool :=
  p.recordedAt < q.recordedAt ∨ (p.recordedAt = q.recordedAt ∧ p.id < q.id)

theorem GPSPoint.before_iff {p q : GPSPoint} : p.before q = true ↔ p.Before q :=
  decide_eq_true_iff

/-- The order of the query goes by time first. -/
theorem GPSPoint.before_chronological :
    Chronological (fun p : GPSPoint => p.recordedAt) GPSPoint.before where
  asymm := fun {p q} earlier => by
    refine Bool.eq_false_iff.mpr fun later => ?_
    rw [before_iff, Before] at earlier later
    omega
  key_le := fun {p q} earlier => by
    rw [before_iff, Before] at earlier
    omega
  of_key := fun less => before_iff.mpr (.inl less)

/-- How many points of the window come before `p`. -/
def DB.recentRank (db : DB) (v : Int) (now : Datetime) (p : GPSPoint) : Nat :=
  (db.recent v now).countP fun q => q.before p

/-- How many points of the window at `now` are too old for the window at `next`. -/
def DB.leaving (db : DB) (v : Int) (now next : Datetime) : Nat :=
  (db.recent v now).countP fun q => q.recordedAt < next.instant - defaultHistoryWindow

section

variable {db : DB} {u : User} {v : Int} {limit : {n : Int // 1 ≤ n ∧ n ≤ 1000}}
  {now : Nat → Datetime}

/-- A request for the default window, where the clock shows UTC and at least the second day of
the calendar. -/
theorem getHistory_recent {now : Datetime} (holds : u.vehicleId = some v)
    (utc : now.offset = some 0) (late : minWall + defaultHistoryWindow ≤ now.wall)
    {offset : AtLeast 0} (fits : postgres.bigint offset = true) :
    getHistory postgres now db u (defaultRequest limit offset) =
      .ok ⟨v, (db.recent v now).length,
        (((db.recent v now).drop offset.1.toNat).take limit.1.toNat).map
          HistoryPointOut.modelValidate⟩ := by
  have instant : now.instant = now.wall := by simp [Datetime.instant, utc]
  have day : 0 < defaultHistoryWindow := by decide
  have representable := now.representable
  obtain ⟨since, opens⟩ : ∃ since, (defaultRequest limit offset).since now = some since :=
    ⟨⟨now.wall - defaultHistoryWindow, now.offset, by omega, by omega⟩,
      (since_eq_some rfl).mpr ⟨late, rfl, rfl⟩⟩
  obtain ⟨_, wall, same⟩ := (since_eq_some rfl).mp opens
  have begins : since.instant = now.instant - defaultHistoryWindow := by
    simp only [Datetime.instant, wall, same, HistoryParams.till, defaultRequest, Option.getD_none]
    omega
  have window : historyWindow postgres now (defaultRequest limit offset) =
      .ok (now.instant - defaultHistoryWindow, now.instant) := by
    refine historyWindow_eq_ok.mpr ⟨since, opens, timestamptz_iff.mpr ⟨?_, ?_⟩,
      timestamptz_iff.mpr ⟨?_, ?_⟩, congrArg (·, now.instant) begins⟩
    · omega
    · omega
    · exact instant ▸ representable.1
    · exact instant ▸ representable.2
  rw [getHistory_eq holds window fits, Table.count, List.countP_eq_length_filter, DB.recent,
    history_perm.length_eq]
  rfl

/-- The windows of a walk, as a window that slides over the vehicle's points. -/
theorem recent_sliding (db : DB) (v : Int)
    (forward : ∀ j k, j ≤ k → (now j).instant ≤ (now k).instant) :
    Sliding (fun p : GPSPoint => p.recordedAt) GPSPoint.before
      (db.gpsPoints.rows.filter fun p => p.vehicleId = v)
      (fun k => (now k).instant - defaultHistoryWindow) (fun k => (now k).instant)
      (fun k => db.recent v (now k)) where
  order := GPSPoint.before_chronological
  perm k := by
    refine history_perm.trans (.of_eq ?_)
    rw [DB.pointsBetween, List.filter_filter]
    refine List.filter_congr fun p _ => ?_
    rw [Bool.eq_iff_iff]
    simp only [Bool.and_eq_true, decide_eq_true_eq]
    exact and_comm
  sorted k := history_before.imp GPSPoint.before_iff.mpr
  lo_mono later := Int.sub_le_sub_right (forward _ _ later) _
  hi_mono later := forward _ _ later

/-- **The walk.**  A client that asks for the default window at the offsets 0, L, 2L, … gets an
empty page at last.  No point was on two of the pages before.  A point that was in the window
at every request was on one of them, unless after some request it was among the points that
follow the page, as many of them as have left the window by the next request. -/
theorem default_walk (db : DB) (room : db.gpsPoints.rows.length + 1000 ≤ 2 ^ 63)
    (holds : u.vehicleId = some v) (limit : {n : Int // 1 ≤ n ∧ n ≤ 1000})
    (utc : ∀ k, (now k).offset = some 0)
    (late : ∀ k, minWall + defaultHistoryWindow ≤ (now k).wall)
    (forward : ∀ j k, j ≤ k → (now j).instant ≤ (now k).instant) :
    let size := limit.1.toNat
    ∃ (n : Nat) (pages : Nat → List GPSPoint),
      (∀ k ≤ n, getHistory postgres (now k) db u (defaultRequest limit (pageOffset limit k)) =
        .ok ⟨v, (db.recent v (now k)).length, (pages k).map HistoryPointOut.modelValidate⟩) ∧
      (∀ k < n, pages k ≠ []) ∧ pages n = [] ∧
      ((List.range n).flatMap pages).Nodup ∧
      ∀ p, (∀ k ≤ n, p ∈ db.pointsBetween v ((now k).instant - defaultHistoryWindow)
          (now k).instant) →
        (p ∈ (List.range n).flatMap pages ↔
          ¬ ∃ k < n, (k + 1) * size ≤ db.recentRank v (now k) p ∧
            db.recentRank v (now k) p < (k + 1) * size + db.leaving v (now k) (now (k + 1))) := by
  intro size
  have positive : 0 < size := by have := limit.2.1; omega
  have sliding := recent_sliding db v forward
  obtain ⟨n, full, past, bound⟩ := sliding.walk_ends positive
  have rows := List.length_filter_le (fun p : GPSPoint => decide (p.vehicleId = v))
    db.gpsPoints.rows
  refine ⟨n, fun k => page (db.recent v (now k)) size k, fun k within => ?_, full, past,
    sliding.walk_nodup size n, fun p stays => ?_⟩
  · have small : k * size ≤ n * size := Nat.mul_le_mul_right size within
    have pageSize := limit.2.2
    have fits : postgres.bigint (pageOffset limit k) = true :=
      bigint_pageOffset (show k * size < 2 ^ 63 by omega)
    rw [getHistory_recent holds (utc k) (late k) fits, val_pageOffset, Int.toNat_natCast]
    rfl
  · have inside : ∀ k ≤ n, p ∈ db.recent v (now k) := fun k within =>
      history_perm.mem_iff.mpr (stays k within)
    have received := sliding.walk_received positive inside past
    simp only [Overtaken, ← Nat.succ_mul] at received
    simp only [List.mem_flatMap, List.mem_range]
    exact received

/-- Points at the seconds 0, 1 and 3. -/
def DB.threeFixes : DB := runCalls postgres .empty [(plainAmbient, createFirstVehicle),
  (plainAmbient, .handleGpsMessage earlyFix), (plainAmbient, .handleGpsMessage lateFix),
  (plainAmbient, .handleGpsMessage
    (firstVehicleFix ⟨.fin 4, by decide +kernel⟩ (seconds 3) (by decide)))]

/-- The first request comes when the oldest point is about to leave, the others later. -/
def overtakingClock (k : Nat) : Datetime :=
  if k = 0 then ⟨defaultHistoryWindow, some 0, by decide⟩
  else ⟨defaultHistoryWindow + seconds 1, some 0, by decide⟩

theorem overtakingClock_utc (k : Nat) : (overtakingClock k).offset = some 0 := by
  unfold overtakingClock
  split <;> rfl

theorem overtakingClock_late (k : Nat) :
    minWall + defaultHistoryWindow ≤ (overtakingClock k).wall := by
  unfold overtakingClock
  split <;> decide

theorem overtakingClock_monotone (j k : Nat) (later : j ≤ k) :
    (overtakingClock j).instant ≤ (overtakingClock k).instant := by
  simp only [overtakingClock]
  split
  · split
    · exact le_rfl
    · decide
  · next started =>
      rw [if_neg (by omega)]

theorem default_walk_three :
    let size := (⟨1, by decide⟩ : {n : Int // 1 ≤ n ∧ n ≤ 1000}).1.toNat
    ∃ (n : Nat) (pages : Nat → List GPSPoint),
      (∀ k ≤ n, getHistory postgres (overtakingClock k) .threeFixes raviRow
          (defaultRequest ⟨1, by decide⟩ (pageOffset ⟨1, by decide⟩ k)) =
        .ok ⟨1, (DB.threeFixes.recent 1 (overtakingClock k)).length,
          (pages k).map HistoryPointOut.modelValidate⟩) ∧
      (∀ k < n, pages k ≠ []) ∧ pages n = [] ∧
      ((List.range n).flatMap pages).Nodup ∧
      ∀ p, (∀ k ≤ n, p ∈ DB.threeFixes.pointsBetween 1
          ((overtakingClock k).instant - defaultHistoryWindow) (overtakingClock k).instant) →
        (p ∈ (List.range n).flatMap pages ↔
          ¬ ∃ k < n, (k + 1) * size ≤ DB.threeFixes.recentRank 1 (overtakingClock k) p ∧
            DB.threeFixes.recentRank 1 (overtakingClock k) p < (k + 1) * size +
              DB.threeFixes.leaving 1 (overtakingClock k) (overtakingClock (k + 1))) :=
  default_walk .threeFixes (by decide +kernel) (u := raviRow) (v := 1) rfl ⟨1, by decide⟩
    overtakingClock_utc overtakingClock_late overtakingClock_monotone

/-- What the client is sent: the points at the seconds 0 and 3, and then nothing. -/
def overtakingOut : Nat → HistoryOut
  | 0 => ⟨1, 3, [⟨.fin 1, .fin 0, .fin 0, 0⟩]⟩
  | 1 => ⟨1, 2, [⟨.fin 4, .fin 0, .fin 0, seconds 3⟩]⟩
  | _ => ⟨1, 2, []⟩

/-- **A point is skipped.**  When the first point leaves after it was read, the second moves to
its place, and the next page has the third. -/
theorem leaving_point_skips :
    ¬ ∀ (db : DB) (u : User) (v : Int) (limit : {n : Int // 1 ≤ n ∧ n ≤ 1000})
      (now : Nat → Datetime), u.vehicleId = some v → (∀ k, (now k).offset = some 0) →
      (∀ k, minWall + defaultHistoryWindow ≤ (now k).wall) →
      (∀ j k, j ≤ k → (now j).instant ≤ (now k).instant) →
      ∀ (n : Nat) (outs : Nat → HistoryOut),
        (∀ k ≤ n, getHistory postgres (now k) db u (defaultRequest limit (pageOffset limit k)) =
          .ok (outs k)) →
        (∀ k < n, (outs k).points ≠ []) → (outs n).points = [] →
        ∀ p, (∀ k ≤ n, p ∈ db.pointsBetween v ((now k).instant - defaultHistoryWindow)
            (now k).instant) →
          HistoryPointOut.modelValidate p ∈ (List.range n).flatMap fun k => (outs k).points := by
  intro complete
  have walk : ∀ k ≤ 2, getHistory postgres (overtakingClock k) .threeFixes raviRow
      (defaultRequest ⟨1, by decide⟩ (pageOffset ⟨1, by decide⟩ k)) = .ok (overtakingOut k) := by
    intro k within
    have sorted : (DB.threeFixes.pointsBetween 1
        ((overtakingClock k).instant - defaultHistoryWindow) (overtakingClock k).instant).Pairwise
          fun p q => chronological p q = true := by
      interval_cases k <;> decide +kernel
    have fits : postgres.bigint (pageOffset ⟨1, by decide⟩ k) = true := by
      interval_cases k <;> decide
    rw [getHistory_recent rfl (overtakingClock_utc k) (overtakingClock_late k) fits, DB.recent,
      DB.history, List.mergeSort_of_pairwise sorted]
    interval_cases k <;> decide +kernel
  have stays : ∀ k ≤ 2, (⟨lateFix.fix, 2, 1⟩ : GPSPoint) ∈ DB.threeFixes.pointsBetween 1
      ((overtakingClock k).instant - defaultHistoryWindow) (overtakingClock k).instant := by
    decide +kernel
  have read := complete .threeFixes raviRow 1 ⟨1, by decide⟩ overtakingClock rfl
    overtakingClock_utc overtakingClock_late overtakingClock_monotone 2 overtakingOut walk
    (by decide +kernel) rfl _ stays
  revert read
  decide +kernel

end

end FleetTracking
