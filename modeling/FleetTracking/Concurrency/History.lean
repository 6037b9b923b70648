import FleetTracking.HistoryPaging
import Mathlib.Data.Fintype.Option

/-!
# A history response while fixes come in

One `get_history` request and any number of `handle_gps_message` sessions, interleaved
statement by statement.  The request counts first and reads the page later, and each of the
two sees what is committed by then: a point of the window that is committed in between is not
counted, but it takes its place on the page.

`history_response` says what the response has for every schedule, and for which placements of
the commits its two numbers agree.
-/

namespace FleetTracking

open Relational Python ReadCommitted

/-- What a session ends with: the response of the request, or what the handler returns. -/
abbrev Reply := Except Failure HistoryOut ⊕ Except Failure Bool

section

variable {ι : Type} [Fintype ι] [DecidableEq ι]

/-- The request, under `none`, and a session for each of the messages, all at their first
statements. -/
def readingWhile (E : Engine) (db : DB) (now : Datetime) (u : User) (params : HistoryParams)
    (m : ι → GPSMessage) : System (Option ι) DB RowLock Reply :=
  .start db fun session =>
    match session with
    | none => (getHistoryTxn E now u params).map .inl
    | some i => (handleGpsMessageTxn E rowLocks (m i)).map .inr

/-- `added` are the history points stored from `db` to `db'`, each of them a fix of `m`. -/
structure StoredBetween (m : ι → GPSMessage) (db db' : DB) (added : List GPSPoint) : Prop where
  rows : db'.gpsPoints.rows = db.gpsPoints.rows ++ added
  fixes : ∀ p ∈ added, ∃ i, p.vehicleId = (m i).vehicleId ∧ p.toFix = (m i).fix

/-! ## The history only grows -/

/-- Points of the messages come in, and none goes. -/
def Later (m : ι → GPSMessage) (db db' : DB) : Prop :=
  ∃ added, StoredBetween m db db' added

section

variable {E : Engine} {m : ι → GPSMessage} {db db' db'' : DB} {i : ι}

omit [Fintype ι] [DecidableEq ι]

theorem later_of_rows (same : db'.gpsPoints.rows = db.gpsPoints.rows) : Later m db db' :=
  ⟨[], by rw [same, List.append_nil], fun _ member => (List.not_mem_nil member).elim⟩

theorem Later.refl (m : ι → GPSMessage) (db : DB) : Later m db db := later_of_rows rfl

theorem Later.trans (first : Later m db db') (second : Later m db' db'') : Later m db db'' := by
  rcases first, second with ⟨⟨added, first⟩, ⟨added', second⟩⟩
  refine ⟨added ++ added', by rw [second.rows, first.rows, List.append_assoc], fun p member => ?_⟩
  rcases List.mem_append.mp member with old | new
  · exact first.fixes p old
  · exact second.fixes p new

theorem later_addPoint : Later m db (db.addPoint (m i)) := by
  refine ⟨[{ (m i).point with id := db.gpsPoints.next }], rfl, fun p member => ⟨i, ?_⟩⟩
  cases List.mem_singleton.mp member
  exact ⟨rfl, rfl⟩

/-- Whatever a session for one of the messages has sent, kept or rolled back. -/
theorem handleGpsMessageTxn_within :
    (handleGpsMessageTxn E rowLocks (m i)).EachWrite (Write.Within (Later m)) := by
  refine handleGpsMessageTxn_eachWrite (fun db => ⟨?_, ?_⟩) (Statement.plain_within (.refl m) ?_)
    fun loaded => Statement.plain_within (.refl m) ?_
  · rcases (insertPoint E rowLocks (m i)).apply_cases db with same | applied
    · rw [same]
      exact .refl m db
    · rw [Engine.execute_eq_ok (mapError_eq_ok.mp applied)]
      exact later_addPoint
  · simp only [insertPoint]
    split
    · exact .refl m db
    · exact later_of_rows rfl
  · intro db db' inserted
    unfold Engine.insertCurrentRow at inserted
    split at inserted
    · cases inserted
    · rw [Engine.execute_eq_ok inserted]
      exact later_of_rows rfl
  · intro db db' updated
    split at updated
    · cases updated
    · rw [Engine.execute_eq_ok updated]
      exact later_of_rows rfl

theorem getHistoryTxn_within {now : Datetime} {u : User} {params : HistoryParams} :
    (getHistoryTxn E now u params).EachWrite (Write.Within (Later m)) := by
  unfold getHistoryTxn
  split
  · trivial
  · split
    · trivial
    · intro db
      dsimp only
      split
      · exact fun _ => trivial
      · trivial

end

/-! ## Every schedule -/

section

variable {E : Engine} {db : DB} {now : Datetime} {u : User} {params : HistoryParams}
  {m : ι → GPSMessage} {schedule : List (Option ι)} {s : System (Option ι) DB RowLock Reply}
  {out : HistoryOut}

/-- From one state of a run to a later one. -/
theorem later_of_run {first second : List (Option ι)}
    {before after : System (Option ι) DB RowLock Reply}
    (ran : (readingWhile E db now u params m).run first = some before)
    (ran' : before.run second = some after) : Later m before.db after.db := by
  have each : ∀ session, ((readingWhile E db now u params m).session session).EachWrite
      (Write.Within (Later m)) := by
    intro session
    refine ⟨?_, fun w member => (List.not_mem_nil member).elim⟩
    cases session with
    | none => exact getHistoryTxn_within.within_map
    | some i => exact handleGpsMessageTxn_within.within_map
  have each' := (System.run_rel (Later.refl m) Later.trans each ran).1
  exact (System.run_rel (Later.refl m) Later.trans each' ran').2

/-- The request counts at its first turn and reads the page at its second. -/
theorem history_turns (ran : (readingWhile E db now u params m).run schedule = some s)
    (replied : s.session none = .finished (.inl (.ok out))) :
    ∃ before after v dateFrom dateTo,
      (readingWhile E db now u params m).Turns none schedule before after ∧
      u.vehicleId = some v ∧ historyWindow E now params = .ok (dateFrom, dateTo) ∧
      out = ⟨v, before.db.gpsPoints.count (inWindow v dateFrom dateTo),
        (historyPage after.db.gpsPoints (inWindow v dateFrom dateTo) params.limit
          params.offset).map HistoryPointOut.modelValidate⟩ := by
  have start : (readingWhile E db now u params m).session none =
      .running ((getHistoryTxn E now u params).map .inl) [] := rfl
  unfold getHistoryTxn at start
  cases holds : u.vehicleId with
  | none =>
      rw [holds] at start
      cases System.run_rollback start ran replied
  | some v =>
      rw [holds] at start
      dsimp only at start
      cases window : historyWindow E now params with
      | error failure =>
          rw [window] at start
          cases System.run_rollback start ran replied
      | ok bounds =>
          rw [window] at start
          obtain ⟨first, later, before, middle, split, silent, ran₁, turn, counted, left⟩ :=
            System.run_select start ran replied
          dsimp only at counted
          split at counted
          · obtain ⟨second, rest, after, _, rfl, silent', ran₂, _, paged, left⟩ :=
              System.run_select counted left replied
            have answer := System.run_rollback paged left replied
            refine ⟨before, after, v, bounds.1, bounds.2, ?_, rfl, rfl, ?_⟩
            · exact ⟨first, second, rest, split, silent, silent', ran₁,
                System.run_cons.mpr ⟨middle, turn, ran₂⟩⟩
            · exact Except.ok.inj (Sum.inl.inj answer)
          · cases System.run_rollback counted left replied

theorem length_historyPage (t : Serial GPSPoint) (cond : GPSPoint → Bool) (limit offset : Int) :
    (historyPage t cond limit offset).length =
      min limit.toNat (t.count cond - offset.toNat) := by
  rw [historyPage, List.length_take, List.length_drop, List.length_mergeSort, Table.count,
    List.countP_eq_length_filter]

/-- **What a history response has.**  The page is as long as the count says, with the points of
the window added that were committed between the two statements.  So the two agree exactly when
there is no such point, or the counted ones had filled the page, or it lies behind them all. -/
theorem history_response (E : Engine) (db : DB) (now : Datetime) (u : User)
    (params : HistoryParams) (m : ι → GPSMessage) (schedule : List (Option ι))
    (s : System (Option ι) DB RowLock Reply) (out : HistoryOut)
    (ran : (readingWhile E db now u params m).run schedule = some s)
    (replied : s.session none = .finished (.inl (.ok out))) :
    ∃ before after dateFrom dateTo added,
      (readingWhile E db now u params m).Turns none schedule before after ∧
      historyWindow E now params = .ok (dateFrom, dateTo) ∧
      StoredBetween m before.db after.db added ∧
      let limit : Int := params.limit
      let offset : Int := params.offset
      let late := added.countP (inWindow out.vehicleId dateFrom dateTo)
      (out.points.length : Int) = min limit (max 0 (out.count + late - offset)) ∧
      ((out.points.length : Int) = min limit (max 0 (out.count - offset)) ↔
        late = 0 ∨ offset + limit ≤ out.count ∨ out.count + late ≤ offset) := by
  obtain ⟨before, after, v, dateFrom, dateTo, turns, _, window, rfl⟩ := history_turns ran replied
  obtain ⟨first, second, rest, _, _, _, ran₁, ran₂⟩ := id turns
  obtain ⟨added, stored⟩ := later_of_run ran₁ ran₂
  refine ⟨before, after, dateFrom, dateTo, added, turns, window, stored, ?_⟩
  intro limit offset late
  have counted : after.db.gpsPoints.count (inWindow v dateFrom dateTo) =
      before.db.gpsPoints.count (inWindow v dateFrom dateTo) + late := by
    simp only [Table.count, stored.rows, List.countP_append, late]
  have positive : 1 ≤ limit := params.limit.2.1
  have nonneg : 0 ≤ offset := params.offset.2
  simp only [List.length_map, length_historyPage, counted]
  generalize before.db.gpsPoints.count (inWindow v dateFrom dateTo) = count
  omega

/-- A request for the points of the seconds 0 and 1, and the fix of second 1. -/
def overlapping : System (Option Unit) DB RowLock Reply :=
  readingWhile postgres .withFirstVehicle .epoch raviRow
    (pageRequest naiveEpoch oneSecondLater HistoryParams.defaultLimit HistoryParams.defaultOffset)
    fun _ => lateFix

/-- The fix is stored and committed after the count. -/
def commitBetween : List (Option Unit) := none :: (List.replicate 5 (some ()) ++ [none, none])

theorem overlapping_replies : ∃ s out, overlapping.run commitBetween = some s ∧
    s.session none = .finished (.inl (.ok out)) ∧ out.count = 0 := by
  have ran : (overlapping.run commitBetween).any (fun s => (s.session none).result?.any fun r =>
      r.getLeft?.any fun response => response.toOption.any fun out => out.count == 0) = true := by
    decide +kernel
  obtain ⟨s, ran, reply⟩ := (Option.any_eq_true _ _).mp ran
  obtain ⟨r, ended, reply⟩ := (Option.any_eq_true _ _).mp reply
  obtain ⟨response, isLeft, reply⟩ := (Option.any_eq_true _ _).mp reply
  obtain ⟨out, isOk, reply⟩ := (Option.any_eq_true _ _).mp reply
  obtain rfl := Sum.getLeft?_eq_some_iff.mp isLeft
  obtain rfl := toOption_eq_some.mp isOk
  exact ⟨s, out, ran, Session.result?_eq_some.mp ended, beq_iff_eq.mp reply⟩

theorem history_response_overlapping : ∃ s out, overlapping.run commitBetween = some s ∧
    s.session none = .finished (.inl (.ok out)) ∧ out.count = 0 ∧
    ∃ before after dateFrom dateTo added, overlapping.Turns none commitBetween before after ∧
      StoredBetween (fun _ : Unit => lateFix) before.db after.db added ∧
      (out.points.length : Int) =
        min 500 (max 0 (added.countP (inWindow out.vehicleId dateFrom dateTo))) := by
  obtain ⟨s, out, ran, replied, empty⟩ := overlapping_replies
  obtain ⟨before, after, dateFrom, dateTo, added, turns, _, stored, length, _⟩ :=
    history_response postgres .withFirstVehicle .epoch raviRow (pageRequest naiveEpoch
      oneSecondLater HistoryParams.defaultLimit HistoryParams.defaultOffset) (fun _ => lateFix)
      commitBetween s out ran replied
  rw [empty] at length
  refine ⟨s, out, ran, replied, empty, before, after, dateFrom, dateTo, added, turns, stored, ?_⟩
  simpa [pageRequest, HistoryParams.defaultLimit, HistoryParams.defaultOffset] using length

/-- **The two numbers can disagree.**  Nothing was counted, and the page has a point. -/
theorem history_outgrows_count :
    ¬ ∀ (ι : Type) [Fintype ι] [DecidableEq ι] (db : DB) (now : Datetime) (u : User)
      (params : HistoryParams) (m : ι → GPSMessage) (schedule : List (Option ι))
      (s : System (Option ι) DB RowLock Reply) (out : HistoryOut),
      (readingWhile postgres db now u params m).run schedule = some s →
      s.session none = .finished (.inl (.ok out)) →
      (out.points.length : Int) = min params.limit.1 (max 0 (out.count - params.offset.1)) := by
  intro consistent
  obtain ⟨s, out, ran, replied, empty⟩ := overlapping_replies
  have short := consistent _ _ _ _ _ _ _ s out ran replied
  have committed : (overlapping.run (none :: List.replicate 5 (some ()))).any
      (fun s => s.db.gpsPoints.count (inWindow 1 0 (seconds 1)) == 1) = true := by
    decide +kernel
  obtain ⟨after, ran', one⟩ := (Option.any_eq_true _ _).mp committed
  have turns : overlapping.Turns none commitBetween overlapping after :=
    ⟨[], List.replicate 5 (some ()), [none], rfl, by decide, by decide, rfl, ran'⟩
  obtain ⟨_, _, v, dateFrom, dateTo, turns', holds, window, answer⟩ := history_turns ran replied
  obtain ⟨rfl, rfl⟩ := turns.unique turns'
  have bounds : historyWindow postgres .epoch (pageRequest naiveEpoch oneSecondLater
      HistoryParams.defaultLimit HistoryParams.defaultOffset) = .ok (0, seconds 1) := by
    decide +kernel
  cases holds
  cases bounds.symm.trans window
  have long : out.points.length = 1 := by
    rw [answer, List.length_map, length_historyPage, beq_iff_eq.mp one]
    rfl
  rw [long, empty] at short
  cases short

end

end

end FleetTracking
