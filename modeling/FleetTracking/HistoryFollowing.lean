import FleetTracking.HistoryWindow
import FleetTracking.Persistence
import FleetTracking.Relational.GrowingPages

/-!
# Following the history

A client asks for the history of a window at the offset of as many points as it has received,
while the fleet goes on reporting and the admins go on working.  `followHistory` is the client;
`followed` says which rows it is sent.  A late fix makes the client receive a point again, but
never miss one that was there when it began (`following_is_complete`).
-/

namespace FleetTracking

open Relational Python Pydantic

/-- A request, and what has run since the one before. -/
structure Round where
  ops : List (Ambient × Op)
  now : Datetime

/-- The client: what it has been sent, with the latest count. -/
def followHistory (settings : Settings) (u : User) (dateFrom dateTo : Datetime)
    (limit : {n : Int // 1 ≤ n ∧ n ≤ 1000}) :
    DB → HistoryOut → List Round → Except Failure HistoryOut
  | _, seen, [] => .ok seen
  | db, seen, round :: rounds =>
      let db' := runOps postgres settings db round.ops
      match getHistory postgres round.now db' u
          (pageRequest dateFrom dateTo limit ⟨seen.points.length, Int.natCast_nonneg _⟩) with
      | .error failure => .error failure
      | .ok out =>
          followHistory settings u dateFrom dateTo limit db'
            { out with points := seen.points ++ out.points } rounds

/-- The rows behind it. -/
def followed (settings : Settings) (v dateFrom dateTo : Int) (size : Nat) :
    DB → List GPSPoint → List Round → List GPSPoint
  | _, rows, [] => rows
  | db, rows, round :: rounds =>
      let db' := runOps postgres settings db round.ops
      followed settings v dateFrom dateTo size db'
        (readOn size rows (db'.history v dateFrom dateTo)) rounds

/-- None of the operations is a fresh run of the seed. -/
def NeverWipes (ops : List (Ambient × Op)) : Prop := ∀ step ∈ ops, step.2 ≠ .seed true

/-- Every fix of the vehicle is at least as late as those stored before. -/
def InOrder (settings : Settings) (v : Int) : DB → List (Ambient × Op) → Prop
  | _, [] => True
  | db, (a, op) :: ops =>
      (∀ m : GPSMessage, op = .call (.handleGpsMessage m) → m.vehicleId.1 = v →
        ∀ p ∈ db.gpsPoints.toTable, p.vehicleId = v → p.recordedAt ≤ m.recordedAt) ∧
      InOrder settings v (op.after postgres settings a db) ops

section

variable {settings : Settings} {db db' : DB} {v dateFrom dateTo : Int}

/-! ## How the history grows -/

theorem mem_history {p : GPSPoint} : p ∈ db.history v dateFrom dateTo ↔
    p ∈ db.gpsPoints.toTable ∧ p.vehicleId = v ∧ dateFrom ≤ p.recordedAt ∧
      p.recordedAt ≤ dateTo := by
  rw [history_perm.mem_iff, DB.pointsBetween, List.mem_filter, decide_eq_true_eq]
  exact Iff.rfl

theorem history_sorted (db : DB) (v dateFrom dateTo : Int) :
    (db.history v dateFrom dateTo).Pairwise fun p q => p.before q = true :=
  history_before.imp GPSPoint.before_iff.mpr

/-- What was reported stays in the window. -/
theorem history_grows (persists : db.Persists db') :
    db.history v dateFrom dateTo ⊆ db'.history v dateFrom dateTo := fun p member =>
  have inside := mem_history.mp member
  mem_history.mpr ⟨persists.points p inside.1, inside.2⟩

/-- Only a stored fix adds a point. -/
theorem Op.after_points {op : Op} (plain : op ≠ .seed true) (E : Engine) (settings : Settings)
    (a : Ambient) (db : DB) :
    (op.after E settings a db).gpsPoints = db.gpsPoints ∨
      ∃ m, op = .call (.handleGpsMessage m) ∧ op.after E settings a db = db.ingest m := by
  cases op with
  | call c =>
      rcases c.after_edits E a db with same | ⟨e, makes, _, leads⟩
      · exact .inl (congrArg DB.gpsPoints same)
      · cases e with
        | ingest m =>
            cases c <;> first | exact makes.elim | skip
            cases makes
            exact .inr ⟨m, rfl, leads⟩
        | wipe => cases c <;> exact makes.elim
        | _ =>
            have points := congrArg DB.gpsPoints leads
            exact .inl points
  | seed fresh =>
      cases fresh with
      | true => exact (plain rfl).elim
      | false =>
          obtain ⟨es, run, adds⟩ := (Op.seed false).after_edits E settings a db
          have grows := run.keep (P := db.Grows) (Q := Edit.Adds)
            (fun grows adds _ => grows.trans adds.grows) (.refl db) adds
          exact .inl grows.gpsPoints

/-- **Step.**  A fix that is not late comes last. -/
theorem prefix_history_ingest {m : GPSMessage}
    (inOrder : m.vehicleId.1 = v →
      ∀ p ∈ db.gpsPoints.toTable, p.vehicleId = v → p.recordedAt ≤ m.recordedAt) :
    db.history v dateFrom dateTo <+: (db.ingest m).history v dateFrom dateTo := by
  refine prefix_of_after GPSPoint.before_chronological (history_sorted db v dateFrom dateTo)
    (history_sorted _ v dateFrom dateTo) (history_grows (.ingest db m)) fun q new absent p old => ?_
  obtain ⟨stored, own, inside⟩ := mem_history.mp new
  obtain ⟨member, same, _⟩ := mem_history.mp old
  rcases Serial.mem_insert.mp stored with was | rfl
  · exact (absent (mem_history.mpr ⟨was, own, inside⟩)).elim
  · have earlier : p.recordedAt ≤ m.recordedAt := inOrder own p member same
    have smaller : p.id < db.gpsPoints.next := db.gpsPoints.key_lt member
    rw [GPSPoint.before_iff]
    rcases earlier.lt_or_eq with less | equal
    · exact .inl less
    · exact .inr ⟨equal, smaller⟩

/-- **Run.** -/
theorem prefix_history {ops : List (Ambient × Op)} (plain : NeverWipes ops)
    (inOrder : InOrder settings v db ops) :
    db.history v dateFrom dateTo <+:
      (runOps postgres settings db ops).history v dateFrom dateTo := by
  induction ops generalizing db with
  | nil => exact List.prefix_refl _
  | cons step ops ih =>
      obtain ⟨a, op⟩ := step
      obtain ⟨here, later⟩ := inOrder
      refine List.IsPrefix.trans ?_
        (ih (List.forall_mem_cons.mp plain).2 later)
      rcases Op.after_points (plain _ List.mem_cons_self) postgres settings a db with
        same | ⟨m, rfl, stored⟩
      · unfold DB.history DB.pointsBetween
        rw [same]
      · rw [stored]
        exact prefix_history_ingest fun own => here m rfl own

theorem InOrder.append {ops later : List (Ambient × Op)}
    (inOrder : InOrder settings v db (ops ++ later)) :
    InOrder settings v db ops ∧ InOrder settings v (runOps postgres settings db ops) later := by
  induction ops generalizing db with
  | nil => exact ⟨trivial, inOrder⟩
  | cons step ops ih =>
      obtain ⟨here, rest⟩ := inOrder
      obtain ⟨first, second⟩ := ih rest
      exact ⟨⟨here, first⟩, second⟩

/-! ## What the client has -/

variable {size : Nat} {rows start : List GPSPoint} {rounds : List Round}

/-- What holds between two requests of a client that began when the history was `start`. -/
structure Following (db : DB) (v dateFrom dateTo : Int) (start rows : List GPSPoint) : Prop where
  caughtUp : CaughtUp GPSPoint.before start rows (db.history v dateFrom dateTo)
  stored : rows ⊆ db.history v dateFrom dateTo
  bounded : rows.length ≤ (db.history v dateFrom dateTo).length

theorem length_history_le (persists : db.Persists db') :
    (db.history v dateFrom dateTo).length ≤ (db'.history v dateFrom dateTo).length :=
  (List.subperm_of_subset (GPSPoint.before_chronological.nodup
    (history_sorted db v dateFrom dateTo)) (history_grows persists)).length_le

/-- **Step.** -/
theorem Following.round (following : Following db v dateFrom dateTo start rows)
    (persists : db.Persists db') (size : Nat) :
    Following db' v dateFrom dateTo start (readOn size rows (db'.history v dateFrom dateTo)) where
  caughtUp := (following.caughtUp.grow GPSPoint.before_chronological
    (history_sorted db v dateFrom dateTo) (history_grows persists)).readOn
    GPSPoint.before_chronological (history_sorted db' v dateFrom dateTo) size
  stored := fun p member => (mem_readOn member).elim
    (fun has => history_grows persists (following.stored has)) id
  bounded := by
    have grows : (db.history v dateFrom dateTo).length ≤ (db'.history v dateFrom dateTo).length :=
      length_history_le persists
    have bounded := following.bounded
    rw [length_readOn]
    omega

/-- The operations of all rounds. -/
def allOps (rounds : List Round) : List (Ambient × Op) := rounds.flatMap Round.ops

theorem runOps_allOps {round : Round} : runOps postgres settings db (allOps (round :: rounds)) =
    runOps postgres settings (runOps postgres settings db round.ops) (allOps rounds) := by
  rw [allOps, List.flatMap_cons, runOps_append]
  rfl

theorem plain_allOps (plain : ∀ round ∈ rounds, NeverWipes round.ops) :
    NeverWipes (allOps rounds) := by
  intro step member
  obtain ⟨round, among, inside⟩ := List.mem_flatMap.mp member
  exact plain round among step inside

/-- **Run.** -/
theorem Following.run (following : Following db v dateFrom dateTo start rows)
    (plain : ∀ round ∈ rounds, NeverWipes round.ops) (size : Nat) :
    Following (runOps postgres settings db (allOps rounds)) v dateFrom dateTo start
      (followed settings v dateFrom dateTo size db rows rounds) := by
  induction rounds generalizing db rows with
  | nil => exact following
  | cons round rounds ih =>
      obtain ⟨here, later⟩ := List.forall_mem_cons.mp plain
      rw [runOps_allOps]
      exact ih (following.round (runOps_persists postgres settings round.ops here db) size) later

/-- **Run.**  Without late fixes the client has a prefix of the history. -/
theorem prefix_followed (plain : ∀ round ∈ rounds, NeverWipes round.ops)
    (inOrder : InOrder settings v db (allOps rounds))
    (has : rows <+: db.history v dateFrom dateTo) :
    followed settings v dateFrom dateTo size db rows rounds <+:
      (runOps postgres settings db (allOps rounds)).history v dateFrom dateTo := by
  induction rounds generalizing db rows with
  | nil => exact has
  | cons round rounds ih =>
      obtain ⟨here, later⟩ := List.forall_mem_cons.mp plain
      obtain ⟨first, rest⟩ := InOrder.append inOrder
      rw [runOps_allOps]
      exact ih later rest (prefix_readOn (has.trans (prefix_history here first)))

end

section

variable {settings : Settings} {db db' : DB} {u : User} {v : Int} {dateFrom dateTo now : Datetime}
  {limit : {n : Int // 1 ≤ n ∧ n ≤ 1000}} {rows start : List GPSPoint}

/-- Ids are 64-bit in every table of the run if they are at its end. -/
theorem columns_of_persists (persists : db.Persists db')
    (columns : ∀ p ∈ db'.gpsPoints.toTable, postgres.bigint p.id = true) :
    ∀ p ∈ db.gpsPoints.toTable, postgres.bigint p.id = true := fun p member =>
  columns p (persists.points p member)

/-- One request. -/
theorem getHistory_next (holds : u.vehicleId = some v)
    (takesFrom : postgres.timestamptz dateFrom.instant = true)
    (takesTo : postgres.timestamptz dateTo.instant = true)
    (columns : ∀ p ∈ db.gpsPoints.toTable, postgres.bigint p.id = true)
    (bounded : rows.length ≤ (db.history v dateFrom.instant dateTo.instant).length)
    {seen : List HistoryPointOut} (same : seen = rows.map HistoryPointOut.modelValidate)
    (nonneg : 0 ≤ (seen.length : Int)) :
    getHistory postgres now db u (pageRequest dateFrom dateTo limit ⟨seen.length, nonneg⟩) =
      .ok ⟨v, (db.pointsBetween v dateFrom.instant dateTo.instant).length,
        (((db.history v dateFrom.instant dateTo.instant).drop rows.length).take
          limit.1.toNat).map HistoryPointOut.modelValidate⟩ := by
  have length : seen.length = rows.length := by rw [same, List.length_map]
  have fits : postgres.bigint (⟨seen.length, nonneg⟩ : AtLeast 0) = true := by
    have bound := length_history_lt v dateFrom.instant dateTo.instant columns
    simp only [postgres, decide_eq_true_eq]
    omega
  rw [getHistory_page holds takesFrom takesTo fits, Int.toNat_natCast, length]

/-- **Step.**  The client is sent the rows that it follows, and their count. -/
theorem followHistory_cons (holds : u.vehicleId = some v)
    (takesFrom : postgres.timestamptz dateFrom.instant = true)
    (takesTo : postgres.timestamptz dateTo.instant = true) {round : Round} {rounds : List Round}
    (plain : NeverWipes round.ops)
    (columns : ∀ p ∈ (runOps postgres settings db round.ops).gpsPoints.toTable,
      postgres.bigint p.id = true)
    (bounded : rows.length ≤ (db.history v dateFrom.instant dateTo.instant).length)
    {seen : HistoryOut} (same : seen.points = rows.map HistoryPointOut.modelValidate) :
    let db' := runOps postgres settings db round.ops
    followHistory settings u dateFrom dateTo limit db seen (round :: rounds) =
      followHistory settings u dateFrom dateTo limit db'
        ⟨v, (db'.pointsBetween v dateFrom.instant dateTo.instant).length,
          (readOn limit.1.toNat rows (db'.history v dateFrom.instant dateTo.instant)).map
            HistoryPointOut.modelValidate⟩ rounds := by
  have persists := runOps_persists postgres settings round.ops plain db
  rw [followHistory]
  dsimp only
  rw [getHistory_next holds takesFrom takesTo columns
    (bounded.trans (length_history_le persists)) same]
  dsimp only
  rw [same, ← List.map_append]
  rfl

/-- **Run.** -/
theorem followHistory_eq (holds : u.vehicleId = some v)
    (takesFrom : postgres.timestamptz dateFrom.instant = true)
    (takesTo : postgres.timestamptz dateTo.instant = true) (rounds : List Round)
    (plain : ∀ round ∈ rounds, NeverWipes round.ops)
    (columns : ∀ p ∈ (runOps postgres settings db (allOps rounds)).gpsPoints.toTable,
      postgres.bigint p.id = true)
    (following : Following db v dateFrom.instant dateTo.instant start rows) :
    followHistory settings u dateFrom dateTo limit db
        ⟨v, (db.pointsBetween v dateFrom.instant dateTo.instant).length,
          rows.map HistoryPointOut.modelValidate⟩ rounds =
      .ok ⟨v, ((runOps postgres settings db (allOps rounds)).pointsBetween v dateFrom.instant
          dateTo.instant).length,
        (followed settings v dateFrom.instant dateTo.instant limit.1.toNat db rows rounds).map
          HistoryPointOut.modelValidate⟩ := by
  induction rounds generalizing db rows with
  | nil => rfl
  | cons round rounds ih =>
      obtain ⟨here, later⟩ := List.forall_mem_cons.mp plain
      rw [runOps_allOps] at columns
      have persists := runOps_persists postgres settings (allOps rounds) (plain_allOps later)
        (runOps postgres settings db round.ops)
      rw [followHistory_cons holds takesFrom takesTo here (columns_of_persists persists columns)
        following.bounded rfl, ih later columns (following.round
          (runOps_persists postgres settings round.ops here db) limit.1.toNat), runOps_allOps]
      rfl

/-- **A client that follows a window** misses nothing that was there when it began, once it has
been sent as many points as are counted; and while no fix comes late it has received the history
from its beginning, each point once and in order.  `columns` says that an id column holds 64-bit
integers. -/
theorem following_is_complete (settings : Settings) (db : DB) {u : User} {v : Int}
    (holds : u.vehicleId = some v) (dateFrom dateTo : Datetime)
    (takesFrom : postgres.timestamptz dateFrom.instant = true)
    (takesTo : postgres.timestamptz dateTo.instant = true)
    (limit : {n : Int // 1 ≤ n ∧ n ≤ 1000}) (first : Round) (rounds : List Round)
    (plain : ∀ round ∈ first :: rounds, NeverWipes round.ops)
    (columns : ∀ p ∈ (runOps postgres settings db (allOps (first :: rounds))).gpsPoints.toTable,
      postgres.bigint p.id = true) :
    let final := runOps postgres settings db (allOps (first :: rounds))
    let inside := final.pointsBetween v dateFrom.instant dateTo.instant
    ∃ rows : List GPSPoint,
      followHistory settings u dateFrom dateTo limit db ⟨v, 0, []⟩ (first :: rounds) =
        .ok ⟨v, inside.length, rows.map HistoryPointOut.modelValidate⟩ ∧
      rows ⊆ inside ∧
      (inside.length ≤ rows.length →
        db.pointsBetween v dateFrom.instant dateTo.instant ⊆ rows) ∧
      (InOrder settings v db (allOps (first :: rounds)) →
        ∃ sorted : List GPSPoint, sorted.Perm inside ∧ sorted.Pairwise GPSPoint.Before ∧
          rows <+: sorted) := by
  intro final inside
  obtain ⟨here, later⟩ := List.forall_mem_cons.mp plain
  have persists := runOps_persists postgres settings first.ops here db
  have begun : Following db v dateFrom.instant dateTo.instant
      (db.history v dateFrom.instant dateTo.instant) [] :=
    ⟨.begin, List.nil_subset _, Nat.zero_le _⟩
  have ended : Following final v dateFrom.instant dateTo.instant
      (db.history v dateFrom.instant dateTo.instant)
      (followed settings v dateFrom.instant dateTo.instant limit.1.toNat db [] (first :: rounds)) :=
    begun.run plain limit.1.toNat
  refine ⟨_, ?_, fun p member => history_perm.mem_iff.mp (ended.stored member),
    fun enough p member => ?_, fun inOrder => ⟨_, history_perm, history_before,
      prefix_followed plain inOrder (List.nil_prefix)⟩⟩
  · have columns' := columns
    rw [runOps_allOps] at columns'
    have persists' := runOps_persists postgres settings (allOps rounds) (plain_allOps later)
      (runOps postgres settings db first.ops)
    rw [followHistory_cons holds takesFrom takesTo here (columns_of_persists persists' columns')
      begun.bounded rfl, followHistory_eq holds takesFrom takesTo rounds later columns'
        (begun.round persists limit.1.toNat), ← runOps_allOps]
    rfl
  · refine ended.caughtUp.all GPSPoint.before_chronological
      (history_sorted final v dateFrom.instant dateTo.instant) ?_
      (history_perm.mem_iff.mpr member)
    rw [history_perm.length_eq]
    exact enough

end

/-- The vehicle has reported once. -/
def DB.withEarlyFix : DB :=
  runCalls postgres .withFirstVehicle [(plainAmbient, .handleGpsMessage earlyFix)]

/-- It reports again between the two requests. -/
def twoRounds : List Round :=
  [⟨[], .epoch⟩, ⟨[(plainAmbient, .call (.handleGpsMessage lateFix))], .epoch⟩]

theorem following_is_complete_two :
    let final := runOps postgres {} .withEarlyFix (allOps twoRounds)
    ∃ rows : List GPSPoint,
      followHistory {} raviRow naiveEpoch oneSecondLater ⟨1, by decide⟩ .withEarlyFix ⟨1, 0, []⟩
        twoRounds = .ok ⟨1, 2, rows.map HistoryPointOut.modelValidate⟩ ∧
      (2 ≤ rows.length → (⟨earlyFix.fix, 1, 1⟩ : GPSPoint) ∈ rows) ∧
      ∃ sorted : List GPSPoint, sorted.Perm (final.pointsBetween 1 0 (seconds 1)) ∧
        rows <+: sorted := by
  intro final
  have columns : ∀ p ∈ final.gpsPoints.rows, postgres.bigint p.id = true := by decide +kernel
  have count : ((runOps postgres {} .withEarlyFix (allOps twoRounds)).pointsBetween 1
      naiveEpoch.instant oneSecondLater.instant).length = 2 := by
    decide +kernel
  have early : (⟨earlyFix.fix, 1, 1⟩ : GPSPoint) ∈
      DB.withEarlyFix.pointsBetween 1 naiveEpoch.instant oneSecondLater.instant := by
    decide +kernel
  have recorded : ∀ p ∈ DB.withEarlyFix.gpsPoints.rows, p.recordedAt ≤ lateFix.recordedAt := by
    decide +kernel
  have plain : ∀ round ∈ twoRounds, NeverWipes round.ops := by
    intro round member step among
    rcases List.mem_cons.mp member with rfl | member
    · cases among
    · cases List.mem_singleton.mp member
      cases List.mem_singleton.mp among
      simp
  have inOrder : InOrder {} 1 .withEarlyFix (allOps twoRounds) :=
    ⟨fun m same _ p member _ => by
      cases same
      exact recorded p member, trivial⟩
  obtain ⟨rows, sent, _, complete, ordered⟩ := following_is_complete {} .withEarlyFix
    (show raviRow.vehicleId = some 1 from rfl) naiveEpoch oneSecondLater (by decide) (by decide)
    ⟨1, by decide⟩ _ _ plain columns
  obtain ⟨sorted, perm, _, has⟩ := ordered inOrder
  exact ⟨rows, count ▸ sent, fun enough => complete (count.le.trans enough) early, sorted, perm,
    has⟩

end FleetTracking
