import FleetTracking.Redelivery
import FleetTracking.HistoryPaging
import Mathlib.Data.List.MinMax

/-!
# The fixes a run accepts

`acceptedFixes` lists the messages of a run of calls for which the handler answered `True`.
The two tables of fixes are a function of that list: the history is the list, and a vehicle's
current location is its latest fix, the first of those with the greatest time.  `latest_fix`
reads the history by time and then by id, so of equal times it takes the last;
`latest_fix_agrees` says what that comes to.
-/

namespace FleetTracking

open Relational Python

section

variable (E : Engine) (db : DB)

/-- The message of the call, if the handler has stored it. -/
def Call.acceptedFix : Call → Option GPSMessage
  | handleGpsMessage m =>
      match FleetTracking.handleGpsMessage E db m with
      | .ok (true, _) => some m
      | _ => none
  | _ => none

/-- The messages that a run stores, in order. -/
def acceptedFixes : DB → List (Ambient × Call) → List GPSMessage
  | _, [] => []
  | db, (a, c) :: calls => (c.acceptedFix E db).toList ++ acceptedFixes (c.after E a db) calls

end

/-- The first of those with the greatest key. -/
def firstGreatest {α κ : Type} [LinearOrder κ] (key : α → κ) (l : List α) : Option α :=
  l.argmax key

section

variable {α β κ : Type} [LinearOrder κ] {key : α → κ} {l : List α} {a : α}

theorem firstGreatest_eq_none : firstGreatest key l = none ↔ l = [] := List.argmax_eq_none

theorem mem_of_firstGreatest (found : firstGreatest key l = some a) : a ∈ l :=
  List.argmax_mem found

theorem le_firstGreatest (found : firstGreatest key l = some a) {b : α} (member : b ∈ l) :
    key b ≤ key a :=
  List.le_of_mem_argmax member found

theorem firstGreatest_cons :
    firstGreatest key (a :: l) =
      (firstGreatest key l).elim (some a) fun c => if key a < key c then some c else some a := by
  rw [firstGreatest, firstGreatest, List.argmax_cons]
  cases l.argmax key <;> rfl

theorem firstGreatest_concat :
    firstGreatest key (l ++ [a]) =
      (firstGreatest key l).elim (some a) fun c => if key c < key a then some a else some c := by
  rw [firstGreatest, firstGreatest, List.argmax_concat]
  cases l.argmax key <;> rfl

theorem firstGreatest_map (f : β → κ) (g : α → β) (l : List α) :
    firstGreatest f (l.map g) = (firstGreatest (fun x => f (g x)) l).map g := by
  induction l using List.reverseRecOn with
  | nil => rfl
  | append_singleton l x ih =>
      rw [List.map_append, List.map_singleton, firstGreatest_concat, firstGreatest_concat, ih]
      cases firstGreatest (fun x => f (g x)) l with
      | none => rfl
      | some y =>
          dsimp only [Option.map_some, Option.elim_some]
          split <;> rfl

end

/-- The fixes of one vehicle. -/
def fixesOfVehicle (v : Int) (fixes : List GPSMessage) : List GPSMessage :=
  fixes.filter fun m => m.vehicleId.1 = v

/-- Of the vehicle's fixes with the greatest time, the one stored first. -/
def firstLatest (v : Int) (fixes : List GPSMessage) : Option GPSMessage :=
  firstGreatest GPSMessage.recordedAt (fixesOfVehicle v fixes)

/-- Of the vehicle's fixes with the greatest time, the one stored last. -/
def lastLatest (v : Int) (fixes : List GPSMessage) : Option GPSMessage :=
  firstGreatest GPSMessage.recordedAt (fixesOfVehicle v fixes).reverse

/-! ## The tables of fixes -/

section

variable {E : Engine} {db db' : DB} {a : Ambient} {m : GPSMessage} {v : Int}
  {fixes : List GPSMessage}

/-- The two databases have the same fixes. -/
structure SameFixes (db db' : DB) : Prop where
  points : db.gpsPoints = db'.gpsPoints
  locations : db.vehicleCurrentLocation = db'.vehicleCurrentLocation

theorem SameFixes.trans {db'' : DB} (first : SameFixes db db') (second : SameFixes db' db'') :
    SameFixes db db'' :=
  ⟨first.points.trans second.points, first.locations.trans second.locations⟩

theorem SameFixes.ingest (same : SameFixes db db') : SameFixes (db.ingest m) (db'.ingest m) := by
  rcases same with ⟨points, locations⟩
  constructor
  · simp only [DB.ingest, DB.addPoint, points]
  · simp only [DB.ingest, locations]

theorem SameFixes.ingestList (same : SameFixes db db') :
    SameFixes (db.ingestList fixes) (db'.ingestList fixes) := by
  induction fixes generalizing db db' with
  | nil => exact same
  | cons m fixes ih => exact ih same.ingest

/-- The edits of other calls leave the fixes alone. -/
theorem Call.after_sameFixes {c : Call} (other : ∀ m, c ≠ .handleGpsMessage m) :
    SameFixes (c.after E a db) db := by
  rcases c.after_edits E a db with same | ⟨e, makes, _, leads⟩
  · rw [same]
    exact ⟨rfl, rfl⟩
  · rw [leads]
    cases e with
    | ingest m =>
        cases c with
        | handleGpsMessage m' => exact absurd rfl (other m')
        | _ => exact makes.elim
    | wipe => cases c <;> exact makes.elim
    | _ => exact ⟨rfl, rfl⟩

/-- **Step.**  A call stores the fix it accepts, and no other. -/
theorem Call.after_fixes (c : Call) :
    SameFixes (c.after E a db) (db.ingestList (c.acceptedFix E db).toList) := by
  cases c with
  | handleGpsMessage m =>
      unfold Call.after Call.perform Call.acceptedFix
      dsimp only
      cases done : FleetTracking.handleGpsMessage E db m with
      | error failure => exact ⟨rfl, rfl⟩
      | ok out =>
          obtain ⟨stored, db'⟩ := out
          have edit := handleGpsMessage_edit done
          cases stored with
          | false =>
              rw [if_neg (by decide)] at edit
              subst edit
              exact ⟨rfl, rfl⟩
          | true =>
              obtain ⟨_, rfl⟩ := edit
              exact ⟨rfl, rfl⟩
  | _ => exact Call.after_sameFixes (by simp)

theorem ingestList_append {later : List GPSMessage} :
    db.ingestList (fixes ++ later) = (db.ingestList fixes).ingestList later :=
  List.foldl_append

/-- **Run.**  The tables of fixes are those that the accepted fixes make. -/
theorem runCalls_fixes (calls : List (Ambient × Call)) :
    SameFixes (runCalls E db calls) (db.ingestList (acceptedFixes E db calls)) := by
  induction calls generalizing db with
  | nil => exact ⟨rfl, rfl⟩
  | cons call calls ih =>
      obtain ⟨a, c⟩ := call
      rw [acceptedFixes, ingestList_append]
      exact ih.trans c.after_fixes.ingestList

/-! ## The current location -/

theorem fixesOfVehicle_append {later : List GPSMessage} :
    fixesOfVehicle v (fixes ++ later) = fixesOfVehicle v fixes ++ fixesOfVehicle v later :=
  List.filter_append ..

/-- **Run.**  From nothing, the location of a vehicle is its first latest fix. -/
theorem location_ingestList (v : Int) (fixes : List GPSMessage) :
    (DB.empty.ingestList fixes).vehicleCurrentLocation.get v =
      (firstLatest v fixes).map GPSMessage.current := by
  induction fixes using List.reverseRecOn with
  | nil => rfl
  | append_singleton fixes m ih =>
      have location : ((DB.empty.ingestList fixes).ingest m).vehicleCurrentLocation.get v = _ :=
        get_upsertLatest (k := v)
      rw [ingestList_append, ingestList_cons, ingestList_nil, location]
      by_cases own : v = m.vehicleId.1
      · have kept : fixesOfVehicle v [m] = [m] := by simp [fixesOfVehicle, own]
        have located : v = m.current.vehicleId := own
        rw [if_pos located, firstLatest, fixesOfVehicle_append, kept, firstGreatest_concat,
          ← located, ih, firstLatest]
        cases firstGreatest GPSMessage.recordedAt (fixesOfVehicle v fixes) with
        | none => rfl
        | some first =>
            by_cases newer : first.recordedAt < m.recordedAt <;>
              simp only [Option.map_some, Option.elim_some, GPSMessage.recordedAt_current,
                gt_iff_lt, newer, if_true, if_false]
      · have dropped : fixesOfVehicle v [m] = [] := by simp [fixesOfVehicle, Ne.symm own]
        have elsewhere : v ≠ m.current.vehicleId := own
        rw [if_neg elsewhere, firstLatest, fixesOfVehicle_append, dropped, List.append_nil, ih,
          firstLatest]

/-! ## The newest history point -/

/-- Among rows with falling ids, the first with the greatest time has the greatest id of them. -/
theorem firstGreatest_falling {l : List GPSPoint} {p : GPSPoint}
    (falling : l.Pairwise fun q r => r.id < q.id)
    (found : firstGreatest (fun q => q.recordedAt) l = some p) :
    p ∈ l ∧ ∀ q ∈ l, q.recordedAt < p.recordedAt ∨ (q.recordedAt = p.recordedAt ∧ q.id ≤ p.id) := by
  induction l generalizing p with
  | nil => cases found
  | cons head l ih =>
      rw [List.pairwise_cons] at falling
      obtain ⟨below, falling⟩ := falling
      rw [firstGreatest_cons] at found
      cases rest : firstGreatest (fun q : GPSPoint => q.recordedAt) l with
      | none =>
          rw [rest] at found
          cases found
          rw [firstGreatest_eq_none.mp rest]
          exact ⟨List.mem_cons_self, fun q member => by simp_all⟩
      | some c =>
          obtain ⟨member, greatest⟩ := ih falling rest
          rw [rest, Option.elim_some] at found
          split at found
          · next newer =>
              cases found
              refine ⟨List.mem_cons_of_mem _ member, fun q among => ?_⟩
              rcases List.mem_cons.mp among with rfl | among
              · exact .inl newer
              · exact greatest q among
          · next notNewer =>
              cases found
              refine ⟨List.mem_cons_self, fun q among => ?_⟩
              rcases List.mem_cons.mp among with rfl | among
              · exact .inr ⟨rfl, le_rfl⟩
              · have bound := greatest q among
                have under := below q among
                omega

/-- `ORDER BY recorded_at DESC, id DESC` -/
def newestFirst (p q : GPSPoint) : Bool :=
  p.recordedAt > q.recordedAt ∨ (p.recordedAt = q.recordedAt ∧ p.id ≥ q.id)

theorem newestFirst_iff {p q : GPSPoint} : newestFirst p q = true ↔
    q.recordedAt < p.recordedAt ∨ (q.recordedAt = p.recordedAt ∧ q.id ≤ p.id) := by
  rw [newestFirst, decide_eq_true_eq]
  omega

/-- What `latest_fix` answers, when there is history. -/
theorem latestFix_greatest {p : GPSPoint} (found : latestFix db v = some p) :
    p ∈ db.gpsPoints.rows.filter (fun q => q.vehicleId = v) ∧
      ∀ q ∈ db.gpsPoints.rows.filter (fun q => q.vehicleId = v),
        q.recordedAt < p.recordedAt ∨ (q.recordedAt = p.recordedAt ∧ q.id ≤ p.id) := by
  have perm := List.mergeSort_perm (db.gpsPoints.rows.filter fun p => p.vehicleId = v) newestFirst
  have sorted : ((db.gpsPoints.rows.filter fun p => p.vehicleId = v).mergeSort
      newestFirst).Pairwise fun p q => newestFirst p q = true := by
    refine List.pairwise_mergeSort (fun p q r first second => ?_) (fun p q => ?_) _
    · rw [newestFirst_iff] at *
      omega
    · rw [Bool.or_eq_true, newestFirst_iff, newestFirst_iff]
      omega
  obtain ⟨rest, eq⟩ := List.head?_eq_some_iff.mp found
  change List.mergeSort _ newestFirst = p :: rest at eq
  rw [eq] at sorted perm
  refine ⟨perm.mem_iff.mp List.mem_cons_self, fun q member => ?_⟩
  rcases List.mem_cons.mp (perm.mem_iff.mpr member) with rfl | later
  · exact .inr ⟨rfl, le_rfl⟩
  · exact newestFirst_iff.mp (List.rel_of_pairwise_cons sorted later)

/-- `latest_fix` is the newest point of the vehicle, the last stored among equally new ones. -/
theorem latestFix_eq (db : DB) (v : Int) :
    latestFix db v = firstGreatest (fun p => p.recordedAt)
      (db.gpsPoints.rows.filter fun p => p.vehicleId = v).reverse := by
  have falling : (db.gpsPoints.rows.filter fun p => p.vehicleId = v).reverse.Pairwise
      fun q r => r.id < q.id :=
    List.pairwise_reverse.mpr (db.gpsPoints.sorted.filter _)
  cases last : firstGreatest (fun p => p.recordedAt)
      (db.gpsPoints.rows.filter fun p => p.vehicleId = v).reverse with
  | none =>
      have empty := List.reverse_eq_nil_iff.mp (firstGreatest_eq_none.mp last)
      rw [latestFix, empty, List.mergeSort_nil, List.head?_nil]
  | some p =>
      obtain ⟨member, greatest⟩ := firstGreatest_falling falling last
      rw [List.mem_reverse] at member
      cases found : latestFix db v with
      | none =>
          have length := congrArg List.length (List.head?_eq_none_iff.mp found)
          rw [List.length_mergeSort] at length
          exact absurd (List.length_eq_zero_iff.mp length) (List.ne_nil_of_mem member)
      | some q =>
          obtain ⟨member', greatest'⟩ := latestFix_greatest found
          have below := greatest q (List.mem_reverse.mpr member')
          have above := greatest' p member
          have ids : q.id = p.id := by omega
          exact congrArg some (Table.eq_of_key (List.mem_of_mem_filter member')
            (List.mem_of_mem_filter member) ids)

/-- The values of `latest_fix` are those of the last latest fix. -/
theorem latestFix_ingestList (v : Int) (fixes : List GPSMessage) :
    (latestFix (DB.empty.ingestList fixes) v).map (·.toFix) =
      (lastLatest v fixes).map GPSMessage.fix := by
  have contents : (DB.empty.ingestList fixes).contents = fixes.map GPSMessage.content :=
    contents_ingestList
  have fixes_ : ((DB.empty.ingestList fixes).gpsPoints.rows.filter
      fun p => p.vehicleId = v).map (·.toFix) = (fixesOfVehicle v fixes).map GPSMessage.fix := by
    have filtered := congrArg
      (fun l : List (Int × Fix) => (l.filter fun c => c.1 = v).map Prod.snd) contents
    simp only [DB.contents, List.filter_map, List.map_map] at filtered
    exact filtered
  rw [latestFix_eq, lastLatest]
  rw [show (fun p : GPSPoint => p.recordedAt) = fun p => p.toFix.recordedAt from rfl,
    ← firstGreatest_map Fix.recordedAt (fun p : GPSPoint => p.toFix), List.map_reverse, fixes_,
    ← List.map_reverse, firstGreatest_map]
  rfl

/-- The two definitions of the latest fix answer alike about whether there is one, and about
its time. -/
theorem firstLatest_isSome (v : Int) (fixes : List GPSMessage) :
    (firstLatest v fixes = none ↔ lastLatest v fixes = none) ∧
    ∀ first last, firstLatest v fixes = some first → lastLatest v fixes = some last →
      first.recordedAt = last.recordedAt := by
  constructor
  · rw [firstLatest, lastLatest, firstGreatest_eq_none, firstGreatest_eq_none,
      List.reverse_eq_nil_iff]
  · intro first last found found'
    have member := mem_of_firstGreatest found
    have member' := List.mem_reverse.mp (mem_of_firstGreatest found')
    exact le_antisymm (le_firstGreatest found' (List.mem_reverse.mpr member))
      (le_firstGreatest found member')

/-! ## Over whole runs -/

/-- **Run.**  The current location of a vehicle is its first latest accepted fix. -/
theorem location_runCalls (calls : List (Ambient × Call)) (v : Int) :
    (runCalls E .empty calls).vehicleCurrentLocation.get v =
      (firstLatest v (acceptedFixes E .empty calls)).map GPSMessage.current := by
  rw [(runCalls_fixes calls).locations, location_ingestList]

/-- **Run.**  `latest_fix` has the values of the last latest accepted fix. -/
theorem latestFix_runCalls (calls : List (Ambient × Call)) (v : Int) :
    (latestFix (runCalls E .empty calls) v).map (·.toFix) =
      (lastLatest v (acceptedFixes E .empty calls)).map GPSMessage.fix := by
  rw [← latestFix_ingestList]
  unfold latestFix
  rw [(runCalls_fixes calls).points]

/-- **The live row and the query.**  After any run of calls from the empty database `latest_fix`
finds a point of a vehicle exactly when the vehicle has a current location, and then of the same
time; the coordinates and the speed agree exactly when the first and the last accepted of the
fixes with that time have the same. -/
theorem latest_fix_agrees (E : Engine) (calls : List (Ambient × Call)) (v : Int) :
    let db := runCalls E .empty calls
    let fixes := acceptedFixes E .empty calls
    (latestFix db v = none ↔ db.vehicleCurrentLocation.get v = none) ∧
      ∀ p c, latestFix db v = some p → db.vehicleCurrentLocation.get v = some c →
        p.recordedAt = c.recordedAt ∧
        (p.toFix = c.toFix ↔ ∀ first last, firstLatest v fixes = some first →
          lastLatest v fixes = some last → last.fix = first.fix) := by
  intro db fixes
  have location : db.vehicleCurrentLocation.get v = _ := location_runCalls calls v
  have newest : (latestFix db v).map (·.toFix) = _ := latestFix_runCalls calls v
  obtain ⟨both, times⟩ := firstLatest_isSome v fixes
  constructor
  · rw [location, Option.map_eq_none_iff, both, ← Option.map_eq_none_iff (f := GPSMessage.fix),
      ← newest, Option.map_eq_none_iff]
  · intro p c found current
    rw [current] at location
    obtain ⟨first, isFirst, rfl⟩ := Option.map_eq_some_iff.mp location.symm
    rw [found, Option.map_some] at newest
    obtain ⟨last, isLast, same⟩ := Option.map_eq_some_iff.mp newest.symm
    refine ⟨?_, fun agree first' last' isFirst' isLast' => ?_, fun agree => ?_⟩
    · rw [← same]
      exact (times first last isFirst isLast).symm
    · cases isFirst.symm.trans isFirst'
      cases isLast.symm.trans isLast'
      exact same.trans agree
    · exact same.symm.trans (agree first last isFirst isLast)

/-- Two degrees north, at the time of `earlyFix`. -/
def tiedFix : GPSMessage := firstVehicleFix lateFix.lat 0 Datetime.epoch.representable

/-- Two fixes of one time. -/
def tiedCalls : List (Ambient × Call) := [(plainAmbient, createFirstVehicle),
  (plainAmbient, .handleGpsMessage earlyFix), (plainAmbient, .handleGpsMessage tiedFix)]

/-- **Equal times.**  Of two fixes at one time the row keeps the first, and the query takes the
second. -/
theorem tie_disagrees :
    ¬ ∀ (calls : List (Ambient × Call)) (v : Int) (p : GPSPoint) (c : VehicleCurrentLocation),
      latestFix (runCalls postgres .empty calls) v = some p →
      (runCalls postgres .empty calls).vehicleCurrentLocation.get v = some c →
        p.toFix = c.toFix := by
  intro agree
  have current := location_runCalls (E := postgres) tiedCalls 1
  rw [show firstLatest 1 (acceptedFixes postgres .empty tiedCalls) = some earlyFix by
    decide +kernel] at current
  have newest := latestFix_runCalls (E := postgres) tiedCalls 1
  rw [show lastLatest 1 (acceptedFixes postgres .empty tiedCalls) = some tiedFix by
    decide +kernel] at newest
  obtain ⟨p, found, same⟩ := Option.map_eq_some_iff.mp newest
  have alike := same.symm.trans (agree tiedCalls 1 p _ found current)
  revert alike
  decide +kernel

end

end FleetTracking
