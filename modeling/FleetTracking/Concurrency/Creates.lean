import FleetTracking.Concurrency.Calls

/-!
# One name, many sessions

The services look for a name, a code or an e-mail before they insert, and two sessions can both
find it free.  The unique index decides: whatever runs, a value is given away once for each time
it was free (`creates_are_counted`).  While nobody frees it, exactly one of the sessions that
create it succeeds, and the others are told so or hit the constraint (`one_create_succeeds`).
-/

namespace FleetTracking

open Relational ReadCommitted Pydantic

/-- A value that at most one row has. -/
inductive UniqueValue
  | routeName (name : String)
  | vehicleCode (code : String)
  | email (email : String)
deriving DecidableEq

section

variable {ρ : Type} [SerialKeyed ρ] {t : Serial ρ} {r old : ρ} {col : ρ → Option String}
  {value : String}

/-- Some row has the value. -/
def holds (t : Serial ρ) (col : ρ → Option String) (value : String) : Bool :=
  t.rows.any fun r => col r = some value

theorem holds_iff : holds t col value = true ↔ ∃ r ∈ t.toTable, col r = some value := by
  simp only [holds, List.any_eq_true, Table.mem_rows, decide_eq_true_eq]

theorem holds_insert (same : col (SerialKeyed.withKey t.next r) = col r) :
    holds (t.insert r) col value = (holds t col value || decide (col r = some value)) := by
  rw [holds, Serial.rows_insert, List.any_append, List.any_cons, List.any_nil, Bool.or_false,
    same]
  rfl

/-- A row that keeps its value. -/
theorem holds_put {k : Int} (own : Keyed.key r = k) (found : t.get k = some old)
    (kept : col r = col old) : holds (t.put r) col value = holds t col value := by
  subst own
  obtain ⟨there, key⟩ := Table.get_eq_some.mp found
  refine Bool.eq_iff_iff.mpr (holds_iff.trans (Iff.trans ⟨fun has => ?_, fun has => ?_⟩
    holds_iff.symm))
  · obtain ⟨s, member, same⟩ := has
    rcases Table.mem_put.mp member with ⟨member, _⟩ | ⟨rfl, _⟩
    · exact ⟨s, member, same⟩
    · exact ⟨old, there, kept ▸ same⟩
  · obtain ⟨s, member, same⟩ := has
    by_cases own : Keyed.key s = Keyed.key r
    · have same' := (Table.get_eq_some.mpr ⟨member, own⟩).symm.trans found
      exact ⟨r, Table.mem_put.mpr (.inr ⟨rfl, .of_get found⟩),
        kept.trans (Option.some.inj same' ▸ same)⟩
    · exact ⟨s, Table.mem_put.mpr (.inl ⟨member, own⟩), same⟩

end

/-- Some row has the value. -/
def DB.has (db : DB) : UniqueValue → Bool
  | .routeName name => holds db.busRoutes BusRoute.name name
  | .vehicleCode code => holds db.vehicles Vehicle.code code
  | .email email => holds db.users User.email email

/-- What the service answers when the value is taken. -/
def UniqueValue.taken : UniqueValue → Failure
  | routeName name => routeNameTaken (some name)
  | vehicleCode code => vehicleCodeTaken (some code)
  | email address => emailTaken (some address)

namespace Call

/-- The unique value that a call creates a row with. -/
def creates : Call → Option UniqueValue
  | createRoute data => some (.routeName data.name.1)
  | createVehicle data => some (.vehicleCode data.code.1.1)
  | createUser data => some (.email data.email)
  | _ => none

/-- The call may take the value away from a row. -/
def frees : Call → UniqueValue → Bool
  | updateRoute _ data, .routeName _ => (change Subtype.val data.name).isSome
  | updateVehicle _ data, .vehicleCode _ => (change (fun code => code.1.1) data.code).isSome
  | updateUser _ data, .email _ => (change id data.email).isSome
  | deleteRoute _, .routeName _ | deleteVehicle _, .vehicleCode _ | deleteUser _, .email _ => true
  | _, _ => false

/-- The engine can store what the call creates. -/
def Storable (E : Engine) : Call → Prop
  | createRoute data => E.text data.name = true ∧
      E.jsonb (data.waypoints.1.map Waypoint.modelDump) = true
  | createVehicle data => E.text data.name = true
  | createUser data => E.text data.email = true
  | _ => True

end Call

/-! ## Counting -/

section

variable {c : Call} {db db' : DB} {k : UniqueValue}

/-- A created value was free. -/
theorem Committed.free (committed : Committed c db db') (creates : c.creates = some k) :
    db.has k = false := by
  have free {ρ : Type} [SerialKeyed ρ] {t : Serial ρ} {col : ρ → Option String} {r : ρ}
      {value : String} (named : col r = some value)
      (others : ∀ s ∈ t.toTable, col s ≠ col r) : holds t col value = false := by
    refine Bool.eq_false_iff.mpr fun taken => ?_
    obtain ⟨s, member, same⟩ := holds_iff.mp taken
    exact others s member (same.trans named.symm)
  cases committed with
  | nothing updates => cases c <;> first | exact updates.elim | cases creates
  | insertRoute name others =>
      cases creates
      exact free name others
  | insertVehicle code others =>
      cases creates
      exact free code others
  | insertUser email others =>
      cases creates
      exact free email others
  | _ => cases creates

theorem Committed.has (committed : Committed c db db') (keeps : c.frees k = false) :
    db'.has k = (db.has k || decide (c.creates = some k)) := by
  have unset {α : Type} {new : Option α} (keeps : new.isSome = false) : new = none :=
    Option.not_isSome_iff_eq_none.mp (Bool.eq_false_iff.mp keeps)
  have same {b b' : Bool} (kept : b' = b) : b' = (b || false) := kept.trans (Bool.or_false b).symm
  cases committed with
  | nothing updates =>
      cases c with
      | createRoute | createVehicle | createUser => exact updates.elim
      | _ => exact same rfl
  | insertRoute named =>
      cases k with
      | routeName name =>
          exact (holds_insert rfl).trans (congrArg _ (by simp [named, Call.creates]))
      | _ => exact same rfl
  | insertVehicle coded =>
      cases k with
      | vehicleCode code =>
          exact (holds_insert rfl).trans (congrArg _ (by simp [coded, Call.creates]))
      | _ => exact same rfl
  | insertUser named =>
      cases k with
      | email address =>
          exact (holds_insert rfl).trans (congrArg _ (by simp [named, Call.creates]))
      | _ => exact same rfl
  | putRoute found own kept =>
      cases k with
      | routeName name => exact same (holds_put own found (kept (unset keeps)))
      | _ => exact same rfl
  | putVehicle found own kept =>
      cases k with
      | vehicleCode code => exact same (holds_put own found (kept (unset keeps)))
      | _ => exact same rfl
  | putUser found own kept =>
      cases k with
      | email address => exact same (holds_put own found (kept (unset keeps)))
      | _ => exact same rfl
  | assign found own kept =>
      cases k with
      | email address => exact same (holds_put own found kept)
      | _ => exact same rfl
  | eraseRoute =>
      cases k with
      | routeName name => cases keeps
      | _ => exact same rfl
  | eraseVehicle =>
      cases k with
      | vehicleCode code => cases keeps
      | _ => exact same rfl
  | eraseUser =>
      cases k with
      | email address => cases keeps
      | _ => exact same rfl
  | report => cases k <;> exact same rfl

/-- A call that creates a value frees none of its kind. -/
theorem Call.frees_of_creates (creates : c.creates = some k) : c.frees k = false := by
  cases c with
  | createRoute | createVehicle | createUser => rfl
  | _ => cases creates

/-- **Step.**  A commit creates a value that is free, and what it does not free stays. -/
theorem Committed.counts (committed : Committed c db db') :
    (if c.creates = some k then 1 else 0) + (db.has k).toNat ≤
      (db'.has k).toNat + (c.frees k).toNat := by
  cases keeps : c.frees k with
  | true =>
      have created : c.creates ≠ some k := fun creates => by
        rw [Call.frees_of_creates creates] at keeps
        cases keeps
      rw [if_neg created, Nat.zero_add]
      exact (Bool.toNat_le _).trans (Nat.le_add_left 1 _)
  | false =>
      rw [committed.has keeps]
      by_cases creates : c.creates = some k
      · rw [committed.free creates]
        simp [creates]
      · simp [creates]

end

section

variable {ι : Type} [Fintype ι] [DecidableEq ι] {E : Engine} {db : DB} {a : ι → Ambient}
  {c : ι → Call} {schedule : List ι} {s : System ι DB (Locks Lockable) (Except Failure Bool)}

theorem has_idle {db' : DB} {k : UniqueValue} (idle : Idle db db') : db'.has k = db.has k := by
  cases k with
  | routeName name => exact congrArg (List.any · _) (congrArg Table.rows idle.busRoutes.rows)
  | vehicleCode code => exact congrArg (List.any · _) (congrArg Table.rows idle.vehicles.rows)
  | email address => exact congrArg (List.any · _) (congrArg Table.rows idle.users.rows)

/-- **Counting.**  However the statements of any sessions interleave, a value is created at most
once, and once more for each session that may have freed it. -/
theorem creates_are_counted (enforced : E.constraints = true)
    (played : (calling E db a c).play schedule = some s) (k : UniqueValue) :
    acknowledged (fun i => if (c i).creates = some k then 1 else 0) s.results +
        (db.has k).toNat ≤
      (s.db.has k).toNat + acknowledged (fun i => ((c i).frees k).toNat) s.results := by
  refine calling_outcomes (P := fun results db' =>
    acknowledged (fun i => if (c i).creates = some k then 1 else 0) results + (db.has k).toNat ≤
      (db'.has k).toNat + acknowledged (fun i => ((c i).frees k).toNat) results) enforced
    (fun kept running committed => ?_) (fun kept running refused => ?_) (fun kept idle => ?_) ?_
    played
  · rw [acknowledged_update running, acknowledged_update running, if_pos rfl, if_pos rfl]
    have step := committed.counts (k := k)
    omega
  · rw [acknowledged_update running, acknowledged_update running, if_neg refused, if_neg refused]
    exact kept
  · rw [has_idle idle]
    exact kept
  · rw [acknowledged_start, acknowledged_start, Nat.zero_add, Nat.add_zero]

end

/-- One session deletes the first vehicle, the other one creates it again. -/
def recreating : Bool → Call
  | false => .deleteVehicle 1
  | true => createFirstVehicle

/-- The vehicle is deleted first. -/
def deletedFirst : List Bool := [false, false, false, false, false, false, true, true, true]

theorem creates_are_counted_two :
    ∃ s, (calling postgres .withFirstVehicle (fun _ => plainAmbient) recreating).play
        deletedFirst = some s ∧ s.results true = some (.ok true) ∧
      acknowledged (fun i => if (recreating i).creates = some (.vehicleCode "V1") then 1 else 0)
          s.results + (DB.withFirstVehicle.has (.vehicleCode "V1")).toNat ≤
        (s.db.has (.vehicleCode "V1")).toNat +
          acknowledged (fun i => ((recreating i).frees (.vehicleCode "V1")).toNat) s.results := by
  have ran : ((calling postgres .withFirstVehicle (fun _ => plainAmbient) recreating).play
      deletedFirst).any (fun s => s.results true = some (.ok true)) = true := by decide +kernel
  obtain ⟨s, played, created⟩ := (Option.any_eq_true _ _).mp ran
  exact ⟨s, played, of_decide_eq_true created, creates_are_counted rfl played _⟩

/-! ## Who is refused -/

section

variable {R : DB → DB → Prop} {next : CallTxn} {db : DB}
  {done : List CallStatement → Except Failure Bool → DB → Prop}
  {failed : Except Failure Bool → DB → Prop}

theorem ensures_ite {p : Prop} [Decidable p] {failure : Failure}
    (refused : ¬ p → ∀ db', R db db' → failed (.error failure) db')
    (ensures : p → next.Ensures R done failed [] db) :
    (if p then next else .rollback (.error failure)).Ensures R done failed [] db := by
  split
  · next holds => exact ensures holds
  · next fails => exact refused fails

theorem ensures_rejectIf {α : Type} {query : DB → Option α} {failure : α → Failure}
    (refused : ∀ db' found, R db db' → query db' = some found →
      ∀ db'', R db' db'' → failed (.error (failure found)) db'')
    (ensures : ∀ db', R db db' → next.Ensures R done failed [] db') :
    (rejectIf query failure next).Ensures R done failed [] db := by
  intro db' later
  rw [visible_nil]
  dsimp only
  cases found : query db' with
  | some row => exact refused db' row later found
  | none => exact ensures db' later

end

section

variable {E : Engine} {a : Ambient} {c : Call} {k : UniqueValue} {db db' : DB}

/-- What a session relies on that creates `k`: nobody frees it. -/
def Keeping (k : UniqueValue) (db db' : DB) : Prop :=
  db.vehicleCurrentLocation.KeepsKeys (fun _ => False) db'.vehicleCurrentLocation ∧
    (db.has k = true → db'.has k = true)

/-- The value is taken, and the service has said so or the constraint has. -/
def TakenBefore (k : UniqueValue) (result : Except Failure Bool) (db : DB) : Prop :=
  db.has k = true ∧ (result = .error k.taken ∨ result = .error .integrityError)

/-- A row with a value that nobody has is accepted. -/
theorem holds_of_rejected {ρ : Type} [SerialKeyed ρ] {t : Serial ρ} {col : ρ → Option String}
    {value : String} (key : Int)
    (rejected : (t.noOther key fun s => col s = some value) ≠ true) : holds t col value = true := by
  by_contra free
  refine rejected (Table.noOther_iff.mpr fun r member same => (free ?_).elim)
  exact holds_iff.mpr ⟨r, member, of_decide_eq_true same⟩

/-- What an `INSERT` raises. -/
theorem raised_of_insert {α : Type} {row : α} {ok : Bool} {after : DB}
    {result : Except Failure Bool}
    (raised : (((E.execute ok after).map fun db' => (row, db')).map Prod.snd).mapError
      Except.error = .error result) : ok ≠ true ∧ result = .error .integrityError := by
  unfold Engine.execute at raised
  split at raised
  · next rejected =>
      cases raised
      simp only [Bool.and_eq_true, Bool.not_eq_true'] at rejected
      exact ⟨Bool.eq_false_iff.mp rejected.2, rfl⟩
  · cases raised

theorem insertRoute_raised {r : BusRoute} {name : String} {result : Except Failure Bool}
    (named : r.name = some name) (raised : (Sql.insertRoute E r).stmt db = .error result) :
    TakenBefore (.routeName name) result db := by
  obtain ⟨rejected, rfl⟩ := raised_of_insert raised
  refine ⟨holds_of_rejected r.id fun free => rejected ?_, .inr rfl⟩
  exact acceptsRoute_iff.mpr (by rw [named]; exact ⟨rfl, free⟩)

theorem insertVehicle_raised {v : Vehicle} {code name : String} {active : Bool}
    {result : Except Failure Bool} (coded : v.code = some code) (named : v.name = some name)
    (flagged : v.isActive = some active)
    (raised : (Sql.insertVehicle E v).stmt db = .error result) :
    TakenBefore (.vehicleCode code) result db := by
  obtain ⟨rejected, rfl⟩ := raised_of_insert raised
  refine ⟨holds_of_rejected v.id fun free => rejected ?_, .inr rfl⟩
  exact acceptsVehicle_iff.mpr (by rw [coded, named, flagged]; exact ⟨rfl, free⟩)

theorem insertUser_raised {u : User} {address : String} {result : Except Failure Bool}
    (named : u.email = some address) (route : u.routeId = none) (vehicle : u.vehicleId = none)
    (raised : (Sql.insertUser E u).stmt db = .error result) :
    TakenBefore (.email address) result db := by
  obtain ⟨rejected, rfl⟩ := raised_of_insert raised
  refine ⟨holds_of_rejected u.id fun free => rejected ?_, .inr rfl⟩
  have assigned : db.acceptsAssignment none u = true :=
    acceptsAssignment_iff.mpr ⟨acceptsReference_iff.mpr (.inl route),
      acceptsReference_iff.mpr (.inl vehicle)⟩
  exact acceptsUser_iff.mpr ⟨by rw [named]; exact ⟨rfl, free⟩, assigned⟩

/-- The row that the service has found has the value. -/
theorem holds_of_found {ρ : Type} [SerialKeyed ρ] {t : Serial ρ} {col : ρ → Option String}
    {value : String} {r : ρ} (found : t.scalar (fun s => col s = some value) = some r) :
    holds t col value = true := by
  obtain ⟨member, same⟩ := Table.scalar_some found
  exact holds_iff.mpr ⟨r, member, of_decide_eq_true same⟩

/-- A session that looks for the value first and is refused, is refused because it is taken. -/
theorem ensures_create {ρ : Type} [SerialKeyed ρ] {table : DB → Serial ρ} {col : ρ → Option String}
    {value : String} {next : CallTxn} (same : ∀ db : DB, db.has k = holds (table db) col value)
    (ensures : ∀ db', Keeping k db db' →
      next.Ensures (Keeping k) (fun _ _ _ => True) (TakenBefore k) [] db') :
    (rejectIf (fun db => (table db).scalar fun r => col r = some value) (fun _ => k.taken)
      next).Ensures (Keeping k) (fun _ _ _ => True) (TakenBefore k) [] db :=
  ensures_rejectIf (fun db' _ _ found _ later =>
    ⟨later.2 ((same db').trans (holds_of_found found)), .inl rfl⟩) ensures

theorem ensures_insert {w : CallStatement}
    (raises : ∀ db result, w.stmt db = .error result → TakenBefore k result db) :
    (save (some w)).Ensures (Keeping k) (fun _ _ _ => True) (TakenBefore k) [] db :=
  fun db' _ => ⟨fun result raised => raises db' result raised, fun _ _ _ => trivial⟩

/-- A session that creates a value which the engine can store is refused only because the value
is taken. -/
theorem Call.creates_ensures (db : DB) (creates : c.creates = some k) (storable : c.Storable E) :
    (c.txn E a).Ensures (Keeping k) (fun _ _ _ => True) (TakenBefore k) [] db := by
  cases c with
  | createRoute data =>
      cases creates
      obtain ⟨text, json⟩ := storable
      refine ensures_ite (fun fails => (fails text).elim) fun _ => ?_
      refine ensures_create (fun _ => rfl) fun db' _ => ?_
      refine ensures_ite (fun fails => (fails json).elim) fun _ => ?_
      exact ensures_insert fun _ _ raised => insertRoute_raised rfl raised
  | createVehicle data =>
      cases creates
      refine ensures_create (fun _ => rfl) fun db' _ => ?_
      refine ensures_ite (fun fails => (fails storable).elim) fun _ => ?_
      exact ensures_insert fun _ _ raised => insertVehicle_raised rfl rfl rfl raised
  | createUser data =>
      cases creates
      refine ensures_ite (fun fails => (fails storable).elim) fun _ => ?_
      refine ensures_create (fun _ => rfl) fun db' _ => ?_
      exact ensures_insert fun _ _ raised => insertUser_raised rfl rfl rfl raised
  | _ => cases creates

end

/-! ## One of them succeeds -/

section

variable {ι : Type} [DecidableEq ι] {E : Engine} {db before after : DB} {a : ι → Ambient}
  {c : ι → Call} {k : UniqueValue} {results : ι → Option (Except Failure Bool)} {i : ι}

/-- Session `i` has created `k`. -/
def Won (c : ι → Call) (k : UniqueValue) (results : ι → Option (Except Failure Bool))
    (i : ι) : Prop :=
  (c i).creates = some k ∧ results i = some (.ok true)

/-- What is known of a value that was free and that nobody frees. -/
structure Awarded (E : Engine) (c : ι → Call) (k : UniqueValue)
    (results : ι → Option (Except Failure Bool)) (db : DB) : Prop where
  taken : db.has k = true ↔ ∃ i, Won c k results i
  once : ∀ i j, Won c k results i → Won c k results j → i = j
  refused : ∀ i result, (c i).creates = some k → (c i).Storable E → results i = some result →
    result ≠ .ok true → TakenBefore k result db

/-- One more session has committed. -/
theorem won_commit (running : results i = none) {j : ι} :
    Won c k (Function.update results i (some (.ok true))) j ↔
      Won c k results j ∨ (c i).creates = some k ∧ j = i := by
  unfold Won
  by_cases turn : j = i
  · subst turn
    simp [running]
  · simp [turn]

theorem won_refuse {result : Except Failure Bool} (running : results i = none)
    (refused : NotDone result) {j : ι} :
    Won c k (Function.update results i (some result)) j ↔ Won c k results j := by
  unfold Won
  by_cases turn : j = i
  · subst turn
    simp [running, refused]
  · simp [Function.update_of_ne turn]

theorem Awarded.commit (awarded : Awarded E c k results before) (running : results i = none)
    (keeps : (c i).frees k = false) (committed : Committed (c i) before after) :
    Awarded E c k (Function.update results i (some (.ok true))) after where
  taken := by
    simp only [committed.has keeps, won_commit running, Bool.or_eq_true, decide_eq_true_eq,
      awarded.taken, exists_or, exists_and_left, exists_eq, and_true]
  once j j' created created' := by
    rcases (won_commit running).mp created with old | ⟨creates, rfl⟩ <;>
      rcases (won_commit running).mp created' with old' | ⟨creates', rfl⟩
    · exact awarded.once j j' old old'
    · cases (committed.free creates').symm.trans (awarded.taken.mpr ⟨j, old⟩)
    · cases (committed.free creates).symm.trans (awarded.taken.mpr ⟨j', old'⟩)
    · rfl
  refused j result creates storable ended notDone := by
    by_cases turn : j = i
    · subst turn
      rw [Function.update_self] at ended
      exact (notDone (Option.some.inj ended).symm).elim
    · rw [Function.update_of_ne turn] at ended
      obtain ⟨has, told⟩ := awarded.refused j result creates storable ended notDone
      exact ⟨(committed.has keeps).trans (by rw [has, Bool.true_or]), told⟩

theorem Awarded.refuse {result : Except Failure Bool} (awarded : Awarded E c k results before)
    (running : results i = none) (notDone : NotDone result)
    (told : (c i).creates = some k → (c i).Storable E → TakenBefore k result before) :
    Awarded E c k (Function.update results i (some result)) before where
  taken := by simp only [won_refuse running notDone, awarded.taken]
  once j j' created created' := awarded.once j j' ((won_refuse running notDone).mp created)
    ((won_refuse running notDone).mp created')
  refused j result' creates storable ended other := by
    by_cases turn : j = i
    · subst turn
      rw [Function.update_self] at ended
      cases ended
      exact told creates storable
    · rw [Function.update_of_ne turn] at ended
      exact awarded.refused j result' creates storable ended other

omit [DecidableEq ι] in
theorem Awarded.idle (awarded : Awarded E c k results before) (idle : Idle before after) :
    Awarded E c k results after where
  taken := by rw [has_idle idle, awarded.taken]
  once := awarded.once
  refused i result creates storable ended notDone := by
    obtain ⟨has, told⟩ := awarded.refused i result creates storable ended notDone
    exact ⟨(has_idle idle).trans has, told⟩

/-- A session is refused as `creates_ensures` says, if it creates the value. -/
def RefusedFairly (E : Engine) (c : ι → Call) (k : UniqueValue) (i : ι)
    (result : Except Failure Bool) (db : DB) : Prop :=
  NotDone result ∧ ((c i).creates = some k → (c i).Storable E → TakenBefore k result db)

omit [DecidableEq ι] in
theorem txn_ensures_fairly (i : ι) : ((c i).txn E (a i)).Ensures (Keeping k)
    (fun pending result db => (c i).Commits E (a i) pending db ∧ result = .ok true)
    (RefusedFairly E c k i) [] db := by
  have effects := Call.txn_ensures (E := E) (a := a i) (R := Keeping k) And.left (c i) db
  by_cases creates : (c i).creates = some k ∧ (c i).Storable E
  · have fair := Call.creates_ensures (a := a i) db creates.1 creates.2
    exact (effects.and fair).imp And.left fun both => ⟨both.1, fun _ _ => both.2⟩
  · exact effects.imp id fun refused => ⟨refused, fun does can => (creates ⟨does, can⟩).elim⟩

theorem awarded_preserved (enforced : E.constraints = true)
    (keeps : ∀ i, (c i).frees k = false) :
    System.Preserves fleetDiscipline (fun _ => Keeping k)
      (fun i pending result db => (c i).Commits E (a i) pending db ∧ result = .ok true)
      (RefusedFairly E c k) (Awarded E c k) where
  refl _ _ := ⟨.refl _, id⟩
  trans first second := ⟨fun k none present => second.1 k none (first.1 k none present),
    fun has => second.2 (first.2 has)⟩
  commits awarded running ends each applies := by
    obtain ⟨commits, rfl⟩ := ends
    have committed := commits.committed enforced applies
    refine ⟨fun _ _ => ⟨locationKeys_kept applies each, fun has => ?_⟩,
      awarded.commit running (keeps _) committed⟩
    rw [committed.has (keeps _), has, Bool.true_or]
  fails awarded running refused := awarded.refuse running refused.1 refused.2
  idles awarded idle := ⟨fun _ => ⟨idle.locations ▸ .refl _, fun has => (has_idle idle).trans has⟩,
    awarded.idle idle⟩

/-- **One succeeds.**  Of any sessions that create a value which is free and which nobody frees,
as soon as one has ended exactly one has succeeded; and each that has ended has succeeded, was
told that the value is taken, or hit the constraint. -/
theorem one_create_succeeds [Fintype ι] (enforced : E.constraints = true)
    (free : db.has k = false) (keeps : ∀ i, (c i).frees k = false) {schedule : List ι}
    {s : System ι DB (Locks Lockable) (Except Failure Bool)}
    (played : (calling E db a c).play schedule = some s) (creates : (c i).creates = some k)
    (storable : (c i).Storable E) {result : Except Failure Bool}
    (ended : s.results i = some result) :
    (∃! j, (c j).creates = some k ∧ s.results j = some (.ok true)) ∧
      (result = .ok true ∨ result = .error k.taken ∨ result = .error .integrityError) := by
  have awarded : Awarded E c k s.results s.db := by
    refine System.outcomes (awarded_preserved (a := a) enforced keeps)
      (fun i => Call.txn_obeys enforced (a i) (c i)) txn_ensures_fairly ⟨?_, ?_, nofun⟩ played
    · rw [free]
      exact ⟨nofun, fun created => created.elim fun _ created => nomatch created.2⟩
    · exact fun _ _ created => nomatch created.2
  have told (notDone : result ≠ .ok true) := awarded.refused i result creates storable ended notDone
  have someone : ∃ j, Won c k s.results j := by
    by_cases done : result = .ok true
    · exact ⟨i, creates, ended.trans (congrArg some done)⟩
    · exact awarded.taken.mp (told done).1
  obtain ⟨j, created⟩ := someone
  refine ⟨⟨j, created, fun j' created' => awarded.once j' j created' created⟩, ?_⟩
  exact or_iff_not_imp_left.mpr fun notDone => (told notDone).2

end

/-- Both find the code free, and the second `INSERT` hits the constraint. -/
theorem one_create_succeeds_two :
    ∃ s, (calling postgres .empty (fun _ => plainAmbient)
        fun _ : Bool => createFirstVehicle).play bothCreating = some s ∧
      ∃! j, createFirstVehicle.creates = some (.vehicleCode "V1") ∧
        s.results j = some (.ok true) := by
  have ran : ((calling postgres .empty (fun _ => plainAmbient)
      fun _ : Bool => createFirstVehicle).play bothCreating).any
        (fun s => s.results true = some (.error .integrityError)) = true := by decide +kernel
  obtain ⟨s, played, rejected⟩ := (Option.any_eq_true _ _).mp ran
  exact ⟨s, played, (one_create_succeeds (i := true) rfl rfl (fun _ => rfl) played rfl
    (show postgres.text "One" = true by decide +kernel) (of_decide_eq_true rejected)).1⟩

end FleetTracking
