import FleetTracking.Relational.ReadCommitted

/-!
# Row locks in different modes

A statement takes its locks in one of PostgreSQL's modes, several at once, and waits while
another session holds one that conflicts.  `System.play` plays a schedule of any number of
sessions under these locks.

A `Discipline` says what a session may change under given locks.  When every write obeys it
(`Write.Obeys`: it changes no more than its locks let it, and what other locks permit does not
make a constraint reject it), what a constraint has accepted when a statement was sent it still
accepts at the commit, whatever was committed in between (`System.Sound`).

`Txn.Ensures` is what a transaction establishes by its end, among commits that `R` relates, and
`System.outcomes` the rule that carries it to any run of any number of sessions.
-/

namespace ReadCommitted

universe u v w x

variable {σ : Type u} {κ : Type v} {ρ : Type w} {ι : Type x}

/-! ## Modes -/

inductive LockMode
  /-- `FOR KEY SHARE`: a foreign key refers to the row. -/
  | keyShare
  /-- `FOR NO KEY UPDATE`: an `UPDATE`. -/
  | noKeyUpdate
  /-- `FOR UPDATE`: a `DELETE`, or a new entry of a unique index. -/
  | update
deriving DecidableEq

def LockMode.conflicts : LockMode → LockMode → Bool
  | keyShare, update => true
  | update, keyShare => true
  | keyShare, _ => false
  | _, keyShare => false
  | _, _ => true

theorem LockMode.conflicts_comm (a b : LockMode) : a.conflicts b = b.conflicts a := by
  cases a <;> cases b <;> rfl

/-- What is locked, and in which mode. -/
abbrev Locks (κ : Type v) := List (κ × LockMode)

/-- Some lock that is held conflicts with one that is wanted. -/
def Clash (held wanted : Locks κ) : Prop :=
  ∃ a ∈ held, ∃ b ∈ wanted, a.1 = b.1 ∧ a.2.conflicts b.2 = true

instance [DecidableEq κ] (held wanted : Locks κ) : Decidable (Clash held wanted) :=
  inferInstanceAs (Decidable (∃ a ∈ held, ∃ b ∈ wanted, a.1 = b.1 ∧ a.2.conflicts b.2 = true))

section

variable {held wanted : Locks κ} {k : κ} {mode mode' : LockMode}

theorem Clash.symm (clash : Clash held wanted) : Clash wanted held := by
  obtain ⟨a, holds, b, wants, same, conflict⟩ := clash
  exact ⟨b, wants, a, holds, same.symm, LockMode.conflicts_comm .. ▸ conflict⟩

@[simp] theorem not_clash_nil : ¬ Clash ([] : Locks κ) wanted := by
  simp [Clash]

theorem Clash.of_mem (holds : (k, mode) ∈ held) (wants : (k, mode') ∈ wanted)
    (conflict : mode.conflicts mode' = true) : Clash held wanted :=
  ⟨_, holds, _, wants, rfl, conflict⟩

theorem clash_flatMap {α : Type*} {locks : α → Locks κ} {l : List α} :
    Clash (l.flatMap locks) wanted ↔ ∃ a ∈ l, Clash (locks a) wanted := by
  constructor
  · intro clash
    obtain ⟨lock, holds, rest⟩ := clash
    obtain ⟨a, member, own⟩ := List.mem_flatMap.mp holds
    exact ⟨a, member, lock, own, rest⟩
  · intro clash
    obtain ⟨a, member, lock, own, rest⟩ := clash
    exact ⟨lock, List.mem_flatMap.mpr ⟨a, member, own⟩, rest⟩

end

/-! ## Sessions -/

/-- The locks that a write takes. -/
def Write.locks (w : Write σ (Locks κ) ρ) : Locks κ := w.lock.getD []

namespace Session

def pending : Session σ κ ρ → List (Write σ κ ρ)
  | .running _ pending => pending
  | .finished _ => []

/-- The locks a session holds until it ends. -/
def held (t : Session σ (Locks κ) ρ) : Locks κ := t.pending.flatMap Write.locks

/-- The locks its next statement needs. -/
def wanted : Session σ (Locks κ) ρ → Locks κ
  | .running (.write w _) _ => w.locks
  | _ => []

end Session

namespace System

section

variable [Fintype ι] [DecidableEq ι] [DecidableEq κ]

/-- Session `i` waits for another one. -/
def Waits (s : System ι σ (Locks κ) ρ) (i : ι) : Prop :=
  ∃ j, j ≠ i ∧ Clash (s.session j).held (s.session i).wanted

instance (s : System ι σ (Locks κ) ρ) (i : ι) : Decidable (s.Waits i) :=
  inferInstanceAs (Decidable (∃ j, j ≠ i ∧ Clash (s.session j).held (s.session i).wanted))

/-- Session `i` sends its next statement, unless it has to wait. -/
def advance (s : System ι σ (Locks κ) ρ) (i : ι) : Option (System ι σ (Locks κ) ρ) :=
  if s.Waits i then none
  else ((s.session i).step s.db).map fun out => ⟨out.2, Function.update s.session i out.1⟩

/-- Play a schedule. -/
def play (s : System ι σ (Locks κ) ρ) : List ι → Option (System ι σ (Locks κ) ρ)
  | [] => some s
  | i :: schedule => (s.advance i).bind fun s' => play s' schedule

end

/-- What session `i` did at its turn. -/
inductive Turn [DecidableEq ι] (s s' : System ι σ (Locks κ) ρ) (i : ι) : Prop
  | select {next : σ → Txn σ (Locks κ) ρ} {pending : List (Write σ (Locks κ) ρ)} :
    s.session i = .running (.select next) pending →
    s' = ⟨s.db, Function.update s.session i (.running (next (visible pending s.db)) pending)⟩ →
    Turn s s' i
  | write {w : Write σ (Locks κ) ρ} {next : Txn σ (Locks κ) ρ}
      {pending : List (Write σ (Locks κ) ρ)} {db : σ} :
    s.session i = .running (.write w next) pending →
    w.stmt (visible pending s.db) = .ok db →
    (∀ j, j ≠ i → ¬ Clash (s.session j).held w.locks) →
    s' = ⟨s.db, Function.update s.session i (.running next (pending ++ [w]))⟩ →
    Turn s s' i
  | refused {w : Write σ (Locks κ) ρ} {next : Txn σ (Locks κ) ρ}
      {pending : List (Write σ (Locks κ) ρ)} {result : ρ} :
    s.session i = .running (.write w next) pending →
    w.stmt (visible pending s.db) = .error result →
    s' = ⟨rolledBack (pending ++ [w]) s.db, Function.update s.session i (.finished result)⟩ →
    Turn s s' i
  | commit {pending : List (Write σ (Locks κ) ρ)} {result : ρ} :
    s.session i = .running (.commit result) pending →
    s' = ⟨visible pending s.db, Function.update s.session i (.finished result)⟩ →
    Turn s s' i
  | rollback {pending : List (Write σ (Locks κ) ρ)} {result : ρ} :
    s.session i = .running (.rollback result) pending →
    s' = ⟨rolledBack pending s.db, Function.update s.session i (.finished result)⟩ →
    Turn s s' i

section

variable [Fintype ι] [DecidableEq ι] [DecidableEq κ] {s s' : System ι σ (Locks κ) ρ} {i : ι}
  {schedule : List ι}

theorem turn_of_advance (moved : s.advance i = some s') : Turn s s' i := by
  unfold advance at moved
  split at moved
  · cases moved
  next free =>
  obtain ⟨⟨t, db⟩, stepped, rfl⟩ := Option.map_eq_some_iff.mp moved
  cases here : s.session i with
  | finished result =>
      rw [here] at stepped
      cases stepped
  | running txn pending =>
      rw [here] at stepped
      cases txn with
      | select next =>
          cases stepped
          exact .select here rfl
      | commit result =>
          cases stepped
          exact .commit here rfl
      | rollback result =>
          cases stepped
          exact .rollback here rfl
      | write w next =>
          simp only [Session.step] at stepped
          cases outcome : w.stmt (visible pending s.db) with
          | ok db' =>
              rw [outcome] at stepped
              cases stepped
              refine .write here outcome (fun j other clash => free ⟨j, other, ?_⟩) rfl
              rw [here]
              exact clash
          | error result =>
              rw [outcome] at stepped
              cases stepped
              exact .refused here outcome rfl

theorem play_cons : s.play (i :: schedule) = some s' ↔
    ∃ middle, s.advance i = some middle ∧ middle.play schedule = some s' :=
  Option.bind_eq_some_iff

/-- What every turn keeps, a run keeps. -/
theorem play_keeps {P : System ι σ (Locks κ) ρ → Prop}
    (step : ∀ {s s' : System ι σ (Locks κ) ρ} {i : ι}, P s → Turn s s' i → P s')
    (start : P s) (played : s.play schedule = some s') : P s' := by
  induction schedule generalizing s with
  | nil =>
      cases played
      exact start
  | cons i schedule ih =>
      obtain ⟨middle, moved, rest⟩ := play_cons.mp played
      exact ih (step start (turn_of_advance moved)) rest

end

end System

/-! ## The same statements under other locks -/

section

variable {κ' : Type*} {ρ' : Type*}

/-- The same statement under the locks that `f` gives it. -/
def Write.relock (f : Option κ → Option κ') (w : Write σ κ ρ) : Write σ κ' ρ :=
  { w with lock := f w.lock }

/-- The same transaction under the locks that `f` gives its statements. -/
def Txn.relock (f : Option κ → Option κ') : Txn σ κ ρ → Txn σ κ' ρ
  | .select next => .select fun db => relock f (next db)
  | .write w next => .write (w.relock f) (relock f next)
  | .commit result => .commit result
  | .rollback result => .rollback result

variable {f : Option κ → Option κ'} {pending : List (Write σ κ ρ)} {db : σ}

/-- Pending writes do to the database what they did. -/
theorem visible_map {g : Write σ κ ρ → Write σ κ' ρ'} (same : ∀ w, (g w).apply = w.apply) :
    visible (pending.map g) db = visible pending db := by
  simp only [visible, List.foldl_map, same]

theorem rolledBack_map {g : Write σ κ ρ → Write σ κ' ρ'} (same : ∀ w, (g w).residue = w.residue) :
    rolledBack (pending.map g) db = rolledBack pending db := by
  simp only [rolledBack, List.foldl_map, same]

theorem Txn.relock_solo (txn : Txn σ κ ρ) (pending : List (Write σ κ ρ)) (db : σ) :
    (txn.relock f).solo (pending.map (Write.relock f)) db = txn.solo pending db := by
  have applied (pending : List (Write σ κ ρ)) :
      visible (pending.map (Write.relock f)) db = visible pending db := visible_map fun _ => rfl
  have undone (pending : List (Write σ κ ρ)) :
      rolledBack (pending.map (Write.relock f)) db = rolledBack pending db :=
    rolledBack_map fun _ => rfl
  induction txn generalizing pending with
  | select next ih => simp only [relock, solo, applied, ih]
  | write w next ih =>
      have more : pending.map (Write.relock f) ++ [w.relock f] =
          (pending ++ [w]).map (Write.relock f) := by rw [List.map_append]; rfl
      have stmt : (w.relock f).stmt = w.stmt := rfl
      simp only [relock, solo, applied, stmt, more, undone, ih]
  | commit result => simp only [relock, solo, applied]
  | rollback result => simp only [relock, solo, undone]

/-- Tagged results, and nothing else. -/
theorem Txn.map_solo (tag : ρ → ρ') (txn : Txn σ κ ρ) (pending : List (Write σ κ ρ)) (db : σ) :
    (txn.map tag).solo (pending.map (Write.map tag)) db =
      (tag (txn.solo pending db).1, (txn.solo pending db).2) := by
  have applied (pending : List (Write σ κ ρ)) :
      visible (pending.map (Write.map tag)) db = visible pending db :=
    visible_map fun w => w.apply_map tag
  have undone (pending : List (Write σ κ ρ)) :
      rolledBack (pending.map (Write.map tag)) db = rolledBack pending db :=
    rolledBack_map fun _ => rfl
  induction txn generalizing pending with
  | select next ih => simp only [map, solo, applied, ih]
  | write w next ih =>
      have more : pending.map (Write.map tag) ++ [w.map tag] =
          (pending ++ [w]).map (Write.map tag) := by rw [List.map_append]; rfl
      have stmt : (w.map tag).stmt = fun db => (w.stmt db).mapError tag := rfl
      simp only [map, solo, applied, stmt, more, undone, ih]
      cases w.stmt (visible pending db) <;> rfl
  | commit result => simp only [map, solo, applied]
  | rollback result => simp only [map, solo, undone]

end

/-! ## Reading first -/

/-- The transaction reads, and then rolls back with one of the results `F` or goes on as one of
`Q`. -/
inductive Txn.Reads (F : ρ → Prop) (Q : Txn σ κ ρ → Prop) : Txn σ κ ρ → Prop
  | goes {txn : Txn σ κ ρ} : Q txn → Reads F Q txn
  | rollback {result : ρ} : F result → Reads F Q (.rollback result)
  | select {next : σ → Txn σ κ ρ} : (∀ db, Reads F Q (next db)) → Reads F Q (.select next)

/-! ## What the constraints accept -/

/-- No constraint rejects the write. -/
def Write.Accepts (w : Write σ κ ρ) (db : σ) : Prop := ∃ db', w.stmt db = .ok db'

theorem Write.Accepts.stmt {w : Write σ κ ρ} {db : σ} (accepts : w.Accepts db) :
    w.stmt db = .ok (w.apply db) := by
  obtain ⟨db', accepted⟩ := accepts
  rw [accepted, w.apply_of_ok accepted]

/-- No constraint rejects any of the writes in its turn. -/
def Applies : List (Write σ κ ρ) → σ → Prop
  | [], _ => True
  | w :: pending, db => w.Accepts db ∧ Applies pending (w.apply db)

/-- What each write keeps, a commit keeps. -/
theorem Applies.keeps {P : σ → Prop} {pending : List (Write σ κ ρ)} {db : σ}
    (applies : Applies pending db)
    (step : ∀ w ∈ pending, ∀ db, w.Accepts db → P db → P (w.apply db)) (start : P db) :
    P (visible pending db) := by
  induction pending generalizing db with
  | nil => exact start
  | cons w pending ih =>
      exact ih applies.2 (fun w' later => step w' (List.mem_cons_of_mem _ later))
        (step w List.mem_cons_self db applies.1 start)

/-! ## Keeping to the locks -/

/-- What may change under given locks, and what a rollback may leave behind. -/
structure Discipline (σ : Type u) (κ : Type v) where
  within : Locks κ → σ → σ → Prop
  idle : σ → σ → Prop
  within_of_idle {db db' : σ} : idle db db' → within [] db db'

variable {D : Discipline σ κ}

/-- The write changes what its locks let it change, and other changes let it be. -/
structure Write.Obeys (D : Discipline σ κ) (w : Write σ (Locks κ) ρ) : Prop where
  guarantee {db : σ} : w.Accepts db → D.within w.locks db (w.apply db)
  idle (db : σ) : D.idle db (w.residue db)
  stable {locks : Locks κ} {db db' : σ} : D.within locks db db' → ¬ Clash locks w.locks →
    w.Accepts db → w.Accepts db'

/-- Every write of the transaction obeys; its own locks do not get in its way, and what it has
sent before does not help it past a constraint. -/
def Txn.Obeys (D : Discipline σ κ) : Txn σ (Locks κ) ρ → List (Write σ (Locks κ) ρ) → Prop
  | .select next, pending => ∀ db, Obeys D (next db) pending
  | .write w next, pending =>
      w.Obeys D ∧ (∀ w₀ ∈ pending, ¬ Clash w₀.locks w.locks) ∧
        (∀ db, w.Accepts (visible pending db) → w.Accepts db) ∧ Obeys D next (pending ++ [w])
  | .commit _, _ => True
  | .rollback _, _ => True

theorem Txn.Reads.obeys {F : ρ → Prop} {Q : Txn σ (Locks κ) ρ → Prop}
    {txn : Txn σ (Locks κ) ρ} {pending : List (Write σ (Locks κ) ρ)}
    (each : ∀ txn, Q txn → txn.Obeys D pending) (reads : txn.Reads F Q) :
    txn.Obeys D pending := by
  induction reads with
  | goes last => exact each _ last
  | rollback _ => trivial
  | select _ ih => exact ih

section

variable {w : Write σ (Locks κ) ρ} {pending : List (Write σ (Locks κ) ρ)} {db : σ}

/-- A write survives a commit of writes whose locks do not clash with its own. -/
theorem Write.Obeys.survives (obeys : w.Obeys D) (applies : Applies pending db)
    (others : ∀ w₀ ∈ pending, w₀.Obeys D ∧ ¬ Clash w₀.locks w.locks) (accepts : w.Accepts db) :
    w.Accepts (visible pending db) :=
  applies.keeps (fun w₀ member _ accepted =>
    obeys.stable ((others w₀ member).1.guarantee accepted) (others w₀ member).2) accepts

/-- What a rollback leaves behind, kept step by step. -/
theorem rolledBack_keeps {P : σ → Prop} (each : ∀ w ∈ pending, w.Obeys D)
    (step : ∀ {db db' : σ}, D.idle db db' → P db → P db') (start : P db) :
    P (rolledBack pending db) :=
  List.foldlRecOn pending _ start fun db before w member => step ((each w member).idle db) before

/-- A rollback does not get in the way of a write. -/
theorem Write.Obeys.outlives (obeys : w.Obeys D) (each : ∀ w₀ ∈ pending, w₀.Obeys D)
    (accepts : w.Accepts db) : w.Accepts (rolledBack pending db) :=
  rolledBack_keeps each (fun idle => obeys.stable (D.within_of_idle idle) not_clash_nil) accepts

end

/-- The writes a session has sent are accepted by what is committed, and do not clash. -/
structure Stands (D : Discipline σ κ) (pending : List (Write σ (Locks κ) ρ)) (db : σ) :
    Prop where
  each : ∀ w ∈ pending, w.Obeys D ∧ w.Accepts db
  apart : pending.Pairwise fun w w' => ¬ Clash w.locks w'.locks

/-- Committed now, all of the writes would be accepted. -/
theorem Stands.applies {pending : List (Write σ (Locks κ) ρ)} {db : σ}
    (sent : Stands D pending db) : Applies pending db := by
  induction pending generalizing db with
  | nil => trivial
  | cons w pending ih =>
      obtain ⟨each, apart⟩ := sent
      obtain ⟨first, apart⟩ := List.pairwise_cons.mp apart
      obtain ⟨obeys, accepts⟩ := each w List.mem_cons_self
      refine ⟨accepts, ih ⟨fun w' later => ?_, apart⟩⟩
      obtain ⟨obeys', accepts'⟩ := each w' (List.mem_cons_of_mem _ later)
      exact ⟨obeys', obeys'.stable (obeys.guarantee accepts) (first w' later) accepts'⟩

/-- What the discipline keeps under any locks, a commit of obedient writes keeps. -/
theorem Applies.within {P : σ → Prop} {pending : List (Write σ (Locks κ) ρ)} {db : σ}
    (step : ∀ {locks : Locks κ} {db db' : σ}, D.within locks db db' → P db → P db')
    (applies : Applies pending db) (each : ∀ w ∈ pending, w.Obeys D) (start : P db) :
    P (visible pending db) :=
  applies.keeps (fun w member _ accepts => step ((each w member).guarantee accepts)) start

namespace System

/-- Every session keeps to its locks, what it has sent is accepted by what is committed, and no
two sessions hold clashing locks. -/
structure Sound (D : Discipline σ κ) (s : System ι σ (Locks κ) ρ) : Prop where
  ahead : ∀ i txn pending, s.session i = .running txn pending → txn.Obeys D pending
  sent : ∀ i, Stands D (s.session i).pending s.db
  apart : ∀ i j, i ≠ j → ¬ Clash (s.session i).held (s.session j).held

/-- What a session about to commit has sent, no constraint rejects. -/
theorem Sound.applies {s : System ι σ (Locks κ) ρ} (sound : s.Sound D) (i : ι) :
    Applies (s.session i).pending s.db :=
  (sound.sent i).applies

/-- What a session has sent obeys. -/
theorem Sound.sent_obeys {s : System ι σ (Locks κ) ρ} {i : ι} {txn : Txn σ (Locks κ) ρ}
    {pending : List (Write σ (Locks κ) ρ)} (sound : s.Sound D)
    (here : s.session i = .running txn pending) : ∀ w ∈ pending, w.Obeys D := by
  have own := sound.sent i
  rw [here] at own
  exact fun w member => (own.each w member).1

theorem Sound.start {db : σ} {txn : ι → Txn σ (Locks κ) ρ} (obeys : ∀ i, (txn i).Obeys D []) :
    (start db txn).Sound D where
  ahead i _ _ here := by
    cases here
    exact obeys i
  sent i := ⟨fun _ member => (List.not_mem_nil member).elim, .nil⟩
  apart _ _ _ := not_clash_nil

section

variable [DecidableEq ι] {s s' : System ι σ (Locks κ) ρ} {i : ι} {schedule : List ι}

/-- The session `i` has moved to `t`, and the others stand by while the database changes. -/
theorem Sound.update {t : Session σ (Locks κ) ρ} {db : σ} (sound : s.Sound D)
    (ahead : ∀ txn pending, t = .running txn pending → txn.Obeys D pending)
    (sent : Stands D t.pending db)
    (apart : ∀ j, j ≠ i → ¬ Clash (s.session j).held t.held)
    (others : ∀ j, j ≠ i → Stands D (s.session j).pending db) :
    Sound D ⟨db, Function.update s.session i t⟩ where
  ahead j := by
    by_cases turn : j = i
    · subst turn
      simpa only [Function.update_self] using ahead
    · simpa only [Function.update_of_ne turn] using sound.ahead j
  sent j := by
    by_cases turn : j = i
    · subst turn
      simpa only [Function.update_self] using sent
    · simpa only [Function.update_of_ne turn] using others j turn
  apart j k distinct := by
    by_cases turn : j = i
    · subst turn
      simp only [Function.update_self, Function.update_of_ne distinct.symm]
      exact fun clash => apart k distinct.symm clash.symm
    · by_cases turn' : k = i
      · subst turn'
        simpa only [Function.update_self, Function.update_of_ne turn] using apart j turn
      · simpa only [Function.update_of_ne turn, Function.update_of_ne turn'] using
          sound.apart j k distinct

/-- **Step.**  Whatever a session does at its turn, what every session has sent stands. -/
theorem Sound.turn (sound : s.Sound D) (turn : Turn s s' i) : s'.Sound D := by
  have ended {result : ρ} (txn : Txn σ (Locks κ) ρ) (pending : List (Write σ (Locks κ) ρ)) :
      Session.finished result = .running txn pending → txn.Obeys D pending := nofun
  have nothing {db : σ} : Stands D ([] : List (Write σ (Locks κ) ρ)) db :=
    ⟨fun _ member => (List.not_mem_nil member).elim, .nil⟩
  have quiet {result : ρ} (t : Session σ (Locks κ) ρ) :
      ¬ Clash t.held (Session.finished result : Session σ (Locks κ) ρ).held :=
    fun clash => not_clash_nil clash.symm
  -- A rollback leaves behind what gets in nobody's way.
  have undone {pending : List (Write σ (Locks κ) ρ)} (each : ∀ w ∈ pending, w.Obeys D) (j : ι) :
      Stands D (s.session j).pending (rolledBack pending s.db) := by
    refine ⟨fun w member => ?_, (sound.sent j).apart⟩
    obtain ⟨obeys, accepts⟩ := (sound.sent j).each w member
    exact ⟨obeys, obeys.outlives each accepts⟩
  cases turn with
  | @select next pending here moved =>
      subst moved
      have obeys := sound.ahead i _ _ here
      have own := sound.sent i
      rw [here] at own
      refine sound.update (fun _ _ same => by cases same; exact obeys _) own
        (fun j other clash => sound.apart j i other ?_) fun j _ => sound.sent j
      rw [here]
      exact clash
  | @write w next pending db here accepted free moved =>
      subst moved
      obtain ⟨obeys, apart, sufficient, rest⟩ := sound.ahead i _ _ here
      have own := sound.sent i
      have held := fun j (other : j ≠ i) => sound.apart j i other
      rw [here] at own held
      refine sound.update (fun _ _ same => by cases same; exact rest) ⟨?_, ?_⟩ ?_
        fun j _ => sound.sent j
      · exact each_concat own.each ⟨obeys, sufficient _ ⟨db, accepted⟩⟩
      · refine List.pairwise_append.mpr ⟨own.apart, List.pairwise_singleton _ _, ?_⟩
        intro w₀ member w' new
        exact List.mem_singleton.mp new ▸ apart w₀ member
      · intro j other clash
        obtain ⟨w', sent, clash⟩ := clash_flatMap.mp clash.symm
        rcases List.mem_append.mp sent with old | new
        · exact held j other (Clash.symm (clash_flatMap.mpr ⟨w', old, clash⟩))
        · cases List.mem_singleton.mp new
          exact free j other clash.symm
  | refused here _ moved =>
      subst moved
      exact sound.update ended nothing (fun j _ => quiet _) fun j _ =>
        undone (each_concat (sound.sent_obeys here) (sound.ahead i _ _ here).1) j
  | rollback here moved =>
      subst moved
      exact sound.update ended nothing (fun j _ => quiet _) fun j _ =>
        undone (sound.sent_obeys here) j
  | @commit pending result here moved =>
      subst moved
      have own := sound.sent i
      have held := fun j (other : j ≠ i) => sound.apart j i other
      rw [here] at own held
      refine sound.update ended nothing (fun j _ => quiet _) fun j other => ⟨fun w member => ?_,
        (sound.sent j).apart⟩
      obtain ⟨obeys, accepts⟩ := (sound.sent j).each w member
      refine ⟨obeys, obeys.survives own.applies (fun w₀ member₀ => ⟨(own.each w₀ member₀).1,
        fun clash => held j other ?_⟩) accepts⟩
      exact clash_flatMap.mpr ⟨w, member, Clash.symm (clash_flatMap.mpr ⟨w₀, member₀, clash⟩)⟩

/-- **Run.**  In every state that any number of obedient sessions can reach, what each of them
has sent stands. -/
theorem Sound.play [Fintype ι] [DecidableEq κ] (sound : s.Sound D)
    (played : s.play schedule = some s') : s'.Sound D :=
  play_keeps (fun sound turn => sound.turn turn) sound played

end

end System

/-! ## What a transaction ensures -/

/-- Among commits that `R` relates, the transaction at `db` commits only pending writes and
results that satisfy `done`, and fails only with results that satisfy `failed`. -/
def Txn.Ensures (R : σ → σ → Prop) (done : List (Write σ κ ρ) → ρ → σ → Prop)
    (failed : ρ → σ → Prop) : Txn σ κ ρ → List (Write σ κ ρ) → σ → Prop
  | .select next, pending, db =>
      ∀ db', R db db' → Ensures R done failed (next (visible pending db')) pending db'
  | .write w next, pending, db =>
      ∀ db', R db db' → (∀ result, w.stmt (visible pending db') = .error result →
        failed result db') ∧
        (w.Accepts (visible pending db') → Ensures R done failed next (pending ++ [w]) db')
  | .commit result, pending, db => ∀ db', R db db' → done pending result db'
  | .rollback result, _, db => ∀ db', R db db' → failed result db'

/-- What a transaction ensures, it ensures after further commits. -/
theorem Txn.Ensures.later {R : σ → σ → Prop} {done : List (Write σ κ ρ) → ρ → σ → Prop}
    {failed : ρ → σ → Prop} {txn : Txn σ κ ρ} {pending : List (Write σ κ ρ)} {db db' : σ}
    (trans : ∀ {db db' db'' : σ}, R db db' → R db' db'' → R db db'')
    (ensures : txn.Ensures R done failed pending db) (later : R db db') :
    txn.Ensures R done failed pending db' := by
  cases txn with
  | select next => exact fun _ after => ensures _ (trans later after)
  | write w next => exact fun _ after => ensures _ (trans later after)
  | commit result => exact fun _ after => ensures _ (trans later after)
  | rollback result => exact fun _ after => ensures _ (trans later after)

/-- Two things that a transaction ensures. -/
theorem Txn.Ensures.and {R : σ → σ → Prop} {done done' : List (Write σ κ ρ) → ρ → σ → Prop}
    {failed failed' : ρ → σ → Prop} {txn : Txn σ κ ρ} :
    ∀ {pending : List (Write σ κ ρ)} {db : σ}, txn.Ensures R done failed pending db →
      txn.Ensures R done' failed' pending db →
      txn.Ensures R (fun pending result db => done pending result db ∧ done' pending result db)
        (fun result db => failed result db ∧ failed' result db) pending db := by
  induction txn with
  | select next ih => exact fun first second db' later => ih _ (first _ later) (second _ later)
  | write w next ih =>
      refine fun first second db' later => ⟨fun result raised => ?_, fun accepts => ?_⟩
      · exact ⟨(first _ later).1 _ raised, (second _ later).1 _ raised⟩
      · exact ih ((first _ later).2 accepts) ((second _ later).2 accepts)
  | commit result => exact fun first second _ later => ⟨first _ later, second _ later⟩
  | rollback result => exact fun first second _ later => ⟨first _ later, second _ later⟩

theorem Txn.Ensures.imp {R : σ → σ → Prop} {done done' : List (Write σ κ ρ) → ρ → σ → Prop}
    {failed failed' : ρ → σ → Prop} {txn : Txn σ κ ρ}
    (more : ∀ {pending result db}, done pending result db → done' pending result db)
    (fails : ∀ {result db}, failed result db → failed' result db) :
    ∀ {pending : List (Write σ κ ρ)} {db : σ}, txn.Ensures R done failed pending db →
      txn.Ensures R done' failed' pending db := by
  induction txn with
  | select next ih => exact fun ensures db' later => ih _ (ensures _ later)
  | write w next ih =>
      exact fun ensures db' later => ⟨fun result raised => fails ((ensures _ later).1 _ raised),
        fun accepts => ih ((ensures _ later).2 accepts)⟩
  | commit result => exact fun ensures _ later => more (ensures _ later)
  | rollback result => exact fun ensures _ later => fails (ensures _ later)

/-- The less the others do, the more can be relied on. -/
theorem Txn.Ensures.relying {R R' : σ → σ → Prop} {done : List (Write σ κ ρ) → ρ → σ → Prop}
    {failed : ρ → σ → Prop} {txn : Txn σ κ ρ} (less : ∀ {db db' : σ}, R' db db' → R db db') :
    ∀ {pending : List (Write σ κ ρ)} {db : σ}, txn.Ensures R done failed pending db →
      txn.Ensures R' done failed pending db := by
  induction txn with
  | select next ih => exact fun ensures db' later => ih _ (ensures _ (less later))
  | write w next ih =>
      exact fun ensures db' later => ⟨(ensures _ (less later)).1,
        fun accepts => ih ((ensures _ (less later)).2 accepts)⟩
  | commit result => exact fun ensures _ later => ensures _ (less later)
  | rollback result => exact fun ensures _ later => ensures _ (less later)

/-- What a transaction ensures whatever it reads. -/
theorem Txn.Reads.ensures {F : ρ → Prop} {Q : Txn σ κ ρ → Prop} {R : σ → σ → Prop}
    {done : List (Write σ κ ρ) → ρ → σ → Prop} {failed : ρ → σ → Prop} {txn : Txn σ κ ρ}
    {pending : List (Write σ κ ρ)}
    (each : ∀ txn, Q txn → ∀ db, txn.Ensures R done failed pending db)
    (fails : ∀ result, F result → ∀ db, failed result db) (reads : txn.Reads F Q) (db : σ) :
    txn.Ensures R done failed pending db := by
  induction reads generalizing db with
  | goes last => exact each _ last db
  | rollback fail => exact fun db' _ => fails _ fail db'
  | select _ ih => exact fun db' _ => ih _ db'

/-- A transaction may end any way it likes. -/
theorem Txn.ensures_any {R : σ → σ → Prop} {txn : Txn σ κ ρ} :
    ∀ {pending : List (Write σ κ ρ)} {db : σ},
      txn.Ensures R (fun _ _ _ => True) (fun _ _ => True) pending db := by
  induction txn with
  | select next ih => exact fun db' _ => ih _
  | write w next ih => exact fun db' _ => ⟨fun _ _ => trivial, fun _ => ih⟩
  | commit result => exact fun _ _ => trivial
  | rollback result => exact fun _ _ => trivial

namespace System

/-- The results so far. -/
def results (s : System ι σ (Locks κ) ρ) : ι → Option ρ := fun i => (s.session i).result?

/-- What the sessions are allowed to end with keeps `P`, and is what the others rely on. -/
structure Preserves [DecidableEq ι] (D : Discipline σ κ) (R : ι → σ → σ → Prop)
    (done : ι → List (Write σ (Locks κ) ρ) → ρ → σ → Prop) (failed : ι → ρ → σ → Prop)
    (P : (ι → Option ρ) → σ → Prop) : Prop where
  refl (i : ι) (db : σ) : R i db db
  trans {i : ι} {db db' db'' : σ} : R i db db' → R i db' db'' → R i db db''
  commits {results : ι → Option ρ} {db : σ} {i : ι} {pending : List (Write σ (Locks κ) ρ)}
    {result : ρ} : P results db → results i = none → done i pending result db →
    (∀ w ∈ pending, w.Obeys D) → Applies pending db →
    (∀ j, j ≠ i → R j db (visible pending db)) ∧
      P (Function.update results i (some result)) (visible pending db)
  fails {results : ι → Option ρ} {db : σ} {i : ι} {result : ρ} : P results db →
    results i = none → failed i result db → P (Function.update results i (some result)) db
  idles {results : ι → Option ρ} {db db' : σ} : P results db → D.idle db db' →
    (∀ j, R j db db') ∧ P results db'

/-- The invariant behind `outcomes`: every session under way ensures what it did at first. -/
structure Ensured (D : Discipline σ κ) (R : ι → σ → σ → Prop)
    (done : ι → List (Write σ (Locks κ) ρ) → ρ → σ → Prop) (failed : ι → ρ → σ → Prop)
    (P : (ι → Option ρ) → σ → Prop) (s : System ι σ (Locks κ) ρ) : Prop where
  sound : s.Sound D
  outcome : P s.results s.db
  ahead : ∀ i txn pending, s.session i = .running txn pending →
    txn.Ensures (R i) (done i) (failed i) pending s.db

section

variable [DecidableEq ι] {R : ι → σ → σ → Prop}
  {done : ι → List (Write σ (Locks κ) ρ) → ρ → σ → Prop} {failed : ι → ρ → σ → Prop}
  {P : (ι → Option ρ) → σ → Prop} {s s' : System ι σ (Locks κ) ρ} {i : ι}
  {txn : Txn σ (Locks κ) ρ} {pending : List (Write σ (Locks κ) ρ)} {result : ρ}

theorem results_update {t : Session σ (Locks κ) ρ} {db : σ} :
    results ⟨db, Function.update s.session i t⟩ = Function.update s.results i t.result? := by
  funext j
  by_cases turn : j = i
  · subst turn
    simp only [results, Function.update_self]
  · simp only [results, Function.update_of_ne turn]

omit [DecidableEq ι] in
theorem results_of_running (here : s.session i = .running txn pending) : s.results i = none := by
  rw [results, here]
  rfl

/-- A session that goes on has no result yet. -/
theorem update_of_running (here : s.session i = .running txn pending) :
    Function.update s.results i none = s.results := by
  rw [← results_of_running here, Function.update_eq_self]

/-- Session `i` has moved to `t`, and the database as the others rely on. -/
theorem Ensured.update {t : Session σ (Locks κ) ρ} {db : σ}
    (ensured : Ensured D R done failed P s) (preserves : Preserves D R done failed P)
    (sound : Sound D ⟨db, Function.update s.session i t⟩) (later : ∀ j, j ≠ i → R j s.db db)
    (outcome : P (Function.update s.results i t.result?) db)
    (ahead : ∀ txn pending, t = .running txn pending →
      txn.Ensures (R i) (done i) (failed i) pending db) :
    Ensured D R done failed P ⟨db, Function.update s.session i t⟩ where
  sound := sound
  outcome := by
    rw [results_update]
    exact outcome
  ahead j txn pending here := by
    by_cases turn : j = i
    · subst turn
      simp only [Function.update_self] at here
      exact ahead txn pending here
    · simp only [Function.update_of_ne turn] at here
      exact (ensured.ahead j txn pending here).later preserves.trans (later j turn)

/-- Session `i` has failed, and the rollback of `undone` has left something behind. -/
theorem Ensured.undone {undone : List (Write σ (Locks κ) ρ)}
    (ensured : Ensured D R done failed P s) (preserves : Preserves D R done failed P)
    (here : s.session i = .running txn pending) (each : ∀ w ∈ undone, w.Obeys D)
    (sound : Sound D ⟨rolledBack undone s.db, Function.update s.session i (.finished result)⟩)
    (fails : failed i result s.db) : Ensured D R done failed P
      ⟨rolledBack undone s.db, Function.update s.session i (.finished result)⟩ := by
  have kept : (∀ j, R j s.db (rolledBack undone s.db)) ∧
      P (Function.update s.results i (some result)) (rolledBack undone s.db) := by
    refine rolledBack_keeps (P := fun db =>
      (∀ j, R j s.db db) ∧ P (Function.update s.results i (some result)) db)
      each ?_ ⟨fun j => preserves.refl j _,
        preserves.fails ensured.outcome (results_of_running here) fails⟩
    intro db db' idle before
    obtain ⟨later, next⟩ := preserves.idles before.2 idle
    exact ⟨fun j => preserves.trans (before.1 j) (later j), next⟩
  exact ensured.update preserves sound (fun j _ => kept.1 j) kept.2 nofun

/-- **Step.** -/
theorem Ensured.turn (ensured : Ensured D R done failed P s)
    (preserves : Preserves D R done failed P) (turn : Turn s s' i) :
    Ensured D R done failed P s' := by
  have sound := ensured.sound.turn turn
  have refl (j : ι) := preserves.refl j s.db
  cases turn with
  | select here moved =>
      subst moved
      refine ensured.update preserves sound (fun j _ => refl j) ?_ fun txn pending same => ?_
      · exact (update_of_running here).symm ▸ ensured.outcome
      · cases same
        exact ensured.ahead i _ _ here _ (refl i)
  | write here accepted _ moved =>
      subst moved
      refine ensured.update preserves sound (fun j _ => refl j) ?_ fun txn pending same => ?_
      · exact (update_of_running here).symm ▸ ensured.outcome
      · cases same
        exact (ensured.ahead i _ _ here _ (refl i)).2 ⟨_, accepted⟩
  | refused here rejected moved =>
      subst moved
      have each := each_concat (ensured.sound.sent_obeys here) (ensured.sound.ahead i _ _ here).1
      exact ensured.undone preserves here each sound
        ((ensured.ahead i _ _ here _ (refl i)).1 _ rejected)
  | rollback here moved =>
      subst moved
      exact ensured.undone preserves here (ensured.sound.sent_obeys here) sound
        (ensured.ahead i _ _ here _ (refl i))
  | commit here moved =>
      subst moved
      have own := ensured.sound.sent i
      rw [here] at own
      obtain ⟨later, outcome⟩ := preserves.commits ensured.outcome (results_of_running here)
        (ensured.ahead i _ _ here _ (refl i)) (fun w member => (own.each w member).1) own.applies
      exact ensured.update preserves sound later outcome nofun

/-- **Outcomes.**  When each transaction ensures its `done` and `failed`, relying on `R i`, and
these preserve `P` and what the others rely on, then `P` holds of the results and the database
in every state reached. -/
theorem outcomes [Fintype ι] [DecidableEq κ] {txn : ι → Txn σ (Locks κ) ρ} {db : σ}
    {schedule : List ι} (preserves : Preserves D R done failed P)
    (obeys : ∀ i, (txn i).Obeys D [])
    (ensures : ∀ i, (txn i).Ensures (R i) (done i) (failed i) [] db) (start : P (fun _ => none) db)
    (played : (System.start db txn).play schedule = some s) : P s.results s.db := by
  have began : Ensured D R done failed P (System.start db txn) :=
    ⟨.start obeys, start, fun i _ _ here => by cases here; exact ensures i⟩
  exact (play_keeps (fun ensured turn => ensured.turn preserves turn) began played).outcome

/-- **Invariants.**  What the discipline keeps under any locks, any number of obedient sessions
keep. -/
theorem keeps [Fintype ι] [DecidableEq κ] {txn : ι → Txn σ (Locks κ) ρ} {db : σ}
    {schedule : List ι} {P : σ → Prop}
    (step : ∀ {locks : Locks κ} {db db' : σ}, D.within locks db db' → P db → P db')
    (obeys : ∀ i, (txn i).Obeys D []) (start : P db)
    (played : (System.start db txn).play schedule = some s) : P s.db := by
  have preserves : Preserves D (fun _ _ _ => True) (fun _ _ _ _ => True) (fun _ _ _ => True)
      (fun (_ : ι → Option ρ) db => P db) := {
    refl := fun _ _ => trivial
    trans := fun _ _ => trivial
    commits := fun holds _ _ each applies =>
      ⟨fun _ _ => trivial, applies.within step each holds⟩
    fails := fun holds _ _ => holds
    idles := fun holds idle => ⟨fun _ => trivial, step (D.within_of_idle idle) holds⟩ }
  exact outcomes preserves obeys (fun i => Txn.ensures_any) start played

end

end System

end ReadCommitted
