import Mathlib.Data.Fintype.Basic
import Mathlib.Logic.Function.Basic

/-!
# Transactions under READ COMMITTED, statement by statement

`Txn` is the rest of a transaction: each `select` and each `write` is one statement
sent to the database, and the continuation is what the client does with the answer.
A session sees what is committed plus its own pending writes; a write takes the lock
of its row until the session ends, and a statement that needs a lock another session
holds has to wait.  `System.run` plays a schedule, the list of the sessions that move.

* `Txn.solo` is the transaction running alone, `Txn.faulty` the same with one
  statement raising.
* `System.split_of_run`: whatever the schedule, two sessions that both finish end as
  one running alone from the start state and the other reading that state up to some
  statement and the first one's outcome from there on (`Txn.Split`).
* `System.run_rel`: what each write of each session preserves, any run of any number of
  sessions preserves; `System.Turns` says where the first two turns of a session fall.
* `System.run_of_freeSplit`: every such split among the leading statements that take no
  lock is the outcome of some schedule, locks included.
-/

namespace ReadCommitted

universe u v w x

/-- One `INSERT`, `UPDATE` or `DELETE`: the row it locks, what it does to the database
(or the error a constraint raises), and what a rollback leaves behind of it, accepted or not. -/
structure Write (σ : Type u) (κ : Type v) (ρ : Type w) where
  lock : Option κ
  stmt : σ → Except ρ σ
  residue : σ → σ

/-- The rest of a transaction; `rollback` closes it without a commit. -/
inductive Txn (σ : Type u) (κ : Type v) (ρ : Type w)
  | select (next : σ → Txn σ κ ρ)
  | write (w : Write σ κ ρ) (next : Txn σ κ ρ)
  | commit (result : ρ)
  | rollback (result : ρ)

variable {σ : Type u} {κ : Type v} {ρ : Type w}

/-- The database after a write that no constraint rejected. -/
def Write.apply (w : Write σ κ ρ) (db : σ) : σ :=
  match w.stmt db with
  | .ok db' => db'
  | .error _ => db

/-- What a session with these pending writes sees. -/
def visible (pending : List (Write σ κ ρ)) (db : σ) : σ :=
  pending.foldl (fun db w => w.apply db) db

/-- What stays behind when a session with these pending writes rolls back. -/
def rolledBack (pending : List (Write σ κ ρ)) (db : σ) : σ :=
  pending.foldl (fun db w => w.residue db) db

@[simp] theorem visible_nil (db : σ) : visible ([] : List (Write σ κ ρ)) db = db := rfl

/-- The last write is applied to what the session saw before it. -/
@[simp] theorem visible_concat (pending : List (Write σ κ ρ)) (w : Write σ κ ρ) (db : σ) :
    visible (pending ++ [w]) db = w.apply (visible pending db) :=
  List.foldl_concat ..

theorem Write.apply_of_ok {w : Write σ κ ρ} {db db' : σ} (accepted : w.stmt db = .ok db') :
    w.apply db = db' := by
  rw [Write.apply, accepted]

/-- A write that a constraint rejected has changed nothing. -/
theorem Write.apply_cases (w : Write σ κ ρ) (db : σ) :
    w.apply db = db ∨ w.stmt db = .ok (w.apply db) := by
  unfold Write.apply
  cases w.stmt db with
  | ok db' => exact .inr rfl
  | error result => exact .inl rfl

/-- The same statement in a session whose results are tagged by `f`. -/
def Write.map {ρ' : Type x} (f : ρ → ρ') (w : Write σ κ ρ) : Write σ κ ρ' where
  lock := w.lock
  stmt db := (w.stmt db).mapError f
  residue := w.residue

@[simp] theorem Write.apply_map {ρ' : Type x} (f : ρ → ρ') (w : Write σ κ ρ) :
    (w.map f).apply = w.apply := by
  funext db
  simp only [Write.apply, Write.map]
  cases w.stmt db <;> rfl

/-- Kept or rolled back, the write leaves a database that `R` relates to the one before. -/
def Write.Within (R : σ → σ → Prop) (w : Write σ κ ρ) : Prop :=
  ∀ db, R db (w.apply db) ∧ R db (w.residue db)

theorem Write.Within.map {ρ' : Type x} {f : ρ → ρ'} {R : σ → σ → Prop} {w : Write σ κ ρ}
    (within : w.Within R) : (w.map f).Within R := by
  intro db
  rw [apply_map]
  exact within db

/-- What holds of the pending writes and of one more. -/
theorem each_concat {P : Write σ κ ρ → Prop} {pending : List (Write σ κ ρ)} {w : Write σ κ ρ}
    (each : ∀ w ∈ pending, P w) (last : P w) : ∀ w' ∈ pending ++ [w], P w' := by
  intro w' member
  rcases List.mem_append.mp member with old | new
  · exact each w' old
  · exact List.mem_singleton.mp new ▸ last

@[simp] theorem rolledBack_nil (db : σ) : rolledBack ([] : List (Write σ κ ρ)) db = db := rfl

namespace Txn

/-- The transaction running alone: its result and the database it leaves. -/
def solo : Txn σ κ ρ → List (Write σ κ ρ) → σ → ρ × σ
  | .select next, pending, db => solo (next (visible pending db)) pending db
  | .write w next, pending, db =>
      match w.stmt (visible pending db) with
      | .ok _ => solo next (pending ++ [w]) db
      | .error result => (result, rolledBack (pending ++ [w]) db)
  | .commit result, pending, db => (result, visible pending db)
  | .rollback result, pending, db => (result, rolledBack pending db)

/-- The transaction running alone while its `n`-th statement raises, `COMMIT` included.
`drawn` tells whether a write that raises has left its residue already.  No result means
that the exception came up. -/
def faulty (drawn : Bool) : Nat → Txn σ κ ρ → List (Write σ κ ρ) → σ → Option ρ × σ
  | 0, .select _, pending, db => (none, rolledBack pending db)
  | n + 1, .select next, pending, db => faulty drawn n (next (visible pending db)) pending db
  | 0, .write w _, pending, db =>
      (none, rolledBack (if drawn then pending ++ [w] else pending) db)
  | n + 1, .write w next, pending, db =>
      match w.stmt (visible pending db) with
      | .ok _ => faulty drawn n next (pending ++ [w]) db
      | .error result => (some result, rolledBack (pending ++ [w]) db)
  | 0, .commit _, pending, db => (none, rolledBack pending db)
  | _ + 1, .commit result, pending, db => (some result, visible pending db)
  | _, .rollback result, pending, db => (some result, rolledBack pending db)

/-- Every write the transaction can come to satisfies `P`. -/
def EachWrite (P : Write σ κ ρ → Prop) : Txn σ κ ρ → Prop
  | .select next => ∀ db, EachWrite P (next db)
  | .write w next => P w ∧ EachWrite P next
  | .commit _ => True
  | .rollback _ => True

/-- The same transaction with its results tagged by `f`. -/
def map {ρ' : Type x} (f : ρ → ρ') : Txn σ κ ρ → Txn σ κ ρ'
  | .select next => .select fun db => map f (next db)
  | .write w next => .write (w.map f) (map f next)
  | .commit result => .commit (f result)
  | .rollback result => .rollback (f result)

theorem EachWrite.within_map {ρ' : Type x} {f : ρ → ρ'} {R : σ → σ → Prop} {txn : Txn σ κ ρ} :
    txn.EachWrite (Write.Within R) → (txn.map f).EachWrite (Write.Within R) := by
  induction txn with
  | select next ih => exact fun each db => ih db (each db)
  | write w next ih => exact fun each => ⟨each.1.map, ih each.2⟩
  | commit result => exact id
  | rollback result => exact id

/-- `txn` reads `before` for some of its statements and `after` from then on. -/
inductive Split (before after : σ) : Txn σ κ ρ → List (Write σ κ ρ) → ρ × σ → Prop
  | switch {txn : Txn σ κ ρ} {pending : List (Write σ κ ρ)} :
    Split before after txn pending (solo txn pending after)
  | select {next : σ → Txn σ κ ρ} {pending : List (Write σ κ ρ)} {out : ρ × σ} :
    Split before after (next (visible pending before)) pending out →
    Split before after (.select next) pending out
  | write {w : Write σ κ ρ} {next : Txn σ κ ρ} {pending : List (Write σ κ ρ)}
      {out : ρ × σ} {db : σ} :
    w.stmt (visible pending before) = .ok db →
    Split before after next (pending ++ [w]) out →
    Split before after (.write w next) pending out

/-- `txn` reads `before` for some of its leading statements, none of which takes a lock, and
`after` from then on. -/
inductive FreeSplit (before after : σ) : Txn σ κ ρ → List (Write σ κ ρ) → ρ × σ → Prop
  | switch {txn : Txn σ κ ρ} {pending : List (Write σ κ ρ)} :
    FreeSplit before after txn pending (solo txn pending after)
  | select {next : σ → Txn σ κ ρ} {pending : List (Write σ κ ρ)} {out : ρ × σ} :
    FreeSplit before after (next (visible pending before)) pending out →
    FreeSplit before after (.select next) pending out
  | write {w : Write σ κ ρ} {next : Txn σ κ ρ} {pending : List (Write σ κ ρ)}
      {out : ρ × σ} {db : σ} :
    w.lock = none → w.stmt (visible pending before) = .ok db →
    FreeSplit before after next (pending ++ [w]) out →
    FreeSplit before after (.write w next) pending out

/-- What a session sees next after `x`, when `after` is what another one commits. -/
def Onward (after x y : σ) : Prop := y = x ∨ y = after

namespace Onward

variable {after x y z : σ}

theorem refl (after x : σ) : Onward after x x := .inl rfl

theorem last (after x : σ) : Onward after x after := .inr rfl

theorem trans (first : Onward after x y) (second : Onward after y z) : Onward after x z := by
  rcases second with rfl | rfl
  · exact first
  · exact .inr rfl

/-- What the other session leaves alone stays the same. -/
theorem agree {α : Type*} {f : σ → α} (onward : Onward after x y) (fixed : f after = f x) :
    f y = f x := by
  rcases onward with rfl | rfl
  · rfl
  · exact fixed

end Onward

section Split

variable {before after : σ} {next : σ → Txn σ κ ρ} {txn : Txn σ κ ρ} {w : Write σ κ ρ}
  {pending : List (Write σ κ ρ)} {out : ρ × σ} {result : ρ}

theorem Split.of_select (split : Split before after (.select next) pending out) :
    ∃ x, Onward after before x ∧ Split x after (next (visible pending x)) pending out := by
  cases split with
  | switch => exact ⟨after, .last _ _, .switch⟩
  | select rest => exact ⟨before, .refl _ _, rest⟩

theorem Split.of_rollback (split : Split before after (.rollback result) pending out) :
    out = (result, rolledBack pending after) := by
  cases split
  rfl

theorem Split.of_commit (split : Split before after (.commit result) pending out) :
    out = (result, visible pending after) := by
  cases split
  rfl

theorem Split.of_write {db : σ} (split : Split before after (.write w txn) pending out)
    (accepted : w.stmt (visible pending after) = .ok db) :
    ∃ x, Onward after before x ∧ Split x after txn (pending ++ [w]) out := by
  cases split with
  | switch =>
      refine ⟨after, .last _ _, ?_⟩
      simp only [solo, accepted]
      exact .switch
  | write _ rest => exact ⟨before, .refl _ _, rest⟩

/-- Reading one state throughout is running alone. -/
theorem Split.eq_solo {db : σ} (split : Split db db txn pending out) :
    out = solo txn pending db := by
  induction split with
  | switch => rfl
  | select _ ih => exact ih
  | write accepted _ ih => simpa only [solo, accepted] using ih

theorem FreeSplit.split (free : FreeSplit before after txn pending out) :
    Split before after txn pending out := by
  induction free with
  | switch => exact .switch
  | select _ ih => exact .select ih
  | write _ accepted _ ih => exact .write accepted ih

end Split

/-! ### A statement that raises -/

section Faulty

variable {drawn : Bool} {txn : Txn σ κ ρ} {pending : List (Write σ κ ρ)} {db db' : σ} {result : ρ}

/-- Without the exception the transaction has run alone. -/
theorem faulty_some : ∀ {n : Nat} {pending : List (Write σ κ ρ)},
    faulty drawn n txn pending db = (some result, db') → solo txn pending db = (result, db') := by
  induction txn with
  | select next ih =>
      intro n pending ran
      cases n with
      | zero => cases ran
      | succ n => exact ih _ ran
  | write w next ih =>
      intro n pending ran
      cases n with
      | zero => cases ran
      | succ n =>
          simp only [faulty, solo] at ran ⊢
          split at ran
          · exact ih ran
          · cases ran
            rfl
  | commit r =>
      intro n pending ran
      cases n with
      | zero => cases ran
      | succ n =>
          cases ran
          rfl
  | rollback r =>
      intro n pending ran
      cases n <;> cases ran <;> rfl

variable {R : σ → σ → Prop} (refl : ∀ db, R db db)
  (trans : ∀ {db db' db'' : σ}, R db db' → R db' db'' → R db db'')

include refl trans

/-- A rollback changes no more than the writes it undoes leave behind. -/
theorem rolledBack_rel (each : ∀ w ∈ pending, ∀ db, R db (w.residue db)) :
    R db (rolledBack pending db) :=
  List.foldlRecOn pending _ (refl db) fun _ before w member => trans before (each w member _)

/-- A commit changes no more than its writes do. -/
theorem visible_rel (each : ∀ w ∈ pending, ∀ db, R db (w.apply db)) : R db (visible pending db) :=
  List.foldlRecOn pending _ (refl db) fun _ before w member => trans before (each w member _)

/-- With the exception nothing has changed but what the writes leave behind. -/
theorem faulty_none : ∀ {n : Nat} {pending : List (Write σ κ ρ)},
    faulty drawn n txn pending db = (none, db') →
    txn.EachWrite (fun w => ∀ db, R db (w.residue db)) →
    (∀ w ∈ pending, ∀ db, R db (w.residue db)) → R db db' := by
  induction txn with
  | select next ih =>
      intro n pending ran writes each
      cases n with
      | zero =>
          cases ran
          exact rolledBack_rel refl trans each
      | succ n => exact ih _ ran (writes _) each
  | write w next ih =>
      intro n pending ran writes each
      cases n with
      | zero =>
          cases ran
          refine rolledBack_rel refl trans ?_
          split
          · exact each_concat each writes.1
          · exact each
      | succ n =>
          simp only [faulty] at ran
          split at ran
          · exact ih ran writes.2 (each_concat each writes.1)
          · cases ran
  | commit r =>
      intro n pending ran writes each
      cases n with
      | zero =>
          cases ran
          exact rolledBack_rel refl trans each
      | succ n => cases ran
  | rollback r =>
      intro n pending ran writes each
      cases n <;> cases ran

end Faulty

end Txn

/-! ## Sessions -/

/-- A session: a transaction under way with its pending writes, or its result. -/
inductive Session (σ : Type u) (κ : Type v) (ρ : Type w)
  | running (txn : Txn σ κ ρ) (pending : List (Write σ κ ρ))
  | finished (result : ρ)

namespace Session

/-- The locks a session holds until it ends. -/
def locks : Session σ κ ρ → List κ
  | .running _ pending => pending.filterMap Write.lock
  | .finished _ => []

/-- The lock the next statement needs. -/
def wants : Session σ κ ρ → Option κ
  | .running (.write w _) _ => w.lock
  | _ => none

/-- The next statement against the committed database `db`: the session and the
committed database after it. -/
def step (db : σ) : Session σ κ ρ → Option (Session σ κ ρ × σ)
  | .running (.select next) pending => some (.running (next (visible pending db)) pending, db)
  | .running (.write w next) pending =>
      match w.stmt (visible pending db) with
      | .ok _ => some (.running next (pending ++ [w]), db)
      | .error result => some (.finished result, rolledBack (pending ++ [w]) db)
  | .running (.commit result) pending => some (.finished result, visible pending db)
  | .running (.rollback result) pending => some (.finished result, rolledBack pending db)
  | .finished _ => none

/-- What the session has ended with. -/
def result? : Session σ κ ρ → Option ρ
  | .running _ _ => none
  | .finished result => some result

theorem result?_eq_some {t : Session σ κ ρ} {result : ρ} :
    t.result? = some result ↔ t = .finished result := by
  cases t <;> simp [result?]

/-- Every write of the session, pending or to come, satisfies `P`. -/
def EachWrite (P : Write σ κ ρ → Prop) : Session σ κ ρ → Prop
  | .running txn pending => txn.EachWrite P ∧ ∀ w ∈ pending, P w
  | .finished _ => True

section

variable {R : σ → σ → Prop} (refl : ∀ db, R db db)
  (trans : ∀ {db db' db'' : σ}, R db db' → R db' db'' → R db db'')

include refl trans

/-- One statement takes the committed database along `R`, if each write does. -/
theorem step_rel {t t' : Session σ κ ρ} {db db' : σ} (each : t.EachWrite (Write.Within R))
    (stepped : t.step db = some (t', db')) : t'.EachWrite (Write.Within R) ∧ R db db' := by
  cases t with
  | finished result => cases stepped
  | running txn pending =>
      rcases each with ⟨later, sent⟩
      cases txn with
      | select next =>
          cases stepped
          exact ⟨⟨later _, sent⟩, refl db⟩
      | write w next =>
          simp only [step] at stepped
          split at stepped
          · cases stepped
            exact ⟨⟨later.2, each_concat sent later.1⟩, refl db⟩
          · cases stepped
            exact ⟨trivial, Txn.rolledBack_rel refl trans fun w' member db =>
              (each_concat sent later.1 w' member db).2⟩
      | commit result =>
          cases stepped
          exact ⟨trivial, Txn.visible_rel refl trans fun w' member db => (sent w' member db).1⟩
      | rollback result =>
          cases stepped
          exact ⟨trivial, Txn.rolledBack_rel refl trans fun w' member db => (sent w' member db).2⟩

end

end Session

/-! ## Interleavings -/

/-- The committed database and the sessions connected to it. -/
structure System (ι : Type x) (σ : Type u) (κ : Type v) (ρ : Type w) where
  db : σ
  session : ι → Session σ κ ρ

namespace System

variable {ι : Type x} [Fintype ι] [DecidableEq ι] [DecidableEq κ]

/-- Session `i` waits for a lock another session holds. -/
def Blocked (s : System ι σ κ ρ) (i : ι) : Prop :=
  ∃ j, j ≠ i ∧ ∃ k ∈ (s.session j).locks, (s.session i).wants = some k

instance (s : System ι σ κ ρ) (i : ι) : Decidable (s.Blocked i) :=
  inferInstanceAs (Decidable (∃ j, j ≠ i ∧ ∃ k ∈ (s.session j).locks, (s.session i).wants = some k))

/-- Session `i` sends its next statement. -/
def step (s : System ι σ κ ρ) (i : ι) : Option (System ι σ κ ρ) :=
  if s.Blocked i then none
  else ((s.session i).step s.db).map fun out => ⟨out.2, Function.update s.session i out.1⟩

/-- Play a schedule. -/
def run (s : System ι σ κ ρ) : List ι → Option (System ι σ κ ρ)
  | [] => some s
  | i :: schedule => (s.step i).bind fun s' => run s' schedule

/-- Every session has its result. -/
def Finished (s : System ι σ κ ρ) : Prop :=
  ∀ i, ∃ result, s.session i = .finished result

instance (t : Session σ κ ρ) : Decidable (∃ result, t = .finished result) :=
  match t with
  | .running _ _ => isFalse (by simp)
  | .finished result => isTrue ⟨result, rfl⟩

instance (s : System ι σ κ ρ) : Decidable s.Finished :=
  inferInstanceAs (Decidable (∀ i, ∃ result, s.session i = .finished result))

/-- All sessions at their first statement. -/
def start (db : σ) (txn : ι → Txn σ κ ρ) : System ι σ κ ρ :=
  ⟨db, fun i => .running (txn i) []⟩

theorem step_eq_some {s s' : System ι σ κ ρ} {i : ι} :
    s.step i = some s' ↔ ¬ s.Blocked i ∧ ∃ t db, (s.session i).step s.db = some (t, db) ∧
      s' = ⟨db, Function.update s.session i t⟩ := by
  unfold step
  split
  · next blocked => simp [blocked]
  · next free =>
      rw [Option.map_eq_some_iff]
      simp [free, eq_comm]

theorem run_cons {s s' : System ι σ κ ρ} {i : ι} {schedule : List ι} :
    s.run (i :: schedule) = some s' ↔
      ∃ middle, s.step i = some middle ∧ middle.run schedule = some s' :=
  Option.bind_eq_some_iff

theorem run_append {s middle s' : System ι σ κ ρ} {first second : List ι}
    (left : s.run first = some middle) (right : middle.run second = some s') :
    s.run (first ++ second) = some s' := by
  induction first generalizing s with
  | nil =>
      cases left
      exact right
  | cons i first ih =>
      obtain ⟨next, head, tail⟩ := run_cons.mp left
      exact run_cons.mpr ⟨next, head, ih tail⟩

/-- The session that sends its statement. -/
theorem step_self {s s' : System ι σ κ ρ} {i : ι} {t : Session σ κ ρ} {db : σ}
    (moved : s.step i = some s') (stepped : (s.session i).step s.db = some (t, db)) :
    s'.session i = t ∧ s'.db = db := by
  obtain ⟨_, t', db', stepped', rfl⟩ := step_eq_some.mp moved
  rw [stepped] at stepped'
  cases stepped'
  exact ⟨Function.update_self .., rfl⟩

/-- The sessions that do not. -/
theorem step_other {s s' : System ι σ κ ρ} {i j : ι} (moved : s.step i = some s')
    (other : j ≠ i) : s'.session j = s.session j := by
  obtain ⟨_, t, db, _, rfl⟩ := step_eq_some.mp moved
  exact Function.update_of_ne other ..

section Turn

variable {s s' : System ι σ κ ρ} {i : ι} {schedule : List ι} {next : σ → Txn σ κ ρ}
  {pending : List (Write σ κ ρ)} {result result' : ρ}

/-- A session that has moved on had a first turn. -/
theorem exists_turn (ran : s.run schedule = some s') (moved : s'.session i ≠ s.session i) :
    ∃ first rest before middle, schedule = first ++ i :: rest ∧ i ∉ first ∧
      s.run first = some before ∧ before.step i = some middle ∧
      (s.session i).step before.db = some (middle.session i, middle.db) ∧
      middle.run rest = some s' := by
  induction schedule generalizing s with
  | nil =>
      cases ran
      exact (moved rfl).elim
  | cons j schedule ih =>
      obtain ⟨middle, head, tail⟩ := run_cons.mp ran
      by_cases same : i = j
      · subst same
        obtain ⟨_, t, db, stepped, _⟩ := step_eq_some.mp head
        obtain ⟨rfl, rfl⟩ := step_self head stepped
        exact ⟨[], schedule, s, middle, rfl, List.not_mem_nil, rfl, head, stepped, tail⟩
      · have still := step_other head same
        obtain ⟨first, rest, before, after, rfl, silent, ran, turn, stepped, last⟩ :=
          ih tail (still ▸ moved)
        rw [still] at stepped
        refine ⟨j :: first, rest, before, after, rfl, ?_, run_cons.mpr ⟨middle, head, ran⟩, turn,
          stepped, last⟩
        exact fun member => (List.mem_cons.mp member).elim same silent

/-- A session that has its result keeps it. -/
theorem run_finished (done : s.session i = .finished result) (ran : s.run schedule = some s') :
    s'.session i = .finished result := by
  by_contra moved
  obtain ⟨_, _, before, middle, _, _, _, _, stepped, _⟩ := exists_turn ran (done ▸ moved)
  rw [done] at stepped
  cases stepped

/-- A session at a query goes on with what is committed at its next turn. -/
theorem run_select (here : s.session i = .running (.select next) pending)
    (ran : s.run schedule = some s') (done : s'.session i = .finished result) :
    ∃ first rest before middle, schedule = first ++ i :: rest ∧ i ∉ first ∧
      s.run first = some before ∧ before.step i = some middle ∧
      middle.session i = .running (next (visible pending before.db)) pending ∧
      middle.run rest = some s' := by
  obtain ⟨first, rest, before, middle, split, silent, ran, turn, stepped, last⟩ :=
    exists_turn ran (by rw [here, done]; exact nofun)
  rw [here] at stepped
  have goesOn := (Prod.mk.inj (Option.some.inj stepped)).1
  exact ⟨first, rest, before, middle, split, silent, ran, turn, goesOn.symm, last⟩

/-- A session that has only to close ends with the result that it has. -/
theorem run_rollback (here : s.session i = .running (.rollback result) pending)
    (ran : s.run schedule = some s') (done : s'.session i = .finished result') :
    result' = result := by
  obtain ⟨_, _, before, middle, _, _, _, _, stepped, last⟩ :=
    exists_turn ran (by rw [here, done]; exact nofun)
  rw [here] at stepped
  have ended := (Prod.mk.inj (Option.some.inj stepped)).1
  exact Session.finished.inj (done.symm.trans (run_finished ended.symm last))

/-- Session `i` has its first turn of the schedule in `before` and its second one in `after`. -/
def Turns (s : System ι σ κ ρ) (i : ι) (schedule : List ι) (before after : System ι σ κ ρ) :
    Prop :=
  ∃ first second rest, schedule = first ++ i :: (second ++ i :: rest) ∧ i ∉ first ∧ i ∉ second ∧
    s.run first = some before ∧ before.run (i :: second) = some after

omit [Fintype ι] in
/-- There is one way to split a schedule at the first turn of a session. -/
theorem split_at_turn {first first' rest rest' : List ι} (silent : i ∉ first) (quiet : i ∉ first')
    (same : first ++ i :: rest = first' ++ i :: rest') : first = first' ∧ rest = rest' := by
  have length : first.length = first'.length := by
    have index := congrArg (List.idxOf i) same
    rwa [List.idxOf_append_of_notMem silent, List.idxOf_append_of_notMem quiet,
      List.idxOf_cons_self, List.idxOf_cons_self] at index
  obtain ⟨before, after⟩ := List.append_inj same length
  exact ⟨before, (List.cons.inj after).2⟩

/-- The schedule determines the two states. -/
theorem Turns.unique {before before' after after' : System ι σ κ ρ}
    (turns : s.Turns i schedule before after) (turns' : s.Turns i schedule before' after') :
    before' = before ∧ after' = after := by
  obtain ⟨first, second, rest, rfl, silent, silent', ran, ran'⟩ := turns
  obtain ⟨first', second', rest', same, quiet, quiet', played, played'⟩ := turns'
  obtain ⟨rfl, tail⟩ := split_at_turn silent quiet same
  obtain ⟨rfl, _⟩ := split_at_turn silent' quiet' tail
  cases ran.symm.trans played
  exact ⟨rfl, Option.some.inj (played'.symm.trans ran')⟩

end Turn

/-- A whole run takes the committed database along `R`, if each write does. -/
theorem run_rel {R : σ → σ → Prop} (refl : ∀ db, R db db)
    (trans : ∀ {db db' db'' : σ}, R db db' → R db' db'' → R db db'')
    {s s' : System ι σ κ ρ} {schedule : List ι}
    (each : ∀ i, (s.session i).EachWrite (Write.Within R)) (ran : s.run schedule = some s') :
    (∀ i, (s'.session i).EachWrite (Write.Within R)) ∧ R s.db s'.db := by
  induction schedule generalizing s with
  | nil =>
      cases ran
      exact ⟨each, refl _⟩
  | cons j schedule ih =>
      obtain ⟨middle, moved, rest⟩ := run_cons.mp ran
      obtain ⟨_, t, db, stepped, rfl⟩ := step_eq_some.mp moved
      obtain ⟨still, rel⟩ := Session.step_rel refl trans (each j) stepped
      have each' : ∀ i, (Function.update s.session j t i).EachWrite (Write.Within R) := by
        intro i
        by_cases turn : i = j
        · subst turn
          rwa [Function.update_self]
        · rw [Function.update_of_ne turn]
          exact each i
      exact (ih each' rest).imp id (trans rel)

/-- Nothing moves once every session has its result. -/
theorem eq_of_finished_run {s s' : System ι σ κ ρ} {schedule : List ι} (finished : s.Finished)
    (ran : s.run schedule = some s') : s' = s := by
  cases schedule with
  | nil => exact (Option.some.inj ran).symm
  | cons i schedule =>
      obtain ⟨_, moved, _⟩ := run_cons.mp ran
      obtain ⟨_, t, db, step, _⟩ := step_eq_some.mp moved
      obtain ⟨result, done⟩ := finished i
      rw [done] at step
      cases step

end System

/-! ## Two sessions -/

namespace System

variable [DecidableEq κ] {s s' : System Bool σ κ ρ} {i : Bool}

/-- Session `i` is at `txn` with these pending writes. -/
def At (s : System Bool σ κ ρ) (i : Bool) (txn : Txn σ κ ρ) (pending : List (Write σ κ ρ)) :
    Prop :=
  s.session i = .running txn pending

/-- Session `i` ended with this result. -/
def Done (s : System Bool σ κ ρ) (i : Bool) (result : ρ) : Prop :=
  s.session i = .finished result

omit [DecidableEq κ] in
theorem finished_of_done {r r' : ρ} (left : s.Done i r) (right : s.Done (!i) r') :
    s.Finished := by
  intro j
  by_cases same : j = i
  · exact ⟨r, same ▸ left⟩
  · exact ⟨r', (Bool.eq_not.mpr same) ▸ right⟩

/-- A statement of one session changes that session and the database, no more. -/
theorem moves {t : Session σ κ ρ} {db : σ} (moved : s.step i = some s')
    (step : (s.session i).step s.db = some (t, db)) :
    s'.session i = t ∧ s'.session (!i) = s.session (!i) ∧ s'.db = db :=
  have ⟨self, last⟩ := step_self moved step
  ⟨self, step_other moved (Bool.not_ne_self i), last⟩

/-- What the next statement of a running session does. -/
inductive Move (s s' : System Bool σ κ ρ) (i : Bool) :
    Txn σ κ ρ → List (Write σ κ ρ) → Prop
  | select {next : σ → Txn σ κ ρ} {pending : List (Write σ κ ρ)} :
    s'.At i (next (visible pending s.db)) pending → s'.db = s.db →
    Move s s' i (.select next) pending
  | write {w : Write σ κ ρ} {next : Txn σ κ ρ} {pending : List (Write σ κ ρ)} {db : σ} :
    w.stmt (visible pending s.db) = .ok db → s'.At i next (pending ++ [w]) → s'.db = s.db →
    Move s s' i (.write w next) pending
  | last {txn : Txn σ κ ρ} {pending : List (Write σ κ ρ)} :
    s'.Done i (txn.solo pending s.db).1 → s'.db = (txn.solo pending s.db).2 →
    Move s s' i txn pending

theorem At.move {txn : Txn σ κ ρ} {pending : List (Write σ κ ρ)} (here : s.At i txn pending)
    (moved : s.step i = some s') :
    Move s s' i txn pending ∧ s'.session (!i) = s.session (!i) := by
  have run : ∀ t db, (Session.running txn pending).step s.db = some (t, db) →
      s'.session i = t ∧ s'.session (!i) = s.session (!i) ∧ s'.db = db :=
    fun _ _ step => moves moved ((congrArg _ here).trans step)
  cases txn with
  | select next =>
      obtain ⟨at', other, db⟩ := run _ _ rfl
      exact ⟨.select at' db, other⟩
  | write w next =>
      cases outcome : w.stmt (visible pending s.db) with
      | ok db' =>
          obtain ⟨at', other, db⟩ := run (.running next (pending ++ [w])) s.db
            (by simp only [Session.step, outcome])
          exact ⟨.write outcome at' db, other⟩
      | error r =>
          obtain ⟨done, other, db⟩ := run (.finished r) (rolledBack (pending ++ [w]) s.db)
            (by simp only [Session.step, outcome])
          refine ⟨.last ?_ ?_, other⟩ <;> simp only [Txn.solo, outcome]
          · exact done
          · exact db
  | commit r =>
      obtain ⟨done, other, db⟩ := run _ _ rfl
      exact ⟨.last done db, other⟩
  | rollback r =>
      obtain ⟨done, other, db⟩ := run _ _ rfl
      exact ⟨.last done db, other⟩

theorem Done.not_step {r : ρ} (done : s.Done i r) : s.step i ≠ some s' := by
  intro moved
  obtain ⟨_, t, db, step, _⟩ := step_eq_some.mp moved
  rw [done] at step
  cases step

/-- With the other session finished, what is left of a schedule runs the transaction
alone. -/
theorem solo_of_run {schedule : List Bool} {result : ρ} :
    ∀ {s : System Bool σ κ ρ} {txn : Txn σ κ ρ} {pending : List (Write σ κ ρ)},
    s.Done i result → s.At (!i) txn pending → s.run schedule = some s' → s'.Finished →
    s'.Done i result ∧ s'.Done (!i) (txn.solo pending s.db).1 ∧
      s'.db = (txn.solo pending s.db).2 := by
  induction schedule with
  | nil =>
      intro s txn pending _ here ran finished
      cases ran
      obtain ⟨r, done⟩ := finished (!i)
      cases here.symm.trans done
  | cons j schedule ih =>
      intro s txn pending done here ran finished
      obtain ⟨middle, moved, rest⟩ := run_cons.mp ran
      have turn : j = !i := Bool.eq_not.mpr fun same => (same ▸ done).not_step moved
      subst turn
      obtain ⟨move, other⟩ := here.move moved
      rw [Bool.not_not] at other
      have done' : middle.Done i result := other.trans done
      cases move with
      | select here' db => simpa only [Txn.solo, db] using ih done' here' rest finished
      | write accepted here' db =>
          simpa only [Txn.solo, accepted, db] using ih done' here' rest finished
      | last ended db =>
          rw [eq_of_finished_run (finished_of_done done' ended) rest]
          exact ⟨done', ended, db⟩

/-- **Two sessions.**  However the statements of two sessions are interleaved, one of them
ends as if it ran alone from the start state, and the other reads that state up to some
statement and the first one's outcome from there on. -/
theorem split_of_run {schedule : List Bool} :
    ∀ {s : System Bool σ κ ρ} {txn : Bool → Txn σ κ ρ} {pending : Bool → List (Write σ κ ρ)},
    (∀ i, s.At i (txn i) (pending i)) → s.run schedule = some s' → s'.Finished →
    ∃ i out, s'.Done i ((txn i).solo (pending i) s.db).1 ∧ s'.Done (!i) out ∧
      (txn (!i)).Split s.db ((txn i).solo (pending i) s.db).2 (pending (!i)) (out, s'.db) := by
  induction schedule with
  | nil =>
      intro s txn pending here ran finished
      cases ran
      obtain ⟨r, done⟩ := finished true
      cases (here true).symm.trans done
  | cons j schedule ih =>
      intro s txn pending here ran finished
      obtain ⟨middle, moved, ran⟩ := run_cons.mp ran
      obtain ⟨move, other⟩ := (here j).move moved
      have otherHere : middle.At (!j) (txn (!j)) (pending (!j)) := other.trans (here (!j))
      -- While both sessions run, the database stays, and a split of what is left of session
      -- `j` extends to a split of all of it.
      have extend : ∀ {txn' pending'}, middle.At j txn' pending' → middle.db = s.db →
          (∀ after out, txn'.Split s.db after pending' out →
            (txn j).Split s.db after (pending j) out) →
          txn'.solo pending' s.db = (txn j).solo (pending j) s.db →
          ∃ i out, s'.Done i ((txn i).solo (pending i) s.db).1 ∧ s'.Done (!i) out ∧
            (txn (!i)).Split s.db ((txn i).solo (pending i) s.db).2 (pending (!i))
              (out, s'.db) := by
        intro txn' pending' here' db longer same
        have both : ∀ i, middle.At i (Function.update txn j txn' i)
            (Function.update pending j pending' i) := by
          intro i
          by_cases turn : i = j
          · subst turn
            simpa only [Function.update_self] using here'
          · rw [Function.update_of_ne turn, Function.update_of_ne turn]
            exact (Bool.eq_not.mpr turn) ▸ otherHere
        obtain ⟨i, out, first, second, split⟩ := ih both ran finished
        rw [db] at first split
        refine ⟨i, out, ?_, second, ?_⟩ <;> by_cases turn : i = j
        · subst turn
          simpa only [Function.update_self, same] using first
        · simpa only [Function.update_of_ne turn] using first
        · subst turn
          simpa only [Function.update_self, Function.update_of_ne (Bool.not_ne_self i), same]
            using split
        · have back : (!i) = j := by
            rw [Bool.eq_not.mpr turn, Bool.not_not]
          subst back
          rw [Function.update_self, Function.update_self, Function.update_of_ne turn,
            Function.update_of_ne turn] at split
          exact longer _ _ split
      generalize eq : txn j = current at move extend
      generalize eq' : pending j = writes at move extend
      cases move with
      | select here' db => exact extend here' db (fun _ _ => .select) rfl
      | write accepted here' db =>
          exact extend here' db (fun _ _ => .write accepted) (by simp only [Txn.solo, accepted])
      | last ended db =>
          subst eq eq'
          obtain ⟨first, second, out⟩ := solo_of_run ended otherHere ran finished
          refine ⟨j, _, first, second, ?_⟩
          rw [out, db]
          exact .switch

/-! ### Schedules that reach a split -/

/-- A session moves when the other one holds no lock. -/
theorem exists_step (t : Session σ κ ρ) (db : σ) (free : (s.session (!i)).locks = [])
    (step : (s.session i).step s.db = some (t, db)) :
    ∃ s', s.step i = some s' ∧ s'.session i = t ∧ s'.session (!i) = s.session (!i) ∧
      s'.db = db := by
  have open' : ¬ s.Blocked i := by
    intro blocked
    rcases blocked with ⟨j, other, k, held, _⟩
    rw [Bool.eq_not.mpr other, free] at held
    cases held
  have moved := step_eq_some.mpr ⟨open', t, db, step, rfl⟩
  exact ⟨_, moved, moves moved step⟩

/-- A session runs to its end when the other one holds no lock. -/
theorem exists_run_solo {txn : Txn σ κ ρ} :
    ∀ {s : System Bool σ κ ρ} {pending : List (Write σ κ ρ)},
    s.At i txn pending → (s.session (!i)).locks = [] →
    ∃ schedule s', s.run schedule = some s' ∧ s'.Done i (txn.solo pending s.db).1 ∧
      s'.session (!i) = s.session (!i) ∧ s'.db = (txn.solo pending s.db).2 := by
  -- One statement, then the rest of the schedule.
  have cons : ∀ {s middle : System Bool σ κ ρ} (out : ρ × σ), s.step i = some middle →
      middle.session (!i) = s.session (!i) →
      (∃ schedule s', middle.run schedule = some s' ∧ s'.Done i out.1 ∧
        s'.session (!i) = middle.session (!i) ∧ s'.db = out.2) →
      ∃ schedule s', s.run schedule = some s' ∧ s'.Done i out.1 ∧
        s'.session (!i) = s.session (!i) ∧ s'.db = out.2 := by
    intro s middle out moved other rest
    rcases rest with ⟨schedule, s', ran, done, other', db⟩
    exact ⟨i :: schedule, s', run_cons.mpr ⟨middle, moved, ran⟩, done, other'.trans other, db⟩
  induction txn with
  | select next ih =>
      intro s pending here free
      obtain ⟨middle, moved, here', other, db⟩ :=
        exists_step _ _ free ((congrArg _ here).trans rfl)
      have rest := ih _ here' (other ▸ free)
      rw [db] at rest
      exact cons _ moved other rest
  | write w next ih =>
      intro s pending here free
      cases outcome : w.stmt (visible pending s.db) with
      | ok db' =>
          obtain ⟨middle, moved, here', other, db⟩ :=
            exists_step (.running next (pending ++ [w])) s.db free
              ((congrArg _ here).trans (by simp only [Session.step, outcome]))
          have rest := ih here' (other ▸ free)
          rw [db] at rest
          simpa only [Txn.solo, outcome] using cons _ moved other rest
      | error r =>
          obtain ⟨middle, moved, done, other, db⟩ :=
            exists_step (.finished r) (rolledBack (pending ++ [w]) s.db) free
              ((congrArg _ here).trans (by simp only [Session.step, outcome]))
          simp only [Txn.solo, outcome]
          exact cons (r, rolledBack (pending ++ [w]) s.db) moved other
            ⟨[], middle, rfl, done, rfl, db⟩
  | commit r =>
      intro s pending here free
      obtain ⟨middle, moved, done, other, db⟩ :=
        exists_step _ _ free ((congrArg _ here).trans rfl)
      exact cons _ moved other ⟨[], middle, rfl, done, rfl, db⟩
  | rollback r =>
      intro s pending here free
      obtain ⟨middle, moved, done, other, db⟩ :=
        exists_step _ _ free ((congrArg _ here).trans rfl)
      exact cons _ moved other ⟨[], middle, rfl, done, rfl, db⟩

/-- Every split among the leading statements that take no lock is the outcome of a
schedule: the split session goes that far, the other session runs to its end, the split
session goes on. -/
theorem run_of_freeSplit {txn other : Txn σ κ ρ} {before after : σ} {out : ρ × σ}
    {pending : List (Write σ κ ρ)} (split : other.FreeSplit before after pending out) :
    ∀ {s : System Bool σ κ ρ}, s.At i txn [] → s.At (!i) other pending →
    (∀ w ∈ pending, w.lock = none) → s.db = before → (txn.solo [] before).2 = after →
    ∃ schedule s', s.run schedule = some s' ∧ s'.Done i (txn.solo [] before).1 ∧
      s'.Done (!i) out.1 ∧ s'.db = out.2 := by
  induction split with
  | @switch other pending =>
      intro s here there free began ended
      subst began ended
      have noLocks : (s.session (!i)).locks = [] := by
        rw [there, Session.locks, List.filterMap_eq_nil_iff]
        exact free
      obtain ⟨first, middle, ran, done, same, db⟩ := exists_run_solo here noLocks
      have there' : middle.At (!i) other pending := same.trans there
      obtain ⟨second, s', ran', done', same', db'⟩ :=
        exists_run_solo there' (by rw [Bool.not_not, done]; rfl)
      rw [db] at done' db'
      rw [Bool.not_not] at same'
      exact ⟨first ++ second, s', run_append ran ran', same'.trans done, done', db'⟩
  | select _ ih =>
      intro s here there free began after
      subst began
      obtain ⟨middle, moved, there', same, db⟩ :=
        exists_step (i := !i) _ _ (by rw [Bool.not_not, here]; rfl) ((congrArg _ there).trans rfl)
      rw [Bool.not_not] at same
      obtain ⟨schedule, s', ran, rest⟩ := ih (same.trans here) there' free db after
      exact ⟨(!i) :: schedule, s', run_cons.mpr ⟨middle, moved, ran⟩, rest⟩
  | @write w next pending out db unlocked accepted _ ih =>
      intro s here there free began after
      subst began
      obtain ⟨middle, moved, there', same, db⟩ :=
        exists_step (i := !i) (.running next (pending ++ [w])) s.db
          (by rw [Bool.not_not, here]; rfl)
          ((congrArg _ there).trans (by simp only [Session.step, accepted]))
      rw [Bool.not_not] at same
      obtain ⟨schedule, s', ran, rest⟩ :=
        ih (same.trans here) there' (each_concat free unlocked) db after
      exact ⟨(!i) :: schedule, s', run_cons.mpr ⟨middle, moved, ran⟩, rest⟩

/-! ### From the first statement -/

variable {db after final : σ} {txn : Bool → Txn σ κ ρ} {out out' : ρ} {schedule : List Bool}

/-- One session runs alone, the other reads before and after it. -/
theorem split_of_start (ran : (start db txn).run schedule = some s) (finished : s.Finished) :
    ∃ i out after, (txn i).solo [] db = (out, after) ∧ s.Done i out ∧
      ∃ out', s.Done (!i) out' ∧ (txn (!i)).Split db after [] (out', s.db) := by
  have here : ∀ i, (start db txn).At i (txn i) [] := fun _ => rfl
  obtain ⟨i, out', first, second, split⟩ := split_of_run here ran finished
  exact ⟨i, _, _, rfl, first, out', second, split⟩

/-- A schedule lets one session go as far as it takes no lock, the other one run to its end,
and the first one finish. -/
theorem run_of_start (txn : Bool → Txn σ κ ρ) (solo : (txn i).solo [] db = (out, after))
    (free : (txn (!i)).FreeSplit db after [] (out', final)) :
    ∃ schedule s, (start db txn).run schedule = some s ∧ s.Finished ∧ s.Done i out ∧
      s.Done (!i) out' ∧ s.db = final := by
  obtain ⟨schedule, s, ran, first, second, last⟩ :=
    run_of_freeSplit free (s := start db txn) (i := i) rfl rfl
      (fun _ member => (List.not_mem_nil member).elim) rfl (congrArg Prod.snd solo)
  rw [solo] at first
  exact ⟨schedule, s, ran, finished_of_done first second, first, second, last⟩

end System

end ReadCommitted
