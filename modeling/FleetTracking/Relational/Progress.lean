import FleetTracking.Relational.Locking
import Mathlib.Algebra.BigOperators.Group.Finset.Basic

/-!
# Progress

`Txn.Polite shared` is a habit that rules deadlocks out: rows that satisfy `shared` are locked
for key share only, and once a write has locked another row, all later ones lock shared rows
only.  A session that others wait for then waits for nobody.  With a bound on the statements
(`Txn.Lasts`) every run is finite and can be completed: `System.finishes`.
-/

namespace ReadCommitted

universe u v w x

variable {σ : Type u} {κ : Type v} {ρ : Type w} {ι : Type x} {shared : κ → Prop}

/-! ## Transactions -/

/-- Shared rows are locked for key share only. -/
def Shares (shared : κ → Prop) (locks : Locks κ) : Prop :=
  ∀ lock ∈ locks, shared lock.1 → lock.2 = .keyShare

/-- The write locks nothing but shared rows, for key share. -/
def Write.OnlyShares (shared : κ → Prop) (w : Write σ (Locks κ) ρ) : Prop :=
  Shares shared w.locks ∧ ∀ lock ∈ w.locks, shared lock.1

/-- The transaction locks shared rows for key share only, and others by one write at most. -/
def Txn.Polite (shared : κ → Prop) : Txn σ (Locks κ) ρ → Prop
  | .select next => ∀ db, Polite shared (next db)
  | .write w next => Shares shared w.locks ∧
      ((∀ lock ∈ w.locks, shared lock.1) ∧ Polite shared next ∨
        next.EachWrite (Write.OnlyShares shared))
  | .commit _ | .rollback _ => True

/-- The transaction sends at most `n` more statements, the last one included. -/
def Txn.Lasts : Nat → Txn σ κ ρ → Prop
  | 0, _ => False
  | n + 1, .select next => ∀ db, Lasts n (next db)
  | n + 1, .write _ next => Lasts n next
  | _ + 1, .commit _ | _ + 1, .rollback _ => True

namespace Session

/-- What the session has sent is polite, and what is left of it locks shared rows only or is polite
after writes that did. -/
def Polite (shared : κ → Prop) : Session σ (Locks κ) ρ → Prop
  | .running txn pending => (∀ w ∈ pending, Shares shared w.locks) ∧
      (txn.EachWrite (Write.OnlyShares shared) ∨
        txn.Polite shared ∧ ∀ w ∈ pending, ∀ lock ∈ w.locks, shared lock.1)
  | .finished _ => True

def Lasts (n : Nat) : Session σ κ ρ → Prop
  | .running txn _ => txn.Lasts n
  | .finished _ => True

end Session

namespace System

variable {s s' : System ι σ (Locks κ) ρ} {i j : ι} {n : ι → Nat} {schedule : List ι}

/-! ## No deadlock -/

/-- Locks that share what is shared clash over another row. -/
theorem exclusive_of_clash {held wanted : Locks κ} (holds : Shares shared held)
    (wants : Shares shared wanted) (clash : Clash held wanted) :
    (∃ lock ∈ held, ¬ shared lock.1) ∧ ∃ lock ∈ wanted, ¬ shared lock.1 := by
  obtain ⟨lock, here, lock', there, same, conflict⟩ := clash
  have exclusive : ¬ shared lock.1 := by
    intro share
    rw [holds lock here share, wants lock' there (same ▸ share)] at conflict
    cases conflict
  exact ⟨⟨lock, here, exclusive⟩, lock', there, same ▸ exclusive⟩

theorem shares_held {t : Session σ (Locks κ) ρ} (polite : t.Polite shared) :
    Shares shared t.held := by
  cases t with
  | finished result => exact fun _ holds => (List.not_mem_nil holds).elim
  | running txn pending =>
      intro lock holds
      obtain ⟨w, sent, own⟩ := List.mem_flatMap.mp holds
      exact polite.1 w sent lock own

theorem shares_wanted {t : Session σ (Locks κ) ρ} (polite : t.Polite shared) :
    Shares shared t.wanted := by
  cases t with
  | finished result => exact fun _ wants => (List.not_mem_nil wants).elim
  | running txn pending =>
      cases txn with
      | write w next =>
          rcases polite.2 with only | ⟨ahead, _⟩
          · exact only.1.1
          · exact ahead.1
      | select _ | commit _ | rollback _ => exact fun _ wants => (List.not_mem_nil wants).elim

/-- A polite session that has locked another row wants shared rows only. -/
theorem wants_shared {t : Session σ (Locks κ) ρ} (polite : t.Polite shared) {lock : κ × LockMode}
    (holds : lock ∈ t.held) (exclusive : ¬ shared lock.1) : ∀ lock ∈ t.wanted, shared lock.1 := by
  cases t with
  | finished result => exact (List.not_mem_nil holds).elim
  | running txn pending =>
      obtain ⟨w, sent, own⟩ := List.mem_flatMap.mp holds
      rcases polite.2 with only | ⟨_, others⟩
      · cases txn with
        | write w next => exact only.1.2
        | select _ | commit _ | rollback _ => exact fun _ wants => (List.not_mem_nil wants).elim
      · exact (exclusive (others w sent lock own)).elim

/-- A polite session that another one waits for does not wait. -/
theorem not_waits_of_clash (polite : ∀ j, (s.session j).Polite shared)
    (clash : Clash (s.session j).held (s.session i).wanted) : ¬ s.Waits j := by
  obtain ⟨⟨lock, holds, exclusive⟩, _⟩ :=
    exclusive_of_clash (shares_held (polite j)) (shares_wanted (polite i)) clash
  rintro ⟨k, _, clash⟩
  obtain ⟨_, lock', wants, exclusive'⟩ :=
    exclusive_of_clash (shares_held (polite k)) (shares_wanted (polite j)) clash
  exact exclusive' (wants_shared (polite j) holds exclusive lock' wants)

section

variable [Fintype ι] [DecidableEq ι] [DecidableEq κ]

/-- A session that need not wait goes on. -/
theorem exists_advance {txn : Txn σ (Locks κ) ρ} {pending : List (Write σ (Locks κ) ρ)}
    (here : s.session i = .running txn pending) (free : ¬ s.Waits i) :
    ∃ s', s.advance i = some s' := by
  have steps : ((s.session i).step s.db).isSome = true := by
    rw [here]
    cases txn with
    | write w next =>
        simp only [Session.step]
        cases w.stmt (visible pending s.db) <;> rfl
    | _ => rfl
  obtain ⟨out, stepped⟩ := Option.isSome_iff_exists.mp steps
  refine ⟨⟨out.2, Function.update s.session i out.1⟩, ?_⟩
  rw [advance, if_neg free, stepped]
  rfl

/-- **No deadlock.**  While a session is under way, one can go on. -/
theorem can_advance (polite : ∀ j, (s.session j).Polite shared) {txn : Txn σ (Locks κ) ρ}
    {pending : List (Write σ (Locks κ) ρ)} (here : s.session i = .running txn pending) :
    ∃ j s', s.advance j = some s' := by
  by_cases waits : s.Waits i
  · obtain ⟨j, _, clash⟩ := waits
    have free := not_waits_of_clash polite clash
    cases there : s.session j with
    | running txn pending => exact ⟨j, exists_advance there free⟩
    | finished result =>
        rw [there] at clash
        exact (not_clash_nil clash).elim
  · exact ⟨i, exists_advance here waits⟩

end

section

variable [DecidableEq ι]

/-- Politeness lasts. -/
theorem polite_turn (polite : ∀ j, (s.session j).Polite shared) (turn : Turn s s' i) (j : ι) :
    (s'.session j).Polite shared := by
  have update {t : Session σ (Locks κ) ρ} (moved : t.Polite shared) :
      (Function.update s.session i t j).Polite shared := by
    by_cases own : j = i
    · subst own
      rwa [Function.update_self]
    · rw [Function.update_of_ne own]
      exact polite j
  have before := polite i
  cases turn with
  | select here moved =>
      subst moved
      rw [here] at before
      obtain ⟨shares, only | ⟨ahead, others⟩⟩ := before
      · exact update ⟨shares, .inl (only _)⟩
      · exact update ⟨shares, .inr ⟨ahead _, others⟩⟩
  | write here accepted _ moved =>
      subst moved
      rw [here] at before
      obtain ⟨shares, only | ⟨⟨own, rest⟩, others⟩⟩ := before
      · exact update ⟨each_concat shares only.1.1, .inl only.2⟩
      · refine update ⟨each_concat shares own, ?_⟩
        rcases rest with ⟨share, ahead⟩ | only
        · exact .inr ⟨ahead, each_concat others share⟩
        · exact .inl only
  | refused _ _ moved => exact moved ▸ update trivial
  | commit _ moved => exact moved ▸ update trivial
  | rollback _ moved => exact moved ▸ update trivial

/-! ## Every run ends -/

/-- Session `i` has one statement less ahead of it. -/
theorem lasts_turn (lasts : ∀ j, (s.session j).Lasts (n j)) (turn : Turn s s' i) :
    ∃ m, n i = m + 1 ∧ ∀ j, (s'.session j).Lasts (Function.update n i m j) := by
  have update {t : Session σ (Locks κ) ρ} {m : Nat} (moved : t.Lasts m) (j : ι) :
      (Function.update s.session i t j).Lasts (Function.update n i m j) := by
    by_cases own : j = i
    · subst own
      rwa [Function.update_self, Function.update_self]
    · rw [Function.update_of_ne own, Function.update_of_ne own]
      exact lasts j
  have before := lasts i
  cases left : n i with
  | zero =>
      rw [left] at before
      cases turn with
      | select here | write here | refused here | commit here | rollback here =>
          rw [here] at before
          exact before.elim
  | succ m =>
      rw [left] at before
      refine ⟨m, rfl, ?_⟩
      cases turn with
      | select here moved =>
          rw [here] at before
          exact moved ▸ update (before _)
      | write here _ _ moved =>
          rw [here] at before
          exact moved ▸ update before
      | refused _ _ moved => exact moved ▸ update trivial
      | commit _ moved => exact moved ▸ update trivial
      | rollback _ moved => exact moved ▸ update trivial

variable [Fintype ι]

theorem sum_update {m : Nat} (own : n i = m + 1) :
    ∑ j, Function.update n i m j + 1 = ∑ j, n j := by
  have others : ∑ j ∈ Finset.univ.erase i, Function.update n i m j =
      ∑ j ∈ Finset.univ.erase i, n j :=
    Finset.sum_congr rfl fun j other => Function.update_of_ne (Finset.ne_of_mem_erase other) m n
  have before := Finset.add_sum_erase Finset.univ n (Finset.mem_univ i)
  have after := Finset.add_sum_erase Finset.univ (Function.update n i m) (Finset.mem_univ i)
  rw [others, Function.update_self] at after
  omega

variable [DecidableEq κ]

/-- **Bound.**  A run is as long as the transactions allow. -/
theorem play_length (lasts : ∀ j, (s.session j).Lasts (n j))
    (played : s.play schedule = some s') : ∃ n' : ι → Nat,
      (∀ j, (s'.session j).Lasts (n' j)) ∧ schedule.length + ∑ j, n' j = ∑ j, n j := by
  induction schedule generalizing s n with
  | nil =>
      cases played
      exact ⟨n, lasts, Nat.zero_add _⟩
  | cons i schedule ih =>
      obtain ⟨middle, moved, rest⟩ := play_cons.mp played
      obtain ⟨m, own, lasts'⟩ := lasts_turn lasts (turn_of_advance moved)
      obtain ⟨n', left, total⟩ := ih lasts' rest
      refine ⟨n', left, ?_⟩
      rw [← sum_update own, ← total, List.length_cons]
      omega

/-- **Completion.**  Polite sessions that last a while can all be brought to their ends. -/
theorem finishes (polite : ∀ j, (s.session j).Polite shared)
    (lasts : ∀ j, (s.session j).Lasts (n j)) :
    ∃ schedule s', s.play schedule = some s' ∧ s'.Finished := by
  induction total : ∑ j, n j generalizing s n with
  | zero =>
      refine ⟨[], s, rfl, fun i => ?_⟩
      have none : n i = 0 := Finset.sum_eq_zero_iff.mp total i (Finset.mem_univ i)
      have lasts := lasts i
      cases here : s.session i with
      | finished result => exact ⟨result, rfl⟩
      | running txn pending =>
          rw [here, none] at lasts
          exact lasts.elim
  | succ left ih =>
      by_cases ended : s.Finished
      · exact ⟨[], s, rfl, ended⟩
      · obtain ⟨i, under⟩ := not_forall.mp ended
        cases here : s.session i with
        | finished result => exact (under ⟨result, here⟩).elim
        | running txn pending =>
            obtain ⟨j, middle, moved⟩ := can_advance polite here
            have turn := turn_of_advance moved
            obtain ⟨m, own, lasts'⟩ := lasts_turn lasts turn
            have fewer : ∑ k, Function.update n j m k = left := by
              have := sum_update own
              omega
            obtain ⟨schedule, s', played, finished⟩ := ih (polite_turn polite turn) lasts' fewer
            exact ⟨j :: schedule, s', play_cons.mpr ⟨middle, moved, played⟩, finished⟩

end

end System

end ReadCommitted
