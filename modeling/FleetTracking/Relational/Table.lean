import Mathlib.Data.List.Sort
import Mathlib.Data.List.Pairwise
import Mathlib.Order.Basic

/-!
# Keyed tables

A `Table` lists its rows in primary key order and carries the proof that no key
occurs twice, so two tables with the same rows are equal.  A `Serial` table draws
its keys from a sequence that only counts up: every row's key lies below the
sequence, and a deleted key never comes back.

* `Table.get`, `Table.scalar`, `Table.count` are the queries, `Table.insertNew`,
  `Table.put`, `Table.erase` and `Serial.insert` the statements.
* `Table.UniqueOn` and `Table.RefersTo` are the constraints a schema states about
  nullable columns: no value twice, and every value names a row of another table.
  Each statement has one lemma saying when it keeps them.
-/

namespace Relational

universe u v w

/-- Rows of type `ρ` carry a primary key of type `κ`. -/
class Keyed (ρ : Type u) (κ : outParam (Type v)) where
  key : ρ → κ

open Keyed

/-- A table: its rows in primary key order, no key twice. -/
structure Table (ρ : Type u) {κ : Type v} [LinearOrder κ] [Keyed ρ κ] where
  rows : List ρ
  sorted : rows.Pairwise fun a b => key a < key b

namespace Table

variable {ρ : Type u} {κ : Type v} [LinearOrder κ] [Keyed ρ κ]

instance : Membership ρ (Table ρ) := ⟨fun t r => r ∈ t.rows⟩

/-- The table without rows. -/
def empty : Table ρ := ⟨[], .nil⟩

/-- The row with primary key `k`. -/
def get (t : Table ρ) (k : κ) : Option ρ :=
  t.rows.find? fun r => key r = k

/-- The first row, in primary key order, that satisfies `p`. -/
def scalar (t : Table ρ) (p : ρ → Bool) : Option ρ :=
  t.rows.find? p

/-- How many rows satisfy `p`. -/
def count (t : Table ρ) (p : ρ → Bool) : Nat :=
  t.rows.countP p

/-- Some row has the key `k`. -/
def HasKey (t : Table ρ) (k : κ) : Prop :=
  ∃ r ∈ t, key r = k

/-- Remove the row with key `k`. -/
def erase (t : Table ρ) (k : κ) : Table ρ :=
  ⟨t.rows.filter fun r => key r ≠ k, t.sorted.filter _⟩

/-- Overwrite the row that has `r`'s key with `r`. -/
def put (t : Table ρ) (r : ρ) : Table ρ :=
  ⟨t.rows.map fun s => if key s = key r then r else s, by
    rw [List.pairwise_map]
    refine t.sorted.imp fun {a b} before => ?_
    split <;> split <;> simp_all⟩

/-- No row but the one with key `k` satisfies `p`. -/
def noOther (t : Table ρ) (k : κ) (p : ρ → Bool) : Bool :=
  t.rows.all fun r => key r = k ∨ p r = false

variable {t : Table ρ} {r s : ρ} {k l : κ}

theorem mem_rows : r ∈ t.rows ↔ r ∈ t := Iff.rfl

@[simp] theorem not_mem_empty : r ∉ (empty : Table ρ) := List.not_mem_nil

/-- The primary key determines the row. -/
theorem eq_of_key (left : r ∈ t) (right : s ∈ t) (same : key r = key s) : r = s := by
  by_contra distinct
  have apart : t.rows.Pairwise fun a b => key a ≠ key b := t.sorted.imp fun before => before.ne
  have : Std.Symm fun a b : ρ => key a ≠ key b := ⟨fun _ _ => Ne.symm⟩
  exact apart.forall left right distinct same

theorem get_eq_some : t.get k = some r ↔ r ∈ t ∧ key r = k := by
  constructor
  · intro found
    exact ⟨List.mem_of_find?_eq_some found, by simpa using List.find?_some found⟩
  · intro here
    rcases here with ⟨member, rfl⟩
    cases found : t.get (key r) with
    | none =>
        have absent := List.find?_eq_none.mp found r member
        simp at absent
    | some s =>
        have same : key s = key r := by simpa using List.find?_some found
        rw [eq_of_key (List.mem_of_find?_eq_some found) member same]

theorem get_eq_none : t.get k = none ↔ ∀ r ∈ t, key r ≠ k := by
  simp [get, List.find?_eq_none, mem_rows]

theorem get_key (member : r ∈ t) : t.get (key r) = some r :=
  get_eq_some.mpr ⟨member, rfl⟩

theorem hasKey_iff_get : t.HasKey k ↔ (t.get k).isSome := by
  rw [Option.isSome_iff_exists]
  simp only [get_eq_some, HasKey]

instance : Decidable (t.HasKey k) := decidable_of_iff _ hasKey_iff_get.symm

theorem HasKey.of_get (found : t.get k = some r) : t.HasKey k :=
  ⟨r, get_eq_some.mp found⟩

/-- Tables that answer every key alike are equal. -/
theorem ext_get {t' : Table ρ} (same : ∀ k, t.get k = t'.get k) : t = t' := by
  have members : ∀ r, r ∈ t.rows ↔ r ∈ t'.rows := by
    intro r
    constructor
    · intro member
      have found := get_key (t := t) member
      rw [same] at found
      exact (get_eq_some.mp found).1
    · intro member
      have found := get_key (t := t') member
      rw [← same] at found
      exact (get_eq_some.mp found).1
  have noDup : ∀ {t : Table ρ}, t.rows.Nodup := fun {t} =>
    t.sorted.imp fun before same => before.ne (congrArg key same)
  have perm : t.rows.Perm t'.rows := (List.perm_ext_iff_of_nodup noDup noDup).mpr members
  have rows : t.rows = t'.rows :=
    perm.eq_of_pairwise (fun _ _ _ _ left right => (lt_asymm left right).elim)
      t.sorted t'.sorted
  cases t
  cases t'
  simpa using rows

theorem scalar_eq_none {p : ρ → Bool} : t.scalar p = none ↔ ∀ r ∈ t, p r = false := by
  simp [scalar, List.find?_eq_none, mem_rows]

theorem scalar_some {p : ρ → Bool} (found : t.scalar p = some r) : r ∈ t ∧ p r = true :=
  ⟨List.mem_of_find?_eq_some found, List.find?_some found⟩

/-- What no row was found to have, no row has. -/
theorem ne_of_scalar {κ : Type} [DecidableEq κ] {col : ρ → κ} {value : κ}
    (free : (t.scalar fun r => col r = value) = none) : ∀ r ∈ t, col r ≠ value :=
  fun r member => of_decide_eq_false (scalar_eq_none.mp free r member)

theorem count_eq_zero {p : ρ → Bool} : t.count p = 0 ↔ ∀ r ∈ t, p r = false := by
  simp [count, List.countP_eq_zero, mem_rows]

theorem noOther_iff {p : ρ → Bool} :
    t.noOther k p = true ↔ ∀ r ∈ t, p r = true → key r = k := by
  simp only [noOther, List.all_eq_true, decide_eq_true_eq, mem_rows]
  refine forall₂_congr fun r _ => ?_
  cases p r <;> simp

/-! ## Statements -/

@[simp] theorem mem_erase : s ∈ t.erase k ↔ s ∈ t ∧ key s ≠ k := by
  rw [← mem_rows, erase, List.mem_filter, mem_rows]
  simp

theorem get_erase : (t.erase k).get l = if l = k then none else t.get l := by
  split
  · next same =>
      subst same
      exact get_eq_none.mpr fun r member => (mem_erase.mp member).2
  · next other =>
      cases found : t.get l with
      | none =>
          rw [get_eq_none] at found ⊢
          exact fun r member => found r (mem_erase.mp member).1
      | some r =>
          rw [get_eq_some] at found ⊢
          exact ⟨mem_erase.mpr ⟨found.1, found.2 ▸ other⟩, found.2⟩

theorem mem_put : s ∈ t.put r ↔ (s ∈ t ∧ key s ≠ key r) ∨ (s = r ∧ t.HasKey (key r)) := by
  rw [← mem_rows, put, List.mem_map]
  constructor
  · intro image
    rcases image with ⟨a, member, rfl⟩
    by_cases same : key a = key r
    · exact .inr ⟨if_pos same, a, member, same⟩
    · rw [if_neg same]
      exact .inl ⟨member, same⟩
  · intro either
    rcases either with ⟨member, other⟩ | ⟨rfl, a, member, same⟩
    · exact ⟨s, member, if_neg other⟩
    · exact ⟨a, member, if_pos same⟩

theorem hasKey_put : (t.put r).HasKey k ↔ t.HasKey k := by
  constructor
  · intro present
    rcases present with ⟨s, member, rfl⟩
    rcases mem_put.mp member with ⟨old, _⟩ | ⟨rfl, old⟩
    · exact ⟨s, old, rfl⟩
    · exact old
  · intro present
    rcases present with ⟨s, member, rfl⟩
    by_cases same : key s = key r
    · exact ⟨r, mem_put.mpr (.inr ⟨rfl, s, member, same⟩), same.symm⟩
    · exact ⟨s, mem_put.mpr (.inl ⟨member, same⟩), rfl⟩

theorem get_put : (t.put r).get k = if k = key r ∧ t.HasKey k then some r else t.get k := by
  split
  · next h =>
      obtain ⟨rfl, present⟩ := h
      exact get_eq_some.mpr ⟨mem_put.mpr (.inr ⟨rfl, present⟩), rfl⟩
  · next h =>
      cases found : t.get k with
      | none =>
          rw [get_eq_none] at found ⊢
          intro s member same
          rcases mem_put.mp member with ⟨old, _⟩ | ⟨rfl, present⟩
          · exact found s old same
          · exact h ⟨same.symm, same ▸ present⟩
      | some s =>
          have present := HasKey.of_get found
          rw [get_eq_some] at found ⊢
          have other : key s ≠ key r := fun same => h ⟨found.2.symm.trans same, present⟩
          exact ⟨mem_put.mpr (.inl ⟨found.1, other⟩), found.2⟩

/-- Writing a row back changes nothing. -/
theorem put_self (found : t.get (key r) = some r) : t.put r = t := by
  refine ext_get fun k => ?_
  rw [get_put]
  split
  · next h => rw [h.1, found]
  · rfl

/-- Inserting below the rows with larger keys keeps the rows strictly sorted when the
key is new. -/
theorem sorted_orderedInsert (r : ρ) : ∀ {rows : List ρ},
    rows.Pairwise (fun a b => key a < key b) → (∀ s ∈ rows, key s ≠ key r) →
    (rows.orderedInsert (fun a b => key a < key b) r).Pairwise fun a b => key a < key b
  | [], _, _ => List.pairwise_singleton _ _
  | s :: rows, sorted, absent => by
      obtain ⟨first, rest⟩ := List.pairwise_cons.mp sorted
      rw [List.orderedInsert_cons]
      split
      · next before =>
          refine List.pairwise_cons.mpr ⟨fun a member => ?_, sorted⟩
          rcases List.mem_cons.mp member with rfl | later
          · exact before
          · exact before.trans (first a later)
      · next notBefore =>
          have after : key s < key r :=
            lt_of_le_of_ne (not_lt.mp notBefore) (absent s List.mem_cons_self)
          refine List.pairwise_cons.mpr ⟨fun a member => ?_,
            sorted_orderedInsert r rest fun x later => absent x (List.mem_cons_of_mem _ later)⟩
          rcases (List.mem_orderedInsert _).mp member with rfl | later
          · exact after
          · exact first a later

/-- Insert a row whose key the caller has shown to be absent. -/
def insertNew (t : Table ρ) (r : ρ) (absent : t.get (key r) = none) : Table ρ :=
  ⟨t.rows.orderedInsert (fun a b => key a < key b) r,
    sorted_orderedInsert r t.sorted (get_eq_none.mp absent)⟩

theorem mem_insertNew {absent : t.get (key r) = none} :
    s ∈ t.insertNew r absent ↔ s = r ∨ s ∈ t := by
  rw [← mem_rows, insertNew, List.mem_orderedInsert, mem_rows]

theorem get_insertNew {absent : t.get (key r) = none} :
    (t.insertNew r absent).get k = if k = key r then some r else t.get k := by
  split
  · next same =>
      subst same
      exact get_eq_some.mpr ⟨mem_insertNew.mpr (.inl rfl), rfl⟩
  · next other =>
      cases found : t.get k with
      | none =>
          rw [get_eq_none] at found ⊢
          intro s member same
          rcases mem_insertNew.mp member with rfl | old
          · exact other same.symm
          · exact found s old same
      | some s =>
          rw [get_eq_some] at found ⊢
          exact ⟨mem_insertNew.mpr (.inr found.1), found.2⟩

theorem hasKey_insertNew {absent : t.get (key r) = none} :
    (t.insertNew r absent).HasKey k ↔ k = key r ∨ t.HasKey k := by
  rw [hasKey_iff_get, get_insertNew, hasKey_iff_get]
  by_cases same : k = key r
  · simp only [same, if_true, Option.isSome_some, true_or]
  · simp only [same, if_false, false_or]

/-! ## Row constraints

What holds of each row by itself. -/

section All

variable {P : ρ → Prop}

theorem all_erase (all : ∀ s ∈ t, P s) : ∀ s ∈ t.erase k, P s :=
  fun s member => all s (mem_erase.mp member).1

theorem all_put (all : ∀ s ∈ t, P s) (new : P r) : ∀ s ∈ t.put r, P s := by
  intro s member
  rcases mem_put.mp member with ⟨old, _⟩ | ⟨rfl, _⟩
  · exact all s old
  · exact new

end All

/-! ## Column constraints -/

/-- The nullable column `col` holds no value twice. -/
def UniqueOn {α : Type w} (t : Table ρ) (col : ρ → Option α) : Prop :=
  ∀ a ∈ t, ∀ b ∈ t, ∀ v, col a = some v → col b = some v → key a = key b

instance {α : Type w} [DecidableEq α] (t : Table ρ) (col : ρ → Option α) :
    Decidable (t.UniqueOn col) :=
  decidable_of_iff (∀ a ∈ t.rows, ∀ b ∈ t.rows, col a = none ∨ col a ≠ col b ∨ key a = key b) <| by
    refine forall₂_congr fun a _ => forall₂_congr fun b _ => ?_
    cases col a with
    | none => simp
    | some v =>
        refine ⟨fun alike w same other => ?_, fun alike => ?_⟩
        · rcases alike with absent | differ | keys
          · cases absent
          · exact (differ (same.trans other.symm)).elim
          · exact keys
        · by_cases same : some v = col b
          · exact .inr (.inr (alike v rfl same.symm))
          · exact .inr (.inl same)

theorem uniqueOn_empty {α : Type w} (col : ρ → Option α) : (empty : Table ρ).UniqueOn col :=
  fun _ member => (not_mem_empty member).elim

theorem UniqueOn.erase {α : Type w} {col : ρ → Option α} (unique : t.UniqueOn col) :
    (t.erase k).UniqueOn col :=
  fun a left b right => unique a (mem_erase.mp left).1 b (mem_erase.mp right).1

/-- Overwriting a row keeps a column unique when no other row has the new value. -/
theorem UniqueOn.put {α : Type w} {col : ρ → Option α} (unique : t.UniqueOn col)
    (free : ∀ v, col r = some v → ∀ a ∈ t, col a = some v → key a = key r) :
    (t.put r).UniqueOn col := by
  intro a left b right v hasA hasB
  rcases mem_put.mp left with ⟨oldA, _⟩ | ⟨rfl, _⟩ <;>
    rcases mem_put.mp right with ⟨oldB, _⟩ | ⟨rfl, _⟩
  · exact unique a oldA b oldB v hasA hasB
  · exact free v hasB a oldA hasA
  · exact (free v hasA b oldB hasB).symm
  · rfl

/-- Overwriting a row keeps a column unique when its value stays or is new to the table. -/
theorem UniqueOn.put_change {α : Type w} {col : ρ → Option α} {old : ρ}
    (unique : t.UniqueOn col) (found : t.get (key r) = some old)
    (change : col r = col old ∨ ∀ s ∈ t, col s ≠ col r) : (t.put r).UniqueOn col := by
  refine unique.put fun v has a member taken => ?_
  obtain ⟨present, sameKey⟩ := get_eq_some.mp found
  rcases change with kept | new
  · rw [unique a member old present v taken (kept ▸ has), sameKey]
  · exact (new a member (taken.trans has.symm)).elim

/-- Every value of the nullable column `col` is a key of `t'`. -/
def RefersTo {σ : Type w} {ι : Type*} [LinearOrder ι] [Keyed σ ι] (t : Table ρ)
    (col : ρ → Option ι) (t' : Table σ) : Prop :=
  ∀ a ∈ t, ∀ v, col a = some v → t'.HasKey v

section RefersTo

variable {σ : Type w} {ι : Type*} [LinearOrder ι] [Keyed σ ι] {col : ρ → Option ι}
  {t' : Table σ} {b : σ} {i : ι}

theorem refersTo_empty : (empty : Table ρ).RefersTo col t' :=
  fun _ member => (not_mem_empty member).elim

theorem RefersTo.erase (refers : t.RefersTo col t') : (t.erase k).RefersTo col t' :=
  fun a member => refers a (mem_erase.mp member).1

theorem RefersTo.put (refers : t.RefersTo col t') (new : ∀ v, col r = some v → t'.HasKey v) :
    (t.put r).RefersTo col t' := by
  intro a member v has
  rcases mem_put.mp member with ⟨old, _⟩ | ⟨rfl, _⟩
  · exact refers a old v has
  · exact new v has

theorem RefersTo.insertNew (refers : t.RefersTo col t') (absent : t.get (key r) = none)
    (new : ∀ v, col r = some v → t'.HasKey v) : (t.insertNew r absent).RefersTo col t' := by
  intro a member v has
  rcases mem_insertNew.mp member with rfl | old
  · exact new v has
  · exact refers a old v has

/-- References survive any change of the target that keeps its keys. -/
theorem RefersTo.mono {t'' : Table σ} (refers : t.RefersTo col t')
    (keys : ∀ v, t'.HasKey v → t''.HasKey v) : t.RefersTo col t'' :=
  fun a member v has => keys v (refers a member v has)

/-- A row nobody refers to can be removed. -/
theorem RefersTo.eraseTarget (refers : t.RefersTo col t') (unused : ∀ a ∈ t, col a ≠ some i) :
    t.RefersTo col (t'.erase i) := by
  intro a member v has
  obtain ⟨b, present, rfl⟩ := refers a member v has
  exact ⟨b, mem_erase.mpr ⟨present, fun same => unused a member (same ▸ has)⟩, rfl⟩

end RefersTo

/-- A primary key that is a foreign key. -/
theorem refersTo_key {σ : Type w} [Keyed σ κ] {t' : Table σ} :
    t.RefersTo (fun r => some (key r)) t' ↔ ∀ k, t.HasKey k → t'.HasKey k := by
  constructor
  · intro refers k present
    rcases present with ⟨r, member, rfl⟩
    exact refers r member (key r) rfl
  · intro keys r member k same
    exact keys k ⟨r, member, Option.some.inj same⟩

end Table

/-! ## Tables that draw their keys from a sequence -/

/-- Rows whose key an `INSERT` fills in. -/
class SerialKeyed (ρ : Type u) extends Keyed ρ Int where
  withKey : Int → ρ → ρ
  key_withKey : ∀ k r, key (withKey k r) = k

open SerialKeyed

/-- A table with the sequence its keys come from: `next` is handed out next. -/
structure Serial (ρ : Type u) [SerialKeyed ρ] extends Table ρ where
  next : Int
  one_le : 1 ≤ next
  bounds : ∀ r ∈ rows, 1 ≤ key r ∧ key r < next

namespace Serial

variable {ρ : Type u} [SerialKeyed ρ]

/-- No rows, and a sequence that starts at 1. -/
def empty : Serial ρ :=
  { Table.empty with next := 1, one_le := le_rfl, bounds := by simp [Table.empty] }

/-- Give `r` the next key and append it. -/
def insert (t : Serial ρ) (r : ρ) : Serial ρ where
  rows := t.rows ++ [withKey t.next r]
  sorted := by
    refine List.pairwise_append.mpr ⟨t.sorted, List.pairwise_singleton _ _, ?_⟩
    intro a member b new
    rw [List.mem_singleton.mp new, key_withKey]
    exact (t.bounds a member).2
  next := t.next + 1
  one_le := by have := t.one_le; omega
  bounds := by
    intro a member
    rcases List.mem_append.mp member with old | new
    · have := t.bounds a old
      omega
    · rw [List.mem_singleton.mp new, key_withKey]
      have := t.one_le
      omega

/-- Remove the row with key `k`; its key is not handed out again. -/
def erase (t : Serial ρ) (k : Int) : Serial ρ :=
  { t.toTable.erase k with
    next := t.next
    one_le := t.one_le
    bounds := fun a member => t.bounds a (List.mem_filter.mp member).1 }

/-- Overwrite the row that has `r`'s key with `r`. -/
def put (t : Serial ρ) (r : ρ) : Serial ρ :=
  { t.toTable.put r with
    next := t.next
    one_le := t.one_le
    bounds := by
      intro a member
      rcases (Table.mem_put (t := t.toTable)).mp member with ⟨old, _⟩ | ⟨rfl, b, old, same⟩
      · exact t.bounds a old
      · rw [← same]
        exact t.bounds b old }

/-- Remove every row; the sequence goes on from where it was. -/
def clear (t : Serial ρ) : Serial ρ :=
  { Table.empty with next := t.next, one_le := t.one_le, bounds := by simp [Table.empty] }

/-- Use up one value of the sequence without a row. -/
def skip (t : Serial ρ) : Serial ρ :=
  { t with
    next := t.next + 1
    one_le := by have := t.one_le; omega
    bounds := fun a member => by have := t.bounds a member; omega }

variable {t : Serial ρ} {r s : ρ} {k : Int}

@[simp] theorem toTable_erase : (t.erase k).toTable = t.toTable.erase k := rfl
@[simp] theorem toTable_put : (t.put r).toTable = t.toTable.put r := rfl
@[simp] theorem rows_insert : (t.insert r).rows = t.rows ++ [withKey t.next r] := rfl
@[simp] theorem next_insert : (t.insert r).next = t.next + 1 := rfl

theorem mem_insert : s ∈ (t.insert r).toTable ↔ s ∈ t.toTable ∨ s = withKey t.next r := by
  rw [← Table.mem_rows, rows_insert, List.mem_append, List.mem_singleton, Table.mem_rows]

theorem key_lt (member : r ∈ t.toTable) : key r < t.next := (t.bounds r member).2

theorem one_le_key (member : r ∈ t.toTable) : 1 ≤ key r := (t.bounds r member).1

/-- Between two keys there is room for so many rows. -/
theorem length_le_of_keys {lo hi : Int} {rows : List ρ} (room : lo ≤ hi)
    (sorted : rows.Pairwise fun a b => key a < key b)
    (bounds : ∀ r ∈ rows, lo ≤ key r ∧ key r < hi) : (rows.length : Int) ≤ hi - lo := by
  induction rows generalizing lo with
  | nil => simpa using room
  | cons r rows ih =>
      obtain ⟨first, rest⟩ := List.pairwise_cons.mp sorted
      obtain ⟨low, high⟩ := bounds r List.mem_cons_self
      have later : (rows.length : Int) ≤ hi - (key r + 1) := ih (by omega) rest fun s member =>
        ⟨first s member, (bounds s (List.mem_cons_of_mem _ member)).2⟩
      rw [List.length_cons]
      push_cast
      omega

theorem all_insert {P : ρ → Prop} (all : ∀ s ∈ t.toTable, P s) (new : P (withKey t.next r)) :
    ∀ s ∈ (t.insert r).toTable, P s := by
  intro s member
  rcases mem_insert.mp member with old | rfl
  · exact all s old
  · exact new

theorem get_insert :
    (t.insert r).get k = if k = t.next then some (withKey t.next r) else t.get k := by
  split
  · next same =>
      subst same
      exact Table.get_eq_some.mpr ⟨mem_insert.mpr (.inr rfl), key_withKey _ _⟩
  · next other =>
      cases found : t.get k with
      | none =>
          rw [Table.get_eq_none] at found ⊢
          intro s member same
          rcases mem_insert.mp member with old | rfl
          · exact found s old same
          · exact other (same.symm.trans (key_withKey _ _))
      | some s =>
          rw [Table.get_eq_some] at found ⊢
          exact ⟨mem_insert.mpr (.inl found.1), found.2⟩

/-- An insertion leaves every row that is there where it is. -/
theorem get_insert_of_get (found : t.get k = some s) : (t.insert r).get k = some s := by
  have below := key_lt (Table.get_eq_some.mp found).1
  rw [(Table.get_eq_some.mp found).2] at below
  rw [get_insert, if_neg below.ne, found]

theorem ext_table {t' : Serial ρ} (table : t.toTable = t'.toTable) (next : t.next = t'.next) :
    t = t' := by
  cases t
  cases t'
  cases table
  cases next
  rfl

theorem put_self (found : t.get (key r) = some r) : t.put r = t :=
  ext_table (Table.put_self found) rfl

theorem HasKey.insert (present : t.HasKey k) : (t.insert r).HasKey k := by
  obtain ⟨s, member, rfl⟩ := present
  exact ⟨s, mem_insert.mpr (.inl member), rfl⟩

/-- A new row keeps a column unique exactly when it brings no value that is taken. -/
theorem uniqueOn_insert {α : Type w} {col : ρ → Option α} :
    (t.insert r).UniqueOn col ↔ t.UniqueOn col ∧
      ∀ v, col (withKey t.next r) = some v → ∀ a ∈ t.toTable, col a ≠ some v := by
  constructor
  · intro unique
    have old : t.UniqueOn col := fun a left b right =>
      unique a (mem_insert.mpr (.inl left)) b (mem_insert.mpr (.inl right))
    refine ⟨old, fun v new a member taken => ?_⟩
    have same := unique a (mem_insert.mpr (.inl member)) _ (mem_insert.mpr (.inr rfl)) v taken new
    rw [key_withKey] at same
    exact (key_lt member).ne same
  · intro both a left b right v hasA hasB
    rcases both with ⟨unique, free⟩
    rcases mem_insert.mp left with oldA | rfl <;> rcases mem_insert.mp right with oldB | rfl
    · exact unique a oldA b oldB v hasA hasB
    · exact (free v hasB a oldA hasA).elim
    · exact (free v hasA b oldB hasB).elim
    · rfl

/-- A new row keeps a column unique when its value is new to the table. -/
theorem uniqueOn_insert_new {α : Type w} {col : ρ → Option α} (unique : t.UniqueOn col)
    (same : col (withKey t.next r) = col r) (new : ∀ s ∈ t.toTable, col s ≠ col r) :
    (t.insert r).UniqueOn col :=
  uniqueOn_insert.mpr ⟨unique, fun _ has a member taken =>
    new a member (taken.trans (has.symm.trans same))⟩

theorem refersTo_insert {σ : Type w} {ι : Type*} [LinearOrder ι] [Keyed σ ι]
    {col : ρ → Option ι} {t' : Table σ} (refers : t.RefersTo col t')
    (new : ∀ v, col (withKey t.next r) = some v → t'.HasKey v) :
    (t.insert r).RefersTo col t' := by
  intro a member v has
  rcases mem_insert.mp member with old | rfl
  · exact refers a old v has
  · exact new v has

/-- `t'` has the rows of `t` as they were, and others with keys drawn since. -/
structure Grows (t t' : Serial ρ) : Prop where
  kept : ∀ r ∈ t.toTable, r ∈ t'.toTable
  drawn : ∀ r ∈ t'.toTable, r ∈ t.toTable ∨ t.next ≤ key r
  next_le : t.next ≤ t'.next

theorem Grows.refl (t : Serial ρ) : t.Grows t := ⟨fun _ => id, fun _ => .inl, le_rfl⟩

theorem Grows.trans {t' t'' : Serial ρ} (first : t.Grows t') (second : t'.Grows t'') :
    t.Grows t'' where
  kept r member := second.kept r (first.kept r member)
  drawn r member := by
    rcases second.drawn r member with old | new
    · exact first.drawn r old
    · exact .inr (first.next_le.trans new)
  next_le := first.next_le.trans second.next_le

theorem grows_insert : t.Grows (t.insert r) where
  kept _ member := mem_insert.mpr (.inl member)
  drawn s member := by
    rcases mem_insert.mp member with old | rfl
    · exact .inl old
    · exact .inr (key_withKey _ _).ge
  next_le := by rw [next_insert]; omega

/-- `t'` is `t` with `count` rows after its own; each has a wanted value in the column, which no
row of `t` has. -/
def Appends {α : Type w} (t t' : Serial ρ) (col : ρ → α) (wanted : α → Prop) (count : Nat) :
    Prop :=
  ∃ rows, t'.rows = t.rows ++ rows ∧ rows.length = count ∧
    ∀ r ∈ rows, wanted (col r) ∧ ∀ s ∈ t.toTable, col s ≠ col r

namespace Appends

variable {α : Type w} {t' t'' : Serial ρ} {col : ρ → α} {wanted : α → Prop} {count count' : Nat}

theorem refl (t : Serial ρ) : t.Appends t col wanted 0 :=
  ⟨[], (List.append_nil _).symm, rfl, fun _ member => (List.not_mem_nil member).elim⟩

theorem kept (appends : t.Appends t' col wanted count) : ∀ s ∈ t.toTable, s ∈ t'.toTable := by
  obtain ⟨rows, appended, _, _⟩ := appends
  intro s member
  rw [← Table.mem_rows, appended]
  exact List.mem_append_left _ member

theorem trans (first : t.Appends t' col wanted count) (second : t'.Appends t'' col wanted count') :
    t.Appends t'' col wanted (count' + count) := by
  have kept := first.kept
  obtain ⟨rows, appended, rfl, new⟩ := first
  obtain ⟨rows', appended', rfl, new'⟩ := second
  refine ⟨rows ++ rows', by rw [appended', appended, List.append_assoc],
    by rw [List.length_append, Nat.add_comm], fun r member => ?_⟩
  rcases List.mem_append.mp member with early | late
  · exact new r early
  · exact ⟨(new' r late).1, fun s old => (new' r late).2 s (kept s old)⟩

theorem insert (has : wanted (col (withKey t.next r)))
    (new : ∀ s ∈ t.toTable, col s ≠ col (withKey t.next r)) :
    t.Appends (t.insert r) col wanted 1 :=
  ⟨[withKey t.next r], rfl, rfl, fun _ member => List.mem_singleton.mp member ▸ ⟨has, new⟩⟩

end Appends

/-- `t'` may come later than `t`: its keys are keys of `t` or have been drawn since. -/
structure Follows (t t' : Serial ρ) : Prop where
  keys : ∀ k, t'.HasKey k → t.HasKey k ∨ t.next ≤ k
  next_le : t.next ≤ t'.next

namespace Follows

variable {t' t'' : Serial ρ}

theorem refl (t : Serial ρ) : t.Follows t := ⟨fun _ => .inl, le_rfl⟩

theorem trans (first : t.Follows t') (second : t'.Follows t'') : t.Follows t'' where
  keys k present := by
    rcases second.keys k present with old | new
    · exact first.keys k old
    · exact .inr (first.next_le.trans new)
  next_le := first.next_le.trans second.next_le

theorem insert (t : Serial ρ) (r : ρ) : t.Follows (t.insert r) where
  keys k present := by
    obtain ⟨s, member, rfl⟩ := present
    rcases mem_insert.mp member with old | rfl
    · exact .inl ⟨s, old, rfl⟩
    · exact .inr (key_withKey _ _).ge
  next_le := by rw [next_insert]; omega

theorem put (t : Serial ρ) (r : ρ) : t.Follows (t.put r) :=
  ⟨fun _ present => .inl (Table.hasKey_put.mp present), le_rfl⟩

theorem erase (t : Serial ρ) (k : Int) : t.Follows (t.erase k) where
  keys l present := by
    obtain ⟨s, member, rfl⟩ := present
    exact .inl ⟨s, (Table.mem_erase.mp member).1, rfl⟩
  next_le := le_rfl

theorem clear (t : Serial ρ) : t.Follows t.clear where
  keys l present := by
    obtain ⟨s, member, _⟩ := present
    exact (Table.not_mem_empty member).elim
  next_le := le_rfl

/-- A key that had been drawn and is there now has been there all along. -/
theorem hasKey (follows : t.Follows t') (drawn : k < t.next) (present : t'.HasKey k) :
    t.HasKey k := by
  rcases follows.keys k present with old | new
  · exact old
  · omega

end Follows

end Serial

end Relational
