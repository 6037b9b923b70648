import FleetTracking.Relational.Table

/-!
# What a statement changes of a table

Three relations between a table and what it has become: which rows stay as they are
(`Table.KeepsRows`), which keys stay (`Table.KeepsKeys`), and which values of a column are new
(`Table.Gains`).  Each statement has one lemma for each of them.  `Serial.Saves` says all of a
statement that writes one row.
-/

namespace Relational

universe u v w

open Keyed SerialKeyed

namespace Table

variable {ρ : Type u} {κ : Type v} {α : Type w} [LinearOrder κ] [Keyed ρ κ]

/-- Rows whose keys are not touched are there as they were. -/
def KeepsRows (touched : κ → Prop) (t t' : Table ρ) : Prop :=
  ∀ k, ¬ touched k → ∀ r, t.get k = some r → t'.get k = some r

/-- Keys that are not removed are there still. -/
def KeepsKeys (removed : κ → Prop) (t t' : Table ρ) : Prop :=
  ∀ k, ¬ removed k → t.HasKey k → t'.HasKey k

/-- A row has a value of the column as before, or the value is gained. -/
def Gains (gained : α → Prop) (col : ρ → Option α) (t t' : Table ρ) : Prop :=
  ∀ r ∈ t', ∀ a, col r = some a → (∃ s ∈ t, key s = key r ∧ col s = some a) ∨ gained a

variable {touched removed : κ → Prop} {gained : α → Prop} {col : ρ → Option α} {t : Table ρ}
  {r : ρ} {k : κ}

theorem KeepsRows.refl (t : Table ρ) : t.KeepsRows touched t := fun _ _ _ => id

theorem KeepsKeys.refl (t : Table ρ) : t.KeepsKeys removed t := fun _ _ => id

theorem Gains.refl (t : Table ρ) : Gains gained col t t :=
  fun r member _ has => .inl ⟨r, member, rfl, has⟩

theorem keepsRows_put (locked : touched (key r)) : t.KeepsRows touched (t.put r) := by
  intro k free s found
  rw [get_put, if_neg, found]
  exact fun same => free (same.1 ▸ locked)

theorem keepsKeys_put : t.KeepsKeys removed (t.put r) := fun _ _ => hasKey_put.mpr

theorem gains_put {old : ρ} (found : t.get (key r) = some old)
    (new : ∀ a, col r = some a → col old = some a ∨ gained a) : Gains gained col t (t.put r) := by
  intro s member a has
  rcases mem_put.mp member with ⟨before, _⟩ | ⟨rfl, _⟩
  · exact .inl ⟨s, before, rfl, has⟩
  · obtain ⟨there, same⟩ := get_eq_some.mp found
    exact (new a has).imp (fun kept => ⟨old, there, same, kept⟩) id

theorem keepsRows_erase (locked : touched k) : t.KeepsRows touched (t.erase k) := by
  intro l free s found
  rw [get_erase, if_neg, found]
  exact fun same => free (same ▸ locked)

theorem keepsKeys_erase (locked : removed k) : t.KeepsKeys removed (t.erase k) := by
  intro l free present
  obtain ⟨s, member, rfl⟩ := present
  exact ⟨s, mem_erase.mpr ⟨member, fun same => free (same ▸ locked)⟩, rfl⟩

theorem gains_erase : Gains gained col t (t.erase k) :=
  fun s member _ has => .inl ⟨s, (mem_erase.mp member).1, rfl, has⟩

section

variable (absent : t.get (key r) = none)

theorem keepsKeys_insertNew : t.KeepsKeys removed (t.insertNew r absent) := by
  intro k _ present
  obtain ⟨s, member, same⟩ := present
  exact ⟨s, mem_insertNew.mpr (.inr member), same⟩

theorem gains_insertNew (new : ∀ a, col r = some a → gained a) :
    Gains gained col t (t.insertNew r absent) := by
  intro s member a has
  rcases mem_insertNew.mp member with rfl | before
  · exact .inr (new a has)
  · exact .inl ⟨s, before, rfl, has⟩

end

end Table

namespace Serial

variable {ρ : Type u} {α : Type w} [SerialKeyed ρ] {touched removed : Int → Prop}
  {gained : α → Prop} {col : ρ → Option α} {t : Serial ρ} {r : ρ}

theorem keepsRows_insert : t.KeepsRows touched (t.insert r).toTable :=
  fun _ _ _ => get_insert_of_get

theorem keepsKeys_insert : t.KeepsKeys removed (t.insert r).toTable :=
  fun _ _ => HasKey.insert

theorem gains_insert (new : ∀ a, col (withKey t.next r) = some a → gained a) :
    Table.Gains gained col t.toTable (t.insert r).toTable := by
  intro s member a has
  rcases mem_insert.mp member with before | rfl
  · exact .inl ⟨s, before, rfl, has⟩
  · exact .inr (new a has)

/-! ## One row is written -/

/-- `r` is in the table, and the other keys lead where they led. -/
structure Saves (t t' : Serial ρ) (r : ρ) : Prop where
  own : t'.get (key r) = some r
  others : ∀ k, k ≠ key r → t'.get k = t.get k

theorem Saves.mem {t' : Serial ρ} (saves : t.Saves t' r) : r ∈ t'.toTable :=
  (Table.get_eq_some.mp saves.own).1

theorem saves_insert : t.Saves (t.insert r) (withKey t.next r) where
  own := by rw [key_withKey, get_insert, if_pos rfl]
  others k other := by
    rw [key_withKey] at other
    rw [get_insert, if_neg other]

theorem saves_put {old : ρ} (found : t.get (key r) = some old) : t.Saves (t.put r) r where
  own := Table.get_put.trans (if_pos ⟨rfl, .of_get found⟩)
  others _ other := Table.get_put.trans (if_neg fun same => other same.1)

end Serial

end Relational
