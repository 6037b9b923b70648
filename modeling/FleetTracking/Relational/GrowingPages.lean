import FleetTracking.Relational.SlidingPages
import Mathlib.Data.List.Sort

/-!
# Reading on in a list that grows

A client has read some entries of a sorted list and asks for the next `size`, at the offset of as
many entries as it has; in the meantime the list grows.  An entry that is inserted moves the
later ones away from the front, so the client may read an entry again, but it passes over none
(`CaughtUp`).  While the list grows at its end only, the client has a prefix of it.
-/

namespace Relational

universe u v

variable {α : Type u}

/-- What the client has after it has asked for the next `size` entries. -/
def readOn (size : Nat) (received l : List α) : List α :=
  received ++ (l.drop received.length).take size

theorem length_readOn {size : Nat} {received l : List α} :
    (readOn size received l).length =
      received.length + min size (l.length - received.length) := by
  rw [readOn, List.length_append, List.length_take, List.length_drop]

theorem mem_readOn {size : Nat} {received l : List α} {a : α}
    (member : a ∈ readOn size received l) : a ∈ received ∨ a ∈ l :=
  (List.mem_append.mp member).imp_right fun next => List.mem_of_mem_drop (List.mem_of_mem_take next)

/-- A prefix is extended. -/
theorem prefix_readOn {size : Nat} {received l : List α} (has : received <+: l) :
    readOn size received l <+: l := by
  obtain ⟨rest, rfl⟩ := has
  rw [readOn, List.drop_left]
  exact (List.prefix_append_right_inj received).mpr (List.take_prefix size rest)

section

variable {κ : Type v} [LinearOrder κ] {key : α → κ} {before : α → α → Bool}
  {l l' start received : List α} {size : Nat}

theorem Chronological.nodup (order : Chronological key before)
    (sorted : l.Pairwise fun a b => before a b = true) : l.Nodup :=
  sorted.imp fun {a b} earlier same => by
    rw [same, order.irrefl] at earlier
    cases earlier

/-- Entries that are inserted move the others away from the front. -/
theorem rank_mono (order : Chronological key before)
    (sorted : l.Pairwise fun a b => before a b = true) (grows : l ⊆ l') (a : α) :
    rank before l a ≤ rank before l' a :=
  (List.subperm_of_subset (order.nodup sorted) grows).countP_le _

/-- Of the entries `start` the client has each, or has it ahead. -/
def CaughtUp (before : α → α → Bool) (start received l : List α) : Prop :=
  ∀ a ∈ start, a ∈ received ∨ (a ∈ l ∧ received.length ≤ rank before l a)

namespace CaughtUp

theorem begin : CaughtUp before l [] l := fun _ member => .inr ⟨member, Nat.zero_le _⟩

/-- **Step.**  The list grows. -/
theorem grow (caughtUp : CaughtUp before start received l) (order : Chronological key before)
    (sorted : l.Pairwise fun a b => before a b = true) (grows : l ⊆ l') :
    CaughtUp before start received l' := fun a member =>
  (caughtUp a member).imp_right fun ahead =>
    ⟨grows ahead.1, ahead.2.trans (rank_mono order sorted grows a)⟩

/-- **Step.**  The client reads on. -/
theorem readOn (caughtUp : CaughtUp before start received l) (order : Chronological key before)
    (sorted : l.Pairwise fun a b => before a b = true) (size : Nat) :
    CaughtUp before start (readOn size received l) l := by
  intro a member
  rcases caughtUp a member with has | ⟨there, ahead⟩
  · exact .inl (List.mem_append_left _ has)
  · obtain ⟨i, inside, rfl⟩ := List.mem_iff_getElem.mp there
    rw [rank_getElem order sorted] at ahead ⊢
    by_cases next : i < received.length + size
    · refine .inl (List.mem_append_right _ (List.mem_take_iff_getElem.mpr ?_))
      refine ⟨i - received.length, by rw [List.length_drop]; omega, ?_⟩
      rw [List.getElem_drop]
      congr 1
      omega
    · refine .inr ⟨there, ?_⟩
      rw [length_readOn]
      omega

/-- A client that has as many entries as there are has all of `start`. -/
theorem all (caughtUp : CaughtUp before start received l) (order : Chronological key before)
    (sorted : l.Pairwise fun a b => before a b = true) (enough : l.length ≤ received.length)
    {a : α} (member : a ∈ start) : a ∈ received := by
  rcases caughtUp a member with has | ⟨there, ahead⟩
  · exact has
  · have inside := rank_lt_length order sorted there
    omega

end CaughtUp

/-- A sorted list that gains only entries after all of its own grows at its end. -/
theorem prefix_of_after (order : Chronological key before)
    (sorted : l.Pairwise fun a b => before a b = true)
    (sorted' : l'.Pairwise fun a b => before a b = true) (grows : l ⊆ l')
    (after : ∀ b ∈ l', b ∉ l → ∀ a ∈ l, before a b = true) : l <+: l' := by
  classical
  have later : (l ++ l'.filter (· ∉ l)).Pairwise fun a b => before a b = true := by
    refine List.pairwise_append.mpr ⟨sorted, sorted'.filter _, fun a old b new => ?_⟩
    obtain ⟨there, gained⟩ := List.mem_filter.mp new
    exact after b there (of_decide_eq_true gained) a old
  have same : (l ++ l'.filter (· ∉ l)).Perm l' := by
    refine (List.perm_ext_iff_of_nodup (order.nodup later) (order.nodup sorted')).mpr fun a => ?_
    rw [List.mem_append, List.mem_filter, decide_eq_true_eq]
    constructor
    · rintro (old | ⟨there, _⟩)
      · exact grows old
      · exact there
    · intro there
      by_cases old : a ∈ l
      · exact .inl old
      · exact .inr ⟨there, old⟩
  refine ⟨l'.filter (· ∉ l), same.eq_of_pairwise (fun a b _ _ first second => ?_) later sorted'⟩
  rw [order.asymm first] at second
  cases second

end

end Relational
