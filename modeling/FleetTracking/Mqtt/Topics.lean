import Mathlib.Data.List.Basic

/-!
# MQTT topic names and filters

Both are split into levels by slashes.  In a filter a level `+` stands for any one level and a
last level `#` for any number of them; a filter that begins with a wildcard does not match a
name that begins with a dollar sign.

`matches_append_plus` is the fact about a filter with one `+` in it.
-/

namespace Mqtt

/-- A name that can be published to. -/
structure TopicName (name : String) : Prop where
  nonempty : name ≠ ""
  noPlus : '+' ∉ name.toList
  noHash : '#' ∉ name.toList
  noNull : Char.ofNat 0 ∉ name.toList

def levels (s : String) : List (List Char) := s.toList.splitOn '/'

def levelsMatch : (filter name : List (List Char)) → Bool
  | [], name => name.isEmpty
  | level :: filter, name =>
      if level = ['#'] then filter.isEmpty
      else
        match name with
        | [] => false
        | level' :: name => (level = ['+'] || level = level') && levelsMatch filter name

/-- The name is kept for the broker's own use. -/
def reserved (name : String) : Bool := name.toList.head? = some '$'

def startsWild (filter : String) : Bool :=
  filter.toList.head? = some '+' || filter.toList.head? = some '#'

/-- Does the filter match the name? -/
def topicMatches (filter name : String) : Bool :=
  !(reserved name && startsWild filter) && levelsMatch (levels filter) (levels name)

theorem levels_append_slash (a b : String) : levels (a ++ "/" ++ b) = levels a ++ levels b := by
  simp only [levels, String.toList_append, List.append_assoc]
  exact List.splitOn_append_cons_self a.toList b.toList

/-- What is in a level is in the whole. -/
theorem mem_of_mem_level {sep c : Char} {cs level : List Char}
    (isLevel : level ∈ cs.splitOn sep) (inLevel : c ∈ level) : c ∈ cs ∧ c ≠ sep := by
  induction cs generalizing level with
  | nil =>
      simp only [List.splitOn_nil, List.mem_singleton] at isLevel
      simp [isLevel] at inLevel
  | cons x xs ih =>
      rw [List.splitOn_cons_eq_if_modifyHead] at isLevel
      split at isLevel
      · rcases List.mem_cons.mp isLevel with rfl | isLevel
        · cases inLevel
        · exact ⟨List.mem_cons_of_mem _ (ih isLevel inLevel).1, (ih isLevel inLevel).2⟩
      · next other =>
          cases split : xs.splitOn sep with
          | nil => exact absurd split (List.splitOn_ne_nil _ _)
          | cons first rest =>
              rw [split] at isLevel ih
              rcases List.mem_cons.mp isLevel with rfl | isLevel
              · rcases List.mem_cons.mp inLevel with rfl | inLevel
                · exact ⟨List.mem_cons_self, fun same => other (by simp [same])⟩
                · have part := ih List.mem_cons_self inLevel
                  exact ⟨List.mem_cons_of_mem _ part.1, part.2⟩
              · have part := ih (List.mem_cons_of_mem _ isLevel) inLevel
                exact ⟨List.mem_cons_of_mem _ part.1, part.2⟩

/-- Levels without wildcards match themselves. -/
theorem levelsMatch_append {shared filter name : List (List Char)} (literal : ['#'] ∉ shared) :
    levelsMatch (shared ++ filter) (shared ++ name) = levelsMatch filter name := by
  induction shared with
  | nil => rfl
  | cons level shared ih =>
      have notHash : level ≠ ['#'] := fun same => literal (same ▸ List.mem_cons_self)
      simp only [List.cons_append, levelsMatch, notHash, if_false, decide_true, Bool.or_true,
        Bool.true_and]
      exact ih fun later => literal (List.mem_cons_of_mem _ later)

/-- A filter `first/+/last` without other wildcards matches `first/level/last`. -/
theorem matches_append_plus {first level last : String} (name : TopicName first)
    (oneLevel : '/' ∉ level.toList) (noHash : '#' ∉ last.toList) :
    topicMatches (first ++ "/" ++ "+" ++ "/" ++ last)
      (first ++ "/" ++ level ++ "/" ++ last) = true := by
  have notWild : startsWild (first ++ "/" ++ "+" ++ "/" ++ last) = false := by
    cases eq : first.toList with
    | nil => exact absurd (String.toList_inj.mp (eq.trans rfl)) name.nonempty
    | cons c cs =>
        have plus : c ≠ '+' := fun same => name.noPlus (eq ▸ same ▸ List.mem_cons_self)
        have hash : c ≠ '#' := fun same => name.noHash (eq ▸ same ▸ List.mem_cons_self)
        simp [startsWild, eq, plus, hash]
  have literalFirst : ['#'] ∉ levels first := fun isLevel =>
    name.noHash (mem_of_mem_level isLevel List.mem_cons_self).1
  have literalLast : ['#'] ∉ levels last := fun isLevel =>
    noHash (mem_of_mem_level isLevel List.mem_cons_self).1
  have plus : levels "+" = [['+']] := by decide
  have one : levels level = [level.toList] := List.splitOn_eq_singleton oneLevel
  have rest : levelsMatch (levels last) (levels last) = levelsMatch [] [] := by
    simpa only [List.append_nil] using @levelsMatch_append _ [] [] literalLast
  simp only [topicMatches, notWild, Bool.and_false, Bool.not_false, Bool.true_and,
    levels_append_slash, plus, one, List.append_assoc, levelsMatch_append literalFirst]
  simp only [List.singleton_append, levelsMatch, List.cons.injEq, Char.reduceEq, false_and,
    if_false, decide_true, Bool.true_or, Bool.true_and, rest, List.isEmpty_nil]

end Mqtt
