import Mathlib.Data.List.Count
import Mathlib.Algebra.BigOperators.Group.List.Basic
import Mathlib.Tactic

/-!
# Fields joined by a separator

`[sep].intercalate fields` joins the fields with one separator between
neighbours. Fields that do not contain the separator are the only ones of their
number with that joined list; any other fields share theirs, since a boundary
can be moved to a separator inside a field.
-/

namespace Sys

variable {α : Type*} {sep : α} {a b x y z : List α} {before after fields fields' : List (List α)}

/-- No field contains the separator. -/
def Separate (sep : α) (fields : List (List α)) : Prop := ∀ f ∈ fields, sep ∉ f

theorem separate_cons : Separate sep (a :: fields) ↔ sep ∉ a ∧ Separate sep fields := List.forall_mem_cons

theorem joined_cons (sep : α) (a : List α) (some : fields ≠ []) :
    [sep].intercalate (a :: fields) = a ++ sep :: [sep].intercalate fields := by
  cases fields with
  | nil => exact absurd rfl some
  | cons b after =>
    rw [List.intercalate_cons_cons, List.append_assoc]
    rfl

/-- Two neighbours may be joined first. -/
theorem joined_merge (sep : α) (before : List (List α)) (a b : List α) (after : List (List α)) :
    [sep].intercalate (before ++ a :: b :: after) = [sep].intercalate (before ++ (a ++ sep :: b) :: after) := by
  induction before with
  | nil =>
    rw [List.nil_append, List.nil_append, joined_cons sep a (List.cons_ne_nil b after)]
    cases after with
    | nil => simp
    | cons c after => simp
  | cons c before ih =>
    rw [List.cons_append, List.cons_append, joined_cons sep c (by simp), joined_cons sep c (by simp), ih]

/-- A boundary moves to a separator inside the left of two neighbours. -/
theorem joined_shift (sep : α) (before : List (List α)) (x y z : List α) (after : List (List α)) :
    [sep].intercalate (before ++ (x ++ sep :: y) :: z :: after) =
      [sep].intercalate (before ++ x :: (y ++ sep :: z) :: after) := by
  rw [joined_merge, joined_merge, List.append_assoc, List.cons_append]

section
variable [DecidableEq α]

theorem count_joined (sep : α) (some : fields ≠ []) :
    ([sep].intercalate fields).count sep + 1 = (fields.map (List.count sep)).sum + fields.length := by
  induction fields with
  | nil => exact absurd rfl some
  | cons a fields ih =>
    cases fields with
    | nil => simp
    | cons b after =>
      have rest := ih (List.cons_ne_nil b after)
      rw [joined_cons sep a (List.cons_ne_nil b after), List.count_append, List.count_cons_self, List.map_cons,
        List.sum_cons, List.length_cons]
      omega

theorem separate_iff_sum : Separate sep fields ↔ (fields.map (List.count sep)).sum = 0 := by
  rw [List.sum_eq_zero_iff, List.forall_mem_map]
  exact forall₂_congr fun f _ => List.count_eq_zero.symm

/-- The number of separators tells that as many other fields do not contain one either. -/
theorem Separate.of_joined (h : Separate sep fields) (some : fields ≠ []) (length : fields'.length = fields.length)
    (same : [sep].intercalate fields' = [sep].intercalate fields) : Separate sep fields' := by
  have some' : fields' ≠ [] := by
    rw [← List.length_pos_iff] at some ⊢
    omega
  have count := count_joined sep some
  have count' := count_joined sep some'
  rw [separate_iff_sum] at h ⊢
  rw [same] at count'
  omega

theorem Separate.unique (h : Separate sep fields) (some : fields ≠ []) (length : fields'.length = fields.length)
    (same : [sep].intercalate fields' = [sep].intercalate fields) : fields' = fields := by
  have h' := h.of_joined some length same
  have some' : fields' ≠ [] := by
    rw [← List.length_pos_iff] at some ⊢
    omega
  rw [← List.splitOn_intercalate sep h some, ← List.splitOn_intercalate sep h' some', same]

end

/-- A separator inside one of two neighbours: the boundary between them can be elsewhere. -/
theorem exists_neighbours (inside : sep ∈ a ∨ sep ∈ b) :
    ∃ a' b', (a', b') ≠ (a, b) ∧ ∀ before after,
      [sep].intercalate (before ++ a' :: b' :: after) = [sep].intercalate (before ++ a :: b :: after) := by
  rcases inside with left | right
  · obtain ⟨x, y, rfl⟩ := List.append_of_mem left
    refine ⟨x, y ++ sep :: b, fun same => ?_, fun before after => (joined_shift sep before x y b after).symm⟩
    have lengths := congrArg (fun p : List α × List α => p.1.length) same
    simp at lengths
  · obtain ⟨x, y, rfl⟩ := List.append_of_mem right
    refine ⟨a ++ sep :: x, y, fun same => ?_, fun before after => joined_shift sep before a x y after⟩
    have lengths := congrArg (fun p : List α × List α => p.1.length) same
    simp at lengths

/-- Of at least two fields, one that contains the separator has a neighbour. -/
theorem exists_joined (two : 2 ≤ fields.length) (h : ¬ Separate sep fields) :
    ∃ fields', fields'.length = fields.length ∧ fields' ≠ fields ∧
      [sep].intercalate fields' = [sep].intercalate fields := by
  induction fields with
  | nil => simp at two
  | cons a fields ih =>
    cases fields with
    | nil => simp at two
    | cons b after =>
      by_cases inside : sep ∈ a ∨ sep ∈ b
      · obtain ⟨a', b', other, same⟩ := exists_neighbours inside
        refine ⟨a' :: b' :: after, rfl, fun eq => other ?_, same [] after⟩
        obtain ⟨rfl, rest⟩ := List.cons_eq_cons.1 eq
        obtain ⟨rfl, -⟩ := List.cons_eq_cons.1 rest
        rfl
      · obtain ⟨not_a, not_b⟩ := not_or.1 inside
        have rest : ¬ Separate sep (b :: after) := fun free => h (separate_cons.2 ⟨not_a, free⟩)
        cases after with
        | nil =>
          exact absurd (separate_cons.2 ⟨not_b, List.forall_mem_nil _⟩) rest
        | cons c after =>
          obtain ⟨others, length, other, same⟩ := ih (by simp) rest
          have some : others ≠ [] := List.length_pos_iff.1 (by rw [length]; simp)
          refine ⟨a :: others, by rw [List.length_cons, List.length_cons, length], fun eq => other ?_, ?_⟩
          · exact (List.cons_eq_cons.1 eq).2
          · rw [joined_cons sep a some, joined_cons sep a (List.cons_ne_nil b _), same]

/-- **When a joined list tells its fields**: if none of them contains the separator. -/
theorem joined_unique_iff [DecidableEq α] (two : 2 ≤ fields.length) :
    (∀ fields', fields'.length = fields.length → [sep].intercalate fields' = [sep].intercalate fields → fields' = fields) ↔
      Separate sep fields := by
  constructor
  · intro unique
    by_contra inside
    obtain ⟨fields', length, other, same⟩ := exists_joined two inside
    exact other (unique fields' length same)
  · intro free fields' length same
    exact free.unique (List.length_pos_iff.1 (by omega)) length same

end Sys
