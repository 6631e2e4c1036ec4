import Mathlib.Data.List.Perm.Basic
import Mathlib.Data.List.GetD
import Mathlib.Data.List.Nodup
import Mathlib.Tactic

/-!
# Arrangements

Two orders of the same things. Where they differ they differ in two places at
least, and sending what stands at each place of the one to where its counterpart
in the other is seated seats everything again.
-/

namespace Sys

variable {α β : Type*}

section
variable [DecidableEq α] {l l' : List α}

/-- The pairs of counterparts that differ. -/
def changed (l l' : List α) : List (α × α) := (l.zip l').filter fun p => p.1 ≠ p.2

theorem changed_cons_same (a : α) (l l' : List α) : changed (a :: l) (a :: l') = changed l l' := by
  simp [changed]

theorem changed_cons {a b : α} (other : a ≠ b) (l l' : List α) : changed (a :: l) (b :: l') = (a, b) :: changed l l' := by
  simp [changed, other]

theorem changed_eq_nil (length : l.length = l'.length) (same : changed l l' = []) : l = l' := by
  induction l generalizing l' with
  | nil => exact (List.length_eq_zero_iff.1 length.symm).symm
  | cons a l ih =>
    cases l' with
    | nil => cases length
    | cons b l' =>
      by_cases equal : a = b
      · subst equal
        rw [changed_cons_same] at same
        rw [ih (Nat.succ.inj length) same]
      · rw [changed_cons equal] at same
        cases same

/-- **Two orders differ in no place or in two.** -/
theorem two_changed (perm : l.Perm l') (differ : l ≠ l') : 2 ≤ (changed l l').length := by
  induction l generalizing l' with
  | nil => exact absurd (List.nil_perm.1 perm).symm differ
  | cons a l ih =>
    cases l' with
    | nil => cases List.perm_nil.1 perm
    | cons b l' =>
      by_cases equal : a = b
      · subst equal
        rw [changed_cons_same]
        exact ih perm.cons_inv fun same => differ (by rw [same])
      · rw [changed_cons equal, List.length_cons]
        have length : l.length = l'.length := Nat.succ.inj perm.length_eq
        have some : changed l l' ≠ [] := by
          intro none_changed
          -- one place alone would hold two different things
          rw [changed_eq_nil length none_changed] at perm
          have single : [a].Perm [b] := (List.perm_append_right_iff l').1 perm
          exact equal (List.singleton_perm_singleton.1 single)
        have positive := List.length_pos_iff.2 some
        omega

/-- Where the things of `l` go when each takes the seat of its counterpart in `l'`. -/
def reseated (l l' : List α) (seat : α → β) (a : α) : β := seat (l'.getD (l.idxOf a) a)

variable {seat : α → β}

theorem map_reseated (nodup : l.Nodup) (length : l.length = l'.length) : l.map (reseated l l' seat) = l'.map seat := by
  apply List.ext_getElem (by simpa using length)
  intro i hi hi'
  rw [List.length_map] at hi hi'
  rw [List.getElem_map, List.getElem_map, reseated, nodup.idxOf_getElem i hi, List.getD_eq_getElem l' l[i] hi']

/-- The seats are taken again, each once. -/
theorem reseated_perm (nodup : l.Nodup) (perm : l.Perm l') : (l.map (reseated l l' seat)).Perm (l.map seat) := by
  rw [map_reseated nodup perm.length_eq]
  exact perm.symm.map seat

theorem reseated_of_mem_zip (nodup : l.Nodup) (length : l.length = l'.length) {p : α × α} (mem : p ∈ l.zip l') :
    reseated l l' seat p.1 = seat p.2 := by
  obtain ⟨i, hi, rfl⟩ := List.getElem_of_mem mem
  rw [List.length_zip] at hi
  rw [List.getElem_zip, reseated, nodup.idxOf_getElem i (by omega), List.getD_eq_getElem l' _ (by omega)]

end
end Sys
