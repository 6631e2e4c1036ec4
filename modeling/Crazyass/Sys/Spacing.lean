import Mathlib.Tactic

/-!
# Times that keep a distance

How many times, each at least `m` after the ones before it, fit in a window.
-/

namespace Sys

variable {times : List ℕ} {m lo hi : ℕ}

/-- Each time waits for `m` after every earlier one. -/
def Apart (m : ℕ) (times : List ℕ) : Prop := times.Pairwise fun x y => x + m ≤ y

/-- The times after the first one take `m` each. -/
theorem Apart.span (apart : Apart m times) (first : ∀ x ∈ times, lo ≤ x) (last : ∀ x ∈ times, x ≤ hi) :
    (times.length - 1) * m ≤ hi - lo := by
  induction times generalizing lo with
  | nil => simp
  | cons x times ih =>
    obtain ⟨later, rest⟩ := List.pairwise_cons.1 apart
    have start : lo ≤ x := first x List.mem_cons_self
    have within : ∀ y ∈ times, y ≤ hi := fun y mem => last y (List.mem_cons_of_mem x mem)
    have span := ih rest later within
    rw [List.length_cons, Nat.add_sub_cancel]
    cases times with
    | nil => simp
    | cons y times =>
      have next : x + m ≤ y := later y List.mem_cons_self
      have end_ : y ≤ hi := within y List.mem_cons_self
      rw [List.length_cons, Nat.add_sub_cancel] at span
      rw [List.length_cons, Nat.succ_mul]
      omega

/-- **How many fit** in a window. -/
theorem Apart.length_le (apart : Apart m times) (gap : 0 < m) (window : ∀ x ∈ times, lo ≤ x ∧ x ≤ hi) :
    times.length ≤ (hi - lo) / m + 1 := by
  have span := apart.span (fun x mem => (window x mem).1) fun x mem => (window x mem).2
  have fits := (Nat.le_div_iff_mul_le gap).2 span
  omega

end Sys
