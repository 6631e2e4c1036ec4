import Mathlib.Logic.Function.Basic
import Mathlib.Tactic.Common

/-!
# Bounded channels

A queue of bounded length and those that are about to send to it. A send blocks
when the queue is full. Offering a value blocks its sender exactly when the
queue is full already; a send that goes through blocks the others when it takes
the last place.
-/

namespace Sys

structure Channel (γ : Type*) where
  capacity : ℕ
  length : ℕ
  sending : γ → Prop

namespace Channel
variable {γ : Type*} {c : Channel γ} {i j : γ}

/-- Somebody cannot go on. -/
def Blocked (c : Channel γ) : Prop := c.capacity ≤ c.length ∧ ∃ j, c.sending j

variable [DecidableEq γ]

/-- `j` comes to its send. -/
def offer (c : Channel γ) (j : γ) : Channel γ := { c with sending := Function.update c.sending j True }

/-- The send of `j` goes through. -/
def accept (c : Channel γ) (j : γ) : Channel γ :=
  { c with length := c.length + 1, sending := Function.update c.sending j False }

theorem offer_blocked : (c.offer j).Blocked ↔ c.capacity ≤ c.length := by
  refine ⟨And.left, fun full => ⟨full, j, ?_⟩⟩
  simp [offer]

theorem accept_sending : (c.accept j).sending i ↔ i ≠ j ∧ c.sending i := by
  unfold accept
  by_cases same : i = j
  · subst same
    simp
  · simp [same]

theorem accept_blocked : (c.accept j).Blocked ↔ c.capacity ≤ c.length + 1 ∧ ∃ i, i ≠ j ∧ c.sending i := by
  unfold Blocked
  rw [show (c.accept j).capacity = c.capacity from rfl, show (c.accept j).length = c.length + 1 from rfl]
  exact and_congr_right fun _ => exists_congr fun i => accept_sending

/-- A lone sender leaves nobody behind. -/
theorem not_accept_blocked [Subsingleton γ] : ¬ (c.accept j).Blocked := by
  rw [accept_blocked]
  rintro ⟨-, i, other, -⟩
  exact other (Subsingleton.elim i j)

end Channel

end Sys
