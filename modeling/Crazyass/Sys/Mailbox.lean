import Mathlib.Data.List.Basic
import Mathlib.Tactic.Common

/-!
# One cell behind a queue of pointers

A producer writes each value into the one cell and queues a pointer to it; the
consumer takes pointers off the queue and reads the cell. What the consumer
sees is what was written as long as no value that is still pending is
overwritten by a different one.
-/

namespace Sys

/-- The cell, how many pointers to it are pending, the values written and the
values read through a pointer. -/
structure Mailbox (μ : Type*) where
  cell : μ
  pending : ℕ
  received : List μ
  handed : List μ

namespace Mailbox
variable {μ : Type*} {b : Mailbox μ} {m : μ}

/-- Every pending pointer shows the value that was written for it. -/
def Faithful (b : Mailbox μ) : Prop := b.received = b.handed ++ List.replicate b.pending b.cell

/-- The producer writes a value and holds a pointer to it. -/
def write (b : Mailbox μ) (m : μ) : Mailbox μ :=
  { b with cell := m, pending := b.pending + 1, received := b.received ++ [m] }

/-- Somebody writes the cell without a pointer. -/
def overwrite (b : Mailbox μ) (m : μ) : Mailbox μ := { b with cell := m }

/-- The consumer reads through the pointer it took. -/
def hand (b : Mailbox μ) : Mailbox μ := { b with pending := b.pending - 1, handed := b.handed ++ [b.cell] }

theorem Faithful.initial (h : b.Faithful) : b.handed <+: b.received := by
  rw [h]
  exact List.prefix_append _ _

/-- With nothing on its way all that was received has been handed over. -/
theorem Faithful.all (h : b.Faithful) (idle : b.pending = 0) : b.handed = b.received := by
  rw [h, idle, List.replicate_zero, List.append_nil]

/-- The cell may be overwritten when nothing is on its way. -/
theorem Faithful.overwrite (h : b.Faithful) (safe : b.pending = 0 ∨ m = b.cell) : (b.overwrite m).Faithful := by
  rcases safe with idle | same
  · have all := h.all idle
    simp [Faithful, Mailbox.overwrite, idle, all]
  · rw [same]
    exact h

/-- A message may be written when nothing is on its way. -/
theorem Faithful.write (h : b.Faithful) (safe : b.pending = 0 ∨ m = b.cell) : (b.write m).Faithful := by
  have same := h.overwrite safe
  unfold Faithful Mailbox.overwrite at same
  unfold Faithful Mailbox.write
  dsimp only at same ⊢
  rw [same, List.replicate_succ', List.append_assoc]

/-- What is handed over is what is in the cell. -/
theorem Faithful.hand (h : b.Faithful) (taken : 0 < b.pending) : b.hand.Faithful := by
  unfold Faithful Mailbox.hand
  dsimp only
  obtain ⟨n, some⟩ := Nat.exists_eq_add_of_lt taken
  rw [h, some, List.append_assoc, Nat.zero_add, Nat.add_sub_cancel, List.singleton_append, List.replicate_succ]

end Mailbox

end Sys
