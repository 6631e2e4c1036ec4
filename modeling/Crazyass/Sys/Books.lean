import Mathlib.Algebra.BigOperators.Group.Finset.Piecewise
import Mathlib.Data.Fintype.Basic
import Mathlib.Tactic.Abel

/-!
# A cell and what is owed to it

Several parties each work on a copy of one cell and write their copy back whole.
`due i` is what party `i` has done and the cell does not show yet. The balance
is what the cell would show if nothing got lost: a write keeps it exactly when
the cell then shows what it showed before together with the writer's due.
-/

namespace Sys

structure Books (ι G : Type*) where
  cell : G
  due : ι → G

namespace Books
variable {ι G : Type*}

/-- Party `i` now owes `g`. -/
def owe [DecidableEq ι] (b : Books ι G) (i : ι) (g : G) : Books ι G := { b with due := Function.update b.due i g }

/-- Party `i` writes the cell and owes `g` from then on. -/
def write [DecidableEq ι] (b : Books ι G) (i : ι) (c g : G) : Books ι G := { b.owe i g with cell := c }

variable [Fintype ι] [AddCommGroup G]

def balance (b : Books ι G) : G := b.cell + ∑ i, b.due i

theorem balance_settled {b : Books ι G} (h : ∀ i, b.due i = 0) : b.balance = b.cell := by
  unfold balance
  rw [Finset.sum_eq_zero fun i _ => h i, add_zero]

variable [DecidableEq ι] (b : Books ι G) (i : ι) (c g : G)

theorem sum_update (f : ι → G) : ∑ j, Function.update f i g j = ∑ j, f j + (g - f i) := by
  have new := Finset.sum_update_of_mem (Finset.mem_univ i) f g
  have old := Finset.sum_update_of_mem (Finset.mem_univ i) f (f i)
  rw [Function.update_eq_self] at old
  rw [new, old]
  abel

theorem balance_owe : (b.owe i g).balance = b.balance + (g - b.due i) := by
  unfold balance owe
  dsimp only
  rw [sum_update]
  abel

/-- One party takes over `g` of what another owes. -/
theorem balance_hand {i j : ι} (other : j ≠ i) : ((b.owe i (b.due i + g)).owe j (b.due j - g)).balance = b.balance := by
  have due : (b.owe i (b.due i + g)).due j = b.due j := Function.update_of_ne other ..
  rw [balance_owe, balance_owe, due]
  abel

theorem balance_write : (b.write i c g).balance = b.balance + ((c + g) - (b.cell + b.due i)) := by
  have owed := b.balance_owe i g
  unfold balance at owed ⊢
  unfold write
  dsimp only [owe] at owed ⊢
  have sum := add_left_cancel (owed.trans (add_assoc _ _ _))
  rw [sum]
  abel

end Books

end Sys
