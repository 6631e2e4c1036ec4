import Mathlib.Logic.Function.Basic
import Mathlib.Tactic.Common

/-!
# An index of a set by a key

A partial map from keys that finds exactly the elements of a set: no two of them
share a key, and a key that none of them has finds nothing.
-/

namespace Sys

variable {κ ι : Type*} {tab : κ → Option ι} {key : ι → κ} {S S' : ι → Prop} {x y : ι} {k : κ}

/-- `tab` finds the elements of `S`, each under its key. -/
def Indexes (tab : κ → Option ι) (key : ι → κ) (S : ι → Prop) : Prop := ∀ k x, tab k = some x ↔ S x ∧ key x = k

theorem Indexes.empty : Indexes (fun _ => none) key fun _ => False := fun k x => by simp

theorem Indexes.congr (h : Indexes tab key S) (same : ∀ x, S x ↔ S' x) : Indexes tab key S' :=
  fun k x => by rw [h k x, same]

theorem Indexes.find_iff (h : Indexes tab key S) : tab (key x) = some x ↔ S x :=
  (h (key x) x).trans (and_iff_left rfl)

theorem Indexes.unique (h : Indexes tab key S) (hx : S x) (hy : S y) (same : key y = key x) : y = x := by
  have at_x := h.find_iff.2 hx
  have at_y := h.find_iff.2 hy
  rw [same, at_x] at at_y
  exact (Option.some.inj at_y).symm

theorem Indexes.none_iff (h : Indexes tab key S) : tab k = none ↔ ∀ x, S x → key x ≠ k := by
  rw [Option.eq_none_iff_forall_ne_some]
  exact forall_congr' fun x => (not_congr (h k x)).trans not_and

variable [DecidableEq κ]

/-- A new element under a key that nothing else has. -/
theorem Indexes.add (h : Indexes tab key S) (x : ι) (alone : ∀ y, S y → key y = key x → y = x) :
    Indexes (Function.update tab (key x) (some x)) key fun y => y = x ∨ S y := by
  intro k y
  by_cases here : k = key x
  · subst here
    rw [Function.update_self]
    constructor
    · rintro found
      obtain rfl := Option.some.inj found
      exact ⟨.inl rfl, rfl⟩
    · rintro ⟨rfl | hy, same⟩
      · rfl
      · rw [alone y hy same]
  · rw [Function.update_of_ne here, h k y]
    constructor
    · rintro ⟨hy, same⟩
      exact ⟨.inr hy, same⟩
    · rintro ⟨rfl | hy, same⟩
      · exact absurd same.symm here
      · exact ⟨hy, same⟩

theorem Indexes.remove (h : Indexes tab key S) (hx : S x) :
    Indexes (Function.update tab (key x) none) key fun y => y ≠ x ∧ S y := by
  intro k y
  by_cases here : k = key x
  · subst here
    rw [Function.update_self]
    refine iff_of_false (fun found => by cases found) ?_
    rintro ⟨⟨other, hy⟩, same⟩
    exact other (h.unique hx hy same)
  · rw [Function.update_of_ne here, h k y]
    constructor
    · rintro ⟨hy, same⟩
      refine ⟨⟨?_, hy⟩, same⟩
      rintro rfl
      exact here same.symm
    · rintro ⟨⟨-, hy⟩, same⟩
      exact ⟨hy, same⟩

end Sys
